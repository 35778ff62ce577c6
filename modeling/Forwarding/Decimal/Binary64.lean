import Forwarding.Text.Digit

/-! Binary floating point numbers of 64 bits, and the one nearest to a decimal number. -/
namespace Forwarding

/-- A 64-bit binary number. A finite one is `mantissa * 2 ^ exponent` with a mantissa below `2 ^ 53`
and an exponent from -1074 on; above -1074 the mantissa has 53 bits. -/
inductive Binary64 where
  | nan
  | infinite (negative : Bool)
  | finite (negative : Bool) (mantissa : Nat) (exponent : Int)
  deriving DecidableEq

namespace Binary64

def mantissaLimit : Nat := 1 <<< 53

def leastFullMantissa : Nat := 1 <<< 52

def leastExponent : Int := -1074

def greatestExponent : Int := 971

/-- A quotient rounded to the nearest integer; a half goes to the even neighbour. -/
def roundDiv (num den : Nat) : Nat :=
  let floor := num / den
  let twice := 2 * (num % den)
  if den < twice ∨ (twice = den ∧ floor % 2 = 1) then floor + 1 else floor

/-- Numerator and denominator of a quotient divided by a power of two. -/
def unscale (num den : Nat) (exponent : Int) : Nat × Nat :=
  if 0 ≤ exponent then (num, den <<< exponent.toNat) else (num <<< (-exponent).toNat, den)

/-- The number nearest to a positive quotient. -/
def ofQuotient (negative : Bool) (num den : Nat) : Binary64 :=
  let estimate := max leastExponent ((Nat.log2 num : Int) - Nat.log2 den - 53)
  let coarse := unscale num den estimate
  let exponent := if mantissaLimit ≤ coarse.1 / coarse.2 then estimate + 1 else estimate
  let fine := unscale num den exponent
  let mantissa := roundDiv fine.1 fine.2
  let (mantissa, exponent) :=
    if mantissa = mantissaLimit then (leastFullMantissa, exponent + 1) else (mantissa, exponent)
  if greatestExponent < exponent then .infinite negative else .finite negative mantissa exponent

/-- The number nearest to `digits * 10 ^ exponent`. Decimals that are far too large or too small
are settled by their count of digits. -/
def ofDecimal (negative : Bool) (digits : Nat) (exponent : Int) : Binary64 :=
  let magnitude := ((Text.decimal digits).length : Int) + exponent
  if digits = 0 ∨ magnitude < -330 then .finite negative 0 leastExponent
  else if 310 < magnitude then .infinite negative
  else if 0 ≤ exponent then ofQuotient negative (digits * Nat.pow 10 exponent.toNat) 1
  else ofQuotient negative digits (Nat.pow 10 (-exponent).toNat)

end Binary64
end Forwarding
