import Forwarding.Decimal.Binary64

/-!
The shortest decimal that reads back as a given binary number, and its layout. The numbers that
round to a binary number form an interval, whose ends belong to it when the mantissa is even.
-/
namespace Forwarding.Binary64

structure Decimal where
  digits : Nat
  exponent : Int
  deriving DecidableEq

/-- The decimals on one grid are compared with a value after both are scaled to integers: the
value, the ends of its interval, and the step of the grid. -/
structure Scaled where
  value : Nat
  low : Nat
  high : Nat
  step : Nat
  closed : Bool

def scale (mantissa : Nat) (exponent grid : Int) : Scaled :=
  let quarter := exponent - 2
  let binary := Nat.pow 10 (-grid).toNat <<< quarter.toNat
  let step := Nat.pow 10 grid.toNat <<< (-quarter).toNat
  let below := if mantissa = leastFullMantissa ∧ leastExponent < exponent then 1 else 2
  { value := 4 * mantissa * binary
    low := (4 * mantissa - below) * binary
    high := (4 * mantissa + 2) * binary
    step := step
    closed := mantissa % 2 = 0 }

def Scaled.holds (s : Scaled) (n : Nat) : Bool :=
  let x := n * s.step
  if s.closed then s.low ≤ x && x ≤ s.high else s.low < x && x < s.high

/-- The nearest multiple of the step inside the interval; of two that are equally near, the even
one. -/
def Scaled.nearest? (s : Scaled) : Option Nat :=
  let floor := s.value / s.step
  let nearest := roundDiv s.value s.step
  if s.holds nearest then some nearest
  else if s.holds floor then some floor
  else if s.holds (floor + 1) then some (floor + 1)
  else none

/-- The least power of ten above the value. -/
def magnitude (mantissa : Nat) (exponent : Int) : Int :=
  let isAbove (p : Int) : Bool :=
    let s := scale mantissa exponent p
    s.value < s.step
  (((List.range 640).map fun i => Int.ofNat i - 325).find? isAbove).getD 310

/-- The decimal with the fewest digits that reads back, and of those the nearest. -/
def shortest (mantissa : Nat) (exponent : Int) : Decimal :=
  let top := magnitude mantissa exponent
  let grids := (List.range 17).map fun i => top - 1 - Int.ofNat i
  match grids.findSome? fun grid =>
      (scale mantissa exponent grid).nearest?.map fun n => (⟨n, grid⟩ : Decimal) with
  | some d => d
  | none => ⟨0, 0⟩

/-- Digits without the zeros at their end. -/
def significant (digits : Nat) : Text :=
  ((Text.decimal digits).reverse.dropWhile (· = '0')).reverse

/-- Lays digits out with the point after the first `point` of them. Numbers from `10 ^ -4` and below
`10 ^ 16` are positional, with at least one digit after the point. -/
def layout (digits : Text) (point : Int) : Text :=
  let zeros (n : Int) : Text := List.replicate n.toNat '0'
  if -4 < point ∧ point ≤ 16 then
    if point ≤ 0 then "0." ++ zeros (-point) ++ digits
    else if digits.length ≤ point then digits ++ zeros (point - digits.length) ++ ".0"
    else digits.take point.toNat ++ '.' :: digits.drop point.toNat
  else
    let power := point - 1
    let fraction : Text := if digits.length ≤ 1 then [] else '.' :: digits.drop 1
    digits.take 1 ++ fraction ++ (if power < 0 then "e-" else "e+")
      ++ Text.ofNatPadded 10 2 power.natAbs

def render : Binary64 → Text
  | .nan => "nan"
  | .infinite negative => if negative then "-inf" else "inf"
  | .finite negative mantissa exponent =>
    let magnitude : Text :=
      if mantissa = 0 then "0.0"
      else
        let d := shortest mantissa exponent
        let count := (Text.decimal d.digits).length
        layout (significant d.digits) (count + d.exponent)
    if negative then '-' :: magnitude else magnitude

end Forwarding.Binary64
