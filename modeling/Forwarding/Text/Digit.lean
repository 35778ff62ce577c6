import Forwarding.Text.Basic

/-! Digits of a base, and the number that a row of them spells. -/
namespace Forwarding.Text

/-- The value of a character as a digit in bases up to sixteen; letters count in either case. -/
def digitValue? (c : Char) : Option Nat :=
  if '0' ≤ c ∧ c ≤ '9' then some (c.toNat - '0'.toNat)
  else if 'a' ≤ c ∧ c ≤ 'f' then some (c.toNat - 'a'.toNat + 10)
  else if 'A' ≤ c ∧ c ≤ 'F' then some (c.toNat - 'A'.toNat + 10)
  else none

def digit? (base : Nat) (c : Char) : Option Nat :=
  (digitValue? c).filter (· < base)

def addDigit? (base : Nat) (n : Nat) (c : Char) : Option Nat :=
  (digit? base c).map (base * n + ·)

def number? (base : Nat) (t : Text) : Option Nat :=
  t.foldlM (addDigit? base) 0

def numeral? (base : Nat) (t : Text) : Option Nat :=
  if t = [] then none else number? base t

/-- The most decimal digits that a written number may have. -/
def digitLimit : Nat := 4300

def ofNat (base : Nat) (n : Nat) : Text :=
  Nat.toDigits base n

abbrev decimal (n : Nat) : Text := ofNat 10 n

def ofNatPadded (base width : Nat) (n : Nat) : Text :=
  let digits := ofNat base n
  List.replicate (width - digits.length) '0' ++ digits

end Forwarding.Text
