import Forwarding.Toml.Lexeme

/-! Integers and floating point numbers of a TOML document. -/
namespace Forwarding.Toml

/-- The digits behind a digit, where single underscores may stand between digits, and the rest. -/
def moreDigits (isDigit : Char → Bool) : Text → Text × Text
  | '_' :: d :: rest =>
    if isDigit d then
      let (digits, rest) := moreDigits isDigit rest
      (d :: digits, rest)
    else ([], '_' :: d :: rest)
  | d :: rest =>
    if isDigit d then
      let (digits, rest) := moreDigits isDigit rest
      (d :: digits, rest)
    else ([], d :: rest)
  | [] => ([], [])

/-- A row of digits that begins with one, without its underscores. -/
def digitRow? (isDigit : Char → Bool) : Text → Option (Text × Text)
  | d :: rest =>
    if isDigit d then
      let (digits, rest) := moreDigits isDigit rest
      some (d :: digits, rest)
    else none
  | [] => none

def baseOf? : Char → Option Nat
  | 'x' => some 16
  | 'o' => some 8
  | 'b' => some 2
  | _ => none

def isDigitOf (base : Nat) (c : Char) : Bool := (Text.digit? base c).isSome

def basedInteger? : Text → Option (Value × Text)
  | '0' :: letter :: rest => do
    let base ← baseOf? letter
    let (digits, rest) ← digitRow? (isDigitOf base) rest
    return (.integer (Int.ofNat ((Text.number? base digits).getD 0)), rest)
  | _ => none

/-- A sign, if there is one; `true` is minus. -/
def sign : Text → Bool × Text
  | '-' :: rest => (true, rest)
  | '+' :: rest => (false, rest)
  | t => (false, t)

/-- The digits before the point: a zero alone, or a row that does not begin with zero. -/
def wholePart? : Text → Option (Text × Text)
  | '0' :: rest => some (['0'], rest)
  | t => digitRow? Char.isDigit t

def fractionPart : Text → Text × Text
  | '.' :: rest => (digitRow? Char.isDigit rest).getD ([], '.' :: rest)
  | t => ([], t)

def exponentPart (t : Text) : Option Int × Text :=
  match t with
  | c :: rest =>
    if c = 'e' ∨ c = 'E' then
      let (negative, digits) := sign rest
      match digitRow? Char.isDigit digits with
      | some (digits, rest) =>
        let n := Int.ofNat ((Text.number? 10 digits).getD 0)
        (some (if negative then -n else n), rest)
      | none => (none, t)
    else (none, t)
  | [] => (none, t)

/-- A number in decimal. It is an integer when it has neither fraction nor exponent. -/
def decimalNumber? (t : Text) : Option (Read (Value × Text)) := do
  let (negative, unsigned) := sign t
  let (whole, rest) ← wholePart? unsigned
  let (fraction, rest) := fractionPart rest
  let (exponent, rest) := exponentPart rest
  if fraction = [] ∧ exponent = none then
    if Text.digitLimit < whole.length then return .error (.tooManyDigits whole.length)
    else
      let n := Int.ofNat ((Text.number? 10 whole).getD 0)
      return .ok (.integer (if negative then -n else n), rest)
  else
    let digits := (Text.number? 10 (whole ++ fraction)).getD 0
    let x := Binary64.ofDecimal negative digits (exponent.getD 0 - fraction.length)
    return .ok (.float x, rest)

def specialNumber? (t : Text) : Option (Value × Text) :=
  let (negative, unsigned) := sign t
  match unsigned with
  | 'i' :: 'n' :: 'f' :: rest => some (.float (.infinite negative), rest)
  | 'n' :: 'a' :: 'n' :: rest => some (.float .nan, rest)
  | _ => none

def number? (t : Text) : Option (Read (Value × Text)) :=
  match basedInteger? t with
  | some read => some (.ok read)
  | none =>
    match decimalNumber? t with
    | some read => some read
    | none => (specialNumber? t).map .ok

end Forwarding.Toml
