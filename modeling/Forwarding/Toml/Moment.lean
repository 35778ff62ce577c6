import Forwarding.Toml.Lexeme

/-! Days, times of day and points in time of a TOML document. -/
namespace Forwarding.Toml

def fixedNumber? (count low high : Nat) (t : Text) : Option (Nat × Text) :=
  let digits := t.take count
  if digits.length = count then
    ((Text.number? 10 digits).filter fun n => low ≤ n ∧ n ≤ high).map fun n => (n, t.drop count)
  else none

def after? (c : Char) : Text → Option Text
  | d :: rest => if d = c then some rest else none
  | [] => none

/-- A day by its numbers; whether the calendar has it is not looked at. -/
def dayNumbers? (t : Text) : Option (Date × Text) := do
  let (year, rest) ← fixedNumber? 4 0 9999 t
  let (month, rest) ← fixedNumber? 2 1 12 (← after? '-' rest)
  let (day, rest) ← fixedNumber? 2 1 31 (← after? '-' rest)
  return (⟨year, month, day⟩, rest)

/-- The fraction of a second in microseconds; further digits are dropped. -/
def microseconds (t : Text) : Nat × Text :=
  match t with
  | '.' :: rest =>
    let digits := rest.takeWhile Char.isDigit
    if digits = [] then (0, t)
    else
      let six := (digits ++ List.replicate 6 '0').take 6
      ((Text.number? 10 six).getD 0, rest.dropWhile Char.isDigit)
  | _ => (0, t)

def timeOfDay? (t : Text) : Option (Time × Text) := do
  let (hour, rest) ← fixedNumber? 2 0 23 t
  let (minute, rest) ← fixedNumber? 2 0 59 (← after? ':' rest)
  let (second, rest) ← fixedNumber? 2 0 59 (← after? ':' rest)
  let (microsecond, rest) := microseconds rest
  return (⟨hour, minute, second, microsecond⟩, rest)

def hoursAndMinutes? (t : Text) : Option (Int × Text) := do
  let (hours, rest) ← fixedNumber? 2 0 23 t
  let (minutes, rest) ← fixedNumber? 2 0 59 (← after? ':' rest)
  return (Int.ofNat (60 * hours + minutes), rest)

def offset (t : Text) : Option Int × Text :=
  match t with
  | 'Z' :: rest | 'z' :: rest => (some 0, rest)
  | '+' :: rest =>
    match hoursAndMinutes? rest with
    | some (minutes, rest) => (some minutes, rest)
    | none => (none, t)
  | '-' :: rest =>
    match hoursAndMinutes? rest with
    | some (minutes, rest) => (some (-minutes), rest)
    | none => (none, t)
  | _ => (none, t)

def timeBehindDay? : Text → Option (Time × Text)
  | c :: rest => if c = 'T' ∨ c = 't' ∨ c = ' ' then timeOfDay? rest else none
  | [] => none

def daysInMonth (year month : Nat) : Nat :=
  if month = 2 then
    if year % 4 = 0 ∧ (year % 100 ≠ 0 ∨ year % 400 = 0) then 29 else 28
  else if month = 4 ∨ month = 6 ∨ month = 9 ∨ month = 11 then 30
  else 31

/-- The calendar has the day; it begins with the year 1. -/
def Date.onCalendar (d : Date) : Bool := 1 ≤ d.year && d.day ≤ daysInMonth d.year d.month

def moment? (t : Text) : Option (Read (Value × Text)) :=
  match dayNumbers? t with
  | some (day, rest) =>
    if !day.onCalendar then some (.error .malformed)
    else
      match timeBehindDay? rest with
      | some (time, rest) =>
        let (offset, rest) := offset rest
        some (.ok (.moment day time offset, rest))
      | none => some (.ok (.date day, rest))
  | none => (timeOfDay? t).map fun (time, rest) => .ok (.time time, rest)

end Forwarding.Toml
