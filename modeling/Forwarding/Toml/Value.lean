import Forwarding.Decimal.Shortest
import Forwarding.Text.Quoted

/-! The values of a TOML document, and their display in messages. -/
namespace Forwarding.Toml

structure Date where
  year : Nat
  month : Nat
  day : Nat
  deriving DecidableEq

structure Time where
  hour : Nat
  minute : Nat
  second : Nat
  microsecond : Nat
  deriving DecidableEq

/-- A value. The offset of a point in time is in minutes east of Greenwich; the keys of a table
keep the order in which they were given. -/
inductive Value where
  | text (t : Text)
  | integer (n : Int)
  | float (x : Binary64)
  | boolean (b : Bool)
  | date (d : Date)
  | time (t : Time)
  | moment (d : Date) (t : Time) (offset : Option Int)
  | array (items : List Value)
  | table (entries : List (Text × Value))

abbrev Entries := List (Text × Value)

def displayNumbers (ns : List Nat) : Text := [',', ' '].intercalate (ns.map Text.decimal)

/-- A point in time has at least hour and minute; what is zero at the end is left out. -/
def Time.numbers (t : Time) : List Nat :=
  if t.microsecond ≠ 0 then [t.hour, t.minute, t.second, t.microsecond]
  else if t.second ≠ 0 then [t.hour, t.minute, t.second]
  else [t.hour, t.minute]

def Date.numbers (d : Date) : List Nat := [d.year, d.month, d.day]

/-- An offset, as a count of seconds; one to the west is a day less and then seconds. -/
def displayOffset (minutes : Int) : Text :=
  if minutes = 0 then "datetime.timezone.utc"
  else
    let days : Text := if minutes < 0 then "days=-1, " else []
    let seconds := (60 * minutes).emod 86400
    "datetime.timezone(datetime.timedelta(" ++ days ++ "seconds=" ++ Text.decimal seconds.toNat
      ++ "))"

def displayInteger? (n : Int) : Option Text :=
  let digits := Text.decimal n.natAbs
  if Text.digitLimit < digits.length then none
  else some (if n < 0 then '-' :: digits else digits)

mutual

/-- A value in a message; none when it holds an integer with too many digits. -/
def Value.display? : Value → Option Text
  | .text t => some (Text.quoted t)
  | .integer n => displayInteger? n
  | .float x => some x.render
  | .boolean b => some (if b then "True" else "False")
  | .date d => some ("datetime.date(" ++ displayNumbers d.numbers ++ ")")
  | .time t => some ("datetime.time(" ++ displayNumbers t.numbers ++ ")")
  | .moment d t offset =>
    let zone : Text := match offset with
      | none => []
      | some minutes => ", tzinfo=" ++ displayOffset minutes
    some ("datetime.datetime(" ++ displayNumbers (d.numbers ++ t.numbers) ++ zone ++ ")")
  | .array items => (displayItems? items).map fun shown => '[' :: shown ++ [']']
  | .table entries => (displayEntries? entries).map fun shown => '\x7b' :: shown ++ ['\x7d']

def displayItems? : List Value → Option Text
  | [] => some []
  | [v] => v.display?
  | v :: rest => do return (← v.display?) ++ ", " ++ (← displayItems? rest)

def displayEntries? : List (Text × Value) → Option Text
  | [] => some []
  | [(key, v)] => do return Text.quoted key ++ ": " ++ (← v.display?)
  | (key, v) :: rest => do
    return Text.quoted key ++ ": " ++ (← v.display?) ++ ", " ++ (← displayEntries? rest)

end

end Forwarding.Toml
