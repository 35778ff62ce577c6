import Forwarding.Text.DigitTable
import Forwarding.Text.Quoted

/-! Options of a command, and how each argument reads before any is consumed. -/
namespace Forwarding.CommandLine

structure OptionSpec (κ : Type) where
  key : κ
  spellings : List Text
  takesArgument : Bool

inductive UsageError where
  | ambiguous (argument : Text) (fitting : List Text)
  | missingArgument (option : Text)
  | ignoredArgument (option argument : Text)
  | unknownCommand (word : Text) (known : List Text)
  | missingOperands (name : Text)
  | unrecognized (arguments : List Text)
  deriving DecidableEq

namespace UsageError

def message : UsageError → Text
  | .ambiguous argument fitting =>
    "ambiguous option: " ++ argument ++ " could match " ++ [',', ' '].intercalate fitting
  | .missingArgument option => "argument " ++ option ++ ": expected one argument"
  | .ignoredArgument option argument =>
    "argument " ++ option ++ ": ignored explicit argument " ++ Text.quoted argument
  | .unknownCommand word known =>
    "argument command: invalid choice: " ++ Text.quoted word ++ " (choose from "
      ++ [',', ' '].intercalate (known.map Text.quoted) ++ ")"
  | .missingOperands name => "the following arguments are required: " ++ name
  | .unrecognized arguments => "unrecognized arguments: " ++ [' '].intercalate arguments

end UsageError

inductive Reading (κ : Type) where
  | separator
  | plain
  | option (spec : OptionSpec κ) (spelling : Text) (attached : Option Text)
  | unknownOption

variable {κ : Type}

def OptionSpec.name (spec : OptionSpec κ) : Text := ['/'].intercalate spec.spellings

def spelled (specs : List (OptionSpec κ)) : List (Text × OptionSpec κ) :=
  specs.flatMap fun spec => spec.spellings.map fun spelling => (spelling, spec)

def withSpelling? (specs : List (OptionSpec κ)) (spelling : Text) : Option (OptionSpec κ) :=
  specs.find? fun spec => spelling ∈ spec.spellings

/-- The separator, behind which no argument is an option. -/
def separatorText : Text := ['-', '-']

/-- The options that an argument may abbreviate, with what is attached to them. A long option may
be cut short in front of an equals sign; a short one may have its argument directly behind it. -/
def abbreviated (specs : List (OptionSpec κ)) (argument : Text) :
    List (Text × OptionSpec κ × Option Text) :=
  if separatorText.isPrefixOf argument then
    let (stem, attached) := match Text.cut? '=' argument with
      | some (stem, attached) => (stem, some attached)
      | none => (argument, none)
    (spelled specs).filterMap fun (spelling, spec) =>
      if stem.isPrefixOf spelling then some (spelling, spec, attached) else none
  else
    (spelled specs).filterMap fun (spelling, spec) =>
      if spelling = argument.take 2 then some (spelling, spec, some (argument.drop 2))
      else if argument.isPrefixOf spelling then some (spelling, spec, none)
      else none

def assigned? (specs : List (OptionSpec κ)) (argument : Text) : Option (Reading κ) := do
  let (spelling, attached) ← Text.cut? '=' argument
  let spec ← withSpelling? specs spelling
  return .option spec spelling (some attached)

def isDigits (t : Text) : Bool := t ≠ [] && t.all Text.isScriptDigit

/-- A negative number: digits, perhaps with a point, behind a minus sign. A line feed may follow. -/
def isNegativeNumber (t : Text) : Bool :=
  match (if t.getLast? = some '\n' then t.dropLast else t) with
  | '-' :: digits =>
    isDigits digits ||
      match Text.cut? '.' digits with
      | some (whole, fraction) => whole.all Text.isScriptDigit && isDigits fraction
      | none => false
  | _ => false

def readArgument (specs : List (OptionSpec κ)) (argument : Text) :
    Except UsageError (Reading κ) :=
  match argument with
  | '-' :: _ :: _ =>
    match withSpelling? specs argument with
    | some spec => .ok (.option spec argument none)
    | none =>
      match assigned? specs argument with
      | some reading => .ok reading
      | none =>
        match abbreviated specs argument with
        | [] => .ok (if isNegativeNumber argument || ' ' ∈ argument then .plain else .unknownOption)
        | [(spelling, spec, attached)] => .ok (.option spec spelling attached)
        | fitting => .error (.ambiguous argument (fitting.map (·.1)))
  | _ => .ok .plain

/-- Arguments, each with its reading. Behind the separator all are plain. -/
def readArguments (specs : List (OptionSpec κ)) :
    List Text → Except UsageError (List (Text × Reading κ))
  | [] => .ok []
  | argument :: rest =>
    if argument = separatorText then
      .ok ((argument, .separator) :: rest.map fun argument => (argument, .plain))
    else do
      let reading ← readArgument specs argument
      return (argument, reading) :: (← readArguments specs rest)

end Forwarding.CommandLine
