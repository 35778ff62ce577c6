import Forwarding.CommandLine.Option

/-! What the arguments of a command set, in the order in which it takes effect. -/
namespace Forwarding.CommandLine

inductive OperandShape where
  | none
  | oneOrMore
  /-- A further command, to which all arguments behind it belong. -/
  | command
  deriving DecidableEq

/-- The argument of an option. The separator, attached to an option, leaves it without a text. -/
inductive Operand where
  | text (t : Text)
  | erased
  deriving DecidableEq

inductive Event (κ : Type) where
  | flag (key : κ)
  | argument (key : κ) (operand : Operand)
  | operands (arguments : List Text)
  | command (arguments : List Text)
  | stray (argument : Text)

/-- The effects in order, up to an error if there is one. -/
structure Trace (κ : Type) where
  events : List (Event κ)
  error : Option UsageError

variable {κ : Type}

def Trace.after (events : List (Event κ)) (t : Trace κ) : Trace κ :=
  ⟨events ++ t.events, t.error⟩

def Trace.fail (error : UsageError) : Trace κ := ⟨[], some error⟩

def Operand.ofAttached (t : Text) : Operand := if t = separatorText then .erased else .text t

/-- The effects of an option with an attached text. Behind a short option without argument the text
is a row of further short options; the last of them may still want an argument. -/
def bundle (specs : List (OptionSpec κ)) :
    OptionSpec κ → Bool → Text → Except UsageError (List (Event κ) × Option (OptionSpec κ))
  | spec, _, [] =>
    if spec.takesArgument then .ok ([.argument spec.key (.text [])], none)
    else .error (.ignoredArgument spec.name [])
  | spec, short, c :: rest =>
    if spec.takesArgument then .ok ([.argument spec.key (.ofAttached (c :: rest))], none)
    else
      match short, withSpelling? specs ['-', c] with
      | true, some next =>
        if rest = [] then .ok ([.flag spec.key], some next)
        else do
          let (events, last) ← bundle specs next true rest
          return (.flag spec.key :: events, last)
      | _, _ => .error (.ignoredArgument spec.name (c :: rest))

def isShort (spelling : Text) : Bool := !separatorText.isPrefixOf spelling

def isLoose (argument : Text × Reading κ) : Bool :=
  match argument.2 with
  | .separator | .plain => true
  | _ => false

def isPlain (argument : Text × Reading κ) : Bool :=
  match argument.2 with
  | .plain => true
  | _ => false

def takeOption (spec : OptionSpec κ) (rest : List (Text × Reading κ)) :
    Except UsageError (Event κ × List (Text × Reading κ)) :=
  if spec.takesArgument then
    match rest with
    | (argument, .plain) :: rest => .ok (.argument spec.key (.text argument), rest)
    | _ => .error (.missingArgument spec.name)
  else .ok (.flag spec.key, rest)

/-- The effects of an option, with the arguments behind those it takes. -/
def takeReading (specs : List (OptionSpec κ)) (spec : OptionSpec κ) (spelling : Text)
    (attached : Option Text) (rest : List (Text × Reading κ)) :
    Except UsageError (List (Event κ) × List (Text × Reading κ)) := do
  match attached with
  | none =>
    let (event, rest) ← takeOption spec rest
    return ([event], rest)
  | some attached =>
    let (events, last) ← bundle specs spec (isShort spelling) attached
    match last with
    | none => return (events, rest)
    | some last =>
      let (event, rest) ← takeOption last rest
      return (events ++ [event], rest)

theorem takeOption_length {spec : OptionSpec κ} {rest : List (Text × Reading κ)}
    {r : Event κ × List (Text × Reading κ)} (h : takeOption spec rest = .ok r) :
    r.2.length ≤ rest.length := by
  unfold takeOption at h
  split at h
  · split at h
    · cases h; simp
    · cases h
  · cases h; simp

theorem takeReading_length {specs : List (OptionSpec κ)} {spec : OptionSpec κ} {spelling : Text}
    {attached : Option Text} {rest : List (Text × Reading κ)}
    {r : List (Event κ) × List (Text × Reading κ)}
    (h : takeReading specs spec spelling attached rest = .ok r) : r.2.length ≤ rest.length := by
  cases attached with
  | none =>
    simp only [takeReading, bind, Except.bind] at h
    split at h
    · cases h
    · next hstep => cases h; exact takeOption_length hstep
  | some attached =>
    simp only [takeReading, bind, Except.bind] at h
    split at h
    · cases h
    · split at h
      · cases h; simp
      · split at h
        · cases h
        · next hstep => cases h; exact takeOption_length hstep

/-- The effects of arguments. Operands are taken once, from the first row of arguments between
options that holds one; a command takes all that follows it too. -/
def consume (specs : List (OptionSpec κ)) (shape : OperandShape) :
    List (Text × Reading κ) → Trace κ
  | [] => ⟨[], none⟩
  | (argument, .unknownOption) :: rest => (consume specs shape rest).after [.stray argument]
  | (_, .option spec spelling attached) :: rest =>
    match h : takeReading specs spec spelling attached rest with
    | .error e => .fail e
    | .ok (events, after) =>
      have := takeReading_length h
      (consume specs shape after).after events
  | first :: rest =>
    let row := first :: rest.takeWhile isLoose
    have : (rest.dropWhile isLoose).length ≤ rest.length :=
      (List.dropWhile_sublist isLoose).length_le
    match shape, row.any isPlain with
    | .oneOrMore, true =>
      (consume specs .none (rest.dropWhile isLoose)).after [.operands (row.map (·.1))]
    | .command, true => ⟨[.command ((first :: rest).map (·.1))], none⟩
    | shape, _ =>
      (consume specs shape (rest.dropWhile isLoose)).after
        (row.map fun argument => .stray argument.1)
termination_by arguments => arguments.length
decreasing_by all_goals (simp only [List.length_cons] at *; omega)

def trace (specs : List (OptionSpec κ)) (shape : OperandShape) (arguments : List Text) : Trace κ :=
  match readArguments specs arguments with
  | .error e => .fail e
  | .ok readings => consume specs shape readings

end Forwarding.CommandLine
