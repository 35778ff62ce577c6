import Forwarding.Resolver.Config
import Forwarding.Resolver.Span
import Forwarding.Text.Quoted

/-! What each header of a request contributes, in the mode that applies to the request. -/
namespace Forwarding

inductive Mode where
  | custom (name : Text)
  | fixed
  deriving DecidableEq

/-- The outcome of reading one header. A nominated header has no role. -/
structure Candidate where
  header : Text
  raw : Option Text
  literal : Option Literal
  role : Option Role
  deriving DecidableEq

def Candidate.privacy? (c : Candidate) : Option Privacy := c.literal.map (·.address.privacy)

inductive LogRecord where
  /-- The headers at hand do not carry the nominated one. -/
  | notProvided (name : Text)
  | severalHeaders (tag : Text)
  | unexpected (fault : Fault)
  deriving DecidableEq

namespace LogRecord

def message : LogRecord → Text
  | .notProvided name =>
    "Custom client IP header " ++ Text.quoted name ++ " not provided by header accessor"
  | .severalHeaders tag => "Client IP found in several headers: " ++ tag
  | .unexpected _ => "Unexpected exception (bug) inferring client IP address"

def level : LogRecord → Text
  | .unexpected _ => "WARNING"
  | _ => "DEBUG"

end LogRecord

namespace Resolver

/-- The mode for a request. A configured header wins; without one, a nonblank name that the headers
carry is used. -/
def mode (config : Config) (headers : Accessor) : Except Fault Mode :=
  match config.trusted with
  | some name => .ok (.custom name)
  | none => do
    match HeaderName.normalize? (← headers.customName) with
    | some name => return .custom name
    | none => return .fixed

/-- The value of the nominated header, and a record when the headers carry another one. -/
def customValue (headers : Accessor) (name : Text) :
    Except Fault (Option Text × List LogRecord) := do
  if HeaderName.normalize? (← headers.customName) = some name then
    return (← headers.customValue, [])
  else return (none, [.notProvided name])

/-- The outcome for the nominated header, read as parameters or else as a plain list. -/
def customCandidate (headers : Accessor) (name : Text) :
    Except Fault (Candidate × List LogRecord) := do
  let (raw, logs) ← customValue headers name
  let literal := ValueForm.forwarded.choose? raw <|> ValueForm.plain.choose? raw
  return (⟨name, raw.bind Text.nonempty?, literal, none⟩, logs)

def fixedCandidate (headers : Accessor) (role : Role) : Except Fault Candidate := do
  let raw := (← headers.value role).bind Text.nonempty?
  return ⟨role.headerName, raw, role.form.choose? raw, some role⟩

def fixedCandidates (headers : Accessor) : Except Fault (List Candidate) :=
  Role.all.mapM (fixedCandidate headers)

/-- The outcomes in the mode that applies, with the records of the walk. -/
def candidates (config : Config) (headers : Accessor) :
    Except Fault (List Candidate × List LogRecord) := do
  match ← mode config headers with
  | .custom name =>
    let (candidate, logs) ← customCandidate headers name
    return ([candidate], logs)
  | .fixed => return (← fixedCandidates headers, [])

end Resolver
end Forwarding
