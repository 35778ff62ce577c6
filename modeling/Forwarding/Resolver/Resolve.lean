import Forwarding.Resolver.Candidate

/-! The address of a request, with the records and the tag that its resolution leaves behind. -/
namespace Forwarding

structure Resolution where
  result : Option Literal
  logs : List LogRecord
  span : Option Span
  deriving DecidableEq

/-- A resolution that may fail, with the records and the span as they are where it ends. -/
structure Attempt where
  ended : Except Fault (Option Literal)
  logs : List LogRecord
  span : Option Span

/-- A fault leaves no address and one more record. -/
def Attempt.contain (a : Attempt) : Resolution :=
  match a.ended with
  | .ok result => ⟨result, a.logs, a.span⟩
  | .error fault => ⟨none, a.logs ++ [.unexpected fault], a.span⟩

namespace Resolver

/-- Keeps a public result; anything else gives way to the new one, whatever that is. -/
def preferPublic (prev new : Option Literal) : Option Literal :=
  if Selection.settles prev then prev else new

def merge (candidates : List Candidate) : Option Literal :=
  (candidates.filterMap (·.literal)).foldl (fun result l => preferPublic result (some l)) none

def contributing (candidates : List Candidate) : List Role :=
  candidates.filterMap fun c => if c.literal.isSome then c.role else none

def conclude (candidates : List Candidate) (span : Option Span) : Attempt :=
  match multipleHeadersTag? (contributing candidates) with
  | none => ⟨.ok (merge candidates), [], span⟩
  | some tag =>
    let ended := match span.bind (·.fault) with
      | none => .ok (merge candidates)
      | some fault => .error fault
    ⟨ended, [.severalHeaders tag], span.map (·.setTag multipleHeadersKey tag)⟩

/-- The address of the request, unless a read or the span fails. Missing headers have no address. -/
def attempt (config : Config) (headers : Option Accessor) (span : Option Span) : Attempt :=
  match headers with
  | none => ⟨.ok none, [], span⟩
  | some headers =>
    match mode config headers with
    | .error fault => ⟨.error fault, [], span⟩
    | .ok (.custom name) =>
      match customCandidate headers name with
      | .error fault => ⟨.error fault, [], span⟩
      | .ok (candidate, logs) => ⟨.ok candidate.literal, logs, span⟩
    | .ok .fixed =>
      match fixedCandidates headers with
      | .error fault => ⟨.error fault, [], span⟩
      | .ok candidates => conclude candidates span

def resolve (config : Config) (headers : Option Accessor) (span : Option Span) : Resolution :=
  (attempt config headers span).contain

end Resolver
end Forwarding
