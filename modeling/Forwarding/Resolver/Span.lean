import Forwarding.Header.Accessor

/-! Spans, which take tags, and the tag that names the headers that yielded an address. -/
namespace Forwarding

/-- A record of tags, with the number of attempts to set one. A span with a fault refuses tags. -/
structure Span where
  tags : List (Text × Text)
  calls : Nat
  fault : Option Fault
  deriving DecidableEq

namespace Span

def fresh (fault : Option Fault) : Span := ⟨[], 0, fault⟩

def tag? (key : Text) (s : Span) : Option Text := s.tags.lookup key

/-- Tags with one more, in place of an earlier one of the same key. -/
def put (key value : Text) : List (Text × Text) → List (Text × Text)
  | [] => [(key, value)]
  | tag :: tags => if tag.1 = key then (key, value) :: tags else tag :: put key value tags

/-- Attempts to set a tag. The attempt counts even when the span refuses it. -/
def setTag (key value : Text) (s : Span) : Span :=
  match s.fault with
  | none => { s with tags := put key value s.tags, calls := s.calls + 1 }
  | some _ => { s with calls := s.calls + 1 }

end Span

def multipleHeadersKey : Text := "_dd.multiple-ip-headers"

/-- The short names of several contributing headers, from the lowest priority to the highest. -/
def multipleHeadersTag? (found : List Role) : Option Text :=
  let contributing := Role.all.reverse.filter (· ∈ found)
  if contributing.length < 2 then none
  else some ([','].intercalate (contributing.map Role.shortName))

end Forwarding
