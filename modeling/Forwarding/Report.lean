import Forwarding.Resolver.Resolve

/-! A plain breakdown of a resolution: two lines for each header, then the address and the tag. -/
namespace Forwarding.Report

def outcome (c : Candidate) : Text :=
  match c.raw, c.literal, c.privacy? with
  | none, _, _ => "absent"
  | some _, some l, some privacy => l.address.render ++ " (" ++ privacy.word ++ ")"
  | some _, _, _ => "no address"

/-- The header has a value, and its role is among the present ones when these are given. -/
def isPresent (present : Option (List Role)) (c : Candidate) : Bool :=
  c.raw.isSome &&
    match present, c.role with
    | some roles, some role => role ∈ roles
    | _, _ => true

/-- The candidates that the report shows: those present, or all when none is. -/
def shown (candidates : List Candidate) (present : Option (List Role)) : List Candidate :=
  let found := candidates.filter (isPresent present)
  if found = [] then candidates else found

def nameWidth (candidates : List Candidate) : Nat :=
  candidates.foldl (fun width c => max width c.header.length) 0

def row (width : Nat) (c : Candidate) : Text :=
  Text.padRight width c.header ++ "  " ++ c.raw.getD "-" ++ "\n"
    ++ Text.padRight width [] ++ "  -> " ++ outcome c ++ "\n"

def resultText : Option Literal → Text
  | none => "none"
  | some l => l.address.render

def tagLine (tag : Option Text) : Text :=
  match tag.bind Text.nonempty? with
  | none => []
  | some tag => multipleHeadersKey ++ ": " ++ tag ++ "\n"

def render (candidates : List Candidate) (result : Option Literal) (tag : Option Text)
    (present : Option (List Role)) : Text :=
  let shown := shown candidates present
  shown.flatMap (row (nameWidth shown)) ++ "client ip: " ++ resultText result ++ "\n"
    ++ tagLine tag

end Forwarding.Report
