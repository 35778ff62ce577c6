import Forwarding.Text.Basic

/-! Paths of files in their shortest spelling. -/
namespace Forwarding.FilePath

/-- The steps of a path; empty ones and single dots lead nowhere. -/
def steps (path : Text) : List Text :=
  (Text.pieces '/' path).filter fun step => step ≠ [] ∧ step ≠ ['.']

/-- The root that a path starts from. Exactly two slashes in front are a root of their own. -/
def root (path : Text) : Text :=
  match (path.takeWhile (· = '/')).length with
  | 0 => []
  | 2 => ['/', '/']
  | _ => ['/']

/-- A path without steps that lead nowhere; the place where one starts is a dot. -/
def clean (path : Text) : Text :=
  let rest := root path ++ ['/'].intercalate (steps path)
  if rest = [] then ['.'] else rest

end Forwarding.FilePath
