import Forwarding.Files.Path
import Forwarding.Text.Quoted

/-! Reading files by path, and the ways in which that fails. -/
namespace Forwarding

inductive AccessError where
  | notFound
  | notPermitted
  | notADirectory
  | isADirectory
  | nameTooLong
  /-- The path holds the character that ends paths. -/
  | embeddedNull
  deriving DecidableEq

/-- An access that failed, with the path in its shortest spelling. -/
structure FailedAccess where
  error : AccessError
  path : Text
  deriving DecidableEq

namespace AccessError

def systemText? : AccessError → Option (Nat × Text)
  | .notFound => some (2, "No such file or directory")
  | .notPermitted => some (13, "Permission denied")
  | .notADirectory => some (20, "Not a directory")
  | .isADirectory => some (21, "Is a directory")
  | .nameTooLong => some (36, "File name too long")
  | .embeddedNull => none

end AccessError

namespace FailedAccess

def message (f : FailedAccess) : Text :=
  match f.error.systemText? with
  | some (number, words) =>
    "[Errno " ++ Text.decimal number ++ "] " ++ words ++ ": " ++ Text.quoted f.path
  | none => "embedded null byte"

end FailedAccess

/-- What lies under paths in their shortest spelling: the bytes of a file, or a reason. -/
abbrev Files := Text → Except AccessError (List UInt8)

def Files.read (files : Files) (path : Text) : Except FailedAccess (List UInt8) :=
  let path := FilePath.clean path
  if '\x00' ∈ path then .error ⟨.embeddedNull, path⟩
  else
    match files path with
    | .ok bytes => .ok bytes
    | .error e => .error ⟨e, path⟩

def Files.exists (files : Files) (path : Text) : Bool :=
  match files.read path with
  | .ok _ | .error ⟨.isADirectory, _⟩ | .error ⟨.notPermitted, _⟩ => true
  | .error _ => false

end Forwarding
