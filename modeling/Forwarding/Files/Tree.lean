import Forwarding.Files.Access
import Forwarding.Text.Utf8

/-! A tree of files held in memory. -/
namespace Forwarding

/-- Files and directories by the steps of their paths. Directories on the way to a file need not be
listed. -/
structure FileTree where
  files : List (List Text × List UInt8)
  directories : List (List Text)
  deriving DecidableEq

namespace FileTree

/-- The tree of named entries. A name that ends in a slash is a directory; the bytes of other names
are a file. -/
def ofEntries (entries : List (Text × List UInt8)) : FileTree :=
  let isDirectory (name : Text) : Bool := name.getLast? = some '/'
  ⟨(entries.filter (!isDirectory ·.1)).map fun e => (FilePath.steps e.1, e.2),
    (entries.filter (isDirectory ·.1)).map fun e => FilePath.steps e.1⟩

def file? (t : FileTree) (place : List Text) : Option (List UInt8) := t.files.lookup place

/-- There is a directory at a place: the top, a listed one, or one on the way to something. -/
def isDirectory (t : FileTree) (place : List Text) : Bool :=
  place = [] || t.directories.any (place.isPrefixOf ·) ||
    t.files.any fun f => place.isPrefixOf f.1 && place.length < f.1.length

def longestStep : Nat := 255

def longestPath : Nat := 4095

def isTooLong (step : Text) : Bool := longestStep < (Text.Utf8.encode step).length

/-- What lies at the end of steps outside the tree, where only the directories above are known. -/
def outside : List Text → AccessError
  | [] => .isADirectory
  | step :: rest =>
    if step = ['.', '.'] then outside rest
    else if isTooLong step then .nameTooLong
    else .notFound

/-- Follows steps from a directory. Two dots lead back to the directory above, and from the top out
of the tree. -/
def follow (t : FileTree) : List Text → List Text → Except AccessError (List UInt8)
  | place, [] =>
    match t.file? place with
    | some bytes => .ok bytes
    | none => .error (if t.isDirectory place then .isADirectory else .notFound)
  | place, step :: rest =>
    if (t.file? place).isSome then .error .notADirectory
    else if !t.isDirectory place then .error .notFound
    else if isTooLong step then .error .nameTooLong
    else if step = ['.', '.'] then
      if place = [] then .error (outside rest) else follow t place.dropLast rest
    else follow t (place ++ [step]) rest

/-- What lies under paths, which start at the top of the tree unless they start at a root. -/
def access (t : FileTree) : Files := fun path =>
  if longestPath < (Text.Utf8.encode path).length then .error .nameTooLong
  else if FilePath.root path = [] then t.follow [] (FilePath.steps path)
  else .error (outside (FilePath.steps path))

end FileTree
end Forwarding
