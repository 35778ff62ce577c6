import Forwarding.Toml.Value

/-! Tables inside tables: finding the place of a dotted key, and filling it. -/
namespace Forwarding.Toml

abbrev Path := List Text

namespace Entries

def get? (key : Text) (entries : Entries) : Option Value := entries.lookup key

/-- Sets a key in its place, or behind the others when it is new. -/
def set (key : Text) (value : Value) : Entries → Entries
  | [] => [(key, value)]
  | entry :: rest =>
    if entry.1 = key then (key, value) :: rest else entry :: set key value rest

def add? (key : Text) (value : Value) (entries : Entries) : Option Entries :=
  match entries.get? key with
  | none => some (entries.set key value)
  | some _ => none

/-- Adds an empty table to the array of tables under a key, which may be new. -/
def addItem? (key : Text) (entries : Entries) : Option Entries :=
  match entries.get? key with
  | none => some (entries.set key (.array [.table []]))
  | some (.array items) => some (entries.set key (.array (items ++ [.table []])))
  | some _ => none

/-- Changes the table at the end of a path. Missing tables on the way are made. The way may lead
through the last tables of arrays when that is allowed; through no other value. -/
def changeAt? (throughArrays : Bool) (change : Entries → Option Entries) :
    Path → Entries → Option Entries
  | [], entries => change entries
  | key :: path, entries =>
    match entries.get? key with
    | none => (changeAt? throughArrays change path []).map fun t => entries.set key (.table t)
    | some (.table inner) =>
      (changeAt? throughArrays change path inner).map fun t => entries.set key (.table t)
    | some (.array items) =>
      match throughArrays, items.getLast? with
      | true, some (.table inner) =>
        (changeAt? throughArrays change path inner).map fun t =>
          entries.set key (.array (items.dropLast ++ [.table t]))
      | _, _ => none
    | some _ => none

end Entries

/-- The paths that later statements may not use: below closed ones nothing may be added, and opened
ones may not be opened again. -/
structure Marks where
  closed : List Path
  opened : List Path
  deriving DecidableEq

namespace Marks

def empty : Marks := ⟨[], []⟩

def isClosed (m : Marks) (path : Path) : Bool := m.closed.any (·.isPrefixOf path)

def isOpened (m : Marks) (path : Path) : Bool := path ∈ m.opened

def close (m : Marks) (path : Path) : Marks := { m with closed := path :: m.closed }

def openAll (m : Marks) (paths : List Path) : Marks := { m with opened := paths ++ m.opened }

def release (m : Marks) (path : Path) : Marks :=
  ⟨m.closed.filter (!path.isPrefixOf ·), m.opened.filter (!path.isPrefixOf ·)⟩

end Marks
end Forwarding.Toml
