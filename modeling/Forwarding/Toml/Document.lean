import Forwarding.Toml.Moment
import Forwarding.Toml.Number
import Forwarding.Toml.Tree

/-!
TOML documents. Values nest to any depth, and every step into or along them takes up a character, so
that the length of the text bounds the number of steps; `document` starts with a bound that suffices.
-/
namespace Forwarding.Toml

def skipToItem : Nat → Text → Read Text
  | 0, t => .ok t
  | fuel + 1, t => do
    let blank := t.dropWhile isSpaceOrBreak
    let rest ← skipComment blank
    if rest.length = t.length then return rest else skipToItem fuel rest

/-- The value is a table or an array, whose inside no later key may touch. -/
def Value.isNest : Value → Bool
  | .array _ | .table _ => true
  | _ => false

def addInline (marks : Marks) (entries : Entries) (path : Path) (value : Value) : Read Entries :=
  if marks.isClosed path then .error .malformed
  else
    match path.getLast? with
    | none => .error .malformed
    | some last =>
      match entries.changeAt? false (Entries.add? last value) path.dropLast with
      | some entries => .ok entries
      | none => .error .malformed

mutual

def value : Nat → Text → Read (Value × Text)
  | 0, _ => .error .malformed
  | fuel + 1, t =>
    match quotedText? t with
    | some read => read.map fun (body, rest) => (.text body, rest)
    | none =>
      match t with
      | 't' :: 'r' :: 'u' :: 'e' :: rest => .ok (.boolean true, rest)
      | 'f' :: 'a' :: 'l' :: 's' :: 'e' :: rest => .ok (.boolean false, rest)
      | '[' :: rest => do
        let rest ← skipToItem rest.length rest
        match rest with
        | ']' :: rest => return (.array [], rest)
        | rest => arrayItems fuel [] rest
      | '\x7b' :: rest =>
        match skipSpaces rest with
        | '\x7d' :: rest => .ok (.table [], rest)
        | rest => inlineEntries fuel Marks.empty [] rest
      | t =>
        match moment? t with
        | some read => read
        | none => (number? t).getD (.error .malformed)

/-- The items of an array after some of them, in reverse, up to the closing bracket. -/
def arrayItems : Nat → List Value → Text → Read (Value × Text)
  | 0, _, _ => .error .malformed
  | fuel + 1, items, t => do
    let (item, rest) ← value fuel t
    let items := item :: items
    match ← skipToItem rest.length rest with
    | ']' :: rest => return (.array items.reverse, rest)
    | ',' :: rest =>
      match ← skipToItem rest.length rest with
      | ']' :: rest => return (.array items.reverse, rest)
      | rest => arrayItems fuel items rest
    | _ => throw .malformed

/-- The entries of an inline table after some of them, up to the closing brace. -/
def inlineEntries : Nat → Marks → Entries → Text → Read (Value × Text)
  | 0, _, _, _ => .error .malformed
  | fuel + 1, marks, entries, t => do
    let (path, v, rest) ← keyAndValue fuel t
    let entries ← addInline marks entries path v
    match skipSpaces rest with
    | '\x7d' :: rest => return (.table entries, rest)
    | ',' :: rest =>
      inlineEntries fuel (if v.isNest then marks.close path else marks) entries (skipSpaces rest)
    | _ => throw .malformed

def keyAndValue : Nat → Text → Read (Path × Value × Text)
  | 0, _ => .error .malformed
  | fuel + 1, t => do
    let (path, rest) ← key t
    match rest with
    | '=' :: rest =>
      let (v, rest) ← value fuel (skipSpaces rest)
      return (path, v, rest)
    | _ => throw .malformed

end

/-- The state between statements: the document so far, the paths that may not be used again, those
that become so with the next header, and the path of the last header. -/
structure State where
  root : Entries
  marks : Marks
  pending : List Path
  header : Path

/-- Adds a key under the last header. The tables that its dots lead through may not be opened by
headers, neither before nor later. -/
def State.assign (s : State) (path : Path) (v : Value) : Read State :=
  let parents := (List.range (path.length - 1)).map fun i => s.header ++ path.take (i + 1)
  let parent := s.header ++ path.dropLast
  if parents.any s.marks.isOpened || s.marks.isClosed parent then .error .malformed
  else
    match path.getLast? with
    | none => .error .malformed
    | some last =>
      match s.root.changeAt? true (Entries.add? last v) parent with
      | none => .error .malformed
      | some root =>
        .ok { s with
          root := root
          marks := if v.isNest then s.marks.close (s.header ++ path) else s.marks
          pending := parents ++ s.pending }

def State.settle (s : State) : State :=
  { s with marks := s.marks.openAll s.pending, pending := [] }

def State.openTable (s : State) (path : Path) : Read State :=
  if s.marks.isOpened path || s.marks.isClosed path then .error .malformed
  else
    match s.root.changeAt? true some path with
    | none => .error .malformed
    | some root => .ok { s with root := root, marks := s.marks.openAll [path], header := path }

def State.openItem (s : State) (path : Path) : Read State :=
  if s.marks.isClosed path then .error .malformed
  else
    match path.getLast? with
    | none => .error .malformed
    | some last =>
      match s.root.changeAt? true (Entries.addItem? last) path.dropLast with
      | none => .error .malformed
      | some root =>
        .ok { s with
          root := root
          marks := (s.marks.release path).openAll [path]
          header := path }

def headerLine (s : State) (t : Text) : Read (State × Text) := do
  match t with
  | '[' :: rest =>
    let (path, rest) ← key (skipSpaces rest)
    match rest with
    | ']' :: ']' :: rest => return (← s.openItem path, rest)
    | _ => throw .malformed
  | _ =>
    let (path, rest) ← key (skipSpaces t)
    match rest with
    | ']' :: rest => return (← s.openTable path, rest)
    | _ => throw .malformed

def statement (fuel : Nat) (s : State) (t : Text) : Read (State × Text) :=
  match t with
  | [] => .ok (s, t)
  | '[' :: rest => headerLine s.settle rest
  | c :: _ =>
    if isBareKeyChar c || c = '"' || c = '\'' then do
      let (path, v, rest) ← keyAndValue fuel t
      return (← s.assign path v, rest)
    else .ok (s, t)

/-- The lines of a document. A line holds at most one statement and a comment. -/
def documentLines (bound : Nat) : Nat → State → Text → Read Entries
  | 0, _, _ => .error .malformed
  | fuel + 1, s, t => do
    let (s, rest) ← statement bound s (skipSpaces t)
    match ← skipComment (skipSpaces rest) with
    | [] => return s.root
    | '\n' :: rest => documentLines bound fuel s rest
    | _ => throw .malformed

/-- Carriage returns in front of line feeds do not count. -/
def joinLineEnds : Text → Text
  | '\r' :: '\n' :: rest => '\n' :: joinLineEnds rest
  | c :: rest => c :: joinLineEnds rest
  | [] => []

def document (t : Text) : Read Entries :=
  let t := joinLineEnds t
  documentLines (2 * t.length + 2) (t.length + 1) ⟨[], Marks.empty, [], []⟩ t

end Forwarding.Toml
