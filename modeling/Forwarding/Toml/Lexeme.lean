import Forwarding.Toml.Value

/-! Blanks, comments, keys and quoted texts of a TOML document. -/
namespace Forwarding.Toml

inductive ReadError where
  | malformed
  /-- A decimal integer has more digits than the limit. -/
  | tooManyDigits (count : Nat)
  deriving DecidableEq

/-- Something read, or the reason for a refusal. What is read from the front of a text comes with
the rest of the text. -/
abbrev Read := Except ReadError

def isSpace (c : Char) : Bool := c = ' ' || c = '\t'

def isSpaceOrBreak (c : Char) : Bool := isSpace c || c = '\n'

def skipSpaces (t : Text) : Text := t.dropWhile isSpace

/-- A control character other than the tab, which no comment or quoted text may hold. -/
def isControl (c : Char) : Bool := (c.toNat < 0x20 && c ≠ '\t') || c.toNat = 0x7f

/-- A character that a text in quotes may not hold as such; only one of several lines holds line
feeds. -/
def isForbidden (multiline : Bool) (c : Char) : Bool := isControl c && !(multiline && c = '\n')

/-- A text after the comment at its front, if there is one. The line feed stays. -/
def skipComment : Text → Read Text
  | '#' :: rest =>
    if (rest.takeWhile (· ≠ '\n')).any isControl then .error .malformed
    else .ok (rest.dropWhile (· ≠ '\n'))
  | t => .ok t

def hexChar? (count : Nat) (t : Text) : Option Char :=
  if t.length = count then
    (Text.number? 16 t).bind fun n =>
      if n < 0xd800 ∨ (0xdfff < n ∧ n < 0x110000) then some (Char.ofNat n) else none
  else none

/-- The characters that an escape stands for, with the number of characters behind the backslash.
In a text of several lines a backslash at the end of a line stands for nothing, and takes the line
break and the blanks behind it along. -/
def escape? (multiline : Bool) (t : Text) : Option (Text × Nat) :=
  match t with
  | 'b' :: _ => some (['\x08'], 1)
  | 't' :: _ => some (['\t'], 1)
  | 'n' :: _ => some (['\n'], 1)
  | 'f' :: _ => some (['\x0c'], 1)
  | 'r' :: _ => some (['\r'], 1)
  | '"' :: _ => some (['"'], 1)
  | '\\' :: _ => some (['\\'], 1)
  | 'u' :: rest => (hexChar? 4 (rest.take 4)).map fun c => ([c], 5)
  | 'U' :: rest => (hexChar? 8 (rest.take 8)).map fun c => ([c], 9)
  | _ =>
    if multiline && (skipSpaces t).head? = some '\n' then
      some ([], (t.takeWhile isSpaceOrBreak).length)
    else none

/-- The body of a text in double quotes, after some characters of it in reverse. -/
def basicBody (multiline : Bool) (read : Text) (t : Text) : Read (Text × Text) :=
  match t with
  | [] => .error .malformed
  | '"' :: rest =>
    if multiline then
      match rest with
      | '"' :: '"' :: rest => .ok (read.reverse, rest)
      | rest => basicBody multiline ('"' :: read) rest
    else .ok (read.reverse, rest)
  | '\\' :: rest =>
    match escape? multiline rest with
    | none => .error .malformed
    | some (chars, count) => basicBody multiline (chars.reverse ++ read) (rest.drop count)
  | c :: rest =>
    if isForbidden multiline c then .error .malformed else basicBody multiline (c :: read) rest
termination_by t.length
decreasing_by all_goals simp_all; try omega

def literalBody (multiline : Bool) (read : Text) : Text → Read (Text × Text)
  | [] => .error .malformed
  | '\'' :: '\'' :: '\'' :: rest =>
    if multiline then .ok (read.reverse, rest) else .ok (read.reverse, '\'' :: '\'' :: rest)
  | c :: rest =>
    if c = '\'' && !multiline then .ok (read.reverse, rest)
    else if isForbidden multiline c then .error .malformed
    else literalBody multiline (c :: read) rest

/-- A line feed directly behind the opening quotes does not count. -/
def dropFirstBreak : Text → Text
  | '\n' :: rest => rest
  | t => t

/-- One or two quotes directly behind the closing ones belong to the text. -/
def extraQuotes (quote : Char) (body rest : Text) : Text × Text :=
  match rest with
  | c :: d :: rest =>
    if c = quote ∧ d = quote then (body ++ [quote, quote], rest)
    else if c = quote then (body ++ [quote], d :: rest)
    else (body, c :: d :: rest)
  | [c] => if c = quote then (body ++ [quote], []) else (body, [c])
  | [] => (body, [])

def basicText (t : Text) : Read (Text × Text) := basicBody false [] t

def literalText (t : Text) : Read (Text × Text) := literalBody false [] t

def quotedText? : Text → Option (Read (Text × Text))
  | '"' :: '"' :: '"' :: rest => some do
    let (body, rest) ← basicBody true [] (dropFirstBreak rest)
    return extraQuotes '"' body rest
  | '"' :: rest => some (basicText rest)
  | '\'' :: '\'' :: '\'' :: rest => some do
    let (body, rest) ← literalBody true [] (dropFirstBreak rest)
    return extraQuotes '\'' body rest
  | '\'' :: rest => some (literalText rest)
  | _ => none

def isBareKeyChar (c : Char) : Bool := c.isAlphanum || c = '-' || c = '_'

def keyPart : Text → Read (Text × Text)
  | '"' :: rest => basicText rest
  | '\'' :: rest => literalText rest
  | t =>
    let part := t.takeWhile isBareKeyChar
    if part = [] then .error .malformed else .ok (part, t.dropWhile isBareKeyChar)

/-- A dotted key with blanks around its dots, and behind it. Every part takes up a character, so
that the length of the text bounds their number. -/
def keyParts : Nat → Text → Read (List Text × Text)
  | 0, _ => .error .malformed
  | fuel + 1, t => do
    let (part, rest) ← keyPart t
    match skipSpaces rest with
    | '.' :: rest =>
      let (parts, rest) ← keyParts fuel (skipSpaces rest)
      return (part :: parts, rest)
    | rest => return ([part], rest)

def key (t : Text) : Read (List Text × Text) := keyParts (t.length + 1) t

end Forwarding.Toml
