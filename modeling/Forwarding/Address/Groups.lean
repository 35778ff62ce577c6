import Forwarding.Address.Dotted

/-!
Hexadecimal groups joined by colons, where a double colon stands for zero groups, and the
shortest such text of sixteen bytes.
-/
namespace Forwarding.Groups

def group? (t : Text) : Option Nat :=
  if t.length ≤ 4 then Text.numeral? 16 t else none

def groupBytes (n : Nat) : List UInt8 := [UInt8.ofNat (n / 256), UInt8.ofNat n]

def plainBytes? (groups : List Text) : Option (List UInt8) :=
  (groups.mapM group?).map (·.flatMap groupBytes)

/-- The bytes of a row of groups whose last may be a dotted quad. -/
def tailBytes? : List Text → Option (List UInt8)
  | [] => some []
  | [last] => if '.' ∈ last then Dotted.bytes? last else plainBytes? [last]
  | group :: groups => do
    let lead ← plainBytes? [group]
    let rest ← tailBytes? groups
    return lead ++ rest

/-- The texts on both sides of the first double colon. -/
def cutElision? : Text → Option (Text × Text)
  | [] => none
  | ':' :: ':' :: rest => some ([], rest)
  | c :: rest => (cutElision? rest).map fun sides => (c :: sides.1, sides.2)

/-- The groups on one side of a double colon, where there may be none. -/
def side (t : Text) : List Text :=
  if t = [] then [] else Text.pieces ':' t

/-- The bytes of groups joined by colons. A double colon fills the width with zeros, at least one
group of them. -/
def bytes? (t : Text) : Option (List UInt8) :=
  match cutElision? t with
  | none => tailBytes? (Text.pieces ':' t)
  | some (left, right) => do
    let lead ← plainBytes? (side left)
    let tail ← tailBytes? (side right)
    let present := lead.length + tail.length
    if present ≤ 14 then return lead ++ List.replicate (16 - present) 0 ++ tail else none

def ofBytes : List UInt8 → List Nat
  | high :: low :: rest => (256 * high.toNat + low.toNat) :: ofBytes rest
  | _ => []

def zerosInFront (groups : List Nat) : Nat := (groups.takeWhile (· = 0)).length

/-- Start and length of the longest run of zero groups, the first of the longest ones. -/
def longestZeros : List Nat → Nat × Nat
  | [] => (0, 0)
  | g :: groups =>
    let here := zerosInFront (g :: groups)
    let later := longestZeros groups
    if later.2 ≤ here then (0, here) else (later.1 + 1, later.2)

def renderPlain (groups : List Nat) : Text :=
  [':'].intercalate (groups.map (Text.ofNat 16))

def render (bytes : List UInt8) : Text :=
  let groups := ofBytes bytes
  let (start, count) := longestZeros groups
  if count < 2 then renderPlain groups
  else renderPlain (groups.take start) ++ [':', ':'] ++ renderPlain (groups.drop (start + count))

end Forwarding.Groups
