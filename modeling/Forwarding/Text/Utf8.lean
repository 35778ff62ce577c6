import Forwarding.Text.Digit

/-! UTF-8: the bytes of a text, and the text of bytes or the reason why there is none. -/
namespace Forwarding.Text.Utf8

def encodeChar (c : Char) : List UInt8 :=
  let n := c.toNat
  let continuation (k : Nat) : UInt8 := UInt8.ofNat (0x80 + k % 0x40)
  if n < 0x80 then [UInt8.ofNat n]
  else if n < 0x800 then [UInt8.ofNat (0xc0 + n / 0x40), continuation n]
  else if n < 0x10000 then
    [UInt8.ofNat (0xe0 + n / 0x1000), continuation (n / 0x40), continuation n]
  else
    [UInt8.ofNat (0xf0 + n / 0x40000), continuation (n / 0x1000), continuation (n / 0x40),
      continuation n]

def encode (t : Text) : List UInt8 := t.flatMap encodeChar

inductive Reason where
  | invalidStart
  | invalidContinuation
  | unexpectedEnd
  deriving DecidableEq

/-- Where decoding stopped: the offset of the sequence, the count of its bytes up to the fault, and
the first of them. -/
structure DecodeError where
  offset : Nat
  count : Nat
  first : UInt8
  reason : Reason
  deriving DecidableEq

/-- The number of continuation bytes that a first byte asks for, and the range of the first one.
The ranges keep out overlong forms, surrogates and code points past the last. -/
def follow? (b : UInt8) : Option (Nat × Nat × Nat) :=
  let n := b.toNat
  if n < 0x80 then some (0, 0x80, 0xbf)
  else if n < 0xc2 then none
  else if n < 0xe0 then some (1, 0x80, 0xbf)
  else if n < 0xf0 then
    some (2, if n = 0xe0 then 0xa0 else 0x80, if n = 0xed then 0x9f else 0xbf)
  else if n < 0xf5 then
    some (3, if n = 0xf0 then 0x90 else 0x80, if n = 0xf4 then 0x8f else 0xbf)
  else none

/-- The payload of a first byte with the given number of continuation bytes. -/
def leadValue (b : UInt8) : Nat → Nat
  | 0 => b.toNat
  | 1 => b.toNat % 0x20
  | 2 => b.toNat % 0x10
  | _ => b.toNat % 0x08

structure Pending where
  first : UInt8
  seen : Nat
  value : Nat
  missing : Nat
  low : Nat
  high : Nat

def decodeFrom (offset : Nat) : Option Pending → List UInt8 → Except DecodeError Text
  | none, [] => .ok []
  | some p, [] => .error ⟨offset - p.seen, p.seen, p.first, .unexpectedEnd⟩
  | none, b :: rest =>
    match follow? b with
    | none => .error ⟨offset, 1, b, .invalidStart⟩
    | some (0, _, _) => do
      let tail ← decodeFrom (offset + 1) none rest
      return Char.ofNat b.toNat :: tail
    | some (missing, low, high) =>
      decodeFrom (offset + 1) (some ⟨b, 1, leadValue b missing, missing, low, high⟩) rest
  | some p, b :: rest =>
    if p.low ≤ b.toNat ∧ b.toNat ≤ p.high then
      let value := 0x40 * p.value + b.toNat % 0x40
      if p.missing ≤ 1 then do
        let tail ← decodeFrom (offset + 1) none rest
        return Char.ofNat value :: tail
      else
        decodeFrom (offset + 1) (some ⟨p.first, p.seen + 1, value, p.missing - 1, 0x80, 0xbf⟩) rest
    else .error ⟨offset - p.seen, p.seen, p.first, .invalidContinuation⟩

def decode (bytes : List UInt8) : Except DecodeError Text := decodeFrom 0 none bytes

def Reason.message : Reason → Text
  | .invalidStart => "invalid start byte"
  | .invalidContinuation => "invalid continuation byte"
  | .unexpectedEnd => "unexpected end of data"

/-- The fault in words: a single byte is shown, of several the positions. -/
def DecodeError.message (e : DecodeError) : Text :=
  let place : Text :=
    if e.count = 1 then
      "byte 0x" ++ ofNatPadded 16 2 e.first.toNat ++ " in position " ++ decimal e.offset
    else
      "bytes in position " ++ decimal e.offset ++ "-" ++ decimal (e.offset + e.count - 1)
  "'utf-8' codec can't decode " ++ place ++ ": " ++ e.reason.message

end Forwarding.Text.Utf8
