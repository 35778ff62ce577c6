import Forwarding.Address.Literal
import Forwarding.Range.Basic

/-! Blocks in text: an address, a slash, and a prefix length or an IPv4 mask. -/
namespace Forwarding.AddressRange

def prefixLength? (family : Family) (t : Text) : Option Nat :=
  if t.length ≤ Text.digitLimit then
    (Text.numeral? 10 t).filter (· ≤ 8 * family.width)
  else none

def complement (bytes : List UInt8) : List UInt8 := bytes.map fun b => ~~~b

/-- The prefix length that a dotted mask stands for. It is a network mask, ones and then zeros, or
else a host mask, zeros and then ones. -/
def dottedMaskLength? (t : Text) : Option Nat := do
  let bytes ← Dotted.bytes? t
  let lengths := List.range 33
  lengths.find? (fun n => prefixMask 4 n = bytes)
    <|> lengths.find? (fun n => prefixMask 4 n = complement bytes)

/-- The prefix length behind the slash; without a slash the block is a single address. -/
def maskLength? (family : Family) : Option Text → Option Nat
  | none => some (8 * family.width)
  | some t =>
    prefixLength? family t <|>
      match family with
      | .ipv4 => dottedMaskLength? t
      | .ipv6 => none

def isAligned (base mask : List UInt8) : Bool :=
  List.zipWith (· &&& ·) base mask = base

def read? (family : Family) (addr : Text) (mask : Option Text) : Option (Address × Nat) := do
  let base ← match family with
    | .ipv4 => Address.readIpv4? addr
    | .ipv6 => Address.readIpv6? addr
  let length ← maskLength? family mask
  return (base, length)

def zoneSuffix (addr : Text) : Text := addr.dropWhile (· != '%')

/-- The block of a base and a prefix length, unless the base has host bits. -/
def aligned (label addr : Text) (base : Address) (length : Nat) :
    Except RangeError AddressRange :=
  if isAligned base.bytes (prefixMask base.family.width length) then
    .ok (ofPrefix base length label)
  else
    .error (.hostBits (base.render ++ zoneSuffix addr ++ '/' :: Text.decimal length))

/-- Reads a block. The text becomes its label. -/
def parse (t : Text) : Except RangeError AddressRange :=
  let blockOf (addr : Text) (mask : Option Text) : Except RangeError AddressRange :=
    match read? .ipv4 addr mask <|> read? .ipv6 addr mask with
    | some (base, length) => aligned t addr base length
    | none => .error (.notARange t)
  match Text.pieces '/' t with
  | [addr] => blockOf addr none
  | [addr, mask] => blockOf addr (some mask)
  | _ => .error (.notARange t)

end Forwarding.AddressRange
