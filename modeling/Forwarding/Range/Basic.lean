import Forwarding.Address.Basic
import Forwarding.Text.Quoted

/-! Blocks of addresses: a base and a mask of the same width, compared byte by byte. -/
namespace Forwarding

/-- A block of addresses. Its label is for display only. -/
structure AddressRange where
  family : Family
  base : List UInt8
  mask : List UInt8
  label : Text
  base_length : base.length = family.width
  mask_length : mask.length = family.width

inductive RangeError where
  | wrongWidth (family : Family) (base : List UInt8) (label : Text)
  | hostBits (block : Text)
  | notARange (text : Text)
  deriving DecidableEq

namespace RangeError

/-- The error in words. A block without a label is shown by its base. -/
def message : RangeError → Text
  | .wrongWidth family base label =>
    family.name ++ " range needs " ++ Text.decimal family.width ++ "-byte base and mask: "
      ++ (if label = [] then Text.quotedBytes base else Text.quoted label)
  | .hostBits block => block ++ " has host bits set"
  | .notARange text => Text.quoted text ++ " does not appear to be an IPv4 or IPv6 network"

end RangeError

namespace AddressRange

def ofBytes (family : Family) (base mask : List UInt8) (label : Text) :
    Except RangeError AddressRange :=
  if h : base.length = family.width ∧ mask.length = family.width then
    .ok ⟨family, base, mask, label, h.1, h.2⟩
  else .error (.wrongWidth family base label)

def agree : List UInt8 → List UInt8 → List UInt8 → Bool
  | a :: as, b :: bs, m :: ms => (a &&& m) = (b &&& m) && agree as bs ms
  | _, _, _ => true

/-- An address lies in a block of its family when it agrees with the base in the mask's bits. -/
def contains (r : AddressRange) (a : Address) : Bool :=
  a.family = r.family && agree a.bytes r.base r.mask

def leadingOnes (count : Nat) : UInt8 := UInt8.ofNat (0xff00 >>> min 8 count)

def prefixMask (width length : Nat) : List UInt8 :=
  (List.range width).map fun i => leadingOnes (length - 8 * i)

@[simp] theorem prefixMask_length (width length : Nat) :
    (prefixMask width length).length = width := by
  simp [prefixMask]

/-- The block of the addresses that share their first `length` bits with the base. -/
def ofPrefix (base : Address) (length : Nat) (label : Text) : AddressRange :=
  ⟨base.family, base.bytes, prefixMask base.family.width length, label, base.bytes_length,
    prefixMask_length _ _⟩

end AddressRange
end Forwarding
