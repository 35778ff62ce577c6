import Forwarding.Text.Basic

/-! Address families, and addresses as byte rows of the width of their family. -/
namespace Forwarding

inductive Family where
  | ipv4
  | ipv6
  deriving DecidableEq, Repr

namespace Family

def width : Family → Nat
  | .ipv4 => 4
  | .ipv6 => 16

def name : Family → Text
  | .ipv4 => "IPV4"
  | .ipv6 => "IPV6"

end Family

/-- An address: its family and its bytes, most significant first. -/
structure Address where
  family : Family
  bytes : List UInt8
  bytes_length : bytes.length = family.width
  deriving DecidableEq

namespace Address

def ofBytes? (family : Family) (bytes : List UInt8) : Option Address :=
  if h : bytes.length = family.width then some ⟨family, bytes, h⟩ else none

@[simp] theorem ofBytes?_bytes (a : Address) : ofBytes? a.family a.bytes = some a := by
  simp [ofBytes?, a.bytes_length]

/-- Twelve bytes in front of an IPv4 address that is embedded in an IPv6 one. -/
def mappedLead : List UInt8 := List.replicate 10 0 ++ [255, 255]

/-- An IPv6 address in `::ffff:0:0/96`, which stands for an IPv4 address. -/
def isMapped (a : Address) : Bool :=
  a.family = .ipv6 && a.bytes.take 12 = mappedLead

/-- The IPv4 address that a mapped IPv6 address stands for; any other address itself. -/
def unmap (a : Address) : Address :=
  if h : a.isMapped then
    ⟨.ipv4, a.bytes.drop 12, by
      have hfamily : a.family = .ipv6 := by simp_all [isMapped]
      simp [a.bytes_length, hfamily, Family.width]⟩
  else a

end Address
end Forwarding
