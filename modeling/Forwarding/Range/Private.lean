import Forwarding.Range.Basic

/-! The blocks that are not routed on the public network, and the privacy of an address. -/
namespace Forwarding

def privateIpv4Ranges : List AddressRange :=
  [.ofPrefix ⟨.ipv4, [10, 0, 0, 0], rfl⟩ 8 "10.0.0.0/8",
   .ofPrefix ⟨.ipv4, [172, 16, 0, 0], rfl⟩ 12 "172.16.0.0/12",
   .ofPrefix ⟨.ipv4, [192, 168, 0, 0], rfl⟩ 16 "192.168.0.0/16",
   .ofPrefix ⟨.ipv4, [127, 0, 0, 0], rfl⟩ 8 "127.0.0.0/8",
   .ofPrefix ⟨.ipv4, [169, 254, 0, 0], rfl⟩ 16 "169.254.0.0/16"]

def privateIpv6Ranges : List AddressRange :=
  [.ofPrefix ⟨.ipv6, [0, 0, 0, 0, 0, 0, 0, 0, 0, 0, 0, 0, 0, 0, 0, 1], rfl⟩ 128 "::1/128",
   .ofPrefix ⟨.ipv6, [0xfe, 0xc0, 0, 0, 0, 0, 0, 0, 0, 0, 0, 0, 0, 0, 0, 0], rfl⟩ 10 "fec0::/10",
   .ofPrefix ⟨.ipv6, [0xfe, 0x80, 0, 0, 0, 0, 0, 0, 0, 0, 0, 0, 0, 0, 0, 0], rfl⟩ 10 "fe80::/10",
   .ofPrefix ⟨.ipv6, [0xfc, 0, 0, 0, 0, 0, 0, 0, 0, 0, 0, 0, 0, 0, 0, 0], rfl⟩ 7 "fc00::/7",
   .ofPrefix ⟨.ipv6, [0xfd, 0, 0, 0, 0, 0, 0, 0, 0, 0, 0, 0, 0, 0, 0, 0], rfl⟩ 8 "fd00::/8"]

def privateRanges : Family → List AddressRange
  | .ipv4 => privateIpv4Ranges
  | .ipv6 => privateIpv6Ranges

inductive Privacy where
  | privateUse
  | publicUse
  deriving DecidableEq, Repr

def Privacy.word : Privacy → Text
  | .privateUse => "private"
  | .publicUse => "public"

namespace Address

def isPrivate (a : Address) : Bool := (privateRanges a.family).any (·.contains a)

def privacy (a : Address) : Privacy := if a.isPrivate then .privateUse else .publicUse

end Address
end Forwarding
