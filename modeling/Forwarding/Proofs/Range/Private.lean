import Forwarding.Proofs.Range.Mask
import Forwarding.Range.Private

/-!
Membership in the private blocks, read off the first two bytes of an address. Of the IPv6 blocks all
but the loopback address begin at high addresses, so a low address is private only when it is the
loopback address.
-/
namespace Forwarding.Address

variable {a : Address} {first second : UInt8} {others : List UInt8}

def loopback : Address := ⟨.ipv6, List.replicate 15 0 ++ [1], rfl⟩

theorem number_inj {b : Address} (hfamily : a.family = b.family) : a.number = b.number ↔ a = b := by
  constructor
  · intro h
    have hlength : a.bytes.length = b.bytes.length := by
      rw [a.bytes_length, b.bytes_length, hfamily]
    have hbytes : a.bytes = b.bytes := bigEndian_injective hlength h
    rw [Address.mk.injEq]
    exact ⟨hfamily, hbytes⟩
  · intro h
    rw [h]

theorem exists_number_eq (hbytes : a.bytes = first :: second :: others) :
    ∃ low < 2 ^ (8 * others.length),
      a.number = 2 ^ (8 * (others.length + 1)) * first.toNat +
        (2 ^ (8 * others.length) * second.toNat + low) := by
  refine ⟨bigEndian others, bigEndian_lt others, ?_⟩
  rw [number, hbytes, bigEndian_cons, bigEndian_cons, List.length_cons]

theorem length_others (hbytes : a.bytes = first :: second :: others) :
    others.length = a.family.width - 2 := by
  rw [← a.bytes_length, hbytes]
  rfl

/-- The private addresses of IPv4. -/
theorem isPrivate_iff_of_ipv4 (hfamily : a.family = .ipv4)
    (hbytes : a.bytes = first :: second :: others) :
    a.isPrivate ↔ first = 10 ∨ first = 172 ∧ 16 ≤ second ∧ second ≤ 31 ∨
      first = 192 ∧ second = 168 ∨ first = 127 ∨ first = 169 ∧ second = 254 := by
  obtain ⟨low, hlow, hnumber⟩ := exists_number_eq hbytes
  have hothers : others.length = 2 := by rw [length_others hbytes, hfamily, Family.width]
  have hten : number ⟨.ipv4, [10, 0, 0, 0], rfl⟩ = 10 * 2 ^ 24 := rfl
  have hlarge : number ⟨.ipv4, [172, 16, 0, 0], rfl⟩ = 172 * 2 ^ 24 + 16 * 2 ^ 16 := rfl
  have hsmall : number ⟨.ipv4, [192, 168, 0, 0], rfl⟩ = 192 * 2 ^ 24 + 168 * 2 ^ 16 := rfl
  have hloop : number ⟨.ipv4, [127, 0, 0, 0], rfl⟩ = 127 * 2 ^ 24 := rfl
  have hlink : number ⟨.ipv4, [169, 254, 0, 0], rfl⟩ = 169 * 2 ^ 24 + 254 * 2 ^ 16 := rfl
  have hsecond := second.toNat_lt
  rw [isPrivate, hfamily, privateRanges, privateIpv4Ranges]
  simp (disch := decide) only [List.any_cons, List.any_nil, Bool.or_eq_true, Bool.false_eq_true,
    or_false, AddressRange.contains_ofPrefix_iff, hfamily, true_and, Family.width, hten, hlarge,
    hsmall, hloop, hlink, ← UInt8.toNat_inj, UInt8.le_iff_toNat_le, UInt8.toNat_ofNat]
  rw [hothers] at hlow hnumber
  omega

/-- The private addresses of IPv6: loopback, unique local, link-local and site-local. -/
theorem isPrivate_iff_of_ipv6 (hfamily : a.family = .ipv6)
    (hbytes : a.bytes = first :: second :: others) :
    a.isPrivate ↔ a = loopback ∨ first = 0xfc ∨ first = 0xfd ∨ first = 0xfe ∧ 0x80 ≤ second := by
  obtain ⟨low, hlow, hnumber⟩ := exists_number_eq hbytes
  have hothers : others.length = 14 := by rw [length_others hbytes, hfamily, Family.width]
  have hloopback : a = loopback ↔ a.number = 1 := (number_inj hfamily).symm
  have hone : number ⟨.ipv6, [0, 0, 0, 0, 0, 0, 0, 0, 0, 0, 0, 0, 0, 0, 0, 1], rfl⟩ = 1 := rfl
  have hsite : number ⟨.ipv6, [0xfe, 0xc0, 0, 0, 0, 0, 0, 0, 0, 0, 0, 0, 0, 0, 0, 0], rfl⟩ =
      0xfec0 * 2 ^ 112 := rfl
  have hlink : number ⟨.ipv6, [0xfe, 0x80, 0, 0, 0, 0, 0, 0, 0, 0, 0, 0, 0, 0, 0, 0], rfl⟩ =
      0xfe80 * 2 ^ 112 := rfl
  have hunique : number ⟨.ipv6, [0xfc, 0, 0, 0, 0, 0, 0, 0, 0, 0, 0, 0, 0, 0, 0, 0], rfl⟩ =
      0xfc * 2 ^ 120 := rfl
  have hlocal : number ⟨.ipv6, [0xfd, 0, 0, 0, 0, 0, 0, 0, 0, 0, 0, 0, 0, 0, 0, 0], rfl⟩ =
      0xfd * 2 ^ 120 := rfl
  have hsecond := second.toNat_lt
  rw [isPrivate, hfamily, privateRanges, privateIpv6Ranges]
  simp (disch := decide) only [List.any_cons, List.any_nil, Bool.or_eq_true, Bool.false_eq_true,
    or_false, AddressRange.contains_ofPrefix_iff, hfamily, true_and, Family.width, hloopback, hone,
    hsite, hlink, hunique, hlocal, ← UInt8.toNat_inj, UInt8.le_iff_toNat_le, UInt8.toNat_ofNat]
  rw [hothers] at hlow hnumber
  omega

/-- An IPv6 address that begins below the high blocks is private only as the loopback address. -/
theorem isPrivate_iff_loopback {a : Address} (hfamily : a.family = .ipv6)
    (hfirst : ∃ first ∈ a.bytes.head?, first < 0xa0) : a.isPrivate ↔ a = loopback := by
  obtain ⟨first, hhead, hlow⟩ := hfirst
  obtain ⟨others, hbytes⟩ := List.head?_eq_some_iff.mp hhead
  cases others with
  | nil =>
    have hlength := a.bytes_length
    simp [hbytes, hfamily, Family.width] at hlength
  | cons second others =>
    have hlow : first.toNat < 160 := UInt8.lt_iff_toNat_lt.mp hlow
    have hhigh : ¬(first = 0xfc ∨ first = 0xfd ∨ first = 0xfe ∧ 0x80 ≤ second) := by
      simp only [← UInt8.toNat_inj, UInt8.toNat_ofNat]
      omega
    rw [isPrivate_iff_of_ipv6 hfamily hbytes, or_iff_left hhigh]

end Forwarding.Address
