import Forwarding.Proofs.Range.Block
import Forwarding.Proofs.Range.Private

/-!
Blocks as intervals. The addresses of a block in text are those from its base on, as many as the
bits behind the prefix give, and the private addresses of a family are those in the intervals of its
private blocks.
-/
namespace Forwarding.AddressRange

/-- The private blocks are the blocks that their labels spell. -/
theorem parse_label {family : Family} {r : AddressRange} (h : r ∈ privateRanges family) :
    parse r.label = .ok r ∧ r.family = family := by
  cases family with
  | ipv4 =>
    simp only [privateRanges, privateIpv4Ranges, List.mem_cons, List.not_mem_nil, or_false] at h
    rcases h with rfl | rfl | rfl | rfl | rfl <;> exact ⟨rfl, rfl⟩
  | ipv6 =>
    simp only [privateRanges, privateIpv6Ranges, List.mem_cons, List.not_mem_nil, or_false] at h
    rcases h with rfl | rfl | rfl | rfl | rfl <;> exact ⟨rfl, rfl⟩

theorem isPrivate_iff_interval (a : Address) :
    a.isPrivate ↔ ∃ r ∈ privateRanges a.family, ∃ base length,
      IsBlock r.label base length ∧ base.number ≤ a.number ∧
        a.number ≤ base.number + 2 ^ (8 * a.family.width - length) - 1 := by
  rw [Address.isPrivate, List.any_eq_true]
  refine exists_congr fun r => and_congr_right fun hr => ?_
  obtain ⟨hparse, hfamily⟩ := parse_label hr
  obtain ⟨base, length, hblock⟩ := exists_isBlock_of_parse hparse
  have hcontains {base : Address} {length : Nat} (hblock : IsBlock r.label base length) :
      r.contains a ↔ base.number ≤ a.number ∧
        a.number ≤ base.number + 2 ^ (8 * a.family.width - length) - 1 := by
    obtain ⟨haligned, heq⟩ := eq_ofPrefix_of_parse hparse hblock
    have hbase : a.family = base.family := by rw [← hfamily, heq, ofPrefix]
    rw [heq, contains_ofPrefix_iff hblock.length_le haligned, ← hbase, eq_self, true_and]
  constructor
  · intro h
    exact ⟨base, length, hblock, (hcontains hblock).mp h⟩
  · intro h
    obtain ⟨base, length, hblock, hinterval⟩ := h
    exact (hcontains hblock).mpr hinterval

/-- Comparing the bytes under a mask is membership of the number in a range. For any base and mask
it compares the numbers under the mask; a block in text has as many ones in front as it says, a base
within them, and the interval of the addresses from the base on; and an address is private when it
lies in the interval of some private block of its family. -/
theorem contains_interval :
    (∀ (r : AddressRange) (a : Address), r.contains a ↔ a.family = r.family ∧
      a.number &&& bigEndian r.mask = bigEndian r.base &&& bigEndian r.mask) ∧
    (∀ (t : Text) (r : AddressRange), parse t = .ok r → ∃ base length, IsBlock t base length ∧
      length ≤ 8 * r.family.width ∧ r.family = base.family ∧ r.base = base.bytes ∧ r.label = t ∧
      bigEndian r.mask = onesThenZeros length (8 * r.family.width - length) ∧
      bigEndian r.base &&& bigEndian r.mask = bigEndian r.base ∧
      ∀ a : Address, r.contains a ↔ a.family = r.family ∧ bigEndian r.base ≤ a.number ∧
        a.number ≤ bigEndian r.base + 2 ^ (8 * r.family.width - length) - 1) ∧
    (∀ (family : Family), ∀ r ∈ privateRanges family, parse r.label = .ok r ∧ r.family = family) ∧
    (∀ a : Address, a.isPrivate ↔ ∃ r ∈ privateRanges a.family, ∃ base length,
      IsBlock r.label base length ∧ base.number ≤ a.number ∧
        a.number ≤ base.number + 2 ^ (8 * a.family.width - length) - 1) ∧
    ∀ (a : Address) (first second : UInt8) (others : List UInt8),
      a.bytes = first :: second :: others →
      (a.family = .ipv4 → (a.isPrivate ↔ first = 10 ∨ first = 172 ∧ 16 ≤ second ∧ second ≤ 31 ∨
        first = 192 ∧ second = 168 ∨ first = 127 ∨ first = 169 ∧ second = 254)) ∧
      (a.family = .ipv6 → (a.isPrivate ↔ a = Address.loopback ∨ first = 0xfc ∨ first = 0xfd ∨
        first = 0xfe ∧ 0x80 ≤ second)) := by
  refine ⟨contains_iff_land, ?_, ?_, isPrivate_iff_interval, ?_⟩
  · intro t r hparse
    obtain ⟨base, length, hblock⟩ := exists_isBlock_of_parse hparse
    obtain ⟨haligned, rfl⟩ := eq_ofPrefix_of_parse hparse hblock
    have hle := hblock.length_le
    refine ⟨base, length, hblock, hle, rfl, rfl, rfl, bigEndian_prefixMask hle, ?_, ?_⟩
    · exact (isAligned_iff_land base (prefixMask_length _ _)).mp haligned
    · intro a
      exact contains_ofPrefix_iff hle haligned
  · intro family r hr
    exact parse_label hr
  · intro a first second others hbytes
    exact ⟨fun hfamily => Address.isPrivate_iff_of_ipv4 hfamily hbytes,
      fun hfamily => Address.isPrivate_iff_of_ipv6 hfamily hbytes⟩

/-- The block `172.16.0.0/12` ends at `172.31.255.255`, and the first two bytes tell that the next
address is public while `fec0::1` is private. -/
theorem contains_interval_boundaries :
    (∃ r ∈ privateRanges .ipv4, parse "172.16.0.0/12" = .ok r ∧
      r.contains ⟨.ipv4, [172, 31, 255, 255], rfl⟩ ∧ ¬r.contains ⟨.ipv4, [172, 32, 0, 0], rfl⟩) ∧
    ¬Address.isPrivate ⟨.ipv4, [172, 32, 0, 0], rfl⟩ ∧
    Address.isPrivate ⟨.ipv6, [0xfe, 0xc0, 0, 0, 0, 0, 0, 0, 0, 0, 0, 0, 0, 0, 0, 1], rfl⟩ := by
  obtain ⟨-, htext, htable, -, hbytes⟩ := contains_interval
  have hmem : privateIpv4Ranges.get ⟨1, by decide⟩ ∈ privateRanges .ipv4 := List.get_mem _ _
  obtain ⟨hparse, -⟩ := htable .ipv4 _ hmem
  refine ⟨⟨_, hmem, hparse, ?_⟩, ?_, ?_⟩
  · obtain ⟨base, length, -, hle, -, -, -, hmask, -, hinterval⟩ := htext _ _ hparse
    have hlengths : ∀ n ≤ 32, onesThenZeros 12 20 = onesThenZeros n (32 - n) → n = 12 := by decide
    obtain rfl := hlengths length hle hmask
    rw [hinterval, hinterval]
    decide
  · rw [(hbytes _ 172 32 [0, 0] rfl).1 rfl]
    decide
  · rw [(hbytes _ 0xfe 0xc0 _ rfl).2 rfl]
    decide

end Forwarding.AddressRange
