import Forwarding.Proofs.Address.Reading
import Forwarding.Range.Cidr

/-!
Blocks in text. A text spells at most one block, of a base and a count of leading bits that matter,
and it is accepted when the base has no other bits.
-/
namespace Forwarding

def IsAddressText (t : Text) (a : Address) : Prop :=
  match a.family with
  | .ipv4 => IsQuad t a.bytes
  | .ipv6 => IsZoned t a.bytes

/-- The count of leading bits that stands behind the slash of a block. It is a decimal number, or
for IPv4 a quad of as many ones and then zeros, or of as many zeros and then ones; all zeros and all
ones are read in the former way. Without a slash all bits count. -/
inductive IsPrefixLength (family : Family) : Option Text → Nat → Prop where
  | whole : IsPrefixLength family none (8 * family.width)
  | decimal {t : Text} {n : Nat} (h : Text.IsNumeral 10 t n) (hdigits : t.length ≤ Text.digitLimit)
      (hle : n ≤ 8 * family.width) : IsPrefixLength family (some t) n
  | netmask {t : Text} {n : Nat} (hfamily : family = .ipv4) (hle : n ≤ 32)
      (h : IsQuad t (AddressRange.prefixMask 4 n)) : IsPrefixLength family (some t) n
  | hostmask {t : Text} {n : Nat} (hfamily : family = .ipv4) (hpos : 1 ≤ n) (hlt : n < 32)
      (h : IsQuad t (AddressRange.complement (AddressRange.prefixMask 4 n))) :
      IsPrefixLength family (some t) n

def blockText (addr : Text) : Option Text → Text
  | none => addr
  | some mask => addr ++ '/' :: mask

def IsBlock (t : Text) (base : Address) (length : Nat) : Prop :=
  ∃ addr mask, t = blockText addr mask ∧ IsAddressText addr base ∧
    IsPrefixLength base.family mask length

theorem IsQuad.slash_not_mem {t : Text} {bytes : List UInt8} (h : IsQuad t bytes) : '/' ∉ t := by
  intro hmem
  exact absurd (h.mem_chars hmem) (by decide)

namespace IsPrefixLength

variable {family : Family} {mask : Option Text} {n : Nat}

theorem le (h : IsPrefixLength family mask n) : n ≤ 8 * family.width := by
  cases h with
  | whole => exact Nat.le_refl _
  | decimal _ _ hle => exact hle
  | netmask hfamily hle _ => rwa [hfamily]
  | hostmask hfamily _ hlt _ =>
    rw [hfamily]
    exact Nat.le_of_lt hlt

theorem slash_not_mem (h : IsPrefixLength family mask n) : ∀ t ∈ mask, '/' ∉ t := by
  intro t ht
  cases h with
  | whole => cases ht
  | decimal hnumeral _ _ =>
    obtain rfl := Option.some.inj ht
    exact hnumeral.not_mem (by decide)
  | netmask _ _ hmask =>
    obtain rfl := Option.some.inj ht
    exact hmask.slash_not_mem
  | hostmask _ _ _ hmask =>
    obtain rfl := Option.some.inj ht
    exact hmask.slash_not_mem

end IsPrefixLength

theorem IsBlock.length_le {t : Text} {base : Address} {length : Nat} (h : IsBlock t base length) :
    length ≤ 8 * base.family.width := by
  obtain ⟨_, _, -, -, hlength⟩ := h
  exact hlength.le

namespace Address

variable {t : Text} {a : Address}

theorem isAddressText_iff : IsAddressText t a ↔
    a.family = .ipv4 ∧ IsQuad t a.bytes ∨ a.family = .ipv6 ∧ IsZoned t a.bytes := by
  unfold IsAddressText
  cases a.family <;> simp

theorem readIpv4?_iff_isAddressText :
    readIpv4? t = some a ↔ a.family = .ipv4 ∧ IsAddressText t a := by
  rw [readIpv4?_eq_some_iff]
  refine and_congr_right fun hfamily => ?_
  simp [IsAddressText, hfamily]

theorem readIpv6?_iff_isAddressText :
    readIpv6? t = some a ↔ a.family = .ipv6 ∧ IsAddressText t a := by
  rw [readIpv6?_eq_some_iff]
  refine and_congr_right fun hfamily => ?_
  simp [IsAddressText, hfamily]

theorem eq_of_isAddressText {b : Address} (ha : IsAddressText t a) (hb : IsAddressText t b) :
    a = b := by
  rw [isAddressText_iff, ← read?_eq_some_iff] at ha hb
  exact Option.some.inj (ha.symm.trans hb)

theorem slash_not_mem (h : IsAddressText t a) : '/' ∉ t := by
  rcases isAddressText_iff.mp h with ⟨-, hquad⟩ | ⟨-, hslash, -⟩
  · exact hquad.slash_not_mem
  · exact hslash

end Address

namespace AddressRange

variable {t addr label : Text} {mask : Option Text} {base : Address} {family : Family}
  {length n : Nat} {bytes : List UInt8} {r : AddressRange}

theorem find?_range_eq_some_iff {α : Type} [DecidableEq α] {f : Nat → α} {count n : Nat} {x : α}
    (hinjective : ∀ i < count, ∀ j < count, f i = f j → i = j) :
    (List.range count).find? (fun i => f i = x) = some n ↔ n < count ∧ f n = x := by
  rw [List.find?_range_eq_some, decide_eq_true_eq, List.mem_range]
  constructor
  · intro h
    obtain ⟨hx, hn, -⟩ := h
    exact ⟨hn, hx⟩
  · intro h
    obtain ⟨hn, hx⟩ := h
    refine ⟨hx, hn, ?_⟩
    intro i hi
    have hne : f i ≠ x := by
      intro hix
      exact hi.ne (hinjective i (hi.trans hn) n hn (hix.trans hx.symm))
    simpa using hne

theorem prefixMask_injective : ∀ i < 33, ∀ j < 33, prefixMask 4 i = prefixMask 4 j → i = j := by
  decide +kernel

/-- Of the masks turned over, only all zeros and all ones are masks themselves. -/
theorem complement_prefixMask : ∀ n < 33,
    (∃ k < 33, prefixMask 4 k = complement (prefixMask 4 n)) ↔ n = 0 ∨ n = 32 := by
  decide +kernel

theorem complement_complement (bytes : List UInt8) : complement (complement bytes) = bytes := by
  rw [complement, complement, List.map_map]
  exact List.map_id'' (fun b => UInt8.not_not) bytes

/-- A mask in the order in which its readings are tried. -/
theorem maskBytes_eq_some_iff :
    ((List.range 33).find? (fun n => prefixMask 4 n = bytes) <|>
      (List.range 33).find? (fun n => prefixMask 4 n = complement bytes)) = some n ↔
    n < 33 ∧ bytes = prefixMask 4 n ∨ 1 ≤ n ∧ n < 32 ∧ bytes = complement (prefixMask 4 n) := by
  rw [Option.orElse_eq_orElse, Option.orElse_eq_or, Option.or_eq_some_iff,
    find?_range_eq_some_iff prefixMask_injective, find?_range_eq_some_iff prefixMask_injective]
  constructor
  · intro h
    rcases h with ⟨hn, hmask⟩ | ⟨hnone, hn, hmask⟩
    · exact Or.inl ⟨hn, hmask.symm⟩
    · have hbytes : bytes = complement (prefixMask 4 n) := by rw [hmask, complement_complement]
      have hnot : ¬(n = 0 ∨ n = 32) := by
        rw [← complement_prefixMask n hn, ← hbytes]
        intro hex
        obtain ⟨k, hk, hkmask⟩ := hex
        exact List.find?_eq_none.mp hnone k (List.mem_range.mpr hk) (decide_eq_true hkmask)
      exact Or.inr ⟨by omega, by omega, hbytes⟩
  · intro h
    rcases h with ⟨hn, hbytes⟩ | ⟨hpos, hlt, hbytes⟩
    · exact Or.inl ⟨hn, hbytes.symm⟩
    · refine Or.inr ⟨?_, by omega, by rw [hbytes, complement_complement]⟩
      rw [List.find?_eq_none]
      intro k hk hkmask
      have hex : ∃ k < 33, prefixMask 4 k = complement (prefixMask 4 n) :=
        ⟨k, List.mem_range.mp hk, hbytes ▸ of_decide_eq_true hkmask⟩
      have hn := (complement_prefixMask n (by omega)).mp hex
      omega

theorem dottedMaskLength?_eq_some_iff : dottedMaskLength? t = some n ↔
    n < 33 ∧ IsQuad t (prefixMask 4 n) ∨
      1 ≤ n ∧ n < 32 ∧ IsQuad t (complement (prefixMask 4 n)) := by
  simp only [dottedMaskLength?, Option.bind_eq_bind, Option.bind_eq_some_iff,
    Dotted.bytes?_eq_some_iff, maskBytes_eq_some_iff]
  constructor
  · intro h
    obtain ⟨bytes, hquad, ⟨hn, rfl⟩ | ⟨hpos, hlt, rfl⟩⟩ := h
    · exact Or.inl ⟨hn, hquad⟩
    · exact Or.inr ⟨hpos, hlt, hquad⟩
  · intro h
    rcases h with ⟨hn, hquad⟩ | ⟨hpos, hlt, hquad⟩
    · exact ⟨_, hquad, Or.inl ⟨hn, rfl⟩⟩
    · exact ⟨_, hquad, Or.inr ⟨hpos, hlt, rfl⟩⟩

theorem prefixLength?_eq_some_iff : prefixLength? family t = some n ↔
    Text.IsNumeral 10 t n ∧ t.length ≤ Text.digitLimit ∧ n ≤ 8 * family.width := by
  unfold prefixLength?
  split
  · next hdigits =>
    simp [Option.filter_eq_some_iff, Text.numeral?_eq_some_iff, hdigits]
  · next hdigits => simp [hdigits]

theorem prefixLength?_of_isQuad (h : IsQuad t bytes) : prefixLength? family t = none := by
  rw [Option.eq_none_iff_forall_ne_some]
  intro n hn
  obtain ⟨hnumeral, -⟩ := prefixLength?_eq_some_iff.mp hn
  exact hnumeral.not_mem (by decide) h.dot_mem

/-- What stands behind the slash is read as the grammar reads it. -/
theorem maskLength?_eq_some_iff :
    maskLength? family mask = some n ↔ IsPrefixLength family mask n := by
  constructor
  · intro h
    cases mask with
    | none =>
      obtain rfl := Option.some.inj h
      exact .whole
    | some t =>
      simp only [maskLength?, Option.orElse_eq_orElse, Option.orElse_eq_or,
        Option.or_eq_some_iff] at h
      rcases h with hdecimal | ⟨-, hdotted⟩
      · obtain ⟨hnumeral, hdigits, hle⟩ := prefixLength?_eq_some_iff.mp hdecimal
        exact .decimal hnumeral hdigits hle
      · cases family with
        | ipv4 =>
          rcases dottedMaskLength?_eq_some_iff.mp hdotted with ⟨hn, hquad⟩ | ⟨hpos, hlt, hquad⟩
          · exact .netmask rfl (Nat.le_of_lt_succ hn) hquad
          · exact .hostmask rfl hpos hlt hquad
        | ipv6 => simp at hdotted
  · intro h
    cases h with
    | whole => rfl
    | decimal hnumeral hdigits hle =>
      simp [maskLength?, prefixLength?_eq_some_iff.mpr ⟨hnumeral, hdigits, hle⟩]
    | netmask hfamily hle hquad =>
      subst hfamily
      rw [maskLength?, prefixLength?_of_isQuad hquad]
      exact dottedMaskLength?_eq_some_iff.mpr (Or.inl ⟨Nat.lt_succ_of_le hle, hquad⟩)
    | hostmask hfamily hpos hlt hquad =>
      subst hfamily
      rw [maskLength?, prefixLength?_of_isQuad hquad]
      exact dottedMaskLength?_eq_some_iff.mpr (Or.inr ⟨hpos, hlt, hquad⟩)

theorem read?_eq_some_iff : read? family addr mask = some (base, length) ↔
    base.family = family ∧ IsAddressText addr base ∧ IsPrefixLength family mask length := by
  cases family with
  | ipv4 =>
    simp [read?, Option.bind_eq_some_iff, Address.readIpv4?_iff_isAddressText,
      maskLength?_eq_some_iff, and_assoc]
  | ipv6 =>
    simp [read?, Option.bind_eq_some_iff, Address.readIpv6?_iff_isAddressText,
      maskLength?_eq_some_iff, and_assoc]

/-- At most one of the families reads the text. -/
theorem readEither?_eq_some_iff :
    (read? .ipv4 addr mask <|> read? .ipv6 addr mask) = some (base, length) ↔
      IsAddressText addr base ∧ IsPrefixLength base.family mask length := by
  rw [Option.orElse_eq_orElse, Option.orElse_eq_or, Option.or_eq_some_iff, read?_eq_some_iff,
    read?_eq_some_iff]
  constructor
  · intro h
    rcases h with ⟨hfamily, haddr, hmask⟩ | ⟨-, hfamily, haddr, hmask⟩
    · exact ⟨haddr, hfamily ▸ hmask⟩
    · exact ⟨haddr, hfamily ▸ hmask⟩
  · intro h
    obtain ⟨haddr, hmask⟩ := h
    cases hfamily : base.family with
    | ipv4 => exact Or.inl ⟨rfl, haddr, hfamily ▸ hmask⟩
    | ipv6 =>
      refine Or.inr ⟨?_, rfl, haddr, hfamily ▸ hmask⟩
      rw [Option.eq_none_iff_forall_ne_some]
      intro found hfound
      obtain ⟨hother, haddr', -⟩ := read?_eq_some_iff.mp hfound
      obtain rfl := Address.eq_of_isAddressText haddr haddr'
      rw [hfamily] at hother
      cases hother

theorem pieces_blockText (haddr : '/' ∉ addr) (hmask : ∀ t ∈ mask, '/' ∉ t) :
    Text.pieces '/' (blockText addr mask) = addr :: mask.toList := by
  have hparts : ∀ part ∈ addr :: mask.toList, '/' ∉ part := by
    simpa [haddr] using hmask
  rw [← Text.pieces_intercalate (List.cons_ne_nil _ _) hparts]
  cases mask with
  | none => simp [blockText]
  | some t => simp [blockText, List.intercalate_cons_cons]

theorem parse_of_read? (haddr : '/' ∉ addr) (hmask : ∀ t ∈ mask, '/' ∉ t)
    (hread : (read? .ipv4 addr mask <|> read? .ipv6 addr mask) = some (base, length)) :
    parse (blockText addr mask) = aligned (blockText addr mask) addr base length := by
  have hpieces := pieces_blockText haddr hmask
  cases mask with
  | none => simp only [parse, hpieces, Option.toList_none, hread]
  | some t => simp only [parse, hpieces, Option.toList_some, hread]

theorem aligned_eq_ok_iff : aligned label addr base length = .ok r ↔
    isAligned base.bytes (prefixMask base.family.width length) ∧
      r = ofPrefix base length label := by
  unfold aligned
  split
  · next haligned => simp [haligned, eq_comm]
  · next haligned => simp [haligned]

theorem exists_parse_eq_aligned (h : IsBlock t base length) :
    ∃ addr, parse t = aligned t addr base length := by
  obtain ⟨addr, mask, rfl, haddr, hmask⟩ := h
  have hread := readEither?_eq_some_iff.mpr ⟨haddr, hmask⟩
  exact ⟨addr, parse_of_read? (Address.slash_not_mem haddr) hmask.slash_not_mem hread⟩

/-- An accepted text gives the block of the base and the length that it spells. -/
theorem eq_ofPrefix_of_parse (h : parse t = .ok r) (hblock : IsBlock t base length) :
    isAligned base.bytes (prefixMask base.family.width length) ∧ r = ofPrefix base length t := by
  obtain ⟨addr, haligned⟩ := exists_parse_eq_aligned hblock
  exact aligned_eq_ok_iff.mp (haligned.symm.trans h)

theorem exists_isBlock_of_parse (h : parse t = .ok r) : ∃ base length, IsBlock t base length := by
  have hjoin := Text.intercalate_pieces '/' t
  simp only [parse] at h
  split at h
  · next addr hpieces =>
    split at h
    · next base length hread =>
      refine ⟨base, length, addr, none, ?_, readEither?_eq_some_iff.mp hread⟩
      simpa [blockText, hpieces] using hjoin.symm
    · cases h
  · next addr mask hpieces =>
    split at h
    · next base length hread =>
      refine ⟨base, length, addr, some mask, ?_, readEither?_eq_some_iff.mp hread⟩
      simpa [blockText, hpieces, List.intercalate_cons_cons] using hjoin.symm
    · cases h
  · cases h

end AddressRange
end Forwarding
