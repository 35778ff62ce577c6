import Forwarding.Proofs.Address.Canonical

/-!
Bare address tokens of headers, which begin with a decimal digit or a colon. They reach every IPv4
address; of IPv6 they reach the addresses that begin below `a0`, less those that stand for an IPv4
address.
-/
namespace Forwarding

variable {c : Char} {t rest : Text} {bytes : List UInt8} {high low : UInt8} {a : Address}

/-- The first digit of a group bounds its first byte. -/
theorem IsGroup.high_lt (h : IsGroup (c :: rest) high low) (hc : c.isDigit) : high < 0xa0 := by
  obtain ⟨d, hd, -, hlt⟩ := h.numeral.exists_lead (by decide)
  have hdecimal : d < 10 := (hd.isDigit_iff (by decide)).mp hc
  have hrest : rest.length ≤ 3 := Nat.le_of_succ_le_succ h.length_le
  have hbound : 256 * high.toNat + low.toNat < 10 * 16 ^ 3 :=
    calc 256 * high.toNat + low.toNat
        < (d + 1) * 16 ^ rest.length := hlt
      _ ≤ 10 * 16 ^ 3 := Nat.mul_le_mul hdecimal (Nat.pow_le_pow_right (by decide) hrest)
  rw [UInt8.lt_iff_toNat_lt]
  change high.toNat < 160
  omega

/-- A full group with a low first byte begins with a decimal digit. -/
theorem IsGroup.isDigit_of_high_lt (h : IsGroup (c :: rest) high low) (hrest : rest.length = 3)
    (hhigh : high < 0xa0) : c.isDigit := by
  obtain ⟨d, hd, hle, -⟩ := h.numeral.exists_lead (by decide)
  rw [UInt8.lt_iff_toNat_lt] at hhigh
  change high.toNat < 160 at hhigh
  have hlow := low.toNat_lt
  rw [hrest] at hle
  exact (hd.isDigit_iff (by decide)).mpr (by omega)

theorem IsGroup.head_eq_zero (h : IsGroup (c :: rest) 0 0) : c = '0' := by
  obtain ⟨d, hd, hle, -⟩ := h.numeral.exists_lead (by decide)
  have hpos : 0 < 16 ^ rest.length := Nat.pow_pos (by decide)
  have hzero : d = 0 := by
    have hprod : d * 16 ^ rest.length = 0 := Nat.le_zero.mp hle
    exact (Nat.mul_eq_zero.mp hprod).resolve_right hpos.ne'
  subst hzero
  obtain ⟨-, hlower | hupper⟩ := hd
  · exact (Option.some.inj hlower).symm
  · exact (Option.some.inj hupper).symm

theorem IsGroup.exists_cons {part more : Text} {parts : List Text} (h : IsGroup part high low)
    (ht : c :: rest = colonJoin (part :: parts) ++ more) : ∃ part', part = c :: part' := by
  obtain ⟨joined, hjoined⟩ := exists_colonJoin_cons part parts
  obtain ⟨d, part', rfl⟩ := List.exists_cons_of_ne_nil h.numeral.1
  rw [hjoined] at ht
  exact ⟨part', by rw [(List.cons.inj ht).1]⟩

/-- A text of groups begins with a group, or with the double colon for zeros. -/
theorem IsGroups.head_cases (h : IsGroups (c :: rest) bytes) :
    c = ':' ∧ bytes.head? = some 0 ∨
      ∃ part high low others, IsGroup (c :: part) high low ∧ bytes = high :: low :: others := by
  generalize ht : c :: rest = t at h
  cases h with
  | full hparts hlen =>
    cases hparts with
    | nil => simp at hlen
    | quad hquad => simp [hquad.length_eq] at hlen
    | cons hgroup _ =>
      rw [← List.append_nil (colonJoin _)] at ht
      obtain ⟨part, rfl⟩ := hgroup.exists_cons ht
      exact Or.inr ⟨part, _, _, _, hgroup, rfl⟩
  | elided hleft hright hzeros htotal =>
    cases hleft with
    | nil =>
      -- with no group in front the double colon stands first, and so do its zeros
      obtain ⟨count, hcount⟩ := Nat.exists_eq_add_of_le' (Nat.mul_le_mul_left 2 hzeros)
      refine Or.inl ⟨(List.cons.inj ht).1, ?_⟩
      rw [hcount, List.replicate_succ]
      simp
    | cons hgroup _ =>
      obtain ⟨part, rfl⟩ := hgroup.exists_cons ht
      exact Or.inr ⟨part, _, _, _, hgroup, rfl⟩

/-- A zone does not change how a text begins. -/
theorem IsZoned.exists_groups (h : IsZoned (c :: rest) bytes) :
    ∃ body, IsGroups (c :: body) bytes := by
  obtain ⟨-, hgroups | ⟨body, zone, heq, hgroups, -, -⟩⟩ := h
  · exact ⟨rest, hgroups⟩
  · obtain ⟨d, body', rfl⟩ := List.exists_cons_of_ne_nil (List.ne_nil_of_mem hgroups.colon_mem)
    rw [(List.cons.inj heq).1]
    exact ⟨body', hgroups⟩

theorem IsZoned.head_lt (h : IsZoned (c :: rest) bytes) (hc : c.isDigit ∨ c = ':') :
    ∃ first ∈ bytes.head?, first < 0xa0 := by
  obtain ⟨body, hgroups⟩ := h.exists_groups
  rcases hgroups.head_cases with ⟨-, hzero⟩ | ⟨part, high, low, others, hgroup, rfl⟩
  · exact ⟨0, hzero, by decide⟩
  · have hdigit : c.isDigit := by
      refine hc.resolve_right ?_
      rintro rfl
      exact hgroup.numeral.not_mem (by decide) (List.mem_cons_self ..)
    exact ⟨high, rfl, hgroup.high_lt hdigit⟩

theorem IsZoned.head_mapped {octets : List UInt8} (h : IsZoned (c :: rest) (mappedBytes octets)) :
    c.isDigit ∨ c = ':' := by
  obtain ⟨body, hgroups⟩ := h.exists_groups
  rcases hgroups.head_cases with ⟨hcolon, -⟩ | ⟨part, high, low, others, hgroup, heq⟩
  · exact Or.inr hcolon
  · obtain ⟨rfl, htail⟩ := List.cons.inj heq
    obtain ⟨rfl, -⟩ := List.cons.inj htail
    rw [hgroup.head_eq_zero]
    exact Or.inl (by decide)

theorem IsQuad.exists_cons (h : IsQuad t bytes) : ∃ c rest, t = c :: rest ∧ c.isDigit := by
  obtain ⟨octets, hread, hcount, rfl⟩ := h
  cases hread with
  | nil => simp at hcount
  | @cons octet b octets bytes hoctet _ =>
    obtain ⟨joined, hjoined⟩ := Text.exists_intercalate_cons '.' octet octets
    obtain ⟨c, part, rfl⟩ := List.exists_cons_of_ne_nil hoctet.numeral.1
    obtain ⟨d, hd, -⟩ := hoctet.numeral.exists_lead (by decide)
    exact ⟨c, part ++ joined, hjoined, (hd.isDigit_iff (by decide)).mpr hd.1⟩

namespace Address

/-- The addresses in reach of a token: all of IPv4, and of IPv6 those that begin below `a0` and
stand for no IPv4 address. -/
def IsReachable (a : Address) : Prop :=
  a.family = .ipv4 ∨ a.family = .ipv6 ∧ ¬a.isMapped ∧ ∃ first ∈ a.bytes.head?, first < 0xa0

/-- A token for an address: the dotted quad, or all eight groups in full. -/
def token (a : Address) : Text :=
  match a.family with
  | .ipv4 => Dotted.render a.bytes
  | .ipv6 => colonJoin ((Groups.ofBytes a.bytes).map (Text.ofNatPadded 16 4))

theorem length_ofNatPadded_group {n : Nat} (h : n < 256 * 256) :
    (Text.ofNatPadded 16 4 n).length = 4 := by
  have hlength := Groups.length_ofNat_group h
  simp only [Text.ofNatPadded, List.length_append, List.length_replicate]
  omega

theorem isGroups_padded (h : bytes.length = 16) :
    IsGroups (colonJoin ((Groups.ofBytes bytes).map (Text.ofNatPadded 16 4))) bytes := by
  have hrow : IsRow ((Groups.ofBytes bytes).map (Text.ofNatPadded 16 4))
      ((Groups.ofBytes bytes).flatMap Groups.groupBytes) := by
    refine Groups.isRow_map fun g hg => ⟨?_, ?_⟩
    · exact Text.isNumeral_ofNatPadded (by decide) (by decide) 4 g
    · exact (length_ofNatPadded_group (Groups.ofBytes_lt bytes g hg)).le
  rw [Groups.flatMap_ofBytes (by rw [h]; decide)] at hrow
  exact .full hrow.isTail h

theorem read?_token (a : Address) : read? a.token = some a := by
  rw [read?_eq_some_iff]
  obtain ⟨family, bytes, hlen⟩ := a
  cases family with
  | ipv4 => exact Or.inl ⟨rfl, Dotted.isQuad_render hlen⟩
  | ipv6 =>
    have hgroups := isGroups_padded hlen
    exact Or.inr ⟨rfl, hgroups.not_mem (by decide), Or.inl hgroups⟩

theorem mem_chars_token (a : Address) {c : Char} (hc : c ∈ a.token) : c ∈ ':' :: addressChars := by
  obtain ⟨family, bytes, hlen⟩ := a
  cases family with
  | ipv4 =>
    have hquad := Dotted.isQuad_render hlen
    exact List.mem_cons_of_mem _ (List.mem_cons.mpr (hquad.mem_chars hc))
  | ipv6 => exact (isGroups_padded hlen).mem_chars hc

theorem colon_not_mem_token (h : a.family = .ipv4) : ':' ∉ a.token := by
  obtain ⟨family, bytes, hlen⟩ := a
  obtain rfl : family = .ipv4 := h
  exact (Dotted.isQuad_render hlen).colon_not_mem

/-- The token of an address in reach begins with a decimal digit. -/
theorem exists_token_cons (h : a.IsReachable) : ∃ c rest, a.token = c :: rest ∧ c.isDigit := by
  rcases h with hfamily | ⟨hfamily, -, first, hfirst, hlow⟩
  · obtain ⟨family, bytes, hlen⟩ := a
    obtain rfl : family = .ipv4 := hfamily
    exact (Dotted.isQuad_render hlen).exists_cons
  · obtain ⟨family, bytes, hlen⟩ := a
    obtain rfl : family = .ipv6 := hfamily
    match bytes, hlen with
    | high :: low :: others, hlen =>
      obtain rfl : high = first := Option.some.inj hfirst
      have hg : 256 * high.toNat + low.toNat < 256 * 256 :=
        Groups.ofBytes_lt (high :: low :: others) _ (List.mem_cons_self ..)
      have hlength := length_ofNatPadded_group hg
      have htoken : token ⟨.ipv6, high :: low :: others, hlen⟩ =
          colonJoin (Text.ofNatPadded 16 4 (256 * high.toNat + low.toNat) ::
            (Groups.ofBytes others).map (Text.ofNatPadded 16 4)) := rfl
      have hgroup : IsGroup (Text.ofNatPadded 16 4 (256 * high.toNat + low.toNat)) high low :=
        ⟨Text.isNumeral_ofNatPadded (by decide) (by decide) 4 _, hlength.le⟩
      obtain ⟨c, part, hpart⟩ := List.exists_cons_of_ne_nil hgroup.numeral.1
      rw [hpart] at hgroup hlength htoken
      obtain ⟨joined, hjoined⟩ := exists_colonJoin_cons (c :: part)
        ((Groups.ofBytes others).map (Text.ofNatPadded 16 4))
      exact ⟨c, part ++ joined, htoken.trans hjoined,
        hgroup.isDigit_of_high_lt (by simpa using hlength) hlow⟩

end Address

namespace Literal

variable {l : Literal}

theorem ofToken?_eq_some_iff :
    ofToken? t = some l ↔
      (∃ c ∈ t.head?, c.isDigit ∨ c = ':') ∧ ∃ a, Address.read? t = some a ∧ l = ⟨a.unmap, t⟩ := by
  cases t with
  | nil => simp [ofToken?]
  | cons c rest =>
    have hhead : (∃ first ∈ (c :: rest).head?, first.isDigit ∨ first = ':') ↔
        (c.isDigit ∨ c = ':') := by
      simp
    rw [hhead, ofToken?]
    split
    · next hc => simp only [hc, true_and, parse?, Option.map_eq_some_iff, @eq_comm _ l]
    · next hc => simp only [hc, false_and, reduceCtorEq]

theorem spelling_of_ofToken? (h : ofToken? t = some l) : l.spelling = t := by
  obtain ⟨-, a, -, rfl⟩ := ofToken?_eq_some_iff.mp h
  rfl

theorem isReachable_of_ofToken? (h : ofToken? t = some l) : l.address.IsReachable := by
  obtain ⟨⟨c, hc, hfirst⟩, a, hread, rfl⟩ := ofToken?_eq_some_iff.mp h
  obtain ⟨rest, rfl⟩ := List.head?_eq_some_iff.mp hc
  by_cases hmapped : a.isMapped
  · exact Or.inl (Address.family_unmap_of_isMapped hmapped)
  · rw [Address.unmap_of_not_isMapped hmapped]
    rcases Address.read?_eq_some_iff.mp hread with ⟨hfamily, -⟩ | ⟨hfamily, hzoned⟩
    · exact Or.inl hfamily
    · exact Or.inr ⟨hfamily, hmapped, hzoned.head_lt hfirst⟩

theorem ofToken?_token (h : a.IsReachable) : ofToken? a.token = some ⟨a, a.token⟩ := by
  have hunmapped : ¬a.isMapped := by
    intro hmapped
    rcases h with hfamily | ⟨-, hnot, -⟩
    · simp [Address.isMapped_iff, hfamily] at hmapped
    · exact hnot hmapped
  obtain ⟨c, rest, htoken, hc⟩ := Address.exists_token_cons h
  rw [ofToken?_eq_some_iff]
  refine ⟨⟨c, by simp [htoken], Or.inl hc⟩, a, Address.read?_token a, ?_⟩
  rw [Address.unmap_of_not_isMapped hunmapped]

/-- A token that spells an IPv6 address standing for an IPv4 address is read as the latter. -/
theorem ofToken?_mapped {octets : List UInt8} (hlen : octets.length = Family.ipv4.width)
    (h : IsZoned t (mappedBytes octets)) : ofToken? t = some ⟨⟨.ipv4, octets, hlen⟩, t⟩ := by
  obtain ⟨c, rest, rfl⟩ := List.exists_cons_of_ne_nil (List.ne_nil_of_mem h.colon_mem)
  have hwidth : (mappedBytes octets).length = Family.ipv6.width := h.length_eq
  have hread : Address.read? (c :: rest) = some ⟨.ipv6, mappedBytes octets, hwidth⟩ :=
    Address.read?_eq_some_iff.mpr (Or.inr ⟨rfl, h⟩)
  rw [ofToken?_eq_some_iff]
  refine ⟨⟨c, rfl, h.head_mapped⟩, _, hread, ?_⟩
  rw [Address.unmap_mappedBytes hlen]

end Literal
end Forwarding
