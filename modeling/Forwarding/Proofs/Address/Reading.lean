import Forwarding.Address.Error
import Forwarding.Proofs.Address.Grammar

/-!
Reading addresses. The reader accepts exactly the texts of the grammar, and the address it gives is
the one that the grammar assigns.
-/
namespace Forwarding

def addressChars : Text := '.' :: (Text.lowerDigits ++ Text.upperDigits)

theorem IsQuad.length_eq {t : Text} {bytes : List UInt8} (h : IsQuad t bytes) :
    bytes.length = 4 := by
  obtain ⟨octets, hread, hcount, -⟩ := h
  rw [← hread.length_eq, hcount]

theorem IsTail.mem_chars {parts : List Text} {bytes : List UInt8} (h : IsTail parts bytes)
    {part : Text} (hpart : part ∈ parts) {c : Char} (hc : c ∈ part) : c ∈ addressChars := by
  induction h with
  | nil => simp at hpart
  | quad hquad =>
    obtain rfl := List.mem_singleton.mp hpart
    exact List.mem_cons.mpr (hquad.mem_chars hc)
  | cons hgroup _ ih =>
    rcases List.mem_cons.mp hpart with rfl | hrest
    · exact List.mem_cons_of_mem _ (hgroup.numeral.mem_digits hc)
    · exact ih hrest

theorem IsTail.ne_nil_of_mem {parts : List Text} {bytes : List UInt8} (h : IsTail parts bytes) :
    ∀ part ∈ parts, part ≠ [] := by
  induction h with
  | nil => simp
  | quad hquad => simpa using List.ne_nil_of_mem hquad.dot_mem
  | cons hgroup _ ih => exact List.forall_mem_cons.mpr ⟨hgroup.numeral.1, ih⟩

theorem IsTail.colon_not_mem {parts : List Text} {bytes : List UInt8} (h : IsTail parts bytes) :
    ∀ part ∈ parts, ':' ∉ part := by
  intro part hpart hcolon
  exact absurd (h.mem_chars hpart hcolon) (by decide)

theorem IsTail.length_even {parts : List Text} {bytes : List UInt8} (h : IsTail parts bytes) :
    2 ∣ bytes.length := by
  induction h with
  | nil => simp
  | quad hquad =>
    rw [hquad.length_eq]
    decide
  | cons _ _ ih => simpa using ih

theorem IsRow.isTail {parts : List Text} {bytes : List UInt8} (h : IsRow parts bytes) :
    IsTail parts bytes := by
  induction h with
  | nil => exact .nil
  | cons hgroup _ ih => exact .cons hgroup ih

theorem colonJoin_cons_cons (part next : Text) (parts : List Text) :
    colonJoin (part :: next :: parts) = part ++ ':' :: colonJoin (next :: parts) := by
  simp [colonJoin, List.intercalate_cons_cons]

theorem exists_colonJoin_cons (part : Text) (parts : List Text) :
    ∃ rest, colonJoin (part :: parts) = part ++ rest :=
  Text.exists_intercalate_cons ':' part parts

namespace Groups

theorem cutElision?_eq_some {t l r : Text} (h : cutElision? t = some (l, r)) :
    t = l ++ ':' :: ':' :: r := by
  fun_induction cutElision? t generalizing l r with
  | case1 => simp at h
  | case2 rest =>
    obtain ⟨rfl, rfl⟩ := Prod.mk.inj (Option.some.inj h)
    rfl
  | case3 c rest _ ih =>
    obtain ⟨⟨l', r'⟩, hrest, hsides⟩ := Option.map_eq_some_iff.mp h
    obtain ⟨rfl, rfl⟩ := Prod.mk.inj hsides
    rw [ih hrest]
    rfl

theorem cutElision?_append {part rest : Text} (h : ':' ∉ part) :
    cutElision? (part ++ rest) =
      (cutElision? rest).map fun sides => (part ++ sides.1, sides.2) := by
  induction part with
  | nil => simp
  | cons c part ih =>
    obtain ⟨hc, hpart⟩ := not_or.mp (mt List.mem_cons.mpr h)
    simp [cutElision?, Ne.symm hc, ih hpart, Function.comp_def]

/-- No double colon arises inside or at the end of nonempty parts joined by colons. -/
theorem cutElision?_colonJoin_append {parts : List Text} (hne : ∀ part ∈ parts, part ≠ [])
    (hcolon : ∀ part ∈ parts, ':' ∉ part) (rest : Text) :
    cutElision? (colonJoin parts ++ rest) =
      (cutElision? rest).map fun sides => (colonJoin parts ++ sides.1, sides.2) := by
  induction parts with
  | nil => simp [colonJoin]
  | cons part parts ih =>
    have hpart := hcolon part (by simp)
    cases parts with
    | nil => simpa [colonJoin] using cutElision?_append hpart
    | cons next parts =>
      obtain ⟨-, hne'⟩ := List.forall_mem_cons.mp hne
      obtain ⟨-, hcolon'⟩ := List.forall_mem_cons.mp hcolon
      obtain ⟨c, tail, hnext⟩ := List.exists_cons_of_ne_nil (hne' next (by simp))
      have hc : c ≠ ':' := by
        rintro rfl
        exact hcolon' next (by simp) (by simp [hnext])
      -- The colon in front of the next part is alone: that part begins with another character.
      have hsingle (u : Text) : cutElision? (':' :: (colonJoin (next :: parts) ++ u)) =
          (cutElision? (colonJoin (next :: parts) ++ u)).map
            fun sides => (':' :: sides.1, sides.2) := by
        obtain ⟨u', hu'⟩ := exists_colonJoin_cons next parts
        rw [hu', hnext]
        simp [cutElision?, hc]
      rw [colonJoin_cons_cons, List.append_assoc, cutElision?_append hpart, List.cons_append,
        hsingle, ih hne' hcolon']
      simp [Function.comp_def]

theorem colonJoin_side (t : Text) : colonJoin (side t) = t := by
  unfold side
  split
  · next ht => simp [colonJoin, ht]
  · exact Text.intercalate_pieces ':' t

theorem side_colonJoin {parts : List Text} (hne : ∀ part ∈ parts, part ≠ [])
    (hcolon : ∀ part ∈ parts, ':' ∉ part) : side (colonJoin parts) = parts := by
  cases parts with
  | nil => rfl
  | cons part parts =>
    obtain ⟨rest, hrest⟩ := exists_colonJoin_cons part parts
    have hjoin : colonJoin (part :: parts) ≠ [] := by
      rw [hrest]
      exact List.append_ne_nil_of_left_ne_nil (hne part (by simp)) rest
    rw [side, if_neg hjoin]
    exact Text.pieces_intercalate (by simp) hcolon

theorem bytes?_colonJoin {parts : List Text} {bytes : List UInt8} (h : IsTail parts bytes)
    (hparts : parts ≠ []) : bytes? (colonJoin parts) = some bytes := by
  have hcut := cutElision?_colonJoin_append h.ne_nil_of_mem h.colon_not_mem []
  rw [List.append_nil] at hcut
  simp only [bytes?, hcut, cutElision?, Option.map_none]
  rw [colonJoin, Text.pieces_intercalate hparts h.colon_not_mem]
  exact tailBytes?_eq_some_iff.mpr h

theorem bytes?_elided {left right : List Text} {lead tail : List UInt8} (hleft : IsRow left lead)
    (hright : IsTail right tail) (hroom : lead.length + tail.length ≤ 14) :
    bytes? (colonJoin left ++ ':' :: ':' :: colonJoin right) =
      some (lead ++ List.replicate (16 - (lead.length + tail.length)) 0 ++ tail) := by
  have hcut := cutElision?_colonJoin_append hleft.isTail.ne_nil_of_mem hleft.isTail.colon_not_mem
    (':' :: ':' :: colonJoin right)
  simp only [bytes?, hcut, cutElision?, Option.map_some]
  rw [List.append_nil, side_colonJoin hleft.isTail.ne_nil_of_mem hleft.isTail.colon_not_mem,
    side_colonJoin hright.ne_nil_of_mem hright.colon_not_mem, plainBytes?_eq_some_iff.mpr hleft,
    tailBytes?_eq_some_iff.mpr hright]
  simp [hroom]

/-- The reader of groups accepts exactly the texts of eight groups. -/
theorem bytes?_eq_some_iff {t : Text} {bytes : List UInt8} (hlen : bytes.length = 16) :
    bytes? t = some bytes ↔ IsGroups t bytes := by
  constructor
  · intro h
    unfold bytes? at h
    split at h
    · have hfull := IsGroups.full (tailBytes?_eq_some_iff.mp h) hlen
      rwa [colonJoin, Text.intercalate_pieces] at hfull
    · next left right hcut =>
      simp only [Option.bind_eq_bind, Option.bind_eq_some_iff, plainBytes?_eq_some_iff,
        tailBytes?_eq_some_iff] at h
      obtain ⟨lead, hlead, tail, htail, hbytes⟩ := h
      split at hbytes
      · next hroom =>
        obtain ⟨m, hm⟩ := hlead.isTail.length_even
        obtain ⟨n, hn⟩ := htail.length_even
        have hzeros : 16 - (lead.length + tail.length) = 2 * (8 - m - n) := by omega
        rw [hzeros] at hbytes
        obtain rfl := Option.some.inj hbytes
        have helided := @IsGroups.elided _ _ _ _ (8 - m - n) hlead htail (by omega) (by omega)
        rwa [colonJoin_side, colonJoin_side, ← cutElision?_eq_some hcut] at helided
      · simp at hbytes
  · intro hgroups
    cases hgroups with
    | full h _ =>
      apply bytes?_colonJoin h
      intro hnil
      subst hnil
      cases h
      simp at hlen
    | elided hleft hright hzeros htotal =>
      rw [bytes?_elided hleft hright (by omega), ← htotal]
      congr
      omega

end Groups

theorem IsGroups.length_eq {t : Text} {bytes : List UInt8} (h : IsGroups t bytes) :
    bytes.length = 16 := by
  cases h with
  | full _ hlen => exact hlen
  | elided _ _ _ htotal => simpa [Nat.add_assoc] using htotal

theorem IsGroups.colon_mem {t : Text} {bytes : List UInt8} (h : IsGroups t bytes) : ':' ∈ t := by
  cases h with
  | full hparts hlen =>
    cases hparts with
    | nil => simp at hlen
    | quad hquad => simp [hquad.length_eq] at hlen
    | cons _ hrest =>
      cases hrest with
      | nil => simp at hlen
      | quad | cons => simp [colonJoin_cons_cons]
  | elided => simp

theorem IsGroups.mem_chars {t : Text} {bytes : List UInt8} (h : IsGroups t bytes) {c : Char}
    (hc : c ∈ t) : c ∈ ':' :: addressChars := by
  have hjoin {parts : List Text} {row : List UInt8} (hparts : IsTail parts row)
      (hmem : c ∈ colonJoin parts) : c ∈ ':' :: addressChars := by
    rcases Text.mem_intercalate hmem with rfl | ⟨part, hpart, hmem'⟩
    · simp
    · exact List.mem_cons_of_mem _ (hparts.mem_chars hpart hmem')
  cases h with
  | full hparts _ => exact hjoin hparts hc
  | elided hleft hright _ _ =>
    rw [List.mem_append, List.mem_cons, List.mem_cons] at hc
    rcases hc with hmem | rfl | rfl | hmem
    · exact hjoin hleft.isTail hmem
    · simp
    · simp
    · exact hjoin hright hmem

theorem IsGroups.not_mem {t : Text} {bytes : List UInt8} (h : IsGroups t bytes) {c : Char}
    (hc : c ∉ ':' :: addressChars) : c ∉ t :=
  fun hmem => hc (h.mem_chars hmem)

theorem IsZoned.colon_mem {t : Text} {bytes : List UInt8} (h : IsZoned t bytes) : ':' ∈ t := by
  obtain ⟨-, hgroups | ⟨body, zone, rfl, hgroups, -, -⟩⟩ := h
  · exact hgroups.colon_mem
  · exact List.mem_append_left _ hgroups.colon_mem

theorem IsZoned.length_eq {t : Text} {bytes : List UInt8} (h : IsZoned t bytes) :
    bytes.length = 16 := by
  obtain ⟨-, hgroups | ⟨body, zone, -, hgroups, -, -⟩⟩ := h
  · exact hgroups.length_eq
  · exact hgroups.length_eq

theorem IsQuad.colon_not_mem {t : Text} {bytes : List UInt8} (h : IsQuad t bytes) : ':' ∉ t := by
  intro hcolon
  exact absurd (h.mem_chars hcolon) (by decide)

namespace Address

theorem ofBytes?_eq_some_iff {family : Family} {bytes : List UInt8} {a : Address} :
    ofBytes? family bytes = some a ↔ a.family = family ∧ a.bytes = bytes := by
  constructor
  · intro h
    unfold ofBytes? at h
    split at h
    · obtain rfl := Option.some.inj h
      exact ⟨rfl, rfl⟩
    · simp at h
  · intro h
    obtain ⟨rfl, rfl⟩ := h
    exact ofBytes?_bytes a

theorem readIpv4?_eq_some_iff {t : Text} {a : Address} :
    readIpv4? t = some a ↔ a.family = .ipv4 ∧ IsQuad t a.bytes := by
  simp only [readIpv4?, Option.bind_eq_some_iff, Dotted.bytes?_eq_some_iff, ofBytes?_eq_some_iff]
  constructor
  · intro h
    obtain ⟨bytes, hquad, hfamily, rfl⟩ := h
    exact ⟨hfamily, hquad⟩
  · intro h
    obtain ⟨hfamily, hquad⟩ := h
    exact ⟨a.bytes, hquad, hfamily, rfl⟩

theorem dropZone?_eq_some_iff {t body : Text} :
    dropZone? t = some body ↔
      (t = body ∧ '%' ∉ body) ∨
        ∃ zone, t = body ++ '%' :: zone ∧ '%' ∉ body ∧ zone ≠ [] ∧ '%' ∉ zone := by
  unfold dropZone?
  split
  · next hcut =>
    have hpercent := Text.cut?_eq_none_iff.mp hcut
    constructor
    · intro h
      obtain rfl := Option.some.inj h
      exact Or.inl ⟨rfl, hpercent⟩
    · intro h
      rcases h with ⟨rfl, -⟩ | ⟨zone, rfl, -⟩
      · rfl
      · simp at hpercent
  · next body' zone' hcut =>
    obtain ⟨rfl, hbody'⟩ := Text.cut?_eq_some hcut
    constructor
    · intro h
      split at h
      · simp at h
      · next hzone =>
        obtain rfl := Option.some.inj h
        obtain ⟨hne, hpercent⟩ := not_or.mp hzone
        exact Or.inr ⟨zone', rfl, hbody', hne, hpercent⟩
    · intro h
      rcases h with ⟨rfl, hbody⟩ | ⟨zone, heq, hbody, hne, hpercent⟩
      · simp at hbody
      · have hcut' : Text.cut? '%' (body ++ '%' :: zone) = some (body, zone) :=
          Text.cut?_append hbody
        rw [← heq, hcut] at hcut'
        obtain ⟨rfl, rfl⟩ := Prod.mk.inj (Option.some.inj hcut')
        simp [hne, hpercent]

theorem dropZone?_bind_bytes?_iff {t : Text} {bytes : List UInt8} (hlen : bytes.length = 16) :
    (dropZone? t).bind Groups.bytes? = some bytes ↔ IsGroups t bytes ∨
      ∃ body zone, t = body ++ '%' :: zone ∧ IsGroups body bytes ∧ zone ≠ [] ∧ '%' ∉ zone := by
  simp only [Option.bind_eq_some_iff, Groups.bytes?_eq_some_iff hlen, dropZone?_eq_some_iff]
  constructor
  · intro h
    rcases h with ⟨body, ⟨rfl, -⟩ | ⟨zone, rfl, -, hne, hzone⟩, hgroups⟩
    · exact Or.inl hgroups
    · exact Or.inr ⟨body, zone, rfl, hgroups, hne, hzone⟩
  · intro h
    rcases h with hgroups | ⟨body, zone, rfl, hgroups, hne, hzone⟩
    · exact ⟨t, Or.inl ⟨rfl, hgroups.not_mem (by decide)⟩, hgroups⟩
    · exact ⟨body, Or.inr ⟨zone, rfl, hgroups.not_mem (by decide), hne, hzone⟩, hgroups⟩

theorem readIpv6?_eq_some_iff {t : Text} {a : Address} :
    readIpv6? t = some a ↔ a.family = .ipv6 ∧ IsZoned t a.bytes := by
  have hlen (hfamily : a.family = .ipv6) : a.bytes.length = 16 := by
    rw [a.bytes_length, hfamily]
    rfl
  by_cases hslash : '/' ∈ t
  · simp [readIpv6?, IsZoned, hslash]
  · simp only [readIpv6?, hslash, if_false, Option.bind_eq_some_iff (x := (dropZone? t).bind _),
      ofBytes?_eq_some_iff, IsZoned, not_false_eq_true, true_and]
    constructor
    · intro h
      obtain ⟨bytes, hbytes, hfamily, rfl⟩ := h
      exact ⟨hfamily, (dropZone?_bind_bytes?_iff (hlen hfamily)).mp hbytes⟩
    · intro h
      obtain ⟨hfamily, hgroups⟩ := h
      exact ⟨a.bytes, (dropZone?_bind_bytes?_iff (hlen hfamily)).mpr hgroups, hfamily, rfl⟩

/-- No text is both a dotted quad and a row of groups. -/
theorem read?_eq_some_iff {t : Text} {a : Address} :
    read? t = some a ↔
      a.family = .ipv4 ∧ IsQuad t a.bytes ∨ a.family = .ipv6 ∧ IsZoned t a.bytes := by
  rw [← readIpv4?_eq_some_iff, ← readIpv6?_eq_some_iff]
  unfold read?
  cases hquad : readIpv4? t with
  | none => simp
  | some b =>
    have hgroups : readIpv6? t ≠ some a := by
      intro h
      exact (readIpv4?_eq_some_iff.mp hquad).2.colon_not_mem (readIpv6?_eq_some_iff.mp h).2.colon_mem
    simp [hgroups]

theorem isMapped_iff {a : Address} :
    a.isMapped ↔ a.family = .ipv6 ∧ ∃ octets, a.bytes = mappedBytes octets := by
  simp only [isMapped, Bool.and_eq_true, decide_eq_true_eq]
  refine and_congr_right fun _ => ?_
  constructor
  · intro hlead
    refine ⟨a.bytes.drop 12, ?_⟩
    calc a.bytes = a.bytes.take 12 ++ a.bytes.drop 12 := (List.take_append_drop 12 a.bytes).symm
      _ = mappedBytes (a.bytes.drop 12) := by rw [hlead]; rfl
  · intro h
    obtain ⟨octets, hbytes⟩ := h
    rw [hbytes]
    rfl

theorem isMapped_of_bytes {a : Address} {octets : List UInt8} (h : a.bytes = mappedBytes octets) :
    a.isMapped := by
  refine isMapped_iff.mpr ⟨?_, octets, h⟩
  have hlength := a.bytes_length
  cases hfamily : a.family with
  | ipv6 => rfl
  | ipv4 =>
    rw [h, hfamily] at hlength
    simp [mappedBytes, Family.width] at hlength

theorem unmap_of_not_isMapped {a : Address} (h : ¬a.isMapped) : a.unmap = a := by
  simp [unmap, h]

theorem family_unmap_of_isMapped {a : Address} (h : a.isMapped) : a.unmap.family = .ipv4 := by
  simp [unmap, h]

theorem bytes_unmap_of_isMapped {a : Address} (h : a.isMapped) :
    a.unmap.bytes = a.bytes.drop 12 := by
  simp [unmap, h]

theorem unmap_mappedBytes {octets : List UInt8} (h : octets.length = Family.ipv4.width)
    (hmapped : (mappedBytes octets).length = Family.ipv6.width) :
    (⟨.ipv6, mappedBytes octets, hmapped⟩ : Address).unmap = ⟨.ipv4, octets, h⟩ := by
  have hm : (⟨.ipv6, mappedBytes octets, hmapped⟩ : Address).isMapped :=
    isMapped_iff.mpr ⟨rfl, octets, rfl⟩
  simp only [unmap, hm, dif_pos]
  rfl

/-- A text spells what is read from it, after a mapped address has given way to the IPv4 address
that it stands for. -/
theorem spells_iff {t : Text} {b : Address} : Spells t b ↔ ∃ a, read? t = some a ∧ a.unmap = b := by
  simp only [read?_eq_some_iff]
  constructor
  · intro h
    cases h with
    | quad hquad =>
      exact ⟨_, Or.inl ⟨rfl, hquad⟩, unmap_of_not_isMapped (by simp [isMapped_iff])⟩
    | groups hzoned hne =>
      exact ⟨_, Or.inr ⟨rfl, hzoned⟩, unmap_of_not_isMapped (by simpa [isMapped_iff] using hne)⟩
    | mapped hzoned =>
      exact ⟨⟨.ipv6, _, hzoned.length_eq⟩, Or.inr ⟨rfl, hzoned⟩, unmap_mappedBytes _ _⟩
  · intro h
    obtain ⟨⟨family, bytes, hlen⟩, hread, rfl⟩ := h
    rcases hread with ⟨hfamily, hquad⟩ | ⟨hfamily, hzoned⟩
    · obtain rfl : family = .ipv4 := hfamily
      rw [unmap_of_not_isMapped (by simp [isMapped_iff])]
      exact .quad hquad
    · obtain rfl : family = .ipv6 := hfamily
      by_cases hmapped : ∃ octets, bytes = mappedBytes octets
      · obtain ⟨octets, rfl⟩ := hmapped
        rw [unmap_mappedBytes (by simpa [mappedBytes, Family.width] using hlen)]
        exact .mapped hzoned
      · rw [unmap_of_not_isMapped (by simpa [isMapped_iff] using hmapped)]
        exact .groups hzoned (not_exists.mp hmapped)

end Address

namespace Literal

theorem parse_eq_ok_iff {t : Text} {l : Literal} :
    parse t = .ok l ↔ ∃ a, Address.read? t = some a ∧ l = ⟨a.unmap, t⟩ := by
  cases h : Address.read? t <;> simp [parse, parse?, h, eq_comm]

/-- Parsing succeeds on the texts that spell an address and on no others. It gives that address,
spelled as it was, and any other text is named in the error. -/
theorem parse_eq_grammar (t : Text) :
    (∀ l, parse t = .ok l ↔ Spells t l.address ∧ l.spelling = t) ∧
      ((∀ a, ¬Spells t a) → parse t = .error (.notAnAddress t)) := by
  constructor
  · intro l
    obtain ⟨b, spelling⟩ := l
    rw [parse_eq_ok_iff, Address.spells_iff]
    constructor
    · intro h
      obtain ⟨a, ha, hl⟩ := h
      obtain ⟨rfl, rfl⟩ := Literal.mk.inj hl
      exact ⟨⟨a, ha, rfl⟩, rfl⟩
    · intro h
      obtain ⟨⟨a, ha, rfl⟩, rfl⟩ := h
      exact ⟨a, ha, rfl⟩
  · intro h
    have hnone : Address.read? t = none := by
      rw [Option.eq_none_iff_forall_ne_some]
      intro a ha
      exact h a.unmap (Address.spells_iff.mpr ⟨a, ha, rfl⟩)
    simp [parse, parse?, hnone]

end Literal
end Forwarding
