import Forwarding.Address.Basic
import Forwarding.Address.Groups
import Forwarding.Proofs.Text.Numeral
import Forwarding.Proofs.Text.Pieces

/-!
The grammar of numeric addresses: dotted quads, and hexadecimal groups in which a double colon may
stand for zero groups. Both readers accept exactly the texts of the grammar, with their bytes.
-/
namespace Forwarding

structure IsOctet (t : Text) (b : UInt8) : Prop where
  numeral : Text.IsNumeral 10 t b.toNat
  length_le : t.length ≤ 3
  eq_zero : t.head? = some '0' → t = ['0']

def IsQuad (t : Text) (bytes : List UInt8) : Prop :=
  ∃ octets, List.Forall₂ IsOctet octets bytes ∧ octets.length = 4 ∧ t = ['.'].intercalate octets

structure IsGroup (t : Text) (high low : UInt8) : Prop where
  numeral : Text.IsNumeral 16 t (256 * high.toNat + low.toNat)
  length_le : t.length ≤ 4

inductive IsRow : List Text → List UInt8 → Prop
  | nil : IsRow [] []
  | cons {t high low parts bytes} : IsGroup t high low → IsRow parts bytes →
      IsRow (t :: parts) (high :: low :: bytes)

/-- Groups of which the last two may be written as a dotted quad. -/
inductive IsTail : List Text → List UInt8 → Prop
  | nil : IsTail [] []
  | quad {t octets} : IsQuad t octets → IsTail [t] octets
  | cons {t high low parts bytes} : IsGroup t high low → IsTail parts bytes →
      IsTail (t :: parts) (high :: low :: bytes)

def colonJoin (parts : List Text) : Text := [':'].intercalate parts

/-- Eight groups joined by colons, where a double colon may stand for one or more zero groups. -/
inductive IsGroups : Text → List UInt8 → Prop
  | full {parts bytes} : IsTail parts bytes → bytes.length = 16 → IsGroups (colonJoin parts) bytes
  | elided {left right lead tail zeros} : IsRow left lead → IsTail right tail → 1 ≤ zeros →
      lead.length + 2 * zeros + tail.length = 16 →
      IsGroups (colonJoin left ++ ':' :: ':' :: colonJoin right)
        (lead ++ List.replicate (2 * zeros) 0 ++ tail)

/-- Groups with an optional zone behind a percent sign. The zone is not empty and holds no further
percent sign, and there is no slash anywhere. -/
def IsZoned (t : Text) (bytes : List UInt8) : Prop :=
  '/' ∉ t ∧ (IsGroups t bytes ∨
    ∃ body zone, t = body ++ '%' :: zone ∧ IsGroups body bytes ∧ zone ≠ [] ∧ '%' ∉ zone)

def mappedBytes (octets : List UInt8) : List UInt8 :=
  List.replicate 10 0 ++ [0xff, 0xff] ++ octets

/-- The text spells the address: as a dotted quad, as groups, or as groups that stand for an IPv4
address. -/
inductive Spells : Text → Address → Prop
  | quad {t octets h} : IsQuad t octets → Spells t ⟨.ipv4, octets, h⟩
  | groups {t bytes h} : IsZoned t bytes → (∀ octets, bytes ≠ mappedBytes octets) →
      Spells t ⟨.ipv6, bytes, h⟩
  | mapped {t octets h} : IsZoned t (mappedBytes octets) → Spells t ⟨.ipv4, octets, h⟩

theorem mapM_eq_some_iff_forall₂ {α β : Type} {f : α → Option β} {as : List α} {bs : List β} :
    as.mapM f = some bs ↔ List.Forall₂ (fun a b => f a = some b) as bs := by
  induction as generalizing bs with
  | nil => simp [eq_comm]
  | cons a as ih =>
    simp only [List.mapM_cons, Option.bind_eq_bind, Option.bind_eq_some_iff, Option.pure_def,
      Option.some.injEq, ih, List.forall₂_cons_left_iff]
    constructor
    · intro h
      obtain ⟨b, hb, bs', hbs, rfl⟩ := h
      exact ⟨b, bs', hb, hbs, rfl⟩
    · intro h
      obtain ⟨b, bs', hb, hbs, rfl⟩ := h
      exact ⟨b, hb, bs', hbs, rfl⟩

theorem forall_mem_of_forall₂ {α β : Type} {R : α → β → Prop} {P : α → Prop} {as : List α}
    {bs : List β} (h : List.Forall₂ R as bs) (hP : ∀ a b, R a b → P a) : ∀ a ∈ as, P a := by
  induction h with
  | nil => simp
  | cons hab _ ih => exact List.forall_mem_cons.mpr ⟨hP _ _ hab, ih⟩

namespace Dotted

theorem octet?_eq_some_iff {t : Text} {b : UInt8} : octet? t = some b ↔ IsOctet t b := by
  unfold octet?
  split
  · next hshape =>
    simp only [Option.bind_eq_some_iff, Text.numeral?_eq_some_iff]
    constructor
    · intro h
      obtain ⟨n, hn, hb⟩ := h
      split at hb
      · next hlt =>
        obtain rfl := Option.some.inj hb
        exact ⟨by rwa [UInt8.toNat_ofNat_of_lt' hlt], hshape.1, hshape.2⟩
      · simp at hb
    · intro h
      exact ⟨b.toNat, h.numeral, by simp [b.toNat_lt]⟩
  · next hshape =>
    simp only [reduceCtorEq, false_iff]
    exact fun h => hshape ⟨h.length_le, h.eq_zero⟩

theorem dot_not_mem_octet {t : Text} {b : UInt8} (h : IsOctet t b) : '.' ∉ t :=
  h.numeral.not_mem (by decide)

theorem bytes?_eq_some_iff {t : Text} {bytes : List UInt8} :
    bytes? t = some bytes ↔ IsQuad t bytes := by
  have hoctets (octets : List Text) :
      octets.mapM octet? = some bytes ↔ List.Forall₂ IsOctet octets bytes := by
    simp only [mapM_eq_some_iff_forall₂, octet?_eq_some_iff]
  simp only [bytes?]
  constructor
  · intro h
    split at h
    · next hcount => exact ⟨_, (hoctets _).mp h, hcount, (Text.intercalate_pieces '.' t).symm⟩
    · simp at h
  · intro h
    obtain ⟨octets, hread, hcount, rfl⟩ := h
    have hdots : ∀ octet ∈ octets, '.' ∉ octet :=
      forall_mem_of_forall₂ hread fun _ _ => dot_not_mem_octet
    have hne : octets ≠ [] := by
      rintro rfl
      simp at hcount
    rw [Text.pieces_intercalate hne hdots, if_pos hcount]
    exact (hoctets octets).mpr hread

end Dotted

theorem IsQuad.dot_mem {t : Text} {bytes : List UInt8} (h : IsQuad t bytes) : '.' ∈ t := by
  obtain ⟨octets, -, hcount, rfl⟩ := h
  match octets, hcount with
  | first :: second :: rest, _ => simp [List.intercalate_cons_cons]

theorem IsQuad.mem_chars {t : Text} {bytes : List UInt8} (h : IsQuad t bytes) {c : Char}
    (hc : c ∈ t) : c = '.' ∨ c ∈ Text.lowerDigits ++ Text.upperDigits := by
  obtain ⟨octets, hread, -, rfl⟩ := h
  rcases Text.mem_intercalate hc with hdot | ⟨octet, hoctet, hmem⟩
  · exact Or.inl hdot
  · have hdigits : ∀ octet ∈ octets, ∀ c ∈ octet, c ∈ Text.lowerDigits ++ Text.upperDigits := by
      refine forall_mem_of_forall₂ hread ?_
      intro octet b hread' c hc'
      exact hread'.numeral.mem_digits hc'
    exact Or.inr (hdigits octet hoctet c hmem)

theorem IsGroup.dot_not_mem {t : Text} {high low : UInt8} (h : IsGroup t high low) : '.' ∉ t :=
  h.numeral.not_mem (by decide)

namespace Groups

theorem group?_eq_some_iff {t : Text} {n : Nat} :
    group? t = some n ↔ Text.IsNumeral 16 t n ∧ t.length ≤ 4 := by
  unfold group?
  split
  · next hlen => simp [Text.numeral?_eq_some_iff, hlen]
  · next hlen => simp [hlen]

theorem groupBytes_toNat (high low : UInt8) :
    groupBytes (256 * high.toNat + low.toNat) = [high, low] := by
  have hhigh := high.toNat_lt
  have hlow := low.toNat_lt
  simp only [groupBytes, List.cons.injEq, and_true, ← UInt8.toNat_inj, UInt8.toNat_ofNat']
  omega

/-- The digits of a group spell its two bytes as one number. -/
theorem group?_groupBytes_iff {t : Text} {high low : UInt8} :
    (∃ n, group? t = some n ∧ groupBytes n = [high, low]) ↔ IsGroup t high low := by
  constructor
  · intro h
    obtain ⟨n, hn, hbytes⟩ := h
    obtain ⟨hnumeral, hlen⟩ := group?_eq_some_iff.mp hn
    have hlt : n < 16 ^ 4 :=
      (hnumeral.lt_pow (by decide)).trans_le (Nat.pow_le_pow_right (by decide) hlen)
    simp only [groupBytes, List.cons.injEq, and_true] at hbytes
    obtain ⟨rfl, rfl⟩ := hbytes
    refine ⟨?_, hlen⟩
    have hvalue : 256 * (UInt8.ofNat (n / 256)).toNat + (UInt8.ofNat n).toNat = n := by
      simp only [UInt8.toNat_ofNat']
      omega
    rwa [hvalue]
  · intro h
    exact ⟨_, group?_eq_some_iff.mpr ⟨h.numeral, h.length_le⟩, groupBytes_toNat high low⟩

theorem plainBytes?_cons (t : Text) (parts : List Text) :
    plainBytes? (t :: parts) =
      (group? t).bind fun n => (plainBytes? parts).map (groupBytes n ++ ·) := by
  cases ht : group? t <;> cases hparts : parts.mapM group? <;> simp [plainBytes?, ht, hparts]

theorem plainBytes?_eq_some_iff {parts : List Text} {bytes : List UInt8} :
    plainBytes? parts = some bytes ↔ IsRow parts bytes := by
  induction parts generalizing bytes with
  | nil =>
    constructor
    · intro h
      obtain rfl : [] = bytes := by simpa [plainBytes?] using h
      exact .nil
    · intro h
      cases h
      rfl
  | cons t parts ih =>
    simp only [plainBytes?_cons, Option.bind_eq_some_iff, Option.map_eq_some_iff, ih]
    constructor
    · intro h
      obtain ⟨n, hn, rest, hrest, rfl⟩ := h
      exact .cons (group?_groupBytes_iff.mp ⟨n, hn, rfl⟩) hrest
    · intro h
      cases h with
      | cons hgroup hrest =>
        obtain ⟨n, hn, hbytes⟩ := group?_groupBytes_iff.mpr hgroup
        exact ⟨n, hn, _, hrest, by rw [hbytes]; rfl⟩

theorem tailBytes?_eq_some_iff {parts : List Text} {bytes : List UInt8} :
    tailBytes? parts = some bytes ↔ IsTail parts bytes := by
  fun_induction tailBytes? parts generalizing bytes with
  | case1 =>
    constructor
    · intro h
      obtain rfl := Option.some.inj h
      exact .nil
    · intro h
      cases h
      rfl
  | case2 last hdot =>
    rw [Dotted.bytes?_eq_some_iff]
    constructor
    · exact .quad
    · intro h
      cases h with
      | quad hquad => exact hquad
      | cons hgroup _ => exact absurd hdot hgroup.dot_not_mem
  | case3 last hdot =>
    rw [plainBytes?_eq_some_iff]
    constructor
    · intro h
      cases h with
      | cons hgroup hrest =>
        cases hrest
        exact .cons hgroup .nil
    · intro h
      cases h with
      | quad hquad => exact absurd hquad.dot_mem hdot
      | cons hgroup hrest =>
        cases hrest
        exact .cons hgroup .nil
  | case4 group groups hne ih =>
    simp only [Option.bind_eq_bind, Option.bind_eq_some_iff, plainBytes?_eq_some_iff, ih]
    constructor
    · intro h
      obtain ⟨first, hfirst, rest, hrest, hbytes⟩ := h
      cases hfirst with
      | cons hgroup hnone =>
        cases hnone
        obtain rfl := Option.some.inj hbytes
        exact .cons hgroup hrest
    · intro h
      cases h with
      | quad hquad => exact absurd rfl hne
      | cons hgroup hrest => exact ⟨_, .cons hgroup .nil, _, hrest, rfl⟩

end Groups
end Forwarding
