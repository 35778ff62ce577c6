import Forwarding.Proofs.Address.Reading

/-!
The canonical text of an address. Of several runs of zero groups the first of the longest ones is
elided, and reading the text gives the address back.
-/
namespace Forwarding

structure IsLongestZeros (groups left : List Nat) (count : Nat) (right : List Nat) : Prop where
  split : groups = left ++ List.replicate count 0 ++ right
  longest : ∀ left' count' right', groups = left' ++ List.replicate count' 0 ++ right' →
    count' ≤ count
  first : ∀ left' right', groups = left' ++ List.replicate count 0 ++ right' →
    left.length ≤ left'.length

def hexJoin (groups : List Nat) : Text := colonJoin (groups.map (Nat.toDigits 16))

/-- The canonical text of groups: the first of the longest runs of at least two zeros becomes a
double colon. -/
def IsCanonicalGroups (t : Text) (groups : List Nat) : Prop :=
  ∃ left count right, IsLongestZeros groups left count right ∧
    t = if 2 ≤ count then hexJoin left ++ ':' :: ':' :: hexJoin right else hexJoin groups

def IsCanonical (t : Text) (a : Address) : Prop :=
  match a.family with
  | .ipv4 => t = ['.'].intercalate (a.bytes.map fun b => Nat.toDigits 10 b.toNat)
  | .ipv6 => IsCanonicalGroups t (Groups.ofBytes a.bytes)

namespace Groups

theorem replicate_zerosInFront (groups : List Nat) :
    groups = List.replicate (zerosInFront groups) 0 ++ groups.drop (zerosInFront groups) := by
  induction groups with
  | nil => rfl
  | cons g groups ih =>
    by_cases hg : g = 0
    · have hcount : zerosInFront (g :: groups) = zerosInFront groups + 1 := by
        simp [zerosInFront, hg]
      rw [hcount, List.replicate_succ, List.cons_append, List.drop_succ_cons, ← ih, hg]
    · simp [zerosInFront, hg]

theorem le_zerosInFront {groups right : List Nat} {count : Nat}
    (h : groups = List.replicate count 0 ++ right) : count ≤ zerosInFront groups := by
  rw [h, zerosInFront, List.takeWhile_append_of_pos (by simp)]
  simp

/-- The search finds the first of the longest runs of zeros. -/
theorem longestZeros_spec (groups : List Nat) :
    IsLongestZeros groups (groups.take (longestZeros groups).1) (longestZeros groups).2
      (groups.drop ((longestZeros groups).1 + (longestZeros groups).2)) := by
  induction groups with
  | nil =>
    refine ⟨rfl, ?_, by simp⟩
    intro left' count' right' h
    have hlength := congrArg List.length h
    simp only [List.length_nil, List.length_append, List.length_replicate] at hlength
    simp only [longestZeros]
    omega
  | cons g groups ih =>
    -- A run begins at the first group or lies in the rest, where the search has been correct.
    have hfront {count' : Nat} {right' : List Nat}
        (h : g :: groups = [] ++ List.replicate count' 0 ++ right') :
        count' ≤ zerosInFront (g :: groups) := le_zerosInFront h
    simp only [longestZeros]
    split
    · next hle =>
      refine ⟨by simpa using replicate_zerosInFront (g :: groups), ?_, by simp⟩
      intro left' count' right' h
      cases left' with
      | nil => exact hfront h
      | cons g' left' =>
        obtain ⟨-, htail⟩ := List.cons.inj h
        exact (ih.longest left' count' right' htail).trans hle
    · next hlt =>
      refine ⟨?_, ?_, ?_⟩
      · rw [Nat.succ_add]
        exact congrArg (g :: ·) ih.split
      · intro left' count' right' h
        cases left' with
        | nil =>
          have := hfront h
          omega
        | cons g' left' =>
          obtain ⟨-, htail⟩ := List.cons.inj h
          exact ih.longest left' count' right' htail
      · intro left' right' h
        cases left' with
        | nil =>
          have := hfront h
          omega
        | cons g' left' =>
          obtain ⟨-, htail⟩ := List.cons.inj h
          simpa using ih.first left' right' htail

theorem ofBytes_lt (bytes : List UInt8) : ∀ g ∈ ofBytes bytes, g < 256 * 256 := by
  fun_induction ofBytes bytes with
  | case1 high low rest ih =>
    refine List.forall_mem_cons.mpr ⟨?_, ih⟩
    have hhigh := high.toNat_lt
    have hlow := low.toNat_lt
    omega
  | case2 => simp

theorem flatMap_ofBytes {bytes : List UInt8} (h : 2 ∣ bytes.length) :
    (ofBytes bytes).flatMap groupBytes = bytes := by
  fun_induction ofBytes bytes with
  | case1 high low rest ih =>
    rw [List.flatMap_cons, groupBytes_toNat, ih (by simpa using h)]
    rfl
  | case2 bytes hshort =>
    match bytes, hshort, h with
    | [], _, _ => rfl
    | [_], _, h => simp at h
    | high :: low :: rest, hshort, _ => exact absurd rfl (hshort high low rest)

theorem isGroup_of_isNumeral {t : Text} {n : Nat} (hn : Text.IsNumeral 16 t n)
    (hlen : t.length ≤ 4) : ∃ high low, IsGroup t high low ∧ groupBytes n = [high, low] :=
  ⟨_, _, group?_groupBytes_iff.mp ⟨n, group?_eq_some_iff.mpr ⟨hn, hlen⟩, rfl⟩, rfl⟩

theorem isRow_map {write : Nat → Text} {groups : List Nat}
    (h : ∀ g ∈ groups, Text.IsNumeral 16 (write g) g ∧ (write g).length ≤ 4) :
    IsRow (groups.map write) (groups.flatMap groupBytes) := by
  induction groups with
  | nil => exact .nil
  | cons g groups ih =>
    obtain ⟨hg, hgroups⟩ := List.forall_mem_cons.mp h
    obtain ⟨high, low, hgroup, hbytes⟩ := isGroup_of_isNumeral hg.1 hg.2
    rw [List.map_cons, List.flatMap_cons, hbytes]
    exact .cons hgroup (ih hgroups)

theorem length_ofNat_group {n : Nat} (h : n < 256 * 256) : (Text.ofNat 16 n).length ≤ 4 :=
  (Nat.length_toDigits_le_iff (by decide) (by decide)).mpr h

theorem isRow_map_ofNat {groups : List Nat} (h : ∀ g ∈ groups, g < 256 * 256) :
    IsRow (groups.map (Text.ofNat 16)) (groups.flatMap groupBytes) :=
  isRow_map fun g hg =>
    ⟨Text.isNumeral_ofNat (by decide) (by decide) g, length_ofNat_group (h g hg)⟩

theorem flatMap_replicate_zero (count : Nat) :
    (List.replicate count 0).flatMap groupBytes = List.replicate (2 * count) 0 := by
  induction count with
  | zero => rfl
  | succ count ih =>
    rw [List.replicate_succ, List.flatMap_cons, ih]
    rfl

theorem isCanonicalGroups_render (bytes : List UInt8) :
    IsCanonicalGroups (render bytes) (ofBytes bytes) := by
  refine ⟨_, _, _, longestZeros_spec (ofBytes bytes), ?_⟩
  simp only [render]
  split
  · next hfew =>
    rw [if_neg (by omega)]
    rfl
  · next hmany =>
    rw [if_pos (by omega), List.append_assoc]
    rfl

theorem isGroups_of_isCanonicalGroups {t : Text} {bytes : List UInt8} (hlen : bytes.length = 16)
    (h : IsCanonicalGroups t (ofBytes bytes)) : IsGroups t bytes := by
  obtain ⟨left, count, right, hrun, rfl⟩ := h
  have hbytes : bytes = (ofBytes bytes).flatMap groupBytes :=
    (flatMap_ofBytes (by rw [hlen]; decide)).symm
  split
  · next hmany =>
    have hgroups := ofBytes_lt bytes
    rw [hrun.split, List.flatMap_append, List.flatMap_append, flatMap_replicate_zero] at hbytes
    rw [hrun.split] at hgroups
    have hleft := @isRow_map_ofNat left fun g hg => hgroups g (by simp [hg])
    have hright := @isRow_map_ofNat right fun g hg => hgroups g (by simp [hg])
    have htotal := congrArg List.length hbytes
    simp only [hlen, List.length_append, List.length_replicate] at htotal
    rw [hbytes]
    exact .elided hleft hright.isTail (by omega) htotal.symm
  · have hrow := isRow_map_ofNat (ofBytes_lt bytes)
    rw [← hbytes] at hrow
    exact .full hrow.isTail hlen

end Groups

namespace Dotted

theorem eq_zero_of_head?_toDigits {base n : Nat} (hbase : 2 ≤ base)
    (h : (Nat.toDigits base n).head? = some '0') : n = 0 := by
  induction n using Nat.strongRecOn with
  | ind n ih =>
    rw [Nat.toDigits_eq_if (by omega)] at h
    split at h
    · simpa using h
    · next hn =>
      rw [List.head?_append_of_ne_nil _ Nat.toDigits_ne_nil] at h
      have hzero := ih (n / base) (Nat.div_lt_self (by omega) (by omega)) h
      rw [Nat.div_eq_zero_iff] at hzero
      omega

theorem isOctet_decimal (b : UInt8) : IsOctet (Text.decimal b.toNat) b where
  numeral := Text.isNumeral_ofNat (by decide) (by decide) b.toNat
  length_le := (Nat.length_toDigits_le_iff (by decide) (by decide)).mpr
    (b.toNat_lt.trans (by decide))
  eq_zero h := by
    rw [eq_zero_of_head?_toDigits (by decide) h]
    rfl

theorem isQuad_render {bytes : List UInt8} (h : bytes.length = 4) : IsQuad (render bytes) bytes := by
  refine ⟨bytes.map fun b => Text.decimal b.toNat, ?_, by simpa using h, rfl⟩
  rw [List.forall₂_map_left_iff]
  exact List.forall₂_same.mpr fun b _ => isOctet_decimal b

end Dotted

namespace Address

theorem isCanonical_render (a : Address) : IsCanonical a.render a := by
  obtain ⟨family, bytes, hlen⟩ := a
  cases family with
  | ipv4 => rfl
  | ipv6 => exact Groups.isCanonicalGroups_render bytes

/-- An address is read back from its canonical text as it was written. -/
theorem read?_render (a : Address) : read? a.render = some a := by
  rw [read?_eq_some_iff]
  obtain ⟨family, bytes, hlen⟩ := a
  cases family with
  | ipv4 => exact Or.inl ⟨rfl, Dotted.isQuad_render hlen⟩
  | ipv6 =>
    have hgroups := Groups.isGroups_of_isCanonicalGroups hlen (Groups.isCanonicalGroups_render bytes)
    exact Or.inr ⟨rfl, hgroups.not_mem (by decide), Or.inl hgroups⟩

theorem unmap_unmap (a : Address) : a.unmap.unmap = a.unmap := by
  by_cases h : a.isMapped
  · apply unmap_of_not_isMapped
    intro hmapped
    rw [isMapped_iff, family_unmap_of_isMapped h] at hmapped
    simp at hmapped
  · rw [unmap_of_not_isMapped h, unmap_of_not_isMapped h]

theorem parse_render (a : Address) : Literal.parse a.render = .ok ⟨a.unmap, a.render⟩ :=
  Literal.parse_eq_ok_iff.mpr ⟨a, read?_render a, rfl⟩

/-- Canonical text identifies an address. Parsing it gives the address back, or the IPv4 address
that a mapped one stands for; addresses that come from parsing are stable under another round. -/
theorem canonical_roundTrip (a : Address) :
    IsCanonical a.render a ∧
      (∃ l, Literal.parse a.render = .ok l ∧
        ((∀ octets, a.bytes ≠ mappedBytes octets) → l.address = a) ∧
        ∀ octets, a.bytes = mappedBytes octets →
          l.address.family = .ipv4 ∧ l.address.bytes = octets) ∧
      (∀ b : Address, a.render = b.render ↔ a = b) ∧
      ∀ t l, Literal.parse t = .ok l →
        ∃ again, Literal.parse l.address.render = .ok again ∧ again.address = l.address := by
  refine ⟨isCanonical_render a, ⟨_, parse_render a, ?_, ?_⟩, ?_, ?_⟩
  · intro hbytes
    apply unmap_of_not_isMapped
    rw [isMapped_iff]
    rintro ⟨-, octets, hmapped⟩
    exact hbytes octets hmapped
  · intro octets hbytes
    have hmapped := isMapped_of_bytes hbytes
    refine ⟨family_unmap_of_isMapped hmapped, ?_⟩
    rw [bytes_unmap_of_isMapped hmapped, hbytes]
    rfl
  · intro b
    constructor
    · intro h
      have hread := read?_render a
      rw [h, read?_render b] at hread
      exact (Option.some.inj hread).symm
    · intro h
      rw [h]
  · intro t l h
    obtain ⟨b, -, rfl⟩ := Literal.parse_eq_ok_iff.mp h
    exact ⟨_, parse_render b.unmap, unmap_unmap b⟩

end Address
end Forwarding
