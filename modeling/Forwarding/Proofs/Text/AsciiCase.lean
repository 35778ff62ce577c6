import Forwarding.Proofs.Text.LowerCase

/-!
Lower case and ASCII. On ASCII texts it changes the ASCII letters only, and but for the letter `k`,
which is also the form of the Kelvin sign, no other text has the lower-case form of an ASCII text.
-/
namespace Forwarding.Text

variable {c d : Char} {t word : Text} {afterCased : Bool}

def IsAscii (c : Char) : Prop := c.toNat < 128

instance : DecidablePred IsAscii := fun c => inferInstanceAs (Decidable (c.toNat < 128))

theorem lowerChar_of_isAscii (h : IsAscii c) : lowerChar c = [c.toLower] := by
  have htable : ∀ n < 128, lowerChar (Char.ofNat n) = [(Char.ofNat n).toLower] := by decide +kernel
  simpa using htable c.toNat h

theorem lowerAfter_of_isAscii (h : ∀ c ∈ t, IsAscii c) :
    lowerAfter afterCased t = t.map Char.toLower := by
  induction t generalizing afterCased with
  | nil => rfl
  | cons c rest ih =>
    obtain ⟨hc, hrest⟩ := List.forall_mem_cons.mp h
    have hsigma : c ≠ 'Σ' := by
      rintro rfl
      exact absurd hc (by decide)
    simp only [lowerAfter, if_neg hsigma, lowerChar_of_isAscii hc, ih hrest, List.map_cons,
      List.singleton_append]

/-- A run whose forms are ASCII is that of the capitals, or it is the Kelvin sign. -/
theorem caseRuns_ascii : ∀ run ∈ caseRuns,
    128 ≤ run.first + run.shift ∨ run.last < 128 ∨ run.first + run.shift = 'k'.toNat ∧
      run.last + run.shift = 'k'.toNat := by
  decide +kernel

theorem isAscii_of_lowerChar (h : ∀ d ∈ lowerChar c, IsAscii d ∧ d ≠ 'k') : IsAscii c := by
  unfold lowerChar at h
  split at h
  · exact absurd (h '\u0307' (by simp)).1 (by decide)
  · split at h
    · next run hfind =>
      have hrun := List.mem_of_find?_eq_some hfind
      have hcovers := List.find?_some hfind
      obtain ⟨hfirst, hlast, -⟩ := CaseRun.covers_iff.mp hcovers
      obtain ⟨hd, hk⟩ := h _ (List.mem_singleton_self _)
      have hform := toNat_form hrun hcovers
      rw [IsAscii, hform] at hd
      rw [IsAscii]
      rcases caseRuns_ascii run hrun with hhigh | hlow | ⟨hkfirst, hklast⟩
      · omega
      · omega
      · have hkelvin : (c.toNat + run.shift).toNat = 'k'.toNat := by omega
        rw [hkelvin, Char.ofNat_toNat] at hk
        exact absurd rfl hk
    · exact (h c (List.mem_singleton_self c)).1

/-- No character outside ASCII lower-cases to ASCII characters other than `k`. -/
theorem isAscii_of_lowerAfter (h : ∀ d ∈ lowerAfter afterCased t, IsAscii d ∧ d ≠ 'k') :
    ∀ c ∈ t, IsAscii c := by
  induction t generalizing afterCased with
  | nil => simp
  | cons c rest ih =>
    obtain ⟨form, next, hform, hcons⟩ := exists_lowerAfter_cons afterCased c rest
    rw [hcons, List.forall_mem_append] at h
    obtain ⟨hfirst, hrest⟩ := h
    refine List.forall_mem_cons.mpr ⟨?_, ih hrest⟩
    rcases hform with rfl | ⟨-, rfl⟩
    · exact isAscii_of_lowerChar hfirst
    · exact absurd (hfirst 'ς' (List.mem_singleton_self _)).1 (by decide)

theorem isAscii_of_toLower (h : IsAscii c.toLower) : IsAscii c := by
  unfold Char.toLower at h
  split at h
  · next hupper => exact Nat.lt_of_le_of_lt (UInt32.le_iff_toNat_le.mp hupper.2) (by decide)
  · exact h

theorem isAscii_of_map_toLower (h : ∀ d ∈ t.map Char.toLower, IsAscii d) : ∀ c ∈ t, IsAscii c :=
  fun _ hc => isAscii_of_toLower (h _ (List.mem_map_of_mem hc))

/-- A text has an ASCII lower-case form without `k` exactly when it has that form letter by letter,
the case of ASCII letters apart. -/
theorem lower_eq_iff (hword : ∀ d ∈ word, IsAscii d ∧ d ≠ 'k') :
    lower t = word ↔ t.map Char.toLower = word := by
  constructor
  · rintro rfl
    exact (lowerAfter_of_isAscii (isAscii_of_lowerAfter hword)).symm
  · rintro rfl
    exact lowerAfter_of_isAscii (isAscii_of_map_toLower fun d hd => (hword d hd).1)

end Forwarding.Text
