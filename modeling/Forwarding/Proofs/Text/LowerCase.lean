import Forwarding.Proofs.Text.Trim
import Forwarding.Text.Blank
import Forwarding.Text.LowerCase

/-!
Lower case of texts. Only the dotted capital I has a longer form. Every lower-case form consists of
characters that are lower case already and no whitespace, so lower case is idempotent and keeps a
text trimmed.
-/
namespace Forwarding.Text

namespace CaseRun

/-- The run of the lower-case forms. -/
def forms (run : CaseRun) : CaseRun :=
  ⟨(run.first + run.shift).toNat, (run.last + run.shift).toNat, run.step, 0⟩

def hasParity (parity : Nat) (run : CaseRun) : Bool :=
  (run.step ≠ 2 && run.first < run.last) || run.first % 2 = parity

/-- One bit for each code point from the first to the last, if the run may have the parity. -/
def bits (parity : Nat) (run : CaseRun) : Nat :=
  if run.hasParity parity then (1 <<< (run.last - run.first + 1) - 1) <<< run.first else 0

theorem covers_iff {run : CaseRun} {n : Nat} :
    run.covers n ↔ run.first ≤ n ∧ n ≤ run.last ∧ (n - run.first) % run.step = 0 := by
  simp [covers, and_assoc]

theorem covers_forms {run : CaseRun} {n : Nat} (hpos : 0 ≤ run.first + run.shift)
    (h : run.covers n) : run.forms.covers (n + run.shift).toNat := by
  obtain ⟨hfirst, hlast, hstep⟩ := covers_iff.mp h
  have hdiff : (n + run.shift).toNat - run.forms.first = n - run.first := by
    simp only [forms]
    omega
  rw [covers_iff, hdiff]
  refine ⟨?_, ?_, hstep⟩
  · exact Int.toNat_le_toNat (by omega)
  · exact Int.toNat_le_toNat (by omega)

theorem testBit_bits {run : CaseRun} {n : Nat} (h : run.covers n) :
    (run.bits (n % 2)).testBit n := by
  obtain ⟨hfirst, hlast, hstep⟩ := covers_iff.mp h
  have hparity : run.hasParity (n % 2) := by
    simp only [hasParity, Bool.or_eq_true, Bool.and_eq_true, decide_eq_true_eq]
    by_cases htwo : run.step = 2
    · rw [htwo] at hstep
      omega
    · omega
  rw [bits, if_pos hparity, Nat.testBit_shiftLeft, Nat.one_shiftLeft, Nat.testBit_two_pow_sub_one]
  simp only [Bool.and_eq_true, decide_eq_true_eq]
  omega

end CaseRun

def runBits (parity : Nat) (runs : List CaseRun) : Nat :=
  runs.foldr (fun run bits => run.bits parity ||| bits) 0

theorem testBit_runBits {runs : List CaseRun} {run : CaseRun} {n : Nat} (hrun : run ∈ runs)
    (h : run.covers n) : (runBits (n % 2) runs).testBit n := by
  induction runs with
  | nil => simp at hrun
  | cons first runs ih =>
    rw [runBits, List.foldr_cons, Nat.testBit_or, Bool.or_eq_true]
    rcases List.mem_cons.mp hrun with rfl | hrest
    · exact Or.inl (CaseRun.testBit_bits h)
    · exact Or.inr (ih hrest)

/-- Runs without a common bit in either parity have no common code point. -/
theorem not_covers_of_runBits {runs others : List CaseRun}
    (hbits : ∀ parity < 2, runBits parity runs &&& runBits parity others = 0) {run other : CaseRun}
    {n : Nat} (hrun : run ∈ runs) (hcovers : run.covers n) (hother : other ∈ others) :
    other.covers n = false := by
  by_contra h
  have hboth := Nat.testBit_and (runBits (n % 2) runs) (runBits (n % 2) others) n
  rw [hbits _ (Nat.mod_lt n (by decide)), testBit_runBits hrun hcovers,
    testBit_runBits hother (by simpa using h)] at hboth
  simp at hboth

/-- Code points that are in no lower-case form: whitespace, the dotted capital I and surrogates. -/
def barredRuns : List CaseRun :=
  [⟨0x09, 0x0d, 1, 0⟩, ⟨0x1c, 0x20, 1, 0⟩, ⟨0x85, 0x85, 1, 0⟩, ⟨0xa0, 0xa0, 1, 0⟩,
   ⟨0x1680, 0x1680, 1, 0⟩, ⟨0x2000, 0x200a, 1, 0⟩, ⟨0x2028, 0x2029, 1, 0⟩, ⟨0x202f, 0x202f, 1, 0⟩,
   ⟨0x205f, 0x205f, 1, 0⟩, ⟨0x3000, 0x3000, 1, 0⟩, ⟨0x130, 0x130, 1, 0⟩, ⟨0xd800, 0xdfff, 1, 0⟩]

theorem exists_covers_of_isBlank {c : Char} (h : isBlank c) :
    ∃ run ∈ barredRuns, run.covers c.toNat := by
  simp only [isBlank, Bool.or_eq_true, Bool.and_eq_true, decide_eq_true_eq] at h
  simp only [barredRuns, CaseRun.covers_iff, Nat.mod_one, List.exists_mem_cons_iff, and_true]
  omega

-- A pairwise comparison of the runs takes seconds; as bits of one number they are compared at once.
theorem runBits_forms : ∀ parity < 2,
    runBits parity (caseRuns.map CaseRun.forms) &&&
      runBits parity (caseRuns ++ barredRuns) = 0 := by
  decide +kernel

theorem forms_bounds : ∀ run ∈ caseRuns,
    0 ≤ run.first + run.shift ∧ run.last + run.shift < 0x110000 := by
  decide +kernel

section Form

variable {run other : CaseRun} {n : Nat} {c d : Char} {form t : Text} {afterCased : Bool}

/-- The code point of a lower-case form is covered by no run, and it is not barred. -/
theorem not_covers_form (hrun : run ∈ caseRuns) (hcovers : run.covers n)
    (hother : other ∈ caseRuns ++ barredRuns) : other.covers (n + run.shift).toNat = false :=
  not_covers_of_runBits runBits_forms (List.mem_map_of_mem hrun)
    (CaseRun.covers_forms (forms_bounds run hrun).1 hcovers) hother

theorem toNat_form (hrun : run ∈ caseRuns) (hcovers : run.covers n) :
    (Char.ofNat (n + run.shift).toNat).toNat = (n + run.shift).toNat := by
  have hsurrogate : CaseRun.covers ⟨0xd800, 0xdfff, 1, 0⟩ (n + run.shift).toNat = false :=
    not_covers_form hrun hcovers (List.mem_append_right _ (by decide))
  obtain ⟨-, hlast, -⟩ := CaseRun.covers_iff.mp hcovers
  have hbounds := forms_bounds run hrun
  rw [← Bool.not_eq_true, CaseRun.covers_iff] at hsurrogate
  have hvalid : (n + run.shift).toNat.isValidChar := by
    simp only [Nat.mod_one, and_true] at hsurrogate
    simp only [Nat.isValidChar]
    omega
  rw [Char.ofNat, dif_pos hvalid]
  rfl

/-- A lower-case form is the one of the dotted capital I, the one of a run, or the character
itself. -/
theorem mem_lowerChar (h : d ∈ lowerChar c) :
    d ∈ ['i', '\u0307'] ∨
      (∃ run ∈ caseRuns, run.covers c.toNat ∧ d.toNat = (c.toNat + run.shift).toNat) ∨
      d = c ∧ lowerChar c = [c] := by
  unfold lowerChar at h ⊢
  split at h
  · exact Or.inl h
  · next hdotted =>
    rw [if_neg hdotted]
    split at h
    · next run hfind =>
      obtain rfl := List.mem_singleton.mp h
      have hrun := List.mem_of_find?_eq_some hfind
      have hcovers := List.find?_some hfind
      exact Or.inr (Or.inl ⟨run, hrun, hcovers, toNat_form hrun hcovers⟩)
    · exact Or.inr (Or.inr ⟨List.mem_singleton.mp h, rfl⟩)

theorem lowerChar_of_mem (h : d ∈ lowerChar c) : lowerChar d = [d] := by
  rcases mem_lowerChar h with hdotted | ⟨run, hrun, hcovers, hd⟩ | ⟨rfl, hself⟩
  · rcases List.mem_pair.mp hdotted with rfl | rfl <;> decide
  · have hfree {other : CaseRun} (hother : other ∈ caseRuns ++ barredRuns) :
        other.covers d.toNat = false := by
      rw [hd]
      exact not_covers_form hrun hcovers hother
    have hdotted : d ≠ '\u0130' := by
      rintro rfl
      have hbarred : CaseRun.covers ⟨0x130, 0x130, 1, 0⟩ '\u0130'.toNat = false :=
        hfree (List.mem_append_right _ (by decide))
      exact absurd hbarred (by decide)
    have hfind : caseRuns.find? (·.covers d.toNat) = none := by
      rw [List.find?_eq_none]
      intro other hother
      simp [hfree (List.mem_append_left _ hother)]
    simp only [lowerChar, if_neg hdotted, hfind]
  · exact hself

theorem not_isBlank_of_mem_lowerChar (hc : isBlank c = false) (h : d ∈ lowerChar c) :
    isBlank d = false := by
  rcases mem_lowerChar h with hdotted | ⟨run, hrun, hcovers, hd⟩ | ⟨rfl, -⟩
  · rcases List.mem_pair.mp hdotted with rfl | rfl <;> decide
  · by_contra hblank
    obtain ⟨other, hother, hbarred⟩ := exists_covers_of_isBlank (by simpa using hblank)
    rw [hd, not_covers_form hrun hcovers (List.mem_append_right _ hother)] at hbarred
    simp at hbarred
  · exact hc

theorem lowerChar_ne_nil (c : Char) : lowerChar c ≠ [] := by
  unfold lowerChar
  split
  · simp
  · split <;> simp

theorem length_lowerChar (h : 'i' ∉ lowerChar c) : (lowerChar c).length = 1 := by
  unfold lowerChar at h ⊢
  split
  · next hdotted => simp [hdotted] at h
  · split <;> rfl

/-- The forms that a character may take in a text: besides its own a sigma has a final one. -/
def IsForm (c : Char) (form : Text) : Prop := form = lowerChar c ∨ c = 'Σ' ∧ form = ['ς']

theorem IsForm.ne_nil (h : IsForm c form) : form ≠ [] := by
  rcases h with rfl | ⟨-, rfl⟩
  · exact lowerChar_ne_nil c
  · simp

theorem IsForm.lowerChar_of_mem (h : IsForm c form) (hd : d ∈ form) : lowerChar d = [d] := by
  rcases h with rfl | ⟨-, rfl⟩
  · exact Text.lowerChar_of_mem hd
  · obtain rfl := List.mem_singleton.mp hd
    decide

theorem IsForm.not_isBlank_of_mem (h : IsForm c form) (hc : isBlank c = false) (hd : d ∈ form) :
    isBlank d = false := by
  rcases h with rfl | ⟨-, rfl⟩
  · exact not_isBlank_of_mem_lowerChar hc hd
  · obtain rfl := List.mem_singleton.mp hd
    decide

/-- A character in front puts one of its forms in front. -/
theorem exists_lowerAfter_cons (afterCased : Bool) (c : Char) (rest : Text) :
    ∃ form next, IsForm c form ∧
      lowerAfter afterCased (c :: rest) = form ++ lowerAfter next rest := by
  refine ⟨_, _, ?_, rfl⟩
  by_cases hsigma : c = 'Σ'
  · rw [if_pos hsigma]
    split
    · exact Or.inr ⟨hsigma, rfl⟩
    · subst hsigma
      exact Or.inl (by decide)
  · rw [if_neg hsigma]
    exact Or.inl rfl

theorem length_lowerAfter (h : 'i' ∉ lowerAfter afterCased t) :
    (lowerAfter afterCased t).length = t.length := by
  induction t generalizing afterCased with
  | nil => rfl
  | cons c rest ih =>
    obtain ⟨form, next, hform, hcons⟩ := exists_lowerAfter_cons afterCased c rest
    rw [hcons] at h ⊢
    obtain ⟨hchar, hrest⟩ := not_or.mp (mt List.mem_append.mpr h)
    have hlength : form.length = 1 := by
      rcases hform with rfl | ⟨-, rfl⟩
      · exact length_lowerChar hchar
      · rfl
    rw [List.length_append, ih hrest, hlength, List.length_cons, Nat.add_comm]

/-- A text whose lower-case form has no `i` is as long as that form. -/
theorem length_lower (h : 'i' ∉ lower t) : (lower t).length = t.length :=
  length_lowerAfter h

theorem lowerChar_of_mem_lowerAfter (h : d ∈ lowerAfter afterCased t) : lowerChar d = [d] := by
  induction t generalizing afterCased with
  | nil => simp [lowerAfter] at h
  | cons c rest ih =>
    obtain ⟨form, next, hform, hcons⟩ := exists_lowerAfter_cons afterCased c rest
    rw [hcons, List.mem_append] at h
    rcases h with hmem | hrest
    · exact hform.lowerChar_of_mem hmem
    · exact ih hrest

theorem lowerAfter_eq_self (h : ∀ d ∈ t, lowerChar d = [d]) : lowerAfter afterCased t = t := by
  induction t generalizing afterCased with
  | nil => rfl
  | cons c rest ih =>
    obtain ⟨hc, hrest⟩ := List.forall_mem_cons.mp h
    obtain ⟨form, next, hform, hcons⟩ := exists_lowerAfter_cons afterCased c rest
    rw [hcons, ih hrest]
    rcases hform with rfl | ⟨rfl, -⟩
    · rw [hc]
      rfl
    · exact absurd hc (by decide)

/-- Lower case leaves a lower-case text as it is. -/
theorem lower_lower (t : Text) : lower (lower t) = lower t :=
  lowerAfter_eq_self fun _ h => lowerChar_of_mem_lowerAfter h

theorem lowerAfter_eq_nil_iff : lowerAfter afterCased t = [] ↔ t = [] := by
  cases t with
  | nil => simp [lowerAfter]
  | cons c rest =>
    obtain ⟨form, next, hform, hcons⟩ := exists_lowerAfter_cons afterCased c rest
    simp [hcons, hform.ne_nil]

theorem head?_lowerAfter_not_isBlank (h : ∀ c ∈ t.head?, isBlank c = false) :
    ∀ d ∈ (lowerAfter afterCased t).head?, isBlank d = false := by
  intro d hd
  cases t with
  | nil => simp [lowerAfter] at hd
  | cons c rest =>
    obtain ⟨form, next, hform, hcons⟩ := exists_lowerAfter_cons afterCased c rest
    rw [hcons, List.head?_append_of_ne_nil _ hform.ne_nil] at hd
    exact hform.not_isBlank_of_mem (h c rfl) (List.mem_of_head? hd)

theorem getLast?_lowerAfter_not_isBlank (h : ∀ c ∈ t.getLast?, isBlank c = false) :
    ∀ d ∈ (lowerAfter afterCased t).getLast?, isBlank d = false := by
  induction t generalizing afterCased with
  | nil => simp [lowerAfter]
  | cons c rest ih =>
    obtain ⟨form, next, hform, hcons⟩ := exists_lowerAfter_cons afterCased c rest
    rw [hcons]
    intro d hd
    by_cases hrest : rest = []
    · subst hrest
      rw [lowerAfter, List.append_nil] at hd
      exact hform.not_isBlank_of_mem (h c rfl) (List.mem_of_getLast? hd)
    · have hne : lowerAfter next rest ≠ [] := mt lowerAfter_eq_nil_iff.mp hrest
      rw [List.getLast?_append_of_ne_nil _ hne] at hd
      rw [List.getLast?_cons_of_ne_nil hrest] at h
      exact ih h d hd

/-- Lower case brings no whitespace to the ends of a text. -/
theorem isTrimmed_lower (h : IsTrimmed isBlank t) : IsTrimmed isBlank (lower t) :=
  ⟨head?_lowerAfter_not_isBlank h.1, getLast?_lowerAfter_not_isBlank h.2⟩

end Form

end Forwarding.Text
