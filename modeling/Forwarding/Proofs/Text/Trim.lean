import Forwarding.Proofs.Text.Pieces
import Mathlib.Data.List.DropRight

/-! Texts without certain characters at their ends: what trimming gives, and what it leaves alone. -/
namespace Forwarding.Text

variable {p : Char → Bool} {t : Text}

def IsTrimmed (p : Char → Bool) (t : Text) : Prop :=
  (∀ c ∈ t.head?, p c = false) ∧ ∀ c ∈ t.getLast?, p c = false

theorem trim_eq_rdropWhile (p : Char → Bool) (t : Text) :
    trim p t = (t.dropWhile p).rdropWhile p := rfl

theorem isTrimmed_trim (p : Char → Bool) (t : Text) : IsTrimmed p (trim p t) := by
  rw [trim_eq_rdropWhile]
  constructor
  · intro c hc
    obtain ⟨rest, hrest⟩ := List.rdropWhile_prefix p (l := t.dropWhile p)
    obtain ⟨others, hothers⟩ := List.head?_eq_some_iff.mp hc
    rw [hothers, List.cons_append] at hrest
    exact not_of_dropWhile_eq_cons hrest.symm
  · intro c hc
    have hne := List.ne_nil_of_mem (List.mem_of_getLast? hc)
    rw [List.getLast?_eq_some_getLast hne] at hc
    obtain rfl := Option.some.inj hc
    simpa using List.rdropWhile_last_not p (t.dropWhile p) hne

theorem IsTrimmed.rdropWhile_eq (h : IsTrimmed p t) : t.rdropWhile p = t := by
  rw [List.rdropWhile_eq_self_iff]
  intro hne
  simp [h.2 _ (List.getLast?_eq_some_getLast hne)]

theorem IsTrimmed.trim_eq (h : IsTrimmed p t) : trim p t = t := by
  have hfront : t.dropWhile p = t := by
    cases t with
    | nil => rfl
    | cons c rest => exact List.dropWhile_cons_of_neg (by simp [h.1 c rfl])
  rw [trim_eq_rdropWhile, hfront, h.rdropWhile_eq]

theorem trim_eq_nil_iff : trim p t = [] ↔ ∀ c ∈ t, p c := by
  rw [trim_eq_rdropWhile, List.rdropWhile_eq_nil_iff]
  constructor
  · intro h
    rw [← List.dropWhile_eq_nil_iff]
    cases hstart : t.dropWhile p with
    | nil => rfl
    | cons c rest =>
      have hc := h c (by simp [hstart])
      rw [not_of_dropWhile_eq_cons hstart] at hc
      simp at hc
  · intro h c hc
    exact h c ((List.dropWhile_sublist p).subset hc)

/-- What trimming removes stands at the two ends. -/
theorem exists_eq_append_trim (p : Char → Bool) (t : Text) :
    ∃ front back, t = front ++ trim p t ++ back ∧ (∀ c ∈ front, p c) ∧ ∀ c ∈ back, p c := by
  refine ⟨t.takeWhile p, (t.dropWhile p).rtakeWhile p, ?_, ?_, ?_⟩
  · rw [trim_eq_rdropWhile, List.append_assoc, List.rdropWhile_append_rtakeWhile,
      List.takeWhile_append_dropWhile]
  · exact fun c hc => List.mem_takeWhile_imp hc
  · exact fun c hc => List.mem_rtakeWhile_imp hc

/-- Trimming undoes padding. -/
theorem IsTrimmed.trim_append {front back : Text} (h : IsTrimmed p t) (hfront : ∀ c ∈ front, p c)
    (hback : ∀ c ∈ back, p c) : trim p (front ++ t ++ back) = t := by
  cases t with
  | nil =>
    rw [trim_eq_nil_iff, List.append_nil]
    exact List.forall_mem_append.mpr ⟨hfront, hback⟩
  | cons c rest =>
    have hstart : ((c :: rest) ++ back).dropWhile p = (c :: rest) ++ back :=
      List.dropWhile_cons_of_neg (by simp [h.1 c rfl])
    have hend : ((c :: rest) ++ back).rdropWhile p = (c :: rest).rdropWhile p := by
      rw [List.rdropWhile, List.reverse_append,
        List.dropWhile_append_of_pos fun d hd => hback d (List.mem_reverse.mp hd)]
      rfl
    rw [trim_eq_rdropWhile, List.append_assoc, List.dropWhile_append_of_pos hfront, hstart, hend,
      h.rdropWhile_eq]

/-- Trimming keeps a character between characters outside the class. -/
theorem mem_trim {front back : Text} (hfront : ∃ d ∈ front, p d = false)
    (hback : ∃ d ∈ back, p d = false) (c : Char) : c ∈ trim p (front ++ c :: back) := by
  have hkeep {side : Text} (hside : ∃ d ∈ side, p d = false) (rest : Text) :
      (side ++ rest).dropWhile p = side.dropWhile p ++ rest := by
    obtain ⟨d, hd, hp⟩ := hside
    have hne : side.dropWhile p ≠ [] := by
      intro hnil
      simp [List.dropWhile_eq_nil_iff.mp hnil d hd] at hp
    rw [List.dropWhile_append, if_neg (by simpa using hne)]
  have hback' : ∃ d ∈ back.reverse, p d = false := by simpa using hback
  rw [trim, hkeep hfront, List.reverse_append, List.reverse_cons, List.append_assoc, hkeep hback']
  simp

end Forwarding.Text
