import Forwarding.Text.Basic
import Mathlib.Data.List.TakeWhile

/-! Texts cut at separators. Cutting into pieces and joining pieces undo each other. -/
namespace Forwarding.Text

theorem pieces_eq_splitOn (sep : Char) (t : Text) : pieces sep t = t.splitOn sep := by
  induction t with
  | nil => simp [pieces]
  | cons c rest ih =>
    rw [List.splitOn_cons_eq_if_modifyHead, ← ih]
    by_cases hc : c = sep
    · simp [pieces, hc]
    · cases hp : pieces sep rest with
      | nil => exact absurd hp (pieces_ne_nil sep rest)
      | cons piece others => simp [pieces, hc, hp]

theorem intercalate_pieces (sep : Char) (t : Text) : [sep].intercalate (pieces sep t) = t := by
  rw [pieces_eq_splitOn]
  exact List.intercalate_splitOn sep

theorem pieces_intercalate {sep : Char} {parts : List Text} (hne : parts ≠ [])
    (hsep : ∀ part ∈ parts, sep ∉ part) : pieces sep ([sep].intercalate parts) = parts := by
  rw [pieces_eq_splitOn]
  exact List.splitOn_intercalate sep hsep hne

theorem mem_intercalate {sep c : Char} {parts : List Text} (h : c ∈ [sep].intercalate parts) :
    c = sep ∨ ∃ part ∈ parts, c ∈ part := by
  induction parts with
  | nil => simp at h
  | cons part parts ih =>
    cases parts with
    | nil => exact Or.inr ⟨part, by simp, by simpa using h⟩
    | cons next parts =>
      rw [List.intercalate_cons_cons, List.append_assoc, List.mem_append, List.singleton_append,
        List.mem_cons] at h
      rcases h with hpart | hsep | hrest
      · exact Or.inr ⟨part, by simp, hpart⟩
      · exact Or.inl hsep
      · rcases ih hrest with hsep | ⟨other, hother, hc⟩
        · exact Or.inl hsep
        · exact Or.inr ⟨other, List.mem_cons_of_mem part hother, hc⟩

theorem exists_intercalate_cons (sep : Char) (part : Text) (parts : List Text) :
    ∃ rest, [sep].intercalate (part :: parts) = part ++ rest := by
  cases parts with
  | nil => exact ⟨[], by simp⟩
  | cons next parts => exact ⟨_, by rw [List.intercalate_cons_cons, List.append_assoc]⟩

theorem not_of_dropWhile_eq_cons {p : Char → Bool} {t rest : Text} {c : Char}
    (h : t.dropWhile p = c :: rest) : p c = false := by
  have hhead := List.head?_dropWhile_not p t
  rw [h] at hhead
  simpa using hhead

theorem cut?_append {sep : Char} {l r : Text} (h : sep ∉ l) :
    cut? sep (l ++ sep :: r) = some (l, r) := by
  induction l with
  | nil => simp [cut?]
  | cons c l ih =>
    obtain ⟨hc, hl⟩ := not_or.mp (mt List.mem_cons.mpr h)
    simp [cut?, Ne.symm hc, ih hl]

theorem cut?_eq_none_iff {sep : Char} {t : Text} : cut? sep t = none ↔ sep ∉ t := by
  constructor
  · intro h hmem
    obtain ⟨l, r, rfl, hl⟩ := List.eq_append_cons_of_mem hmem
    simp [cut?_append hl] at h
  · intro h
    cases hcut : cut? sep t with
    | none => rfl
    | some sides =>
      obtain ⟨rfl, -⟩ := cut?_eq_some hcut
      simp at h

theorem before_append {sep : Char} {l : Text} (h : sep ∉ l) (r : Text) :
    before sep (l ++ sep :: r) = l := by
  have hall : ∀ c ∈ l, (c != sep) = true := by
    intro c hc
    simpa using ne_of_mem_of_not_mem hc h
  rw [before, List.takeWhile_append_of_pos hall, List.takeWhile_cons_of_neg (by simp),
    List.append_nil]

theorem before_eq_self {sep : Char} {t : Text} (h : sep ∉ t) : before sep t = t := by
  rw [before, List.takeWhile_eq_self_iff]
  intro c hc
  simpa using ne_of_mem_of_not_mem hc h

theorem not_mem_before (sep : Char) (t : Text) : sep ∉ before sep t := by
  intro hmem
  simpa using List.mem_takeWhile_imp hmem

theorem prefix_of_splitOnP {p : Char → Bool} {t piece : Text} {pieces : List Text}
    (h : t.splitOnP p = piece :: pieces) : piece <+: t ∧ ∀ other ∈ pieces, other <:+: t := by
  induction t generalizing piece pieces with
  | nil =>
    obtain ⟨rfl, rfl⟩ := List.cons.inj (h.symm.trans List.splitOnP_nil)
    simp
  | cons c rest ih =>
    obtain ⟨first, others, hrest⟩ := List.exists_cons_of_ne_nil (List.splitOnP_ne_nil p rest)
    obtain ⟨hfirst, hothers⟩ := ih hrest
    rw [List.splitOnP_cons_eq_if_modifyHead, hrest] at h
    split at h
    · obtain ⟨rfl, rfl⟩ := List.cons.inj h
      refine ⟨List.nil_prefix, List.forall_mem_cons.mpr ⟨List.infix_cons hfirst.isInfix, ?_⟩⟩
      exact fun other hother => List.infix_cons (hothers other hother)
    · obtain ⟨rfl, rfl⟩ := List.cons.inj h
      refine ⟨List.cons_prefix_cons.mpr ⟨rfl, hfirst⟩, ?_⟩
      exact fun other hother => List.infix_cons (hothers other hother)

theorem infix_of_mem_splitOnP {p : Char → Bool} {t piece : Text} (h : piece ∈ t.splitOnP p) :
    piece <:+: t := by
  obtain ⟨first, others, hpieces⟩ := List.exists_cons_of_ne_nil (List.splitOnP_ne_nil p t)
  obtain ⟨hfirst, hothers⟩ := prefix_of_splitOnP hpieces
  rw [hpieces] at h
  rcases List.mem_cons.mp h with rfl | hmem
  · exact hfirst.isInfix
  · exact hothers piece hmem

end Forwarding.Text
