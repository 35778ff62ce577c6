import Forwarding.Text.Lines

/-! Texts made of whole lines: cutting them at their breaks gives the lines back. -/
namespace Forwarding.Text

variable {t rest : Text}

def IsLine (t : Text) : Prop := ∀ c ∈ t, isLineBreak c = false

theorem isLine_iff_all : IsLine t ↔ t.all (!isLineBreak ·) := by
  simp [IsLine]

instance (t : Text) : Decidable (IsLine t) := decidable_of_iff _ isLine_iff_all.symm

theorem IsLine.append {t' : Text} (h : IsLine t) (h' : IsLine t') : IsLine (t ++ t') :=
  List.forall_mem_append.mpr ⟨h, h'⟩

theorem isLine_spaces (count : Nat) : IsLine (List.replicate count ' ') := by
  intro c hc
  rw [List.eq_of_mem_replicate hc]
  rfl

theorem linesFrom_cons {c : Char} (h : isLineBreak c = false) (start rest : Text) :
    linesFrom start (c :: rest) = linesFrom (c :: start) rest := by
  have hreturn : c ≠ '\r' := by
    rintro rfl
    simp [isLineBreak] at h
  simp [linesFrom, h, hreturn]

theorem linesFrom_line (h : IsLine t) (start rest : Text) :
    linesFrom start (t ++ '\n' :: rest) = (start.reverse ++ t) :: lines rest := by
  induction t generalizing start with
  | nil => simp [linesFrom, lines, isLineBreak]
  | cons c t ih =>
    obtain ⟨hc, ht⟩ := List.forall_mem_cons.mp h
    rw [List.cons_append, linesFrom_cons hc, ih ht]
    simp

@[simp] theorem lines_nil : lines [] = [] := rfl

theorem lines_line (h : IsLine t) (rest : Text) : lines (t ++ '\n' :: rest) = t :: lines rest :=
  linesFrom_line h [] rest

/-- Lines that are written one after the other are found again. -/
theorem lines_flatMap {ts : List Text} (h : ∀ t ∈ ts, IsLine t) (rest : Text) :
    lines ((ts.flatMap fun t => t ++ ['\n']) ++ rest) = ts ++ lines rest := by
  induction ts with
  | nil => rfl
  | cons t ts ih =>
    obtain ⟨ht, hts⟩ := List.forall_mem_cons.mp h
    rw [List.flatMap_cons, List.append_assoc, List.append_assoc, List.singleton_append,
      lines_line ht, ih hts, List.cons_append]

theorem linesFrom_break {c : Char} (h : isLineBreak c) (hpair : c = '\r' → rest.head? ≠ some '\n')
    (start : Text) : linesFrom start (c :: rest) = start.reverse :: lines rest := by
  rw [linesFrom, if_pos h]
  · rfl
  · rintro r rfl rfl
    exact hpair rfl rfl

/-- A line feed ends what stands in front of it, whatever that is. -/
theorem linesFrom_append_lineFeed (start front rest : Text) :
    linesFrom start (front ++ '\n' :: rest) = linesFrom start (front ++ ['\n']) ++ lines rest := by
  fun_induction linesFrom start front with
  | case1 => simp [linesFrom, isLineBreak, lines]
  | case2 start => simp [linesFrom, isLineBreak, lines]
  | case3 start r ih => simp [linesFrom, ih]
  | case4 start c r hnot hc ih =>
    by_cases hpair : c = '\r' ∧ r = []
    · -- the carriage return at the end takes the line feed with it
      obtain ⟨rfl, rfl⟩ := hpair
      simp [linesFrom, lines]
    · have hhead (others : Text) : c = '\r' → (r ++ '\n' :: others).head? ≠ some '\n' := by
        intro hreturn
        cases r with
        | nil => exact absurd ⟨hreturn, rfl⟩ hpair
        | cons d r =>
          intro hfeed
          exact hnot r hreturn (by rw [Option.some.inj hfeed])
      rw [List.cons_append, List.cons_append, linesFrom_break hc (hhead _),
        linesFrom_break hc (hhead _), List.cons_append]
      exact congrArg _ ih
  | case5 start c r hnot hc ih =>
    have hc : isLineBreak c = false := by simpa using hc
    rw [List.cons_append, List.cons_append, linesFrom_cons hc, linesFrom_cons hc, ih]

theorem lines_append_lineFeed (front rest : Text) :
    lines (front ++ '\n' :: rest) = lines (front ++ ['\n']) ++ lines rest :=
  linesFrom_append_lineFeed [] front rest

end Forwarding.Text
