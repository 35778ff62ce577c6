import Forwarding.Proofs.Text.Lines
import Forwarding.Proofs.Text.Pieces

/-!
Line ends in their three forms. Lines that are written with any of them, and with or without one at
the end, are found again, but for an empty line at the end.
-/
namespace Forwarding.Text

variable {t rest : Text} {ts : List Text}

inductive LineEnd where
  | lineFeed
  | carriageReturn
  | both
  deriving DecidableEq

def LineEnd.text : LineEnd → Text
  | .lineFeed => ['\n']
  | .carriageReturn => ['\r']
  | .both => ['\r', '\n']

def joinLines (e : LineEnd) (final : Bool) (ts : List Text) : Text :=
  e.text.intercalate ts ++ if final then e.text else []

theorem joinLines_singleton (e : LineEnd) (final : Bool) (t : Text) :
    joinLines e final [t] = t ++ if final then e.text else [] := by
  simp [joinLines]

theorem joinLines_cons_cons (e : LineEnd) (final : Bool) (t next : Text) (ts : List Text) :
    joinLines e final (t :: next :: ts) = t ++ (e.text ++ joinLines e final (next :: ts)) := by
  simp [joinLines, List.intercalate_cons_cons]

theorem unifyLineEnds_cons {c : Char} (h : c ≠ '\r') (rest : Text) :
    unifyLineEnds (c :: rest) = c :: unifyLineEnds rest := by
  simp [unifyLineEnds, h]

theorem unifyLineEnds_line (h : IsLine t) (rest : Text) :
    unifyLineEnds (t ++ rest) = t ++ unifyLineEnds rest := by
  induction t with
  | nil => rfl
  | cons c t ih =>
    obtain ⟨hc, ht⟩ := List.forall_mem_cons.mp h
    have hreturn : c ≠ '\r' := by
      rintro rfl
      exact absurd hc (by decide)
    rw [List.cons_append, unifyLineEnds_cons hreturn, ih ht, List.cons_append]

/-- A carriage return is a line end of its own when no line feed follows. -/
theorem unifyLineEnds_lineEnd (e : LineEnd)
    (h : e = .carriageReturn → rest.head? ≠ some '\n') :
    unifyLineEnds (e.text ++ rest) = '\n' :: unifyLineEnds rest := by
  cases e with
  | lineFeed => exact unifyLineEnds_cons (by decide) rest
  | both => rfl
  | carriageReturn =>
    cases rest with
    | nil => rfl
    | cons c rest =>
      have hc : c ≠ '\n' := by simpa using h rfl
      simp [LineEnd.text, unifyLineEnds, hc]

theorem lineFeed_not_mem_joinLines (h : ∀ t ∈ ts, IsLine t) (final : Bool) :
    '\n' ∉ joinLines .carriageReturn final ts := by
  have hlines : '\n' ∉ ['\r'].intercalate ts := by
    intro hmem
    rcases mem_intercalate hmem with hreturn | ⟨t, ht, hfeed⟩
    · exact absurd hreturn (by decide)
    · exact absurd (h t ht _ hfeed) (by decide)
  cases final <;> simp [joinLines, LineEnd.text, hlines]

/-- Whatever its line ends are, in one form they are line feeds. -/
theorem unifyLineEnds_joinLines (e : LineEnd) (final : Bool) (h : ∀ t ∈ ts, IsLine t) :
    unifyLineEnds (joinLines e final ts) = joinLines .lineFeed final ts := by
  induction ts with
  | nil => cases e <;> cases final <;> rfl
  | cons t ts ih =>
    obtain ⟨ht, hts⟩ := List.forall_mem_cons.mp h
    cases ts with
    | nil =>
      have hend : unifyLineEnds e.text = ['\n'] := by cases e <;> rfl
      rw [joinLines_singleton, joinLines_singleton, unifyLineEnds_line ht]
      cases final
      · rfl
      · exact congrArg _ hend
    | cons next ts =>
      rw [joinLines_cons_cons, joinLines_cons_cons, unifyLineEnds_line ht, unifyLineEnds_lineEnd,
        ih hts]
      · rfl
      · rintro rfl hhead
        exact lineFeed_not_mem_joinLines hts final (List.mem_of_head? hhead)

theorem lines_of_isLine (h : IsLine t) : lines t = if t = [] then [] else [t] := by
  have hfrom (start : Text) :
      linesFrom start t = if start.reverse ++ t = [] then [] else [start.reverse ++ t] := by
    induction t generalizing start with
    | nil => simp [linesFrom]
    | cons c t ih =>
      obtain ⟨hc, ht⟩ := List.forall_mem_cons.mp h
      rw [linesFrom_cons hc, ih ht]
      simp
  exact hfrom []

/-- Lines are found again in the text that was made of them, where empty lines do not count. -/
theorem filterMap_lines_joinLines {α : Type} {f : Text → Option α} (hf : f [] = none)
    (final : Bool) (h : ∀ t ∈ ts, IsLine t) :
    (lines (joinLines .lineFeed final ts)).filterMap f = ts.filterMap f := by
  induction ts with
  | nil =>
    cases final
    · rfl
    · simp [joinLines, LineEnd.text, lines, linesFrom, isLineBreak, hf]
  | cons t ts ih =>
    obtain ⟨ht, hts⟩ := List.forall_mem_cons.mp h
    cases ts with
    | nil =>
      rw [joinLines_singleton]
      cases final
      · by_cases hnil : t = [] <;> simp [lines_of_isLine ht, hnil, hf]
      · exact congrArg (List.filterMap f) (lines_line ht [])
    | cons next ts =>
      have hline : lines (joinLines .lineFeed final (t :: next :: ts)) =
          t :: lines (joinLines .lineFeed final (next :: ts)) := by
        rw [joinLines_cons_cons]
        exact lines_line ht _
      rw [hline, List.filterMap_cons, List.filterMap_cons, ih hts]

end Forwarding.Text
