import Forwarding.Proofs.HeaderValue.Scan

/-!
Quoted values of parameters. A text may be escaped in many ways; the scan finds the closing quote
behind each of them, and removing the backslashes gives back the text.
-/
namespace Forwarding.Forwarded

/-- A text as it stands between quotes: a backslash precedes every quote and every backslash, and
may precede any other character. -/
inductive Escapes : Text → Text → Prop where
  | nil : Escapes [] []
  | plain {c : Char} {written text : Text} (hquote : c ≠ '"') (hslash : c ≠ '\\')
      (h : Escapes written text) : Escapes (c :: written) (c :: text)
  | pair {c : Char} {written text : Text} (h : Escapes written text) :
      Escapes ('\\' :: c :: written) (c :: text)

def quotedFor (written : Text) : Text :=
  ['f', 'o', 'r', '=', '"'] ++ written ++ ['"']

theorem after_openQuote :
    State.between.after ['f', 'o', 'r', '=', '"'] = .quoted true [] false := by
  decide

namespace Escapes

variable {written text : Text}

theorem unquote_eq (h : Escapes written text) : unquote written = text := by
  induction h with
  | nil => rfl
  | plain _ hslash _ ih => rw [unquote_cons hslash, ih]
  | pair _ ih => rw [unquote, ih]

theorem append {written' text' : Text} (h : Escapes written text) (h' : Escapes written' text') :
    Escapes (written ++ written') (text ++ text') := by
  induction h with
  | nil => exact h'
  | plain hquote hslash _ ih => exact plain hquote hslash ih
  | pair _ ih => exact pair ih

theorem of_plain (h : ∀ c ∈ text, c ≠ '"' ∧ c ≠ '\\') : Escapes text text := by
  induction text with
  | nil => exact nil
  | cons c text ih =>
    obtain ⟨⟨hquote, hslash⟩, htext⟩ := List.forall_mem_cons.mp h
    exact plain hquote hslash (ih htext)

/-- Escaped text does not leave the quotes, and no backslash in it is left without its character. -/
theorem after_quoted (h : Escapes written text) (wanted : Bool) (read : Text) :
    (State.quoted wanted read false).after written =
      .quoted wanted (written.reverse ++ read) false := by
  induction h generalizing read with
  | nil => rfl
  | plain hquote hslash _ ih => simp [State.next, hquote, hslash, ih]
  | pair _ ih => simp [State.next, ih]

theorem completedWithin_quoted (h : Escapes written text) (wanted : Bool) (read : Text) :
    completedWithin (.quoted wanted read false) written = [] := by
  induction h generalizing read with
  | nil => rfl
  | plain hquote hslash _ ih =>
    cases wanted <;> simp [completedWithin, State.completed?, State.next, hquote, hslash, ih]
  | pair _ ih => cases wanted <;> simp [completedWithin, State.completed?, State.next, ih]

theorem completed_quotedFor (h : Escapes written text) (rest : Text) :
    completed .between (quotedFor written ++ rest) = text :: completed .between rest := by
  have hkey : completedWithin .between ['f', 'o', 'r', '=', '"'] = [] := rfl
  calc completed .between (quotedFor written ++ rest)
      = completed .between (['f', 'o', 'r', '=', '"'] ++ (written ++ '"' :: rest)) := by
        simp [quotedFor]
    _ = completed (.quoted true [] false) (written ++ '"' :: rest) := by
        rw [completed_append, hkey, after_openQuote, List.nil_append]
    _ = completed (.quoted true (written.reverse ++ []) false) ('"' :: rest) := by
        rw [completed_append, h.completedWithin_quoted, h.after_quoted, List.nil_append]
    _ = text :: completed .between rest := by
        rw [completed_quoted_cons, if_pos rfl, List.append_nil, List.reverse_reverse, h.unquote_eq]
        rfl

theorem after_quotedFor (h : Escapes written text) :
    State.between.after (quotedFor written) = .between := by
  rw [quotedFor, State.after_append, State.after_append, after_openQuote, h.after_quoted]
  rfl

end Escapes

/-- Escaping and then scanning. Between any texts, however a value is escaped, the scan closes its
quote where it ends and completes exactly the value; the address chosen combines the address in the
value with those chosen from the texts on both sides. -/
theorem choose_quotedFor {written text before : Text} (hwritten : Escapes written text)
    (hbefore : State.between.after before = .between) (rest : Text) :
    let value := before ++ quotedFor written ++ rest
    unquote written = text ∧
      State.between.after (before ++ quotedFor written) = .between ∧
      completed .between value =
        completed .between before ++ text :: completed .between rest ∧
      choose value =
        Selection.combine (Selection.combine (choose before) (Literal.ofHostPort? text))
          (choose rest) := by
  intro value
  have hscan : completed .between value =
      completed .between before ++ text :: completed .between rest := by
    unfold value
    rw [List.append_assoc, completed_append_of_between hbefore, hwritten.completed_quotedFor]
  refine ⟨hwritten.unquote_eq, ?_, hscan, ?_⟩
  · rw [State.after_append, hbefore, hwritten.after_quotedFor]
  · have haddresses : addresses value =
        addresses before ++ (Literal.ofHostPort? text).toList ++ addresses rest := by
      simp only [addresses_eq_completed, hscan, List.filterMap_append, List.filterMap_cons,
        List.append_assoc]
      cases Literal.ofHostPort? text <;> rfl
    have hsingle : Selection.preferred (Literal.ofHostPort? text).toList =
        Literal.ofHostPort? text := by
      cases Literal.ofHostPort? text with
      | none => rfl
      | some l => exact Selection.preferred_singleton l
    simp only [choose_eq_preferred, haddresses, Selection.preferred_append, hsingle]

/-- An escaped quote, an escaped backslash and an escaped line break stand in front of the closing
quote. -/
theorem choose_quotedFor_backslashRun :
    let text : Text := "8.8.8.8:\"\\\n"
    let written : Text := "8.8.8.8:\\\"\\\\\\\n"
    let before : Text := "by=\"for=1.1.1.1\"; for=10.0.0.1, "
    Escapes written text ∧ State.between.after before = .between ∧
      (choose (before ++ quotedFor written ++ ";for=9.9.9.9".toList)).map (·.spelling) =
        some "8.8.8.8".toList := by
  intro text written before
  have hplain : Escapes "8.8.8.8:".toList "8.8.8.8:".toList := by
    apply Escapes.of_plain
    intro c hc
    have hall : "8.8.8.8:".toList.all fun c => c ≠ '"' && c ≠ '\\' := by decide
    simpa using List.all_eq_true.mp hall c hc
  have hwritten : Escapes written text := hplain.append (.pair (.pair (.pair .nil)))
  have hbefore : State.between.after before = .between := by decide +kernel
  obtain ⟨-, -, -, hchoose⟩ := choose_quotedFor hwritten hbefore ";for=9.9.9.9".toList
  refine ⟨hwritten, hbefore, ?_⟩
  rw [hchoose]
  decide +kernel

end Forwarding.Forwarded
