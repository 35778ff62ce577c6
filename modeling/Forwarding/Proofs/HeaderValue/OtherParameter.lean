import Forwarding.Proofs.HeaderValue.Quoted

/-!
Parameters other than `for`. The scan passes over them and comes back to where it was, whatever
their values look like, so they change neither what it completes nor the address chosen.
-/
namespace Forwarding.Forwarded

variable {state middle final : State} {key value before left right : Text}

structure Skips (state : State) (t : Text) (final : State) : Prop where
  after_eq : state.after t = final
  completedWithin_eq : completedWithin state t = []

namespace Skips

theorem cons {c : Char} (hsilent : state.completed? c = none)
    (h : Skips (state.next c) left final) : Skips state (c :: left) final where
  after_eq := h.after_eq
  completedWithin_eq := by
    rw [completedWithin, hsilent, h.completedWithin_eq]
    rfl

theorem append (hleft : Skips state left middle) (hright : Skips middle right final) :
    Skips state (left ++ right) final where
  after_eq := by rw [State.after_append, hleft.after_eq, hright.after_eq]
  completedWithin_eq := by
    induction left generalizing state with
    | nil =>
      obtain rfl : state = middle := hleft.after_eq
      exact hright.completedWithin_eq
    | cons c left ih =>
      obtain ⟨hsilent, hrest⟩ := List.append_eq_nil_iff.mp hleft.completedWithin_eq
      rw [List.cons_append, completedWithin, hsilent, ih ⟨hleft.after_eq, hrest⟩]
      rfl

/-- What follows a skipped text is scanned as if the text were not there. -/
theorem completed_append (h : Skips state left final) (rest : Text) :
    completed state (left ++ rest) = completed final rest := by
  rw [Forwarded.completed_append, h.completedWithin_eq, h.after_eq, List.nil_append]

theorem inKey (h : '=' ∉ left) (read : Text) :
    Skips (.key read) left (.key (left.reverse ++ read)) := by
  induction left generalizing read with
  | nil => exact ⟨rfl, rfl⟩
  | cons c left ih =>
    obtain ⟨hc, hleft⟩ := not_or.mp (mt List.mem_cons.mpr h)
    have hnext : (State.key read).next c = .key (c :: read) := by simp [State.next, Ne.symm hc]
    have hrest := ih hleft (c :: read)
    apply cons rfl
    simpa [hnext] using hrest

theorem inToken (h : ∀ c ∈ left, isDelimiter c = false) (read : Text) :
    Skips (.token false read) left (.token false (left.reverse ++ read)) := by
  induction left generalizing read with
  | nil => exact ⟨rfl, rfl⟩
  | cons c left ih =>
    obtain ⟨hc, hleft⟩ := List.forall_mem_cons.mp h
    have hnext : (State.token false read).next c = .token false (c :: read) := by
      simp [State.next, hc]
    have hrest := ih hleft (c :: read)
    apply cons rfl
    simpa [hnext] using hrest

end Skips

structure IsOtherKey (key : Text) : Prop where
  starts : ∃ c ∈ key.head?, isDelimiter c = false
  sign_not_mem : '=' ∉ key
  not_for : Text.lower key ≠ ['f', 'o', 'r']

inductive IsWritten : Text → Prop where
  | quoted {body text : Text} (h : Escapes body text) : IsWritten ('"' :: (body ++ ['"']))
  | token {c : Char} {rest : Text} (hquote : c ≠ '"')
      (h : ∀ d ∈ c :: rest, isDelimiter d = false) : IsWritten (c :: rest)

def parameterText (key value : Text) : Text := key ++ '=' :: (value ++ [';'])

/-- A key that is not wanted leads to a value that is not. -/
theorem IsOtherKey.skips (h : IsOtherKey key) :
    Skips .between (key ++ ['=']) (.beforeValue false) := by
  obtain ⟨c, hc, hdelimiter⟩ := h.starts
  obtain ⟨rest, rfl⟩ := List.head?_eq_some_iff.mp hc
  have hstart : State.between.next c = .key [c] := by simp [State.next, hdelimiter]
  have hrest : '=' ∉ rest := fun hmem => h.sign_not_mem (List.mem_cons_of_mem c hmem)
  have hunwanted : isFor (c :: rest) = false := by
    rw [Bool.eq_false_iff]
    intro hfor
    exact h.not_for (isFor_iff.mp hfor)
  have hsign : Skips (.key (rest.reverse ++ [c])) ['='] (.beforeValue false) := by
    refine ⟨?_, rfl⟩
    simp [State.next, hunwanted]
  apply Skips.cons rfl
  rw [hstart]
  exact (Skips.inKey hrest [c]).append hsign

/-- The semicolon behind a written value ends it. -/
theorem IsWritten.skips (h : IsWritten value) :
    Skips (.beforeValue false) (value ++ [';']) .between := by
  cases h with
  | @quoted body text hbody =>
    have hinside : Skips (.quoted false [] false) body (.quoted false (body.reverse ++ []) false) :=
      ⟨hbody.after_quoted false [], hbody.completedWithin_quoted false []⟩
    rw [List.cons_append, List.append_assoc]
    apply Skips.cons rfl
    exact hinside.append ⟨rfl, rfl⟩
  | @token c rest hquote hplain =>
    obtain ⟨hc, hrest⟩ := List.forall_mem_cons.mp hplain
    have hstart : (State.beforeValue false).next c = .token false [c] := by
      simp [State.next, hquote, hc]
    rw [List.cons_append]
    apply Skips.cons rfl
    rw [hstart]
    exact (Skips.inToken hrest [c]).append ⟨rfl, rfl⟩

theorem skips_parameterText (hkey : IsOtherKey key) (hvalue : IsWritten value) :
    Skips .between (parameterText key value) .between := by
  have hparts : parameterText key value = (key ++ ['=']) ++ (value ++ [';']) := by
    simp [parameterText]
  rw [hparts]
  exact hkey.skips.append hvalue.skips

/-- Other parameters do not count. Put between the parameters of a text, a parameter of another key
leaves the scan between parameters, completes no value and changes none, and the address chosen is
the same, even when its value looks like parameters itself. -/
theorem choose_insert_parameter (hkey : IsOtherKey key) (hvalue : IsWritten value)
    (hbefore : State.between.after before = .between) (rest : Text) :
    State.between.after (before ++ parameterText key value) = .between ∧
      completed .between (before ++ parameterText key value ++ rest) =
        completed .between (before ++ rest) ∧
      choose (before ++ parameterText key value ++ rest) = choose (before ++ rest) := by
  have hskips := skips_parameterText hkey hvalue
  have hscan : completed .between (before ++ parameterText key value ++ rest) =
      completed .between (before ++ rest) := by
    rw [List.append_assoc, completed_append_of_between hbefore, hskips.completed_append,
      completed_append_of_between hbefore]
  refine ⟨?_, hscan, ?_⟩
  · rw [State.after_append, hbefore, hskips.after_eq]
  · simp only [choose_eq_preferred, addresses_eq_completed, hscan]

/-- The quoted value of another key holds an escaped quote and what looks like a public address for
`for`. -/
theorem choose_insert_parameter_lookalike :
    let key : Text := "by\"for"
    let value : Text := "\";for=8.8.8.8, \\\"for=9.9.9.9;\""
    let before : Text := "for=10.0.0.1;"
    IsOtherKey key ∧ IsWritten value ∧ State.between.after before = .between ∧
      choose (before ++ parameterText key value ++ "for=192.168.0.1".toList) =
        some ⟨⟨.ipv4, [10, 0, 0, 1], rfl⟩, "10.0.0.1".toList⟩ := by
  intro key value before
  have hkey : IsOtherKey key := ⟨⟨'b', rfl, rfl⟩, by decide, by decide⟩
  have hplain {t : Text} (h : t.all fun c => c ≠ '"' && c ≠ '\\') : Escapes t t := by
    apply Escapes.of_plain
    intro c hc
    simpa using List.all_eq_true.mp h c hc
  have hbody : Escapes ";for=8.8.8.8, \\\"for=9.9.9.9;".toList
      ";for=8.8.8.8, \"for=9.9.9.9;".toList :=
    (@hplain ";for=8.8.8.8, ".toList (by decide)).append
      (.pair (@hplain "for=9.9.9.9;".toList (by decide)))
  have hvalue : IsWritten value := .quoted hbody
  have hbefore : State.between.after before = .between := by decide
  refine ⟨hkey, hvalue, hbefore, ?_⟩
  obtain ⟨-, -, hchoose⟩ := choose_insert_parameter hkey hvalue hbefore "for=192.168.0.1".toList
  rw [hchoose]
  decide +kernel

end Forwarding.Forwarded
