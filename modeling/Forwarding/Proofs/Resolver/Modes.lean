import Forwarding.Proofs.Header.Name
import Forwarding.Resolver.Resolve

/-!
What each mode reads of a request. A nominated header is the only one that counts, in the result and
in all that a resolution leaves behind, and without a nomination the nominated value does not count.
-/
namespace Forwarding

/-- The headers nominate none themselves: they carry no name, or a blank one. -/
def Accessor.IsUnnamed (headers : Accessor) : Prop :=
  ∃ name, headers.customName = .ok name ∧ HeaderName.IsBlank name

namespace Resolver

variable {config : Config} {headers left right : Accessor}

theorem mode_eq_fixed_iff :
    mode config headers = .ok .fixed ↔ config.trusted = none ∧ headers.IsUnnamed := by
  unfold mode Accessor.IsUnnamed
  cases config.trusted with
  | some name => simp
  | none =>
    cases headers.customName with
    | error fault => simp [bind, Except.bind]
    | ok name =>
      simp only [bind, Except.bind, pure, Except.pure, Except.ok.injEq, true_and, exists_eq_left',
        ← HeaderName.normalize?_eq_none_iff]
      cases HeaderName.normalize? name <;> simp

theorem mode_congr (hname : left.customName = right.customName) :
    mode config left = mode config right := by
  simp only [mode, hname]

theorem customCandidate_congr (hname : left.customName = right.customName)
    (hvalue : left.customValue = right.customValue) :
    customCandidate left = customCandidate right := by
  funext name
  simp only [customCandidate, customValue, hname, hvalue]

theorem fixedCandidates_congr (hvalue : ∀ role, left.value role = right.value role) :
    fixedCandidates left = fixedCandidates right := by
  have hcandidate : fixedCandidate left = fixedCandidate right := by
    funext role
    simp only [fixedCandidate, hvalue]
  simp only [fixedCandidates, hcandidate]

/-- A resolution is attempted in one of three ways: up to a fault in a read, with the candidate of
the nominated header, or with the conclusion from the well-known headers. -/
theorem attempt_cases (config : Config) (headers : Accessor) :
    (∃ fault, candidates config headers = .error fault ∧
      ∀ span, attempt config (some headers) span = ⟨.error fault, [], span⟩) ∨
    (∃ name candidate logs, mode config headers = .ok (.custom name) ∧
      candidates config headers = .ok ([candidate], logs) ∧
      ∀ span, attempt config (some headers) span = ⟨.ok candidate.literal, logs, span⟩) ∨
    (∃ found, mode config headers = .ok .fixed ∧ fixedCandidates headers = .ok found ∧
      candidates config headers = .ok (found, []) ∧
      ∀ span, attempt config (some headers) span = conclude found span) := by
  cases hmode : mode config headers with
  | error fault =>
    refine Or.inl ⟨fault, ?_, by simp [attempt, hmode]⟩
    simp [candidates, hmode, bind, Except.bind]
  | ok chosen =>
    cases chosen with
    | custom name =>
      cases hcustom : customCandidate headers name with
      | error fault =>
        refine Or.inl ⟨fault, ?_, by simp [attempt, hmode, hcustom]⟩
        simp [candidates, hmode, hcustom, bind, Except.bind]
      | ok outcome =>
        refine Or.inr (Or.inl ⟨name, outcome.1, outcome.2, rfl, ?_, ?_⟩)
        · simp [candidates, hmode, hcustom, bind, Except.bind, pure, Except.pure]
        · simp [attempt, hmode, hcustom]
    | fixed =>
      cases hfixed : fixedCandidates headers with
      | error fault =>
        refine Or.inl ⟨fault, ?_, by simp [attempt, hmode, hfixed]⟩
        simp [candidates, hmode, hfixed, bind, Except.bind]
      | ok found =>
        refine Or.inr (Or.inr ⟨found, rfl, rfl, ?_, by simp [attempt, hmode, hfixed]⟩)
        simp [candidates, hmode, hfixed, bind, Except.bind, pure, Except.pure]

/-- Outside of fixed mode, nothing depends on the well-known headers. -/
theorem resolve_congr (span : Option Span) (hname : left.customName = right.customName)
    (hvalue : left.customValue = right.customValue) (hmode : mode config left ≠ .ok .fixed) :
    resolve config (some left) span = resolve config (some right) span ∧
      candidates config left = candidates config right := by
  have hmodes := @mode_congr config _ _ hname
  have hcustom := customCandidate_congr hname hvalue
  cases hchosen : mode config left with
  | error fault => simp [resolve, attempt, candidates, ← hmodes, hchosen, bind, Except.bind]
  | ok chosen =>
    cases chosen with
    | custom name =>
      simp [resolve, attempt, candidates, ← hmodes, hchosen, hcustom, bind, Except.bind]
    | fixed => exact absurd hchosen hmode

/-- A nominated header is exclusive. When the configuration or the headers nominate one, two
requests that agree on the nominated name and value are resolved alike, whatever their other headers
hold or fail with: the span is left alone, and there is the same single candidate or the same fault.
Without a nomination, two requests that agree on the well-known headers are resolved alike, whatever
their nominated value is or fails with. -/
theorem resolve_isolated (config : Config) (left right : Accessor) (span : Option Span) :
    (left.customName = right.customName → left.customValue = right.customValue →
      (config.trusted ≠ none ∨ ¬left.IsUnnamed) →
        resolve config (some left) span = resolve config (some right) span ∧
        (resolve config (some left) span).span = span ∧
        candidates config left = candidates config right ∧
        ∀ found logs, candidates config left = .ok (found, logs) → ∃ c, found = [c]) ∧
    ((∀ role, left.value role = right.value role) → config.trusted = none →
      left.IsUnnamed → right.IsUnnamed →
        resolve config (some left) span = resolve config (some right) span) := by
  constructor
  · intro hname hvalue hnominated
    have hmode : mode config left ≠ .ok .fixed := by
      intro hfixed
      obtain ⟨htrusted, hunnamed⟩ := mode_eq_fixed_iff.mp hfixed
      exact hnominated.elim (· htrusted) (· hunnamed)
    obtain ⟨hresolve, hcandidates⟩ := resolve_congr span hname hvalue hmode
    refine ⟨hresolve, ?_, hcandidates, ?_⟩
    · rcases attempt_cases config left with ⟨_, -, hattempt⟩ | ⟨_, _, _, -, -, hattempt⟩ | hfixed
      · rw [resolve, hattempt]
        rfl
      · rw [resolve, hattempt]
        rfl
      · exact absurd hfixed.choose_spec.1 hmode
    · intro found logs hfound
      rcases attempt_cases config left with ⟨_, hfault, -⟩ | ⟨_, c, _, -, hcustom, -⟩ | hfixed
      · simp [hfault] at hfound
      · rw [hcustom] at hfound
        exact ⟨c, (Prod.mk.inj (Except.ok.inj hfound)).1.symm⟩
      · exact absurd hfixed.choose_spec.1 hmode
  · intro hvalue htrusted hleft hright
    have hmode {headers : Accessor} (h : headers.IsUnnamed) : mode config headers = .ok .fixed :=
      mode_eq_fixed_iff.mpr ⟨htrusted, h⟩
    simp only [resolve, attempt, hmode hleft, hmode hright, fixedCandidates_congr hvalue]

/-- A request whose well-known headers all fail is resolved from its nominated header like one whose
well-known headers all hold a public address. With a blank name its nominated value is not read. -/
theorem resolve_isolated_faultyReads :
    let fault : Fault := .raised "ReadError" "broken"
    let faulty : Accessor := ⟨.ok (some " X-Client "), .ok (some "10.0.0.1"), fun _ => .error fault⟩
    let spoofed : Accessor := { faulty with value := fun _ => .ok (some "8.8.8.8") }
    let blank : Accessor := { spoofed with customName := .ok (some " ") }
    let unread : Accessor := { blank with customName := .ok none, customValue := .error fault }
    ¬faulty.IsUnnamed ∧ blank.IsUnnamed ∧ unread.IsUnnamed ∧
      resolve Config.default (some faulty) none = resolve Config.default (some spoofed) none ∧
      (resolve Config.default (some spoofed) none).result.map (·.spelling) =
        some "10.0.0.1".toList ∧
      resolve Config.default (some blank) none = resolve Config.default (some unread) none := by
  intro fault faulty spoofed blank unread
  have hnamed : ¬faulty.IsUnnamed := by
    intro h
    obtain ⟨name, hname, hblank⟩ := h
    obtain rfl := Except.ok.inj hname
    exact absurd (hblank _ rfl 'X' (by decide)) (by decide)
  have hblank : blank.IsUnnamed := ⟨_, rfl, HeaderName.normalize?_eq_none_iff.mp (by decide)⟩
  have hunread : unread.IsUnnamed := ⟨_, rfl, HeaderName.normalize?_eq_none_iff.mp (by decide)⟩
  have hnominated := (resolve_isolated Config.default faulty spoofed none).1 rfl rfl (Or.inr hnamed)
  have hfixed := (resolve_isolated Config.default blank unread none).2 (fun _ => rfl) rfl hblank
    hunread
  exact ⟨hnamed, hblank, hunread, hnominated.1, by decide +kernel, hfixed⟩

end Resolver
end Forwarding
