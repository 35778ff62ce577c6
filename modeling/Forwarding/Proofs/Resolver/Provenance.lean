import Forwarding.Proofs.HeaderValue.Origin
import Forwarding.Proofs.Resolver.Arbitration

/-!
No address is invented. What a resolution returns is spelled in a header value that its mode
consults, and reading that spelling again gives the same address.
-/
namespace Forwarding

variable {l : Literal}

namespace ValueForm

variable {form : ValueForm} {value : Text}

theorem ofToken?_spelling (h : l ∈ form.addresses value) :
    Literal.ofToken? l.spelling = some l := by
  obtain ⟨t, htoken⟩ := exists_ofToken?_of_mem_addresses h
  rwa [Literal.spelling_of_ofToken? htoken]

theorem exists_of_choose? {raw : Option Text} (h : form.choose? raw = some l) :
    ∃ value, raw = some value ∧ l ∈ form.addresses value := by
  cases raw with
  | none => simp [choose?] at h
  | some value =>
    rw [choose?_some] at h
    exact ⟨value, rfl, Selection.mem_of_preferred h⟩

end ValueForm

theorem Literal.parse_of_ofToken? {t : Text} (h : ofToken? t = some l) : parse t = .ok l := by
  obtain ⟨-, a, hread, rfl⟩ := ofToken?_eq_some_iff.mp h
  simp [parse, parse?, hread]

namespace Resolver

variable {config : Config} {h : HeaderSet} {span : Option Span}

/-- The header values that the mode of a request consults: the nominated one only, or those of the
nine well-known headers only. -/
def consulted (config : Config) (h : HeaderSet) : List Text :=
  match mode config h.accessor with
  | .error _ => []
  | .ok (.custom _) => h.customValue.toList
  | .ok .fixed => Role.all.filterMap h.value

theorem mem_of_foldl_preferPublic {ls : List Literal} {kept : Option Literal}
    (hfold : ls.foldl (fun result l => preferPublic result (some l)) kept = some l) :
    kept = some l ∨ l ∈ ls := by
  induction ls generalizing kept with
  | nil => exact Or.inl hfold
  | cons first ls ih =>
    rw [List.foldl_cons] at hfold
    rcases ih hfold with hkept | hmem
    · unfold preferPublic at hkept
      split at hkept
      · exact Or.inl hkept
      · exact Or.inr (List.mem_cons.mpr (Or.inl (Option.some.inj hkept).symm))
    · exact Or.inr (List.mem_cons_of_mem first hmem)

theorem exists_of_conclude {found : List Candidate}
    (hresult : (conclude found span).contain.result = some l) :
    ∃ candidate ∈ found, candidate.literal = some l := by
  have hmerge : merge found = some l := by
    unfold conclude at hresult
    split at hresult
    · exact hresult
    · cases hspan : span.bind (·.fault) with
      | none => simpa [Attempt.contain, hspan] using hresult
      | some fault => simp [Attempt.contain, hspan] at hresult
  rcases mem_of_foldl_preferPublic hmerge with hnone | hmem
  · simp at hnone
  · exact List.mem_filterMap.mp hmem

theorem customCandidate_accessor (h : HeaderSet) (name : Text) :
    ∃ raw logs, (raw = h.customValue ∨ raw = none) ∧
      customCandidate h.accessor name = .ok (⟨name, raw.bind Text.nonempty?,
        ValueForm.forwarded.choose? raw <|> ValueForm.plain.choose? raw, none⟩, logs) := by
  by_cases hname : HeaderName.normalize? h.customName = some name
  · refine ⟨h.customValue, [], Or.inl rfl, ?_⟩
    simp [customCandidate, customValue, HeaderSet.accessor, hname, bind, Except.bind, pure,
      Except.pure]
  · refine ⟨none, [.notProvided name], Or.inr rfl, ?_⟩
    simp [customCandidate, customValue, HeaderSet.accessor, hname, bind, Except.bind, pure,
      Except.pure]

/-- The result of a resolution is among the addresses of a consulted value. -/
theorem exists_consulted (hresult : (resolve config (some h.accessor) span).result = some l) :
    ∃ value ∈ consulted config h, ∃ form : ValueForm, l ∈ form.addresses value := by
  unfold consulted
  cases hmode : mode config h.accessor with
  | error fault => simp [resolve, attempt, hmode, Attempt.contain] at hresult
  | ok chosen =>
    cases chosen with
    | custom name =>
      obtain ⟨raw, logs, hraw, hcandidate⟩ := customCandidate_accessor h name
      simp only [resolve, attempt, hmode, hcandidate, Attempt.contain, Option.orElse_eq_orElse,
        Option.orElse_eq_or, Option.or_eq_some_iff] at hresult
      have hfound : ∃ form : ValueForm, form.choose? raw = some l := by
        rcases hresult with hforwarded | ⟨-, hplain⟩
        · exact ⟨.forwarded, hforwarded⟩
        · exact ⟨.plain, hplain⟩
      obtain ⟨form, hchoose⟩ := hfound
      obtain ⟨value, rfl, hmem⟩ := ValueForm.exists_of_choose? hchoose
      have hvalue : some value = h.customValue := by simpa using hraw
      exact ⟨value, by simp [← hvalue], form, hmem⟩
    | fixed =>
      simp only [resolve, attempt, hmode, fixedCandidates_accessor] at hresult
      obtain ⟨candidate, hcandidate, hliteral⟩ := exists_of_conclude hresult
      obtain ⟨role, hrole, rfl⟩ := List.mem_map.mp hcandidate
      have hmem := Selection.mem_of_preferred hliteral
      unfold HeaderSet.addresses at hmem
      split at hmem
      · simp at hmem
      · next value hvalue =>
        exact ⟨value, List.mem_filterMap.mpr ⟨role, hrole, hvalue⟩, role.form, hmem⟩

/-- Where a resolved address comes from. Its spelling stands in a value that the mode consults, as
it is or in a quoted section without its backslashes. It begins with a decimal digit or a colon, and
reading it gives the same address with the same spelling. -/
theorem resolve_provenance (config : Config) (h : HeaderSet) (span : Option Span) (l : Literal)
    (hresult : (resolve config (some h.accessor) span).result = some l) :
    (∃ value ∈ consulted config h, Forwarded.StandsIn l.spelling value) ∧
      (∃ c rest, l.spelling = c :: rest ∧ (c.isDigit ∨ c = ':')) ∧
      Literal.parse l.spelling = .ok l := by
  obtain ⟨value, hvalue, form, hmem⟩ := exists_consulted hresult
  have htoken := ValueForm.ofToken?_spelling hmem
  refine ⟨⟨value, hvalue, ValueForm.spelling_standsIn hmem⟩, ?_, Literal.parse_of_ofToken? htoken⟩
  obtain ⟨⟨c, hhead, hfirst⟩, -⟩ := Literal.ofToken?_eq_some_iff.mp htoken
  obtain ⟨rest, hspelling⟩ := List.head?_eq_some_iff.mp hhead
  exact ⟨c, rest, hspelling, hfirst⟩

/-- A spelling that stands in the value only once the backslashes of its section are removed. The
plain header with a public address is not consulted. -/
theorem resolve_provenance_quoted :
    let value : Text := "by=\"x\";for=\"[2001:\\db8::1]:80\""
    let h := HeaderSet.of (fun | .xForwardedFor => some "8.8.8.8" | _ => none) (some "X-Client")
      (some value)
    ∃ l, (resolve Config.default (some h.accessor) none).result = some l ∧
      consulted Config.default h = [value] ∧ ¬l.spelling <:+: value ∧
      Forwarded.StandsIn l.spelling value := by
  intro value h
  let l : Literal :=
    ⟨⟨.ipv6, [0x20, 0x01, 0x0d, 0xb8, 0, 0, 0, 0, 0, 0, 0, 0, 0, 0, 0, 1], rfl⟩, "2001:db8::1"⟩
  have hresult : (resolve Config.default (some h.accessor) none).result = some l := by
    decide +kernel
  have hconsulted : consulted Config.default h = [value] := by decide +kernel
  obtain ⟨⟨raw, hraw, hstands⟩, -, -⟩ := resolve_provenance Config.default h none l hresult
  rw [hconsulted] at hraw
  obtain rfl := List.mem_singleton.mp hraw
  exact ⟨l, hresult, hconsulted, by decide +kernel, hstands⟩

end Resolver
end Forwarding
