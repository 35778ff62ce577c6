import Forwarding.Proofs.HeaderValue.Addresses
import Forwarding.Proofs.Resolver.Modes
import Mathlib.Data.List.Basic
import Mathlib.Data.List.TakeWhile

/-!
Resolution from the well-known headers in one closed form. Within a header the first private address
stands in for a public one, and across headers the last header that has an address.
-/
namespace Forwarding

namespace HeaderSet

def addresses (h : HeaderSet) (role : Role) : List Literal :=
  match h.value role with
  | none => []
  | some value => role.form.addresses value

def contributors (h : HeaderSet) : List Role :=
  Role.all.filter fun role => h.addresses role ≠ []

/-- The first public address of all headers in priority order, or else the first address of the last
header that has one. -/
def arbitrated (h : HeaderSet) : Option Literal :=
  (Role.all.flatMap h.addresses).find? (!·.isPrivate) <|>
    h.contributors.getLast?.bind fun role => (h.addresses role).head?

end HeaderSet

namespace Selection

theorem preferred_eq_some_of_find? {found : List Literal} {l : Literal}
    (h : found.find? (!·.isPrivate) = some l) : preferred found = some l := by
  simp [preferred, h]

theorem preferred_eq_head? {found : List Literal} (h : found.find? (!·.isPrivate) = none) :
    preferred found = found.head? := by
  cases found with
  | nil => rfl
  | cons l found =>
    have hl : l.isPrivate := by simpa using List.find?_eq_none.mp h l (by simp)
    simp [preferred, h, hl]

end Selection

namespace Resolver

variable {α : Type}

def lastHead? (T : α → List Literal) (as : List α) : Option Literal :=
  (as.filter (T · ≠ [])).getLast?.bind fun a => (T a).head?

theorem lastHead?_cons (T : α → List Literal) (a : α) (as : List α) :
    lastHead? T (a :: as) = (lastHead? T as).or (T a).head? := by
  unfold lastHead?
  cases ha : T a with
  | nil => simp [ha]
  | cons l rest =>
    rw [List.filter_cons_of_pos (by simp [ha])]
    cases hlast : (as.filter (T · ≠ [])).getLast? with
    | none =>
      have hnil : as.filter (T · ≠ []) = [] := List.getLast?_eq_none_iff.mp hlast
      rw [hnil]
      simp [ha]
    | some b =>
      have hb : T b ≠ [] := by simpa using (List.mem_filter.mp (List.mem_of_getLast? hlast)).2
      obtain ⟨m, others, hm⟩ := List.exists_cons_of_ne_nil hb
      rw [List.getLast?_cons, hlast]
      simp [hm]

/-- Merging keeps a public address, and otherwise takes the first public one of the rest. Without
one it takes the first address of the last row that is not empty. -/
theorem foldl_preferPublic (T : α → List Literal) (as : List α) (kept : Option Literal) :
    (as.filterMap fun a => Selection.preferred (T a)).foldl
        (fun result l => preferPublic result (some l)) kept =
      if Selection.settles kept then kept
      else ((as.flatMap T).find? (!·.isPrivate)).or ((lastHead? T as).or kept) := by
  induction as generalizing kept with
  | nil => simp [lastHead?]
  | cons a as ih =>
    rw [lastHead?_cons, List.flatMap_cons, List.find?_append]
    cases hpublic : (T a).find? (!·.isPrivate) with
    | some l =>
      -- the public address of this row ends the fold, unless an earlier one has
      have hpick := Selection.preferred_eq_some_of_find? hpublic
      have hl : Selection.settles (some l) := by
        simpa [Selection.settles] using List.find?_some hpublic
      simp only [List.filterMap_cons, hpick, List.foldl_cons, ih]
      cases hkept : Selection.settles kept <;> simp [preferPublic, hkept, hl]
    | none =>
      have hpick := Selection.preferred_eq_head? hpublic
      simp only [List.filterMap_cons, hpick]
      cases ha : T a with
      | nil => simp [ih]
      | cons l rest =>
        -- a private address takes the place of what is kept and gives way to what follows
        have hl : Selection.settles (some l) = false := by
          simpa [Selection.settles] using List.find?_eq_none.mp hpublic l (by simp [ha])
        simp only [List.head?_cons, List.foldl_cons, ih]
        cases hkept : Selection.settles kept <;> simp [preferPublic, hkept, hl]

theorem bind_nonempty?_value (h : HeaderSet) (role : Role) :
    (h.value role).bind Text.nonempty? = h.value role := by
  cases hvalue : h.value role with
  | none => rfl
  | some value =>
    cases value with
    | nil => exact absurd hvalue (h.value_ne role)
    | cons c rest => simp

theorem choose?_value (h : HeaderSet) (role : Role) :
    role.form.choose? (h.value role) = Selection.preferred (h.addresses role) := by
  rw [ValueForm.choose?, bind_nonempty?_value, HeaderSet.addresses]
  cases h.value role with
  | none => rfl
  | some value => exact ValueForm.choose_eq_preferred role.form value

def candidateOf (h : HeaderSet) (role : Role) : Candidate :=
  ⟨role.headerName, h.value role, Selection.preferred (h.addresses role), some role⟩

theorem fixedCandidate_accessor (h : HeaderSet) (role : Role) :
    fixedCandidate h.accessor role = .ok (candidateOf h role) := by
  rw [candidateOf, ← choose?_value, ← bind_nonempty?_value]
  rfl

theorem fixedCandidates_accessor (h : HeaderSet) :
    fixedCandidates h.accessor = .ok (Role.all.map (candidateOf h)) := by
  have hread : fixedCandidate h.accessor = fun role => pure (candidateOf h role) :=
    funext (fixedCandidate_accessor h)
  rw [fixedCandidates, hread, List.mapM_pure]
  rfl

theorem merge_candidates (h : HeaderSet) :
    merge (Role.all.map (candidateOf h)) = h.arbitrated := by
  have hfold := foldl_preferPublic h.addresses Role.all none
  rw [merge, List.filterMap_map]
  unfold lastHead? at hfold
  unfold HeaderSet.arbitrated HeaderSet.contributors
  simpa [Selection.settles, candidateOf, Function.comp_def] using hfold

theorem contributing_candidates (h : HeaderSet) :
    contributing (Role.all.map (candidateOf h)) = h.contributors := by
  rw [contributing, List.filterMap_map, HeaderSet.contributors, ← List.filterMap_eq_filter]
  apply List.filterMap_congr
  intro role _
  have hsome : (Selection.preferred (h.addresses role)).isSome ↔ h.addresses role ≠ [] := by
    rw [Option.isSome_iff_ne_none, Ne, Selection.preferred_eq_none_iff]
  by_cases hfound : h.addresses role = []
  · simp [candidateOf, hfound, Option.guard, Selection.preferred]
  · simp [candidateOf, hsome, hfound, Option.guard]

/-- The tag of roles in priority order. -/
theorem multipleHeadersTag?_filter (p : Role → Bool) :
    multipleHeadersTag? (Role.all.filter p) =
      if 2 ≤ (Role.all.filter p).length then
        some ([','].intercalate ((Role.all.filter p).reverse.map Role.shortName))
      else none := by
  have hself : Role.all.reverse.filter (· ∈ Role.all.filter p) = (Role.all.filter p).reverse := by
    rw [List.filter_reverse]
    congr 1
    apply List.filter_congr
    intro role hrole
    simp [hrole]
  simp only [multipleHeadersTag?, hself, List.length_reverse]
  split
  · rw [if_neg (by omega)]
  · rw [if_pos (by omega)]

theorem multipleHeadersTag?_contributors (h : HeaderSet) :
    multipleHeadersTag? h.contributors =
      if 2 ≤ h.contributors.length then
        some ([','].intercalate (h.contributors.reverse.map Role.shortName))
      else none :=
  multipleHeadersTag?_filter _

theorem resolve_eq_conclude {config : Config} {h : HeaderSet} (span : Option Span)
    (hconfig : config.trusted = none) (hblank : ∀ t ∈ h.customName, ∀ c ∈ t, Text.isBlank c) :
    resolve config (some h.accessor) span =
      (conclude (Role.all.map (candidateOf h)) span).contain := by
  have hmode : mode config h.accessor = .ok .fixed :=
    mode_eq_fixed_iff.mpr ⟨hconfig, h.customName, rfl, hblank⟩
  simp only [resolve, attempt, hmode, fixedCandidates_accessor]

/-- Resolution from the well-known headers. The result is the first public address of all headers in
priority order, or else the first address of the last header that has one; it is lost only to a span
that refuses the tag. The tag is set when at least two headers have an address, and names exactly
these headers from the lowest priority to the highest. -/
theorem resolve_wellKnown (config : Config) (h : HeaderSet) (span : Option Span)
    (hconfig : config.trusted = none) (hblank : ∀ t ∈ h.customName, ∀ c ∈ t, Text.isBlank c) :
    let resolution := resolve config (some h.accessor) span
    resolution.result =
        (if 2 ≤ h.contributors.length ∧ (span.bind (·.fault)).isSome then none
        else h.arbitrated) ∧
      ((∀ role, h.addresses role = []) → resolution.result = none) ∧
      resolution.span = span.map fun s =>
        if 2 ≤ h.contributors.length then
          s.setTag multipleHeadersKey ([','].intercalate (h.contributors.reverse.map Role.shortName))
        else s := by
  intro resolution
  have hresolution : resolution = (conclude (Role.all.map (candidateOf h)) span).contain :=
    resolve_eq_conclude span hconfig hblank
  rw [hresolution, conclude, contributing_candidates, multipleHeadersTag?_contributors,
    merge_candidates]
  refine ⟨?_, ?_, ?_⟩
  · by_cases hseveral : 2 ≤ h.contributors.length
    · cases span.bind (·.fault) <;> simp [hseveral, Attempt.contain]
    · simp [hseveral, Attempt.contain]
  · intro hnone
    have hcontributors : h.contributors = [] := by simp [HeaderSet.contributors, hnone]
    have harbitrated : h.arbitrated = none := by
      simp [HeaderSet.arbitrated, hcontributors, hnone]
    simp [hcontributors, harbitrated, Attempt.contain]
  · by_cases hseveral : 2 ≤ h.contributors.length
    · cases span.bind (·.fault) <;> simp [hseveral, Attempt.contain]
    · simp [hseveral, Attempt.contain]

/-- Two plain headers and a blank nomination. The private address of the first header gives way to
the public one of the second, and the tag names both. -/
theorem resolve_privateThenPublic :
    let h := HeaderSet.of
      (fun | .xForwardedFor => some "10.0.0.1" | .xRealIp => some "8.8.8.8" | _ => none)
      (some " ") none
    let resolution := resolve Config.default (some h.accessor) (some (Span.fresh none))
    Config.default.trusted = none ∧ (∀ t ∈ h.customName, ∀ c ∈ t, Text.isBlank c) ∧
      resolution.result.map (·.spelling) = some "8.8.8.8".toList ∧
      (resolution.span.bind (·.tag? multipleHeadersKey)) =
        some "x-real-ip,x-forward-for".toList := by
  intro h resolution
  have hblank : ∀ t ∈ h.customName, ∀ c ∈ t, Text.isBlank c := by
    intro t ht c hc
    obtain rfl : [' '] = t := Option.some.inj ht
    obtain rfl := List.mem_singleton.mp hc
    rfl
  obtain ⟨hresult, -, hspan⟩ :=
    resolve_wellKnown Config.default h (some (Span.fresh none)) rfl hblank
  refine ⟨rfl, hblank, ?_, ?_⟩
  · unfold resolution
    rw [hresult]
    decide +kernel
  · unfold resolution
    rw [hspan]
    decide +kernel

end Resolver
end Forwarding
