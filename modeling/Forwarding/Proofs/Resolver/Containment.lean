import Forwarding.Proofs.Resolver.Modes
import Mathlib.Data.List.Forall2
import Mathlib.Data.List.Perm.Basic

/-!
Faults are contained. A resolution agrees with the candidates of the same request, and a fault in a
read or in the span leaves no address and one warning.
-/
namespace Forwarding.Resolver

variable {config : Config} {headers : Accessor} {span : Option Span} {found : List Candidate}

theorem mapM_eq_ok_iff_forall₂ {α β ε : Type} {f : α → Except ε β} {as : List α} {bs : List β} :
    as.mapM f = .ok bs ↔ List.Forall₂ (fun a b => f a = .ok b) as bs := by
  induction as generalizing bs with
  | nil => simp [pure, Except.pure, eq_comm]
  | cons a as ih =>
    rw [List.mapM_cons, List.forall₂_cons_left_iff]
    cases ha : f a with
    | error e => simp [bind, Except.bind]
    | ok b =>
      cases hrest : as.mapM f with
      | error e => simp [bind, Except.bind, hrest, ← ih]
      | ok rest => simp [bind, Except.bind, pure, Except.pure, hrest, ← ih, eq_comm]

theorem exists_of_mapM_eq_error {α β ε : Type} {f : α → Except ε β} {as : List α} {e : ε}
    (h : as.mapM f = .error e) : ∃ a ∈ as, f a = .error e := by
  induction as with
  | nil => simp [pure, Except.pure] at h
  | cons a as ih =>
    rw [List.mapM_cons] at h
    cases ha : f a with
    | error e' =>
      obtain rfl : e' = e := by simpa [ha, bind, Except.bind] using h
      exact ⟨a, by simp, ha⟩
    | ok b =>
      cases hrest : as.mapM f with
      | error e' =>
        obtain rfl : e' = e := by simpa [ha, hrest, bind, Except.bind] using h
        obtain ⟨a', hmem, ha'⟩ := ih hrest
        exact ⟨a', List.mem_cons_of_mem a hmem, ha'⟩
      | ok bs => simp [ha, hrest, bind, Except.bind, pure, Except.pure] at h

/-- A well-known header is read without a fault, and its candidate says what its value yields. -/
theorem fixedCandidate_eq_ok_iff {role : Role} {candidate : Candidate} :
    fixedCandidate headers role = .ok candidate ↔
      ∃ value, headers.value role = .ok value ∧ candidate =
        ⟨role.headerName, value.bind Text.nonempty?, role.form.choose? value, some role⟩ := by
  unfold fixedCandidate
  cases headers.value role with
  | error fault => simp [bind, Except.bind]
  | ok value =>
    have hchoose : role.form.choose? (value.bind Text.nonempty?) = role.form.choose? value := by
      rcases value with _ | _ | ⟨c, rest⟩ <;> simp [ValueForm.choose?]
    simp [bind, Except.bind, pure, Except.pure, hchoose, eq_comm]

theorem fixedCandidate_eq_error_iff {role : Role} {fault : Fault} :
    fixedCandidate headers role = .error fault ↔ headers.value role = .error fault := by
  unfold fixedCandidate
  cases headers.value role <;> simp [bind, Except.bind, pure, Except.pure]

theorem role_of_fixedCandidate {role : Role} {candidate : Candidate}
    (h : fixedCandidate headers role = .ok candidate) : candidate.role = some role := by
  obtain ⟨value, -, rfl⟩ := fixedCandidate_eq_ok_iff.mp h
  rfl

/-- A walk over roles gives each candidate its role, so those that contribute stand in the order of
the walk, one for each address. -/
theorem contributing_of_walk {roles : List Role}
    (h : List.Forall₂ (fun role candidate => candidate.role = some role) roles found) :
    (contributing found).Sublist roles ∧
      (contributing found).length = found.countP (·.literal.isSome) := by
  induction h with
  | nil => exact ⟨.slnil, rfl⟩
  | @cons role candidate roles found hrole _ ih =>
    obtain ⟨hsublist, hlength⟩ := ih
    rw [List.countP_cons, ← hlength]
    cases hliteral : candidate.literal.isSome with
    | true =>
      have hcons : contributing (candidate :: found) = role :: contributing found := by
        simp [contributing, hliteral, hrole]
      rw [hcons]
      exact ⟨hsublist.cons_cons role, rfl⟩
    | false =>
      have hskip : contributing (candidate :: found) = contributing found := by
        simp [contributing, hliteral]
      rw [hskip]
      exact ⟨hsublist.cons role, rfl⟩

/-- There is a tag when at least two of the candidates for the well-known headers have an address.
-/
theorem multipleHeadersTag?_contributing (h : fixedCandidates headers = .ok found) :
    multipleHeadersTag? (contributing found) = none ↔ found.countP (·.literal.isSome) < 2 := by
  obtain ⟨hsublist, hlength⟩ :=
    contributing_of_walk ((mapM_eq_ok_iff_forall₂.mp h).imp fun _ _ => role_of_fixedCandidate)
  -- the tag takes the roles in its own order, so the two lists agree only up to order
  have hnodup : Role.all.Nodup := by decide
  have hperm : (Role.all.filter (· ∈ contributing found)).Perm (contributing found) := by
    rw [List.perm_ext_iff_of_nodup (hnodup.filter _) (hsublist.nodup hnodup)]
    intro role
    simp [Role.mem_all]
  have hcount : (Role.all.reverse.filter (· ∈ contributing found)).length =
      found.countP (·.literal.isSome) := by
    rw [List.filter_reverse, List.length_reverse, hperm.length_eq, hlength]
  simp only [multipleHeadersTag?, hcount]
  split <;> simp_all

def warnings (logs : List LogRecord) : List LogRecord := logs.filter (·.level = "WARNING".toList)

theorem span_contain (a : Attempt) : a.contain.span = a.span := by
  obtain ⟨ended, logs, span⟩ := a
  cases ended <;> rfl

theorem conclude_untagged (htag : multipleHeadersTag? (contributing found) = none) :
    conclude found span = ⟨.ok (merge found), [], span⟩ := by
  simp only [conclude, htag]

/-- A conclusion leaves the span alone, or offers it the one tag. -/
theorem span_conclude (found : List Candidate) (span : Option Span) :
    (conclude found span).span = match multipleHeadersTag? (contributing found) with
      | none => span
      | some tag => span.map (·.setTag multipleHeadersKey tag) := by
  unfold conclude
  cases multipleHeadersTag? (contributing found) <;> rfl

theorem ended_conclude_of_steady (hspan : span.bind (·.fault) = none) :
    (conclude found span).ended = .ok (merge found) := by
  unfold conclude
  cases multipleHeadersTag? (contributing found) <;> simp [hspan]

theorem conclude_of_failing {s : Span} {fault : Fault} (hs : s.fault = some fault)
    (htag : multipleHeadersTag? (contributing found) ≠ none) :
    ∃ tag, conclude found (some s) =
      ⟨.error fault, [.severalHeaders tag], some { s with calls := s.calls + 1 }⟩ := by
  obtain ⟨tag, htag⟩ := Option.ne_none_iff_exists'.mp htag
  exact ⟨tag, by simp only [conclude, htag, Option.bind_some, hs, Option.map_some, Span.setTag]⟩

/-- A resolution always ends, although its attempt may fail, and it agrees with the candidates of
the same request. A fault that keeps the candidates from being read ends the attempt and leaves no
address, an untouched span and one warning. Otherwise, unless the span fails, the attempt succeeds:
the well-known headers give the merged address and the tag of the headers that have one, and a
nominated header gives its own address and no tag. A span that fails ends the attempt only when two
well-known headers have an address: it refuses the one tag it is offered, and no address and one
warning are left. -/
theorem resolve_contained (config : Config) (headers : Accessor) (span : Option Span) :
    let tried := attempt config (some headers) span
    let run := resolve config (some headers) span
    (∀ fault, candidates config headers = .error fault →
      tried.ended = .error fault ∧ run = ⟨none, [.unexpected fault], span⟩) ∧
    ∀ found logs, candidates config headers = .ok (found, logs) →
      (span.bind (·.fault) = none → tried.ended = .ok run.result ∧
        ((mode config headers = .ok .fixed ∧
          run.result = (found.filterMap (·.literal)).foldl
            (fun kept l => preferPublic kept (some l)) none ∧
          run.span = match multipleHeadersTag? (contributing found) with
            | none => span
            | some tag => span.map (·.setTag multipleHeadersKey tag)) ∨
        ∃ name candidate, mode config headers = .ok (.custom name) ∧ found = [candidate] ∧
          run.result = candidate.literal ∧ run.span = span)) ∧
      ∀ s fault, span = some s → s.fault = some fault →
        (mode config headers = .ok .fixed ∧ 2 ≤ found.countP (·.literal.isSome) →
          tried.ended = .error fault ∧ run.result = none ∧
            run.span = some { s with calls := s.calls + 1 } ∧
            warnings run.logs = [.unexpected fault]) ∧
        (¬(mode config headers = .ok .fixed ∧ 2 ≤ found.countP (·.literal.isSome)) →
          tried.ended = .ok run.result ∧
            run.result = (resolve config (some headers) none).result ∧
            run.logs = (resolve config (some headers) none).logs ∧ run.span = span) := by
  intro tried run
  have hrun : run = tried.contain := rfl
  rcases attempt_cases config headers with
    ⟨fault, hread, hattempt⟩ | ⟨name, candidate, logs, hmode, hread, hattempt⟩ |
      ⟨found, hmode, hwalk, hread, hattempt⟩
  · refine ⟨?_, by simp [hread]⟩
    intro fault' hfault
    obtain rfl := Except.error.inj (hread.symm.trans hfault)
    have htried : tried = ⟨.error fault, [], span⟩ := hattempt span
    rw [hrun, htried]
    exact ⟨rfl, rfl⟩
  · refine ⟨by simp [hread], ?_⟩
    intro found' logs' hfound
    obtain ⟨rfl, rfl⟩ := Prod.mk.inj (Except.ok.inj (hread.symm.trans hfound))
    -- a nominated header never asks the span
    have htried : tried = ⟨.ok candidate.literal, logs, span⟩ := hattempt span
    simp [hrun, htried, resolve, hattempt none, hmode, Attempt.contain]
  · refine ⟨by simp [hread], ?_⟩
    intro found' logs' hfound
    obtain ⟨rfl, rfl⟩ := Prod.mk.inj (Except.ok.inj (hread.symm.trans hfound))
    have htried : tried = conclude found span := hattempt span
    rw [hrun, htried, resolve, hattempt none]
    refine ⟨?_, ?_⟩
    · intro hspan
      have hended : (conclude found span).ended = .ok (merge found) :=
        ended_conclude_of_steady hspan
      have hresult : (conclude found span).contain.result = merge found := by
        rw [Attempt.contain, hended]
      exact ⟨hended.trans (congrArg _ hresult.symm),
        Or.inl ⟨hmode, hresult, by rw [span_contain, span_conclude]⟩⟩
    · rintro s fault rfl hs
      constructor
      · intro h
        have htag : multipleHeadersTag? (contributing found) ≠ none := by
          intro htag
          have hfew := (multipleHeadersTag?_contributing hwalk).mp htag
          omega
        obtain ⟨tag, hconclude⟩ := conclude_of_failing hs htag
        rw [hconclude]
        exact ⟨rfl, rfl, rfl, rfl⟩
      · intro h
        have hfew : found.countP (·.literal.isSome) < 2 := by
          by_contra hmany
          exact h ⟨hmode, by omega⟩
        have htag := (multipleHeadersTag?_contributing hwalk).mpr hfew
        simp [conclude_untagged htag, Attempt.contain]

/-- Two headers have an address, and the span refuses the tag. With one more header that fails to be
read, the span is not even asked. -/
theorem resolve_contained_brokenSpan :
    let fault : Fault := .raised "SpanError" "broken"
    let raw : Role → Option Text :=
      fun | .xForwardedFor => some "10.0.0.1" | .xRealIp => some "8.8.8.8" | _ => none
    let headers : Accessor := ⟨.ok none, .ok none, fun role => .ok (raw role)⟩
    let faulty : Accessor :=
      { headers with value := fun | .via => .error .noHeaders | role => .ok (raw role) }
    let span := some (Span.fresh (some fault))
    let run := resolve Config.default (some headers) span
    mode Config.default headers = .ok .fixed ∧
      (attempt Config.default (some headers) span).ended = .error fault ∧
      run.result = none ∧ run.span = some ⟨[], 1, some fault⟩ ∧
      warnings run.logs = [.unexpected fault] ∧
      candidates Config.default faulty = .error .noHeaders ∧
      resolve Config.default (some faulty) span = ⟨none, [.unexpected .noHeaders], span⟩ := by
  intro fault raw headers faulty span run
  let found : List Candidate := Role.all.map fun role =>
    ⟨role.headerName, raw role, role.form.choose? (raw role), some role⟩
  have hread : candidates Config.default headers = .ok (found, []) := rfl
  have hcount : 2 ≤ found.countP (·.literal.isSome) := by decide +kernel
  obtain ⟨-, hagree⟩ := resolve_contained Config.default headers span
  obtain ⟨hended, hresult, hspan, hlogs⟩ :=
    ((hagree found [] hread).2 _ fault rfl rfl).1 ⟨rfl, hcount⟩
  have hfaulty : candidates Config.default faulty = .error .noHeaders := rfl
  exact ⟨rfl, hended, hresult, hspan, hlogs, hfaulty,
    ((resolve_contained Config.default faulty span).1 .noHeaders hfaulty).2⟩

end Forwarding.Resolver
