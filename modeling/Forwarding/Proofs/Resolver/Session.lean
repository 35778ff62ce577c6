import Forwarding.Proofs.Resolver.Arbitration
import Forwarding.Proofs.Resolver.Containment

/-!
Sessions: resolutions of any requests, one after the other, that share a span. Whatever fails in
between, the span counts the requests that have a tag and holds the latest of their tags.
-/
namespace Forwarding

namespace Accessor

def yield? (headers : Accessor) (role : Role) : Option Literal :=
  match headers.value role with
  | .error _ => none
  | .ok value => role.form.choose? value

def yielding (headers : Accessor) : List Role :=
  Role.all.filter fun role => (headers.yield? role).isSome

end Accessor

structure Request where
  config : Config
  headers : Option Accessor

namespace Request

def resolve (request : Request) (span : Option Span) : Resolution :=
  Resolver.resolve request.config request.headers span

/-- A request has a tag when its headers are there and are read in fixed mode, all nine of them
without a fault, and at least two yield an address. The tag names these from the lowest priority to
the highest. -/
def tag? (request : Request) : Option Text :=
  match request.headers with
  | none => none
  | some headers =>
    if Resolver.mode request.config headers = .ok .fixed ∧
        (∀ role ∈ Role.all, (headers.value role).isOk) ∧ 2 ≤ headers.yielding.length then
      some ([','].intercalate (headers.yielding.reverse.map Role.shortName))
    else none

end Request

namespace Resolver

variable {config : Config} {headers : Accessor} {found : List Candidate}

def spanAfter (span : Option Span) (requests : List Request) : Option Span :=
  requests.foldl (fun span request => (request.resolve span).span) span

theorem contributing_eq_filter {roles : List Role}
    (h : List.Forall₂ (fun role candidate => fixedCandidate headers role = .ok candidate) roles
      found) :
    (∀ role ∈ roles, (headers.value role).isOk) ∧
      contributing found = roles.filter fun role => (headers.yield? role).isSome := by
  induction h with
  | nil => exact ⟨by simp, rfl⟩
  | @cons role candidate roles found hread _ ih =>
    obtain ⟨value, hvalue, rfl⟩ := fixedCandidate_eq_ok_iff.mp hread
    obtain ⟨hreadable, hcontributing⟩ := ih
    have hyield : headers.yield? role = role.form.choose? value := by
      simp [Accessor.yield?, hvalue]
    constructor
    · exact List.forall_mem_cons.mpr ⟨by simp [hvalue, Except.isOk, Except.toBool], hreadable⟩
    · unfold contributing at hcontributing ⊢
      rw [List.filterMap_cons, List.filter_cons, hyield, hcontributing]
      cases role.form.choose? value <;> rfl

/-- A fault of the walk is a fault of one of its headers. -/
theorem exists_of_fixedCandidates_eq_error {fault : Fault}
    (h : fixedCandidates headers = .error fault) :
    ∃ role ∈ Role.all, headers.value role = .error fault := by
  obtain ⟨role, hrole, hread⟩ := exists_of_mapM_eq_error h
  exact ⟨role, hrole, fixedCandidate_eq_error_iff.mp hread⟩

theorem tag?_of_walk (hmode : mode config headers = .ok .fixed)
    (hwalk : fixedCandidates headers = .ok found) :
    Request.tag? ⟨config, some headers⟩ = multipleHeadersTag? (contributing found) := by
  obtain ⟨hreadable, hcontributing⟩ := contributing_eq_filter (mapM_eq_ok_iff_forall₂.mp hwalk)
  rw [hcontributing, multipleHeadersTag?_filter]
  simp only [Request.tag?, hmode, true_and, and_iff_right hreadable]
  rfl

theorem tag?_of_no_walk (h : ∀ found, candidates config headers = .ok (found, []) →
    mode config headers ≠ .ok .fixed) : Request.tag? ⟨config, some headers⟩ = none := by
  unfold Request.tag?
  apply if_neg
  intro hall
  obtain ⟨hmode, hreadable, -⟩ := hall
  cases hwalk : fixedCandidates headers with
  | error fault =>
    obtain ⟨role, hrole, hvalue⟩ := exists_of_fixedCandidates_eq_error hwalk
    have hok := hreadable role hrole
    simp [hvalue, Except.isOk, Except.toBool] at hok
  | ok found =>
    refine h found ?_ hmode
    simp [candidates, hmode, hwalk, bind, Except.bind, pure, Except.pure]

/-- What one request does to the span. -/
theorem span_resolve (request : Request) (span : Option Span) :
    (request.resolve span).span = match request.tag? with
      | none => span
      | some tag => span.map (·.setTag multipleHeadersKey tag) := by
  obtain ⟨config, headers⟩ := request
  cases headers with
  | none => rfl
  | some headers =>
    unfold Request.resolve
    rcases attempt_cases config headers with
      ⟨fault, hread, hattempt⟩ | ⟨name, candidate, logs, hmode, -, hattempt⟩ |
        ⟨found, hmode, hwalk, -, hattempt⟩
    · -- a fault, before the walk or in it, comes before the span is asked
      rw [resolve, hattempt, tag?_of_no_walk (by simp [hread])]
      rfl
    · rw [resolve, hattempt, tag?_of_no_walk (by simp [hmode])]
      rfl
    · rw [resolve, hattempt, tag?_of_walk hmode hwalk, span_contain]
      exact span_conclude found span

end Resolver

theorem Span.put_put (key first second : Text) (tags : List (Text × Text)) :
    put key second (put key first tags) = put key second tags := by
  induction tags with
  | nil => simp [put]
  | cons tag tags ih => by_cases h : tag.1 = key <;> simp [put, h, ih]

namespace Resolver

/-- A session counts the requests that have a tag, and the latest tag replaces the earlier ones. -/
theorem spanAfter_eq {s : Span} (hs : s.fault = none) (requests : List Request) :
    spanAfter (some s) requests =
      some { s with
        tags := match (requests.filterMap Request.tag?).getLast? with
          | none => s.tags
          | some tag => Span.put multipleHeadersKey tag s.tags
        calls := s.calls + (requests.filterMap Request.tag?).length } := by
  induction requests generalizing s with
  | nil => rfl
  | cons request requests ih =>
    have hstep : spanAfter (some s) (request :: requests) =
        spanAfter (request.resolve (some s)).span requests := rfl
    rw [hstep, span_resolve, List.filterMap_cons]
    cases request.tag? with
    | none => exact ih hs
    | some tag =>
      have hset : s.setTag multipleHeadersKey tag =
          { s with tags := Span.put multipleHeadersKey tag s.tags, calls := s.calls + 1 } := by
        simp only [Span.setTag, hs]
      have hrest := ih (s := s.setTag multipleHeadersKey tag) (by rw [hset, hs])
      rw [hset] at hrest
      simp only [Option.map_some, hset, hrest, List.getLast?_cons]
      cases (requests.filterMap Request.tag?).getLast? with
      | none => simp [Nat.add_comm, Nat.add_left_comm]
      | some last => simp [Span.put_put, Nat.add_comm, Nat.add_left_comm]

/-- A session with a fresh span that takes all tags. After any number of its requests the span has
been asked to set a tag as often as one of these requests had one, and it holds nothing but the
latest of their tags. A request without a tag leaves any span as it is. -/
theorem session_tag (requests : List Request) (count : Nat) :
    let tags := (requests.take count).filterMap Request.tag?
    spanAfter (some (Span.fresh none)) (requests.take count) =
        some ⟨tags.getLast?.toList.map fun tag => (multipleHeadersKey, tag), tags.length, none⟩ ∧
      ∀ (request : Request) (span : Option Span),
        (request.resolve span).span = match request.tag? with
          | none => span
          | some tag => span.map (·.setTag multipleHeadersKey tag) := by
  intro tags
  refine ⟨?_, span_resolve⟩
  have hfresh : (Span.fresh none).fault = none := rfl
  rw [spanAfter_eq hfresh]
  change some (Span.mk (match tags.getLast? with
    | none => []
    | some tag => Span.put multipleHeadersKey tag []) (0 + tags.length) none) = _
  rw [Nat.zero_add]
  cases tags.getLast? <;> rfl

/-- Of two requests with a tag the later one counts; behind it come a broken header, no headers and
a nominated header. -/
example :
    let front : Role → Except Fault (Option Text) :=
      fun | .xForwardedFor => .ok (some "10.0.0.1") | .via => .ok (some "a 8.8.8.8") | _ => .ok none
    let back : Role → Except Fault (Option Text) :=
      fun | .via => .ok (some "a 10.0.0.2") | .trueClientIp => .ok (some "::1") | _ => .ok none
    let broken : Role → Except Fault (Option Text) :=
      fun | .trueClientIp => .error .noHeaders | role => front role
    let unnamed (value : Role → Except Fault (Option Text)) : Request :=
      ⟨Config.default, some ⟨.ok none, .ok none, value⟩⟩
    let nominated : Request :=
      ⟨Config.trusting (some "X-Client"), some ⟨.ok (some "x-client"), .ok (some "8.8.8.8"), front⟩⟩
    spanAfter (some (Span.fresh none))
        [unnamed front, unnamed back, unnamed broken, ⟨Config.default, none⟩, nominated] =
      some ⟨[(multipleHeadersKey, "true-client-ip,via")], 2, none⟩ := by
  decide +kernel

end Resolver
end Forwarding
