import Forwarding.Proofs.Header.Fields
import Forwarding.Proofs.HeaderValue.Addresses
import Forwarding.Proofs.Resolver.Modes

/-!
Resolution from a nominated header, end to end. The configuration, the gathering of fields and the
resolver each fold the nominated name on their own, and all three find the same header.
-/
namespace Forwarding.Resolver

variable {config : Config} {name : Text} {fields : List HeaderSet.Field}

def nominatedLiteral (raw : Option Text) : Option Literal :=
  raw.bind fun value => Forwarded.choose value <|> PlainList.choose value

theorem mode_nominated (hname : ¬HeaderName.IsBlank (some name))
    (hconfig : config = Config.trusting (some name) ∨ config.trusted = none) :
    mode config (HeaderSet.ofFields fields (some name)).accessor =
      .ok (.custom (HeaderName.fold name)) := by
  rcases hconfig with rfl | hnone
  · simp only [mode, Config.trusting, HeaderName.normalize?_of_not_blank hname]
  · simp only [mode, hnone, HeaderSet.accessor, HeaderSet.customName_ofFields hname, bind,
      Except.bind, HeaderName.normalize?_fold hname]
    rfl

theorem customValue_nominated (hname : ¬HeaderName.IsBlank (some name)) :
    customValue (HeaderSet.ofFields fields (some name)).accessor (HeaderName.fold name) =
      .ok (HeaderSet.received? name fields, []) := by
  simp [customValue, HeaderSet.accessor, HeaderSet.customName_ofFields hname,
    HeaderSet.customValue_ofFields hname, HeaderName.normalize?_fold hname, bind, Except.bind, pure,
    Except.pure]

theorem customCandidate_nominated (hname : ¬HeaderName.IsBlank (some name)) :
    let raw := HeaderSet.received? name fields
    customCandidate (HeaderSet.ofFields fields (some name)).accessor (HeaderName.fold name) =
      .ok (⟨HeaderName.fold name, raw, nominatedLiteral raw, none⟩, []) := by
  intro raw
  have hraw : raw.bind Text.nonempty? = raw := HeaderSet.received?_bind_nonempty? name fields
  have hliteral : (ValueForm.forwarded.choose? raw <|> ValueForm.plain.choose? raw) =
      nominatedLiteral raw := by
    simp only [ValueForm.choose?, hraw, nominatedLiteral]
    cases raw <;> rfl
  simp only [customCandidate, customValue_nominated hname, bind, Except.bind]
  rw [hliteral, hraw]
  rfl

/-- Resolution from a nominated header. Whether the configuration names it or only the headers carry
its name, what is read is the list of its nonempty values in the order of arrival, and no record
says that it is missing. The address is the one of its parameters, or else the one of its plain
list. A value without an equality sign counts as a plain list. -/
theorem resolve_nominated (config : Config) (name : Text) (fields : List HeaderSet.Field)
    (span : Option Span) (hname : ¬HeaderName.IsBlank (some name))
    (hconfig : config = Config.trusting (some name) ∨ config.trusted = none) :
    let headers := (HeaderSet.ofFields fields (some name)).accessor
    let raw := HeaderSet.received? name fields
    let literal := raw.bind fun value => Forwarded.choose value <|> PlainList.choose value
    customValue headers (HeaderName.fold name) = .ok (raw, []) ∧
      candidates config headers = .ok ([⟨HeaderName.fold name, raw, literal, none⟩], []) ∧
      resolve config (some headers) span = ⟨literal, [], span⟩ ∧
      ∀ value ∈ raw, '=' ∉ value → literal = PlainList.choose value := by
  intro headers raw literal
  have hmode : mode config headers = .ok (.custom (HeaderName.fold name)) :=
    mode_nominated hname hconfig
  have hcandidate : customCandidate headers (HeaderName.fold name) =
      .ok (⟨HeaderName.fold name, raw, literal, none⟩, []) := customCandidate_nominated hname
  refine ⟨customValue_nominated hname, ?_, ?_, ?_⟩
  · simp [candidates, hmode, hcandidate, bind, Except.bind, pure, Except.pure]
  · simp only [resolve, attempt, hmode, hcandidate, Attempt.contain]
  · intro value hvalue hsign
    unfold literal
    rw [Option.mem_def.mp hvalue, Option.bind_some, Forwarded.choose_eq_none hsign]
    rfl

/-- A name with a sigma at its end, whose final form appears only in lower case. Two fields of that
name, in different case and around an empty one, give one list, of which the public address is
taken. -/
theorem resolve_nominated_finalSigma :
    let name : Text := " X-ΠΕΛΑΤΗΣ"
    let fields : List HeaderSet.Field :=
      [("X-ΠΕΛΑΤΗΣ", some "10.0.0.1"), ("Host", some "a"), ("x-πελατης ", some ""),
        ("x-πελατης", some "8.8.8.8")]
    let headers := (HeaderSet.ofFields fields (some name)).accessor
    ¬HeaderName.IsBlank (some name) ∧
      customValue headers (HeaderName.fold name) = .ok (some "10.0.0.1, 8.8.8.8".toList, []) ∧
      (resolve (Config.trusting (some name)) (some headers) none).result.map (·.spelling) =
        some "8.8.8.8".toList := by
  intro name fields headers
  have hname : ¬HeaderName.IsBlank (some name) := by
    intro h
    exact absurd (h _ rfl 'X' (by decide)) (by decide)
  obtain ⟨hraw, -, hresolve, -⟩ :=
    resolve_nominated (Config.trusting (some name)) name fields none hname (Or.inl rfl)
  refine ⟨hname, ?_, ?_⟩
  · rw [hraw]
    decide +kernel
  · rw [hresolve]
    decide +kernel

end Forwarding.Resolver
