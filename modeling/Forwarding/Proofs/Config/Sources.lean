import Forwarding.Config.Load
import Forwarding.Proofs.Header.Name

/-!
Where the trusted header of a configuration comes from. A name from the environment goes before the
one of the document, and a blank name counts as none in both places.
-/
namespace Forwarding.Config

variable {files : Files} {path environment : Option Text} {root : Toml.Entries} {config : Config}

def headerText? (root : Toml.Entries) : Option Text :=
  match root.get? "resolver" with
  | some (.table resolver) =>
    match Toml.Entries.get? "client_ip_header" resolver with
    | some (.text name) => some name
    | _ => none
  | _ => none

theorem eq_trusting_of_ofDocument (h : ofDocument root = .ok config) :
    config = trusting (headerText? root) := by
  unfold ofDocument at h
  unfold headerText?
  split at h
  · next hresolver =>
    rw [hresolver]
    exact (Except.ok.inj h).symm
  · next hresolver =>
    rw [hresolver]
    split at h
    · next hname =>
      simp only [hname]
      exact (Except.ok.inj h).symm
    · next hname =>
      simp only [hname]
      exact (Except.ok.inj h).symm
    · simp at h
  · simp at h

/-- The override goes before the configured name when it is not blank. -/
theorem trusted_override (name : Option Text) (config : Config) :
    (config.override name).trusted = (HeaderName.normalize? name).or config.trusted := by
  unfold override
  cases hname : HeaderName.normalize? name with
  | none => rfl
  | some folded => exact HeaderName.normalize?_of_normalize? hname

/-- A configuration that loads has a document, and its trusted header is that of the environment, or
else that of the document. -/
theorem exists_document_of_load (h : load files path environment = .ok config) :
    ∃ root, findDocument files path = .ok root ∧
      config.trusted =
        (HeaderName.normalize? environment).or (HeaderName.normalize? (headerText? root)) := by
  unfold load at h
  cases hroot : findDocument files path with
  | error e => simp [hroot, bind, Except.bind] at h
  | ok root =>
    cases hdocument : ofDocument root with
    | error e => simp [hroot, hdocument, bind, Except.bind] at h
    | ok fromFile =>
      have hconfig : fromFile.override environment = config := by
        simpa [hroot, hdocument, bind, Except.bind, pure, Except.pure] using h
      refine ⟨root, rfl, ?_⟩
      rw [← hconfig, trusted_override, eq_trusting_of_ofDocument hdocument]
      rfl

end Forwarding.Config
