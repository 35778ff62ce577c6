import Forwarding.Files.Tree
import Forwarding.Proofs.Config.Sources
import Mathlib.Data.List.ReduceOption

/-!
Loading a configuration. A load fails exactly when there is no document or the document puts a value
of another type in place of the header, and nothing in the environment changes that.
-/
namespace Forwarding

/-- Nothing that the system could open lies under the path. -/
def AccessError.IsAbsence : AccessError → Prop
  | .isADirectory | .notPermitted => False
  | _ => True

theorem Files.exists_eq_false_iff {files : Files} {path : Text} :
    files.exists path = false ↔
      ∃ access, files.read path = .error access ∧ access.error.IsAbsence := by
  unfold Files.exists
  cases files.read path with
  | ok bytes => simp
  | error access =>
    obtain ⟨error, place⟩ := access
    cases error <;> simp [AccessError.IsAbsence]

namespace Config

/-- The document that is in force: that of the file under the given path, or under the standard one
when no path is given. An absent standard file stands for an empty document. -/
inductive InForce (files : Files) : Option Text → Toml.Entries → Prop where
  | read {path : Option Text} {bytes : List UInt8} {text : Text} {root : Toml.Entries}
      (hread : files.read (path.getD standardPath) = .ok bytes)
      (htext : Text.Utf8.decode bytes = .ok text) (hroot : Toml.document text = .ok root) :
      InForce files path root
  | absent {access : FailedAccess} (hread : files.read standardPath = .error access)
      (habsent : access.error.IsAbsence) : InForce files none []

inductive NoDocument (files : Files) (path : Option Text) : ConfigError → Prop where
  | unreadable {access : FailedAccess} (hread : files.read (path.getD standardPath) = .error access)
      (hpresent : path = none → ¬access.error.IsAbsence) :
      NoDocument files path (.unreadable access)
  | undecodable {bytes : List UInt8} {error : Text.Utf8.DecodeError}
      (hread : files.read (path.getD standardPath) = .ok bytes)
      (htext : Text.Utf8.decode bytes = .error error) : NoDocument files path (.undecodable error)
  | notToml {bytes : List UInt8} {text : Text} {error : Toml.ReadError}
      (hread : files.read (path.getD standardPath) = .ok bytes)
      (htext : Text.Utf8.decode bytes = .ok text) (hroot : Toml.document text = .error error) :
      NoDocument files path (.notToml error)

def HoldsTable (root : Toml.Entries) : Prop :=
  ∀ value, root.get? "resolver" = some value → ∃ entries, value = .table entries

def headerValue? (root : Toml.Entries) : Option Toml.Value :=
  match root.get? "resolver" with
  | some (.table resolver) => Toml.Entries.get? "client_ip_header" resolver
  | _ => none

/-- The document has the right types, and gives the header that name or none. -/
def Names (root : Toml.Entries) (name : Option Text) : Prop :=
  HoldsTable root ∧ headerValue? root = name.map .text

inductive IllTyped (root : Toml.Entries) : ConfigError → Prop where
  | resolver {value : Toml.Value} (hvalue : root.get? "resolver" = some value)
      (htable : ∀ entries, value ≠ .table entries) : IllTyped root (.resolverNotATable value)
  | header {value : Toml.Value} (hvalue : headerValue? root = some value)
      (htext : ∀ name, value ≠ .text name) : IllTyped root (.headerNotAText value)

def Rejects (files : Files) (path : Option Text) (e : ConfigError) : Prop :=
  NoDocument files path e ∨ ∃ root, InForce files path root ∧ IllTyped root e

/-- The first of some names that has a character other than whitespace, without outer whitespace and
in lower case. -/
def firstNamed? (names : List (Option Text)) : Option Text :=
  (names.reduceOption.find? fun name => name.any (!Text.isBlank ·)).map HeaderName.fold

variable {files : Files} {path environment : Option Text} {root : Toml.Entries} {config : Config}
  {e : ConfigError}

theorem readDocument_eq_ok_iff {place : Text} :
    readDocument files place = .ok root ↔
      ∃ bytes text, files.read place = .ok bytes ∧ Text.Utf8.decode bytes = .ok text ∧
        Toml.document text = .ok root := by
  unfold readDocument
  cases files.read place with
  | error access => simp
  | ok bytes =>
    cases htext : Text.Utf8.decode bytes with
    | error error => simp [htext]
    | ok text => cases hroot : Toml.document text <;> simp [htext, hroot]

/-- A document is read from the chosen file, unless that is the standard one and absent. -/
theorem findDocument_cases (files : Files) (path : Option Text) :
    (path = none ∧ findDocument files path = .ok [] ∧
      ∃ access, files.read standardPath = .error access ∧ access.error.IsAbsence) ∨
    (findDocument files path = readDocument files (path.getD standardPath) ∧
      ∀ access, files.read (path.getD standardPath) = .error access → path = none →
        ¬access.error.IsAbsence) := by
  cases path with
  | some place => exact Or.inr ⟨rfl, by simp⟩
  | none =>
    rw [Option.getD_none]
    cases hexists : files.exists standardPath with
    | false =>
      refine Or.inl ⟨rfl, ?_, Files.exists_eq_false_iff.mp hexists⟩
      simp [findDocument, hexists]
    | true =>
      refine Or.inr ⟨by simp [findDocument, hexists], ?_⟩
      intro access hread _ habsent
      rw [Files.exists_eq_false_iff.mpr ⟨access, hread, habsent⟩] at hexists
      simp at hexists

theorem findDocument_eq_ok_iff : findDocument files path = .ok root ↔ InForce files path root := by
  rcases findDocument_cases files path with ⟨rfl, hfind, access, hread, habsent⟩ | ⟨hfind, hpresent⟩
  · rw [hfind]
    constructor
    · intro hroot
      obtain rfl := Except.ok.inj hroot
      exact .absent hread habsent
    · intro hforce
      cases hforce with
      | read hread' => simp [hread] at hread'
      | absent => rfl
  · rw [hfind, readDocument_eq_ok_iff]
    constructor
    · rintro ⟨bytes, text, hread, htext, hroot⟩
      exact .read hread htext hroot
    · intro hforce
      cases hforce with
      | read hread htext hroot => exact ⟨_, _, hread, htext, hroot⟩
      | absent hread habsent => exact absurd habsent (hpresent _ hread rfl)

theorem findDocument_eq_error_iff :
    findDocument files path = .error e ↔ NoDocument files path e := by
  rcases findDocument_cases files path with ⟨rfl, hfind, access, hread, habsent⟩ | ⟨hfind, hpresent⟩
  · rw [hfind]
    constructor
    · simp
    · intro hnone
      cases hnone with
      | unreadable hread' hpresent =>
        obtain rfl := Except.error.inj (hread.symm.trans hread')
        exact absurd habsent (hpresent rfl)
      | undecodable hread' => simp [hread] at hread'
      | notToml hread' => simp [hread] at hread'
  · rw [hfind]
    constructor
    · intro h
      unfold readDocument at h
      split at h
      · next hread =>
        obtain rfl := Except.error.inj h
        exact .unreadable hread (hpresent _ hread)
      · next hread =>
        split at h
        · next htext =>
          obtain rfl := Except.error.inj h
          exact .undecodable hread htext
        · next htext =>
          split at h
          · next hroot =>
            obtain rfl := Except.error.inj h
            exact .notToml hread htext hroot
          · simp at h
    · intro hnone
      unfold readDocument
      cases hnone with
      | unreadable hread => rw [hread]
      | undecodable hread htext => simp only [hread, htext]
      | notToml hread htext hroot => simp only [hread, htext, hroot]

theorem names_or_illTyped (root : Toml.Entries) :
    (∃ name, Names root name) ∨ ∃ e, IllTyped root e := by
  cases hresolver : root.get? "resolver" with
  | none =>
    refine Or.inl ⟨none, ?_, by rw [headerValue?, hresolver]; rfl⟩
    intro value hvalue
    rw [hresolver] at hvalue
    simp at hvalue
  | some value =>
    by_cases htable : ∃ entries, value = .table entries
    · obtain ⟨resolver, rfl⟩ := htable
      have hholds : HoldsTable root := by
        intro value hvalue
        exact ⟨resolver, Option.some.inj (hvalue.symm.trans hresolver)⟩
      cases hheader : headerValue? root with
      | none => exact Or.inl ⟨none, hholds, hheader⟩
      | some value =>
        by_cases htext : ∃ name, value = .text name
        · obtain ⟨name, rfl⟩ := htext
          exact Or.inl ⟨some name, hholds, hheader⟩
        · exact Or.inr ⟨_, .header hheader (not_exists.mp htext)⟩
    · exact Or.inr ⟨_, .resolver hresolver (not_exists.mp htable)⟩

theorem ofDocument_of_names {name : Option Text} (h : Names root name) :
    ofDocument root = .ok (trusting name) := by
  obtain ⟨htable, hname⟩ := h
  unfold headerValue? at hname
  unfold ofDocument
  cases hresolver : root.get? "resolver" with
  | none =>
    rw [hresolver] at hname
    obtain rfl := Option.map_eq_none_iff.mp hname.symm
    rfl
  | some value =>
    obtain ⟨resolver, rfl⟩ := htable value hresolver
    simp only [hresolver] at hname
    cases name with
    | none => simp only [hname, Option.map_none]; rfl
    | some name => simp only [hname, Option.map_some]

theorem ofDocument_of_illTyped (h : IllTyped root e) : ofDocument root = .error e := by
  unfold ofDocument
  cases h with
  | resolver hvalue htable =>
    rw [hvalue]
    split
    · simp at *
    · next hresolver => exact absurd (Option.some.inj hresolver) (htable _)
    · next hresolver => rw [Option.some.inj hresolver]
  | header hvalue htext =>
    unfold headerValue? at hvalue
    split at hvalue
    · next hresolver => simp only [hresolver, hvalue]
    · simp at hvalue

theorem ofDocument_eq_ok_iff :
    ofDocument root = .ok config ↔ ∃ name, Names root name ∧ config = trusting name := by
  constructor
  · intro h
    rcases names_or_illTyped root with ⟨name, hname⟩ | ⟨e, hill⟩
    · rw [ofDocument_of_names hname] at h
      exact ⟨name, hname, (Except.ok.inj h).symm⟩
    · rw [ofDocument_of_illTyped hill] at h
      simp at h
  · rintro ⟨name, hname, rfl⟩
    exact ofDocument_of_names hname

theorem ofDocument_eq_error_iff : ofDocument root = .error e ↔ IllTyped root e := by
  constructor
  · intro h
    rcases names_or_illTyped root with ⟨name, hname⟩ | ⟨e', hill⟩
    · rw [ofDocument_of_names hname] at h
      simp at h
    · obtain rfl := Except.error.inj ((ofDocument_of_illTyped hill).symm.trans h)
      exact hill
  · exact ofDocument_of_illTyped

theorem names_of_headerText? {name : Text} (h : headerText? root = some name) :
    Names root (some name) := by
  unfold headerText? at h
  split at h
  · next resolver hresolver =>
    split at h
    · next hheader =>
      obtain rfl := Option.some.inj h
      refine ⟨fun value hvalue => ⟨resolver, Option.some.inj (hvalue.symm.trans hresolver)⟩, ?_⟩
      simp only [headerValue?, hresolver, hheader, Option.map_some]
    · simp at h
  · simp at h

/-- Of two documents with a table or nothing under `resolver`, only the header counts. -/
theorem ofDocument_congr {other : Toml.Entries} (htable : HoldsTable root)
    (htable' : HoldsTable other) (hvalue : headerValue? root = headerValue? other) :
    ofDocument root = ofDocument other := by
  rcases names_or_illTyped root with ⟨name, hname⟩ | ⟨e, hill⟩
  · rw [ofDocument_of_names hname, ofDocument_of_names ⟨htable', hvalue ▸ hname.2⟩]
  · rw [ofDocument_of_illTyped hill]
    cases hill with
    | resolver hresolver hnone =>
      obtain ⟨entries, hentries⟩ := htable _ hresolver
      exact absurd hentries (hnone entries)
    | header hheader htext =>
      exact (ofDocument_of_illTyped (.header (hvalue ▸ hheader) htext)).symm

theorem firstNamed?_cons (name : Option Text) (names : List (Option Text)) :
    firstNamed? (name :: names) = (HeaderName.normalize? name).or (firstNamed? names) := by
  cases name with
  | none => rfl
  | some name =>
    have hfind : firstNamed? (some name :: names) =
        if name.any (!Text.isBlank ·) then some (HeaderName.fold name) else firstNamed? names := by
      unfold firstNamed?
      rw [List.reduceOption_cons_of_some, List.find?_cons]
      cases name.any (!Text.isBlank ·) <;> rfl
    rw [hfind]
    by_cases hblank : HeaderName.IsBlank (some name)
    · have hnone : name.any (!Text.isBlank ·) = false := by
        simpa [HeaderName.IsBlank] using hblank
      rw [hnone, HeaderName.normalize?_eq_none_iff.mpr hblank]
      rfl
    · have hsome : name.any (!Text.isBlank ·) = true := by
        simpa [HeaderName.IsBlank] using hblank
      rw [hsome, HeaderName.normalize?_of_not_blank hblank]
      rfl

/-- The chosen name is in its normal form. -/
theorem normalize?_firstNamed? (names : List (Option Text)) :
    HeaderName.normalize? (firstNamed? names) = firstNamed? names := by
  induction names with
  | nil => rfl
  | cons name names ih =>
    rw [firstNamed?_cons]
    cases hname : HeaderName.normalize? name with
    | none => exact ih
    | some folded => exact HeaderName.normalize?_of_normalize? hname

theorem load_eq (files : Files) (path environment : Option Text) :
    load files path environment =
      (findDocument files path).bind fun root =>
        (ofDocument root).map (·.override environment) := by
  unfold load
  cases findDocument files path with
  | error e => rfl
  | ok root => cases hdocument : ofDocument root <;> simp only [bind, Except.bind, hdocument] <;> rfl

/-- A configuration loads from the header of the document in force, below a nonblank name from the
environment. -/
theorem load_eq_ok_iff :
    load files path environment = .ok config ↔
      ∃ root name, InForce files path root ∧ Names root name ∧
        config.trusted = firstNamed? [environment, name] := by
  have htrusted (name : Option Text) :
      ((trusting name).override environment).trusted = firstNamed? [environment, name] := by
    rw [trusted_override, firstNamed?_cons, firstNamed?_cons]
    exact congrArg _ (Option.or_none.symm)
  rw [load_eq]
  constructor
  · intro h
    cases hroot : findDocument files path with
    | error e => simp [hroot, Except.bind] at h
    | ok root =>
      cases hdocument : ofDocument root with
      | error e => simp [hroot, hdocument, Except.bind, Except.map] at h
      | ok fromFile =>
        obtain ⟨name, hname, rfl⟩ := ofDocument_eq_ok_iff.mp hdocument
        obtain rfl : (trusting name).override environment = config := by
          simpa [hroot, hdocument, Except.bind, Except.map] using h
        exact ⟨root, name, findDocument_eq_ok_iff.mp hroot, hname, htrusted name⟩
  · rintro ⟨root, name, hforce, hname, hconfig⟩
    rw [findDocument_eq_ok_iff.mpr hforce, Except.bind, ofDocument_of_names hname]
    have heq : (trusting name).override environment = config := by
      cases config
      exact congrArg Config.mk ((htrusted name).trans hconfig.symm)
    rw [← heq]
    rfl

theorem load_eq_error_iff (environment : Option Text) :
    load files path environment = .error e ↔ Rejects files path e := by
  unfold Rejects
  rw [load_eq, ← findDocument_eq_error_iff]
  cases hroot : findDocument files path with
  | error e' =>
    have hnone : ∀ root, ¬InForce files path root := by
      intro root hforce
      simp [findDocument_eq_ok_iff.mpr hforce] at hroot
    simp [Except.bind, hnone]
  | ok root =>
    have hforce : ∀ other, InForce files path other ↔ root = other := by
      intro other
      rw [← findDocument_eq_ok_iff, hroot, Except.ok.injEq]
    simp only [Except.bind, hforce, reduceCtorEq, false_or, exists_eq_left',
      ← ofDocument_eq_error_iff]
    cases ofDocument root <;> simp [Except.map]

/-- Of the files, only the chosen one counts. -/
theorem rejects_congr {files' : Files}
    (h : files'.read (path.getD standardPath) = files.read (path.getD standardPath)) :
    Rejects files' path e ↔ Rejects files path e := by
  have hdocument : readDocument files' (path.getD standardPath) =
      readDocument files (path.getD standardPath) := by
    rw [readDocument, h, readDocument]
  have hfind : findDocument files' path = findDocument files path := by
    cases path with
    | some place => exact hdocument
    | none =>
      rw [Option.getD_none] at h hdocument
      have hexists : files'.exists standardPath = files.exists standardPath := by
        rw [Files.exists, h, Files.exists]
      rw [findDocument, hexists, hdocument, findDocument]
  rw [← load_eq_error_iff none, ← load_eq_error_iff none, load_eq, load_eq, hfind]

/-- What loading a configuration comes to. It fails exactly when no document can be had, or when the
one in force has a wrong type in the place that counts, whatever the environment holds. Otherwise
the trusted header is the first nonblank name of the environment and the document, in the form in
which names are compared; making a configuration of that form again changes nothing. Two documents
with a table or nothing under `resolver` that agree on the header have the same outcome, whatever
else they hold. -/
theorem load_outcome (files : Files) (path environment : Option Text) :
    (∀ e, load files path environment = .error e ↔ Rejects files path e) ∧
      (∀ config, load files path environment = .ok config ↔
        ∃ root name, InForce files path root ∧ Names root name ∧
          config.trusted = firstNamed? [environment, name]) ∧
      (∀ config, load files path environment = .ok config → trusting config.trusted = config) ∧
      ∀ (files' : Files) (path' : Option Text) (root root' : Toml.Entries),
        InForce files path root → InForce files' path' root' → HoldsTable root → HoldsTable root' →
        headerValue? root = headerValue? root' →
          load files path environment = load files' path' environment := by
  refine ⟨fun _ => load_eq_error_iff environment, fun _ => load_eq_ok_iff, ?_, ?_⟩
  · intro config h
    obtain ⟨root, name, -, -, htrusted⟩ := load_eq_ok_iff.mp h
    cases config
    rw [trusting, htrusted, normalize?_firstNamed?]
    exact congrArg Config.mk htrusted.symm
  · intro files' path' root root' hforce hforce' htable htable' hvalue
    rw [load_eq, load_eq, findDocument_eq_ok_iff.mpr hforce, findDocument_eq_ok_iff.mpr hforce']
    exact congrArg (Except.map (·.override environment)) (ofDocument_congr htable htable' hvalue)

/-- A document with a number under `resolver` is rejected although the environment has a name. Two
other documents give the same header, with a blank environment. -/
theorem load_outcome_layers :
    let tree : FileTree := .ofEntries [("clientip.toml", Text.Utf8.encode "resolver = 1"),
      ("a.toml", Text.Utf8.encode "[resolver]\nclient_ip_header = \" X-Client\"\n"),
      ("b.toml", Text.Utf8.encode "resolver.client_ip_header = ' X-Client'\nresolver.port = [1]")]
    (∃ e, load tree.access none (some "X-Real-IP") = .error e ∧
      load tree.access none none = .error e ∧
      e.message = "resolver must be a table, got 1".toList) ∧
    load tree.access (some "a.toml") (some " \t") =
      load tree.access (some "b.toml") (some " \t") ∧
    load tree.access (some "a.toml") (some " \t") = .ok ⟨some "x-client"⟩ := by
  intro tree
  have hnumber : (match load tree.access none none with
      | .error e => some e.message
      | .ok _ => none) = some "resolver must be a table, got 1".toList := by decide +kernel
  have hnames (path : Text) (h : (findDocument tree.access (some path)).toOption.bind headerText? =
      some " X-Client") :
      ∃ root, InForce tree.access (some path) root ∧ Names root (some " X-Client") := by
    cases hroot : findDocument tree.access (some path) with
    | error e => simp [hroot, Except.toOption] at h
    | ok root =>
      rw [hroot] at h
      exact ⟨root, findDocument_eq_ok_iff.mp hroot, names_of_headerText? h⟩
  obtain ⟨short, hshort, hnamesShort⟩ := hnames "a.toml" (by decide +kernel)
  obtain ⟨long, hlong, hnamesLong⟩ := hnames "b.toml" (by decide +kernel)
  obtain ⟨hplain, -, -, -⟩ := load_outcome tree.access none none
  obtain ⟨hrejects, -, -, -⟩ := load_outcome tree.access none (some "X-Real-IP")
  obtain ⟨-, hloads, -, hsame⟩ := load_outcome tree.access (some "a.toml") (some " \t")
  refine ⟨?_, ?_, ?_⟩
  · cases hload : load tree.access none none with
    | ok config => simp [hload] at hnumber
    | error e =>
      rw [hload] at hnumber
      exact ⟨e, (hrejects e).mpr ((hplain e).mp hload), rfl, Option.some.inj hnumber⟩
  · exact hsame _ _ _ _ hshort hlong hnamesShort.1 hnamesLong.1
      (hnamesShort.2.trans hnamesLong.2.symm)
  · exact (hloads _).mpr ⟨short, some " X-Client", hshort, hnamesShort, by decide +kernel⟩

end Config
end Forwarding
