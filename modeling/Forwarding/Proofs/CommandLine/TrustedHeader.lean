import Forwarding.CommandLine.Run
import Forwarding.Files.Tree
import Forwarding.Proofs.Config.Sources
import Forwarding.Proofs.Header.Fields

/-!
The trusted header of a run of `resolve`. The option goes before the environment, and the
environment before the file.
-/
namespace Forwarding.CommandLine

variable {s : Surroundings} {i : Invocation} {options : ResolveOptions} {config : Config}

def Operand.text? : Operand → Option Text
  | .text t => some t
  | .erased => none

def headerLines (s : Surroundings) (options : ResolveOptions) : Except Halt (List Text) := do
  let fromFile ← fileLines s options.file
  let fromOptions ← optionLines options.headers
  return fromFile ++ fromOptions

def resolveLines (trusted : Option Text) (verbose report : Bool) (lines : List Text) : Outcome :=
  let (outcome, logs) := showResolution ⟨trusted⟩ (HeaderSet.ofLines lines trusted) report
  { outcome with stderr := logLines verbose logs }

/-- A run whose configuration loads resolves its header lines. -/
theorem runResolve_of_loadConfig (h : loadConfig s i.config = .ok config) :
    runResolve s i options = (headerLines s options).map
      (resolveLines (withTrusted config options.trustHeader).trusted i.verbose options.report) := by
  unfold runResolve headerLines
  rw [h]
  cases hfile : fileLines s options.file with
  | error halt => rfl
  | ok fromFile =>
    cases hoptions : optionLines options.headers with
    | error halt => rfl
    | ok fromOptions => rfl

/-- The option goes before the configured name, provided that a blank text is the empty one. -/
theorem trusted_withTrusted {given : Option Operand} (config : Config)
    (hgiven : ∀ name ∈ given.bind Operand.text?, HeaderName.IsBlank (some name) → name = []) :
    (withTrusted config given).trusted =
      (HeaderName.normalize? (given.bind Operand.text?)).or config.trusted := by
  match given with
  | none => rfl
  | some .erased => rfl
  | some (.text name) =>
    by_cases hblank : HeaderName.IsBlank (some name)
    · obtain rfl := hgiven name rfl hblank
      rfl
    · have hne : name ≠ [] := by
        rintro rfl
        exact hblank (by simp [HeaderName.IsBlank])
      have hname := HeaderName.normalize?_of_not_blank hblank
      simp [withTrusted, hne, Config.trusting, Operand.text?, hname]

/-- Other words for an error do not change a result. -/
theorem eq_ok_of_mapError {ε ε' α : Type} {words : ε → ε'} {r : Except ε α} {a : α}
    (h : r.mapError words = .ok a) : r = .ok a := by
  cases r with
  | error e => simp [Except.mapError] at h
  | ok b => exact congrArg Except.ok (Except.ok.inj h)

theorem exists_document_of_loadConfig {given : Option Operand}
    (h : loadConfig s given = .ok config) :
    ∃ root, Config.findDocument s.files (given.bind Operand.text?) = .ok root ∧
      config.trusted = (HeaderName.normalize? s.environment).or
        (HeaderName.normalize? (Config.headerText? root)) := by
  match given, h with
  | none, h => exact Config.exists_document_of_load (eq_ok_of_mapError h)
  | some (.text path), h => exact Config.exists_document_of_load (eq_ok_of_mapError h)

/-- The resolver is in the mode that the trusted header asks for. -/
theorem mode_trusted (trusted : Option Text) (lines : List Text) :
    Resolver.mode ⟨trusted⟩ (HeaderSet.ofLines lines trusted).accessor =
      .ok (trusted.elim .fixed .custom) := by
  cases trusted <;> rfl

/-- The trusted header of a run of `resolve` that has a configuration. It is the normalized text of
the option, or else that of the environment, or else that of the file, and without any of them all
well-known headers are read. Two texts for the option with the same normal form give the same
outcome. Every text of the option is taken that is empty or not blank. -/
theorem runCommand_trusted (s : Surroundings) (path : Option Operand) (verbose : Bool)
    (options : ResolveOptions) (config : Config) (hload : loadConfig s path = .ok config)
    (hgiven : ∀ name ∈ options.trustHeader.bind Operand.text?,
      HeaderName.IsBlank (some name) → name = []) :
    ∃ root, Config.findDocument s.files (path.bind Operand.text?) = .ok root ∧
      let given := HeaderName.normalize? (options.trustHeader.bind Operand.text?)
      let trusted := given.or ((HeaderName.normalize? s.environment).or
        (HeaderName.normalize? (Config.headerText? root)))
      runCommand s ⟨path, verbose, .resolve options⟩ =
        (headerLines s options).map (resolveLines trusted verbose options.report) ∧
      (∀ lines, Resolver.mode ⟨trusted⟩ (HeaderSet.ofLines lines trusted).accessor =
        .ok (trusted.elim .fixed .custom)) ∧
      ∀ name, (HeaderName.IsBlank (some name) → name = []) →
        HeaderName.normalize? (some name) = given →
        runCommand s ⟨path, verbose, .resolve { options with trustHeader := some (.text name) }⟩ =
          runCommand s ⟨path, verbose, .resolve options⟩ := by
  obtain ⟨root, hroot, hconfig⟩ := exists_document_of_loadConfig hload
  refine ⟨root, hroot, ?_⟩
  intro given trusted
  have hrun (other : Option Operand)
      (hother : ∀ name ∈ other.bind Operand.text?, HeaderName.IsBlank (some name) → name = [])
      (hsame : HeaderName.normalize? (other.bind Operand.text?) = given) :
      runCommand s ⟨path, verbose, .resolve { options with trustHeader := other }⟩ =
        (headerLines s options).map (resolveLines trusted verbose options.report) := by
    show runResolve s _ _ = _
    rw [runResolve_of_loadConfig hload, trusted_withTrusted config hother, hconfig, hsame]
    rfl
  refine ⟨hrun options.trustHeader hgiven rfl, mode_trusted trusted, ?_⟩
  intro name hname hsame
  have hother : ∀ t ∈ (some (Operand.text name)).bind Operand.text?,
      HeaderName.IsBlank (some t) → t = [] := by
    intro t ht
    obtain rfl := Option.some.inj ht
    exact hname
  exact (hrun _ hother hsame).trans (hrun options.trustHeader hgiven rfl).symm

/-- With a blank environment the header of the file is trusted, and an empty text for the option
does not change that. A name for the option goes before it in any spelling. -/
theorem runCommand_trusted_layers :
    let tree : FileTree := .ofEntries [("clientip.toml",
      Text.Utf8.encode "[resolver]\nclient_ip_header = \" X-Client\"\n")]
    let s : Surroundings := ⟨tree.access, some " \t", []⟩
    let options (given : Text) : ResolveOptions :=
      ⟨[.text "X-Client: 8.8.8.8", .text "X-Real-IP: 9.9.9.9"], none, some (.text given), false⟩
    let i (given : Text) : Invocation := ⟨none, false, .resolve (options given)⟩
    loadConfig s none = .ok ⟨some "x-client"⟩ ∧
      (∃ root, Config.findDocument s.files none = .ok root ∧
        runCommand s (i []) = (headerLines s (options [])).map
          (resolveLines (HeaderName.normalize? (Config.headerText? root)) false false)) ∧
      ¬HeaderName.IsBlank (some "\u2003X-REAL-IP") ∧
      runCommand s (i "\u2003X-REAL-IP") = runCommand s (i "x-real-ip") ∧
      (runCommand s (i "x-real-ip")).toOption = some ⟨0, "9.9.9.9\n", []⟩ := by
  intro tree s options i
  have hload : loadConfig s none = .ok ⟨some "x-client"⟩ := by decide +kernel
  have hnamed {name : Text} (h : (HeaderName.normalize? (some name)).isSome) :
      ¬HeaderName.IsBlank (some name) := by
    intro hblank
    simp [HeaderName.normalize?_eq_none_iff.mpr hblank] at h
  have hspelled : ¬HeaderName.IsBlank (some "\u2003X-REAL-IP") := hnamed (by decide)
  have hplain : ¬HeaderName.IsBlank (some "x-real-ip") := hnamed (by decide)
  obtain ⟨root, hroot, hrun, -, -⟩ := runCommand_trusted s none false (options []) _ hload
    fun name hname _ => (Option.some.inj hname).symm
  obtain ⟨-, -, -, -, hsame⟩ := runCommand_trusted s none false (options "x-real-ip") _ hload
    fun name hname hblank => absurd (Option.some.inj hname ▸ hblank) hplain
  refine ⟨hload, ⟨root, hroot, hrun⟩, hspelled, ?_, by decide +kernel⟩
  exact hsame _ (fun hblank => absurd hblank hspelled) (by decide)

/-- A blank text for the option that is not empty is no name, and yet it puts the header of the file
aside: the run reads a header that it must not trust, where the empty text leaves the trust alone.
-/
theorem runCommand_blankOption :
    let tree : FileTree := .ofEntries [("clientip.toml",
      Text.Utf8.encode "[resolver]\nclient_ip_header = \"X-Client\"\n")]
    let s : Surroundings := ⟨tree.access, none, []⟩
    let options (given : Text) : ResolveOptions :=
      ⟨[.text "X-Client: 8.8.8.8", .text "Via: 1.1 9.9.9.9"], none, some (.text given), false⟩
    let i (given : Text) : Invocation := ⟨none, false, .resolve (options given)⟩
    HeaderName.normalize? (some "  ") = HeaderName.normalize? (some []) ∧
      (runCommand s (i [])).toOption = some ⟨0, "8.8.8.8\n", []⟩ ∧
      (runCommand s (i "  ")).toOption = some ⟨0, "9.9.9.9\n", []⟩ := by
  decide +kernel

end Forwarding.CommandLine
