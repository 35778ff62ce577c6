import Forwarding.Proofs.CommandLine.Invocation
import Forwarding.Proofs.CommandLine.TrustedHeader
import Forwarding.Proofs.Config.Loading

/-!
How runs end. Every run ends with a status, except that a few failures of reading the configuration
or the header lines break it off, and these are told apart exactly.
-/
namespace Forwarding

/-- A run tells this error in a message and ends. All are told but those of a configuration that is
there and cannot be opened. -/
def ConfigError.IsTold : ConfigError → Prop
  | .unreadable access => access.error = .notFound ∨ access.error = .embeddedNull
  | _ => True

namespace CommandLine

def Command.Loads : Command → Prop
  | .resolve _ | .info => True
  | .classify _ => False

/-- The bytes that header lines are read from: those of standard input for a dash, or else of the
file under a nonempty path. -/
inductive HeaderBytes (s : Surroundings) : Option Operand → List UInt8 → Prop where
  | input : HeaderBytes s (some (.text ['-'])) s.input
  | file {path : Text} {bytes : List UInt8} (hne : path ≠ []) (hdash : path ≠ ['-'])
      (hread : s.files.read path = .ok bytes) : HeaderBytes s (some (.text path)) bytes

inductive HeadersUnopened (s : Surroundings) : Option Operand → FailedAccess → Prop where
  | file {path : Text} {access : FailedAccess} (hne : path ≠ []) (hdash : path ≠ ['-'])
      (hread : s.files.read path = .error access) : HeadersUnopened s (some (.text path)) access

/-- What breaks off a run without a status. The configuration in force is there and cannot be
opened, or its path has no text; or, once it is loaded, the path of the header lines is none for the
system, or they are not in UTF-8, or one of the options has no text. -/
inductive BreaksOff (s : Surroundings) (i : Invocation) : RunFault → Prop where
  | configErased (hcommand : i.command.Loads) (herased : i.config = some .erased) :
      BreaksOff s i .configPathErased
  | config {access : FailedAccess} (hcommand : i.command.Loads) (hgiven : i.config ≠ some .erased)
      (hrejects : Config.Rejects s.files (i.config.bind Operand.text?) (.unreadable access))
      (huntold : ¬(ConfigError.unreadable access).IsTold) : BreaksOff s i (.config access)
  | headerPath {options : ResolveOptions} {config : Config} {access : FailedAccess}
      (hcommand : i.command = .resolve options) (hload : loadConfig s i.config = .ok config)
      (hopen : HeadersUnopened s options.file access) (hnull : access.error = .embeddedNull) :
      BreaksOff s i (.headerPath access)
  | undecodable {options : ResolveOptions} {config : Config} {bytes : List UInt8}
      {error : Text.Utf8.DecodeError} (hcommand : i.command = .resolve options)
      (hload : loadConfig s i.config = .ok config) (hbytes : HeaderBytes s options.file bytes)
      (htext : Text.Utf8.decode bytes = .error error) : BreaksOff s i (.undecodable error)
  | headerErased {options : ResolveOptions} {config : Config} {lines : List Text}
      (hcommand : i.command = .resolve options) (hload : loadConfig s i.config = .ok config)
      (hlines : fileLines s options.file = .ok lines) (herased : .erased ∈ options.headers) :
      BreaksOff s i .headerErased

def resolvedFrom (trusted : Option Text) (lines : List Text) : Option Literal :=
  (Resolver.resolve ⟨trusted⟩ (some (HeaderSet.ofLines lines trusted).accessor)
    (some (.fresh none))).result

variable {s : Surroundings} {i : Invocation} {options : ResolveOptions} {config : Config}
  {given file : Option Operand} {bytes : List UInt8} {access : FailedAccess} {halt : Halt}
  {fault : RunFault} {e : ConfigError}

theorem optionLines_eq_error_iff {operands : List Operand} :
    optionLines operands = .error halt ↔ .erased ∈ operands ∧ halt = .fault .headerErased := by
  induction operands with
  | nil => simp [optionLines]
  | cons operand operands ih =>
    cases operand with
    | erased => simp [optionLines, eq_comm]
    | text t =>
      simp only [optionLines, List.mem_cons, reduceCtorEq, false_or, ← ih]
      cases optionLines operands <;> simp [Except.map]

theorem readLines_eq_error_iff :
    readLines bytes = .error halt ↔
      ∃ error, Text.Utf8.decode bytes = .error error ∧ halt = .fault (.undecodable error) := by
  unfold readLines
  cases Text.Utf8.decode bytes <;> simp [eq_comm]

theorem fileLines_of_bytes (h : HeaderBytes s file bytes) : fileLines s file = readLines bytes := by
  cases h with
  | input => rfl
  | file hne hdash hread => simp [fileLines, hne, hdash, hread]

theorem fileLines_of_unopened (h : HeadersUnopened s file access) :
    fileLines s file = .error (if access.error = .embeddedNull then .fault (.headerPath access)
      else failed ("cannot read headers: " ++ access.message)) := by
  cases h with
  | file hne hdash hread =>
    simp only [fileLines, hne, hdash, hread, if_false]
    split <;> rfl

/-- Header lines have bytes, or their file cannot be opened, or there are none in a file. -/
theorem fileLines_cases (s : Surroundings) (file : Option Operand) :
    (∃ bytes, HeaderBytes s file bytes) ∨ (∃ access, HeadersUnopened s file access) ∨
      fileLines s file = .ok [] := by
  match file with
  | none | some .erased => exact Or.inr (Or.inr rfl)
  | some (.text path) =>
    by_cases hne : path = []
    · exact Or.inr (Or.inr (by simp [fileLines, hne]))
    · by_cases hdash : path = ['-']
      · subst hdash
        exact Or.inl ⟨_, .input⟩
      · cases hread : s.files.read path with
        | ok bytes => exact Or.inl ⟨bytes, .file hne hdash hread⟩
        | error access => exact Or.inr (Or.inl ⟨access, .file hne hdash hread⟩)

theorem headerLines_eq_error_iff :
    headerLines s options = .error halt ↔ fileLines s options.file = .error halt ∨
      ∃ lines, fileLines s options.file = .ok lines ∧ .erased ∈ options.headers ∧
        halt = .fault .headerErased := by
  unfold headerLines
  cases fileLines s options.file with
  | error halt => simp [bind, Except.bind]
  | ok lines =>
    rw [← optionLines_eq_error_iff]
    cases hoptions : optionLines options.headers <;>
      simp [bind, Except.bind, pure, Except.pure]

theorem configHalt_eq_fault_iff {path : Text} :
    configHalt path e = .fault fault ↔
      ¬e.IsTold ∧ ∃ access, e = .unreadable access ∧ fault = .config access := by
  cases e with
  | unreadable access =>
    obtain ⟨error, place⟩ := access
    cases error <;> simp [configHalt, ConfigError.IsTold, failed, eq_comm]
  | _ => simp [configHalt, ConfigError.IsTold, failed]

theorem configHalt_of_isTold (path : Text) (h : e.IsTold) :
    ∃ message, configHalt path e = failed message := by
  cases e with
  | unreadable access =>
    obtain ⟨error, place⟩ := access
    rcases h with rfl | rfl <;> exact ⟨_, rfl⟩
  | _ => exact ⟨_, rfl⟩

/-- Loading for a run is loading, with errors turned into what they do to the run. -/
theorem loadConfig_of_ne_erased (h : given ≠ some .erased) :
    loadConfig s given =
      (Config.load s.files (given.bind Operand.text?) s.environment).mapError
        (configHalt ((given.bind Operand.text?).getD Config.standardPath)) := by
  match given, h with
  | none, _ => rfl
  | some (.text path), _ => rfl

theorem loadConfig_eq_error_iff :
    loadConfig s given = .error halt ↔
      (given = some .erased ∧ halt = .fault .configPathErased) ∨
      (given ≠ some .erased ∧ ∃ e, Config.Rejects s.files (given.bind Operand.text?) e ∧
        halt = configHalt ((given.bind Operand.text?).getD Config.standardPath) e) := by
  by_cases herased : given = some .erased
  · subst herased
    simp [loadConfig, eq_comm]
  · rw [loadConfig_of_ne_erased herased]
    simp only [herased, false_and, false_or, not_false_iff, true_and, ne_eq,
      ← Config.load_eq_error_iff s.environment]
    cases Config.load s.files (given.bind Operand.text?) s.environment <;>
      simp [Except.mapError, eq_comm]

theorem loadConfig_eq_fault_iff :
    loadConfig s given = .error (.fault fault) ↔
      (given = some .erased ∧ fault = .configPathErased) ∨
      (given ≠ some .erased ∧ ∃ access,
        Config.Rejects s.files (given.bind Operand.text?) (.unreadable access) ∧
          ¬(ConfigError.unreadable access).IsTold ∧ fault = .config access) := by
  rw [loadConfig_eq_error_iff]
  apply or_congr
  · simp
  · apply and_congr_right
    intro _
    constructor
    · rintro ⟨e, hrejects, hhalt⟩
      obtain ⟨huntold, access, rfl, hfault⟩ := configHalt_eq_fault_iff.mp hhalt.symm
      exact ⟨access, hrejects, huntold, hfault⟩
    · rintro ⟨access, hrejects, huntold, hfault⟩
      exact ⟨_, hrejects, (configHalt_eq_fault_iff.mpr ⟨huntold, access, rfl, hfault⟩).symm⟩

theorem runResolve_eq_error_iff :
    runResolve s i options = .error halt ↔ loadConfig s i.config = .error halt ∨
      ∃ config, loadConfig s i.config = .ok config ∧ headerLines s options = .error halt := by
  cases hload : loadConfig s i.config with
  | error halt' => simp [runResolve, hload, bind, Except.bind]
  | ok config =>
    rw [runResolve_of_loadConfig hload]
    cases headerLines s options <;> simp [Except.map]

theorem runInfo_eq_error_iff : runInfo s i = .error halt ↔ loadConfig s i.config = .error halt := by
  unfold runInfo
  cases loadConfig s i.config <;> simp [bind, Except.bind, pure, Except.pure]

theorem runCommand_of_loadConfig (hcommand : i.command.Loads)
    (h : loadConfig s i.config = .error halt) : runCommand s i = .error halt := by
  unfold runCommand
  cases hi : i.command with
  | classify addresses => simp [hi, Command.Loads] at hcommand
  | info => exact runInfo_eq_error_iff.mpr h
  | resolve options => exact runResolve_eq_error_iff.mpr (Or.inl h)

/-- Loading breaks off the commands that load. -/
theorem breaksOff_of_loadConfig (hcommand : i.command.Loads)
    (h : loadConfig s i.config = .error (.fault fault)) : BreaksOff s i fault := by
  rcases loadConfig_eq_fault_iff.mp h with ⟨herased, rfl⟩ | ⟨hgiven, access, hrejects, huntold, rfl⟩
  · exact .configErased hcommand herased
  · exact .config hcommand hgiven hrejects huntold

theorem headerLines_eq_fault_iff :
    headerLines s options = .error (.fault fault) ↔
      (∃ access, HeadersUnopened s options.file access ∧ access.error = .embeddedNull ∧
        fault = .headerPath access) ∨
      (∃ bytes error, HeaderBytes s options.file bytes ∧ Text.Utf8.decode bytes = .error error ∧
        fault = .undecodable error) ∨
      ∃ lines, fileLines s options.file = .ok lines ∧ .erased ∈ options.headers ∧
        fault = .headerErased := by
  rw [headerLines_eq_error_iff]
  constructor
  · rintro (hfile | ⟨lines, hfile, herased, hfault⟩)
    · rcases fileLines_cases s options.file with ⟨bytes, hbytes⟩ | ⟨access, hopen⟩ | hnone
      · rw [fileLines_of_bytes hbytes, readLines_eq_error_iff] at hfile
        obtain ⟨error, htext, hfault⟩ := hfile
        exact Or.inr (Or.inl ⟨bytes, error, hbytes, htext, Halt.fault.inj hfault⟩)
      · rw [fileLines_of_unopened hopen] at hfile
        have hhalt := Except.error.inj hfile
        split at hhalt
        · next hnull => exact Or.inl ⟨access, hopen, hnull, (Halt.fault.inj hhalt).symm⟩
        · simp [failed] at hhalt
      · simp [hnone] at hfile
    · exact Or.inr (Or.inr ⟨lines, hfile, herased, Halt.fault.inj hfault⟩)
  · rintro (⟨access, hopen, hnull, rfl⟩ | ⟨bytes, error, hbytes, htext, rfl⟩ |
      ⟨lines, hfile, herased, rfl⟩)
    · exact Or.inl (by rw [fileLines_of_unopened hopen, if_pos hnull])
    · rw [fileLines_of_bytes hbytes]
      exact Or.inl (readLines_eq_error_iff.mpr ⟨error, htext, rfl⟩)
    · exact Or.inr ⟨lines, hfile, herased, rfl⟩

/-- A run of a command breaks off exactly in these ways. -/
theorem runCommand_eq_fault_iff :
    runCommand s i = .error (.fault fault) ↔ BreaksOff s i fault := by
  constructor
  · intro h
    cases hcommand : i.command with
    | classify addresses => simp [runCommand, hcommand] at h
    | info =>
      rw [runCommand, hcommand, runInfo_eq_error_iff] at h
      exact breaksOff_of_loadConfig (by simp [hcommand, Command.Loads]) h
    | resolve options =>
      rw [runCommand, hcommand, runResolve_eq_error_iff] at h
      rcases h with hload | ⟨config, hload, hlines⟩
      · exact breaksOff_of_loadConfig (by simp [hcommand, Command.Loads]) hload
      · rcases headerLines_eq_fault_iff.mp hlines with
          ⟨access, hopen, hnull, rfl⟩ | ⟨bytes, error, hbytes, htext, rfl⟩ |
            ⟨lines, hfile, herased, rfl⟩
        · exact .headerPath hcommand hload hopen hnull
        · exact .undecodable hcommand hload hbytes htext
        · exact .headerErased hcommand hload hfile herased
  · intro h
    have hread {options : ResolveOptions} {config : Config}
        (hcommand : i.command = .resolve options) (hload : loadConfig s i.config = .ok config)
        (hlines : headerLines s options = .error (.fault fault)) :
        runCommand s i = .error (.fault fault) := by
      rw [runCommand, hcommand]
      exact runResolve_eq_error_iff.mpr (Or.inr ⟨config, hload, hlines⟩)
    cases h with
    | configErased hcommand herased =>
      exact runCommand_of_loadConfig hcommand (loadConfig_eq_fault_iff.mpr (Or.inl ⟨herased, rfl⟩))
    | config hcommand hgiven hrejects huntold =>
      apply runCommand_of_loadConfig hcommand
      exact loadConfig_eq_fault_iff.mpr (Or.inr ⟨hgiven, _, hrejects, huntold, rfl⟩)
    | headerPath hcommand hload hopen hnull =>
      exact hread hcommand hload (headerLines_eq_fault_iff.mpr (Or.inl ⟨_, hopen, hnull, rfl⟩))
    | undecodable hcommand hload hbytes htext =>
      apply hread hcommand hload
      exact headerLines_eq_fault_iff.mpr (Or.inr (Or.inl ⟨_, _, hbytes, htext, rfl⟩))
    | headerErased hcommand hload hlines herased =>
      apply hread hcommand hload
      exact headerLines_eq_fault_iff.mpr (Or.inr (Or.inr ⟨_, hlines, herased, rfl⟩))

/-- The status says whether an address was found. -/
theorem status_resolveLines (trusted : Option Text) (verbose report : Bool) (lines : List Text) :
    (resolveLines trusted verbose report lines).status =
      if (resolvedFrom trusted lines).isSome then 0 else 1 := by
  unfold resolveLines showResolution
  cases report with
  | false => rfl
  | true =>
    simp only [if_true]
    split <;> rfl

theorem Invocation.run_eq_error_iff : i.run s = .error fault ↔ BreaksOff s i fault := by
  rw [← runCommand_eq_fault_iff, run]
  cases runCommand s i with
  | ok outcome => simp
  | error halt => cases halt <;> simp

theorem Invocation.run_of_failed {message : Text} (h : runCommand s i = .error (failed message)) :
    i.run s = .ok ⟨1, [], line ("Error: " ++ message)⟩ := by
  rw [run, h]
  rfl

theorem runCommand_of_resolve (hcommand : i.command = .resolve options)
    (hload : loadConfig s i.config = .ok config) :
    runCommand s i = (headerLines s options).map
      (resolveLines (withTrusted config options.trustHeader).trusted i.verbose options.report) := by
  rw [runCommand, hcommand]
  exact runResolve_of_loadConfig hload

theorem Invocation.run_of_headerLines {lines : List Text} (hcommand : i.command = .resolve options)
    (hload : loadConfig s i.config = .ok config) (hlines : headerLines s options = .ok lines) :
    i.run s = .ok (resolveLines (withTrusted config options.trustHeader).trusted i.verbose
      options.report lines) := by
  rw [run, runCommand_of_resolve hcommand hload, hlines]
  rfl

/-- Options without a text break off no run when no longer argument ends in a separator. -/
theorem not_breaksOff_erased {arguments : List Text} (hread : Invocation.read arguments = .ok i)
    (hends : ∀ argument ∈ arguments, ¬EndsInSeparator argument) :
    ¬BreaksOff s i .configPathErased ∧ ¬BreaksOff s i .headerErased := by
  refine ⟨?_, ?_⟩
  · rintro ⟨⟩
    next herased =>
      obtain ⟨argument, hmem, hend⟩ := Invocation.exists_endsInSeparator_of_config hread herased
      exact hends argument hmem hend
  · rintro ⟨⟩
    next hcommand _ _ herased =>
      obtain ⟨argument, hmem, hend⟩ :=
        Invocation.exists_endsInSeparator_of_header hread hcommand herased
      exact hends argument hmem hend

end CommandLine
end Forwarding
