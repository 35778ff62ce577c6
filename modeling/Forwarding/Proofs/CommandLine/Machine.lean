import Forwarding.CommandLine.Machine
import Forwarding.Proofs.CommandLine.Endings
import Forwarding.Proofs.Text.Utf8

/-!
How runs end on a machine. A run has a status, or it breaks down: in one of the few ways in which
reading its configuration or its header lines can break it off, or for want of what the machine
lacks.
-/
namespace Forwarding.CommandLine

/-- The machine is able to read the text of a configuration, and to show the value of a wrong type
in it. -/
structure Machine.Bears (m : Machine) (files : Files) (path : Option Text) : Prop where
  reads : ∀ bytes text, files.read (path.getD Config.standardPath) = .ok bytes →
    Text.Utf8.decode bytes = .ok text → m.reads text = true
  shows : ∀ value, Config.Rejects files path (.resolverNotATable value) ∨
    Config.Rejects files path (.headerNotAText value) → m.shows value = true

def Invocation.IsBorne (m : Machine) (s : Surroundings) (i : Invocation) : Prop :=
  i.command.Loads → i.config ≠ some .erased → m.Bears s.files (i.config.bind Operand.text?)

/-- How a run breaks down on a machine. The configuration is too much for the machine; or the run
breaks off; or a character of its output has no encoding. -/
inductive BreaksDown (m : Machine) (s : Surroundings) (i : Invocation) : Breakdown → Prop where
  | exhausted (hborne : ¬i.IsBorne m s) : BreaksDown m s i .exhausted
  | fault {f : RunFault} (hborne : i.IsBorne m s) (hbreaks : BreaksOff s i f) :
      BreaksDown m s i (.fault f)
  | unencodable {o : Outcome} {c : Char} (hborne : i.IsBorne m s) (hrun : i.run s = .ok o)
      (hmem : c ∈ o.stdout) (hencodes : m.encodes c = false) : BreaksDown m s i .unencodable

/-- The files of a run are such that nothing lies under the path of its configuration when it is
neither a file nor a directory, and the path of its header lines is one for the system. -/
structure Invocation.HasPlainPaths (s : Surroundings) (i : Invocation) : Prop where
  config : ∀ access,
    s.files.read ((i.config.bind Operand.text?).getD Config.standardPath) = .error access →
      access.error = .notFound ∨ access.error = .isADirectory
  header : ∀ options access, i.command = .resolve options →
    HeadersUnopened s options.file access → access.error ≠ .embeddedNull

variable {m : Machine} {s : Surroundings} {i : Invocation} {path : Option Text} {o : Outcome}
  {b : Breakdown} {fault : RunFault} {value : Toml.Value} {text : Text}

theorem text?_eq_some_iff {files : Files} :
    Config.text? files path = some text ↔
      ∃ bytes, files.read (path.getD Config.standardPath) = .ok bytes ∧
        Text.Utf8.decode bytes = .ok text := by
  unfold Config.text?
  cases files.read (path.getD Config.standardPath) with
  | error access => simp
  | ok bytes => cases hdecode : Text.Utf8.decode bytes <;> simp [hdecode, Except.toOption]

theorem shown?_eq_some_iff {files : Files} (environment : Option Text) :
    Config.shown? files path environment = some value ↔
      Config.Rejects files path (.resolverNotATable value) ∨
        Config.Rejects files path (.headerNotAText value) := by
  rw [← Config.load_eq_error_iff environment, ← Config.load_eq_error_iff environment, Config.shown?]
  cases Config.load files path environment with
  | ok config => simp
  | error e => cases e <;> simp [ConfigError.shown?]

theorem Machine.isExhausted_eq_false_iff :
    m.isExhausted s path = false ↔ m.Bears s.files path := by
  unfold isExhausted
  rw [Bool.or_eq_false_iff, Option.any_eq_false, Option.any_eq_false]
  constructor
  · rintro ⟨hreads, hshows⟩
    refine ⟨?_, ?_⟩
    · intro bytes text hread htext
      simpa using hreads text (text?_eq_some_iff.mpr ⟨bytes, hread, htext⟩)
    · intro value hvalue
      simpa using hshows value ((shown?_eq_some_iff s.environment).mpr hvalue)
  · intro h
    refine ⟨?_, ?_⟩
    · intro text htext
      obtain ⟨bytes, hread, hdecode⟩ := text?_eq_some_iff.mp htext
      simp [h.reads bytes text hread hdecode]
    · intro value hvalue
      simp [h.shows value ((shown?_eq_some_iff s.environment).mp hvalue)]

theorem Machine.Bears.congr {files files' : Files} (h : m.Bears files path)
    (hsame : files'.read (path.getD Config.standardPath) =
      files.read (path.getD Config.standardPath)) : m.Bears files' path where
  reads bytes text hread := h.reads bytes text (hsame ▸ hread)
  shows value hvalue := by
    rw [Config.rejects_congr hsame, Config.rejects_congr hsame] at hvalue
    exact h.shows value hvalue

theorem Invocation.exhausts_eq_false_iff : i.exhausts m s = false ↔ i.IsBorne m s := by
  obtain ⟨config, verbose, command⟩ := i
  cases command with
  | classify addresses => simp [exhausts, IsBorne, Command.Loads]
  | resolve | info =>
    rcases config with _ | ⟨path⟩ | _ <;>
      simp [exhausts, IsBorne, Command.Loads, Operand.text?, Machine.isExhausted_eq_false_iff]

theorem Machine.write_eq_error_iff :
    m.write o = .error b ↔ b = .unencodable ∧ ∃ c ∈ o.stdout, m.encodes c = false := by
  unfold write
  cases hall : o.stdout.all m.encodes with
  | true =>
    rw [List.all_eq_true] at hall
    simp +contextual [hall]
  | false =>
    have hlacks : ∃ c ∈ o.stdout, m.encodes c = false := by simpa using hall
    constructor
    · intro h
      exact ⟨(Except.error.inj h).symm, hlacks⟩
    · rintro ⟨rfl, -⟩
      rfl

theorem Machine.write_eq_ok (h : ∀ c ∈ o.stdout, m.encodes c = true) : m.write o = .ok o :=
  if_pos (List.all_eq_true.mpr h)

theorem Invocation.runOn_eq_error_iff : i.runOn m s = .error b ↔ BreaksDown m s i b := by
  unfold runOn
  cases hexhausts : i.exhausts m s with
  | true =>
    have hborne : ¬i.IsBorne m s := by
      rw [← exhausts_eq_false_iff, hexhausts]
      simp
    constructor
    · intro h
      obtain rfl : Breakdown.exhausted = b := by simpa using h
      exact .exhausted hborne
    · intro h
      cases h with
      | exhausted => rfl
      | fault hborne' | unencodable hborne' => exact absurd hborne' hborne
  | false =>
    have hborne := exhausts_eq_false_iff.mp hexhausts
    simp only [Bool.false_eq_true, if_false]
    cases hrun : i.run s with
    | error fault =>
      constructor
      · intro h
        obtain rfl : Breakdown.fault fault = b := by simpa using h
        exact .fault hborne (run_eq_error_iff.mp hrun)
      · intro h
        cases h with
        | exhausted hborne' => exact absurd hborne hborne'
        | fault _ hbreaks => simpa [hrun] using run_eq_error_iff.mpr hbreaks
        | unencodable _ hrun' => simp [hrun] at hrun'
    | ok outcome =>
      simp only [Machine.write_eq_error_iff]
      constructor
      · rintro ⟨rfl, c, hmem, hencodes⟩
        exact .unencodable hborne hrun hmem hencodes
      · intro h
        cases h with
        | exhausted hborne' => exact absurd hborne hborne'
        | fault _ hbreaks => simp [run_eq_error_iff.mpr hbreaks] at hrun
        | unencodable _ hrun' hmem hencodes =>
          obtain rfl := Except.ok.inj (hrun.symm.trans hrun')
          exact ⟨rfl, _, hmem, hencodes⟩

theorem breaksDown_iff_of_isBorne (h : i.IsBorne m s) (hencodes : ∀ c, m.encodes c = true) :
    BreaksDown m s i b ↔ ∃ fault, b = .fault fault ∧ BreaksOff s i fault := by
  constructor
  · intro hbreaks
    cases hbreaks with
    | exhausted hborne => exact absurd h hborne
    | fault _ hoff => exact ⟨_, rfl, hoff⟩
    | unencodable _ _ _ hlacks => simp [hencodes] at hlacks
  · rintro ⟨fault, rfl, hoff⟩
    exact .fault h hoff

/-- With plain paths and options that have their texts, a run is broken off by a directory in place
of the configuration, or by header lines that are not in UTF-8. -/
theorem breaksOff_iff_of_plainPaths (hpaths : i.HasPlainPaths s)
    (hconfig : ¬BreaksOff s i .configPathErased) (hheader : ¬BreaksOff s i .headerErased) :
    BreaksOff s i fault ↔
      (i.command.Loads ∧ ∃ access,
        s.files.read ((i.config.bind Operand.text?).getD Config.standardPath) = .error access ∧
          access.error = .isADirectory ∧ fault = .config access) ∨
      ∃ options config bytes error, i.command = .resolve options ∧
        loadConfig s i.config = .ok config ∧ HeaderBytes s options.file bytes ∧
          Text.Utf8.decode bytes = .error error ∧ fault = .undecodable error := by
  constructor
  · intro h
    cases h with
    | configErased hcommand herased => exact absurd (.configErased hcommand herased) hconfig
    | headerErased hcommand hload hlines herased =>
      exact absurd (.headerErased hcommand hload hlines herased) hheader
    | headerPath hcommand _ hopen hnull => exact absurd hnull (hpaths.header _ _ hcommand hopen)
    | undecodable hcommand hload hbytes htext =>
      exact Or.inr ⟨_, _, _, _, hcommand, hload, hbytes, htext, rfl⟩
    | @config access hcommand _ hrejects huntold =>
      rcases hrejects with ⟨hread, -⟩ | ⟨root, -, hill⟩
      · rcases hpaths.config access hread with hnone | hdirectory
        · exact absurd (Or.inl hnone) huntold
        · exact Or.inl ⟨hcommand, access, hread, hdirectory, rfl⟩
      · cases hill
  · rintro (⟨hcommand, access, hread, hdirectory, rfl⟩ |
      ⟨options, config, bytes, error, hcommand, hload, hbytes, htext, rfl⟩)
    · have hgiven : i.config ≠ some .erased := fun h => hconfig (.configErased hcommand h)
      have hpresent : ¬access.error.IsAbsence := by simp [hdirectory, AccessError.IsAbsence]
      have huntold : ¬(ConfigError.unreadable access).IsTold := by
        simp [ConfigError.IsTold, hdirectory]
      exact .config hcommand hgiven (Or.inl (.unreadable hread fun _ => hpresent)) huntold
    · exact .undecodable hcommand hload hbytes htext

theorem runOn_of_read {arguments : List Text} (h : Invocation.read arguments = .ok i) :
    runOn m s arguments = i.runOn m (m.receive s) := by
  rw [runOn, h]

theorem Invocation.runOn_of_isBorne (h : i.IsBorne m s) (hrun : i.run s = .ok o)
    (hencodes : ∀ c ∈ o.stdout, m.encodes c = true) : i.runOn m s = .ok o := by
  rw [runOn, exhausts_eq_false_iff.mpr h, hrun]
  exact Machine.write_eq_ok hencodes

theorem Invocation.exists_runOn_of_unopened {options : ResolveOptions} {config : Config}
    {access : FailedAccess} (h : i.IsBorne m s) (hcommand : i.command = .resolve options)
    (hload : loadConfig s i.config = .ok config) (hopen : HeadersUnopened s options.file access)
    (hnull : access.error ≠ .embeddedNull) : ∃ message, i.runOn m s = .ok ⟨1, [], message⟩ := by
  have hrun := runCommand_of_resolve hcommand hload
  rw [headerLines, fileLines_of_unopened hopen, if_neg hnull] at hrun
  exact ⟨_, runOn_of_isBorne h (run_of_failed hrun) (by simp)⟩

/-- The load fails before anything else is read, so it fails in the same way for all runs that find
the same configuration. -/
theorem Invocation.exists_runOn_of_rejects {e : ConfigError} (h : i.IsBorne m s)
    (hcommand : i.command.Loads) (hgiven : i.config ≠ some .erased)
    (hrejects : Config.Rejects s.files (i.config.bind Operand.text?) e) (htold : e.IsTold) :
    ∃ message, ∀ (s' : Surroundings) (command : Command), command.Loads →
      s'.files.read ((i.config.bind Operand.text?).getD Config.standardPath) =
        s.files.read ((i.config.bind Operand.text?).getD Config.standardPath) →
      Invocation.runOn m s' { i with command := command } = .ok ⟨1, [], message⟩ := by
  obtain ⟨message, hhalt⟩ :=
    configHalt_of_isTold ((i.config.bind Operand.text?).getD Config.standardPath) htold
  refine ⟨line ("Error: " ++ message), ?_⟩
  intro s' command hloads hsame
  have hborne : Invocation.IsBorne m s' { i with command := command } := by
    intro _ _
    exact (h hcommand hgiven).congr hsame
  apply runOn_of_isBorne hborne (run_of_failed ?_) (by simp)
  apply runCommand_of_loadConfig hloads
  rw [← hhalt]
  exact loadConfig_eq_error_iff.mpr
    (Or.inr ⟨hgiven, e, (Config.rejects_congr hsame).mpr hrejects, rfl⟩)

/-- How runs end on a machine. A run breaks down exactly when its arguments ask for a command that
breaks down; all other runs have an outcome. An option without a text is to blame only if an
argument ends in a separator. Without that, with plain paths and on a machine that lacks nothing for
the run, only a directory in place of the configuration and header lines that are not in UTF-8 break
it down.

On a machine that bears the configuration, when command `resolve` has its configuration and its
header lines, the status is 0 if an address is found and 1 if none is. A file of header lines that
cannot be opened ends the run with status 1 and no output, unless its path is none for the system.
So does an error of the configuration that is told in a message, and then nothing but the
configuration counts, neither the header lines nor even the command. -/
theorem run_endings (m : Machine) (s : Surroundings) (arguments : List Text) :
    let received := m.receive s
    (∀ b, runOn m s arguments = .error b ↔
      ∃ i, Invocation.read arguments = .ok i ∧ BreaksDown m received i b) ∧
    ∀ i, Invocation.read arguments = .ok i →
      let path := (i.config.bind Operand.text?).getD Config.standardPath
      ((∀ argument ∈ arguments, ¬EndsInSeparator argument) →
        ¬BreaksOff received i .configPathErased ∧ ¬BreaksOff received i .headerErased ∧
        (i.HasPlainPaths received → i.IsBorne m received → (∀ c, m.encodes c = true) →
          ∀ b, runOn m s arguments = .error b ↔ ∃ fault, b = .fault fault ∧
            ((i.command.Loads ∧ ∃ access, received.files.read path = .error access ∧
              access.error = .isADirectory ∧ fault = .config access) ∨
            ∃ options config bytes error, i.command = .resolve options ∧
              loadConfig received i.config = .ok config ∧ HeaderBytes received options.file bytes ∧
                Text.Utf8.decode bytes = .error error ∧ fault = .undecodable error))) ∧
      (i.IsBorne m received →
        (∀ options config, i.command = .resolve options →
          loadConfig received i.config = .ok config →
          (∀ lines, headerLines received options = .ok lines →
            ∃ outcome, outcome.status =
                (if (resolvedFrom (withTrusted config options.trustHeader).trusted lines).isSome
                  then 0 else 1) ∧
              ((∀ c ∈ outcome.stdout, m.encodes c = true) →
                runOn m s arguments = .ok outcome)) ∧
          ∀ access, HeadersUnopened received options.file access → access.error ≠ .embeddedNull →
            ∃ message, runOn m s arguments = .ok ⟨1, [], message⟩) ∧
        ∀ e, i.command.Loads → i.config ≠ some .erased →
          Config.Rejects received.files (i.config.bind Operand.text?) e → e.IsTold →
            ∃ message, runOn m s arguments = .ok ⟨1, [], message⟩ ∧
              ∀ (s' : Surroundings) (command : Command), command.Loads →
                s'.files.read path = received.files.read path →
                  Invocation.runOn m s' { i with command := command } =
                    .ok ⟨1, [], message⟩) := by
  intro received
  refine ⟨?_, ?_⟩
  · intro b
    cases hread : Invocation.read arguments with
    | error stop => simp [runOn, hread]
    | ok i => simp [runOn_of_read hread, Invocation.runOn_eq_error_iff, received]
  · intro i hread path
    rw [runOn_of_read hread]
    refine ⟨?_, ?_⟩
    · intro hends
      obtain ⟨hconfig, hheader⟩ := not_breaksOff_erased hread hends
      refine ⟨hconfig, hheader, ?_⟩
      intro hpaths hborne hencodes b
      rw [Invocation.runOn_eq_error_iff, breaksDown_iff_of_isBorne hborne hencodes]
      exact exists_congr fun _ =>
        and_congr_right fun _ => breaksOff_iff_of_plainPaths hpaths hconfig hheader
    · intro hborne
      refine ⟨?_, ?_⟩
      · intro options config hcommand hload
        refine ⟨?_, ?_⟩
        · intro lines hlines
          have hrun := Invocation.run_of_headerLines hcommand hload hlines
          exact ⟨_, status_resolveLines _ _ _ _, Invocation.runOn_of_isBorne hborne hrun⟩
        · intro access hopen hnull
          exact Invocation.exists_runOn_of_unopened hborne hcommand hload hopen hnull
      · intro e hcommand hgiven hrejects htold
        obtain ⟨message, hfails⟩ :=
          Invocation.exists_runOn_of_rejects hborne hcommand hgiven hrejects htold
        exact ⟨message, hfails received i.command hcommand rfl, hfails⟩

/-- A machine that does not bear arrays of any depth. A directory breaks down a run in place of the
configuration, but not in place of header lines, and a missing configuration goes before header
lines that are not in UTF-8. Arrays in the configuration that are nested too deeply exhaust the
machine, in ASCII not every operand can be repeated, and a byte that is not in UTF-8 does no harm to
a run that receives standard input leniently. -/
theorem run_endings_nested :
    let tree : FileTree := .ofEntries
      [("d/", []), ("n", Text.Utf8.encode ("a=" ++ List.replicate 600 '['))]
    let s : Surroundings := ⟨tree.access, none, Text.Utf8.encode "Via: 1.1 9.9.9.9\n" ++ [0xff]⟩
    let m : Machine := ⟨fun t => t.count '[' < 490, fun _ => true, id, fun _ => true⟩
    let ascii : Machine := { m with encodes := fun c => c.toNat < 128 }
    let lenient : Machine :=
      { m with receives := List.flatMap fun b => if b < 0x80 then [b] else [0xef, 0xbf, 0xbd] }
    runOn m s ["-c", "d", "info"] = .error (.fault (.config ⟨.isADirectory, "d"⟩)) ∧
      runOn m s ["-c", "n", "info"] = .error .exhausted ∧
      runOn ascii s ["classify", "é"] = .error .unencodable ∧
      (∃ error, runOn m s ["resolve", "-f", "-"] = .error (.fault (.undecodable error))) ∧
      (∃ outcome, runOn lenient s ["resolve", "-f", "-"] = .ok outcome ∧ outcome.status = 0) ∧
      (∃ message, runOn m s ["resolve", "-f", "d"] = .ok ⟨1, [], message⟩) ∧
      ∃ message, runOn m s ["-c", "m", "resolve", "-f", "-"] = .ok ⟨1, [], message⟩ := by
  intro tree s m ascii lenient
  have hinfo : Invocation.read ["-c", "d", "info"] = .ok ⟨some (.text "d"), false, .info⟩ := by
    decide +kernel
  have hdeep : Invocation.read ["-c", "n", "info"] = .ok ⟨some (.text "n"), false, .info⟩ := by
    decide +kernel
  have hclassify : Invocation.read ["classify", "é"] = .ok ⟨none, false, .classify ["é"]⟩ := by
    decide +kernel
  have hinput : Invocation.read ["resolve", "-f", "-"] =
      .ok ⟨none, false, .resolve ⟨[], some (.text "-"), none, false⟩⟩ := by decide +kernel
  have hdirectory : Invocation.read ["resolve", "-f", "d"] =
      .ok ⟨none, false, .resolve ⟨[], some (.text "d"), none, false⟩⟩ := by decide +kernel
  have hmissing : Invocation.read ["-c", "m", "resolve", "-f", "-"] =
      .ok ⟨some (.text "m"), false, .resolve ⟨[], some (.text "-"), none, false⟩⟩ := by
    decide +kernel
  have hload : loadConfig s none = .ok ⟨none⟩ := by decide +kernel
  have hd : s.files.read "d" = .error ⟨.isADirectory, "d"⟩ := by decide +kernel
  have hm : s.files.read "m" = .error ⟨.notFound, "m"⟩ := by decide +kernel
  have hn : s.files.read "n" = .ok (Text.Utf8.encode ("a=" ++ List.replicate 600 '[')) := by
    decide +kernel
  have hnone : s.files.read Config.standardPath = .error ⟨.notFound, Config.standardPath⟩ := by
    decide +kernel
  -- without a file there is no text to be read, and no value is shown
  have hborne {path : Option Text} {access : FailedAccess}
      (h : s.files.read (path.getD Config.standardPath) = .error access) :
      m.Bears s.files path := by
    refine ⟨?_, fun _ _ => rfl⟩
    intro bytes text hread
    rw [h] at hread
    simp at hread
  have hstandard : m.Bears s.files none := hborne hnone
  have hplain : Invocation.HasPlainPaths s
      ⟨none, false, .resolve ⟨[], some (.text "-"), none, false⟩⟩ := by
    refine ⟨?_, ?_⟩
    · intro access hread
      exact Or.inl (by rw [← Except.error.inj (hnone.symm.trans hread)])
    · intro options access hcommand hopen
      cases hcommand
      cases hopen with
      | file _ hdash => exact absurd rfl hdash
  have hends : ∀ argument ∈ (["resolve", "-f", "-"] : List Text), ¬EndsInSeparator argument := by
    simp only [EndsInSeparator]
    decide
  obtain ⟨error, herror⟩ : ∃ error, Text.Utf8.decode s.input = .error error := ⟨_, rfl⟩
  obtain ⟨hbreaksInfo, -⟩ := run_endings m s ["-c", "d", "info"]
  obtain ⟨hbreaksDeep, -⟩ := run_endings m s ["-c", "n", "info"]
  obtain ⟨hbreaksClassify, -⟩ := run_endings ascii s ["classify", "é"]
  obtain ⟨-, hreads⟩ := run_endings m s ["resolve", "-f", "-"]
  obtain ⟨-, hresolves⟩ := run_endings lenient s ["resolve", "-f", "-"]
  obtain ⟨-, hopens⟩ := run_endings m s ["resolve", "-f", "d"]
  obtain ⟨-, htells⟩ := run_endings m s ["-c", "m", "resolve", "-f", "-"]
  refine ⟨(hbreaksInfo _).mpr ⟨_, hinfo, ?_⟩, (hbreaksDeep _).mpr ⟨_, hdeep, ?_⟩,
    (hbreaksClassify _).mpr ⟨_, hclassify, ?_⟩, ⟨error, ?_⟩, ?_, ?_, ?_⟩
  · have hrejects : Config.Rejects s.files (some "d") (.unreadable ⟨.isADirectory, "d"⟩) :=
      Or.inl (.unreadable hd (by simp))
    exact .fault (fun _ _ => hborne hd) (.config trivial (by simp) hrejects
      (by simp [ConfigError.IsTold]))
  · refine .exhausted fun h => ?_
    have hreads := (h trivial (by simp)).reads _ _ hn (Text.Utf8.decode_encode _)
    have hdeep : m.reads ("a=" ++ List.replicate 600 '[') = false := by decide +kernel
    exact Bool.false_ne_true (hdeep.symm.trans hreads)
  · have hrun : Invocation.run s ⟨none, false, .classify ["é"]⟩ = .ok ⟨1, "é invalid\n", []⟩ := by
      decide +kernel
    have hlacks : ascii.encodes 'é' = false := by decide
    exact .unencodable (fun hcommand => hcommand.elim) hrun (by decide) hlacks
  · obtain ⟨-, -, hbreaks⟩ := (hreads _ hinput).1 hends
    exact (hbreaks hplain (fun _ _ => hstandard) (fun _ => rfl) _).mpr
      ⟨_, rfl, Or.inr ⟨_, _, _, _, rfl, hload, .input, herror, rfl⟩⟩
  · have hbears : lenient.Bears s.files none := ⟨hstandard.reads, hstandard.shows⟩
    obtain ⟨outcome, hstatus, hrun⟩ :=
      (((hresolves _ hinput).2 fun _ _ => hbears).1 _ _ rfl hload).1 _ rfl
    exact ⟨outcome, hrun fun _ _ => rfl, hstatus.trans (by decide +kernel)⟩
  · exact (((hopens _ hdirectory).2 fun _ _ => hstandard).1 _ _ rfl hload).2 _
      (.file (by simp) (by simp) hd) (by simp)
  · have hrejects : Config.Rejects s.files (some "m") (.unreadable ⟨.notFound, "m"⟩) :=
      Or.inl (.unreadable hm (by simp))
    obtain ⟨message, hrun, -⟩ := ((htells _ hmissing).2 fun _ _ => hborne hm).2 _ trivial (by simp)
      hrejects (Or.inl rfl)
    exact ⟨message, hrun⟩

/-- Paths under which nothing lies break off a run even without bounds: one of the configuration
that leads through a file, and one of header lines that is none for the system. So does a separator
that is attached to an option, which leaves the option without a text. -/
theorem run_throughFile :
    let tree : FileTree := .ofEntries [("h", [])]
    let s : Surroundings := ⟨tree.access, none, []⟩
    s.files.exists "h/x" = false ∧
      runOn .boundless s ["-c", "h/x", "info"] = .error (.fault (.config ⟨.notADirectory, "h/x"⟩)) ∧
      s.files.exists "\x00" = false ∧
      runOn .boundless s ["resolve", "-f", "\x00"] =
        .error (.fault (.headerPath ⟨.embeddedNull, "\x00"⟩)) ∧
      s.files.exists Config.standardPath = false ∧
      runOn .boundless s ["resolve", "-H--"] = .error (.fault .headerErased) ∧
      runOn .boundless s ["-c--", "info"] = .error (.fault .configPathErased) := by
  decide +kernel

end Forwarding.CommandLine
