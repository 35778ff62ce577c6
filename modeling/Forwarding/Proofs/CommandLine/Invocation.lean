import Forwarding.Proofs.CommandLine.Arguments

/-!
The invocation that arguments ask for. The report option behind the word of command `resolve` asks
for a report and changes nothing else, and arguments without a separator at their end leave no
option without a text.
-/
namespace Forwarding.CommandLine

variable {i : Invocation} {options : ResolveOptions} {command : Command}
  {arguments strays : List Text}

/-- What a step keeps holds behind a row of steps that all succeed. -/
theorem foldlM_keeps {ε α β : Type} {step : β → α → Except ε β} {P : β → Prop} {as : List α}
    {b b' : β} (h : as.foldlM step b = .ok b') (hb : P b)
    (hstep : ∀ a ∈ as, ∀ b b', P b → step b a = .ok b' → P b') : P b' := by
  induction as generalizing b with
  | nil => exact Except.ok.inj h ▸ hb
  | cons a as ih =>
    rw [List.foldlM_cons] at h
    cases hnext : step b a with
    | error e => simp [hnext, bind, Except.bind] at h
    | ok next =>
      rw [hnext] at h
      exact ih h (hstep a List.mem_cons_self b next hb hnext)
        fun a ha => hstep a (List.mem_cons_of_mem _ ha)

/-- The invocation that arguments ask for is what their effects leave behind. -/
theorem Invocation.read_eq_ok_iff :
    Invocation.read arguments = .ok i ↔
      (trace programOptions .command arguments).error = none ∧
        (trace programOptions .command arguments).events.foldlM programStep
          ⟨none, false, none, []⟩ = .ok ⟨i.config, i.verbose, some (i.command, []), []⟩ := by
  unfold Invocation.read
  cases hfold : (trace programOptions .command arguments).events.foldlM programStep
    ⟨none, false, none, []⟩ with
  | error stop => simp [bind, Except.bind, hfold]
  | ok s =>
    cases herror : (trace programOptions .command arguments).error with
    | some e => simp [bind, Except.bind, hfold, finish, herror]
    | none =>
      obtain ⟨config, verbose, command, strays⟩ := s
      obtain ⟨config', verbose', command'⟩ := i
      rcases command with _ | ⟨command, others⟩
      · cases strays <;>
          simp [bind, Except.bind, hfold, finish, herror, throw, throwThe, MonadExceptOf.throw]
      · cases strays <;> cases others <;>
          simp [bind, Except.bind, hfold, finish, herror, throw, throwThe, MonadExceptOf.throw,
            pure, Except.pure]

/-- Only its own option sets the path of the configuration, and only a command sets the command. -/
theorem programStep_eq_ok {event : Event ProgramKey} {before after : Progress}
    (h : programStep before event = .ok after) :
    (after.config = before.config ∨
      ∃ operand, event = .argument .config operand ∧ after.config = some operand) ∧
    (after.command = before.command ∨ ∃ arguments, event = .command arguments) := by
  cases event with
  | flag key =>
    cases key with
    | verbose => cases h; exact ⟨Or.inl rfl, Or.inl rfl⟩
    | help => cases h
    | config => cases h; exact ⟨Or.inl rfl, Or.inl rfl⟩
  | argument key operand =>
    cases key with
    | config => cases h; exact ⟨Or.inr ⟨operand, rfl, rfl⟩, Or.inl rfl⟩
    | help | verbose => cases h; exact ⟨Or.inl rfl, Or.inl rfl⟩
  | command arguments =>
    cases hread : readCommand arguments with
    | error stop => simp [programStep, hread, bind, Except.bind] at h
    | ok command =>
      obtain rfl : { before with command := some command } = after := by
        simpa [programStep, hread, bind, Except.bind, pure, Except.pure] using h
      exact ⟨Or.inl rfl, Or.inr ⟨arguments, rfl⟩⟩
  | operands | stray => cases h; exact ⟨Or.inl rfl, Or.inl rfl⟩

theorem command_mem_of_foldlM {events : List (Event ProgramKey)} {start s : Progress}
    (h : events.foldlM programStep start = .ok s) (hstart : start.command = none)
    (hs : s.command ≠ none) : ∃ arguments, .command arguments ∈ events := by
  by_contra hnone
  apply hs
  refine foldlM_keeps (P := fun s => s.command = none) h hstart ?_
  intro event hmem before after hbefore hstep
  rcases (programStep_eq_ok hstep).2 with hsame | ⟨arguments, rfl⟩
  · exact hsame.trans hbefore
  · exact absurd ⟨arguments, hmem⟩ hnone

theorem foldlM_command_eq_ok_iff {events : List (Event ProgramKey)} {start s : Progress} :
    (events ++ [Event.command arguments]).foldlM programStep start = .ok s ↔
      ∃ before command, events.foldlM programStep start = .ok before ∧
        readCommand arguments = .ok command ∧ s = { before with command := some command } := by
  rw [List.foldlM_append]
  cases events.foldlM programStep start with
  | error stop => simp [bind, Except.bind]
  | ok before =>
    cases hread : readCommand arguments <;>
      simp [programStep, hread, bind, Except.bind, pure, Except.pure, eq_comm]

/-- The command that arguments ask for is read from a word among them on. An argument that stands
behind that word is read by the command alone. -/
theorem Invocation.exists_command (h : Invocation.read arguments = .ok i) :
    ∃ front word rest, arguments = front ++ word :: rest ∧
      readCommand (word :: rest) = .ok (i.command, []) ∧
      ∀ argument reading command, word ≠ separatorText → argument ≠ separatorText →
        readArgument programOptions argument = .ok reading →
        readCommand (word :: argument :: rest) = .ok (command, []) →
        Invocation.read (front ++ word :: argument :: rest) =
          .ok { i with command := command } := by
  obtain ⟨herror, hfold⟩ := read_eq_ok_iff.mp h
  obtain ⟨command, hcommand⟩ := command_mem_of_foldlM hfold rfl (by simp)
  cases hreadings : readArguments programOptions arguments with
  | error e => simp [trace, hreadings, Trace.fail] at herror
  | ok readings =>
    rw [trace, hreadings] at hfold hcommand
    dsimp only at hfold hcommand
    obtain ⟨front, first, rest, events, rfl, hfirst, rfl, htrace⟩ := consume_command hcommand
    rw [htrace rest (Or.inr rfl), foldlM_command_eq_ok_iff] at hfold
    obtain ⟨⟨config, verbose, earlier, strays⟩, found, hbefore, hfound, hlast⟩ := hfold
    obtain ⟨rfl, rfl, rfl, rfl⟩ := by simpa using hlast
    refine ⟨front.map (·.1), first.1, rest.map (·.1), ?_, ?_, ?_⟩
    · simpa using (map_fst_readArguments hreadings).symm
    · exact hfound
    · intro argument reading command hword hne hread hcommand
      -- a plain word calls its command whatever stands behind it
      have hplain : isPlain first := by
        obtain ⟨word, found⟩ := first
        cases found with
        | plain => rfl
        | option | unknownOption => simp [isLoose] at hfirst
        | separator => exact absurd (eq_separatorText_of_mem hreadings (by simp)) hword
      have hinsert : readArguments programOptions arguments = .ok ((front ++ [first]) ++ rest) := by
        simpa using hreadings
      obtain ⟨inserted, hinserted⟩ := readArguments_insert hinsert hne hread
      simp only [List.map_append, List.map_cons, List.map_nil, List.append_assoc, List.cons_append,
        List.nil_append] at hinserted
      rw [read_eq_ok_iff, trace, hinserted]
      dsimp only
      rw [htrace _ (Or.inl (by simp [hplain])), foldlM_command_eq_ok_iff]
      exact ⟨rfl, _, (command, []), hbefore, hcommand, rfl⟩

theorem readResolve_eq_ok_iff :
    readResolve arguments = .ok (command, strays) ↔
      (trace resolveOptions .none arguments).error = none ∧
        ∃ options, command = .resolve options ∧
          (trace resolveOptions .none arguments).events.foldlM resolveStep
            (⟨[], none, none, false⟩, []) = .ok (options, strays) := by
  unfold readResolve
  cases hfold : (trace resolveOptions .none arguments).events.foldlM resolveStep
    (⟨[], none, none, false⟩, []) with
  | error stop => simp [bind, Except.bind, hfold]
  | ok s =>
    obtain ⟨found, others⟩ := s
    cases herror : (trace resolveOptions .none arguments).error with
    | some e => simp [bind, Except.bind, hfold, finish, herror]
    | none =>
      simp only [bind, Except.bind, hfold, finish, herror, pure, Except.pure, true_and]
      constructor
      · rintro ⟨⟩
        exact ⟨_, rfl, rfl⟩
      · rintro ⟨_, rfl, ⟨⟩⟩
        rfl

theorem headers_resolveStep {event : Event ResolveKey} {before after : Remainder ResolveOptions}
    (h : resolveStep before event = .ok after) :
    after.1.headers = before.1.headers ∨ ∃ operand, event = .argument .header operand ∧
      after.1.headers = before.1.headers ++ [operand] := by
  cases event with
  | flag key => cases key <;> cases h <;> exact Or.inl rfl
  | argument key operand =>
    cases key with
    | header => cases h; exact Or.inr ⟨operand, rfl, rfl⟩
    | _ => cases h; exact Or.inl rfl
  | operands | command | stray => cases h; exact Or.inl rfl

/-- A path of the configuration without a text comes from a separator at the end of an argument. -/
theorem Invocation.exists_endsInSeparator_of_config (h : Invocation.read arguments = .ok i)
    (herased : i.config = some .erased) : ∃ argument ∈ arguments, EndsInSeparator argument := by
  obtain ⟨-, hfold⟩ := read_eq_ok_iff.mp h
  suffices hmem : .argument .config .erased ∈ (trace programOptions .command arguments).events from
    exists_endsInSeparator_of_trace hmem
  by_contra hnone
  refine foldlM_keeps (P := fun s => s.config ≠ some .erased) hfold (by simp) ?_ herased
  intro event hmem before after hbefore hstep
  rcases (programStep_eq_ok hstep).1 with hsame | ⟨operand, rfl, hset⟩
  · rwa [hsame]
  · rw [hset]
    rintro ⟨⟩
    exact hnone hmem

/-- So does a header line without a text. -/
theorem exists_endsInSeparator_of_readResolve
    (h : readResolve arguments = .ok (.resolve options, strays))
    (herased : .erased ∈ options.headers) : ∃ argument ∈ arguments, EndsInSeparator argument := by
  obtain ⟨-, found, hfound, hfold⟩ := readResolve_eq_ok_iff.mp h
  obtain rfl := Command.resolve.inj hfound
  suffices hmem : .argument .header .erased ∈ (trace resolveOptions .none arguments).events from
    exists_endsInSeparator_of_trace hmem
  by_contra hnone
  refine foldlM_keeps (P := fun s => .erased ∉ s.1.headers) hfold (by simp) ?_ herased
  intro event hmem before after hbefore hstep
  rcases headers_resolveStep hstep with hsame | ⟨operand, rfl, hset⟩
  · rwa [hsame]
  · rw [hset, List.mem_append, not_or]
    refine ⟨hbefore, ?_⟩
    simp only [List.mem_singleton]
    rintro rfl
    exact hnone hmem

/-- Only the word for it leads to command `resolve`. -/
theorem readCommand_eq_resolve {word : Text}
    (h : readCommand (word :: arguments) = .ok (.resolve options, strays)) :
    word = "resolve" ∧ readResolve arguments = .ok (.resolve options, strays) := by
  rw [readCommand] at h
  split at h
  · next hword => exact ⟨hword, h⟩
  · split at h
    · simp only [readClassify, bind, Except.bind, pure, Except.pure] at h
      split at h
      · simp at h
      · split at h
        · simp at h
        · split at h <;> simp [throw, throwThe, MonadExceptOf.throw] at h
    · split at h
      · simp only [readInfo, bind, Except.bind, pure, Except.pure] at h
        split at h
        · simp at h
        · split at h <;> simp at h
      · simp at h

theorem resolveStep_report {event : Event ResolveKey} {before after : Remainder ResolveOptions}
    (h : resolveStep before event = .ok after) :
    resolveStep ({ before.1 with report := true }, before.2) event =
      .ok ({ after.1 with report := true }, after.2) := by
  cases event with
  | flag key => cases key <;> cases h <;> rfl
  | argument key operand => cases key <;> cases h <;> rfl
  | operands | command | stray => cases h; rfl

/-- The report is a matter of its own among the options. -/
theorem foldlM_resolveStep_report {events : List (Event ResolveKey)}
    {start s : Remainder ResolveOptions} (h : events.foldlM resolveStep start = .ok s) :
    events.foldlM resolveStep ({ start.1 with report := true }, start.2) =
      .ok ({ s.1 with report := true }, s.2) := by
  induction events generalizing start with
  | nil =>
    obtain rfl := Except.ok.inj h
    rfl
  | cons event events ih =>
    rw [List.foldlM_cons] at h ⊢
    cases hstep : resolveStep start event with
    | error stop => simp [hstep, bind, Except.bind] at h
    | ok next =>
      rw [hstep] at h
      rw [resolveStep_report hstep]
      exact ih h

theorem trace_report (h : (trace resolveOptions .none arguments).error = none) :
    trace resolveOptions .none ("--report" :: arguments) =
      (trace resolveOptions .none arguments).after [.flag .report] := by
  have hreport : readArgument resolveOptions "--report" =
      .ok (.option ⟨.report, ["--report"], false⟩ "--report" none) := by rfl
  cases hreadings : readArguments resolveOptions arguments with
  | error e => simp [trace, hreadings, Trace.fail] at h
  | ok readings =>
    have hall := (readArguments_cons_eq_ok_iff (by decide)).mpr ⟨_, _, hreport, hreadings, rfl⟩
    rw [trace, trace, hall, hreadings]
    exact consume_option rfl .none _

theorem readResolve_report (h : readResolve arguments = .ok (.resolve options, strays)) :
    readResolve ("--report" :: arguments) =
      .ok (.resolve { options with report := true }, strays) := by
  obtain ⟨herror, found, hcommand, hfold⟩ := readResolve_eq_ok_iff.mp h
  obtain rfl := Command.resolve.inj hcommand
  refine readResolve_eq_ok_iff.mpr ⟨?_, _, rfl, ?_⟩
  · rw [trace_report herror]
    exact herror
  · rw [trace_report herror]
    exact foldlM_resolveStep_report hfold

theorem Invocation.exists_endsInSeparator_of_header (h : Invocation.read arguments = .ok i)
    (hresolve : i.command = .resolve options) (herased : .erased ∈ options.headers) :
    ∃ argument ∈ arguments, EndsInSeparator argument := by
  obtain ⟨front, word, rest, rfl, hcommand, -⟩ := exists_command h
  rw [hresolve] at hcommand
  obtain ⟨argument, hmem, hends⟩ :=
    exists_endsInSeparator_of_readResolve (readCommand_eq_resolve hcommand).2 herased
  exact ⟨argument, by simp [hmem], hends⟩

/-- The report option behind the word of command `resolve` asks for a report, and the rest of the
invocation stays as it is. -/
theorem Invocation.read_report (h : Invocation.read arguments = .ok i)
    (hresolve : i.command = .resolve options) :
    ∃ front rest, arguments = front ++ ("resolve" : Text) :: rest ∧
      Invocation.read (front ++ ("resolve" : Text) :: ("--report" : Text) :: rest) =
        .ok { i with command := .resolve { options with report := true } } := by
  obtain ⟨front, word, rest, rfl, hcommand, hinsert⟩ := exists_command h
  rw [hresolve] at hcommand
  obtain ⟨rfl, hread⟩ := readCommand_eq_resolve hcommand
  refine ⟨front, rest, rfl, ?_⟩
  have hreport : readArgument programOptions "--report" = .ok .unknownOption := rfl
  apply hinsert _ _ _ (by decide) (by decide) hreport
  rw [readCommand, if_pos rfl]
  exact readResolve_report hread

end Forwarding.CommandLine
