import Forwarding.CommandLine.Command
import Forwarding.Proofs.Text.Pieces

/-!
The effects of arguments. A command takes all arguments from its word on, and an option loses the
text of its argument only to a separator that is attached to it.
-/
namespace Forwarding.CommandLine

variable {κ : Type} {specs : List (OptionSpec κ)} {spec : OptionSpec κ} {spelling : Text}
  {attached : Option Text} {arguments : List Text} {argument : Text} {reading : Reading κ}
  {readings rest after : List (Text × Reading κ)} {events : List (Event κ)} {key : κ}

/-- A separator stands at the end of an argument that is longer. -/
def EndsInSeparator (argument : Text) : Prop :=
  separatorText <:+ argument ∧ argument ≠ separatorText

theorem assigned?_eq_some (h : assigned? specs argument = some reading) :
    ∃ spec spelling attached, reading = .option spec spelling attached ∧
      ∀ t ∈ attached, t <:+ argument := by
  unfold assigned? at h
  simp only [Option.bind_eq_bind, Option.bind_eq_some_iff, Prod.exists] at h
  obtain ⟨stem, t, hcut, found, -, hreading⟩ := h
  obtain ⟨rfl, -⟩ := Text.cut?_eq_some hcut
  refine ⟨found, stem, some t, (Option.some.inj hreading).symm, ?_⟩
  intro t' ht
  obtain rfl := Option.some.inj ht
  exact ⟨stem ++ ['='], by simp⟩

theorem suffix_of_mem_abbreviated (h : (spelling, spec, attached) ∈ abbreviated specs argument) :
    ∀ t ∈ attached, t <:+ argument := by
  intro t ht
  obtain rfl := Option.mem_def.mp ht
  unfold abbreviated at h
  split at h
  · obtain ⟨⟨known, _⟩, -, hknown⟩ := List.mem_filterMap.mp h
    simp only [Option.ite_none_right_eq_some, Option.some.injEq, Prod.mk.injEq] at hknown
    cases hcut : Text.cut? '=' argument with
    | none => simp [hcut] at hknown
    | some sides =>
      obtain ⟨rfl, -⟩ := Text.cut?_eq_some hcut
      obtain ⟨-, -, -, hattached⟩ := hknown
      rw [hcut] at hattached
      obtain rfl := Option.some.inj hattached
      exact ⟨sides.1 ++ ['='], by simp⟩
  · obtain ⟨⟨known, _⟩, -, hknown⟩ := List.mem_filterMap.mp h
    dsimp only at hknown
    split at hknown
    · obtain ⟨-, -, rfl⟩ := by simpa using hknown
      exact List.drop_suffix 2 argument
    · simp at hknown

/-- Only an option has a text attached, and that stands at the end of its argument. -/
theorem readArgument_eq_ok (h : readArgument specs argument = .ok reading) :
    reading = .plain ∨ reading = .unknownOption ∨ ∃ spec spelling attached,
      reading = .option spec spelling attached ∧ ∀ t ∈ attached, t <:+ argument := by
  unfold readArgument at h
  split at h
  · split at h
    · exact Or.inr (Or.inr ⟨_, _, none, (Except.ok.inj h).symm, by simp⟩)
    · split at h
      · next hassigned =>
        obtain rfl := Except.ok.inj h
        exact Or.inr (Or.inr (assigned?_eq_some hassigned))
      · split at h
        · obtain rfl := Except.ok.inj h
          split <;> simp
        · next found hfound =>
          refine Or.inr (Or.inr ⟨_, _, found, (Except.ok.inj h).symm, ?_⟩)
          exact suffix_of_mem_abbreviated (hfound ▸ List.mem_singleton_self _)
        · simp at h
  · exact Or.inl (Except.ok.inj h).symm

theorem readArguments_separator (arguments : List Text) :
    readArguments specs (separatorText :: arguments) =
      .ok ((separatorText, .separator) :: arguments.map fun argument => (argument, .plain)) := by
  rw [readArguments, if_pos rfl]

theorem readArguments_cons_eq_ok_iff (hne : argument ≠ separatorText) :
    readArguments specs (argument :: arguments) = .ok readings ↔
      ∃ reading others, readArgument specs argument = .ok reading ∧
        readArguments specs arguments = .ok others ∧ readings = (argument, reading) :: others := by
  rw [readArguments, if_neg hne]
  cases readArgument specs argument with
  | error e => simp [bind, Except.bind]
  | ok reading =>
    cases readArguments specs arguments <;> simp [bind, Except.bind, pure, Except.pure, eq_comm]

theorem map_fst_readArguments (h : readArguments specs arguments = .ok readings) :
    readings.map (·.1) = arguments := by
  induction arguments generalizing readings with
  | nil =>
    obtain rfl := Except.ok.inj h
    rfl
  | cons argument arguments ih =>
    by_cases hne : argument = separatorText
    · subst hne
      obtain rfl := Except.ok.inj ((readArguments_separator arguments).symm.trans h)
      simp [Function.comp_def]
    · obtain ⟨reading, others, -, hothers, rfl⟩ := (readArguments_cons_eq_ok_iff hne).mp h
      rw [List.map_cons, ih hothers]

/-- An argument is plain, or it is the separator, or it reads as on its own. -/
theorem reading_of_mem (h : readArguments specs arguments = .ok readings)
    (hmem : (argument, reading) ∈ readings) :
    argument ∈ arguments ∧ (reading = .plain ∨
      argument = separatorText ∧ reading = .separator ∨
      argument ≠ separatorText ∧ readArgument specs argument = .ok reading) := by
  induction arguments generalizing readings with
  | nil =>
    obtain rfl := Except.ok.inj h
    simp at hmem
  | cons first arguments ih =>
    by_cases hne : first = separatorText
    · subst hne
      obtain rfl := Except.ok.inj ((readArguments_separator arguments).symm.trans h)
      rcases List.mem_cons.mp hmem with hfirst | hmem
      · obtain ⟨rfl, rfl⟩ := Prod.mk.inj hfirst
        exact ⟨List.mem_cons_self, Or.inr (Or.inl ⟨rfl, rfl⟩)⟩
      · obtain ⟨other, hother, heq⟩ := List.mem_map.mp hmem
        obtain ⟨rfl, rfl⟩ := Prod.mk.inj heq
        exact ⟨List.mem_cons_of_mem _ hother, Or.inl rfl⟩
    · obtain ⟨found, others, hfound, hothers, rfl⟩ := (readArguments_cons_eq_ok_iff hne).mp h
      rcases List.mem_cons.mp hmem with hfirst | hmem
      · obtain ⟨rfl, rfl⟩ := Prod.mk.inj hfirst
        exact ⟨List.mem_cons_self, Or.inr (Or.inr ⟨hne, hfound⟩)⟩
      · obtain ⟨hin, hcases⟩ := ih hothers hmem
        exact ⟨List.mem_cons_of_mem _ hin, hcases⟩

/-- What is attached to an option stands at the end of an argument other than the separator. -/
theorem attached_of_mem (h : readArguments specs arguments = .ok readings)
    (hmem : (argument, .option spec spelling attached) ∈ readings) :
    argument ∈ arguments ∧ argument ≠ separatorText ∧ ∀ t ∈ attached, t <:+ argument := by
  obtain ⟨hin, hplain | ⟨-, hseparator⟩ | ⟨hne, hread⟩⟩ := reading_of_mem h hmem
  · simp at hplain
  · simp at hseparator
  · refine ⟨hin, hne, ?_⟩
    rcases readArgument_eq_ok hread with hplain | hunknown | ⟨_, _, _, hoption, hsuffix⟩
    · simp at hplain
    · simp at hunknown
    · obtain ⟨rfl, rfl, rfl⟩ := by simpa using hoption
      exact hsuffix

/-- Only the separator reads as one. -/
theorem eq_separatorText_of_mem (h : readArguments specs arguments = .ok readings)
    (hmem : (argument, .separator) ∈ readings) : argument = separatorText := by
  obtain ⟨-, hplain | ⟨heq, -⟩ | ⟨-, hread⟩⟩ := reading_of_mem h hmem
  · simp at hplain
  · exact heq
  · rcases readArgument_eq_ok hread with hplain | hunknown | ⟨_, _, _, hoption, -⟩
    · simp at hplain
    · simp at hunknown
    · simp at hoption

/-- An attached text calls no command, and only a separator at its end leaves an option without the
text of its argument. -/
theorem bundle_eq_ok {short : Bool} {t : Text} {last : Option (OptionSpec κ)}
    (h : bundle specs spec short t = .ok (events, last)) :
    (∀ arguments, .command arguments ∉ events) ∧
      ∀ key, .argument key .erased ∈ events → separatorText <:+ t := by
  fun_induction bundle specs spec short t generalizing events last with
  | case1 | case4 =>
    obtain ⟨rfl, -⟩ := by simpa using h
    simp
  | case2 | case6 => simp at h
  | case3 spec short c rest htakes =>
    obtain ⟨rfl, -⟩ := by simpa using h
    refine ⟨by simp, ?_⟩
    intro key hmem
    obtain ⟨-, herased⟩ := by simpa using hmem
    unfold Operand.ofAttached at herased
    split at herased
    · next hseparator => exact hseparator ▸ List.suffix_rfl
    · simp at herased
  | case5 spec c rest htakes next hnext hne ih =>
    simp only [bind, Except.bind, pure, Except.pure] at h
    split at h
    · simp at h
    · next result hresult =>
      obtain ⟨rfl, -⟩ := by simpa using h
      obtain ⟨hcommand, herased⟩ := ih hresult
      refine ⟨by simpa using hcommand, ?_⟩
      intro key hmem
      exact (herased key (by simpa using hmem)).trans (List.suffix_cons c rest)

/-- An option with nothing attached takes arguments from the front, whatever stands behind them. -/
theorem takeOption_eq_ok {event : Event κ} (h : takeOption spec rest = .ok (event, after)) :
    (event = .flag spec.key ∨ ∃ t, event = .argument spec.key (.text t)) ∧
      ∃ taken, rest = taken ++ after ∧
        ∀ other, takeOption spec (taken ++ other) = .ok (event, other) := by
  unfold takeOption at h
  split at h
  · next htakes =>
    split at h
    · next argument rest =>
      obtain ⟨rfl, rfl⟩ := by simpa using h
      exact ⟨Or.inr ⟨argument, rfl⟩, [(argument, .plain)], rfl,
        fun other => by simp [takeOption, htakes]⟩
    · simp at h
  · next htakes =>
    obtain ⟨rfl, rfl⟩ := by simpa using h
    exact ⟨Or.inl rfl, [], rfl, fun other => by simp [takeOption, htakes]⟩

/-- An option takes arguments from the front, whatever stands behind them. It calls no command, and
only a separator that is attached to it loses the text of its argument. -/
theorem takeReading_eq_ok
    (h : takeReading specs spec spelling attached rest = .ok (events, after)) :
    (∀ arguments, .command arguments ∉ events) ∧
      (∀ key, .argument key .erased ∈ events → ∃ t ∈ attached, separatorText <:+ t) ∧
      ∃ taken, rest = taken ++ after ∧ ∀ other,
        takeReading specs spec spelling attached (taken ++ other) = .ok (events, other) := by
  cases attached with
  | none =>
    simp only [takeReading, bind, Except.bind, pure, Except.pure] at h ⊢
    split at h
    · simp at h
    · next result htake =>
      obtain ⟨rfl, rfl⟩ := by simpa using h
      obtain ⟨hevent, taken, hsplit, hother⟩ := takeOption_eq_ok htake
      refine ⟨?_, ?_, taken, hsplit, fun other => by rw [hother]⟩
      · rcases hevent with hevent | ⟨t, hevent⟩ <;> simp [hevent]
      · rcases hevent with hevent | ⟨t, hevent⟩ <;> simp [hevent]
  | some t =>
    simp only [takeReading, bind, Except.bind, pure, Except.pure] at h ⊢
    split at h
    · simp at h
    · next result hbundle =>
      obtain ⟨set, last⟩ := result
      obtain ⟨hcommand, herased⟩ := bundle_eq_ok hbundle
      cases last with
      | none =>
        obtain ⟨rfl, rfl⟩ := by simpa using h
        exact ⟨hcommand, fun key hmem => ⟨t, rfl, herased key hmem⟩, [], rfl, fun other => rfl⟩
      | some last =>
        dsimp only at h
        split at h
        · simp at h
        · next result htake =>
          obtain ⟨rfl, rfl⟩ := by simpa using h
          obtain ⟨hevent, taken, hsplit, hother⟩ := takeOption_eq_ok htake
          refine ⟨?_, ?_, taken, hsplit, fun other => by simp only [hother]⟩
          · rcases hevent with hevent | ⟨t, hevent⟩ <;> simpa [hevent] using hcommand
          · intro key hmem
            have hset : .argument key .erased ∈ set := by
              rcases hevent with hevent | ⟨t, hevent⟩ <;> simpa [hevent] using hmem
            exact ⟨t, rfl, herased key hset⟩

theorem consume_option (h : takeReading specs spec spelling attached rest = .ok (events, after))
    (shape : OperandShape) (argument : Text) :
    consume specs shape ((argument, .option spec spelling attached) :: rest) =
      (consume specs shape after).after events := by
  rw [consume]
  split
  · next herror => simp [herror] at h
  · next hok =>
    obtain ⟨rfl, rfl⟩ := by simpa [hok] using h
    rfl

/-- One of the options has a text attached that ends in a separator. -/
def AttachesSeparator (readings : List (Text × Reading κ)) : Prop :=
  ∃ argument spec spelling t,
    (argument, .option spec spelling (some t)) ∈ readings ∧ separatorText <:+ t

theorem AttachesSeparator.mono {part : List (Text × Reading κ)} (h : AttachesSeparator part)
    (hsub : part ⊆ readings) : AttachesSeparator readings := by
  obtain ⟨argument, spec, spelling, t, hmem, hsuffix⟩ := h
  exact ⟨argument, spec, spelling, t, hsub hmem, hsuffix⟩

theorem mem_events_after {event : Event κ} {t : Trace κ} :
    event ∈ (t.after events).events ↔ event ∈ events ∨ event ∈ t.events :=
  List.mem_append

theorem attachesSeparator_of_consume {shape : OperandShape}
    (h : .argument key .erased ∈ (consume specs shape readings).events) :
    AttachesSeparator readings := by
  have hloose (first : Text × Reading κ) (rest : List (Text × Reading κ)) :
      rest.dropWhile isLoose ⊆ first :: rest :=
    List.subset_cons_of_subset _ (List.dropWhile_subset _)
  fun_induction consume specs shape readings with
  | case1 => simp at h
  | case2 shape argument rest ih =>
    have hrest := (mem_events_after.mp h).resolve_left (by simp)
    exact (ih hrest).mono (List.subset_cons_self _ _)
  | case3 => simp [Trace.fail] at h
  | case4 shape argument spec spelling attached rest events after htake _ ih =>
    obtain ⟨-, herased, taken, rfl, -⟩ := takeReading_eq_ok htake
    rcases mem_events_after.mp h with hfirst | hrest
    · obtain ⟨t, rfl, hsuffix⟩ := herased key hfirst
      exact ⟨argument, spec, spelling, t, List.mem_cons_self, hsuffix⟩
    · apply (ih hrest).mono
      exact List.subset_cons_of_subset _ (List.subset_append_right _ _)
  | case5 first rest _ _ row _ _ ih =>
    have hrest := (mem_events_after.mp h).resolve_left (by simp)
    exact (ih hrest).mono (hloose first rest)
  | case6 => simp at h
  | case7 first rest _ _ row _ shape _ _ ih =>
    have hrest := (mem_events_after.mp h).resolve_left (by simp)
    exact (ih hrest).mono (hloose first rest)

theorem isLoose_of_ne {first : Text × Reading κ}
    (hunknown : ∀ argument, first = (argument, .unknownOption) → False)
    (hoption : ∀ argument spec spelling attached,
      first = (argument, .option spec spelling attached) → False) : isLoose first := by
  obtain ⟨argument, reading⟩ := first
  cases reading with
  | separator | plain => rfl
  | option spec spelling attached => exact (hoption argument spec spelling attached rfl).elim
  | unknownOption => exact (hunknown argument rfl).elim

theorem consume_loose {first : Text × Reading κ} (hfirst : isLoose first)
    (rest : List (Text × Reading κ)) :
    consume specs .command (first :: rest) =
      if (first :: rest.takeWhile isLoose).any isPlain then
        ⟨[.command ((first :: rest).map (·.1))], none⟩
      else (consume specs .command (rest.dropWhile isLoose)).after
        ((first :: rest.takeWhile isLoose).map fun argument => .stray argument.1) := by
  have hunknown : ∀ argument, first = (argument, .unknownOption) → False := by
    rintro argument rfl
    simp [isLoose] at hfirst
  have hoption : ∀ argument spec spelling attached,
      first = (argument, .option spec spelling attached) → False := by
    rintro argument spec spelling attached rfl
    simp [isLoose] at hfirst
  split
  · next hplain => simp only [consume, hplain]
  · next hplain =>
    rw [Bool.not_eq_true] at hplain
    simp only [consume, hplain, Bool.false_eq_true, imp_false, not_false_eq_true, implies_true]

/-- A command takes all arguments from its first one on. What stands behind that one does not matter
for the arguments in front. -/
theorem consume_command (h : .command arguments ∈ (consume specs .command readings).events) :
    ∃ front first rest events, readings = front ++ first :: rest ∧ isLoose first ∧
      arguments = (first :: rest).map (·.1) ∧
      ∀ rest', (first :: rest'.takeWhile isLoose).any isPlain ∨ rest' = rest →
        consume specs .command (front ++ first :: rest') =
          ⟨events ++ [.command ((first :: rest').map (·.1))], none⟩ := by
  generalize hshape : OperandShape.command = shape at h
  fun_induction consume specs shape readings with
  | case1 => simp at h
  | case2 shape argument rest ih =>
    subst hshape
    have hrest := (mem_events_after.mp h).resolve_left (by simp)
    obtain ⟨front, first, back, events, rfl, hfirst, rfl, hcommand⟩ := ih rfl hrest
    refine ⟨(argument, .unknownOption) :: front, first, back, .stray argument :: events, rfl,
      hfirst, rfl, ?_⟩
    intro rest' hrest'
    rw [List.cons_append, consume, hcommand rest' hrest']
    rfl
  | case3 => simp [Trace.fail] at h
  | case4 shape argument spec spelling attached rest events after htake _ ih =>
    subst hshape
    obtain ⟨hset, -, taken, rfl, hother⟩ := takeReading_eq_ok htake
    have hrest := (mem_events_after.mp h).resolve_left (hset arguments)
    obtain ⟨front, first, back, others, rfl, hfirst, rfl, hcommand⟩ := ih rfl hrest
    refine ⟨(argument, .option spec spelling attached) :: (taken ++ front), first, back,
      events ++ others, by simp, hfirst, rfl, ?_⟩
    intro rest' hrest'
    rw [List.cons_append, List.append_assoc, consume_option (hother _), hcommand rest' hrest',
      Trace.after, List.append_assoc]
  | case5 => simp at hshape
  | case6 first rest hunknown hoption row hle hplain =>
    refine ⟨[], first, rest, [], rfl, isLoose_of_ne hunknown hoption, by simpa using h, ?_⟩
    intro rest' hrest'
    have hplain' : (first :: rest'.takeWhile isLoose).any isPlain := by
      rcases hrest' with hrest' | rfl
      · exact hrest'
      · exact hplain
    rw [List.nil_append, consume_loose (isLoose_of_ne hunknown hoption), if_pos hplain']
    rfl
  | case7 first rest hunknown hoption row hle shape _ hnot ih =>
    subst hshape
    have hrest := (mem_events_after.mp h).resolve_left (by simp)
    obtain ⟨front, second, back, events, hdrop, hsecond, rfl, hcommand⟩ := ih rfl hrest
    have hsplit := List.takeWhile_append_dropWhile (p := isLoose) (l := rest)
    have hhead := List.head?_dropWhile_not isLoose rest
    rw [hdrop] at hhead
    -- the row of loose arguments ends in front of an option, and so it keeps its end
    cases front with
    | nil => simp [hsecond] at hhead
    | cons other front =>
      have hother : isLoose other = false := by simpa using hhead
      have hloose : ∀ argument ∈ rest.takeWhile isLoose, isLoose argument :=
        fun argument hmem => List.mem_takeWhile_imp hmem
      refine ⟨first :: (rest.takeWhile isLoose ++ other :: front), second, back,
        row.map (fun argument => .stray argument.1) ++ events, ?_, hsecond, rfl, ?_⟩
      · rw [List.cons_append, List.append_assoc, ← hdrop, hsplit]
      · intro rest' hrest'
        rw [List.cons_append, List.append_assoc, consume_loose (isLoose_of_ne hunknown hoption),
          List.takeWhile_append_of_pos hloose, List.dropWhile_append_of_pos hloose,
          List.cons_append, List.takeWhile_cons_of_neg (by simp [hother]),
          List.dropWhile_cons_of_neg (by simp [hother]), List.append_nil,
          if_neg fun hplain => hnot rfl hplain, ← List.cons_append, hcommand rest' hrest',
          Trace.after, List.append_assoc]

/-- An argument that stands among others leaves their readings alone. -/
theorem readArguments_insert {front back : List (Text × Reading κ)}
    (h : readArguments specs arguments = .ok (front ++ back)) (hne : argument ≠ separatorText)
    (hread : readArgument specs argument = .ok reading) :
    ∃ found, readArguments specs (front.map (·.1) ++ argument :: back.map (·.1)) =
      .ok (front ++ (argument, found) :: back) := by
  induction front generalizing arguments with
  | nil =>
    obtain rfl := map_fst_readArguments h
    exact ⟨reading, (readArguments_cons_eq_ok_iff hne).mpr ⟨reading, back, hread, h, rfl⟩⟩
  | cons first front ih =>
    obtain rfl := map_fst_readArguments h
    rw [List.cons_append, List.map_cons] at h
    by_cases hfirst : first.1 = separatorText
    · -- behind the separator every argument is plain, and so is the new one
      refine ⟨.plain, ?_⟩
      rw [hfirst, readArguments_separator] at h
      obtain ⟨hhead, htail⟩ := List.cons.inj (Except.ok.inj h)
      obtain ⟨front', back', hsides, rfl, rfl⟩ := List.map_eq_append_iff.mp htail
      rw [List.map_cons, List.cons_append, hfirst, readArguments_separator, ← hhead]
      simp [Function.comp_def]
    · obtain ⟨found, others, hfound, hothers, hsame⟩ := (readArguments_cons_eq_ok_iff hfirst).mp h
      obtain ⟨hhead, rfl⟩ := List.cons.inj hsame
      obtain ⟨inserted, hinserted⟩ := ih hothers
      exact ⟨inserted, (readArguments_cons_eq_ok_iff hfirst).mpr
        ⟨found, _, hfound, hinserted, by rw [← hhead]; rfl⟩⟩

/-- A separator that is attached to an option ends an argument that is longer. -/
theorem exists_endsInSeparator_of_trace {shape : OperandShape}
    (h : .argument key .erased ∈ (trace specs shape arguments).events) :
    ∃ argument ∈ arguments, EndsInSeparator argument := by
  unfold trace at h
  split at h
  · simp [Trace.fail] at h
  · next readings hreadings =>
    obtain ⟨argument, spec, spelling, t, hmem, hsuffix⟩ := attachesSeparator_of_consume h
    obtain ⟨hargument, hne, hattached⟩ := attached_of_mem hreadings hmem
    exact ⟨argument, hargument, hsuffix.trans (hattached t rfl), hne⟩

end Forwarding.CommandLine
