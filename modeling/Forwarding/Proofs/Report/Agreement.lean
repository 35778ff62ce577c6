import Forwarding.Proofs.CommandLine.Endings
import Forwarding.Proofs.Report.Layout
import Forwarding.Proofs.Resolver.Provenance
import Forwarding.Proofs.Resolver.Session

/-!
A report agrees with the resolution that it explains. Its filter leaves out no header with a value,
a resolved address stands in one of its rows, and it ends with what a run without a report writes.
-/
namespace Forwarding

/-- A candidate as it is read from a header set: it has the value of its role, if it has a role, and
an address only with a value. -/
structure Candidate.IsOf (h : HeaderSet) (c : Candidate) : Prop where
  raw_eq : ∀ role ∈ c.role, c.raw = h.value role
  raw_ne : c.literal ≠ none → c.raw ≠ none

variable {config : Config} {h : HeaderSet} {found : List Candidate} {l : Literal}

theorem ValueForm.choose?_eq_none {form : ValueForm} {raw : Option Text}
    (hraw : raw.bind Text.nonempty? = none) : form.choose? raw = none := by
  rw [choose?, hraw, Option.bind_none]

namespace Resolver

theorem isOf_candidateOf (h : HeaderSet) (role : Role) : (candidateOf h role).IsOf h where
  raw_eq role' hrole := by
    obtain rfl := Option.some.inj hrole
    rfl
  raw_ne hliteral hnone := by
    have hvalue : h.value role = none := hnone
    apply hliteral
    rw [candidateOf, ← choose?_value, hvalue]
    rfl

theorem isOf_nominated (h : HeaderSet) (name : Text) (raw : Option Text) :
    (⟨name, raw.bind Text.nonempty?,
      ValueForm.forwarded.choose? raw <|> ValueForm.plain.choose? raw, none⟩ :
        Candidate).IsOf h where
  raw_eq := by simp
  raw_ne hliteral hnone := by
    apply hliteral
    simp [ValueForm.choose?_eq_none hnone]

theorem exists_mode (config : Config) (h : HeaderSet) :
    ∃ chosen, mode config h.accessor = .ok chosen := by
  unfold mode HeaderSet.accessor
  cases config.trusted with
  | some name => exact ⟨_, rfl⟩
  | none =>
    simp only [bind, Except.bind]
    split <;> exact ⟨_, rfl⟩

theorem candidates_accessor (hmode : mode config h.accessor = .ok .fixed) :
    candidates config h.accessor = .ok (Role.all.map (candidateOf h), []) := by
  simp only [candidates, hmode, fixedCandidates_accessor, bind, Except.bind, pure, Except.pure]

/-- The candidates of a header set can always be read, and a resolved address is one of theirs. -/
theorem exists_candidates (config : Config) (h : HeaderSet) :
    ∃ found logs, candidates config h.accessor = .ok (found, logs) ∧ (∀ c ∈ found, c.IsOf h) ∧
      ∀ span l, (resolve config (some h.accessor) span).result = some l →
        ∃ c ∈ found, c.literal = some l := by
  obtain ⟨chosen, hmode⟩ := exists_mode config h
  cases chosen with
  | custom name =>
    obtain ⟨raw, logs, -, hcandidate⟩ := customCandidate_accessor h name
    refine ⟨_, logs, ?_, fun c hc => List.mem_singleton.mp hc ▸ isOf_nominated h name raw, ?_⟩
    · simp only [candidates, hmode, hcandidate, bind, Except.bind, pure, Except.pure]
    · intro span l hresult
      simp only [resolve, attempt, hmode, hcandidate, Attempt.contain] at hresult
      exact ⟨_, List.mem_singleton_self _, hresult⟩
  | fixed =>
    refine ⟨Role.all.map (candidateOf h), [], candidates_accessor hmode, ?_, ?_⟩
    · intro c hc
      obtain ⟨role, -, rfl⟩ := List.mem_map.mp hc
      exact isOf_candidateOf h role
    · intro span l hresult
      simp only [resolve, attempt, hmode, fixedCandidates_accessor] at hresult
      exact exists_of_conclude hresult

/-- The tag of a resolution consists of short names. -/
theorem isLine_tag {headers : Accessor} {tag : Text}
    (htag : (resolve config (some headers) (some (Span.fresh none))).span.bind
      (·.tag? multipleHeadersKey) = some tag) : Text.IsLine tag := by
  have hnames : ∀ role : Role, Text.IsLine role.shortName := by
    intro role
    cases role <;> decide
  have hspan := span_resolve ⟨config, some headers⟩ (some (Span.fresh none))
  unfold Request.resolve at hspan
  rw [hspan] at htag
  split at htag
  · simp [Span.tag?, Span.fresh] at htag
  · next found hfound =>
    obtain rfl : found = tag := by simpa [Span.tag?, Span.setTag, Span.fresh, Span.put] using htag
    unfold Request.tag? at hfound
    simp only [Option.ite_none_right_eq_some] at hfound
    obtain rfl := Option.some.inj hfound.2
    intro c hc
    rcases Text.mem_intercalate hc with rfl | ⟨name, hname, hmem⟩
    · decide
    · obtain ⟨role, -, rfl⟩ := List.mem_map.mp hname
      exact hnames role c hmem

end Resolver

namespace Report

inductive IsTable (width : Nat) : List Candidate → Text → Prop
  | nil : IsTable width [] []
  | cons {c : Candidate} {rows : List Candidate} {told below : Text} (htells : Tells c told)
      (hbelow : IsTable width rows below) :
      IsTable width (c :: rows) (c.header.rightpad width ' ' ++ "  " ++ c.raw.getD "-" ++ "\n" ++
        List.replicate (width + 2) ' ' ++ "-> " ++ told ++ "\n" ++ below)

theorem isTable_flatMap_row (width : Nat) (rows : List Candidate) :
    IsTable width rows (rows.flatMap (row width)) := by
  induction rows with
  | nil => exact .nil
  | cons c rows ih =>
    rw [List.flatMap_cons, row_text]
    exact .cons (tells_outcome c) ih

theorem IsTable.eq_flatMap_row {width : Nat} {rows : List Candidate} {t : Text}
    (h : IsTable width rows t) : t = rows.flatMap (row width) := by
  induction h with
  | nil => rfl
  | cons htells _ ih => rw [List.flatMap_cons, row_text, ← ih, htells.eq_outcome]

theorem IsTable.exists_row {width : Nat} {rows : List Candidate} {t told : Text} {c : Candidate}
    (h : IsTable width rows t) (hc : c ∈ rows) (htells : Tells c told) :
    ∃ above below, t = above ++ (c.header.rightpad width ' ' ++ "  " ++ c.raw.getD "-" ++ "\n" ++
      List.replicate (width + 2) ' ' ++ "-> " ++ told ++ "\n") ++ below := by
  induction h with
  | nil => simp at hc
  | @cons c' rows told' below htells' _ ih =>
    rcases List.mem_cons.mp hc with rfl | hc
    · rw [htells'.eq_outcome, ← htells.eq_outcome]
      exact ⟨[], below, rfl⟩
    · obtain ⟨above, rest, hbelow⟩ := ih hc
      rw [hbelow, ← List.append_assoc, ← List.append_assoc]
      exact ⟨_, rest, rfl⟩

theorem isPresent_of_isOf {c : Candidate} (hc : c.IsOf h) :
    isPresent (some h.present) c = isPresent none c := by
  rw [Bool.eq_iff_iff, isPresent_iff, isPresent_iff]
  unfold IsVisible
  simp only [Option.mem_def, Option.some.injEq, forall_eq', reduceCtorEq, false_implies,
    implies_true, and_true, and_iff_left_iff_imp]
  intro hraw role hrole
  rw [hc.raw_eq role hrole] at hraw
  exact List.mem_filter.mpr ⟨role.mem_all, by simpa [Option.isSome_iff_ne_none] using hraw⟩

/-- The filter by present roles leaves out no candidate that has a value. -/
theorem shown_present (hfound : ∀ c ∈ found, c.IsOf h) :
    shown found (some h.present) = shown found none := by
  have hfilter : found.filter (isPresent (some h.present)) = found.filter (isPresent none) :=
    List.filter_congr fun c hc => isPresent_of_isOf (hfound c hc)
  rw [shown, shown, hfilter]

theorem mem_visible {c : Candidate} (hc : c ∈ found) (hraw : c.raw ≠ none) :
    c ∈ visible found none := by
  exact List.mem_filter.mpr ⟨hc, decide_eq_true (Or.inl ⟨hraw, by simp⟩)⟩

/-- The rows of a report are whole lines. -/
theorem lines_rows_append (width : Nat) (rows : List Candidate) (rest : Text) :
    Text.lines (rows.flatMap (row width) ++ rest) =
      Text.lines (rows.flatMap (row width)) ++ Text.lines rest := by
  rcases List.eq_nil_or_concat rows with rfl | ⟨front, c, rfl⟩
  · rfl
  · obtain ⟨t, ht⟩ : ∃ t, row width c = t ++ ['\n'] := ⟨_, rfl⟩
    rw [List.concat_eq_append, List.flatMap_append, List.flatMap_singleton, ht, ← List.append_assoc,
      List.append_assoc, List.singleton_append, Text.lines_append_lineFeed]

end Report

namespace CommandLine

variable {s : Surroundings} {path : Option Operand} {verbose : Bool} {options : ResolveOptions}
  {trusted : Option Text} {lines : List Text} {halt : Halt}

def tagFrom (trusted : Option Text) (lines : List Text) : Option Text :=
  (Resolver.resolve ⟨trusted⟩ (some (HeaderSet.ofLines lines trusted).accessor)
    (some (.fresh none))).span.bind (·.tag? multipleHeadersKey)

theorem stdout_resolveLines_plain (trusted : Option Text) (verbose : Bool) (lines : List Text) :
    (resolveLines trusted verbose false lines).stdout =
      Report.resultText (resolvedFrom trusted lines) ++
        '\n' :: Report.tagLine (tagFrom trusted lines) :=
  List.append_assoc _ ['\n'] _

/-- Below its table a report is what a run without a report writes. -/
theorem stdout_resolveLines_report {logs : List LogRecord} (verbose : Bool)
    (h : Resolver.candidates ⟨trusted⟩ (HeaderSet.ofLines lines trusted).accessor =
      .ok (found, logs)) (hfound : ∀ c ∈ found, c.IsOf (HeaderSet.ofLines lines trusted)) :
    (resolveLines trusted verbose true lines).stdout =
      (Report.visible found none).flatMap
          (Report.row (Report.widest (Report.visible found none))) ++
        ("client ip: " ++ (resolveLines trusted verbose false lines).stdout) := by
  have hreport : (resolveLines trusted verbose true lines).stdout =
      Report.render found (resolvedFrom trusted lines) (tagFrom trusted lines)
        (some (HeaderSet.ofLines lines trusted).present) := by
    unfold resolveLines showResolution
    simp only [if_true]
    rw [h]
    rfl
  rw [hreport, stdout_resolveLines_plain, Report.render, Report.shown_present hfound,
    Report.shown_eq_visible, Report.nameWidth_eq_widest]
  simp only [List.append_assoc]
  rfl

/-- A text in front of a run's result is in the same line. -/
theorem lines_label {label : Text} (hlabel : Text.IsLine label) (trusted : Option Text)
    (verbose : Bool) (lines : List Text) :
    Text.lines (label ++ (resolveLines trusted verbose false lines).stdout) =
      (label ++ Report.resultText (resolvedFrom trusted lines)) ::
        Report.tagLines (tagFrom trusted lines) := by
  have htags : ∀ t ∈ Report.tagLines (tagFrom trusted lines), Text.IsLine t := fun t ht =>
    Report.isLine_of_mem_tagLines (fun tag htag => Resolver.isLine_tag htag) ht
  have hread := Text.lines_flatMap htags []
  rw [List.append_nil, Text.lines_nil, List.append_nil] at hread
  rw [stdout_resolveLines_plain, ← List.append_assoc,
    Text.lines_line (hlabel.append (Report.isLine_resultText _)), Report.tagLine_eq]
  exact congrArg _ hread

/-- A run that is not cut short has a configuration and header lines. -/
theorem exists_lines_of_runResolve {i : Invocation} {o : Outcome}
    (h : runResolve s i options = .ok o) :
    ∃ config lines, loadConfig s i.config = .ok config ∧ headerLines s options = .ok lines ∧
      o = resolveLines (withTrusted config options.trustHeader).trusted i.verbose options.report
        lines := by
  cases hload : loadConfig s i.config with
  | error halt =>
    have hfails : runResolve s i options = .error halt :=
      runResolve_eq_error_iff.mpr (Or.inl hload)
    simp [hfails] at h
  | ok config =>
    rw [runResolve_of_loadConfig hload] at h
    cases hlines : headerLines s options with
    | error halt => simp [hlines, Except.map] at h
    | ok lines =>
      rw [hlines] at h
      exact ⟨config, lines, rfl, rfl, (Except.ok.inj h).symm⟩

/-- A report agrees with the resolution that it explains. Its filter by the headers at hand leaves
out no row, and the address that a header set resolves to is the one of a row. A run that asks for a
report in addition ends as before: the report has the rows of the candidates, and below them the
lines of the other run, the first of them with a label. The report option behind the word of the
command asks for just that. -/
theorem report_agrees :
    (∀ (config : Config) (h : HeaderSet), ∃ found logs table,
      let rows := Report.visible found none
      let width := Report.widest rows
      Resolver.candidates config h.accessor = .ok (found, logs) ∧ Report.IsTable width rows table ∧
      (∀ result tag, Report.render found result tag (some h.present) =
          Report.render found result tag none ∧
        table <+: Report.render found result tag none) ∧
      ∀ span l, (Resolver.resolve config (some h.accessor) span).result = some l →
        ∃ c ∈ rows, ∃ raw above below, c.literal = some l ∧ c.raw = some raw ∧
          table = above ++ (c.header.rightpad width ' ' ++ "  " ++ raw ++ "\n" ++
            List.replicate (width + 2) ' ' ++ "-> " ++ (l.address.render ++
              if l.address.isPrivate then (" (private)" : Text) else " (public)") ++ "\n") ++
              below) ∧
    (∀ (s : Surroundings) (path : Option Operand) (verbose : Bool) (options : ResolveOptions),
      let run (report : Bool) :=
        runCommand s ⟨path, verbose, .resolve { options with report := report }⟩
      (∀ halt, run true = .error halt ↔ run false = .error halt) ∧
      ∀ plain, run false = .ok plain → ∃ config lines found logs table reported first tags,
        let trusted := (withTrusted config options.trustHeader).trusted
        let rows := Report.visible found none
        loadConfig s path = .ok config ∧ headerLines s options = .ok lines ∧
        Resolver.candidates ⟨trusted⟩ (HeaderSet.ofLines lines trusted).accessor =
          .ok (found, logs) ∧
        run true = .ok reported ∧ reported.status = plain.status ∧
        Report.IsTable (Report.widest rows) rows table ∧
        reported.stdout = table ++ ("client ip: " ++ plain.stdout) ∧
        Text.lines plain.stdout = first :: tags ∧
        (tags = [] ∨ ∃ tag, tags = [multipleHeadersKey ++ ": " ++ tag]) ∧
        Text.lines reported.stdout = Text.lines table ++ ("client ip: " ++ first) :: tags) ∧
    ∀ arguments i options, Invocation.read arguments = .ok i → i.command = .resolve options →
      ∃ front rest, arguments = front ++ ("resolve" : Text) :: rest ∧
        Invocation.read (front ++ ("resolve" : Text) :: ("--report" : Text) :: rest) =
          .ok { i with command := .resolve { options with report := true } } := by
  refine ⟨?_, ?_, fun arguments i options => Invocation.read_report⟩
  · intro config h
    obtain ⟨found, logs, hfound, hof, hresult⟩ := Resolver.exists_candidates config h
    have htable := Report.isTable_flatMap_row (Report.widest (Report.visible found none))
      (Report.visible found none)
    refine ⟨found, logs, _, hfound, htable, ?_, ?_⟩
    · intro result tag
      refine ⟨by rw [Report.render, Report.render, Report.shown_present hof], ?_⟩
      rw [Report.render, Report.shown_eq_visible, Report.nameWidth_eq_widest]
      simp only [List.append_assoc]
      exact List.prefix_append _ _
    · intro span l hl
      obtain ⟨c, hc, hliteral⟩ := hresult span l hl
      have hpresent : c.raw ≠ none := (hof c hc).raw_ne (by simp [hliteral])
      obtain ⟨raw, hraw⟩ := Option.ne_none_iff_exists'.mp hpresent
      have hrow : c ∈ Report.visible found none := Report.mem_visible hc hpresent
      obtain ⟨above, below, hplace⟩ := htable.exists_row hrow (.address hpresent hliteral)
      rw [hraw] at hplace
      exact ⟨c, hrow, raw, above, below, hliteral, hraw, hplace⟩
  · intro s path verbose options run
    refine ⟨?_, ?_⟩
    · intro halt
      have hhalt (report : Bool) : run report = .error halt ↔ loadConfig s path = .error halt ∨
          ∃ config, loadConfig s path = .ok config ∧ headerLines s options = .error halt :=
        runResolve_eq_error_iff
      exact (hhalt true).trans (hhalt false).symm
    · intro plain hplain
      obtain ⟨config, lines, hload, hlines, rfl⟩ := exists_lines_of_runResolve hplain
      have hlines : headerLines s options = .ok lines := hlines
      let trusted := (withTrusted config options.trustHeader).trusted
      obtain ⟨found, logs, hfound, hof, -⟩ :=
        Resolver.exists_candidates ⟨trusted⟩ (HeaderSet.ofLines lines trusted)
      have hreport : run true = .ok (resolveLines trusted verbose true lines) := by
        refine (runResolve_of_loadConfig hload).trans ?_
        change (headerLines s options).map _ = _
        rw [hlines]
        rfl
      have hstdout := stdout_resolveLines_report verbose hfound hof
      have hlabel : Text.IsLine "client ip: " := by decide
      have hnone : Text.IsLine [] := by decide
      refine ⟨config, lines, found, logs, _, _, _, _, hload, hlines, hfound, hreport, ?_,
        Report.isTable_flatMap_row _ _, hstdout, lines_label hnone trusted verbose lines,
        Report.tagLines_cases _, ?_⟩
      · rw [status_resolveLines, status_resolveLines]
      · rw [hstdout, Report.lines_rows_append]
        exact congrArg _ (lines_label hlabel trusted verbose lines)

/-- Two headers with an address each: the public one is resolved and stands in a row, and the tag
follows the result in both runs. -/
theorem report_agrees_tagged :
    let h := HeaderSet.ofLines ["X-Forwarded-For: 10.0.0.1", "Via: 1.1 8.8.8.8"] none
    let s : Surroundings := ⟨(FileTree.ofEntries []).access, none, []⟩
    let arguments : List Text := ["resolve", "-HX-Forwarded-For: 10.0.0.1", "-HVia: 1.1 8.8.8.8"]
    let options : ResolveOptions :=
      ⟨[.text "X-Forwarded-For: 10.0.0.1", .text "Via: 1.1 8.8.8.8"], none, none, false⟩
    let i (report : Bool) : Invocation := ⟨none, false, .resolve { options with report := report }⟩
    (∃ found logs l, Resolver.candidates ⟨none⟩ h.accessor = .ok (found, logs) ∧
      l.address.render = "8.8.8.8".toList ∧ l.address.isPrivate = false ∧
      ∃ c ∈ Report.visible found none, ∃ raw above below,
        c.literal = some l ∧ c.raw = some raw ∧
          Report.render found (some l) none (some h.present) =
            above ++ (c.header.rightpad 15 ' ' ++ "  " ++ raw ++
              "\n                 -> 8.8.8.8 (public)\n") ++ below) ∧
    (∃ reported, runCommand s (i true) = .ok reported ∧ reported.status = 0 ∧
      reported.stdout =
        "X-Forwarded-For  10.0.0.1\n                 -> 10.0.0.1 (private)\n".toList ++
        "Via              1.1 8.8.8.8\n                 -> 8.8.8.8 (public)\n" ++
        "client ip: 8.8.8.8\n_dd.multiple-ip-headers: via,x-forward-for\n") ∧
    ∃ front rest, arguments = front ++ ("resolve" : Text) :: rest ∧
      Invocation.read (front ++ ("resolve" : Text) :: ("--report" : Text) :: rest) =
        .ok (i true) := by
  intro h s arguments options i
  obtain ⟨hrows, hruns, hreads⟩ := report_agrees
  have hread : Invocation.read arguments = .ok (i false) := by decide +kernel
  have hcandidates : Resolver.candidates ⟨none⟩ h.accessor =
      .ok (Role.all.map (Resolver.candidateOf h), []) :=
    Resolver.candidates_accessor (by decide +kernel)
  have hwidth :
      Report.widest (Report.visible (Role.all.map (Resolver.candidateOf h)) none) = 15 := by
    decide +kernel
  refine ⟨?_, ?_, hreads _ _ _ hread rfl⟩
  · obtain ⟨found, logs, table, hfound, -, hrender, hresult⟩ := hrows ⟨none⟩ h
    obtain ⟨rfl, rfl⟩ := Prod.mk.inj (Except.ok.inj (hcandidates.symm.trans hfound))
    have hsome : (Resolver.resolve ⟨none⟩ (some h.accessor) none).result.map
        (fun l => (l.address.render, l.address.isPrivate)) = some ("8.8.8.8".toList, false) := by
      decide +kernel
    obtain ⟨l, hl, hshown⟩ := Option.map_eq_some_iff.mp hsome
    obtain ⟨hwritten, hprivate⟩ := Prod.mk.inj hshown
    obtain ⟨c, hc, raw, above, below, hliteral, hraw, hplace⟩ := hresult none l hl
    obtain ⟨hpresent, rest, hrest⟩ := hrender (some l) none
    refine ⟨_, _, l, hcandidates, hwritten, hprivate, c, hc, raw, above, below ++ rest, hliteral,
      hraw, ?_⟩
    rw [hpresent, ← hrest, hplace, hwidth, hwritten, hprivate]
    simp only [List.append_assoc]
    rfl
  · have hplain : runCommand s (i false) =
        .ok ⟨0, "8.8.8.8\n_dd.multiple-ip-headers: via,x-forward-for\n", []⟩ := by decide +kernel
    have hload : loadConfig s none = .ok ⟨none⟩ := by decide +kernel
    obtain ⟨config, lines, found, logs, table, reported, first, tags, hconfig, hlines, hfound,
      hreported, hstatus, htable, hstdout, -⟩ := (hruns s none false options).2 _ hplain
    obtain rfl := Except.ok.inj (hload.symm.trans hconfig)
    obtain rfl := Except.ok.inj hlines
    obtain ⟨rfl, rfl⟩ := Prod.mk.inj (Except.ok.inj (hcandidates.symm.trans hfound))
    refine ⟨reported, hreported, hstatus, ?_⟩
    rw [hstdout, htable.eq_flatMap_row, hwidth]
    decide +kernel

end CommandLine
end Forwarding
