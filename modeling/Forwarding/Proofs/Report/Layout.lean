import Forwarding.Proofs.Address.Canonical
import Forwarding.Proofs.Text.Lines
import Forwarding.Report

/-!
The layout of a report. Its lines stand in fixed places, so that its text alone tells the raw values
and the result that it shows, whatever the raw values hold.
-/
namespace Forwarding

theorem Address.isLine_render (a : Address) : Text.IsLine a.render := by
  have hchars : Text.IsLine (':' :: addressChars) := by decide
  intro c hc
  apply hchars c
  obtain ⟨family, bytes, hlen⟩ := a
  cases family with
  | ipv4 =>
    exact List.mem_cons_of_mem _ (List.mem_cons.mpr ((Dotted.isQuad_render hlen).mem_chars hc))
  | ipv6 =>
    have hcanonical := Groups.isCanonicalGroups_render bytes
    exact (Groups.isGroups_of_isCanonicalGroups hlen hcanonical).mem_chars hc

namespace Report

/-- The header has a value, and its role, if it has one, is among the present ones, if these are
given. -/
def IsVisible (present : Option (List Role)) (c : Candidate) : Prop :=
  c.raw ≠ none ∧ ∀ roles ∈ present, ∀ role ∈ c.role, role ∈ roles

instance (present : Option (List Role)) (c : Candidate) : Decidable (IsVisible present c) := by
  unfold IsVisible
  infer_instance

/-- The visible candidates, or all of them when none is visible. -/
def visible (candidates : List Candidate) (present : Option (List Role)) : List Candidate :=
  candidates.filter fun c => IsVisible present c ∨ ∀ other ∈ candidates, ¬IsVisible present other

def widest (candidates : List Candidate) : Nat :=
  (candidates.map (·.header.length)).max?.getD 0

inductive Tells (c : Candidate) : Text → Prop
  | absent (hraw : c.raw = none) : Tells c "absent"
  | noAddress (hraw : c.raw ≠ none) (hliteral : c.literal = none) : Tells c "no address"
  | address {l : Literal} (hraw : c.raw ≠ none) (hliteral : c.literal = some l) :
      Tells c
        (l.address.render ++ if l.address.isPrivate then (" (private)" : Text) else " (public)")

def rowLines (width : Nat) (c : Candidate) : List Text :=
  [c.header.rightpad width ' ' ++ "  " ++ c.raw.getD "-",
    List.replicate (width + 2) ' ' ++ "-> " ++ outcome c]

def tagLines (tag : Option Text) : List Text :=
  (tag.bind Text.nonempty?).toList.map fun tag => multipleHeadersKey ++ ": " ++ tag

def closingLines (result : Option Literal) (tag : Option Text) : List Text :=
  ("client ip: " ++ resultText result) :: tagLines tag

def reportLines (rows : List Candidate) (result : Option Literal) (tag : Option Text) : List Text :=
  rows.flatMap (rowLines (widest rows)) ++ closingLines result tag

/-- The raw values and the result that a text shows, if it is a report. The second line tells how
wide the names are, and the number of lines where the result stands. -/
def readBack (report : Text) : List Text × Option Text :=
  let lines := Text.lines report
  let count := (lines.length - 1) / 2
  let width := ((lines[1]?.getD []).takeWhile (· = ' ')).length
  ((List.range count).map fun i => (lines[2 * i]?.getD []).drop width, lines[2 * count]?)

variable {candidates rows : List Candidate} {present : Option (List Role)} {c : Candidate}

theorem isPresent_iff : isPresent present c ↔ IsVisible present c := by
  unfold isPresent IsVisible
  cases c.raw <;> cases present <;> cases c.role <;> simp

theorem shown_eq_visible (candidates : List Candidate) (present : Option (List Role)) :
    shown candidates present = visible candidates present := by
  unfold shown visible
  have hfound : candidates.filter (isPresent present) =
      candidates.filter fun c => IsVisible present c := by
    apply List.filter_congr
    intro c _
    exact Bool.eq_iff_iff.mpr (isPresent_iff.trans decide_eq_true_iff.symm)
  rw [hfound]
  by_cases h : ∀ other ∈ candidates, ¬IsVisible present other
  · have hnone : candidates.filter (fun c => IsVisible present c) = [] := by
      simpa [List.filter_eq_nil_iff] using h
    rw [hnone, if_pos rfl]
    exact (List.filter_eq_self.mpr fun c _ => decide_eq_true (Or.inr h)).symm
  · have hsome : candidates.filter (fun c => IsVisible present c) ≠ [] := by
      simpa [List.filter_eq_nil_iff] using h
    simp [hsome, h]

theorem Tells.eq_outcome {t : Text} (h : Tells c t) : t = outcome c := by
  cases h with
  | absent hraw => rw [outcome, hraw]
  | noAddress hraw hliteral =>
    obtain ⟨raw, hraw⟩ := Option.ne_none_iff_exists'.mp hraw
    rw [outcome, hraw, hliteral]
  | @address l hraw hliteral =>
    obtain ⟨raw, hraw⟩ := Option.ne_none_iff_exists'.mp hraw
    have hword : " (" ++ l.address.privacy.word ++ ")" =
        if l.address.isPrivate then (" (private)" : Text) else " (public)" := by
      rw [Address.privacy]
      cases l.address.isPrivate <;> rfl
    rw [← hword, outcome, Candidate.privacy?, hraw, hliteral]
    simp only [Option.map_some, List.append_assoc]

/-- The outcome is what is told of a candidate. -/
theorem tells_outcome (c : Candidate) : Tells c (outcome c) := by
  obtain ⟨t, ht⟩ : ∃ t, Tells c t := by
    by_cases hraw : c.raw = none
    · exact ⟨_, .absent hraw⟩
    · cases hliteral : c.literal with
      | none => exact ⟨_, .noAddress hraw hliteral⟩
      | some l => exact ⟨_, .address hraw hliteral⟩
  rwa [← ht.eq_outcome]

theorem nameWidth_eq_widest (rows : List Candidate) : nameWidth rows = widest rows := by
  cases rows with
  | nil => rfl
  | cons c rows =>
    rw [widest, List.map_cons, List.max?_cons', Option.getD_some, List.foldl_map, nameWidth,
      List.foldl_cons, Nat.zero_max]

theorem length_le_widest (h : c ∈ rows) : c.header.length ≤ widest rows :=
  List.le_max?_getD_of_mem (List.mem_map_of_mem h)

theorem row_text (width : Nat) (c : Candidate) :
    row width c = c.header.rightpad width ' ' ++ "  " ++ c.raw.getD "-" ++ "\n" ++
      List.replicate (width + 2) ' ' ++ "-> " ++ outcome c ++ "\n" := by
  have hblank : Text.padRight width [] ++ [' ', ' '] = List.replicate (width + 2) ' ' := by
    simp [Text.padRight, List.replicate_add]
  have hcell : row width c = c.header.rightpad width ' ' ++ "  " ++ c.raw.getD "-" ++ "\n" ++
      (Text.padRight width [] ++ [' ', ' ']) ++ "-> " ++ outcome c ++ "\n" := by
    simp [row, Text.padRight, List.rightpad]
  rw [hcell, hblank]

theorem row_eq (width : Nat) (c : Candidate) :
    row width c = (rowLines width c).flatMap fun t => t ++ ['\n'] := by
  rw [row_text]
  simp [rowLines]

theorem tagLine_eq (tag : Option Text) :
    tagLine tag = (tagLines tag).flatMap fun t => t ++ ['\n'] := by
  unfold tagLine tagLines
  cases tag.bind Text.nonempty? <;> simp

theorem tagLines_cases (tag : Option Text) :
    tagLines tag = [] ∨ ∃ shown, tagLines tag = [multipleHeadersKey ++ ": " ++ shown] := by
  unfold tagLines
  cases tag.bind Text.nonempty? with
  | none => exact Or.inl rfl
  | some shown => exact Or.inr ⟨shown, rfl⟩

/-- A report is written line by line. -/
theorem render_eq (candidates : List Candidate) (result : Option Literal) (tag : Option Text)
    (present : Option (List Role)) :
    render candidates result tag present =
      (reportLines (visible candidates present) result tag).flatMap fun t => t ++ ['\n'] := by
  have hrows (width : Nat) (rows : List Candidate) :
      rows.flatMap (row width) = (rows.flatMap (rowLines width)).flatMap fun t => t ++ ['\n'] := by
    rw [List.flatMap_assoc]
    exact List.flatMap_congr fun c _ => row_eq width c
  simp only [render, reportLines, closingLines, shown_eq_visible, nameWidth_eq_widest, tagLine_eq,
    hrows, List.flatMap_append, List.flatMap_cons]
  simp

theorem Tells.isLine {t : Text} (h : Tells c t) : Text.IsLine t := by
  cases h with
  | absent => decide
  | noAddress => decide
  | @address l =>
    apply l.address.isLine_render.append
    cases l.address.isPrivate <;> decide

theorem isLine_resultText (result : Option Literal) : Text.IsLine (resultText result) := by
  cases result with
  | none => decide
  | some l => exact l.address.isLine_render

theorem isLine_of_mem_rowLines {width : Nat} {t : Text} (hheader : Text.IsLine c.header)
    (hraw : ∀ raw ∈ c.raw, Text.IsLine raw) (ht : t ∈ rowLines width c) : Text.IsLine t := by
  have hcell : Text.IsLine (c.raw.getD "-") := by
    cases hc : c.raw with
    | none => decide
    | some raw => exact hraw raw hc
  have hgap : Text.IsLine "  " := Text.isLine_spaces 2
  have harrow : Text.IsLine "-> " := by decide
  rcases List.mem_pair.mp ht with rfl | rfl
  · exact ((hheader.append (Text.isLine_spaces _)).append hgap).append hcell
  · exact ((Text.isLine_spaces _).append harrow).append (tells_outcome c).isLine

theorem bind_nonempty?_eq_some_iff {tag : Option Text} {t : Text} :
    tag.bind Text.nonempty? = some t ↔ tag = some t ∧ t ≠ [] := by
  rcases tag with _ | _ | ⟨c, rest⟩ <;> simp +contextual [eq_comm]

theorem isLine_of_mem_tagLines {tag : Option Text} {t : Text} (htag : ∀ t ∈ tag, Text.IsLine t)
    (ht : t ∈ tagLines tag) : Text.IsLine t := by
  obtain ⟨shown, hsome, rfl⟩ := List.mem_map.mp ht
  have hkey : Text.IsLine (multipleHeadersKey ++ ": ") := by decide
  exact hkey.append (htag shown (bind_nonempty?_eq_some_iff.mp (Option.mem_toList.mp hsome)).1)

/-- The lines of a report are found again when what it shows holds no line breaks. -/
theorem lines_render (result : Option Literal) (tag : Option Text)
    (hheader : ∀ c ∈ candidates, Text.IsLine c.header)
    (hraw : ∀ c ∈ candidates, ∀ raw ∈ c.raw, Text.IsLine raw) (htag : ∀ t ∈ tag, Text.IsLine t) :
    Text.lines (render candidates result tag present) =
      reportLines (visible candidates present) result tag := by
  have hlines : ∀ t ∈ reportLines (visible candidates present) result tag, Text.IsLine t := by
    intro t ht
    rcases List.mem_append.mp ht with hrow | hlast
    · obtain ⟨c, hc, ht⟩ := List.mem_flatMap.mp hrow
      have hmem := List.mem_of_mem_filter hc
      exact isLine_of_mem_rowLines (hheader c hmem) (hraw c hmem) ht
    · rcases List.mem_cons.mp hlast with rfl | hshown
      · have hword : Text.IsLine "client ip: " := by decide
        exact hword.append (isLine_resultText result)
      · exact isLine_of_mem_tagLines htag hshown
  have hwritten := Text.lines_flatMap hlines []
  rwa [← render_eq, List.append_nil, Text.lines_nil, List.append_nil] at hwritten

theorem length_flatMap_rowLines (width : Nat) (rows : List Candidate) :
    (rows.flatMap (rowLines width)).length = 2 * rows.length := by
  rw [List.length_flatMap]
  simp [rowLines, Nat.mul_comm]

/-- The two lines of a row stand at twice its number. -/
theorem getElem?_rowLines (width : Nat) {i : Nat} (hi : i < rows.length) (rest : List Text) :
    (rows.flatMap (rowLines width) ++ rest)[2 * i]? =
        some (rows[i].header.rightpad width ' ' ++ "  " ++ rows[i].raw.getD "-") ∧
      (rows.flatMap (rowLines width) ++ rest)[2 * i + 1]? =
        some (List.replicate (width + 2) ' ' ++ "-> " ++ outcome rows[i]) := by
  induction rows generalizing i with
  | nil => simp at hi
  | cons c rows ih =>
    cases i with
    | zero => exact ⟨rfl, rfl⟩
    | succ i => exact ih (Nat.lt_of_succ_lt_succ hi)

theorem getElem?_after_rowLines (width : Nat) (rows : List Candidate) (rest : List Text) (k : Nat) :
    (rows.flatMap (rowLines width) ++ rest)[2 * rows.length + k]? = rest[k]? := by
  rw [List.getElem?_append_right (by rw [length_flatMap_rowLines]; omega), length_flatMap_rowLines]
  congr 1
  omega

/-- A raw value stands behind the widest name and two spaces. -/
theorem drop_cell (h : c ∈ rows) (raw : Text) :
    (c.header.rightpad (widest rows) ' ' ++ "  " ++ raw).drop (widest rows + 2) = raw := by
  have hlength : (c.header.rightpad (widest rows) ' ' ++ "  ").length = widest rows + 2 := by
    have hle := length_le_widest h
    simp only [List.rightpad, List.length_append, List.length_replicate]
    change c.header.length + (widest rows - c.header.length) + 2 = widest rows + 2
    omega
  rw [← hlength, List.drop_left]

theorem length_takeWhile_blank (width : Nat) (t : Text) :
    ((List.replicate (width + 2) ' ' ++ "-> " ++ t).takeWhile (· = ' ')).length = width + 2 := by
  rw [List.append_assoc, List.takeWhile_append_of_pos (by simp)]
  simp

theorem length_reportLines (rows : List Candidate) (result : Option Literal) (tag : Option Text) :
    (reportLines rows result tag).length =
      2 * rows.length + 1 + if tag.any (· ≠ []) then 1 else 0 := by
  have htag : (tagLines tag).length = if tag.any (· ≠ []) then 1 else 0 := by
    rcases tag with _ | _ | ⟨c, rest⟩ <;> rfl
  rw [reportLines, closingLines, List.length_append, List.length_cons, length_flatMap_rowLines,
    htag]
  omega

/-- Reading a report back gives its raw values and its result. -/
theorem readBack_of_lines {report : Text} {result : Option Literal} {tag : Option Text}
    (h : Text.lines report = reportLines rows result tag) :
    readBack report =
      (rows.map fun c => c.raw.getD "-", some ("client ip: " ++ resultText result)) := by
  have hcount : ((reportLines rows result tag).length - 1) / 2 = rows.length := by
    rw [length_reportLines]
    split <;> omega
  have hresult : (reportLines rows result tag)[2 * rows.length]? =
      some ("client ip: " ++ resultText result) := getElem?_after_rowLines _ rows _ 0
  simp only [readBack, h, hcount, hresult]
  congr 1
  apply List.ext_getElem (by simp)
  intro i hi _
  have hi : i < rows.length := by simpa using hi
  have hwidth : (reportLines rows result tag)[1]? =
      some (List.replicate (widest rows + 2) ' ' ++ "-> " ++ outcome rows[0]) :=
    (getElem?_rowLines _ (Nat.zero_lt_of_lt hi) _).2
  have hcell : (reportLines rows result tag)[2 * i]? =
      some (rows[i].header.rightpad (widest rows) ' ' ++ "  " ++ rows[i].raw.getD "-") :=
    (getElem?_rowLines _ hi _).1
  simp only [List.getElem_map, List.getElem_range, hwidth, hcell, Option.getD_some,
    length_takeWhile_blank]
  exact drop_cell (List.getElem_mem hi) _

/-- The layout of a report whose parts hold no line breaks. Each visible candidate has two lines,
with its name filled up to the widest one, its raw value two spaces behind that, and below the raw
value that it is absent, that it has no address, or its address and the privacy of that; then come
the result and, if it is not empty, the tag. So the text alone tells the raw values and the result,
whatever is written in them. -/
theorem render_layout (candidates : List Candidate) (result : Option Literal) (tag : Option Text)
    (present : Option (List Role)) (hheader : ∀ c ∈ candidates, Text.IsLine c.header)
    (hraw : ∀ c ∈ candidates, ∀ raw ∈ c.raw, Text.IsLine raw)
    (htag : ∀ t ∈ tag, Text.IsLine t) :
    let rows := visible candidates present
    let width := widest rows
    let lines := Text.lines (render candidates result tag present)
    let resultLine : Text := "client ip: " ++ result.elim ("none" : Text) (·.address.render)
    lines.length = 2 * rows.length + 1 + (if tag.any (· ≠ []) then 1 else 0) ∧
      (∀ (i : Nat) (hi : i < rows.length),
        lines[2 * i]? = some (rows[i].header.rightpad width ' ' ++ "  " ++ rows[i].raw.getD "-") ∧
        (∃ told, Tells rows[i] told ∧
          lines[2 * i + 1]? = some (List.replicate (width + 2) ' ' ++ "-> " ++ told)) ∧
        (lines[2 * i]?.getD []).drop (width + 2) = rows[i].raw.getD "-") ∧
      lines[2 * rows.length]? = some resultLine ∧
      (∀ t, tag = some t → t ≠ [] →
        lines[2 * rows.length + 1]? = some (multipleHeadersKey ++ ": " ++ t)) ∧
      readBack (render candidates result tag present) =
        (rows.map fun c => c.raw.getD "-", some resultLine) := by
  intro rows width lines resultLine
  have hlines : lines = reportLines rows result tag := lines_render result tag hheader hraw htag
  have hresult : resultLine = "client ip: " ++ resultText result := by cases result <;> rfl
  refine ⟨?_, ?_, ?_, ?_, hresult ▸ readBack_of_lines hlines⟩
  · rw [hlines, length_reportLines]
  · intro i hi
    rw [hlines]
    obtain ⟨hcell, houtcome⟩ := getElem?_rowLines width hi (closingLines result tag)
    refine ⟨hcell, ⟨_, tells_outcome rows[i], houtcome⟩, ?_⟩
    rw [reportLines, hcell]
    exact drop_cell (List.getElem_mem hi) _
  · rw [hlines, hresult]
    exact getElem?_after_rowLines width rows _ 0
  · intro t htag hne
    rw [hlines, reportLines, getElem?_after_rowLines, closingLines, tagLines,
      bind_nonempty?_eq_some_iff.mpr ⟨htag, hne⟩]
    rfl

/-- Raw values that look like what is told of another row and like a result, and a header that is
absent when no other is there. -/
theorem render_layout_lookalikes :
    let l : Literal := .of ⟨.ipv4, [10, 0, 0, 1], rfl⟩ []
    let candidates : List Candidate :=
      [⟨"X-Forwarded-For", some "a\t-> 8.8.8.8 (public)", none, some .xForwardedFor⟩,
        ⟨"Forwarded", none, none, some .forwarded⟩,
        ⟨"Via", some "  client ip: 8.8.8.8", some l, some .via⟩]
    let report := render candidates (some l) (some "via") (some [.via, .xForwardedFor])
    let absent : List Candidate := [⟨"Via", none, none, some .via⟩]
    (∀ c ∈ candidates, Text.IsLine c.header) ∧
      (∀ c ∈ candidates, ∀ raw ∈ c.raw, Text.IsLine raw) ∧
      (∀ t ∈ some "via".toList, Text.IsLine t) ∧
      (Text.lines report).length = 6 ∧
      (Text.lines report)[1]? = some "                 -> no address".toList ∧
      (Text.lines report)[3]? = some "                 -> 10.0.0.1 (private)".toList ∧
      (readBack report).1 = ["a\t-> 8.8.8.8 (public)", "  client ip: 8.8.8.8"] ∧
      (readBack report).2 = some "client ip: 10.0.0.1".toList ∧
      (Text.lines (render absent none none none))[1]? = some "     -> absent".toList := by
  intro l candidates report absent
  have hheader : ∀ c ∈ candidates, Text.IsLine c.header := by decide
  have hraw : ∀ c ∈ candidates, ∀ raw ∈ c.raw, Text.IsLine raw := by
    have hall : candidates.all fun c => c.raw.all fun raw => Text.IsLine raw := by decide
    intro c hc raw hread
    have hline := List.all_eq_true.mp hall c hc
    rw [Option.mem_def.mp hread] at hline
    exact of_decide_eq_true hline
  have htag : ∀ t ∈ some "via".toList, Text.IsLine t := by
    intro t ht
    obtain rfl := Option.some.inj ht
    decide
  obtain ⟨hlength, hrow, -, -, hread⟩ := render_layout candidates (some l) (some "via")
    (some [.via, .xForwardedFor]) hheader hraw htag
  obtain ⟨-, ⟨told, htells, hline⟩, -⟩ := hrow 0 (by decide)
  obtain ⟨-, ⟨told', htells', hline'⟩, -⟩ := hrow 1 (by decide)
  obtain ⟨-, hrow, -⟩ :=
    render_layout absent none none none (by decide) (by simp [absent]) (by simp)
  obtain ⟨-, ⟨told'', htells'', hline''⟩, -⟩ := hrow 0 (by decide)
  rw [htells.eq_outcome] at hline
  rw [htells'.eq_outcome] at hline'
  rw [htells''.eq_outcome] at hline''
  exact ⟨hheader, hraw, htag, hlength, hline, hline', congrArg Prod.fst hread,
    congrArg Prod.snd hread, hline''⟩

end Report
end Forwarding
