import Forwarding.Header.Set
import Forwarding.Proofs.Text.Trim

/-!
Raw header lines. Every line spells one field or none: a field is a name and a value around the
first colon, with whitespace around the name and padding around the value.
-/
namespace Forwarding.HeaderSet

variable {line name value : Text} {customHeader : Option Text}

/-- A line that spells a field. The name is not empty and holds neither whitespace nor colons. -/
inductive Spells : Text → Text → Text → Prop where
  | intro {lead name trail front value back : Text} (hlead : ∀ c ∈ lead, Text.isBlank c)
      (hne : name ≠ []) (hname : ∀ c ∈ name, Text.isBlank c = false) (hcolon : ':' ∉ name)
      (htrail : ∀ c ∈ trail, Text.isBlank c) (hfront : ∀ c ∈ front, isValuePadding c)
      (hvalue : Text.IsTrimmed isValuePadding value) (hback : ∀ c ∈ back, isValuePadding c) :
      Spells (lead ++ name ++ trail ++ ':' :: (front ++ value ++ back)) name value

/-- A line that spells no field: it has no colon, or what stands in front of the first colon is
blank or holds whitespace between other characters. -/
inductive SpellsNothing : Text → Prop where
  | noColon {line : Text} (hcolon : ':' ∉ line) : SpellsNothing line
  | blank {name rest : Text} (hname : ∀ c ∈ name, Text.isBlank c) :
      SpellsNothing (name ++ ':' :: rest)
  | broken {front back rest : Text} {gap : Char} (hcolon : ':' ∉ front ++ gap :: back)
      (hfront : ∃ c ∈ front, Text.isBlank c = false) (hgap : Text.isBlank gap)
      (hback : ∃ c ∈ back, Text.isBlank c = false) :
      SpellsNothing (front ++ gap :: back ++ ':' :: rest)

inductive Spelled : List Text → List (Text × Text) → Prop where
  | nil : Spelled [] []
  | field {line name value : Text} {lines : List Text} {pairs : List (Text × Text)}
      (hline : Spells line name value) (hlines : Spelled lines pairs) :
      Spelled (line :: lines) ((name, value) :: pairs)
  | skip {line : Text} {lines : List Text} {pairs : List (Text × Text)}
      (hline : SpellsNothing line) (hlines : Spelled lines pairs) : Spelled (line :: lines) pairs

theorem colon_not_mem_of_blank {t : Text} (h : ∀ c ∈ t, Text.isBlank c) : ':' ∉ t :=
  fun hmem => absurd (h ':' hmem) (by decide)

theorem fieldOfLine?_cut {before after : Text} (hcolon : ':' ∉ before) :
    fieldOfLine? (before ++ ':' :: after) =
      if Text.strip before = [] ∨ (Text.strip before).any Text.isBlank then none
      else some (Text.strip before, some (Text.trim isValuePadding after)) := by
  rw [fieldOfLine?, Text.cut?_append hcolon]

theorem Spells.fieldOfLine?_eq (h : Spells line name value) :
    fieldOfLine? line = some (name, some value) := by
  cases h with
  | @intro lead _ trail front _ back hlead hne hname hcolon htrail hfront hvalue hback =>
    have htrimmed : Text.IsTrimmed Text.isBlank name :=
      ⟨fun c hc => hname c (List.mem_of_head? hc), fun c hc => hname c (List.mem_of_getLast? hc)⟩
    have hstrip : Text.strip (lead ++ name ++ trail) = name := htrimmed.trim_append hlead htrail
    have hbefore : ':' ∉ lead ++ name ++ trail := by
      simp [colon_not_mem_of_blank hlead, colon_not_mem_of_blank htrail, hcolon]
    have hplain : name.any Text.isBlank = false := by simpa using hname
    rw [fieldOfLine?_cut hbefore, hstrip, hvalue.trim_append hfront hback, hplain]
    simp [hne]

theorem SpellsNothing.fieldOfLine?_eq (h : SpellsNothing line) : fieldOfLine? line = none := by
  cases h with
  | noColon hcolon => rw [fieldOfLine?, Text.cut?_eq_none_iff.mpr hcolon]
  | blank hname =>
    have hstrip : Text.strip _ = [] := Text.trim_eq_nil_iff.mpr hname
    rw [fieldOfLine?_cut (colon_not_mem_of_blank hname), if_pos (Or.inl hstrip)]
  | @broken front back rest gap hcolon hfront hgap hback =>
    have hmem : gap ∈ Text.strip (front ++ gap :: back) := Text.mem_trim hfront hback gap
    rw [fieldOfLine?_cut hcolon, if_pos (Or.inr (List.any_eq_true.mpr ⟨gap, hmem, hgap⟩))]

/-- Whitespace in a trimmed text stands between other characters. -/
theorem exists_around_blank {t : Text} {gap : Char} (h : Text.IsTrimmed Text.isBlank t)
    (hmem : gap ∈ t) (hgap : Text.isBlank gap) :
    ∃ front back, t = front ++ gap :: back ∧ (∃ c ∈ front, Text.isBlank c = false) ∧
      ∃ c ∈ back, Text.isBlank c = false := by
  obtain ⟨front, back, rfl⟩ := List.append_of_mem hmem
  refine ⟨front, back, rfl, ?_, ?_⟩
  · cases front with
    | nil => simp [h.1 gap rfl] at hgap
    | cons c front => exact ⟨c, List.mem_cons_self .., h.1 c rfl⟩
  · cases hlast : back.getLast? with
    | none =>
      rw [List.getLast?_eq_none_iff.mp hlast] at h
      simp [h.2 gap (by simp)] at hgap
    | some c =>
      refine ⟨c, List.mem_of_getLast? hlast, h.2 c ?_⟩
      simp [List.getLast?_append, List.getLast?_cons, hlast]

/-- Every line spells a field or none. -/
theorem spells_or_spellsNothing (line : Text) :
    (∃ name value, Spells line name value) ∨ SpellsNothing line := by
  by_cases hmem : ':' ∈ line
  · obtain ⟨before, after, rfl, hcolon⟩ := List.eq_append_cons_of_mem hmem
    obtain ⟨lead, trail, hbefore, hlead, htrail⟩ := Text.exists_eq_append_trim Text.isBlank before
    obtain ⟨front, back, hafter, hfront, hback⟩ := Text.exists_eq_append_trim isValuePadding after
    have hname := Text.isTrimmed_trim Text.isBlank before
    have hvalue := Text.isTrimmed_trim isValuePadding after
    generalize Text.trim Text.isBlank before = name at hbefore hname
    generalize Text.trim isValuePadding after = value at hafter hvalue
    subst hbefore hafter
    by_cases hne : name = []
    · subst hne
      refine Or.inr (.blank ?_)
      simpa [or_imp, forall_and] using ⟨hlead, htrail⟩
    by_cases hplain : ∀ c ∈ name, Text.isBlank c = false
    · have hsign : ':' ∉ name := fun h => hcolon (by simp [h])
      exact Or.inl ⟨name, value, .intro hlead hne hplain hsign htrail hfront hvalue hback⟩
    · obtain ⟨gap, hgapmem, hgap⟩ : ∃ gap ∈ name, Text.isBlank gap := by simpa using hplain
      obtain ⟨first, second, rfl, ⟨c, hc, hcfirst⟩, d, hd, hdsecond⟩ :=
        exists_around_blank hname hgapmem hgap
      have hbroken : SpellsNothing
          ((lead ++ first) ++ gap :: (second ++ trail) ++ ':' :: (front ++ value ++ back)) :=
        .broken (by simpa using hcolon) ⟨c, List.mem_append_right lead hc, hcfirst⟩ hgap
          ⟨d, List.mem_append_left trail hd, hdsecond⟩
      exact Or.inr (by simpa using hbroken)
  · exact Or.inr (.noColon hmem)

theorem fieldOfLine?_eq_none_iff : fieldOfLine? line = none ↔ SpellsNothing line := by
  refine ⟨fun h => ?_, SpellsNothing.fieldOfLine?_eq⟩
  rcases spells_or_spellsNothing line with ⟨name, value, hline⟩ | hline
  · simp [hline.fieldOfLine?_eq] at h
  · exact hline

theorem fieldOfLine?_eq_some_iff :
    fieldOfLine? line = some (name, some value) ↔ Spells line name value := by
  refine ⟨fun h => ?_, Spells.fieldOfLine?_eq⟩
  rcases spells_or_spellsNothing line with ⟨other, text, hline⟩ | hline
  · rw [hline.fieldOfLine?_eq] at h
    obtain ⟨rfl, htext⟩ := Prod.mk.inj (Option.some.inj h)
    obtain rfl := Option.some.inj htext
    exact hline
  · simp [hline.fieldOfLine?_eq] at h

theorem exists_spelled (lines : List Text) : ∃ pairs, Spelled lines pairs := by
  induction lines with
  | nil => exact ⟨[], .nil⟩
  | cons line lines ih =>
    obtain ⟨pairs, hlines⟩ := ih
    rcases spells_or_spellsNothing line with ⟨name, value, hline⟩ | hline
    · exact ⟨(name, value) :: pairs, .field hline hlines⟩
    · exact ⟨pairs, .skip hline hlines⟩

theorem Spelled.filterMap_fieldOfLine? {lines : List Text} {pairs : List (Text × Text)}
    (h : Spelled lines pairs) :
    lines.filterMap fieldOfLine? = pairs.map fun pair => (pair.1, some pair.2) := by
  induction h with
  | nil => rfl
  | field hline _ ih => rw [List.filterMap_cons_some hline.fieldOfLine?_eq, ih, List.map_cons]
  | skip hline _ ih => rw [List.filterMap_cons_none hline.fieldOfLine?_eq, ih]

/-- Headers from raw lines. Lines that spell fields, whatever whitespace and padding they have and
whatever other lines stand among them, give the headers of these fields. Lines that spell no field
can be put anywhere among any lines without a change, and every list of lines spells some fields. -/
theorem ofLines_spelled (customHeader : Option Text) :
    (∀ lines pairs, Spelled lines pairs →
      ofLines lines customHeader =
        ofFields (pairs.map fun pair => (pair.1, some pair.2)) customHeader) ∧
    (∀ left others right, (∀ line ∈ others, SpellsNothing line) →
      ofLines (left ++ others ++ right) customHeader = ofLines (left ++ right) customHeader) ∧
    ∀ lines, ∃ pairs, Spelled lines pairs := by
  refine ⟨?_, ?_, exists_spelled⟩
  · intro lines pairs h
    rw [ofLines, h.filterMap_fieldOfLine?]
  · intro left others right hothers
    have hnone : others.filterMap fieldOfLine? = [] := by
      rw [List.filterMap_eq_nil_iff]
      exact fun line hline => (hothers line hline).fieldOfLine?_eq
    simp only [ofLines, List.filterMap_append, hnone, List.append_nil]

/-- A request line, a name with a space inside and an empty line stand around a field, whose value
holds colons. A no-break space stands in front of its name and a line end behind its value. -/
theorem ofLines_spelled_requestLine :
    let field : Text := "\u00a0X-Real-IP :\t ::1 \r\n"
    let other : Text := "X Real-IP: 8.8.8.8"
    let pairs : List (Text × Text) := [("X-Real-IP", "::1")]
    Spelled ["GET http://a/ HTTP/1.1", field, other, []] pairs ∧
      ofLines ["GET http://a/ HTTP/1.1", field, other, []] none =
        ofFields [("X-Real-IP", some "::1")] none ∧
      ((ofLines ([field] ++ [other, []] ++ []) none).value .xRealIp) = some "::1".toList := by
  intro field other pairs
  have hfield : Spells field "X-Real-IP" "::1" := fieldOfLine?_eq_some_iff.mp (by decide)
  have hother : SpellsNothing other := fieldOfLine?_eq_none_iff.mp (by decide)
  have hempty : SpellsNothing [] := fieldOfLine?_eq_none_iff.mp rfl
  have hrequest : SpellsNothing "GET http://a/ HTTP/1.1" := fieldOfLine?_eq_none_iff.mp (by decide)
  have hlines := Spelled.skip hrequest (.field hfield (.skip hother (.skip hempty .nil)))
  obtain ⟨hspelled, hinsert, -⟩ := ofLines_spelled none
  refine ⟨hlines, hspelled _ _ hlines, ?_⟩
  rw [hinsert [field] [other, []] [] (by simp [hother, hempty])]
  decide +kernel

end Forwarding.HeaderSet
