import Forwarding.Proofs.Header.Fields
import Forwarding.Resolver.Resolve
import Mathlib.Data.List.Nodup
import Mathlib.Logic.Relation

/-!
Fields gathered in one pass. Each value goes behind those that arrived before it under its name, so
the headers of a request depend on the values under each name alone, and not on how fields of
different names are mixed.
-/
namespace Forwarding

namespace Role

theorem nodup_foldedNames : (all.map foldedName).Nodup := by
  decide +kernel

theorem foldedName_injective {role other : Role} (h : role.foldedName = other.foldedName) :
    role = other :=
  List.inj_on_of_nodup_map nodup_foldedNames role.mem_all other.mem_all h

theorem strip_headerName (role : Role) : Text.strip role.headerName = role.headerName := by
  cases role <;> decide

theorem foldedName_eq_lower (role : Role) : role.foldedName = Text.lower role.headerName :=
  congrArg Text.lower role.strip_headerName

/-- No two roles share a name, so a name finds exactly the role whose name it is. -/
theorem ofHeaderName?_eq_some_iff {name : Text} {role : Role} :
    ofHeaderName? name = some role ↔ HeaderName.fold name = Text.lower role.headerName := by
  rw [← foldedName_eq_lower role]
  constructor
  · intro h
    simpa [eq_comm] using List.find?_some h
  · intro h
    cases hfound : ofHeaderName? name with
    | none =>
      have hnot := List.find?_eq_none.mp hfound role role.mem_all
      exact absurd h.symm (by simpa using hnot)
    | some other =>
      have hother : other.foldedName = HeaderName.fold name := by simpa using List.find?_some hfound
      rw [foldedName_injective (hother.trans h)]

end Role

namespace HeaderSet

variable {name : Text} {left right : List Field} {customHeader : Option Text}

theorem arrivals_append (name : Text) (left right : List Field) :
    arrivals name (left ++ right) = arrivals name left ++ arrivals name right := by
  simp [arrivals]

def arrival? (name : Text) (field : Field) : Option Text :=
  if HeaderName.fold field.1 = HeaderName.fold name then field.2.bind Text.nonempty? else none

theorem arrivals_cons (name : Text) (field : Field) (fields : List Field) :
    arrivals name (field :: fields) = (arrival? name field).toList ++ arrivals name fields := by
  by_cases hname : HeaderName.fold field.1 = HeaderName.fold name
  · cases hvalue : field.2.bind Text.nonempty? <;> simp [arrivals, arrival?, hname, hvalue]
  · simp [arrivals, arrival?, hname]

structure Gathering where
  values : Role → List Text
  nominated : List Text

namespace Gathering

def empty : Gathering := ⟨fun _ => [], []⟩

/-- Takes in one field. Its value goes to the role that its name finds, and to the nominated header
when it has that name; a field without a value goes nowhere. -/
def take (custom : Option Text) (g : Gathering) (field : Field) : Gathering :=
  match field.2.bind Text.nonempty? with
  | none => g
  | some value =>
    { values := fun role =>
        if Role.ofHeaderName? field.1 = some role then g.values role ++ [value] else g.values role
      nominated :=
        if custom = some (HeaderName.fold field.1) then g.nominated ++ [value] else g.nominated }

def run (custom : Option Text) (fields : List Field) : Gathering :=
  fields.foldl (take custom) empty

def headerSet (custom : Option Text) (g : Gathering) : HeaderSet :=
  .of (fun role => joinValues (g.values role)) custom (custom.map fun _ => joinValues g.nominated)

theorem values_take (custom : Option Text) (g : Gathering) (field : Field) (role : Role) :
    (g.take custom field).values role =
      g.values role ++ (arrival? role.headerName field).toList := by
  have hname : Role.ofHeaderName? field.1 = some role ↔
      HeaderName.fold field.1 = HeaderName.fold role.headerName := by
    rw [Role.ofHeaderName?_eq_some_iff, ← Role.foldedName_eq_lower role]
    rfl
  rw [take, arrival?]
  cases field.2.bind Text.nonempty? with
  | none => simp
  | some value =>
    by_cases hrole : HeaderName.fold field.1 = HeaderName.fold role.headerName <;>
      simp [hname, hrole]

theorem nominated_take (name : Text) (g : Gathering) (field : Field) :
    (g.take (some (HeaderName.fold name)) field).nominated =
      g.nominated ++ (arrival? name field).toList := by
  rw [take, arrival?]
  cases field.2.bind Text.nonempty? with
  | none => simp
  | some value =>
    by_cases hname : HeaderName.fold field.1 = HeaderName.fold name
    · simp [hname]
    · simp [hname, Ne.symm hname]

/-- What grows by the value that each field adds under a name holds, after a pass, the values that
arrive under that name behind those it began with. -/
theorem foldl_take {custom : Option Text} {name : Text} (gathered : Gathering → List Text)
    (hstep : ∀ g field, gathered (g.take custom field) =
      gathered g ++ (arrival? name field).toList) (g : Gathering) (fields : List Field) :
    gathered (fields.foldl (take custom) g) = gathered g ++ arrivals name fields := by
  induction fields generalizing g with
  | nil => simp [arrivals]
  | cons field fields ih =>
    rw [List.foldl_cons, ih, hstep, arrivals_cons, List.append_assoc]

theorem values_run (custom : Option Text) (fields : List Field) (role : Role) :
    (run custom fields).values role = arrivals role.headerName fields :=
  foldl_take (fun g => g.values role) (fun g field => values_take custom g field role) empty fields

theorem nominated_run (name : Text) (fields : List Field) :
    (run (some (HeaderName.fold name)) fields).nominated = arrivals name fields :=
  foldl_take nominated (nominated_take name) empty fields

end Gathering

/-- The folded nominated name; an empty text nominates nothing. -/
def nominatedName (customHeader : Option Text) : Option Text :=
  (customHeader.bind Text.nonempty?).map HeaderName.fold

/-- Gathering name by name gives what one pass over the fields gives. -/
theorem ofFields_eq_run (fields : List Field) (customHeader : Option Text) :
    ofFields fields customHeader =
      (Gathering.run (nominatedName customHeader) fields).headerSet
        (nominatedName customHeader) := by
  have hvalues (custom : Option Text) (role : Role) :
      (Gathering.run custom fields).values role =
        valuesOf role.foldedName (foldNames fields) := by
    rw [Gathering.values_run, Role.foldedName, valuesOf_foldNames]
  have hnominated : ((nominatedName customHeader).map fun _ =>
        joinValues (Gathering.run (nominatedName customHeader) fields).nominated) =
      (nominatedName customHeader).map fun name =>
        joinValues (valuesOf name (foldNames fields)) := by
    unfold nominatedName
    cases customHeader.bind Text.nonempty? with
    | none => rfl
    | some name =>
      rw [Option.map_some, Option.map_some, Option.map_some, Gathering.nominated_run,
        valuesOf_foldNames]
  rw [Gathering.headerSet, hnominated]
  simp only [hvalues]
  rfl

def countedNames (customHeader : Option Text) : List Text :=
  Role.all.map Role.headerName ++ (customHeader.bind Text.nonempty?).toList

theorem ofFields_congr
    (h : ∀ name ∈ countedNames customHeader, arrivals name left = arrivals name right) :
    ofFields left customHeader = ofFields right customHeader := by
  have hvalues (name : Text) (hname : name ∈ countedNames customHeader) :
      valuesOf (HeaderName.fold name) (foldNames left) =
        valuesOf (HeaderName.fold name) (foldNames right) := by
    rw [valuesOf_foldNames, valuesOf_foldNames, h name hname]
  have hroles (role : Role) : valuesOf role.foldedName (foldNames left) =
      valuesOf role.foldedName (foldNames right) :=
    hvalues _ (List.mem_append_left _ (List.mem_map_of_mem role.mem_all))
  simp only [ofFields, hroles]
  cases hcustom : customHeader.bind Text.nonempty? with
  | none => rfl
  | some name =>
    have hmem : name ∈ countedNames customHeader := by simp [countedNames, hcustom]
    simp only [Option.map_some, hvalues name hmem]

/-- One change to the fields of a request that does not count: a name in another spelling, two
fields of different names in the other order, or one more field that has no value or a name that
does not count. -/
inductive Rearrangement (customHeader : Option Text) : List Field → List Field → Prop where
  | respell {name name' : Text} (value : Option Text) (left right : List Field)
      (h : HeaderName.fold name = HeaderName.fold name') :
      Rearrangement customHeader (left ++ (name, value) :: right) (left ++ (name', value) :: right)
  | swap {field field' : Field} (left right : List Field)
      (h : HeaderName.fold field.1 ≠ HeaderName.fold field'.1) :
      Rearrangement customHeader (left ++ field :: field' :: right)
        (left ++ field' :: field :: right)
  | insert {field : Field} (left right : List Field)
      (h : field.2.bind Text.nonempty? = none ∨
        ∀ name ∈ countedNames customHeader, HeaderName.fold field.1 ≠ HeaderName.fold name) :
      Rearrangement customHeader (left ++ right) (left ++ field :: right)

theorem Rearrangement.arrivals_eq (h : Rearrangement customHeader left right)
    (hname : name ∈ countedNames customHeader) : arrivals name left = arrivals name right := by
  cases h with
  | @respell spelled spelled' value front back hfold =>
    have hsame : arrival? name (spelled, value) = arrival? name (spelled', value) := by
      simp only [arrival?, hfold]
    simp only [arrivals_append, arrivals_cons, hsame]
  | @swap field field' front back hne =>
    -- only one of the two fields can have the name
    have hcomm : (arrival? name field).toList ++ (arrival? name field').toList =
        (arrival? name field').toList ++ (arrival? name field).toList := by
      by_cases hfield : HeaderName.fold field.1 = HeaderName.fold name
      · have hfield' : ¬HeaderName.fold field'.1 = HeaderName.fold name :=
          fun hfield' => hne (hfield.trans hfield'.symm)
        simp [arrival?, hfield']
      · simp [arrival?, hfield]
    simp only [arrivals_append, arrivals_cons]
    rw [← List.append_assoc (arrival? name field).toList, hcomm, List.append_assoc]
  | @insert field front back hignored =>
    have hnone : arrival? name field = none := by
      rw [arrival?]
      rcases hignored with hvalue | hnames
      · simp [hvalue]
      · simp [hnames name hname]
    simp only [arrivals_append, arrivals_cons, hnone, Option.toList_none, List.nil_append]

theorem arrivals_eq_of_rearranged (h : Relation.EqvGen (Rearrangement customHeader) left right)
    (hname : name ∈ countedNames customHeader) : arrivals name left = arrivals name right := by
  induction h with
  | rel _ _ h => exact h.arrivals_eq hname
  | refl => rfl
  | symm _ _ _ ih => exact ih.symm
  | trans _ _ _ _ _ ih ih' => exact ih.trans ih'

theorem customName_eq_normalize? (fields : List Field) (customHeader : Option Text) :
    (ofFields fields customHeader).customName = HeaderName.normalize? customHeader := by
  cases customHeader with
  | none => rfl
  | some name =>
    cases name with
    | nil => rfl
    | cons c rest => rfl

/-- Gathering of headers. The value of each well-known header joins all nonempty values that arrived
under its name, and the nominated value those under the nominated name; one pass that puts each
value behind the earlier ones of its name gives the same. So requests with the same values under
each name that counts have the same headers and are resolved alike, however their fields are
spelled and mixed and whatever else they hold. -/
theorem ofFields_gathers (fields : List Field) (customHeader : Option Text) :
    let headers := ofFields fields customHeader
    (∀ role, HeaderName.fold role.headerName = Text.lower role.headerName ∧
      headers.value role = received? role.headerName fields) ∧
    headers.customName = HeaderName.normalize? customHeader ∧
    (∀ name ∈ customHeader, ¬HeaderName.IsBlank (some name) →
      headers.customValue = received? name fields) ∧
    headers = (Gathering.run (nominatedName customHeader) fields).headerSet
      (nominatedName customHeader) ∧
    ∀ others,
      (Relation.EqvGen (Rearrangement customHeader) fields others →
        ∀ name ∈ countedNames customHeader, arrivals name fields = arrivals name others) ∧
      ((∀ name ∈ countedNames customHeader, arrivals name fields = arrivals name others) →
        headers = ofFields others customHeader ∧
        ∀ config span, Resolver.resolve config (some headers.accessor) span =
          Resolver.resolve config (some (ofFields others customHeader).accessor) span) := by
  intro headers
  refine ⟨fun role => ⟨role.foldedName_eq_lower, ?_⟩,
    customName_eq_normalize? fields customHeader, ?_, ofFields_eq_run fields customHeader,
    fun others => ⟨fun h name hname => arrivals_eq_of_rearranged h hname, ?_⟩⟩
  · exact nonempty?_joinValues_valuesOf role.headerName fields
  · intro name hcustom hname
    obtain rfl := Option.mem_def.mp hcustom
    exact customValue_ofFields hname
  · intro h
    have heq : headers = ofFields others customHeader := ofFields_congr h
    refine ⟨heq, ?_⟩
    intro config span
    rw [heq]

/-- A header that is well known and nominated at once. Its two values stay in order when a field of
another name comes between them, and neither an empty field nor an unknown one counts. -/
theorem ofFields_gathers_interleaved :
    let customHeader : Option Text := some " X-Real-IP"
    let fields : List Field := [("X-Real-IP", some "10.0.0.1"), ("x-real-ip ", some "8.8.8.8"),
      ("Via", some "1.1 9.9.9.9")]
    let others : List Field := [("Host", some "a"), ("x-real-ip", some "10.0.0.1"), ("Via", none),
      ("via", some "1.1 9.9.9.9"), ("X-REAL-IP", some "8.8.8.8")]
    let swapped : List Field := [("X-Real-IP", some "10.0.0.1"), ("Via", some "1.1 9.9.9.9"),
      ("x-real-ip ", some "8.8.8.8")]
    Relation.EqvGen (Rearrangement customHeader) fields swapped ∧
      arrivals "Via" fields = arrivals "Via" swapped ∧
      ¬HeaderName.IsBlank customHeader ∧
      (ofFields fields customHeader).customValue = some "10.0.0.1, 8.8.8.8".toList ∧
      (∀ name ∈ countedNames customHeader, arrivals name fields = arrivals name others) ∧
      ofFields fields customHeader = ofFields others customHeader := by
  intro customHeader fields others swapped
  have hrearranged : Relation.EqvGen (Rearrangement customHeader) fields swapped :=
    .rel _ _ (.swap [("X-Real-IP", some "10.0.0.1")] [] (by decide +kernel))
  have hblank : ¬HeaderName.IsBlank customHeader := by
    intro h
    exact absurd (h _ rfl 'X' (by decide)) (by decide)
  have hcounted : ∀ name ∈ countedNames customHeader,
      arrivals name fields = arrivals name others := by
    decide +kernel
  obtain ⟨-, -, hcustom, -, hall⟩ := ofFields_gathers fields customHeader
  refine ⟨hrearranged, ?_, hblank, ?_, hcounted, ((hall others).2 hcounted).1⟩
  · exact (hall swapped).1 hrearranged _ (by decide +kernel)
  · rw [hcustom _ rfl hblank]
    decide +kernel

end HeaderSet
end Forwarding
