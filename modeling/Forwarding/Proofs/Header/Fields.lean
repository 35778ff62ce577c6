import Forwarding.Header.Set
import Forwarding.Proofs.Header.Name

/-!
Fields gathered into a header set. The value of a header joins the nonempty values that arrived
under its name, in their order, and the nominated header is found under the name that it was
nominated by.
-/
namespace Forwarding.HeaderSet

/-- The nonempty values of all fields of a name, in the order of arrival. Names are compared without
outer whitespace and in lower case. -/
def arrivals (name : Text) (fields : List Field) : List Text :=
  (fields.filter fun field => HeaderName.fold field.1 = HeaderName.fold name).filterMap
    fun field => field.2.bind Text.nonempty?

def received? (name : Text) (fields : List Field) : Option Text :=
  if arrivals name fields = [] then none
  else some ([',', ' '].intercalate (arrivals name fields))

variable {name : Text} {fields : List Field}

theorem ne_nil_of_mem_arrivals {value : Text} (h : value ∈ arrivals name fields) : value ≠ [] := by
  obtain ⟨field, -, hfield⟩ := List.mem_filterMap.mp h
  rintro rfl
  exact bind_nonempty?_ne field.2 hfield

theorem valuesOf_foldNames (name : Text) (fields : List Field) :
    valuesOf (HeaderName.fold name) (foldNames fields) = arrivals name fields := by
  rw [valuesOf, foldNames, arrivals, List.filterMap_map, List.filterMap_filter]
  apply List.filterMap_congr
  intro field _
  simp

theorem nonempty?_joinValues {values : List Text} (h : ∀ value ∈ values, value ≠ []) :
    Text.nonempty? (joinValues values) =
      if values = [] then none else some ([',', ' '].intercalate values) := by
  cases values with
  | nil => rfl
  | cons value values =>
    have hne : joinValues (value :: values) ≠ [] := by
      obtain ⟨c, rest, rfl⟩ := List.exists_cons_of_ne_nil (h value (by simp))
      cases values <;> simp [joinValues, List.intercalate_cons_cons]
    rw [Text.nonempty?, if_neg hne, if_neg (by simp)]
    rfl

theorem nonempty?_joinValues_valuesOf (name : Text) (fields : List Field) :
    Text.nonempty? (joinValues (valuesOf (HeaderName.fold name) (foldNames fields))) =
      received? name fields := by
  rw [valuesOf_foldNames, received?,
    nonempty?_joinValues fun _ hvalue => ne_nil_of_mem_arrivals hvalue]

theorem received?_bind_nonempty? (name : Text) (fields : List Field) :
    (received? name fields).bind Text.nonempty? = received? name fields := by
  rw [← nonempty?_joinValues_valuesOf]
  cases joinValues (valuesOf (HeaderName.fold name) (foldNames fields)) <;> simp

theorem nonempty?_nominated (h : ¬HeaderName.IsBlank (some name)) :
    Text.nonempty? name = some name := by
  cases name with
  | nil => exact absurd (by simp [HeaderName.IsBlank]) h
  | cons c rest => rfl

theorem customName_ofFields (h : ¬HeaderName.IsBlank (some name)) :
    (ofFields fields (some name)).customName = some (HeaderName.fold name) := by
  have hfold := HeaderName.normalize?_of_not_blank h
  simp only [ofFields, of, Option.bind_some, nonempty?_nominated h, Option.map_some]
  exact hfold

theorem customValue_ofFields (h : ¬HeaderName.IsBlank (some name)) :
    (ofFields fields (some name)).customValue = received? name fields := by
  simp only [ofFields, of, Option.bind_some, nonempty?_nominated h, Option.map_some]
  exact nonempty?_joinValues_valuesOf name fields

end Forwarding.HeaderSet
