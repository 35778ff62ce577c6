import Forwarding.Header.Role

/-! The forwarding headers of one request, gathered from pairs or from raw lines. -/
namespace Forwarding

/-- The values of the nine forwarding headers, and the name and value of a header that an operator
nominated. No entry is empty. -/
structure HeaderSet where
  value : Role → Option Text
  customName : Option Text
  customValue : Option Text
  value_ne : ∀ role, value role ≠ some []
  customName_ne : customName ≠ some []
  customValue_ne : customValue ≠ some []

namespace HeaderSet

theorem bind_nonempty?_ne (t : Option Text) : t.bind Text.nonempty? ≠ some [] := by
  cases t with
  | none => simp
  | some t => cases t <;> simp

/-- The set with the given entries; empty ones count as absent. -/
def of (value : Role → Option Text) (customName customValue : Option Text) : HeaderSet where
  value role := (value role).bind Text.nonempty?
  customName := customName.bind Text.nonempty?
  customValue := customValue.bind Text.nonempty?
  value_ne _ := bind_nonempty?_ne _
  customName_ne := bind_nonempty?_ne _
  customValue_ne := bind_nonempty?_ne _

def empty : HeaderSet := of (fun _ => none) none none

def present (h : HeaderSet) : List Role := Role.all.filter fun role => (h.value role).isSome

/-- A header field as received; the value may be missing. -/
abbrev Field := Text × Option Text

def foldNames (fields : List Field) : List Field :=
  fields.map fun field => (HeaderName.fold field.1, field.2)

def valuesOf (name : Text) (fields : List Field) : List Text :=
  fields.filterMap fun field => if field.1 = name then field.2.bind Text.nonempty? else none

def joinValues (values : List Text) : Text := [',', ' '].intercalate values

/-- Gathers fields by name; case and outer whitespace of names do not count. The nominated header
is gathered in addition to the nine. -/
def ofFields (fields : List Field) (customHeader : Option Text) : HeaderSet :=
  let folded := foldNames fields
  let custom := (customHeader.bind Text.nonempty?).map HeaderName.fold
  of (fun role => joinValues (valuesOf role.foldedName folded)) custom
    (custom.map fun name => joinValues (valuesOf name folded))

def isValuePadding (c : Char) : Bool := c = ' ' || c = '\t' || c = '\r' || c = '\n'

/-- The field that a raw line spells. The name ends at the first colon and holds no whitespace
between its characters; other lines are no fields. -/
def fieldOfLine? (line : Text) : Option Field :=
  match Text.cut? ':' line with
  | none => none
  | some (name, value) =>
    let name := Text.strip name
    if name = [] ∨ name.any Text.isBlank then none
    else some (name, some (Text.trim isValuePadding value))

def ofLines (lines : List Text) (customHeader : Option Text) : HeaderSet :=
  ofFields (lines.filterMap fieldOfLine?) customHeader

end HeaderSet
end Forwarding
