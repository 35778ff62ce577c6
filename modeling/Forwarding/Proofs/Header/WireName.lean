import Forwarding.Proofs.Header.Gathering
import Forwarding.Proofs.Text.AsciiCase

/-!
The names of the well-known headers as they are received. A name finds a role exactly when it is the
name of its header, the case of ASCII letters and outer whitespace apart.
-/
namespace Forwarding

namespace Role

variable {name : Text} {role other : Role}

/-- A received name spells a header name: without outer whitespace it is the same character for
character, except for the case of ASCII letters. -/
def IsSpelling (name headerName : Text) : Prop :=
  (Text.strip name).map Char.toLower = headerName.map Char.toLower

instance (name headerName : Text) : Decidable (IsSpelling name headerName) :=
  inferInstanceAs (Decidable ((Text.strip name).map Char.toLower = headerName.map Char.toLower))

theorem isAscii_lower_headerName (role : Role) :
    ∀ d ∈ role.headerName.map Char.toLower, Text.IsAscii d ∧ d ≠ 'k' := by
  have hall : (role.headerName.map Char.toLower).all (fun d => Text.IsAscii d ∧ d ≠ 'k') := by
    cases role <;> decide
  simpa using hall

theorem lower_headerName (role : Role) :
    Text.lower role.headerName = role.headerName.map Char.toLower :=
  (Text.lower_eq_iff role.isAscii_lower_headerName).mpr rfl

theorem ofHeaderName?_eq_some_iff_isSpelling :
    ofHeaderName? name = some role ↔ IsSpelling name role.headerName := by
  rw [ofHeaderName?_eq_some_iff, lower_headerName]
  exact Text.lower_eq_iff role.isAscii_lower_headerName

theorem IsSpelling.isAscii (h : IsSpelling name role.headerName) :
    ∀ c ∈ Text.strip name, Text.IsAscii c := by
  apply Text.isAscii_of_map_toLower
  rw [h]
  exact fun d hd => (role.isAscii_lower_headerName d hd).1

theorem IsSpelling.role_eq (h : IsSpelling name role.headerName)
    (hother : IsSpelling name other.headerName) : other = role := by
  have hfound := ofHeaderName?_eq_some_iff_isSpelling.mpr h
  rw [ofHeaderName?_eq_some_iff_isSpelling.mpr hother] at hfound
  exact Option.some.inj hfound

theorem not_isBlank_of_ofHeaderName? (h : ofHeaderName? name = some role) :
    ¬HeaderName.IsBlank (some name) := by
  intro hblank
  have hnil : HeaderName.fold name = [] := HeaderName.fold_eq_nil_iff.mpr (hblank name rfl)
  rw [ofHeaderName?_eq_some_iff, hnil] at h
  revert h
  cases role <;> decide

end Role

namespace HeaderSet

theorem value_ofFields (fields : List Field) (customHeader : Option Text) (role : Role) :
    (ofFields fields customHeader).value role = received? role.headerName fields :=
  nonempty?_joinValues_valuesOf role.headerName fields

theorem received?_congr {name other : Text} (h : HeaderName.fold name = HeaderName.fold other)
    (fields : List Field) : received? name fields = received? other fields := by
  have harrivals : arrivals name fields = arrivals other fields := by rw [arrivals, h, arrivals]
  rw [received?, received?, harrivals]

end HeaderSet

namespace Role

/-- Look-up of a received name. It finds a role exactly for the spellings of the name of its header,
which hold no character outside ASCII and which no other role shares. A header that is nominated by
such a name has the value of its role. -/
theorem ofHeaderName?_exact (name : Text) (role : Role) :
    (ofHeaderName? name = some role ↔ IsSpelling name role.headerName) ∧
    (IsSpelling name role.headerName →
      (∀ c ∈ Text.strip name, Text.IsAscii c) ∧
        ∀ other : Role, IsSpelling name other.headerName → other = role) ∧
    (ofHeaderName? name = some role → ∀ fields,
      (HeaderSet.ofFields fields (some name)).customValue =
        (HeaderSet.ofFields fields (some name)).value role) := by
  refine ⟨ofHeaderName?_eq_some_iff_isSpelling, fun h => ⟨h.isAscii, fun _ => h.role_eq⟩, ?_⟩
  intro h fields
  have hfold : HeaderName.fold name = HeaderName.fold role.headerName := by
    rw [ofHeaderName?_eq_some_iff.mp h, ← foldedName_eq_lower]
    rfl
  rw [HeaderSet.customValue_ofFields (not_isBlank_of_ofHeaderName? h), HeaderSet.value_ofFields,
    HeaderSet.received?_congr hfold]

/-- The well-known name in mixed case after a no-break space, nominated for two fields of it, and a
look-alike with a dotted capital I, which has another lower-case form. -/
theorem ofHeaderName?_exact_lookalike :
    let name : Text := "\u00a0x-REAL-ip"
    let fields : List HeaderSet.Field := [("X-Real-IP", some "10.0.0.1"), ("x-real-ip", some "::1")]
    ofHeaderName? name = some .xRealIp ∧
      (HeaderSet.ofFields fields (some name)).customValue = some "10.0.0.1, ::1".toList ∧
      ofHeaderName? "X-Real-\u0130P" ≠ some .xRealIp := by
  intro name fields
  have hname : ofHeaderName? name = some .xRealIp :=
    (ofHeaderName?_exact name .xRealIp).1.mpr (by decide)
  refine ⟨hname, ?_, ?_⟩
  · rw [(ofHeaderName?_exact name .xRealIp).2.2 hname fields]
    decide +kernel
  · exact (ofHeaderName?_exact _ .xRealIp).1.not.mpr (by decide)

end Role
end Forwarding
