import Forwarding.Header.Name
import Forwarding.Proofs.Text.LowerCase

/-!
Folded header names. Folding a name again changes nothing, and exactly the blank names fold to
nothing.
-/
namespace Forwarding.HeaderName

def IsBlank (name : Option Text) : Prop := ∀ t ∈ name, ∀ c ∈ t, Text.isBlank c

theorem isTrimmed_fold (name : Text) : Text.IsTrimmed Text.isBlank (fold name) :=
  Text.isTrimmed_lower (Text.isTrimmed_trim Text.isBlank name)

/-- A folded name is in the form in which names are compared. -/
theorem fold_fold (name : Text) : fold (fold name) = fold name := by
  calc fold (fold name)
      = Text.lower (fold name) := congrArg Text.lower (isTrimmed_fold name).trim_eq
    _ = fold name := Text.lower_lower (Text.strip name)

theorem fold_eq_nil_iff {name : Text} : fold name = [] ↔ ∀ c ∈ name, Text.isBlank c := by
  rw [fold, Text.lower, Text.lowerAfter_eq_nil_iff, Text.strip, Text.trim_eq_nil_iff]

theorem normalize?_some (name : Text) : normalize? (some name) = Text.nonempty? (fold name) := rfl

theorem normalize?_eq_none_iff {name : Option Text} : normalize? name = none ↔ IsBlank name := by
  cases name with
  | none => simp [normalize?, IsBlank]
  | some t => simp [normalize?_some, Text.nonempty?, fold_eq_nil_iff, IsBlank]

theorem normalize?_of_not_blank {name : Text} (h : ¬IsBlank (some name)) :
    normalize? (some name) = some (fold name) := by
  have hne : fold name ≠ [] := by
    intro hnil
    exact h (normalize?_eq_none_iff.mp (by simp [normalize?_some, hnil]))
  rw [normalize?_some, Text.nonempty?, if_neg hne]

/-- Normalizing a folded name gives that name. -/
theorem normalize?_fold {name : Text} (h : ¬IsBlank (some name)) :
    normalize? (some (fold name)) = some (fold name) := by
  calc normalize? (some (fold name))
      = Text.nonempty? (fold (fold name)) := rfl
    _ = Text.nonempty? (fold name) := by rw [fold_fold]
    _ = some (fold name) := normalize?_of_not_blank h

/-- A normalized name is in its normal form. -/
theorem normalize?_of_normalize? {name : Option Text} {folded : Text}
    (h : normalize? name = some folded) : normalize? (some folded) = some folded := by
  have hname : ¬IsBlank name := by
    intro hblank
    rw [normalize?_eq_none_iff.mpr hblank] at h
    simp at h
  cases name with
  | none => exact absurd (by simp [IsBlank]) hname
  | some t =>
    rw [normalize?_of_not_blank hname] at h
    rw [← Option.some.inj h, normalize?_fold hname]

end Forwarding.HeaderName
