/-! Texts as lists of characters: cutting at a separator, trimming and padding. -/
namespace Forwarding

/-- A text is the list of its characters, so that lengths and positions count characters. -/
abbrev Text := List Char

/-- A quoted constant stands for the list of its characters. -/
scoped instance : Coe String Text := ⟨String.toList⟩

namespace Text

/-- The pieces of a text between separators; there is one more piece than separators. -/
def pieces (sep : Char) : Text → List Text
  | [] => [[]]
  | c :: rest =>
    if c = sep then [] :: pieces sep rest
    else
      match pieces sep rest with
      | [] => [[c]]
      | piece :: others => (c :: piece) :: others

theorem pieces_ne_nil (sep : Char) (t : Text) : pieces sep t ≠ [] := by
  induction t with
  | nil => simp [pieces]
  | cons c rest ih =>
    by_cases h : c = sep
    · simp [pieces, h]
    · cases hp : pieces sep rest with
      | nil => exact absurd hp ih
      | cons => simp [pieces, h, hp]

def cut? (sep : Char) : Text → Option (Text × Text)
  | [] => none
  | c :: rest =>
    if c = sep then some ([], rest)
    else (cut? sep rest).map fun sides => (c :: sides.1, sides.2)

/-- The text up to the first separator, all of it when there is none. -/
def before (sep : Char) (t : Text) : Text :=
  t.takeWhile (· != sep)

theorem cut?_eq_some {sep : Char} {t l r : Text} (h : cut? sep t = some (l, r)) :
    t = l ++ sep :: r ∧ sep ∉ l := by
  induction t generalizing l with
  | nil => simp [cut?] at h
  | cons c rest ih =>
    by_cases hc : c = sep
    · simp only [cut?, hc, if_true, Option.some.injEq, Prod.mk.injEq] at h
      simp [hc, ← h.1, ← h.2]
    · simp only [cut?, hc, if_false, Option.map_eq_some_iff, Prod.exists, Prod.mk.injEq] at h
      obtain ⟨l', r', hrest, hl, hr⟩ := h
      subst hl hr
      obtain ⟨hsplit, hmem⟩ := ih hrest
      exact ⟨by simp [hsplit], by simp [hmem, Ne.symm hc]⟩

def trim (p : Char → Bool) (t : Text) : Text :=
  ((t.dropWhile p).reverse.dropWhile p).reverse

def padRight (width : Nat) (t : Text) : Text :=
  t ++ List.replicate (width - t.length) ' '

def nonempty? (t : Text) : Option Text :=
  if t = [] then none else some t

@[simp] theorem nonempty?_nil : nonempty? [] = none := rfl

@[simp] theorem nonempty?_cons (c : Char) (t : Text) : nonempty? (c :: t) = some (c :: t) := by
  simp [nonempty?]

end Text
end Forwarding
