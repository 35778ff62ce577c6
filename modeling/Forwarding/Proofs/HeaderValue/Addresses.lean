import Forwarding.HeaderValue.Form
import Forwarding.Proofs.HeaderValue.Parameters

/-!
All addresses in a header value, form by form and without stopping early. The address chosen from a
value is the preferred one among them.
-/
namespace Forwarding

namespace Via

def words (t : Text) : List Text := (t.splitOnP isGap).filter (· ≠ [])

@[simp] theorem words_nil : words [] = [] := by simp [words]

theorem words_append_gap {gap : Char} (hgap : isGap gap) (left right : Text) :
    words (left ++ gap :: right) = words left ++ words right := by
  unfold words
  rw [List.splitOnP_append_cons left right hgap, List.filter_append]

theorem words_cons_gap {gap : Char} (hgap : isGap gap) (t : Text) : words (gap :: t) = words t := by
  simpa using words_append_gap hgap [] t

theorem words_of_no_gap {t : Text} (h : ∀ c ∈ t, isGap c = false) :
    words t = (Text.nonempty? t).toList := by
  rw [words, List.splitOnP_eq_singleton h]
  cases t <;> simp

theorem words_dropWhile (t : Text) : words (t.dropWhile isGap) = words t := by
  induction t with
  | nil => rfl
  | cons c rest ih =>
    by_cases hc : isGap c
    · rw [List.dropWhile_cons_of_pos hc, ih, words_cons_gap hc]
    · rw [List.dropWhile_cons_of_neg hc]

/-- The first word stands in front of the words of what follows it. -/
theorem words_eq (t : Text) : words t = (word? t).toList ++ words (afterWord t) := by
  have hword : words ((t.dropWhile isGap).takeWhile (!isGap ·)) = (word? t).toList := by
    apply words_of_no_gap
    intro c hc
    simpa using List.all_eq_true.mp List.all_takeWhile c hc
  rw [← words_dropWhile, ← hword, afterWord]
  have hsplit := List.takeWhile_append_dropWhile (p := (!isGap ·)) (l := t.dropWhile isGap)
  cases hrest : (t.dropWhile isGap).dropWhile (!isGap ·) with
  | nil =>
    rw [hrest, List.append_nil] at hsplit
    rw [hsplit, words_nil, List.append_nil]
  | cons gap rest =>
    have hgap : isGap gap := by simpa using Text.not_of_dropWhile_eq_cons hrest
    rw [hrest] at hsplit
    rw [words_cons_gap hgap, ← words_append_gap hgap, hsplit]

theorem afterWord_eq_nil {t : Text} (h : word? t = none) : afterWord t = [] := by
  unfold word? at h
  unfold afterWord
  cases hstart : t.dropWhile isGap with
  | nil => rfl
  | cons c rest =>
    have hc : isGap c = false := Text.not_of_dropWhile_eq_cons hstart
    simp [hstart, hc] at h

/-- The receiver of a hop is its second word. -/
theorem receiver?_eq_getElem? (hop : Text) : receiver? hop = (words hop)[1]? := by
  unfold receiver?
  rw [words_eq hop]
  cases hfirst : word? hop with
  | none =>
    rw [afterWord_eq_nil hfirst]
    rfl
  | some first =>
    rw [words_eq (afterWord hop)]
    cases hsecond : word? (afterWord hop) with
    | none => simp [afterWord_eq_nil hsecond]
    | some second => simp

end Via

/-- All addresses in a header value of the form, in order. A plain list spells them between commas,
parameters in the values of `for`, and a hop in its second word. -/
def ValueForm.addresses : ValueForm → Text → List Literal
  | .plain, value =>
    (value.splitOn ',').filterMap fun entry => Literal.ofToken? (entry.dropWhile (· = ' '))
  | .forwarded, value => Forwarded.addresses value
  | .via, value =>
    (value.splitOn ',').filterMap fun hop => (Via.words hop)[1]?.bind Literal.ofHostPort?

/-- No early exit changes the choice: it is the preferred one of all addresses in the value. -/
theorem ValueForm.choose_eq_preferred (form : ValueForm) (value : Text) :
    form.choose value = Selection.preferred (form.addresses value) := by
  cases form with
  | plain =>
    simp only [choose, addresses, PlainList.choose, Selection.choose_eq_preferred,
      Text.pieces_eq_splitOn, List.filterMap_map]
    rfl
  | forwarded => exact Forwarded.choose_eq_preferred value
  | via =>
    simp only [choose, addresses, Via.choose, Selection.choose_eq_preferred,
      Text.pieces_eq_splitOn, List.filterMap_map, ← Via.receiver?_eq_getElem?]
    rfl

theorem ValueForm.addresses_nil (form : ValueForm) : form.addresses [] = [] := by
  cases form with
  | plain => rfl
  | forwarded =>
    simp [addresses, Forwarded.addresses, Forwarded.parameters_eq_nil, Forwarded.forValues]
  | via => simp [addresses]

theorem ValueForm.choose?_some (form : ValueForm) (value : Text) :
    form.choose? (some value) = Selection.preferred (form.addresses value) := by
  cases value with
  | nil =>
    rw [addresses_nil]
    rfl
  | cons c rest => exact choose_eq_preferred form (c :: rest)

end Forwarding
