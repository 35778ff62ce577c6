import Forwarding.HeaderValue.Selection

/-! The choice among addresses in one closed form: the first public one, or else the first private. -/
namespace Forwarding.Selection

def preferred (found : List Literal) : Option Literal :=
  found.find? (!·.isPrivate) <|> found.find? (·.isPrivate)

theorem settles_none : settles none = false := rfl

theorem settles_some (l : Literal) : settles (some l) = !l.isPrivate := rfl

/-- A scan that has found no public address yet goes on to the first public one, and otherwise
keeps its private one or takes the first. -/
theorem result_offerEach (kept : Option Literal) (offers : List (Option Literal)) :
    (offerEach ⟨none, kept⟩ offers).result =
      ((offers.filterMap id).find? (!·.isPrivate) <|>
        (kept <|> (offers.filterMap id).find? (·.isPrivate))) := by
  induction offers generalizing kept with
  | nil => simp [offerEach, result]
  | cons offer offers ih =>
    cases offer with
    | none => simpa [offerEach, settles, Selection.offer] using ih kept
    | some l =>
      cases hl : l.isPrivate with
      | true =>
        rw [offerEach, settles_some, hl, if_neg (by simp), Selection.offer, if_pos hl, ih]
        cases kept <;> simp [hl]
      | false => simp [offerEach, settles_some, Selection.offer, hl, result]

theorem choose_eq_preferred (offers : List (Option Literal)) :
    choose offers = preferred (offers.filterMap id) := by
  unfold choose empty preferred
  rw [result_offerEach]
  simp

theorem preferred_eq_none_iff (found : List Literal) : preferred found = none ↔ found = [] := by
  cases found with
  | nil => simp [preferred]
  | cons l found => cases hl : l.isPrivate <;> simp [preferred, hl]

theorem preferred_singleton (l : Literal) : preferred [l] = some l := by
  cases hl : l.isPrivate <;> simp [preferred, hl]

theorem preferred_toList (found : Option Literal) : preferred found.toList = found := by
  cases found with
  | none => rfl
  | some l => exact preferred_singleton l

theorem mem_of_preferred {found : List Literal} {l : Literal} (h : preferred found = some l) :
    l ∈ found := by
  have hcases : found.find? (!·.isPrivate) = some l ∨
      found.find? (!·.isPrivate) = none ∧ found.find? (·.isPrivate) = some l := by
    simpa only [preferred, Option.orElse_eq_orElse, Option.orElse_eq_or,
      Option.or_eq_some_iff] using h
  rcases hcases with hpublic | ⟨-, hprivate⟩
  · exact List.mem_of_find?_eq_some hpublic
  · exact List.mem_of_find?_eq_some hprivate

/-- Joins the choices from two texts, the earlier one first: a public address wins, and of private
ones the first. -/
def combine (earlier later : Option Literal) : Option Literal :=
  if settles earlier then earlier
  else if settles later then later
  else earlier.or later

theorem combine_none_left (later : Option Literal) : combine none later = later := by
  cases hlater : settles later <;> simp [combine, settles_none, hlater]

theorem preferred_append (left right : List Literal) :
    preferred (left ++ right) = combine (preferred left) (preferred right) := by
  have hprivate {found : List Literal} : settles (found.find? (·.isPrivate)) = false := by
    cases hfound : found.find? (·.isPrivate) with
    | none => rfl
    | some l => simpa [settles] using List.find?_some hfound
  have hpublic {found : List Literal} {l : Literal} (h : found.find? (!·.isPrivate) = some l) :
      settles (some l) := by
    simpa [settles] using List.find?_some h
  unfold preferred combine
  rw [List.find?_append, List.find?_append]
  cases hleft : left.find? (!·.isPrivate) with
  | some l => simp [hpublic hleft]
  | none =>
    cases hright : right.find? (!·.isPrivate) with
    | some r => simp [hpublic hright, hprivate]
    | none => simp [hprivate]

theorem foldl_combine {α : Type} (T : α → List Literal) (as : List α) (found : List Literal) :
    (as.map fun a => preferred (T a)).foldl combine (preferred found) =
      preferred (found ++ as.flatMap T) := by
  induction as generalizing found with
  | nil => simp
  | cons a as ih =>
    rw [List.map_cons, List.foldl_cons, ← preferred_append, ih, List.flatMap_cons,
      List.append_assoc]

end Forwarding.Selection
