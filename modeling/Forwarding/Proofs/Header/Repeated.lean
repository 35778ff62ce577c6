import Forwarding.Header.Set
import Forwarding.Proofs.HeaderValue.Addresses
import Forwarding.Proofs.HeaderValue.Scan

/-!
Headers that are repeated. Their values are read as one list with commas, and the address chosen
from the list combines the addresses chosen from the single values.
-/
namespace Forwarding.ValueForm

open HeaderSet (joinValues)

/-- The space behind a comma changes no element of the list. -/
theorem filterMap_splitOn_append {f : Text → Option Literal} (hf : ∀ t, f (' ' :: t) = f t)
    (left right : Text) :
    ((left ++ ',' :: ' ' :: right).splitOn ',').filterMap f =
      (left.splitOn ',').filterMap f ++ (right.splitOn ',').filterMap f := by
  obtain ⟨piece, pieces, hpieces⟩ := List.exists_cons_of_ne_nil (List.splitOn_ne_nil ',' right)
  have hspace : (' ' :: right).splitOn ',' = (' ' :: piece) :: pieces := by
    rw [List.splitOn_cons_eq_if_modifyHead, if_neg (by decide), hpieces]
    rfl
  rw [List.splitOn_append_cons_self, List.filterMap_append, hspace, hpieces, List.filterMap_cons,
    List.filterMap_cons, hf]

theorem addresses_append_comma {form : ValueForm} {left : Text}
    (hseam : form = .forwarded → (Forwarded.State.between.after left).isOpen = false)
    (right : Text) :
    form.addresses (left ++ ',' :: ' ' :: right) = form.addresses left ++ form.addresses right := by
  cases form with
  | plain =>
    apply filterMap_splitOn_append
    intro entry
    rw [List.dropWhile_cons_of_pos (by decide)]
  | forwarded => exact Forwarded.addresses_append_comma (hseam rfl) right
  | via =>
    apply filterMap_splitOn_append
    intro hop
    rw [Via.words_cons_gap rfl]

theorem addresses_joinValues {form : ValueForm} {values : List Text}
    (hseam : form = .forwarded →
      ∀ value ∈ values.dropLast, (Forwarded.State.between.after value).isOpen = false) :
    form.addresses (joinValues values) = values.flatMap form.addresses := by
  induction values with
  | nil => exact addresses_nil form
  | cons value values ih =>
    cases values with
    | nil => simp [joinValues]
    | cons next values =>
      rw [List.dropLast_cons_cons] at hseam
      have hjoin : joinValues (value :: next :: values) =
          value ++ ',' :: ' ' :: joinValues (next :: values) := by
        simp [joinValues, List.intercalate_cons_cons]
      have hrest := ih fun hform v hv => hseam hform v (List.mem_cons_of_mem value hv)
      have hfirst := addresses_append_comma
        (fun hform => hseam hform value (List.mem_cons_self ..)) (joinValues (next :: values))
      rw [hjoin, hfirst, hrest]
      rfl

/-- The address of a repeated header. It combines the addresses of the single values in their order,
so it is public when one of them has a public address. In a list of parameters each value but the
last has to end outside of keys and quotes, which would swallow the comma. -/
theorem choose_joinValues (form : ValueForm) (first : Text) (rest : List Text)
    (hseam : form = .forwarded →
      ∀ value ∈ (first :: rest).dropLast, (Forwarded.State.between.after value).isOpen = false) :
    form.choose? (some (joinValues (first :: rest))) =
      (rest.map fun value => form.choose? (some value)).foldl Selection.combine
        (form.choose? (some first)) := by
  have hfold := Selection.foldl_combine form.addresses rest (form.addresses first)
  simp only [choose?_some]
  rw [hfold, addresses_joinValues hseam]
  rfl

/-- The first value ends behind an equality sign and the second in a token, which the commas
complete. -/
theorem choose_joinValues_openToken :
    let first : Text := "for=10.0.0.1;by="
    let rest : List Text := ["proto=http;for=8.8.8.8", "for=\"[2001::1]\""]
    (∀ value ∈ (first :: rest).dropLast, (Forwarded.State.between.after value).isOpen = false) ∧
    ((ValueForm.forwarded.choose? (some (joinValues (first :: rest)))).map (·.spelling)) =
      some "8.8.8.8".toList := by
  intro first rest
  have hseam : ∀ value ∈ (first :: rest).dropLast,
      (Forwarded.State.between.after value).isOpen = false := by
    intro value hvalue
    have hall : (first :: rest).dropLast.all fun value =>
        !(Forwarded.State.between.after value).isOpen := by
      decide
    simpa using List.all_eq_true.mp hall value hvalue
  refine ⟨hseam, ?_⟩
  rw [choose_joinValues .forwarded first rest fun _ => hseam]
  decide +kernel

end Forwarding.ValueForm
