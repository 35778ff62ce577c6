import Forwarding.Proofs.HeaderValue.Parameters

/-!
The scan of a text in two parts. What it completes in the first part does not depend on the second,
and the second is scanned from the state in which the first part ends.
-/
namespace Forwarding.Forwarded

variable {state : State} {left : Text}

namespace State

def after (state : State) (t : Text) : State := t.foldl next state

def isOpen : State → Bool
  | .key _ => true
  | .quoted _ _ _ => true
  | _ => false

@[simp] theorem after_nil (state : State) : state.after [] = state := rfl

@[simp] theorem after_cons (state : State) (c : Char) (t : Text) :
    state.after (c :: t) = (state.next c).after t := rfl

theorem after_append (state : State) (left right : Text) :
    state.after (left ++ right) = (state.after left).after right :=
  List.foldl_append

end State

/-- The values that the characters of a text complete, before it is known that the text ends. -/
def completedWithin : State → Text → List Text
  | _, [] => []
  | state, c :: rest => (state.completed? c).toList ++ completedWithin (state.next c) rest

theorem completed_append (state : State) (left right : Text) :
    completed state (left ++ right) =
      completedWithin state left ++ completed (state.after left) right := by
  induction left generalizing state with
  | nil => rfl
  | cons c left ih =>
    simp only [List.cons_append, completed, completedWithin, State.after_cons, ih,
      List.append_assoc]

theorem completed_eq (state : State) (t : Text) :
    completed state t = completedWithin state t ++ (state.after t).atEnd?.toList := by
  have happend := completed_append state t []
  rwa [List.append_nil] at happend

/-- A text that ends between parameters is scanned apart from what follows. -/
theorem completed_append_of_between (h : state.after left = .between) (right : Text) :
    completed state (left ++ right) = completed state left ++ completed .between right := by
  rw [completed_append, completed_eq state left, h]
  simp [State.atEnd?]

/-- Outside of keys and quotes, a comma ends a parameter as the end of the text does. -/
theorem completed_comma (h : state.isOpen = false) (rest : Text) :
    completed state (',' :: ' ' :: rest) = state.atEnd?.toList ++ completed .between rest := by
  have hspace : completed .between (' ' :: rest) = completed .between rest := by
    rw [completed_between_cons, if_pos (by decide)]
  cases state with
  | between =>
    rw [completed_between_cons, if_pos (by decide), hspace]
    rfl
  | beforeValue wanted =>
    rw [completed_beforeValue_cons, if_neg (by decide), if_pos (by decide), hspace]
    rfl
  | token wanted read =>
    rw [completed_token_cons, if_pos (by decide), hspace]
    cases wanted <;> rfl
  | key read => simp [State.isOpen] at h
  | quoted wanted read escaped => simp [State.isOpen] at h

theorem completed_append_comma (h : (state.after left).isOpen = false) (right : Text) :
    completed state (left ++ ',' :: ' ' :: right) =
      completed state left ++ completed .between right := by
  rw [completed_append, completed_comma h, completed_eq state left, List.append_assoc]

theorem addresses_eq_completed (value : Text) :
    addresses value = (completed .between value).filterMap Literal.ofHostPort? := by
  rw [addresses, completed_between]

theorem addresses_append_comma (h : (State.between.after left).isOpen = false) (right : Text) :
    addresses (left ++ ',' :: ' ' :: right) = addresses left ++ addresses right := by
  simp only [addresses_eq_completed, completed_append_comma h, List.filterMap_append]

end Forwarding.Forwarded
