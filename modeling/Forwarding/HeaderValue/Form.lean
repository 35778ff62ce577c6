import Forwarding.HeaderValue.Forwarded
import Forwarding.HeaderValue.PlainList
import Forwarding.HeaderValue.Via

/-! The forms in which forwarding headers list addresses. -/
namespace Forwarding

inductive ValueForm where
  | plain
  | forwarded
  | via
  deriving DecidableEq, Repr

namespace ValueForm

def word : ValueForm → Text
  | .plain => "plain"
  | .forwarded => "forwarded"
  | .via => "via"

def choose : ValueForm → Text → Option Literal
  | .plain => PlainList.choose
  | .forwarded => Forwarded.choose
  | .via => Via.choose

def choose? (form : ValueForm) (value : Option Text) : Option Literal :=
  (value.bind Text.nonempty?).bind form.choose

end ValueForm
end Forwarding
