import Forwarding.Text.Blank
import Forwarding.Text.LowerCase

/-! Header names in the form in which they are compared. -/
namespace Forwarding.HeaderName

def fold (name : Text) : Text := Text.lower (Text.strip name)

/-- The folded name; a blank one counts as absent. -/
def normalize? (name : Option Text) : Option Text := (name.map fold).bind Text.nonempty?

end Forwarding.HeaderName
