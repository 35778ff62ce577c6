import Forwarding.HeaderValue.Selection

/-! Header values that list bare addresses between commas. -/
namespace Forwarding.PlainList

/-- The address that an entry spells. Spaces in front of it do not count. -/
def entry? (t : Text) : Option Literal := Literal.ofToken? (t.dropWhile (· = ' '))

def choose (value : Text) : Option Literal :=
  Selection.choose ((Text.pieces ',' value).map entry?)

end Forwarding.PlainList
