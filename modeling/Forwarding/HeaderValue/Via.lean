import Forwarding.HeaderValue.Selection

/-! Header values that list hops between commas: a protocol, the receiver, and perhaps a comment. -/
namespace Forwarding.Via

def isGap (c : Char) : Bool := c = ' ' || c = '\t'

def afterWord (t : Text) : Text := (t.dropWhile isGap).dropWhile (!isGap ·)

def word? (t : Text) : Option Text :=
  Text.nonempty? ((t.dropWhile isGap).takeWhile (!isGap ·))

/-- The second word of a hop, which names the receiver. -/
def receiver? (hop : Text) : Option Text := word? (afterWord hop)

def hop? (hop : Text) : Option Literal := (receiver? hop).bind Literal.ofHostPort?

def choose (value : Text) : Option Literal :=
  Selection.choose ((Text.pieces ',' value).map hop?)

end Forwarding.Via
