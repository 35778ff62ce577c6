import Forwarding.Text.Basic

/-! Lines of a text, and line ends in one form. -/
namespace Forwarding.Text

def isLineBreak (c : Char) : Bool :=
  let n := c.toNat
  (0x0a ≤ n && n ≤ 0x0d) || (0x1c ≤ n && n ≤ 0x1e) || n = 0x85 || n = 0x2028 || n = 0x2029

/-- Lines of a text after some characters of its first line. A carriage return and the line feed
behind it are one break, and nothing follows a break at the end. -/
def linesFrom (start : Text) : Text → List Text
  | [] => if start = [] then [] else [start.reverse]
  | '\r' :: '\n' :: rest => start.reverse :: linesFrom [] rest
  | c :: rest =>
    if isLineBreak c then start.reverse :: linesFrom [] rest else linesFrom (c :: start) rest

def lines (t : Text) : List Text := linesFrom [] t

/-- Carriage returns, with or without a line feed behind them, become line feeds. -/
def unifyLineEnds : Text → Text
  | [] => []
  | '\r' :: '\n' :: rest => '\n' :: unifyLineEnds rest
  | c :: rest => (if c = '\r' then '\n' else c) :: unifyLineEnds rest

end Forwarding.Text
