import Forwarding.Text.Basic

/-! Whitespace, and texts without it at their ends. -/
namespace Forwarding.Text

/-- Whitespace: the blank ASCII controls, the ASCII separators 28 to 31, and the characters that
Unicode calls space, line or paragraph separator. -/
def isBlank (c : Char) : Bool :=
  let n := c.toNat
  (0x09 ≤ n && n ≤ 0x0d) || (0x1c ≤ n && n ≤ 0x20) || n = 0x85 || n = 0xa0 || n = 0x1680
    || (0x2000 ≤ n && n ≤ 0x200a) || n = 0x2028 || n = 0x2029 || n = 0x202f || n = 0x205f
    || n = 0x3000

def strip (t : Text) : Text := trim isBlank t

end Forwarding.Text
