import Forwarding.Text.Digit
import Forwarding.Text.PrintableTable

/-! Texts and byte rows between quotation marks, as messages show them. -/
namespace Forwarding.Text

def isPrintable (c : Char) : Bool :=
  !hiddenRanges.any fun range => range.1 ≤ c.toNat && c.toNat ≤ range.2

/-- Single quotation marks, unless the text holds single ones and no double ones. -/
def quoteFor (t : Text) : Char :=
  if '\'' ∈ t ∧ '"' ∉ t then '"' else '\''

def escapedCode (n : Nat) : Text :=
  if n < 0x100 then "\\x" ++ ofNatPadded 16 2 n
  else if n < 0x10000 then "\\u" ++ ofNatPadded 16 4 n
  else "\\U" ++ ofNatPadded 16 8 n

def escapedChar (quote : Char) (visible : Char → Bool) (c : Char) : Text :=
  if c = '\\' ∨ c = quote then ['\\', c]
  else if c = '\t' then "\\t"
  else if c = '\n' then "\\n"
  else if c = '\r' then "\\r"
  else if visible c then [c]
  else escapedCode c.toNat

def quoted (t : Text) : Text :=
  let quote := quoteFor t
  quote :: t.flatMap (escapedChar quote isPrintable) ++ [quote]

def quotedBytes (bytes : List UInt8) : Text :=
  let t : Text := bytes.map fun b => Char.ofNat b.toNat
  let quote := quoteFor t
  'b' :: quote :: t.flatMap (escapedChar quote fun c => ' ' ≤ c ∧ c ≤ '~') ++ [quote]

end Forwarding.Text
