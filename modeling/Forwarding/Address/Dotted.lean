import Forwarding.Text.Digit

/-! Dotted quads: four decimal octets joined by dots. -/
namespace Forwarding.Dotted

/-- An octet is one to three decimal digits, at most 255. Only `0` itself begins with zero. -/
def octet? (t : Text) : Option UInt8 :=
  if t.length ≤ 3 ∧ (t.head? = some '0' → t = ['0']) then
    (Text.numeral? 10 t).bind fun n => if n < 256 then some (UInt8.ofNat n) else none
  else none

def bytes? (t : Text) : Option (List UInt8) :=
  let octets := Text.pieces '.' t
  if octets.length = 4 then octets.mapM octet? else none

def render (bytes : List UInt8) : Text :=
  ['.'].intercalate (bytes.map fun b => Text.decimal b.toNat)

end Forwarding.Dotted
