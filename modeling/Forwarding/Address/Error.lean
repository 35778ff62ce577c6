import Forwarding.Address.Literal
import Forwarding.Text.Quoted

/-! What can be wrong with the parts of an address, and the messages for it. -/
namespace Forwarding

inductive AddressError where
  | wrongWidth (family : Family) (bytes : List UInt8)
  | notAnAddress (text : Text)
  deriving DecidableEq

namespace AddressError

def message : AddressError → Text
  | .wrongWidth family bytes =>
    family.name ++ " address must be " ++ Text.decimal family.width ++ " bytes, got "
      ++ Text.decimal bytes.length ++ ": " ++ Text.quotedBytes bytes
  | .notAnAddress text => Text.quoted text ++ " does not appear to be an IPv4 or IPv6 address"

end AddressError

def Address.ofBytes (family : Family) (bytes : List UInt8) : Except AddressError Address :=
  match ofBytes? family bytes with
  | some a => .ok a
  | none => .error (.wrongWidth family bytes)

def Address.read (t : Text) : Except AddressError Address :=
  match read? t with
  | some a => .ok a
  | none => .error (.notAnAddress t)

def Literal.parse (t : Text) : Except AddressError Literal :=
  match parse? t with
  | some l => .ok l
  | none => .error (.notAnAddress t)

end Forwarding
