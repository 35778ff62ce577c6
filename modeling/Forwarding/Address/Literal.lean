import Forwarding.Address.Basic
import Forwarding.Address.Groups

/-! Numeric addresses in text: reading, canonical writing, and the spelling kept beside a value. -/
namespace Forwarding
namespace Address

/-- An IPv6 text without its zone. A zone follows a percent sign, is not empty and holds no
further percent sign. -/
def dropZone? (t : Text) : Option Text :=
  match Text.cut? '%' t with
  | none => some t
  | some (body, zone) => if zone = [] ∨ '%' ∈ zone then none else some body

def readIpv4? (t : Text) : Option Address :=
  (Dotted.bytes? t).bind (ofBytes? .ipv4)

/-- Reads groups with an optional zone; a slash is nowhere allowed. -/
def readIpv6? (t : Text) : Option Address :=
  if '/' ∈ t then none
  else ((dropZone? t).bind Groups.bytes?).bind (ofBytes? .ipv6)

def read? (t : Text) : Option Address :=
  readIpv4? t <|> readIpv6? t

def render (a : Address) : Text :=
  match a.family with
  | .ipv4 => Dotted.render a.bytes
  | .ipv6 => Groups.render a.bytes

end Address

/-- An address together with the text that spelled it. -/
structure Literal where
  address : Address
  spelling : Text
  deriving DecidableEq

namespace Literal

/-- An address with a spelling; the canonical text stands in for an empty one. -/
def of (address : Address) (spelling : Text) : Literal :=
  ⟨address, if spelling = [] then address.render else spelling⟩

/-- Reads any numeric address. One that stands for an IPv4 address is read as that. -/
def parse? (t : Text) : Option Literal :=
  (Address.read? t).map fun a => ⟨a.unmap, t⟩

/-- Reads a bare token of a header. It has to start with a decimal digit or a colon, which keeps
out host names and pseudonyms. -/
def ofToken? : Text → Option Literal
  | [] => none
  | c :: rest => if c.isDigit ∨ c = ':' then parse? (c :: rest) else none

/-- Reads a token that may carry a port. A bracketed address ends at the first closing bracket;
anything else ends at its first colon. -/
def ofHostPort? : Text → Option Literal
  | '[' :: rest => (Text.cut? ']' rest).bind fun sides => ofToken? sides.1
  | t => ofToken? (Text.before ':' t)

end Literal
end Forwarding
