import Forwarding.Address.Literal
import Forwarding.Range.Private

/-!
The choice among the addresses of one header: the first public one, or else the first private one.
-/
namespace Forwarding

namespace Literal

def isPrivate (l : Literal) : Bool := l.address.isPrivate

end Literal

structure Selection where
  publicPick : Option Literal
  privatePick : Option Literal
  deriving DecidableEq

namespace Selection

def empty : Selection := ⟨none, none⟩

def settles (offer : Option Literal) : Bool := offer.any (!·.isPrivate)

/-- Records an offer. Of private addresses the first is kept. -/
def offer (s : Selection) : Option Literal → Selection
  | none => s
  | some l =>
    if l.isPrivate then ⟨s.publicPick, s.privatePick <|> some l⟩ else ⟨some l, s.privatePick⟩

def result (s : Selection) : Option Literal := s.publicPick <|> s.privatePick

def offerEach (s : Selection) : List (Option Literal) → Selection
  | [] => s
  | l :: rest => if settles l then s.offer l else offerEach (s.offer l) rest

def choose (offers : List (Option Literal)) : Option Literal := (empty.offerEach offers).result

end Selection
end Forwarding
