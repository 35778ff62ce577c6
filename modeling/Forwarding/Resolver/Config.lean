import Forwarding.Header.Name

/-! The configuration of a resolver. -/
namespace Forwarding

/-- The header that is trusted exclusively, if one is configured. -/
structure Config where
  trusted : Option Text
  deriving DecidableEq

namespace Config

def trusting (name : Option Text) : Config := ⟨HeaderName.normalize? name⟩

def default : Config := ⟨none⟩

end Config
end Forwarding
