import Forwarding.Header.Name
import Forwarding.HeaderValue.Form

/-! The nine well-known forwarding headers. -/
namespace Forwarding

/-- The forwarding headers, from the highest priority to the lowest. -/
inductive Role where
  | xForwardedFor
  | xRealIp
  | clientIp
  | xForwarded
  | xClusterClientIp
  | forwardedFor
  | forwarded
  | via
  | trueClientIp
  deriving DecidableEq, Repr

namespace Role

def all : List Role :=
  [.xForwardedFor, .xRealIp, .clientIp, .xForwarded, .xClusterClientIp, .forwardedFor, .forwarded,
    .via, .trueClientIp]

theorem mem_all (r : Role) : r ∈ all := by
  cases r <;> decide

def headerName : Role → Text
  | .xForwardedFor => "X-Forwarded-For"
  | .xRealIp => "X-Real-IP"
  | .clientIp => "Client-IP"
  | .xForwarded => "X-Forwarded"
  | .xClusterClientIp => "X-Cluster-Client-IP"
  | .forwardedFor => "Forwarded-For"
  | .forwarded => "Forwarded"
  | .via => "Via"
  | .trueClientIp => "True-Client-IP"

def shortName : Role → Text
  | .xForwardedFor => "x-forward-for"
  | .xRealIp => "x-real-ip"
  | .clientIp => "client-ip"
  | .xForwarded => "x-forwarded"
  | .xClusterClientIp => "x-cluster-client-ip"
  | .forwardedFor => "forwarded-for"
  | .forwarded => "forwarded"
  | .via => "via"
  | .trueClientIp => "true-client-ip"

def form : Role → ValueForm
  | .xForwarded | .forwarded => .forwarded
  | .via => .via
  | _ => .plain

def foldedName (role : Role) : Text := HeaderName.fold role.headerName

/-- The role of a header name; case and outer whitespace do not count. -/
def ofHeaderName? (name : Text) : Option Role :=
  let folded := HeaderName.fold name
  all.find? fun role => role.foldedName = folded

end Role
end Forwarding
