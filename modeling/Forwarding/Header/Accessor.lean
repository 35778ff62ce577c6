import Forwarding.Header.Set

/-! Read access to the headers of a request, where every read may fail. -/
namespace Forwarding

inductive Fault where
  | noHeaders
  | raised (kind message : Text)
  deriving DecidableEq

/-- Read access to the forwarding headers of one request. Absent and empty values are equivalent. -/
structure Accessor where
  customName : Except Fault (Option Text)
  customValue : Except Fault (Option Text)
  value : Role → Except Fault (Option Text)

namespace Accessor

/-- Stands for missing headers: every read fails. -/
def missing : Accessor where
  customName := .error .noHeaders
  customValue := .error .noHeaders
  value _ := .error .noHeaders

end Accessor

def HeaderSet.accessor (h : HeaderSet) : Accessor where
  customName := .ok h.customName
  customValue := .ok h.customValue
  value role := .ok (h.value role)

end Forwarding
