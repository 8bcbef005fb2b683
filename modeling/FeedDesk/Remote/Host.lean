import FeedDesk.Net.Url

namespace FeedDesk
namespace Remote

/-!
The address of an oracle. It must be an absolute address, or the oracle is refused. An address
that is well formed but names no host, or a file, breaks the desk down.
-/

inductive HostFault
  /-- The text is no absolute address. -/
  | invalid
  /-- No service can stand at the address. -/
  | unreachable
  deriving DecidableEq

def hostFault? (host : Text) : Option HostFault :=
  match Url.ofText? host with
  | none => some .invalid
  | some url => if url.isReachable then none else some .unreachable

end Remote
end FeedDesk
