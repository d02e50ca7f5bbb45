import ControlEndpoint.DataPacket
import ControlEndpoint.Token

/-!
# Traffic

What the packet layer shows of the bus during a tick: the token detector and the packet receiver
side by side.  A token and a data packet may fall on the same tick.
-/

namespace ControlEndpoint

/-- The packets of one tick. -/
structure Traffic where
  /-- The token detector. -/
  token : Token := {}
  /-- The packet receiver. -/
  data : DataPacket := .none
deriving DecidableEq, Repr, Inhabited

end ControlEndpoint
