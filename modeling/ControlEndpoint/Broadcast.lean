import ControlEndpoint.Beat
import ControlEndpoint.HandshakeSet
import ControlEndpoint.SetupPacket
import ControlEndpoint.Token

/-!
# Broadcasts

On each tick the endpoint shows the same values to all of its responders.  Most of them are
pulses, which last for one tick.
-/

namespace ControlEndpoint

/-- What an endpoint shows to its responders during a tick. -/
structure Broadcast where
  /-- The latest SETUP packet. -/
  setup : SetupPacket := {}
  /-- The token detector. -/
  token : Token := {}
  /-- The host asks for data of the data stage, and the gap has passed. -/
  dataRequested : Bool := false
  /-- The host asks for the status stage. -/
  statusRequested : Bool := false
  /-- The number of the active configuration. -/
  activeConfig : UInt8 := 0
  /-- The receive stream. -/
  rx : RxBeat := {}
  /-- The endpoint awaits a data packet. -/
  rxExpected : Bool := false
  /-- The gap has passed after a complete data packet, which may now be answered. -/
  rxComplete : Bool := false
  /-- The latest data packet was damaged. -/
  rxInvalid : Bool := false
  /-- The transmitter has taken the beat it was shown. -/
  txReady : Bool := false
  /-- The handshakes detected from the host. -/
  handshakes : HandshakeSet := ∅
deriving DecidableEq, Repr, Inhabited

namespace Broadcast

/-- The host asks the device to transmit, in the data or in the status stage. -/
def Requests (i : Broadcast) : Prop := i.dataRequested = true ∨ i.statusRequested = true

instance (i : Broadcast) : Decidable i.Requests := inferInstanceAs (Decidable (_ ∨ _))

end Broadcast

end ControlEndpoint
