/-!
# Stream beats

Data passes between the bus and the parts of an endpoint one byte per tick.  What the wires of a
stream show during a tick is a beat.

## Main definitions

* `RxBeat`, `TxBeat`: beats of the receive and of the transmit stream
* `TxBeat.zeroLength`: the beat that sends a packet without data
-/

namespace ControlEndpoint

/-- One beat of the receive stream. -/
structure RxBeat where
  /-- A byte was received. -/
  valid : Bool := false
  /-- The packet began on this tick. -/
  next : Bool := false
  /-- A packet is being received. -/
  active : Bool := false
  /-- The received byte. -/
  payload : UInt8 := 0
deriving DecidableEq, Repr, Inhabited

/-- One beat of the transmit stream. -/
@[ext] structure TxBeat where
  /-- There is a byte to send, or a packet without data. -/
  valid : Bool := false
  /-- The byte is the first of its packet. -/
  first : Bool := false
  /-- The byte is the last of its packet. -/
  last : Bool := false
  /-- The byte to send. -/
  payload : UInt8 := 0
deriving DecidableEq, Repr, Inhabited

namespace TxBeat

/-- The beat of a packet without data. -/
def zeroLength : TxBeat where
  valid := true
  last := true

/-- A packet that ends without having begun carries no data. -/
def IsZeroLength (b : TxBeat) : Prop := b.valid = true ∧ b.last = true ∧ b.first = false

instance (b : TxBeat) : Decidable b.IsZeroLength := inferInstanceAs (Decidable (_ ∧ _ ∧ _))

end TxBeat

end ControlEndpoint
