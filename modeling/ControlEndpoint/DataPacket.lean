import ControlEndpoint.SetupPacket

/-!
# Data packets

A received data packet is shown for one tick, with its length and its first eight bytes: no part
of the endpoint reads more of it than a SETUP packet holds.

## Main definitions

* `DataPacket.ofBytes`: the packet that carries the given bytes
* `DataPacket.none`: no packet on this tick
* `DataPacket.HoldsSetup`, `DataPacket.setup`: a packet of the length of a SETUP packet, and what
  it says
-/

namespace ControlEndpoint

/-- What the packet receiver shows during a tick. -/
structure DataPacket where
  /-- Whether a packet was received on this tick. -/
  isNew : Bool := false
  /-- The number of bytes the packet carried. -/
  length : Nat := 0
  /-- The first bytes of the packet, filled up with zeros. -/
  payload : Vector UInt8 8 := Vector.replicate 8 0
deriving DecidableEq, Repr, Inhabited

namespace DataPacket

/-- No packet is received on this tick. -/
def none : DataPacket := {}

/-- The packet that carries `bytes` is received on this tick. -/
def ofBytes (bytes : List UInt8) : DataPacket where
  isNew := true
  length := bytes.length
  payload := Vector.ofFn fun i => bytes.getD i 0

/-- A packet is received that has the length of a SETUP packet. -/
def HoldsSetup (d : DataPacket) : Prop := d.isNew = true ∧ d.length = SetupPacket.wireLength

instance (d : DataPacket) : Decidable d.HoldsSetup := inferInstanceAs (Decidable (_ ∧ _))

/-- The payload, read as a SETUP packet. -/
def setup (d : DataPacket) : SetupPacket := .ofBytes d.payload

@[simp] theorem isNew_none : none.isNew = false := rfl

@[simp] theorem isNew_ofBytes (bytes : List UInt8) : (ofBytes bytes).isNew = true := rfl

@[simp] theorem length_ofBytes (bytes : List UInt8) : (ofBytes bytes).length = bytes.length := rfl

theorem holdsSetup_ofBytes_iff {bytes : List UInt8} :
    (ofBytes bytes).HoldsSetup ↔ bytes.length = 8 := by
  simp [HoldsSetup, SetupPacket.wireLength]

/-- Eight bytes are kept whole. -/
theorem toList_payload_ofBytes {bytes : List UInt8} (h : bytes.length = 8) :
    (ofBytes bytes).payload.toList = bytes := by
  apply List.ext_getElem
  · simp [h]
  · intro i h₁ h₂
    simp [ofBytes, h₂]

end DataPacket

end ControlEndpoint
