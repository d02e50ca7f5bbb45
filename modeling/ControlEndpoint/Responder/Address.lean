import ControlEndpoint.Responder

/-!
# The address responder

The host gives a device its address with a standard request.  The device answers the status
stage of the request under its old address, and takes the new one when the host acknowledges
that answer.

## Main definitions

* `SetupPacket.SetsAddress`: the packet carries that request
* `AddressResponder`: the address that waits for the acknowledgement
-/

namespace ControlEndpoint

/-- The number of the standard request that sets the address. -/
def setAddressRequest : UInt8 := 5

/-- The packet carries the request that sets the address. -/
def SetupPacket.SetsAddress (p : SetupPacket) : Prop :=
  p.kind = .standard ∧ p.request = setAddressRequest

instance (p : SetupPacket) : Decidable p.SetsAddress := inferInstanceAs (Decidable (_ ∧ _))

/-- The address in a packet: the low seven bits of its first argument. -/
def SetupPacket.address (p : SetupPacket) : UInt8 := lowByte p.value % 128

/-- A responder that sets the address of the device. -/
structure AddressResponder where
  /-- The address of a request that is not yet complete. -/
  pending : Option UInt8 := none
deriving DecidableEq, Repr, Inhabited

namespace AddressResponder

variable (r : AddressResponder) (i : Broadcast)

/-- The address that waits once the packet of this tick is read: any new packet ends the request
before it. -/
def latch : Option UInt8 :=
  if i.setup.received then
    if i.setup.SetsAddress then some i.setup.address else none
  else r.pending

/-- One tick. -/
def step : AddressResponder × Drive :=
  match r.latch i with
  | none => ({ pending := none }, .idle)
  | some a =>
    if i.statusRequested then ({ pending := some a }, .zeroLength)
    else if Handshake.ack.line ∈ i.handshakes then
      ({ pending := none }, { addressStrobe := true, address := a })
    else ({ pending := some a }, .idle)

instance : Responder AddressResponder where
  step := step

/-- The address changes exactly when the host acknowledges a pending request. -/
theorem addressStrobe_step :
    (r.step i).2.addressStrobe = true ↔
      (r.latch i).isSome ∧ i.statusRequested = false ∧ Handshake.ack.line ∈ i.handshakes := by
  unfold step
  cases r.latch i <;> cases i.statusRequested <;>
    by_cases h : Handshake.ack.line ∈ i.handshakes <;> simp [Drive.idle, Drive.zeroLength, h]

end AddressResponder

end ControlEndpoint
