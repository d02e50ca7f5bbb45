import ControlEndpoint.Beat
import ControlEndpoint.HandshakeSet

/-!
# Drives

On each tick a responder drives the bus of its endpoint.  Three of its values count only under a
strobe of their own: the address, the configuration, and the byte on the transmit stream with
the toggle of its packet.  The rest counts always.

## Main definitions

* `Drive`: what a responder drives
* `Drive.addressChange`, `Drive.configChange`, `Drive.data`: the values under their strobes
* `Drive.idle`, `Drive.ofHandshakes`, `Drive.zeroLength`: common drives
-/

namespace ControlEndpoint

/-- What a responder drives during a tick. -/
@[ext] structure Drive where
  /-- The address of the device is to change. -/
  addressStrobe : Bool := false
  /-- The new address, in the low seven bits. -/
  address : UInt8 := 0
  /-- The configuration of the device is to change. -/
  configStrobe : Bool := false
  /-- The new configuration. -/
  config : UInt8 := 0
  /-- The transmit stream. -/
  tx : TxBeat := {}
  /-- The toggle of the packet on the transmit stream; it is set for DATA1. -/
  dataToggle : Bool := true
  /-- The handshakes to send. -/
  handshakes : HandshakeSet := ∅
deriving DecidableEq, Repr, Inhabited

namespace Drive

/-- The drive of a responder that has nothing to do. -/
def idle : Drive := {}

/-- The drive that only asks for handshakes. -/
def ofHandshakes (s : HandshakeSet) : Drive where
  handshakes := s

/-- The drive that sends a packet without data as DATA1, which ends the status stage of a
request. -/
def zeroLength : Drive where
  tx := .zeroLength

variable (d : Drive)

/-- The address the device is to take. -/
def addressChange : Option UInt8 := if d.addressStrobe then some (d.address % 128) else none

/-- The configuration the device is to take. -/
def configChange : Option UInt8 := if d.configStrobe then some d.config else none

/-- The byte on the transmit stream, with the toggle of its packet. -/
def data : Option (UInt8 × Bool) :=
  if d.tx.valid then some (d.tx.payload, d.dataToggle) else none

@[simp] theorem addressChange_idle : idle.addressChange = none := rfl

@[simp] theorem configChange_idle : idle.configChange = none := rfl

@[simp] theorem data_idle : idle.data = none := rfl

@[simp] theorem first_idle : idle.tx.first = false := rfl

@[simp] theorem last_idle : idle.tx.last = false := rfl

@[simp] theorem handshakes_idle : idle.handshakes = ∅ := rfl

@[simp] theorem isSome_addressChange : d.addressChange.isSome = d.addressStrobe := by
  cases h : d.addressStrobe <;> simp [addressChange, h]

@[simp] theorem isSome_configChange : d.configChange.isSome = d.configStrobe := by
  cases h : d.configStrobe <;> simp [configChange, h]

@[simp] theorem isSome_data : d.data.isSome = d.tx.valid := by
  cases h : d.tx.valid <;> simp [data, h]

end Drive

end ControlEndpoint
