import ControlEndpoint.Request
import ControlEndpoint.Word

/-!
# SETUP packets

A SETUP packet carries a device request in eight bytes.  The first byte packs three fields: the
recipient in its low five bits, the kind of the request in the next two, and the direction in
the top bit.  Three little-endian words follow the number of the request.

A packet in a register also carries a mark that it has just been received, which does not travel
on the wire.

## Main definitions

* `SetupPacket.ofBytes`, `SetupPacket.toBytes`: reading and writing the eight bytes
* `SetupPacket.requestType`: the first byte
* `SetupPacket.toRequest`: the request the packet carries

## Main results

* `SetupPacket.toBytes_ofBytes`: reading loses nothing
* `SetupPacket.ofBytes_toBytes`: writing loses the mark and the unused bits of the fields
-/

namespace ControlEndpoint

/-- A SETUP packet. -/
@[ext] structure SetupPacket where
  /-- Whether the packet was received on the tick before. -/
  received : Bool := false
  /-- The code of the recipient, in the low five bits. -/
  recipientBits : UInt8 := 0
  /-- The code of the kind of the request, in the low two bits. -/
  kindBits : UInt8 := 0
  /-- Whether the data stage goes from the device to the host. -/
  isIn : Bool := false
  /-- The number of the request. -/
  request : UInt8 := 0
  /-- The first argument. -/
  value : UInt16 := 0
  /-- The second argument. -/
  index : UInt16 := 0
  /-- The greatest number of bytes in the data stage. -/
  length : UInt16 := 0
deriving DecidableEq, Repr, Inhabited

namespace SetupPacket

/-- The number of bytes of a SETUP packet on the wire. -/
def wireLength : Nat := 8

/-- The packet whose bytes are `b`.  It is not marked as received. -/
def ofBytes (b : Vector UInt8 8) : SetupPacket where
  recipientBits := b[0] % 32
  kindBits := b[0] / 32 % 4
  isIn := decide ((128 : UInt8) ≤ b[0])
  request := b[1]
  value := word b[2] b[3]
  index := word b[4] b[5]
  length := word b[6] b[7]

/-- The first byte: recipient, kind and direction. -/
def requestType (p : SetupPacket) : UInt8 :=
  p.recipientBits % 32 + 32 * (p.kindBits % 4) + if p.isIn then 128 else 0

/-- The bytes of a packet. -/
def toBytes (p : SetupPacket) : Vector UInt8 8 :=
  #v[p.requestType, p.request, lowByte p.value, highByte p.value, lowByte p.index,
    highByte p.index, lowByte p.length, highByte p.length]

/-- The direction of the data stage. -/
def direction (p : SetupPacket) : Direction := if p.isIn then .in else .out

/-- The kind of the request. -/
def kind (p : SetupPacket) : RequestKind := .ofBits p.kindBits

/-- The part of the device the request is addressed to. -/
def recipient (p : SetupPacket) : Recipient := .ofBits p.recipientBits

/-- The request that the packet carries. -/
def toRequest (p : SetupPacket) : Request where
  direction := p.direction
  kind := p.kind
  recipient := p.recipient
  request := p.request
  value := p.value
  index := p.index
  length := p.length

/-! ## Reading and writing -/

@[simp] theorem received_ofBytes (b : Vector UInt8 8) : (ofBytes b).received = false := rfl

@[simp] theorem requestType_ofBytes (b : Vector UInt8 8) : (ofBytes b).requestType = b[0] := by
  simp only [requestType, ofBytes, decide_eq_true_eq]
  grind

/-- **Reading loses nothing**: the bytes of a packet that was read are those it was read from. -/
theorem toBytes_ofBytes (b : Vector UInt8 8) : (ofBytes b).toBytes = b := by
  ext i hi
  match i, hi with
  | 0, _ => simp [toBytes]
  | 1, _ | 2, _ | 3, _ | 4, _ | 5, _ | 6, _ | 7, _ => simp [toBytes, ofBytes]

theorem requestType_mod (p : SetupPacket) : p.requestType % 32 = p.recipientBits % 32 := by
  cases h : p.isIn <;> grind [requestType]

theorem requestType_div_mod (p : SetupPacket) : p.requestType / 32 % 4 = p.kindBits % 4 := by
  cases h : p.isIn <;> grind [requestType]

theorem le_requestType_iff (p : SetupPacket) : 128 ≤ p.requestType ↔ p.isIn = true := by
  cases h : p.isIn <;> grind [requestType]

/-- **Writing loses only what does not travel**: the mark, and the bits of a field beyond its
width. -/
theorem ofBytes_toBytes (p : SetupPacket) :
    ofBytes p.toBytes =
      { p with
        received := false
        recipientBits := p.recipientBits % 32
        kindBits := p.kindBits % 4 } := by
  simp [ofBytes, toBytes, requestType_mod, requestType_div_mod, le_requestType_iff]

end SetupPacket

end ControlEndpoint
