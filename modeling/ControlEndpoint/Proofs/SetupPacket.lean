import ControlEndpoint.SetupPacket
import Mathlib.Tactic.MkIffOfInductiveProp

/-!
# Packets and their bytes

The eight bytes of a SETUP packet and the packet that is read from them determine each other.  A
packet may hold more than its bytes do: the mark of a register, and bits of a field beyond the width
of the field on the wire.  The packets that hold nothing more are those in wire form; they are what
reading gives, and what reading gives back.

## Main definitions

* `SetupPacket.WireForm`: the packet holds nothing that does not travel

## Main results

* `SetupPacket.wireForm_ofBytes`: a packet that was read is in wire form
* `SetupPacket.ofBytes_toBytes_eq_self_iff`: the packets that survive writing and reading
* `SetupPacket.bytes_round_trip`: both directions together
-/

namespace ControlEndpoint

namespace SetupPacket

/-- The packet holds nothing that does not travel: no mark, and fields of the width they have on the
wire. -/
@[mk_iff] structure WireForm (p : SetupPacket) : Prop where
  received : p.received = false
  recipientBits_lt : p.recipientBits < 32
  kindBits_lt : p.kindBits < 4

theorem wireForm_ofBytes (b : Vector UInt8 8) : (ofBytes b).WireForm where
  received := rfl
  recipientBits_lt := UInt8.mod_lt b[0] (by decide)
  kindBits_lt := UInt8.mod_lt (b[0] / 32) (by decide)

/-- Writing and reading loses nothing of a packet in wire form. -/
theorem WireForm.ofBytes_toBytes {p : SetupPacket} (h : p.WireForm) : ofBytes p.toBytes = p := by
  have hrecipient : p.recipientBits % 32 = p.recipientBits :=
    UInt8.mod_eq_of_lt h.recipientBits_lt
  have hkind : p.kindBits % 4 = p.kindBits := UInt8.mod_eq_of_lt h.kindBits_lt
  rw [SetupPacket.ofBytes_toBytes, hrecipient, hkind, ← h.received]

/-- **The packets in wire form** are those that survive writing and reading. -/
theorem ofBytes_toBytes_eq_self_iff {p : SetupPacket} : ofBytes p.toBytes = p ↔ p.WireForm := by
  constructor
  · intro h
    rw [← h]
    exact wireForm_ofBytes p.toBytes
  · exact WireForm.ofBytes_toBytes

/-- **Bytes and packets.**  Reading and writing gives back any eight bytes, and reading gives a
packet in wire form.  Writing and reading clears what does not travel, so it gives back the packets
in wire form and no others. -/
theorem bytes_round_trip :
    (∀ b : Vector UInt8 8,
      (ofBytes b).toBytes = b ∧
        (ofBytes b).received = false ∧ (ofBytes b).recipientBits < 32 ∧ (ofBytes b).kindBits < 4) ∧
      ∀ p : SetupPacket,
        ofBytes p.toBytes =
            { p with
              received := false
              recipientBits := p.recipientBits % 32
              kindBits := p.kindBits % 4 } ∧
          (ofBytes p.toBytes = p ↔
            p.received = false ∧ p.recipientBits < 32 ∧ p.kindBits < 4) := by
  constructor
  · intro b
    constructor
    · exact toBytes_ofBytes b
    · exact (wireForm_iff _).1 (wireForm_ofBytes b)
  · intro p
    constructor
    · exact SetupPacket.ofBytes_toBytes p
    · rw [ofBytes_toBytes_eq_self_iff, wireForm_iff]

end SetupPacket

end ControlEndpoint
