import ControlEndpoint.Proofs.SetupPacket

/-!
# The request of a packet

A device acts on the request that a packet carries and sees nothing else of it.  The eight bytes of
the packet tell the request: neither the mark of a register nor the bits of a field beyond its width
have a part in it.  The request tells the bytes in turn, but for one thing: it does not say which of
the reserved recipients it is addressed to.

The second direction is a statement about bytes, for a packet carries the same request as the packet
that is read from its bytes.

## Main definitions

* `SetupPacket.SameButReserved a b`: the bytes differ in reserved recipients at most

## Main results

* `SetupPacket.toRequest_ofBytes_toBytes`: the request of a packet is that of its bytes
* `SetupPacket.toRequest_ofBytes_eq_iff`: the bytes that carry the same request
* `SetupPacket.request_of_bytes`: both for packets
-/

namespace ControlEndpoint

namespace SetupPacket

/-- The eight bytes are the same but for the code of the recipient, which may differ if both codes
are reserved. -/
@[mk_iff] structure SameButReserved (a b : Vector UInt8 8) : Prop where
  aboveRecipient : a.get 0 / 32 = b.get 0 / 32
  rest : ∀ i, i ≠ 0 → a.get i = b.get i
  recipient : a.get 0 % 32 = b.get 0 % 32 ∨ 4 ≤ a.get 0 % 32 ∧ 4 ≤ b.get 0 % 32

variable {a b : Vector UInt8 8} {p q : SetupPacket}

/-! ## The request is that of the bytes -/

/-- **The request of a packet** is that of the packet that is read from its bytes. -/
theorem toRequest_ofBytes_toBytes (p : SetupPacket) :
    (ofBytes p.toBytes).toRequest = p.toRequest := by
  -- Reading cuts the codes off where the names of the codes do.
  rw [SetupPacket.ofBytes_toBytes]
  simp only [toRequest, direction, kind, recipient, RequestKind.ofBits_mod, Recipient.ofBits_mod]

theorem toRequest_eq_of_toBytes_eq (h : p.toBytes = q.toBytes) : p.toRequest = q.toRequest := by
  rw [← toRequest_ofBytes_toBytes p, h, toRequest_ofBytes_toBytes]

/-! ## The bytes that carry a request

The first byte holds three fields of the request, and every other byte is a part of one field. -/

theorem ofBytes_eq_get (a : Vector UInt8 8) :
    ofBytes a =
      { recipientBits := a.get 0 % 32
        kindBits := a.get 0 / 32 % 4
        isIn := decide (128 ≤ a.get 0)
        request := a.get 1
        value := word (a.get 2) (a.get 3)
        index := word (a.get 4) (a.get 5)
        length := word (a.get 6) (a.get 7) } := rfl

theorem direction_ofBytes_eq_iff :
    (ofBytes a).direction = (ofBytes b).direction ↔ (128 ≤ a.get 0 ↔ 128 ≤ b.get 0) := by
  by_cases ha : 128 ≤ a.get 0 <;> by_cases hb : 128 ≤ b.get 0 <;>
    simp [direction, ofBytes_eq_get, ha, hb]

theorem kind_ofBytes_eq_iff :
    (ofBytes a).kind = (ofBytes b).kind ↔ a.get 0 / 32 % 4 = b.get 0 / 32 % 4 := by
  simp only [kind, ofBytes_eq_get, RequestKind.ofBits_mod, RequestKind.ofBits_eq_iff]

theorem recipient_ofBytes_eq_iff :
    (ofBytes a).recipient = (ofBytes b).recipient ↔
      a.get 0 % 32 = b.get 0 % 32 ∨ 4 ≤ a.get 0 % 32 ∧ 4 ≤ b.get 0 % 32 := by
  simp only [recipient, ofBytes_eq_get, Recipient.ofBits_mod, Recipient.ofBits_eq_iff]

/-- The bits above the recipient are those of the kind and of the direction. -/
theorem div_32_eq_iff {x y : UInt8} :
    x / 32 = y / 32 ↔ (128 ≤ x ↔ 128 ≤ y) ∧ x / 32 % 4 = y / 32 % 4 := by
  grind

/-- The bytes after the first are the number of the request and three words. -/
theorem forall_get_eq_iff :
    (∀ i, i ≠ 0 → a.get i = b.get i) ↔
      (ofBytes a).request = (ofBytes b).request ∧ (ofBytes a).value = (ofBytes b).value ∧
        (ofBytes a).index = (ofBytes b).index ∧ (ofBytes a).length = (ofBytes b).length := by
  simp only [ofBytes_eq_get, word_inj]
  constructor
  · intro h
    exact ⟨h 1 nofun, ⟨h 2 nofun, h 3 nofun⟩, ⟨h 4 nofun, h 5 nofun⟩, h 6 nofun, h 7 nofun⟩
  · rintro ⟨h₁, ⟨h₂, h₃⟩, ⟨h₄, h₅⟩, h₆, h₇⟩ i hi
    match i with
    | 0 => exact absurd rfl hi
    | 1 => exact h₁
    | 2 => exact h₂
    | 3 => exact h₃
    | 4 => exact h₄
    | 5 => exact h₅
    | 6 => exact h₆
    | 7 => exact h₇

/-- **The bytes that carry the same request** are the same up to reserved recipients. -/
theorem toRequest_ofBytes_eq_iff :
    (ofBytes a).toRequest = (ofBytes b).toRequest ↔ SameButReserved a b := by
  rw [sameButReserved_iff, div_32_eq_iff, forall_get_eq_iff, toRequest, toRequest,
    Request.mk.injEq, direction_ofBytes_eq_iff, kind_ofBytes_eq_iff, recipient_ofBytes_eq_iff]
  constructor
  · rintro ⟨hdirection, hkind, hrecipient, hrest⟩
    exact ⟨⟨hdirection, hkind⟩, hrest, hrecipient⟩
  · rintro ⟨⟨hdirection, hkind⟩, hrest, hrecipient⟩
    exact ⟨hdirection, hkind, hrecipient, hrest⟩

/-! ## Packets -/

/-- Packets carry the same request if their bytes are the same up to reserved recipients. -/
theorem toRequest_eq_iff : p.toRequest = q.toRequest ↔ SameButReserved p.toBytes q.toBytes := by
  rw [← toRequest_ofBytes_eq_iff, toRequest_ofBytes_toBytes, toRequest_ofBytes_toBytes]

/-- **The request of a packet is told by its bytes**, and so are its direction, its kind and its
recipient, whatever the fields of the packet hold beyond their width.  It tells the bytes in turn:
two packets carry the same request exactly if their bytes are the same outside the low five bits of
the first one, and those bits are the same or are reserved codes, from `4` on, in both. -/
theorem request_of_bytes (p q : SetupPacket) :
    (p.toBytes = q.toBytes →
        p.direction = q.direction ∧ p.kind = q.kind ∧ p.recipient = q.recipient ∧
          p.toRequest = q.toRequest) ∧
      (p.toRequest = q.toRequest ↔
        (p.toBytes.get 0 / 32 = q.toBytes.get 0 / 32 ∧
            ∀ i, i ≠ 0 → p.toBytes.get i = q.toBytes.get i) ∧
          (p.toBytes.get 0 % 32 = q.toBytes.get 0 % 32 ∨
            4 ≤ p.toBytes.get 0 % 32 ∧ 4 ≤ q.toBytes.get 0 % 32)) := by
  constructor
  · intro h
    have hrequest : p.toRequest = q.toRequest := toRequest_eq_of_toBytes_eq h
    -- The other three are fields of the request.
    exact ⟨congrArg Request.direction hrequest, congrArg Request.kind hrequest,
      congrArg Request.recipient hrequest, hrequest⟩
  · rw [toRequest_eq_iff, sameButReserved_iff, and_assoc]

/-- Two packets with fields of different width have the same bytes, and a third one carries the same
request with another reserved recipient. -/
theorem request_of_bytes_wide :
    let p : SetupPacket :=
      { received := true, recipientBits := 0xff, kindBits := 6, isIn := true, value := 0x0100 }
    let q : SetupPacket := { recipientBits := 0x1f, kindBits := 2, isIn := true, value := 0x0100 }
    let r : SetupPacket := { recipientBits := 4, kindBits := 2, isIn := true, value := 0x0100 }
    p.toBytes = q.toBytes ∧ p.recipient = q.recipient ∧ p.toRequest = q.toRequest ∧
      q.toBytes ≠ r.toBytes ∧ q.toRequest = r.toRequest := by
  intro p q r
  have hbytes : p.toBytes = q.toBytes := by decide
  obtain ⟨-, -, hrecipient, hrequest⟩ := (request_of_bytes p q).1 hbytes
  have hreserved : q.toRequest = r.toRequest :=
    (request_of_bytes q r).2.2 ⟨⟨by decide, by decide⟩, .inr (by decide)⟩
  exact ⟨hbytes, hrecipient, hrequest, by decide, hreserved⟩

end SetupPacket

end ControlEndpoint
