/-!
# Device requests

The request a host makes of a device, with the fields of its first byte named.

## Main definitions

* `Direction`, `RequestKind`, `Recipient`: the three fields of the first byte
* `RequestKind.ofBits`, `Recipient.ofBits`: their codes
* `Request`: a device request

## Main results

* `RequestKind.ofBits_eq_iff`, `Recipient.ofBits_eq_iff`: only the reserved recipients share a name
-/

namespace ControlEndpoint

/-- The direction of the data stage of a request. -/
inductive Direction where
  /-- From the host to the device. -/
  | out
  /-- From the device to the host. -/
  | in
deriving DecidableEq, Repr

/-- Who defines a request. -/
inductive RequestKind where
  /-- The bus standard. -/
  | standard
  /-- A device class. -/
  | classSpecific
  /-- The vendor of the device. -/
  | vendor
  /-- No one. -/
  | reserved
deriving DecidableEq, Repr

/-- The part of the device a request is addressed to. -/
inductive Recipient where
  /-- The device as a whole. -/
  | device
  /-- One interface. -/
  | interface
  /-- One endpoint. -/
  | endpoint
  /-- Another part. -/
  | other
  /-- No part has this code. -/
  | reserved
deriving DecidableEq, Repr

/-- The kind with the given code, which is the low two bits of `bits`. -/
def RequestKind.ofBits (bits : UInt8) : RequestKind :=
  if bits % 4 = 0 then .standard
  else if bits % 4 = 1 then .classSpecific
  else if bits % 4 = 2 then .vendor
  else .reserved

/-- The recipient with the given code, which is the low five bits of `bits`. -/
def Recipient.ofBits (bits : UInt8) : Recipient :=
  if bits % 32 = 0 then .device
  else if bits % 32 = 1 then .interface
  else if bits % 32 = 2 then .endpoint
  else if bits % 32 = 3 then .other
  else .reserved

/-- Each kind has one code. -/
theorem RequestKind.ofBits_eq_iff {a b : UInt8} : ofBits a = ofBits b ↔ a % 4 = b % 4 := by
  grind [ofBits]

/-- Each recipient has one code, and all codes from `4` on are reserved. -/
theorem Recipient.ofBits_eq_iff {a b : UInt8} :
    ofBits a = ofBits b ↔ a % 32 = b % 32 ∨ (4 ≤ a % 32 ∧ 4 ≤ b % 32) := by
  by_cases ha : 4 ≤ a % 32 <;> by_cases hb : 4 ≤ b % 32 <;> grind [ofBits]

/-- The bits above a code do not matter. -/
theorem RequestKind.ofBits_mod (bits : UInt8) : ofBits (bits % 4) = ofBits bits :=
  ofBits_eq_iff.2 (by grind)

theorem Recipient.ofBits_mod (bits : UInt8) : ofBits (bits % 32) = ofBits bits :=
  ofBits_eq_iff.2 (.inl (by grind))

/-- A device request. -/
structure Request where
  /-- The direction of the data stage. -/
  direction : Direction
  /-- Who defines the request. -/
  kind : RequestKind
  /-- The part of the device it is addressed to. -/
  recipient : Recipient
  /-- The number of the request. -/
  request : UInt8
  /-- The first argument. -/
  value : UInt16
  /-- The second argument, often the number of the recipient. -/
  index : UInt16
  /-- The greatest number of bytes in the data stage. -/
  length : UInt16
deriving DecidableEq, Repr

end ControlEndpoint
