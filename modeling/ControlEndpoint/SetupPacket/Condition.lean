import ControlEndpoint.SetupPacket

/-!
# Conditions on SETUP packets

A condition compares the fields of a SETUP packet, and combines such comparisons.

## Main definitions

* `SetupPacket.Condition`: the conditions
* `SetupPacket.Condition.holds`: whether a condition holds of a packet
* `SetupPacket.Condition.all`, `SetupPacket.Condition.any`: conditions on all and on some of a list

## Main results

* `SetupPacket.Condition.holds_all`, `SetupPacket.Condition.holds_any`: what these two say
-/

namespace ControlEndpoint

/-- A condition on a SETUP packet. -/
inductive SetupPacket.Condition where
  /-- The same for every packet. -/
  | const (b : Bool)
  /-- The mark of the packet is `b`. -/
  | received (b : Bool)
  /-- The request is of kind `k`. -/
  | kind (k : RequestKind)
  /-- The request is addressed to `r`. -/
  | recipient (r : Recipient)
  /-- The data stage has direction `d`. -/
  | direction (d : Direction)
  /-- The number of the request is `n`. -/
  | request (n : UInt8)
  /-- The first argument is `n`. -/
  | value (n : UInt16)
  /-- The second argument is `n`. -/
  | index (n : UInt16)
  /-- The data stage may exceed `n` bytes. -/
  | lengthOver (n : UInt16)
  /-- The first byte on the wire is `n`. -/
  | requestType (n : UInt8)
  /-- The condition `c` fails. -/
  | not (c : SetupPacket.Condition)
  /-- Both conditions hold. -/
  | and (c d : SetupPacket.Condition)
  /-- One of the conditions holds. -/
  | or (c d : SetupPacket.Condition)
deriving DecidableEq, Repr

namespace SetupPacket.Condition

/-- Whether a condition holds of a packet. -/
def holds (p : SetupPacket) : Condition → Bool
  | const b => b
  | received b => p.received == b
  | kind k => p.kind == k
  | recipient r => p.recipient == r
  | direction d => p.direction == d
  | request n => p.request == n
  | value n => p.value == n
  | index n => p.index == n
  | lengthOver n => decide (n < p.length)
  | requestType n => p.requestType == n
  | not c => !c.holds p
  | and c d => c.holds p && d.holds p
  | or c d => c.holds p || d.holds p

/-- Every condition of a list holds. -/
def all (cs : List Condition) : Condition := cs.foldr and (const true)

/-- Some condition of a list holds. -/
def any (cs : List Condition) : Condition := cs.foldr or (const false)

variable (p : SetupPacket) (cs : List Condition)

@[simp] theorem holds_all : (all cs).holds p = cs.all (·.holds p) := by
  induction cs with
  | nil => rfl
  | cons c cs ih => simp [← ih, all, holds]

@[simp] theorem holds_any : (any cs).holds p = cs.any (·.holds p) := by
  induction cs with
  | nil => rfl
  | cons c cs ih => simp [← ih, any, holds]

end SetupPacket.Condition

end ControlEndpoint
