import ControlEndpoint.Clocked
import ControlEndpoint.Speed
import ControlEndpoint.Traffic

/-!
# The SETUP receiver

A SETUP transaction is a SETUP token followed by a data packet of eight bytes, which the device
acknowledges after the least gap.  The receiver follows the traffic for such transactions, keeps
the latest SETUP packet in a register, and asks for the handshake.

A transaction that goes wrong is dropped without a handshake: another token arrives before the
data, or the data has another length.  A data packet counts before a token of the same tick.  A
high speed device has no gap to wait out, as the tick that brought the packet covers it.

The receiver does not count time.  It asks for a timer to be started by every data packet, and is
told when the gap has passed.

## Main definitions

* `SetupReceiver`: speed, phase and register
* `SetupReceiver.Accepts`: the tick brings a SETUP packet
* `SetupReceiver.acks`: the tick asks for the handshake
* `SetupReceiver.step`: one tick
-/

namespace ControlEndpoint

/-- How far the receiver has followed a transaction. -/
inductive SetupReceiver.Phase where
  /-- There is no transaction. -/
  | idle
  /-- The token has arrived. -/
  | awaitingData
  /-- The data has arrived, and the gap has not passed. -/
  | awaitingGap
deriving DecidableEq, Repr

/-- What the receiver reads during a tick. -/
structure SetupReceiver.Input extends Traffic where
  /-- The gap has passed. -/
  txAllowed : Bool := false
deriving DecidableEq, Repr, Inhabited

/-- What the receiver shows during a tick. -/
structure SetupReceiver.Output where
  /-- The register, as it was before the tick. -/
  setup : SetupPacket := {}
  /-- An acknowledgement is asked for. -/
  ack : Bool := false
  /-- A start of the timer is asked for. -/
  timerStart : Bool := false
deriving DecidableEq, Repr, Inhabited

/-- A receiver of SETUP transactions. -/
structure SetupReceiver where
  /-- The speed of the link. -/
  speed : Speed
  /-- How far a transaction has come. -/
  phase : SetupReceiver.Phase := .idle
  /-- The latest SETUP packet. -/
  packet : SetupPacket := {}
deriving DecidableEq, Repr

namespace SetupReceiver

/-- The idle receiver at a speed. -/
def ofSpeed (s : Speed) : SetupReceiver where
  speed := s

instance : Inhabited SetupReceiver := ⟨ofSpeed default⟩

/-- The receiver at another speed. -/
def setSpeed (r : SetupReceiver) (s : Speed) : SetupReceiver := { r with speed := s }

variable (r : SetupReceiver) (i : Input)

/-- The tick brings the SETUP packet that the receiver awaits. -/
def Accepts : Prop := r.phase = .awaitingData ∧ i.data.HoldsSetup

instance : Decidable (r.Accepts i) := inferInstanceAs (Decidable (_ ∧ _))

/-- The tick asks for the handshake: the gap has passed for an earlier packet, or for this one,
or there is none to wait for. -/
def acks : Bool :=
  match r.phase with
  | .idle => false
  | .awaitingData => i.data.HoldsSetup && (i.txAllowed || r.speed == .high)
  | .awaitingGap => i.txAllowed

/-- The phase after the tick. -/
def nextPhase : Phase :=
  match r.phase with
  | .idle => if i.token.OpensSetup then .awaitingData else .idle
  | .awaitingData =>
    if i.data.isNew then
      if i.data.HoldsSetup ∧ r.acks i = false then .awaitingGap else .idle
    else if i.token.isNew then .idle
    else .awaitingData
  | .awaitingGap => if i.txAllowed then .idle else .awaitingGap

/-- The register after the tick.  A packet carries its mark for one tick. -/
def nextPacket : SetupPacket :=
  if r.Accepts i then { i.data.setup with received := true }
  else { r.packet with received := false }

/-- One tick. -/
def step : SetupReceiver × Output :=
  ({ speed := r.speed, phase := r.nextPhase i, packet := r.nextPacket i },
    { setup := r.packet, ack := r.acks i, timerStart := i.data.isNew })

instance : Clocked SetupReceiver Input Output where
  step := step

instance : Adjustable SetupReceiver Speed where
  adjust := setSpeed

/-! ## One tick, field by field -/

@[simp] theorem speed_step : (r.step i).1.speed = r.speed := rfl

@[simp] theorem phase_step : (r.step i).1.phase = r.nextPhase i := rfl

@[simp] theorem packet_step : (r.step i).1.packet = r.nextPacket i := rfl

@[simp] theorem setup_step : (r.step i).2.setup = r.packet := rfl

@[simp] theorem ack_step : (r.step i).2.ack = r.acks i := rfl

@[simp] theorem timerStart_step : (r.step i).2.timerStart = i.data.isNew := rfl

/-- The mark is raised exactly by an accepted packet. -/
@[simp] theorem received_nextPacket : (r.nextPacket i).received = decide (r.Accepts i) := by
  unfold nextPacket
  split <;> simp_all

end SetupReceiver

end ControlEndpoint
