import ControlEndpoint.GapTimer
import ControlEndpoint.SetupReceiver

/-!
# The front end

A receiver of SETUP transactions with a gap timer of its own: the receiver starts the timer, and
the timer tells it when the gap has passed.

## Main definitions

* `FrontEnd`: a receiver and a timer
* `FrontEnd.step`: one tick
* `FrontEnd.Adjustment`: what can be adjusted between ticks
-/

namespace ControlEndpoint

/-- A receiver with a timer. -/
structure FrontEnd where
  /-- The receiver. -/
  receiver : SetupReceiver
  /-- The timer. -/
  timer : GapTimer
deriving DecidableEq, Repr

namespace FrontEnd

/-- The idle front end at a speed. -/
def ofSpeed (s : Speed) : FrontEnd where
  receiver := .ofSpeed s
  timer := .ofSpeed s

instance : Inhabited FrontEnd := ⟨ofSpeed default⟩

/-- Sets the speed of both parts. -/
def setSpeed (f : FrontEnd) (s : Speed) : FrontEnd where
  receiver := f.receiver.setSpeed s
  timer := f.timer.setSpeed s

/-- The front end with its timer changed by `g`. -/
def modifyTimer (f : FrontEnd) (g : GapTimer → GapTimer) : FrontEnd :=
  { f with timer := g f.timer }

/-- What the receiver reads on a tick: the traffic, and the timer as it stands. -/
def input (f : FrontEnd) (traffic : Traffic) : SetupReceiver.Input :=
  { traffic with txAllowed := f.timer.signals.txAllowed }

/-- One tick: the receiver reads the timer, and then the timer ticks. -/
def step (f : FrontEnd) (traffic : Traffic) : FrontEnd × SetupReceiver.Output :=
  let (receiver, out) := f.receiver.step (f.input traffic)
  ({ receiver, timer := (f.timer.step out.timerStart).1 }, out)

instance : Clocked FrontEnd Traffic SetupReceiver.Output where
  step := step

/-- The adjustments of a front end. -/
inductive Adjustment where
  /-- The link runs at speed `s`. -/
  | speed (s : Speed)
  /-- The gap of the timer is to be `ticks`. -/
  | delay (ticks : UInt16)
  /-- The timer alone counts for speed `s`. -/
  | timerSpeed (s : Speed)
deriving DecidableEq, Repr

instance : Adjustable FrontEnd Adjustment where
  adjust f
    | .speed s => f.setSpeed s
    | .delay ticks => f.modifyTimer (·.setDelay ticks)
    | .timerSpeed s => f.modifyTimer (·.setSpeed s)

/-! ## One tick, part by part -/

variable (f : FrontEnd) (traffic : Traffic)

@[simp] theorem receiver_step :
    (f.step traffic).1.receiver = (f.receiver.step (f.input traffic)).1 := rfl

@[simp] theorem timer_step : (f.step traffic).1.timer = (f.timer.step traffic.data.isNew).1 := rfl

@[simp] theorem output_step : (f.step traffic).2 = (f.receiver.step (f.input traffic)).2 := rfl

@[simp] theorem toTraffic_input : (f.input traffic).toTraffic = traffic := rfl

@[simp] theorem txAllowed_input : (f.input traffic).txAllowed = f.timer.signals.txAllowed := rfl

end FrontEnd

end ControlEndpoint
