import ControlEndpoint.Clocked
import ControlEndpoint.Speed

/-!
# The gap timer

After a device has received a packet it has to leave a gap before it transmits, and it has to
begin before the host gives up.  The timer counts both from a start: it shows one pulse when the
gap has passed and one when the window closes, and then stops.

The gap and the window of a count are those of the moment it was started, so an adjustment bears
on the next count only.

## Main definitions

* `GapTimer`: the speed, the gap of the next count, and the running count
* `GapTimer.setSpeed`, `GapTimer.setDelay`: adjustments
* `GapTimer.signals`: what the timer shows
* `GapTimer.step`: one tick

## Main results

* `GapTimer.one_le_delay_setDelay`, `GapTimer.delay_setDelay_le`: a gap is at least one tick and
  lies within the window
-/

namespace ControlEndpoint

/-- What the wires of a timer show during a tick. -/
structure GapTimer.Signals where
  /-- A count is started. -/
  start : Bool := false
  /-- The gap has passed on this tick. -/
  txAllowed : Bool := false
  /-- The window closes on this tick. -/
  txTimeout : Bool := false
deriving DecidableEq, Repr, Inhabited

/-- A count in progress. -/
structure GapTimer.Count where
  /-- The ticks since the start. -/
  elapsed : UInt16
  /-- The gap to leave. -/
  delay : UInt16
  /-- The window of the host. -/
  window : UInt16
deriving DecidableEq, Repr

/-- A timer for the gap between receiving and transmitting. -/
structure GapTimer where
  /-- The speed that fixes the window. -/
  speed : Speed
  /-- The gap of the next count. -/
  delay : UInt16
  /-- The running count, if there is one. -/
  count : Option GapTimer.Count := none
deriving DecidableEq, Repr

namespace GapTimer

/-- A count goes on until its window closes. -/
def Count.elapse (c : Count) : Option Count :=
  if c.elapsed < c.window then some { c with elapsed := c.elapsed + 1 } else none

/-- The stopped timer with the least gap of a speed. -/
def ofSpeed (s : Speed) : GapTimer where
  speed := s
  delay := s.leastGap

instance : Inhabited GapTimer := ⟨ofSpeed default⟩

/-- A change of speed also restores the least gap of the new speed. -/
def setSpeed (t : GapTimer) (s : Speed) : GapTimer :=
  { t with speed := s, delay := s.leastGap }

/-- Sets the gap to `ticks`, but at least to one tick and at most to the window. -/
def setDelay (t : GapTimer) (ticks : UInt16) : GapTimer :=
  { t with delay := min (if ticks = 0 then 1 else ticks) t.speed.window }

/-- Whether the timer is counting. -/
def isRunning (t : GapTimer) : Bool := t.count.isSome

/-- What the timer shows by its count alone. -/
def signals (t : GapTimer) : Signals where
  txAllowed := t.count.any fun c => c.elapsed == c.delay
  txTimeout := t.count.any fun c => c.elapsed == c.window

/-- The count that a start begins. -/
def freshCount (t : GapTimer) : Count where
  elapsed := 1
  delay := t.delay
  window := t.speed.window

/-- One tick.  The signals are those of the count before it; a start then begins a new count. -/
def step (t : GapTimer) (start : Bool) : GapTimer × Signals :=
  ({ t with count := if start then some t.freshCount else t.count.bind Count.elapse },
    { t.signals with start })

instance : Clocked GapTimer Bool Signals where
  step := step

/-- The adjustments of a timer. -/
inductive Adjustment where
  /-- The link runs at speed `s`. -/
  | speed (s : Speed)
  /-- The gap is to be `ticks`. -/
  | delay (ticks : UInt16)
deriving DecidableEq, Repr

instance : Adjustable GapTimer Adjustment where
  adjust t
    | .speed s => t.setSpeed s
    | .delay ticks => t.setDelay ticks

/-! ## Gaps lie within the window -/

theorem one_le_delay_setDelay (t : GapTimer) (ticks : UInt16) : 1 ≤ (t.setDelay ticks).delay := by
  refine Std.le_min_iff.2 ⟨?_, UInt16.le_trans t.speed.one_le_leastGap t.speed.leastGap_le_window⟩
  split
  · exact UInt16.le_refl 1
  · next h =>
    have : ticks.toNat ≠ 0 := fun h₀ => h (UInt16.toNat_inj.1 h₀)
    exact UInt16.le_iff_toNat_le.2 (Nat.one_le_iff_ne_zero.2 this)

theorem delay_setDelay_le (t : GapTimer) (ticks : UInt16) :
    (t.setDelay ticks).delay ≤ t.speed.window := Std.min_le_right

/-! ## One tick, signal by signal -/

@[simp] theorem count_step_true (t : GapTimer) : (t.step true).1.count = some t.freshCount := rfl

@[simp] theorem count_step_false (t : GapTimer) :
    (t.step false).1.count = t.count.bind Count.elapse := rfl

@[simp] theorem speed_step (t : GapTimer) (b : Bool) : (t.step b).1.speed = t.speed := rfl

@[simp] theorem delay_step (t : GapTimer) (b : Bool) : (t.step b).1.delay = t.delay := rfl

@[simp] theorem txAllowed_step (t : GapTimer) (b : Bool) :
    (t.step b).2.txAllowed = t.signals.txAllowed := rfl

@[simp] theorem txTimeout_step (t : GapTimer) (b : Bool) :
    (t.step b).2.txTimeout = t.signals.txTimeout := rfl

@[simp] theorem count_setSpeed (t : GapTimer) (s : Speed) : (t.setSpeed s).count = t.count := rfl

@[simp] theorem count_setDelay (t : GapTimer) (ticks : UInt16) :
    (t.setDelay ticks).count = t.count := rfl

end GapTimer

end ControlEndpoint
