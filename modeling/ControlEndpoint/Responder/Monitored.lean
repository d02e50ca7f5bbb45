import ControlEndpoint.Responder

/-!
# Monitored responders

A monitor stands beside a responder and records how often it was stepped and what it saw last.
The responder does not notice.
-/

namespace ControlEndpoint

universe u

/-- A responder with a record of its ticks. -/
@[ext] structure Monitored (σ : Type u) where
  /-- The responder. -/
  inner : σ
  /-- The number of ticks. -/
  ticks : Nat := 0
  /-- The broadcast of the latest tick. -/
  seen : Option Broadcast := none

namespace Monitored

variable {σ : Type u} [Responder σ] (m : Monitored σ) (i : Broadcast)

/-- One tick of the responder, put on record. -/
def step : Monitored σ × Drive :=
  let (inner, drive) := Clocked.step m.inner i
  ({ inner, ticks := m.ticks + 1, seen := some i }, drive)

instance : Responder (Monitored σ) where
  step := step

variable (is : List Broadcast)

theorem inner_after : (Clocked.after m is).inner = Clocked.after m.inner is := by
  induction is generalizing m with
  | nil => rfl
  | cons i is ih => exact ih _

theorem ticks_after : (Clocked.after m is).ticks = m.ticks + is.length := by
  induction is generalizing m with
  | nil => rfl
  | cons i is ih => exact (ih _).trans (Nat.add_right_comm m.ticks 1 is.length)

theorem seen_after : (Clocked.after m is).seen = is.getLast?.or m.seen := by
  induction is generalizing m with
  | nil => rfl
  | cons i is ih =>
    rw [Clocked.after_cons, ih, List.getLast?_cons]
    cases is.getLast? <;> rfl

end Monitored

end ControlEndpoint
