import ControlEndpoint.Responder

/-!
# Scripted responders

A scripted responder ignores what it is shown and drives a script, one entry on each tick.  After
the last entry it keeps idle or begins again.
-/

namespace ControlEndpoint

/-- A responder that drives a script. -/
structure ScriptedResponder where
  /-- The drives, one for each tick. -/
  script : List Drive
  /-- Whether the script begins again after its last entry. -/
  cycles : Bool := false
  /-- The number of ticks so far. -/
  position : Nat := 0
deriving DecidableEq, Repr

namespace ScriptedResponder

variable (r : ScriptedResponder) (i : Broadcast)

/-- The entry of the script for the next tick, if there is one. -/
def current : Option Drive :=
  if r.cycles then r.script[r.position % r.script.length]? else r.script[r.position]?

/-- One tick. -/
def step (_ : Broadcast) : ScriptedResponder × Drive :=
  ({ r with position := r.position + 1 }, r.current.getD .idle)

instance : Responder ScriptedResponder where
  step := step

@[simp] theorem drive_step : (r.step i).2 = r.current.getD .idle := rfl

end ScriptedResponder

end ControlEndpoint
