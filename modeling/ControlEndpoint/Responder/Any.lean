import ControlEndpoint.Responder

/-!
# Responders of any type

A bank holds responders of one type.  All it asks of them is how they are stepped, so a responder
of any type whatever can be put behind that, and responders of different types go into one bank.

## Main definitions

* `AnyResponder`: a responder whose type is hidden
* `AnyResponder.of`: hides the type of a responder

## Main results

* `AnyResponder.after_of`: a responder does not notice
-/

namespace ControlEndpoint

universe u

/-- A responder whose type is hidden. -/
structure AnyResponder where
  /-- The type. -/
  State : Type u
  /-- How the responder is stepped. -/
  responder : Responder State
  /-- The responder. -/
  state : State

namespace AnyResponder

/-- One tick of the responder, whatever its type. -/
def step (r : AnyResponder.{u}) (i : Broadcast) : AnyResponder.{u} × Drive :=
  let (state, drive) := r.responder.step r.state i
  ({ r with state }, drive)

instance : Responder AnyResponder.{u} where
  step := step

variable {σ : Type u} [inst : Responder σ] (r : σ) (is : List Broadcast)

/-- The responder `r`, with its type hidden. -/
def of : AnyResponder := ⟨σ, inst, r⟩

theorem after_of : Clocked.after (of r) is = of (Clocked.after r is) := by
  induction is generalizing r with
  | nil => rfl
  | cons i is ih => exact ih (Clocked.step r i).1

end AnyResponder

end ControlEndpoint
