import ControlEndpoint.Responder.Monitored
import ControlEndpoint.ResponderBank

/-!
# Monitored banks

A bank with a monitor beside every responder that it was ever given.  A responder that was
refused keeps a record too, in which nothing happens.

## Main definitions

* `MonitoredBank`: a bank of monitored responders, and the responders it refused
* `MonitoredBank.records`: the records of all responders, in the order they were given

## Main results

* `MonitoredBank.attach_of_lt`, `MonitoredBank.attach_of_le`: who finds a slot, and who is refused
-/

namespace ControlEndpoint

universe u

/-- A bank that keeps a record of every responder it was given. -/
structure MonitoredBank (σ : Type u) (capacity : Nat) where
  /-- The bank of the attached responders. -/
  bank : ResponderBank (Monitored σ) capacity := ∅
  /-- The responders that found no slot, in the order they were given. -/
  refused : List σ := []

namespace MonitoredBank

variable {σ : Type u} {capacity : Nat} (b : MonitoredBank σ capacity)

instance : EmptyCollection (MonitoredBank σ capacity) where
  emptyCollection := {}

/-- Attaches the responder `r`, or puts it to those that were refused. -/
def attach (r : σ) : MonitoredBank σ capacity × Except AttachError Nat :=
  match b.bank.attach { inner := r } with
  | (bank, .ok slot) => ({ b with bank }, .ok slot)
  | (_, .error e) => ({ b with refused := b.refused ++ [r] }, .error e)

instance : Adjustable (MonitoredBank σ capacity) σ where
  adjust b r := (b.attach r).1

/-- The records of all responders.  A bank refuses none before it is full, and every one after,
so those that were refused come last. -/
def records : List (Monitored σ) := b.bank.responders ++ b.refused.map fun r => { inner := r }

variable {b}

theorem attach_of_lt (h : b.bank.size < capacity) (r : σ) :
    b.attach r = ({ b with bank := (b.bank.attach { inner := r }).1 }, .ok b.bank.size) := by
  simp [attach, ResponderBank.attach, h]

theorem attach_of_le (h : capacity ≤ b.bank.size) (r : σ) :
    b.attach r = ({ b with refused := b.refused ++ [r] }, .error .full) := by
  simp [attach, ResponderBank.attach, Nat.not_lt.2 h]

variable (b) [Responder σ] (i : Broadcast)

/-- One tick of the bank. -/
def step : MonitoredBank σ capacity × Except BusError Drive :=
  let (bank, bus) := b.bank.step i
  ({ b with bank }, bus)

instance : Clocked (MonitoredBank σ capacity) Broadcast (Except BusError Drive) where
  step b i := b.step i

end MonitoredBank

end ControlEndpoint
