import ControlEndpoint.Responder.Address
import ControlEndpoint.Responder.Scripted
import ControlEndpoint.Responder.Stall

/-!
# Stock responders

The responders that come with the library, as one type, so that responders of any of these kinds
attach to one endpoint.
-/

namespace ControlEndpoint

/-- A responder of one of the kinds that come with the library. -/
inductive StockResponder where
  /-- A stall responder. -/
  | stall (r : StallResponder)
  /-- A scripted responder. -/
  | scripted (r : ScriptedResponder)
  /-- An address responder. -/
  | address (r : AddressResponder)

namespace StockResponder

/-- How often a condition was consulted. -/
def consultations : StockResponder → Nat
  | .stall r => r.consultations
  | .scripted _ | .address _ => 0

/-- One tick of the responder, whichever its kind. -/
def step (r : StockResponder) (i : Broadcast) : StockResponder × Drive :=
  match r with
  | .stall r => (r.step i).map .stall id
  | .scripted r => (r.step i).map .scripted id
  | .address r => (r.step i).map .address id

instance : Responder StockResponder where
  step := step

end StockResponder

end ControlEndpoint
