import ControlEndpoint.Drive.Resolve
import ControlEndpoint.FrontEnd
import ControlEndpoint.Responder

/-!
# Control endpoints

A control endpoint is a front end wired to a bank of responders.  The front end reads the
traffic of a tick first, and its register becomes part of the broadcast that the bank sees on the
same tick.

A bank is any clocked part that reads broadcasts and shows a bus, so that an endpoint works with
a plain bank and with a monitored one.

## Main definitions

* `Endpoint`: a front end and a bank
* `Endpoint.step`: one tick
-/

namespace ControlEndpoint

universe u

/-- A front end with a bank of responders. -/
structure Endpoint (β : Type u) where
  /-- The front end. -/
  frontEnd : FrontEnd
  /-- The bank. -/
  bank : β
deriving DecidableEq, Repr

namespace Endpoint

/-- What an endpoint reads during a tick. -/
structure Input extends Traffic where
  /-- What the responders are shown beside the SETUP packet and the token. -/
  rest : Broadcast := {}
deriving DecidableEq, Repr, Inhabited

/-- What an endpoint shows during a tick. -/
structure Output where
  /-- What the receiver of the front end shows. -/
  receiver : SetupReceiver.Output
  /-- The bus that the responders drive. -/
  bus : Except BusError Drive
deriving DecidableEq

variable {β : Type u}

/-- The idle endpoint at a speed. -/
def ofSpeed (s : Speed) (bank : β) : Endpoint β where
  frontEnd := .ofSpeed s
  bank := bank

variable [Clocked β Broadcast (Except BusError Drive)] (e : Endpoint β) (i : Input)

/-- What the responders see during a tick. -/
def broadcast : Broadcast :=
  { i.rest with setup := (e.frontEnd.step i.toTraffic).2.setup, token := i.token }

/-- One tick: the front end reads the traffic, and then the bank sees the packet. -/
def step : Endpoint β × Output :=
  let (frontEnd, receiver) := e.frontEnd.step i.toTraffic
  let (bank, bus) := Clocked.step e.bank (e.broadcast i)
  ({ frontEnd, bank }, { receiver, bus })

instance : Clocked (Endpoint β) Input Output where
  step := step

instance : Adjustable (Endpoint β) FrontEnd.Adjustment where
  adjust e k := { e with frontEnd := Adjustable.adjust e.frontEnd k }

/-! ## One tick, part by part -/

@[simp] theorem frontEnd_step : (e.step i).1.frontEnd = (e.frontEnd.step i.toTraffic).1 := rfl

@[simp] theorem bank_step : (e.step i).1.bank = (Clocked.step e.bank (e.broadcast i)).1 := rfl

@[simp] theorem receiver_step : (e.step i).2.receiver = (e.frontEnd.step i.toTraffic).2 := rfl

@[simp] theorem bus_step : (e.step i).2.bus = (Clocked.step e.bank (e.broadcast i)).2 := rfl

end Endpoint

end ControlEndpoint
