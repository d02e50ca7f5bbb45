import ControlEndpoint.Responder

/-!
# Stall responders

A stall responder refuses requests: whenever the host asks the device to transmit, it stalls if
its condition holds of the SETUP packet.  Attached last, it answers for the requests that no
other responder supports.

The condition belongs to whoever made the responder, and it is asked for only when the answer
matters.  How a responder answers a broadcast is therefore written for any way of asking
(`respond`), and a responder on the bus asks its own condition, which counts (`consult`).

## Main definitions

* `StallResponder`: a condition, and how often it was consulted
* `StallResponder.consult`: asks the condition
* `StallResponder.respond`: the answer to a broadcast, by any way of asking

## Main results

* `StallResponder.state_step`, `StallResponder.after_eq`: how often the condition is consulted
* `StallResponder.drive_eq`: what is driven
-/

namespace ControlEndpoint

/-- A responder that stalls by a condition. -/
structure StallResponder where
  /-- The requests to refuse. -/
  condition : SetupPacket → Bool
  /-- How often the condition was consulted. -/
  consultations : Nat := 0

namespace StallResponder

/-- The text of a stall responder, which does not show its condition. -/
def text : String := "StallOnlyHandler \x7b .. \x7d"

/-- Consults the condition about a packet, and counts that.  The condition is read nowhere else. -/
def consult (p : SetupPacket) : StateM StallResponder Bool := fun r =>
  (r.condition p, { r with consultations := r.consultations + 1 })

/-- The answer to a broadcast, where `ask` tells whether to refuse a packet: a stall, or nothing.
Nothing is asked unless the host asks the device to transmit. -/
def respond {m : Type → Type} [Monad m] (ask : SetupPacket → m Bool) (i : Broadcast) : m Drive :=
  if i.Requests then do
    let refused ← ask i.setup
    pure (if refused then .ofHandshakes (.single .stall) else .idle)
  else
    pure .idle

variable (r : StallResponder) (i : Broadcast)

/-- One tick: the responder asks its own condition. -/
def step : StallResponder × Drive := ((respond consult i).run r).swap

instance : Responder StallResponder where
  step := step

/-- What the responder drives: a stall, or nothing. -/
def drive : Drive := (r.step i).2

@[simp] theorem drive_step : (r.step i).2 = r.drive i := rfl

/-! ## One tick -/

variable {i}

/-- Where the host asks, the condition is consulted, and decides. -/
theorem step_of_requests (h : i.Requests) :
    r.step i =
      ({ r with consultations := r.consultations + 1 },
        if r.condition i.setup then .ofHandshakes (.single .stall) else .idle) := by
  rw [step, respond, if_pos h]
  rfl

/-- Where the host does not ask, nothing happens. -/
theorem step_of_not_requests (h : ¬ i.Requests) : r.step i = (r, .idle) := by
  rw [step, respond, if_neg h]
  rfl

variable (i)

/-- **A tick counts the requests**: each is one consultation, and nothing else is. -/
theorem state_step :
    (r.step i).1 =
      { r with consultations := r.consultations + if i.Requests then 1 else 0 } := by
  by_cases h : i.Requests
  · rw [step_of_requests r h, if_pos h]
  · rw [step_of_not_requests r h, if_neg h, Nat.add_zero]

/-- **What becomes of a stall responder**: it keeps its condition, and has consulted it once for
each request. -/
theorem after_eq (is : List Broadcast) :
    Clocked.after r is =
      { r with consultations := r.consultations + is.countP fun i => i.Requests } := by
  induction is generalizing r with
  | nil => rfl
  | cons i is ih =>
    have hstep : (Clocked.step r i).1 =
        { r with consultations := r.consultations + if i.Requests then 1 else 0 } := r.state_step i
    rw [Clocked.after_cons, ih, hstep, List.countP_cons, Nat.add_assoc, Nat.add_comm (ite _ _ _)]
    simp only [decide_eq_true_iff]

theorem condition_after (is : List Broadcast) :
    (Clocked.after r is).condition = r.condition := by
  rw [after_eq]

/-! ## What is driven -/

/-- **What a stall responder drives**: a stall if the host asks and the condition holds, and nothing
otherwise.  How often it was consulted before makes no difference. -/
theorem drive_eq :
    r.drive i =
      if i.Requests ∧ r.condition i.setup then .ofHandshakes (.single .stall) else .idle := by
  by_cases h : i.Requests
  · simp only [drive, step_of_requests r h, h, true_and]
  · simp only [drive, step_of_not_requests r h, h, false_and, if_false]

@[simp] theorem addressStrobe_drive : (r.drive i).addressStrobe = false := by
  rw [drive_eq]
  split <;> rfl

@[simp] theorem valid_drive : (r.drive i).tx.valid = false := by
  rw [drive_eq]
  split <;> rfl

/-- The only line that is ever raised is that of a stall. -/
theorem mem_handshakes_drive_iff {j : Fin 8} :
    j ∈ (r.drive i).handshakes ↔
      (i.Requests ∧ r.condition i.setup = true) ∧ j = Handshake.stall.line := by
  rw [drive_eq]
  split <;> simp_all [Drive.ofHandshakes]

end StallResponder

end ControlEndpoint
