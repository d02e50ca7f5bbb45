import ControlEndpoint.Proofs.Endpoint
import ControlEndpoint.Responder.Scripted

/-!
# Requests reach the responders

A responder of an endpoint sees nothing of the bus traffic but the register of the front end.  It
can rely on the mark of the register: a packet is marked on the tick after it was accepted and on no
other, and the register changes on no other tick.  So every request is delivered to every responder
once, in order and unchanged.

Nothing is asked of the responders.  In particular they may drive a bus that is refused, and they
see the ticks after it like all others.

## Main results

* `Endpoint.delivered_append_marked`: what is delivered is what was accepted
* `Endpoint.requests_delivered`: what each responder sees, tick by tick
-/

namespace ControlEndpoint

universe u

namespace Endpoint

variable {β : Type u}

/-- The bytes of the request that is delivered on a tick. -/
def delivered (k : Tick β) : Option (Vector UInt8 8) := FrontEnd.markedBytes (seen k).setup

/-- The bytes of the packet that a tick accepts. -/
def accepted (k : Tick β) : Option (Vector UInt8 8) :=
  if k.before.frontEnd.Accepts k.input.toTraffic then some k.input.data.payload else none

variable [Clocked β Broadcast (Except BusError Drive)] {e : Endpoint β} {es : List Event} {t : Nat}
  {k k' : Tick β}

/-- The responders see the register from tick to tick as the front end has it. -/
theorem setup_seen_succ (hk : (trace e es)[t]? = some k) (hk' : (trace e es)[t + 1]? = some k') :
    (seen k').setup =
      if k.before.frontEnd.Accepts k.input.toTraffic then
        { k.input.data.setup with received := true }
      else { (seen k).setup with received := false } :=
  FrontEnd.setup_succ (front_of_getElem?_trace hk) (front_of_getElem?_trace hk')

/-- **What is delivered** is what was accepted, in order; a packet that the last tick accepted is
still to be delivered. -/
theorem delivered_append_marked (e : Endpoint β) (es : List Event) :
    (trace e es).filterMap delivered ++ (stateAfter e es).frontEnd.marked.toList =
      e.frontEnd.marked.toList ++ (trace e es).filterMap accepted := by
  have h := FrontEnd.received_append_marked e.frontEnd (es.map (Event.map id Input.toTraffic))
  rw [trace_frontEnd, isPart_frontEnd.stateAfter_map, List.filterMap_map, List.filterMap_map] at h
  exact h

/-- **Requests reach the responders.**  An endpoint steps its responders on every tick with what is
shown on that tick, whatever they drive.  What they see of the requests is empty at first.  On a
tick that follows an accepted packet they see that packet, marked as received, and on every other
tick what they saw on the tick before, without the mark.  So the requests that are delivered are
the packets that were accepted, each once and in order; the last of them is delivered on the next
tick if no tick has followed it. -/
theorem requests_delivered {σ : Type u} [Responder σ] (capacity : Nat) (s : Speed) (rs : List σ)
    (es : List Event) :
    let e := holding capacity s rs
    let tr := trace e es
    (stateAfter e es).bank.responders =
        (rs.take capacity).map (fun r => Clocked.after r (tr.map seen)) ∧
      (∀ k, tr[0]? = some k → (seen k).setup = {}) ∧
      (∀ t k k', tr[t]? = some k → tr[t + 1]? = some k' →
        if k.before.frontEnd.Accepts k.input.toTraffic then
          (seen k').setup = { k.input.data.setup with received := true } ∧
            (seen k').setup.toBytes = k.input.data.payload
        else (seen k').setup = { (seen k).setup with received := false }) ∧
      tr.filterMap delivered ++ (stateAfter e es).frontEnd.marked.toList =
        tr.filterMap accepted := by
  intro e tr
  refine ⟨responders_stateAfter_holding s rs es, ?_, ?_, delivered_append_marked e es⟩
  · intro k hk
    exact FrontEnd.setup_zero (front_of_getElem?_trace hk)
  · intro t k k' hk hk'
    have hsetup := setup_seen_succ hk hk'
    by_cases hacc : k.before.frontEnd.Accepts k.input.toTraffic
    · rw [if_pos hacc] at hsetup ⊢
      refine ⟨hsetup, ?_⟩
      rw [hsetup]
      exact SetupPacket.toBytes_ofBytes k.input.data.payload
    · rw [if_neg hacc] at hsetup ⊢
      exact hsetup

/-- A request is delivered although the bus is refused on every tick. -/
theorem requests_delivered_on_refused_bus :
    let stalls : ScriptedResponder :=
      { script := [.ofHandshakes (.single .stall)], cycles := true }
    let acks : ScriptedResponder := { script := [.ofHandshakes (.single .ack)], cycles := true }
    let es : List Event := [.tick { token := .detected Token.setupPid },
      .tick { data := .ofBytes [0, 5, 42, 0, 0, 0, 0, 0] }, .tick {}]
    let tr := trace (holding 2 .full [stalls, acks]) es
    ∃ k₀ k₁ k₂, tr[0]? = some k₀ ∧ tr[1]? = some k₁ ∧ tr[2]? = some k₂ ∧
      k₁.output.bus = .error .conflictingHandshakes ∧ (seen k₀).setup = {} ∧
        (seen k₂).setup = { k₁.input.data.setup with received := true } ∧
          (seen k₂).setup.toBytes = #v[0, 5, 42, 0, 0, 0, 0, 0] := by
  intro stalls acks es tr
  obtain ⟨-, hfirst, hnext, -⟩ := requests_delivered 2 .full [stalls, acks] es
  have h₁ : tr[1]? = some (tr.get ⟨1, by decide⟩) := rfl
  have h₂ : tr[2]? = some (tr.get ⟨2, by decide⟩) := rfl
  have hbus : (tr.get ⟨1, by decide⟩).output.bus = .error .conflictingHandshakes := by
    rw [bus_of_getElem?_trace h₁]
    decide
  have hacc : (tr.get ⟨1, by decide⟩).before.frontEnd.Accepts
      (tr.get ⟨1, by decide⟩).input.toTraffic := by decide
  have hseen := hnext 1 _ _ h₁ h₂
  rw [if_pos hacc] at hseen
  exact ⟨_, _, _, rfl, h₁, h₂, hbus, hfirst _ rfl, hseen⟩

end Endpoint

end ControlEndpoint
