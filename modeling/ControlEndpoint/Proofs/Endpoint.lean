import ControlEndpoint.Endpoint
import ControlEndpoint.Proofs.FrontEnd.Register
import ControlEndpoint.Proofs.ResponderBank

/-!
# The parts of an endpoint

An endpoint is a cascade.  Its front end goes through the traffic as it would alone, and its bank
goes through what it is shown, which depends on the front end and not on the bank.  So the
responders of an endpoint are in the states that they come to alone on what was shown so far, and
the bus of a tick resolves what they would drive alone.

## Main definitions

* `Endpoint.seen`, `Endpoint.seenBefore`: what the responders are shown on a tick, and before it

## Main results

* `Endpoint.isPart_frontEnd`: the front end goes through the traffic alone
* `Endpoint.responders_stateAfter_holding`: the responders of an endpoint
* `Endpoint.bus_of_getElem?_trace`: the bus of an endpoint
-/

namespace ControlEndpoint

universe u

namespace Endpoint

section Cascade

variable {β : Type u}

/-- What happens to an endpoint. -/
abbrev Event := ControlEndpoint.Event FrontEnd.Adjustment Input

/-- One tick of an endpoint. -/
abbrev Tick (β : Type u) := ControlEndpoint.Tick (Endpoint β) Input Output

/-- What the responders are shown on a tick. -/
def seen (k : Tick β) : Broadcast := k.before.broadcast k.input

/-- A tick as the front end sees it. -/
def front (k : Tick β) : FrontEnd.Tick := Tick.map Endpoint.frontEnd Input.toTraffic k

/-- What the responders were shown before tick `t`. -/
def seenBefore (tr : List (Tick β)) (t : Nat) : List Broadcast := (tr.take t).map seen

section SeenBefore

variable {tr : List (Tick β)} {m t : Nat} {k : Tick β}

theorem seenBefore_succ (hk : tr[t]? = some k) :
    seenBefore tr (t + 1) = seenBefore tr t ++ [seen k] := by
  rw [seenBefore, List.take_add_one, hk, List.map_append]
  rfl

theorem length_seenBefore (ht : t ≤ tr.length) : (seenBefore tr t).length = t := by
  rw [seenBefore, List.length_map, List.length_take_of_le ht]

theorem take_seenBefore (hm : m ≤ t) : (seenBefore tr t).take m = seenBefore tr m := by
  rw [seenBefore, ← List.map_take, List.take_take, Nat.min_eq_left hm, seenBefore]

theorem getElem?_seenBefore (hm : m < t) : (seenBefore tr t)[m]? = tr[m]?.map seen := by
  rw [seenBefore, List.getElem?_map, List.getElem?_take_of_lt hm]

theorem isLatest_seenBefore_iff {p : Broadcast → Prop} {b : Broadcast} (ht : t ≤ tr.length) :
    IsLatest p (seenBefore tr t) m t b ↔
      ∃ k, IsLatest (fun k => p (seen k)) tr m t k ∧ seen k = b := by
  rw [seenBefore, isLatest_map_iff]
  simp only [isLatest_take_iff ht]

end SeenBefore

variable [Clocked β Broadcast (Except BusError Drive)]

@[simp] theorem clocked_step (e : Endpoint β) (i : Input) : Clocked.step e i = e.step i := rfl

theorem isPart_frontEnd : IsPart (Endpoint.frontEnd (β := β)) id Input.toTraffic where
  adjust _ _ := rfl
  step _ _ := rfl

theorem trace_frontEnd (e : Endpoint β) (es : List Event) :
    trace e.frontEnd (es.map (Event.map id Input.toTraffic)) = (trace e es).map front :=
  isPart_frontEnd.trace_map e es

theorem front_of_getElem?_trace {e : Endpoint β} {es : List Event} {t : Nat} {k : Tick β}
    (hk : (trace e es)[t]? = some k) :
    (trace e.frontEnd (es.map (Event.map id Input.toTraffic)))[t]? = some (front k) := by
  rw [trace_frontEnd, List.getElem?_map, hk, Option.map_some]

/-- The responders see a packet that was just received. -/
abbrev SeesReceived (k : Tick β) : Prop := (seen k).setup.received = true

/-- Between two marks the responders see the packet that was marked last. -/
theorem setup_seen_of_isLatest {e : Endpoint β} {es : List Event} {r t : Nat} {j k : Tick β}
    (hlatest : IsLatest SeesReceived (trace e es) r (t + 1) j) (hk : (trace e es)[t]? = some k) :
    { (seen k).setup with received := false } = { (seen j).setup with received := false } := by
  have hfront : IsLatest FrontEnd.ShowsReceived
      (trace e.frontEnd (es.map (Event.map id Input.toTraffic))) r (t + 1) (front j) := by
    rw [trace_frontEnd, isLatest_map_iff]
    exact ⟨j, hlatest, rfl⟩
  exact FrontEnd.setup_of_isLatest hfront (front_of_getElem?_trace hk)

/-- The bank goes through what it is shown. -/
theorem bank_stateAfter (e : Endpoint β) (es : List Event) :
    (stateAfter e es).bank = Clocked.after e.bank ((trace e es).map seen) := by
  induction es generalizing e with
  | nil => rfl
  | cons e' es ih =>
    cases e' with
    | adjust k => exact ih (Adjustable.adjust e k)
    | tick i => exact ih (e.step i).1

end Cascade

section Bank

variable {σ : Type u} {capacity : Nat}

/-- The idle endpoint at a speed, with the responders `rs`. -/
def holding (capacity : Nat) (s : Speed) (rs : List σ) : Endpoint (ResponderBank σ capacity) :=
  ofSpeed s (.holding rs)

variable [Responder σ]

/-- **The responders of an endpoint** run alone on what they are shown. -/
theorem responders_stateAfter_holding (s : Speed) (rs : List σ) (es : List Event) :
    (stateAfter (holding capacity s rs) es).bank.responders =
      (rs.take capacity).map fun r =>
        Clocked.after r ((trace (holding capacity s rs) es).map seen) := by
  have hrs : (holding capacity s rs).bank.responders = rs.take capacity :=
    ResponderBank.responders_holding rs
  rw [bank_stateAfter, ResponderBank.responders_after, hrs]

/-- **The bus of an endpoint** resolves what its responders drive alone. -/
theorem bus_of_getElem?_trace {s : Speed} {rs : List σ} {es : List Event} {t : Nat}
    {k : Tick (ResponderBank σ capacity)} (hk : (trace (holding capacity s rs) es)[t]? = some k) :
    k.output.bus = Drive.resolve ((rs.take capacity).map fun r =>
      (Clocked.step (Clocked.after r (seenBefore (trace (holding capacity s rs) es) t))
        (seen k)).2) := by
  obtain ⟨fs, gs, rfl, rfl, hbefore, hout⟩ := exists_cut_of_getElem?_trace hk
  have hpacked : k.before.bank.Packed := by
    rw [hbefore, bank_stateAfter]
    exact (ResponderBank.packed_holding rs).after _
  have hbus : k.output.bus = (k.before.bank.step (seen k)).2 := by
    rw [hout]
    rfl
  rw [hbus, hpacked.bus_step, ResponderBank.drives, hbefore, responders_stateAfter_holding,
    List.map_map, seenBefore, trace_append, List.take_left]
  rfl

end Bank

end Endpoint

end ControlEndpoint
