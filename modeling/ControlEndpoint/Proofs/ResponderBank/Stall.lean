import ControlEndpoint.Proofs.ResponderBank
import ControlEndpoint.Responder.Stall

/-!
# Banks that only stall

Several responders of a bank may stall the same request.  They raise the same line and nothing else,
so they do not contradict each other, and the bus is that of one of them alone.  A bank whose
responders are all stall responders therefore stalls a request if some condition holds of it, and
its bus is never refused.

One answer does not save another: each responder consults its own condition on each request,
whatever those before it have said.

## Main results

* `Drive.joinAll_map_ite`: a drive that is repeated stands once on the bus
* `StallResponder.resolve_map_drive`: the bus of stall responders
* `ResponderBank.stalls_iff_some_condition`: a bank of stall responders
-/

namespace ControlEndpoint

universe u

/-! ## Repeated drives -/

theorem HandshakeSet.union_self (s : HandshakeSet) : s ∪ s = s :=
  HandshakeSet.ext_mem fun i => by simp

namespace Drive

/-- **A drive that is repeated** stands once on the bus, if it adds nothing to itself. -/
theorem joinAll_map_ite {α : Type u} {d : Drive} (hsettled : d.Settled) (hself : join d d = d)
    (p : α → Prop) [DecidablePred p] (l : List α) :
    joinAll (l.map fun a => if p a then d else idle) = if ∃ a ∈ l, p a then d else idle := by
  have hidle : join idle idle = idle := idle_join settled_idle
  have hlast : join d idle = d := by
    -- What an idle drive could change is only what no strobe raises.
    apply (settled_join d idle).ext hsettled <;> simp
  induction l with
  | nil => simp
  | cons a l ih =>
    rw [List.map_cons, joinAll_cons, ih]
    simp only [List.mem_cons, exists_eq_or_imp]
    by_cases ha : p a <;> by_cases hl : ∃ b ∈ l, p b <;>
      simp only [ha, hl, if_true, if_false, or_self, or_true, true_or, hself, hlast,
        idle_join hsettled, hidle]

theorem settled_ofHandshakes (s : HandshakeSet) : (ofHandshakes s).Settled := ⟨rfl, rfl, rfl, rfl⟩

theorem join_ofHandshakes_self (s : HandshakeSet) :
    join (ofHandshakes s) (ofHandshakes s) = ofHandshakes s := by
  apply (settled_join _ _).ext (settled_ofHandshakes s)
  case handshakes => exact s.union_self
  all_goals rfl

end Drive

/-! ## Stall responders -/

namespace StallResponder

/-- **The bus of stall responders**: a stall if the host asks and some condition holds, and nothing
otherwise.  It is never refused. -/
theorem resolve_map_drive (rs : List StallResponder) (i : Broadcast) :
    Drive.resolve (rs.map fun r => r.drive i) =
      .ok (if i.Requests ∧ ∃ r ∈ rs, r.condition i.setup = true
        then .ofHandshakes (.single .stall) else .idle) := by
  have hjoin : Drive.joinAll (rs.map fun r => r.drive i) =
      if ∃ r ∈ rs, i.Requests ∧ r.condition i.setup = true
        then .ofHandshakes (.single .stall) else .idle := by
    rw [List.map_congr_left fun r _ => r.drive_eq i]
    exact Drive.joinAll_map_ite (Drive.settled_ofHandshakes _) (Drive.join_ofHandshakes_self _) _ rs
  rw [Drive.resolve_eq_ok_iff, HandshakeSet.not_conflicting_iff]
  constructor
  · -- The line of a stall is the only one that is ever raised.
    refine ⟨Handshake.stall.line, fun j hj => ?_⟩
    obtain ⟨d, hd, hjd⟩ := (Drive.mem_handshakes_joinAll _).1 hj
    obtain ⟨r, -, rfl⟩ := List.mem_map.1 hd
    exact ((r.mem_handshakes_drive_iff i).1 hjd).2
  · rw [hjoin]
    refine if_congr ?_ rfl rfl
    constructor
    · rintro ⟨r, hr, hrequests, hcondition⟩
      exact ⟨hrequests, r, hr, hcondition⟩
    · rintro ⟨hrequests, r, hr, hcondition⟩
      exact ⟨r, hr, hrequests, hcondition⟩

end StallResponder

/-! ## A bank of stall responders -/

namespace ResponderBank

/-- **A bank of stall responders** stalls a request exactly if the condition of one of its
responders holds of it, and drives nothing otherwise; its bus is never refused.  Each responder has
consulted its condition once for each request since it was attached, and at no other time. -/
theorem stalls_iff_some_condition (capacity : Nat) (es : List (Event StallResponder Broadcast)) :
    let bank : ResponderBank StallResponder capacity := stateAfter ∅ es
    let attached := (arrivals es).take capacity
    (∀ i, (bank.step i).2 =
      .ok (if i.Requests ∧ ∃ a ∈ attached, a.responder.condition i.setup = true
        then .ofHandshakes (.single .stall) else .idle)) ∧
      bank.responders = attached.map fun a =>
        { a.responder with
          consultations := a.responder.consultations + a.since.countP fun i => i.Requests } := by
  intro bank attached
  have hresponders : bank.responders = attached.map fun a =>
      { a.responder with
        consultations := a.responder.consultations + a.since.countP fun i => i.Requests } := by
    rw [show bank.responders = attached.map Arrival.alone from responders_stateAfter es]
    exact List.map_congr_left fun a _ => a.responder.after_eq a.since
  refine ⟨fun i => ?_, hresponders⟩
  -- The conditions are those that the responders came with.
  have hsome : (∃ r ∈ bank.responders, r.condition i.setup = true) ↔
      ∃ a ∈ attached, a.responder.condition i.setup = true := by
    rw [hresponders]
    simp only [List.mem_map, exists_exists_and_eq_and]
  rw [(packed_stateAfter es).bus_step]
  refine (StallResponder.resolve_map_drive bank.responders i).trans (congrArg _ ?_)
  exact if_congr (and_congr_right' hsome) rfl rfl

end ResponderBank

end ControlEndpoint
