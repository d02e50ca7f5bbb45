import ControlEndpoint.Proofs.FrontEnd.Timing
import Mathlib.Data.List.Forall2

/-!
# What the front end does not read of the traffic

The front end reads of a token whether it is new and opens a SETUP transaction, of a data packet
whether it is new and has the length of a SETUP packet, and of the payload only what a packet of
that length holds.  Two histories with the same adjustments that agree on this much go through the
same states and show the same outputs, so neither the bytes and the length of a packet that is no
SETUP packet nor the identifier of a token that is not new, or not one of SETUP, are kept anywhere.

What is to be seen is that one tick does not tell such traffic apart, whatever state it begins in.
The runs follow.

## Main definitions

* `Traffic.Alike`: traffic that agrees on what is read
* `FrontEnd.Event.Alike`: the same adjustment, or ticks with alike traffic
* `FrontEnd.outcome`: what a tick shows, and the state it leaves

## Main results

* `SetupReceiver.step_eq_of_alike`, `FrontEnd.step_eq_of_alike`: one tick
* `FrontEnd.run_eq_of_alike`: a run from any state
* `FrontEnd.unread_leaves_no_trace`: the runs of a new front end, and one tick within them
-/

namespace ControlEndpoint

namespace Traffic

/-- The traffic of two ticks agrees on what is read. -/
structure Alike (i j : Traffic) : Prop where
  newToken : i.token.isNew = j.token.isNew
  setupPid : i.token.isNew = true →
    (i.token.pid = Token.setupPid ↔ j.token.pid = Token.setupPid)
  newData : i.data.isNew = j.data.isNew
  wireLength : i.data.isNew = true →
    (i.data.length = SetupPacket.wireLength ↔ j.data.length = SetupPacket.wireLength)
  payload : i.data.HoldsSetup → i.data.payload = j.data.payload

variable {i j : Traffic}

theorem Alike.opensSetup_iff (h : i.Alike j) : i.token.OpensSetup ↔ j.token.OpensSetup := by
  unfold Token.OpensSetup
  rw [← h.newToken]
  exact and_congr_right h.setupPid

theorem Alike.holdsSetup_iff (h : i.Alike j) : i.data.HoldsSetup ↔ j.data.HoldsSetup := by
  unfold DataPacket.HoldsSetup
  rw [← h.newData]
  exact and_congr_right h.wireLength

theorem Alike.setup_eq (h : i.Alike j) (hi : i.data.HoldsSetup) : i.data.setup = j.data.setup :=
  congrArg SetupPacket.ofBytes (h.payload hi)

theorem Alike.refl (i : Traffic) : i.Alike i :=
  ⟨rfl, fun _ => .rfl, rfl, fun _ => .rfl, fun _ => rfl⟩

/-- A token that opens no transaction is like any other such token, and a packet that is no SETUP
packet like any other such packet. -/
theorem alike_of_unread (htoken : i.token.isNew = j.token.isNew)
    (hpid : i.token = j.token ∨ ¬ i.token.OpensSetup ∧ ¬ j.token.OpensSetup)
    (hdata : i.data.isNew = j.data.isNew)
    (hpacket : i.data = j.data ∨ ¬ i.data.HoldsSetup ∧ ¬ j.data.HoldsSetup) : i.Alike j where
  newToken := htoken
  setupPid hnew := by
    rcases hpid with heq | ⟨hi, hj⟩
    · rw [heq]
    · exact iff_of_false (fun h => hi ⟨hnew, h⟩) (fun h => hj ⟨htoken ▸ hnew, h⟩)
  newData := hdata
  wireLength hnew := by
    rcases hpacket with heq | ⟨hi, hj⟩
    · rw [heq]
    · exact iff_of_false (fun h => hi ⟨hnew, h⟩) (fun h => hj ⟨hdata ▸ hnew, h⟩)
  payload hsetup := by
    rcases hpacket with heq | ⟨hi, -⟩
    · rw [heq]
    · exact absurd hsetup hi

end Traffic

/-! ## One tick -/

namespace SetupReceiver

variable {i j : Input}

theorem accepts_iff_of_alike (h : i.toTraffic.Alike j.toTraffic) (r : SetupReceiver) :
    r.Accepts i ↔ r.Accepts j :=
  and_congr_right fun _ => h.holdsSetup_iff

theorem acks_eq_of_alike (h : i.toTraffic.Alike j.toTraffic) (htx : i.txAllowed = j.txAllowed)
    (r : SetupReceiver) : r.acks i = r.acks j := by
  rw [Bool.eq_iff_iff, acks_iff, acks_iff, accepts_iff_of_alike h, htx]

theorem nextPacket_eq_of_alike (h : i.toTraffic.Alike j.toTraffic) (r : SetupReceiver) :
    r.nextPacket i = r.nextPacket j := by
  unfold nextPacket
  by_cases hacc : r.Accepts i
  · -- Only here is a payload read.
    rw [if_pos hacc, if_pos ((accepts_iff_of_alike h r).1 hacc), h.setup_eq hacc.2]
  · rw [if_neg hacc, if_neg (mt (accepts_iff_of_alike h r).2 hacc)]

theorem nextPhase_eq_of_alike (h : i.toTraffic.Alike j.toTraffic)
    (htx : i.txAllowed = j.txAllowed) (r : SetupReceiver) : r.nextPhase i = r.nextPhase j := by
  unfold nextPhase
  simp only [h.opensSetup_iff, h.holdsSetup_iff, h.newData, h.newToken, htx,
    acks_eq_of_alike h htx]

/-- One tick of the receiver does not tell alike traffic apart. -/
theorem step_eq_of_alike (h : i.toTraffic.Alike j.toTraffic) (htx : i.txAllowed = j.txAllowed)
    (r : SetupReceiver) : r.step i = r.step j := by
  rw [step, step, nextPhase_eq_of_alike h htx, nextPacket_eq_of_alike h, acks_eq_of_alike h htx,
    h.newData]

end SetupReceiver

namespace FrontEnd

/-- One tick of the front end does not tell alike traffic apart: the timer is started by new data
alone, and the receiver reads the same timer. -/
theorem step_eq_of_alike {i j : Traffic} (h : i.Alike j) (f : FrontEnd) : f.step i = f.step j := by
  have hreceiver : f.receiver.step (f.input i) = f.receiver.step (f.input j) :=
    SetupReceiver.step_eq_of_alike (i := f.input i) (j := f.input j) h rfl f.receiver
  rw [step, step, hreceiver]

/-! ## Runs -/

/-- The same adjustment, or two ticks with alike traffic. -/
inductive Event.Alike : Event → Event → Prop
  | adjust (a : Adjustment) : Alike (.adjust a) (.adjust a)
  | tick {i j : Traffic} (h : i.Alike j) : Alike (.tick i) (.tick j)

theorem Event.Alike.refl (e : Event) : Event.Alike e e := by
  cases e with
  | adjust a => exact .adjust a
  | tick i => exact .tick (.refl i)

/-- What a tick shows, and the state it leaves. -/
def outcome (k : Tick) : SetupReceiver.Output × FrontEnd := (k.output, (k.before.step k.input).1)

/-- From any state on, alike histories show the same outputs and go through the same states. -/
theorem run_eq_of_alike {es es' : List Event} (h : List.Forall₂ Event.Alike es es')
    (f : FrontEnd) :
    (trace f es).map outcome = (trace f es').map outcome ∧ stateAfter f es = stateAfter f es' := by
  induction h generalizing f with
  | nil => exact ⟨rfl, rfl⟩
  | cons hhead _ ih =>
    cases hhead with
    | adjust a => exact ih (Adjustable.adjust f a)
    | @tick i j h =>
      -- The tick shows the same and leaves the same state, from which the rest goes on.
      have hstep : f.step i = f.step j := step_eq_of_alike h f
      obtain ⟨htrace, hstate⟩ := ih (f.step i).1
      constructor
      · rw [trace_tick, trace_tick, List.map_cons, List.map_cons, outcome, outcome, clocked_step,
          clocked_step, ← hstep, htrace]
      · rw [stateAfter_cons, stateAfter_cons, afterEvent, afterEvent, clocked_step, clocked_step,
          ← hstep, hstate]

/-- **What is not read leaves no trace.**  Two histories of the same adjustments whose traffic
agrees on what is read show the same outputs on every tick and go through the same states.  In
particular one tick may bring another token that opens no transaction, or another packet that is no
SETUP packet, whatever comes before and after. -/
theorem unread_leaves_no_trace (s : Speed) :
    (∀ es es' : List Event, List.Forall₂ Event.Alike es es' →
      (trace (ofSpeed s) es).map outcome = (trace (ofSpeed s) es').map outcome ∧
        stateAfter (ofSpeed s) es = stateAfter (ofSpeed s) es') ∧
      ∀ (fs gs : List Event) (i j : Traffic),
        i.token.isNew = j.token.isNew →
        (i.token = j.token ∨ ¬ i.token.OpensSetup ∧ ¬ j.token.OpensSetup) →
        i.data.isNew = j.data.isNew →
        (i.data = j.data ∨ ¬ i.data.HoldsSetup ∧ ¬ j.data.HoldsSetup) →
        (trace (ofSpeed s) (fs ++ .tick i :: gs)).map outcome =
            (trace (ofSpeed s) (fs ++ .tick j :: gs)).map outcome ∧
          stateAfter (ofSpeed s) (fs ++ .tick i :: gs) =
            stateAfter (ofSpeed s) (fs ++ .tick j :: gs) := by
  constructor
  · intro es es' h
    exact run_eq_of_alike h (ofSpeed s)
  · intro fs gs i j htoken hpid hdata hpacket
    have halike : i.Alike j := Traffic.alike_of_unread htoken hpid hdata hpacket
    have hsame (es : List Event) : List.Forall₂ Event.Alike es es :=
      List.forall₂_same.2 fun e _ => .refl e
    apply run_eq_of_alike
    exact List.rel_append (hsame fs) (.cons (.tick halike) (hsame gs))

/-- A packet of nine bytes breaks a transaction off as one of no bytes does, beside any stale
identifier, and an IN token breaks the next one off as an OUT token does. -/
theorem unread_leaves_no_trace_full :
    let i : Traffic := { token := .held Token.setupPid, data := .ofBytes (List.replicate 9 255) }
    let j : Traffic := { token := .held 1, data := .ofBytes [] }
    let k : Traffic := { token := .detected 9 }
    let k' : Traffic := { token := .detected 1 }
    let es : List Event := [tokenTick, .tick i, tokenTick, .tick k, dataTick zeros]
    let es' : List Event := [tokenTick, .tick j, tokenTick, .tick k', dataTick zeros]
    List.Forall₂ Event.Alike es es' ∧
      (trace (ofSpeed .full) es).map outcome = (trace (ofSpeed .full) es').map outcome ∧
      (trace (ofSpeed .full) ([tokenTick] ++ .tick i :: [dataTick zeros])).map outcome =
        (trace (ofSpeed .full) ([tokenTick] ++ .tick j :: [dataTick zeros])).map outcome := by
  intro i j k k' es es'
  obtain ⟨hruns, htick⟩ := unread_leaves_no_trace .full
  have hpid : ¬ i.token.OpensSetup ∧ ¬ j.token.OpensSetup :=
    ⟨Token.not_opensSetup_held _, Token.not_opensSetup_held _⟩
  have hpacket : ¬ i.data.HoldsSetup ∧ ¬ j.data.HoldsSetup := by decide
  have hbroken : i.Alike j := Traffic.alike_of_unread rfl (.inr hpid) rfl (.inr hpacket)
  have hpid' : ¬ k.token.OpensSetup ∧ ¬ k'.token.OpensSetup := by decide
  have haborted : k.Alike k' := Traffic.alike_of_unread rfl (.inr hpid') rfl (.inl rfl)
  have halike : List.Forall₂ Event.Alike es es' := by
    apply List.Forall₂.cons (.refl tokenTick)
    apply List.Forall₂.cons (.tick hbroken)
    apply List.Forall₂.cons (.refl tokenTick)
    apply List.Forall₂.cons (.tick haborted)
    exact .cons (.refl (dataTick zeros)) .nil
  exact ⟨halike, (hruns es es' halike).1,
    (htick [tokenTick] [dataTick zeros] i j rfl (.inr hpid) rfl (.inr hpacket)).1⟩

end FrontEnd

end ControlEndpoint
