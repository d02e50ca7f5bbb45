import ControlEndpoint.Proofs.History
import ControlEndpoint.SetupReceiver

/-!
# One tick of the receiver

What a tick can do, read backwards: which ticks ask for the handshake, and which ticks leave the
receiver in each of its phases.  Statements about runs rest on these and do not open the step.

## Main results

* `SetupReceiver.acks_iff`: the ticks that ask for the handshake
* `SetupReceiver.nextPhase_eq_awaitingData_iff`, `SetupReceiver.nextPhase_eq_awaitingGap_iff`: the
  ticks that end in a given phase
* `SetupReceiver.before_zero`, `SetupReceiver.before_succ`: phase and register from tick to tick
-/

namespace ControlEndpoint

namespace SetupReceiver

/-- What happens to a receiver. -/
abbrev Event := ControlEndpoint.Event Speed Input

/-- One tick of a receiver. -/
abbrev Tick := ControlEndpoint.Tick SetupReceiver Input Output

variable {r : SetupReceiver} {i : Input}

@[simp] theorem clocked_step (r : SetupReceiver) (i : Input) : Clocked.step r i = r.step i := rfl

@[simp] theorem adjust_eq (r : SetupReceiver) (s : Speed) :
    Adjustable.adjust r s = r.setSpeed s := rfl

@[simp] theorem speed_setSpeed (r : SetupReceiver) (s : Speed) : (r.setSpeed s).speed = s := rfl

@[simp] theorem phase_setSpeed (r : SetupReceiver) (s : Speed) :
    (r.setSpeed s).phase = r.phase := rfl

@[simp] theorem packet_setSpeed (r : SetupReceiver) (s : Speed) :
    (r.setSpeed s).packet = r.packet := rfl

theorem not_accepts_of_awaitingGap (h : r.phase = .awaitingGap) : ¬ r.Accepts i :=
  fun ha => nomatch ha.1.symm.trans h

theorem not_accepts_of_no_data (h : i.data.isNew = false) : ¬ r.Accepts i :=
  fun ha => nomatch h.symm.trans ha.2.1

/-- The handshake is asked for by an accepted packet that need not wait, and at the end of the gap
of an earlier one. -/
theorem acks_iff :
    r.acks i = true ↔
      r.Accepts i ∧ (r.speed = .high ∨ i.txAllowed = true) ∨
        r.phase = .awaitingGap ∧ i.txAllowed = true := by
  unfold acks Accepts
  cases hp : r.phase with
  | idle => simp
  | awaitingData => simp [or_comm]
  | awaitingGap => simp

theorem acks_eq_false (hacc : ¬ r.Accepts i) (hphase : r.phase ≠ .awaitingGap) :
    r.acks i = false := by
  rw [Bool.eq_false_iff, ne_eq, acks_iff]
  rintro (⟨ha, -⟩ | ⟨hp, -⟩)
  · exact hacc ha
  · exact hphase hp

/-- The receiver awaits data after a token that opens a transaction, and goes on awaiting it while
nothing arrives. -/
theorem nextPhase_eq_awaitingData_iff :
    r.nextPhase i = .awaitingData ↔
      r.phase = .idle ∧ i.token.OpensSetup ∨
        r.phase = .awaitingData ∧ i.data.isNew = false ∧ i.token.isNew = false := by
  unfold nextPhase
  cases hp : r.phase with
  | idle => by_cases ho : i.token.OpensSetup <;> simp [ho]
  | awaitingData =>
    cases hd : i.data.isNew with
    | true => by_cases hg : i.data.HoldsSetup ∧ r.acks i = false <;> simp [hg]
    | false => cases ht : i.token.isNew <;> simp
  | awaitingGap => cases ha : i.txAllowed <;> simp

/-- The receiver awaits the gap as long as a packet that it accepted is not acknowledged. -/
theorem nextPhase_eq_awaitingGap_iff :
    r.nextPhase i = .awaitingGap ↔
      (r.Accepts i ∨ r.phase = .awaitingGap) ∧ r.acks i = false := by
  unfold nextPhase Accepts
  cases hp : r.phase with
  | idle => by_cases ho : i.token.OpensSetup <;> simp [ho]
  | awaitingData =>
    cases hd : i.data.isNew with
    | true => by_cases hg : i.data.HoldsSetup ∧ r.acks i = false <;> simp [hg]
    | false =>
      -- Without data there is no SETUP packet to wait for, whatever token comes.
      have hh : ¬ i.data.HoldsSetup := fun h => Bool.false_ne_true (hd.symm.trans h.1)
      cases ht : i.token.isNew <;> simp [hh]
  | awaitingGap => cases ha : i.txAllowed <;> simp [acks, hp, ha]

/-! ## From tick to tick

No adjustment bears on the phase or on the register. -/

variable {s : Speed} {es : List Event} {t : Nat} {k k' : Tick}

theorem before_zero (hk : (trace (ofSpeed s) es)[0]? = some k) :
    k.before.phase = .idle ∧ k.before.packet = {} :=
  Prod.mk.inj <| before_of_getElem?_trace_zero (g := fun r : SetupReceiver => (r.phase, r.packet))
    (fun _ _ => rfl) hk

theorem before_succ (hk : (trace (ofSpeed s) es)[t]? = some k)
    (hk' : (trace (ofSpeed s) es)[t + 1]? = some k') :
    k'.before.phase = k.before.nextPhase k.input ∧
      k'.before.packet = k.before.nextPacket k.input :=
  Prod.mk.inj <| before_of_getElem?_trace_succ (g := fun r : SetupReceiver => (r.phase, r.packet))
    (fun _ _ => rfl) hk hk'

end SetupReceiver

end ControlEndpoint
