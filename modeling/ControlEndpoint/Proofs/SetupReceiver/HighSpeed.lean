import ControlEndpoint.Proofs.SetupReceiver
import Mathlib.Algebra.Ring.Parity
import Mathlib.Data.List.DropRight

/-!
# The receiver at high speed

At high speed there is no gap to wait for, so a receiver only goes back and forth between being
idle and awaiting data.  A SETUP token takes it from the one to the other, whichever it is in: a
second token does not open the transaction anew, but ends the first.  Any other packet leaves it
idle.  So the parity of the SETUP tokens since the latest other packet tells whether data is
awaited, and the receiver accepts a packet if that number is odd.

A SETUP token that arrives together with data counts like one that comes alone.  If data was
awaited then the data ends the transaction, and if it was not then the token opens one.

## Main definitions

* `SetupReceiver.Input.Resets`: a packet arrives, and no SETUP token
* `SetupReceiver.setupsSince`: the SETUP tokens since the latest tick that resets

## Main results

* `SetupReceiver.nextPhase_eq_awaitingData_iff_of_ne`: a SETUP token changes the phase
* `SetupReceiver.phase_stateAfter_of_high`: the phase after a history
* `SetupReceiver.accepts_iff_odd_setupsSince`: the packets that are accepted
-/

namespace ControlEndpoint

namespace SetupReceiver

/-- A token or a data packet arrives, and no token that opens a transaction. -/
def Input.Resets (i : Input) : Prop :=
  (i.token.isNew = true ∨ i.data.isNew = true) ∧ ¬ i.token.OpensSetup

instance (i : Input) : Decidable i.Resets := inferInstanceAs (Decidable (_ ∧ _))

/-- The number of ticks that open a transaction, since the latest tick that resets. -/
def setupsSince (is : List Input) : Nat :=
  (is.rtakeWhile fun i => ¬ i.Resets).countP fun i => i.token.OpensSetup

@[simp] theorem setupsSince_nil : setupsSince [] = 0 := rfl

theorem setupsSince_concat_of_resets (is : List Input) {i : Input} (h : i.Resets) :
    setupsSince (is ++ [i]) = 0 := by
  rw [setupsSince, List.rtakeWhile_concat_neg _ _ _ (by simpa using h)]
  rfl

theorem setupsSince_concat (is : List Input) {i : Input} (h : ¬ i.Resets) :
    setupsSince (is ++ [i]) = setupsSince is + if i.token.OpensSetup then 1 else 0 := by
  rw [setupsSince, List.rtakeWhile_concat_pos _ _ _ (by simpa using h), List.countP_append,
    List.countP_singleton]
  simp [setupsSince]

/-! ## One tick -/

variable {r : SetupReceiver} {i : Input}

theorem Input.opensSetup_of_not_resets (h : ¬ i.Resets)
    (hnew : i.token.isNew = true ∨ i.data.isNew = true) : i.token.OpensSetup :=
  Decidable.by_contra fun ho => h ⟨hnew, ho⟩

/-- A tick that does not reset leaves the receiver as it is, unless it brings a SETUP token, which
takes it from one phase to the other. -/
theorem nextPhase_eq_awaitingData_iff_of_ne (hphase : r.phase ≠ .awaitingGap) :
    r.nextPhase i = .awaitingData ↔
      ¬ i.Resets ∧ (r.phase = .awaitingData ↔ ¬ i.token.OpensSetup) := by
  rw [nextPhase_eq_awaitingData_iff]
  cases hp : r.phase with
  | idle =>
    have hresets (ho : i.token.OpensSetup) : ¬ i.Resets := fun h => h.2 ho
    simpa using hresets
  | awaitingData =>
    constructor
    · rintro (⟨hidle, -⟩ | ⟨-, hdata, htoken⟩)
      · exact nomatch hidle
      · -- Nothing arrives on this tick.
        refine ⟨?_, iff_of_true rfl fun ho => nomatch htoken.symm.trans ho.1⟩
        rintro ⟨hnew | hnew, -⟩
        · exact nomatch htoken.symm.trans hnew
        · exact nomatch hdata.symm.trans hnew
    · rintro ⟨hresets, hopens⟩
      have hquiet : ¬ (i.token.isNew = true ∨ i.data.isNew = true) := fun hnew =>
        hopens.1 rfl (Input.opensSetup_of_not_resets hresets hnew)
      rw [not_or, Bool.not_eq_true, Bool.not_eq_true] at hquiet
      exact .inr ⟨rfl, hquiet.2, hquiet.1⟩
  | awaitingGap => exact absurd hp hphase

theorem acks_iff_accepts_of_high (hspeed : r.speed = .high) (hphase : r.phase ≠ .awaitingGap) :
    r.acks i = true ↔ r.Accepts i := by
  rw [acks_iff]
  constructor
  · rintro (⟨hacc, -⟩ | ⟨hgap, -⟩)
    · exact hacc
    · exact absurd hgap hphase
  · exact fun hacc => .inl ⟨hacc, .inl hspeed⟩

/-- No gap is awaited at high speed. -/
theorem nextPhase_ne_awaitingGap_of_high (hspeed : r.speed = .high)
    (hphase : r.phase ≠ .awaitingGap) : r.nextPhase i ≠ .awaitingGap := by
  intro hgap
  obtain ⟨hacc | hgap, hno⟩ := nextPhase_eq_awaitingGap_iff.1 hgap
  · exact nomatch hno.symm.trans ((acks_iff_accepts_of_high hspeed hphase).2 hacc)
  · exact hphase hgap

/-! ## The phase after a history -/

/-- Every tick is at high speed. -/
def AtHighSpeed (tr : List Tick) : Prop := ∀ k ∈ tr, k.before.speed = .high

instance (tr : List Tick) : Decidable (AtHighSpeed tr) :=
  inferInstanceAs (Decidable (∀ k ∈ tr, k.before.speed = .high))

theorem AtHighSpeed.of_append {tr tr' : List Tick} (h : AtHighSpeed (tr ++ tr')) :
    AtHighSpeed tr ∧ AtHighSpeed tr' := List.forall_mem_append.1 h

/-- **The phase after a history** at high speed: data is awaited if the number of SETUP tokens since
the latest other packet is odd, and no gap ever is. -/
theorem phase_stateAfter_of_high (s : Speed) {es : List Event}
    (h : AtHighSpeed (trace (ofSpeed s) es)) :
    (stateAfter (ofSpeed s) es).phase ≠ .awaitingGap ∧
      ((stateAfter (ofSpeed s) es).phase = .awaitingData ↔ Odd (setupsSince (inputs es))) := by
  -- By induction on the history from its end: one more tick changes the parity or resets it.
  induction es using List.reverseRecOn with
  | nil => exact ⟨nofun, nofun, fun hodd => absurd hodd (by simp [inputs])⟩
  | append_singleton es e ih =>
    rw [trace_append] at h
    obtain ⟨hes, hlast⟩ := h.of_append
    obtain ⟨hgap, hdata⟩ := ih hes
    rw [stateAfter_append, inputs_append]
    cases e with
    | adjust s' => simpa [afterEvent, inputs] using ⟨hgap, hdata⟩
    | tick i =>
      have hspeed : (stateAfter (ofSpeed s) es).speed = .high := hlast _ List.mem_cons_self
      refine ⟨nextPhase_ne_awaitingGap_of_high hspeed hgap, ?_⟩
      show (stateAfter (ofSpeed s) es).nextPhase i = _ ↔ Odd (setupsSince (inputs es ++ [i]))
      rw [nextPhase_eq_awaitingData_iff_of_ne hgap, hdata]
      by_cases hresets : i.Resets
      · rw [setupsSince_concat_of_resets _ hresets]
        simp [hresets]
      · rw [setupsSince_concat _ hresets]
        by_cases hopens : i.token.OpensSetup <;> simp [hresets, hopens, Nat.odd_add_one]

/-! ## The packets that are accepted -/

variable {s : Speed} {es : List Event} {t : Nat} {k k' : Tick}

theorem phase_before_of_high (h : AtHighSpeed (trace (ofSpeed s) es))
    (hk : (trace (ofSpeed s) es)[t]? = some k) :
    k.before.phase ≠ .awaitingGap ∧
      (k.before.phase = .awaitingData ↔ Odd (setupsSince ((inputs es).take t))) := by
  obtain ⟨fs, gs, rfl, rfl, hbefore, -⟩ := exists_cut_of_getElem?_trace hk
  rw [trace_append] at h
  rw [hbefore, take_inputs_append]
  exact phase_stateAfter_of_high s h.of_append.1

theorem accepts_iff_of_high (h : AtHighSpeed (trace (ofSpeed s) es))
    (hk : (trace (ofSpeed s) es)[t]? = some k) :
    k.before.Accepts k.input ↔
      k.input.data.HoldsSetup ∧ Odd (setupsSince ((inputs es).take t)) := by
  rw [Accepts, (phase_before_of_high h hk).2, and_comm]

theorem received_succ (hk : (trace (ofSpeed s) es)[t]? = some k)
    (hk' : (trace (ofSpeed s) es)[t + 1]? = some k') :
    k'.output.setup.received = true ↔ k.before.Accepts k.input := by
  rw [output_of_getElem?_trace hk', clocked_step, setup_step, (before_succ hk hk').2,
    received_nextPacket, decide_eq_true_iff]

/-- **The packets that are accepted at high speed**, told from the inputs alone.  A tick accepts a
packet exactly if it brings one of the right length, and the number of SETUP tokens before it and
after the latest other packet before it is odd.  It asks for the handshake, and the next tick shows
the packet as received; no other tick asks for a handshake, and no tick awaits a gap. -/
theorem accepts_iff_odd_setupsSince (es : List Event)
    (h : AtHighSpeed (trace (ofSpeed .high) es)) :
    (∀ t k, (trace (ofSpeed .high) es)[t]? = some k →
      let accepted := k.input.data.HoldsSetup ∧ Odd (setupsSince ((inputs es).take t))
      k.before.phase ≠ .awaitingGap ∧ (k.before.Accepts k.input ↔ accepted) ∧
        (k.output.ack = true ↔ accepted) ∧
          ∀ k', (trace (ofSpeed .high) es)[t + 1]? = some k' →
            (k'.output.setup.received = true ↔ accepted)) ∧
      (stateAfter (ofSpeed .high) es).phase ≠ .awaitingGap := by
  constructor
  · intro t k hk
    have hphase := (phase_before_of_high h hk).1
    have hacc := accepts_iff_of_high h hk
    have hspeed : k.before.speed = .high := h k (List.mem_of_getElem? hk)
    refine ⟨hphase, hacc, ?_, fun k' hk' => (received_succ hk hk').trans hacc⟩
    rw [output_of_getElem?_trace hk]
    exact (acks_iff_accepts_of_high hspeed hphase).trans hacc
  · exact (phase_stateAfter_of_high .high h).1

/-- A second SETUP token ends the transaction that the first has opened, and so the data after it
is not accepted; a third one, together with that data, opens another. -/
theorem accepts_iff_odd_setupsSince_thrice :
    let data : DataPacket := .ofBytes (List.replicate 8 0)
    let setup : Token := .detected Token.setupPid
    let es : List Event := [.tick { token := setup }, .adjust .high, .tick { token := setup },
      .tick { token := setup, data }, .tick { data }, .tick {}]
    AtHighSpeed (trace (ofSpeed .high) es) ∧
      (∃ k, (trace (ofSpeed .high) es)[2]? = some k ∧ ¬ k.output.ack = true) ∧
        ∃ k k', (trace (ofSpeed .high) es)[3]? = some k ∧ k.output.ack = true ∧
          (trace (ofSpeed .high) es)[4]? = some k' ∧ k'.output.setup.received = true := by
  intro data setup es
  have h : AtHighSpeed (trace (ofSpeed .high) es) := by decide
  obtain ⟨hticks, -⟩ := accepts_iff_odd_setupsSince es h
  obtain ⟨-, -, hack₂, -⟩ := hticks 2 _ rfl
  obtain ⟨-, -, hack₃, hreceived⟩ := hticks 3 _ rfl
  have heven : ¬ Odd (setupsSince ((inputs es).take 2)) := Nat.not_odd_iff_even.2 ⟨1, rfl⟩
  have hodd : Odd (setupsSince ((inputs es).take 3)) := ⟨1, rfl⟩
  have hholds : data.HoldsSetup := ⟨rfl, rfl⟩
  exact ⟨h, ⟨_, rfl, fun hack => heven (hack₂.1 hack).2⟩, _, _, rfl, hack₃.2 ⟨hholds, hodd⟩, rfl,
    (hreceived _ rfl).2 ⟨hholds, hodd⟩⟩

end SetupReceiver

end ControlEndpoint
