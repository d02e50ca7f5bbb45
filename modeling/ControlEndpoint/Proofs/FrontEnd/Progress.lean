import ControlEndpoint.Proofs.FrontEnd.Timing

/-!
# The front end does not wait for ever

The pulse at the end of a gap lasts one tick.  A receiver that missed it, or that awaited it from
a timer that stood still, would await it for ever.  This does not happen: as long as the receiver
awaits the gap, a count is running that has not passed its gap, and no adjustment bears on it.  So
when no data packet starts another count, the handshake comes within the longest window.

## Main definitions

* `FrontEnd.AcksAfter f n`: nothing is acknowledged on the next `n` ticks without data, and the
  tick after them brings the handshake

## Main results

* `FrontEnd.exists_acksAfter_of_awaitingGap`: a receiver that awaits the gap knows how long
* `FrontEnd.findIdxs_ack_of_acksAfter`: from then on there is one handshake, when the time is over
* `FrontEnd.acks_once_of_awaitingGap`: both, for every history and all that may follow it
-/

namespace ControlEndpoint

namespace FrontEnd

/-- The receiver awaits the end of a gap of which `n` ticks are left: the next `n` ticks without
data acknowledge nothing, and the one after them does. -/
structure AcksAfter (f : FrontEnd) (n : Nat) : Prop where
  phase : f.receiver.phase = .awaitingGap
  count : ∃ c, f.timer.count = some c ∧ c.elapsed.toNat + n = c.delay.toNat ∧
    c.delay.toNat ≤ c.window.toNat

variable {f : FrontEnd} {n : Nat} {i : Traffic}

/-! ## Waiting, event by event -/

theorem AcksAfter.adjust (h : f.AcksAfter n) (a : Adjustment) :
    AcksAfter (Adjustable.adjust f a) n := by
  obtain ⟨hphase, hcount⟩ := h
  cases a <;> exact ⟨hphase, hcount⟩

theorem AcksAfter.acks_iff (h : f.AcksAfter n) : f.receiver.acks (f.input i) = true ↔ n = 0 := by
  obtain ⟨hphase, c, hc, hn, -⟩ := h
  rw [SetupReceiver.acks_iff, txAllowed_input, GapTimer.txAllowed_signals_iff]
  constructor
  · rintro (⟨ha, -⟩ | ⟨-, c', hc', he⟩)
    · exact absurd ha (SetupReceiver.not_accepts_of_awaitingGap hphase)
    · obtain rfl := Option.some.inj (hc.symm.trans hc')
      rw [he] at hn
      omega
  · rintro rfl
    exact .inr ⟨hphase, c, hc, UInt16.toNat_inj.1 hn⟩

theorem AcksAfter.acks_eq_false (h : f.AcksAfter (n + 1)) :
    f.receiver.acks (f.input i) = false :=
  Bool.eq_false_iff.2 fun hack => Nat.succ_ne_zero n (h.acks_iff.1 hack)

/-- A tick without data takes one off the time that is left. -/
theorem AcksAfter.step (h : f.AcksAfter (n + 1)) (hi : i.data.isNew = false) :
    (f.step i).1.AcksAfter n := by
  have hno : f.receiver.acks (f.input i) = false := h.acks_eq_false
  obtain ⟨hphase, c, hc, hn, hle⟩ := h
  -- The count goes on, as its gap lies within the window.
  have hlt : c.elapsed < c.window := UInt16.lt_iff_toNat_lt.2 (by omega)
  refine ⟨SetupReceiver.nextPhase_eq_awaitingGap_iff.2 ⟨.inr hphase, hno⟩,
    { c with elapsed := c.elapsed + 1 }, ?_, ?_, hle⟩
  · rw [timer_step, hi, GapTimer.count_step_false, hc, Option.bind_some, GapTimer.Count.elapse,
      if_pos hlt]
  · have hsucc := GapTimer.Count.toNat_elapsed_add_one hlt
    show (c.elapsed + 1).toNat + n = c.delay.toNat
    omega

/-- A receiver that awaits no gap goes on without handshakes as long as no data comes. -/
theorem no_ack_step (hphase : f.receiver.phase ≠ .awaitingGap) (hi : i.data.isNew = false) :
    f.receiver.acks (f.input i) = false ∧ (f.step i).1.receiver.phase ≠ .awaitingGap := by
  have hacc : ¬ f.receiver.Accepts (f.input i) := SetupReceiver.not_accepts_of_no_data hi
  constructor
  · exact SetupReceiver.acks_eq_false hacc hphase
  · rw [receiver_step, SetupReceiver.phase_step, ne_eq,
      SetupReceiver.nextPhase_eq_awaitingGap_iff]
    rintro ⟨ha | hp, -⟩
    · exact hacc ha
    · exact hphase hp

/-! ## Whoever waits knows how long -/

/-- The running count of a front end is bounded. -/
theorem bounded_of_count {s : Speed} {es : List Event} {c : GapTimer.Count}
    (hc : (stateAfter (ofSpeed s) es).timer.count = some c) : c.Bounded := by
  rw [← isPart_timer.stateAfter_map] at hc
  exact GapTimer.bounded_of_count_stateAfter _ hc

/-- **A receiver that awaits the gap** does so from a count that has not passed its gap. -/
theorem exists_acksAfter_of_awaitingGap {s : Speed} {es : List Event}
    (h : (stateAfter (ofSpeed s) es).receiver.phase = .awaitingGap) :
    ∃ n, (stateAfter (ofSpeed s) es).AcksAfter n := by
  -- By induction on the history from its end.
  induction es using List.reverseRecOn with
  | nil => exact absurd h nofun
  | append_singleton es e ih =>
    have hbounded {c : GapTimer.Count}
        (hc : (stateAfter (ofSpeed s) (es ++ [e])).timer.count = some c) : c.Bounded :=
      bounded_of_count hc
    rw [stateAfter_append, stateAfter_cons, stateAfter_nil] at h hbounded ⊢
    cases e with
    | adjust a =>
      -- No adjustment bears on the phase or on the running count.
      obtain ⟨n, hn⟩ := ih (by cases a <;> exact h)
      exact ⟨n, hn.adjust a⟩
    | tick i =>
      obtain ⟨hor, hno⟩ := SetupReceiver.nextPhase_eq_awaitingGap_iff.1 h
      cases hi : i.data.isNew with
      | true =>
        -- The packet starts a count of its own.
        have hcount : ((stateAfter (ofSpeed s) es).step i).1.timer.count =
            some (stateAfter (ofSpeed s) es).timer.freshCount := by
          rw [timer_step, hi, GapTimer.count_step_true]
        obtain ⟨-, -, hone, hle, -⟩ := hbounded hcount
        exact ⟨_, h, _, hcount, Nat.add_sub_cancel' hone, hle⟩
      | false =>
        -- The receiver was waiting already, and this tick was not the last of the wait.
        have hphase : (stateAfter (ofSpeed s) es).receiver.phase = .awaitingGap := by
          rcases hor with hacc | hphase
          · exact absurd hacc (SetupReceiver.not_accepts_of_no_data hi)
          · exact hphase
        obtain ⟨n, hn⟩ := ih hphase
        cases n with
        | zero => exact nomatch hno.symm.trans (hn.acks_iff.2 rfl)
        | succ n => exact ⟨n, hn.step hi⟩

/-! ## One handshake, and only one -/

/-- No tick of the history brings a data packet. -/
def Dataless (fs : List Event) : Prop := ∀ i, .tick i ∈ fs → i.data.isNew = false

theorem Dataless.tail {e : Event} {fs : List Event} (h : Dataless (e :: fs)) : Dataless fs :=
  fun i hi => h i (List.mem_cons_of_mem e hi)

theorem Dataless.head {fs : List Event} (h : Dataless (.tick i :: fs)) : i.data.isNew = false :=
  h i List.mem_cons_self

theorem countP_ack_of_phase_ne {fs : List Event} (hfs : Dataless fs)
    (hphase : f.receiver.phase ≠ .awaitingGap) :
    (trace f fs).countP (fun k => k.output.ack) = 0 := by
  induction fs generalizing f with
  | nil => rfl
  | cons e fs ih =>
    cases e with
    | adjust a => exact ih hfs.tail (by cases a <;> exact hphase)
    | tick i =>
      obtain ⟨hno, hphase'⟩ := no_ack_step hphase hfs.head
      have hrest := ih hfs.tail hphase'
      simpa [hno] using hrest

theorem findIdxs_ack_of_phase_ne {fs : List Event} (hfs : Dataless fs)
    (hphase : f.receiver.phase ≠ .awaitingGap) (m : Nat) :
    (trace f fs).findIdxs (fun k => k.output.ack) m = [] := by
  apply List.eq_nil_of_length_eq_zero
  rw [List.length_findIdxs, countP_ack_of_phase_ne hfs hphase]

/-- **The handshake comes when the time is over**, if there are ticks enough and no data packet
among them. -/
theorem findIdxs_ack_of_acksAfter {fs : List Event} (hfs : Dataless fs) (h : f.AcksAfter n)
    (m : Nat) :
    (trace f fs).findIdxs (fun k => k.output.ack) m =
      if n < (trace f fs).length then [m + n] else [] := by
  induction fs generalizing f n m with
  | nil => rfl
  | cons e fs ih =>
    cases e with
    | adjust a => exact ih hfs.tail (h.adjust a) m
    | tick i =>
      rw [trace_tick, clocked_step, List.findIdxs_cons, output_step, SetupReceiver.ack_step,
        List.length_cons]
      cases n with
      | zero =>
        -- This tick acknowledges, and the receiver is idle afterwards.
        have hack : f.receiver.acks (f.input i) = true := h.acks_iff.2 rfl
        have hphase : (f.step i).1.receiver.phase ≠ .awaitingGap := fun hp =>
          nomatch hack.symm.trans (SetupReceiver.nextPhase_eq_awaitingGap_iff.1 hp).2
        rw [if_pos hack, if_pos (Nat.succ_pos _), findIdxs_ack_of_phase_ne hfs.tail hphase]
        rfl
      | succ n =>
        -- The handshake is one of the ticks that remain.
        have hno : f.receiver.acks (f.input i) = false := h.acks_eq_false
        rw [hno, if_neg Bool.false_ne_true, ih hfs.tail (h.step hfs.head) (m + 1)]
        simp only [Nat.succ_lt_succ_iff, Nat.add_right_comm m 1 n, Nat.add_assoc]

/-- **The handshake comes once** if there are ticks enough, and no data packet among them. -/
theorem countP_ack_of_acksAfter {fs : List Event} (hfs : Dataless fs) (h : f.AcksAfter n) :
    (trace f fs).countP (fun k => k.output.ack) = if n < (trace f fs).length then 1 else 0 := by
  rw [← List.length_findIdxs (s := 0), findIdxs_ack_of_acksAfter hfs h]
  split <;> rfl

/-- **A receiver that awaits the gap is not stuck.**  A count is running that has not passed its
gap, which lies within the window; and whatever follows, with 260 ticks or more of which none
brings a data packet, there is exactly one handshake. -/
theorem acks_once_of_awaitingGap (s : Speed) (es : List Event)
    (h : (stateAfter (ofSpeed s) es).receiver.phase = .awaitingGap) :
    (∃ c, (stateAfter (ofSpeed s) es).timer.count = some c ∧ 1 ≤ c.elapsed ∧
        c.elapsed ≤ c.delay ∧ c.delay ≤ c.window) ∧
      ∀ fs, Dataless fs → 260 ≤ (trace (stateAfter (ofSpeed s) es) fs).length →
        (trace (stateAfter (ofSpeed s) es) fs).countP (fun k => k.output.ack) = 1 := by
  obtain ⟨n, hn⟩ := exists_acksAfter_of_awaitingGap h
  obtain ⟨c, hc, hleft, hle⟩ := hn.count
  obtain ⟨hone, -, -, -, hwindow⟩ := bounded_of_count hc
  constructor
  · refine ⟨c, hc, UInt16.le_iff_toNat_le.2 hone, ?_, UInt16.le_iff_toNat_le.2 hle⟩
    exact UInt16.le_iff_toNat_le.2 (by omega)
  · intro fs hfs hlen
    rw [countP_ack_of_acksAfter hfs hn, if_pos (by omega)]

/-- The longest gap, at low speed, is waited out while the speed and the delay are adjusted. -/
theorem acks_once_of_awaitingGap_low :
    let es := [.adjust (.delay 65535), tokenTick, dataTick zeros]
    let fs := .adjust (.speed .high) :: .adjust (.delay 1) :: (List.replicate 260 {}).map .tick
    (stateAfter (ofSpeed .low) es).receiver.phase = .awaitingGap ∧ Dataless fs ∧
      260 ≤ (trace (stateAfter (ofSpeed .low) es) fs).length ∧
        (trace (stateAfter (ofSpeed .low) es) fs).countP (fun k => k.output.ack) = 1 := by
  intro es fs
  have h : (stateAfter (ofSpeed .low) es).receiver.phase = .awaitingGap := by decide
  have hfs : Dataless fs := by
    intro i hi
    rcases List.mem_cons.1 hi with hi | hi
    · exact nomatch hi
    rcases List.mem_cons.1 hi with hi | hi
    · exact nomatch hi
    obtain ⟨j, hj, hji⟩ := List.mem_map.1 hi
    obtain rfl := Event.tick.inj hji
    rw [List.eq_of_mem_replicate hj]
    rfl
  have hlen : 260 ≤ (trace (stateAfter (ofSpeed .low) es) fs).length := by
    refine Nat.le_of_eq ?_
    rw [trace_adjust, trace_adjust, length_trace_map_tick, List.length_replicate]
  exact ⟨h, hfs, hlen, (acks_once_of_awaitingGap .low es h).2 fs hfs hlen⟩

end FrontEnd

end ControlEndpoint
