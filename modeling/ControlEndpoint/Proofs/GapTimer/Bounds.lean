import ControlEndpoint.Proofs.GapTimer.Signals

/-!
# The bounds of the gap timer

The pulse at the end of a gap is the equality of two numbers, one of which counts upwards until the
window closes.  Were the gap longer than the window, the count would stop without a pulse.  This does
not happen, although speed and gap are adjusted apart from each other, in any order, and while a
count goes on with the values of its start: every adjustment leaves a gap that lies within the window
of the speed it leaves, and a start takes both of them at once.  The windows themselves are far below
what the counter holds, so that it does not wrap either.

## Main definitions

* `GapTimer.Stops k`: the count stops on the tick `k`

## Main results

* `GapTimer.Count.Bounded.toNat_elapsed_add_one`: a count does not wrap
* `GapTimer.stops_after_start_iff`: a count that is not started again stops when its window closes
* `GapTimer.exists_txAllowed_of_stops`: it has shown its pulse by then
* `GapTimer.bounds_of_stateAfter`: the bounds of every state, and what follows from them
-/

namespace ControlEndpoint

namespace GapTimer

/-- A bounded count is far below what sixteen bits hold. -/
theorem Count.Bounded.toNat_elapsed_add_one {c : Count} (h : c.Bounded) :
    (c.elapsed + 1).toNat = c.elapsed.toNat + 1 := by
  have hmax : c.elapsed.toNat ≤ 260 := Nat.le_trans h.elapsed_le h.window_le
  rw [UInt16.toNat_add, UInt16.toNat_one, Nat.mod_eq_of_lt (by omega)]

/-- The count stops on this tick, which finds the timer running and leaves it standing still. -/
def Stops (k : Tick GapTimer Bool Signals) : Prop :=
  k.before.isRunning = true ∧ (k.before.step k.input).1.isRunning = false

/-! ## The ticks after a start

Where no other start follows, each tick finds the count of this start. -/

section AfterStart

variable {t : GapTimer} {gs : List (Event Adjustment Bool)} {j : Nat}
  {k : Tick GapTimer Bool Signals}

theorem tick_after_start (hgs : ∀ b ∈ inputs gs, b = false)
    (hk : (trace (t.step true).1 gs)[j]? = some k) :
    k.before.count = t.countAfter (j + 1) ∧ k.input = false := by
  obtain ⟨fs, hs, rfl, rfl, hbefore, -⟩ := exists_cut_of_getElem?_trace hk
  rw [inputs_append] at hgs
  constructor
  · -- The ticks before this one are no starts either.
    have hquiet : ∀ b ∈ inputs fs, b = false := fun b hb => hgs b (List.mem_append_left _ hb)
    rw [hbefore, count_stateAfter_of_no_start hquiet t.countAfter_one.symm,
      length_inputs (t.step true).1, Nat.add_comm]
  · exact hgs k.input (List.mem_append_right _ List.mem_cons_self)

theorem txAllowed_after_start_iff (h : t.GapInWindow) (hgs : ∀ b ∈ inputs gs, b = false)
    (hk : (trace (t.step true).1 gs)[j]? = some k) :
    k.output.txAllowed = true ↔ j + 1 = t.delay.toNat := by
  obtain ⟨hcount, -⟩ := tick_after_start hgs hk
  rw [output_of_getElem?_trace hk, clocked_step, txAllowed_step, txAllowed_signals_iff, hcount,
    h.exists_countAfter_elapsed_eq_delay_iff]

/-- **A count stops when its window closes.** -/
theorem stops_after_start_iff (hgs : ∀ b ∈ inputs gs, b = false)
    (hk : (trace (t.step true).1 gs)[j]? = some k) :
    Stops k ↔ j + 1 = t.speed.window.toNat := by
  obtain ⟨hcount, hinput⟩ := tick_after_start hgs hk
  have hafter : (k.before.step k.input).1.count = t.countAfter (j + 2) := by
    rw [hinput, count_step_false, hcount, ← countAfter_succ]
  rw [Stops, ← Bool.not_eq_true, isRunning_iff, isRunning_iff, hcount, hafter,
    exists_countAfter_iff, exists_countAfter_iff]
  omega

/-- **A count shows its pulse before it stops**, or on the tick on which it stops: the gap that it
was started with lies within its window. -/
theorem exists_txAllowed_of_stops (h : t.GapInWindow) (hgs : ∀ b ∈ inputs gs, b = false)
    (hk : (trace (t.step true).1 gs)[j]? = some k) (hstops : Stops k) :
    ∃ i ≤ j, ∃ a, (trace (t.step true).1 gs)[i]? = some a ∧ a.output.txAllowed = true := by
  have hj : j + 1 = t.speed.window.toNat := (stops_after_start_iff hgs hk).1 hstops
  -- The gap is over when the window closes, so the pulse is on a tick that has been recorded.
  have hle : t.delay.toNat - 1 ≤ j := by
    have hwindow := h.le_window
    omega
  obtain ⟨hlt, -⟩ := List.getElem?_eq_some_iff.1 hk
  have hpulse := List.getElem?_eq_getElem (Nat.lt_of_le_of_lt hle hlt)
  exact ⟨_, hle, _, hpulse,
    (txAllowed_after_start_iff h hgs hpulse).2 (Nat.sub_add_cancel h.one_le)⟩

theorem exists_stops (h : t.GapInWindow) (hgs : ∀ b ∈ inputs gs, b = false)
    (hlen : t.speed.window.toNat ≤ (inputs gs).length) :
    ∃ j : Nat, ∃ k, (trace (t.step true).1 gs)[j]? = some k ∧ Stops k := by
  have hone : 1 ≤ t.speed.window.toNat := Nat.le_trans h.one_le h.le_window
  have hlt : t.speed.window.toNat - 1 < (trace (t.step true).1 gs).length := by
    rw [← length_inputs]
    omega
  have hstop := List.getElem?_eq_getElem hlt
  exact ⟨_, _, hstop, (stops_after_start_iff hgs hstop).2 (Nat.sub_add_cancel hone)⟩

end AfterStart

/-! ## Every state -/

/-- **The bounds of a timer.**  After every history the gap is at least one tick and lies within the
window.  A running count is at least one tick old, its gap is at least one tick, and neither exceeds
the window that it was started with, which is 260 ticks at most; so one tick more does not make it
wrap.  And a count that is begun then and not started again shows its pulse no later than on the tick
on which it stops, which comes when there have been as many ticks as its window is long. -/
theorem bounds_of_stateAfter (s : Speed) (es : List (Event Adjustment Bool)) :
    let t := stateAfter (ofSpeed s) es
    (1 ≤ t.delay ∧ t.delay ≤ t.speed.window) ∧
      (∀ c, t.count = some c →
        (1 ≤ c.elapsed ∧ c.elapsed ≤ c.window) ∧ (1 ≤ c.delay ∧ c.delay ≤ c.window) ∧
          c.window ≤ 260 ∧ (c.elapsed + 1).toNat = c.elapsed.toNat + 1) ∧
      ∀ gs : List (Event Adjustment Bool), (∀ b ∈ inputs gs, b = false) →
        let ticks : List (Tick GapTimer Bool Signals) := trace (t.step true).1 gs
        (∀ (j : Nat) k, ticks[j]? = some k → Stops k →
            ∃ i ≤ j, ∃ a, ticks[i]? = some a ∧ a.output.txAllowed = true) ∧
          (t.speed.window.toNat ≤ ticks.length →
            ∃ j : Nat, ∃ k, ticks[j]? = some k ∧ Stops k) := by
  intro t
  have hgap : t.GapInWindow := gapInWindow_stateAfter s es
  simp only [UInt16.le_iff_toNat_le]
  refine ⟨⟨hgap.one_le, hgap.le_window⟩, ?_, ?_⟩
  · intro c hc
    have hbounded : c.Bounded := bounded_of_count_stateAfter es hc
    exact ⟨⟨hbounded.one_le_elapsed, hbounded.elapsed_le⟩,
      ⟨hbounded.one_le_delay, hbounded.delay_le⟩, hbounded.window_le,
      hbounded.toNat_elapsed_add_one⟩
  · intro gs hgs
    constructor
    · intro j k hk hstops
      exact exists_txAllowed_of_stops hgap hgs hk hstops
    · intro hlen
      rw [← length_inputs] at hlen
      exact exists_stops hgap hgs hlen

/-- A count goes on with the longest gap of full speed, while the timer is set to the longest one of
high speed.  The next count shows its pulse with that gap, on the tick on which it stops. -/
theorem bounds_of_stateAfter_longest :
    let es := [.adjust (.delay 65535), .tick true, .adjust (.speed .high), .adjust (.delay 65535)]
    let gs := .adjust (.delay 0) :: (List.replicate 24 false).map .tick
    let t := stateAfter (ofSpeed .full) es
    let ticks : List (Tick GapTimer Bool Signals) := trace (t.step true).1 gs
    (∃ c, t.count = some c ∧ t.delay < c.delay ∧ c.delay ≤ c.window ∧ c.window ≤ 260) ∧
      (∀ b ∈ inputs gs, b = false) ∧ t.speed.window.toNat ≤ ticks.length ∧
        ∃ j : Nat, (∃ k, ticks[j]? = some k ∧ Stops k) ∧
          ∃ i ≤ j, ∃ a, ticks[i]? = some a ∧ a.output.txAllowed = true := by
  intro es gs t ticks
  obtain ⟨-, hcount, hafter⟩ := bounds_of_stateAfter .full es
  obtain ⟨-, ⟨-, hdelay⟩, hwindow, -⟩ := hcount _ rfl
  have hgs : ∀ b ∈ inputs gs, b = false := fun b hb =>
    List.eq_of_mem_replicate (show b ∈ List.replicate 24 false from hb)
  have hlen : t.speed.window.toNat ≤ ticks.length := by
    rw [← length_inputs]
    exact Nat.le_refl 24
  obtain ⟨hbefore, hstops⟩ := hafter gs hgs
  obtain ⟨j, k, hk, hstop⟩ := hstops hlen
  exact ⟨⟨_, rfl, by decide, hdelay, hwindow⟩, hgs, hlen, j, ⟨k, hk, hstop⟩, hbefore j k hk hstop⟩

end GapTimer

end ControlEndpoint
