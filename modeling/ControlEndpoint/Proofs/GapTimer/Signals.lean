import ControlEndpoint.Proofs.GapTimer

/-!
# The signals of the gap timer

All that a timer shows on a tick can be told from the latest start before it: the number of ticks
since, and the gap and the window that the timer had then.  The pulse at the end of the gap, the
pulse at the close of the window, and whether a count is running at all are three questions about
one number.

The counter that the timer keeps answers them because it is set to one on the start and is read
before it moves, so that it stands at the distance to the start whenever it is read.

## Main results

* `GapTimer.exists_count_before_iff`: the count that a tick finds
* `GapTimer.step_stateAfter_start`: what a timer shows some ticks after a start, whatever was
  adjusted since
* `GapTimer.signals_iff_of_history`: the signals of every tick, from the history
-/

namespace ControlEndpoint

namespace GapTimer

variable {t t' : GapTimer} {n : Nat}

/-! ## The signals some ticks after a start -/

theorem exists_countAfter_elapsed_eq_window_iff :
    (∃ c, t.countAfter n = some c ∧ c.elapsed = c.window) ↔ n = t.speed.window.toNat :=
  exists_countAfter_elapsed_iff (fun _ hc => (countAfter_eq_some_iff.1 hc).2.2.2) (Nat.le_refl _)

theorem txTimeout_signals_iff :
    t.signals.txTimeout = true ↔ ∃ c, t.count = some c ∧ c.elapsed = c.window := by
  simp [signals, Option.any_eq_true]

theorem isRunning_iff : t.isRunning = true ↔ ∃ c, t.count = some c := Option.isSome_iff_exists

/-! ## The count that a tick finds -/

section Before

variable {s : Speed} {es : List (Event Adjustment Bool)} {k : Tick GapTimer Bool Signals}

/-- **The count that a tick finds** is that of the latest start before it. -/
theorem exists_count_before_iff (hk : (trace (ofSpeed s) es)[n]? = some k) (q : Count → Prop) :
    (∃ c, k.before.count = some c ∧ q c) ↔
      ∃ i j, IsLatest Starts (trace (ofSpeed s) es) i n j ∧
        ∃ c, j.before.countAfter (n - i) = some c ∧ q c := by
  obtain ⟨fs, gs, rfl, rfl, hbefore, -⟩ := exists_cut_of_getElem?_trace hk
  simp only [isLatest_trace_iff]
  rw [hbefore]
  exact exists_count_stateAfter_iff fs rfl q

theorem txAllowed_iff (hk : (trace (ofSpeed s) es)[n]? = some k) :
    k.output.txAllowed = true ↔
      ∃ i j, IsLatest Starts (trace (ofSpeed s) es) i n j ∧ n - i = j.before.delay.toNat := by
  obtain ⟨fs, gs, rfl, rfl, hbefore, hout⟩ := exists_cut_of_getElem?_trace hk
  simp only [isLatest_trace_iff]
  rw [hout, hbefore]
  exact txAllowed_stateAfter_iff fs s

theorem txTimeout_iff (hk : (trace (ofSpeed s) es)[n]? = some k) :
    k.output.txTimeout = true ↔
      ∃ i j, IsLatest Starts (trace (ofSpeed s) es) i n j ∧
        n - i = j.before.speed.window.toNat := by
  rw [output_of_getElem?_trace hk, clocked_step, txTimeout_step, txTimeout_signals_iff,
    exists_count_before_iff hk]
  simp only [exists_countAfter_elapsed_eq_window_iff]

theorem isRunning_before_iff (hk : (trace (ofSpeed s) es)[n]? = some k) :
    k.before.isRunning = true ↔
      ∃ i j, IsLatest Starts (trace (ofSpeed s) es) i n j ∧
        n - i ≤ j.before.speed.window.toNat := by
  have hcount := exists_count_before_iff hk fun _ => True
  simp only [and_true, exists_countAfter_iff] at hcount
  rw [isRunning_iff, hcount]

end Before

/-! ## What was adjusted since the start

A count that is not started again goes on from tick to tick, and no adjustment touches it. -/

theorem count_stateAfter_of_no_start {gs : List (Event Adjustment Bool)}
    (hgs : ∀ b ∈ inputs gs, b = false) (h : t'.count = t.countAfter n) :
    (stateAfter t' gs).count = t.countAfter (n + (inputs gs).length) := by
  induction gs generalizing t' n with
  | nil => exact h
  | cons e gs ih =>
    cases e with
    | adjust a => exact ih hgs ((count_adjust t' a).trans h)
    | tick b =>
      obtain ⟨rfl, hquiet⟩ := List.forall_mem_cons.1 hgs
      have hcount : (t'.step false).1.count = t.countAfter (n + 1) := by
        rw [count_step_false, h, countAfter_succ]
      have hrest := ih hquiet hcount
      rw [Nat.add_assoc, Nat.add_comm 1] at hrest
      exact hrest

/-- **What a timer shows after a start** depends on the number of ticks since alone, and on the gap
and the window that the start found. -/
theorem step_stateAfter_start (h : t.GapInWindow) {gs : List (Event Adjustment Bool)}
    (hgs : ∀ b ∈ inputs gs, b = false) (b : Bool) :
    (((stateAfter t (.tick true :: gs)).step b).2.txAllowed = true ↔
        (inputs gs).length + 1 = t.delay.toNat) ∧
      (((stateAfter t (.tick true :: gs)).step b).2.txTimeout = true ↔
        (inputs gs).length + 1 = t.speed.window.toNat) ∧
      ((stateAfter t (.tick true :: gs)).isRunning = true ↔
        (inputs gs).length + 1 ≤ t.speed.window.toNat) := by
  have hcount : (stateAfter t (.tick true :: gs)).count = t.countAfter ((inputs gs).length + 1) := by
    rw [Nat.add_comm]
    exact count_stateAfter_of_no_start hgs t.countAfter_one.symm
  refine ⟨?_, ?_, ?_⟩
  · rw [txAllowed_step, txAllowed_signals_iff, hcount, h.exists_countAfter_elapsed_eq_delay_iff]
  · rw [txTimeout_step, txTimeout_signals_iff, hcount, exists_countAfter_elapsed_eq_window_iff]
  · rw [isRunning_iff, hcount, exists_countAfter_iff]

/-! ## The signals of every tick -/

/-- **The signals of a timer, from its history.**  The gap has passed on a tick exactly if the
latest start before it lies as many ticks back as the gap was long when that start came; the
window closes on a tick exactly if that start lies as many ticks back as the window was long; and
a tick finds the timer running exactly if the start lies no further back than that.  All this is
settled by the start: no adjustment after it matters, and a start on the tick itself has no part in
what the tick shows. -/
theorem signals_iff_of_history (s : Speed) (es : List (Event Adjustment Bool)) :
    (∀ n k, (trace (ofSpeed s) es)[n]? = some k →
      (k.output.txAllowed = true ↔
        ∃ i j, IsLatest Starts (trace (ofSpeed s) es) i n j ∧ n - i = j.before.delay.toNat) ∧
      (k.output.txTimeout = true ↔
        ∃ i j, IsLatest Starts (trace (ofSpeed s) es) i n j ∧
          n - i = j.before.speed.window.toNat) ∧
      (k.before.isRunning = true ↔
        ∃ i j, IsLatest Starts (trace (ofSpeed s) es) i n j ∧
          n - i ≤ j.before.speed.window.toNat)) ∧
      ∀ gs, (∀ b ∈ inputs gs, b = false) → ∀ b,
        let started := stateAfter (ofSpeed s) es
        let now := stateAfter (ofSpeed s) (es ++ .tick true :: gs)
        ((now.step b).2.txAllowed = true ↔ (inputs gs).length + 1 = started.delay.toNat) ∧
          ((now.step b).2.txTimeout = true ↔
            (inputs gs).length + 1 = started.speed.window.toNat) ∧
          (now.isRunning = true ↔ (inputs gs).length + 1 ≤ started.speed.window.toNat) := by
  constructor
  · intro n k hk
    exact ⟨txAllowed_iff hk, txTimeout_iff hk, isRunning_before_iff hk⟩
  · intro gs hgs b
    dsimp only
    rw [stateAfter_append]
    exact step_stateAfter_start (gapInWindow_stateAfter s es) hgs b

/-- A gap of three ticks ends on the third tick after the start, although another speed and another
gap were set meanwhile, and although that tick starts the next count. -/
theorem signals_iff_of_history_restarted :
    let gs := [.adjust (.speed .low), .tick false, .adjust (.delay 1), .tick false]
    let es := .adjust (.delay 3) :: .tick true :: gs ++ [.tick true]
    (∃ k i j, (trace (ofSpeed .full) es)[3]? = some k ∧ k.output.txAllowed = true ∧
        IsLatest Starts (trace (ofSpeed .full) es) i 3 j ∧ 3 - i = j.before.delay.toNat) ∧
      (∀ b ∈ inputs gs, b = false) ∧
        ((stateAfter (ofSpeed .full) ([.adjust (.delay 3)] ++ .tick true :: gs)).step
          true).2.txAllowed = true := by
  intro gs es
  have hgs : ∀ b ∈ inputs gs, b = false := fun b hb =>
    List.eq_of_mem_replicate (show b ∈ List.replicate 2 false from hb)
  obtain ⟨hticks, -⟩ := signals_iff_of_history .full es
  obtain ⟨hallowed, -, -⟩ := hticks 3 _ rfl
  have hlatest : IsLatest Starts (trace (ofSpeed .full) es) 0 3
      ((trace (ofSpeed .full) es).get ⟨0, Nat.succ_pos 3⟩) := by decide
  have hpulse := hallowed.2 ⟨0, _, hlatest, rfl⟩
  obtain ⟨-, hafter⟩ := signals_iff_of_history .full [.adjust (.delay 3)]
  exact ⟨⟨_, 0, _, rfl, hpulse, hlatest, rfl⟩, hgs, (hafter gs hgs true).1.2 rfl⟩

end GapTimer

end ControlEndpoint
