import ControlEndpoint.GapTimer
import ControlEndpoint.Proofs.History

/-!
# The gap timer and its history

The running count of a timer is a function of the latest start: of the number of ticks since, and
of the gap and the window that the timer had then.  Nothing that was done after that start has a
part in it.

A count shows its pulse when as many ticks have passed as the gap asks for.  It gets there
because no timer ever has a gap that is longer than its window.

## Main definitions

* `GapTimer.GapInWindow`: the gap is at least one tick and lies within the window
* `GapTimer.Count.Bounded`: the same of a running count, which is within the window too
* `GapTimer.countAfter`: the count `n` ticks after a start
* `GapTimer.Spent`: a count that still runs has shown its pulse

## Main results

* `GapTimer.count_stateAfter_eq_some_iff`: the running count, from the history
* `GapTimer.bounded_of_count_stateAfter`: every running count is bounded
* `GapTimer.txAllowed_stateAfter_iff`: the pulse at the end of the gap, from the history
-/

namespace ControlEndpoint

theorem Speed.window_toNat_le (s : Speed) : s.window.toNat ≤ 260 :=
  UInt16.le_iff_toNat_le.1 s.window_le

namespace GapTimer

@[simp] theorem clocked_step (t : GapTimer) (b : Bool) : Clocked.step t b = t.step b := rfl

/-! ## The gap lies within the window -/

/-- The gap of the next count is at least one tick and lies within the window. -/
structure GapInWindow (t : GapTimer) : Prop where
  one_le : 1 ≤ t.delay.toNat
  le_window : t.delay.toNat ≤ t.speed.window.toNat

theorem gapInWindow_leastGap (s : Speed) (c : Option Count) :
    GapInWindow { speed := s, delay := s.leastGap, count := c } where
  one_le := UInt16.le_iff_toNat_le.1 s.one_le_leastGap
  le_window := UInt16.le_iff_toNat_le.1 s.leastGap_le_window

theorem gapInWindow_setDelay (t : GapTimer) (ticks : UInt16) : (t.setDelay ticks).GapInWindow where
  one_le := UInt16.le_iff_toNat_le.1 (t.one_le_delay_setDelay ticks)
  le_window := UInt16.le_iff_toNat_le.1 (t.delay_setDelay_le ticks)

theorem GapInWindow.adjust {t : GapTimer} (a : Adjustment) : (Adjustable.adjust t a).GapInWindow := by
  cases a with
  | speed s => exact gapInWindow_leastGap s t.count
  | delay ticks => exact gapInWindow_setDelay t ticks

theorem count_adjust (t : GapTimer) (a : Adjustment) :
    (Adjustable.adjust t a).count = t.count := by
  cases a <;> rfl

theorem GapInWindow.step {t : GapTimer} (h : t.GapInWindow) (b : Bool) : (t.step b).1.GapInWindow :=
  ⟨h.one_le, h.le_window⟩

/-- The gap lies within the window after every history. -/
theorem gapInWindow_stateAfter (s : Speed) (es : List (Event Adjustment Bool)) :
    (stateAfter (ofSpeed s) es).GapInWindow :=
  stateAfter_induction (fun _ a _ => GapInWindow.adjust a) (fun _ b h => h.step b)
    (gapInWindow_leastGap s none) es

theorem gapInWindow_before {s : Speed} {es : List (Event Adjustment Bool)} {n : Nat}
    {k : Tick GapTimer Bool Signals} (hk : (trace (ofSpeed s) es)[n]? = some k) :
    k.before.GapInWindow := by
  obtain ⟨fs, -, -, -, hbefore, -⟩ := exists_cut_of_getElem?_trace hk
  rw [hbefore]
  exact gapInWindow_stateAfter s fs

/-! ## The count after a start -/

/-- A count that goes on does not wrap. -/
theorem Count.toNat_elapsed_add_one {c : Count} (h : c.elapsed < c.window) :
    (c.elapsed + 1).toNat = c.elapsed.toNat + 1 := by
  have hlt := UInt16.lt_iff_toNat_lt.1 h
  have hmax := c.window.toNat_lt
  rw [UInt16.toNat_add, UInt16.toNat_one, Nat.mod_eq_of_lt (by omega)]

/-- The count of a timer `n` ticks after a start. -/
def countAfter (t : GapTimer) (n : Nat) : Option Count :=
  if n ≤ t.speed.window.toNat then
    some { elapsed := .ofNat n, delay := t.delay, window := t.speed.window }
  else none

theorem countAfter_one (t : GapTimer) : t.countAfter 1 = some t.freshCount := by
  have hw : 1 ≤ t.speed.window.toNat := by cases t.speed <;> decide
  simp [countAfter, hw, freshCount]

theorem countAfter_succ (t : GapTimer) (n : Nat) :
    t.countAfter (n + 1) = (t.countAfter n).bind Count.elapse := by
  -- Windows are far below the bound of the sixteen bits, so the count does not wrap.
  have hw := t.speed.window_toNat_le
  by_cases hn : n ≤ t.speed.window.toNat
  · have hto : (UInt16.ofNat n).toNat = n := UInt16.toNat_ofNat_of_lt' (by simp [UInt16.size]; omega)
    have hlt : UInt16.ofNat n < t.speed.window ↔ n + 1 ≤ t.speed.window.toNat := by
      rw [UInt16.lt_iff_toNat_lt, hto]
      rfl
    simp only [countAfter, if_pos hn, Option.bind_some, Count.elapse, hlt]
    simp
  · have hn' : ¬ n + 1 ≤ t.speed.window.toNat := by omega
    simp [countAfter, hn, hn']

theorem countAfter_eq_some_iff {t : GapTimer} {n : Nat} {c : Count} :
    t.countAfter n = some c ↔ c.elapsed.toNat = n ∧ n ≤ c.window.toNat ∧ c.delay = t.delay ∧
      c.window = t.speed.window := by
  have hw := t.speed.window_toNat_le
  have hto (h : n ≤ t.speed.window.toNat) : (UInt16.ofNat n).toNat = n :=
    UInt16.toNat_ofNat_of_lt' (by simp [UInt16.size]; omega)
  unfold countAfter
  split
  next h =>
    constructor
    · rintro ⟨⟩
      exact ⟨hto h, h, rfl, rfl⟩
    · rintro ⟨he, -, hd, hwin⟩
      have he' : c.elapsed = .ofNat n := UInt16.toNat_inj.1 (he.trans (hto h).symm)
      rw [← he', ← hd, ← hwin]
  next h => exact ⟨nofun, fun ⟨_, hn, _, hwin⟩ => absurd (hwin ▸ hn) h⟩

theorem exists_countAfter_iff {t : GapTimer} {n : Nat} :
    (∃ c, t.countAfter n = some c) ↔ n ≤ t.speed.window.toNat := by
  constructor
  · rintro ⟨c, hc⟩
    obtain ⟨-, hle, -, hwindow⟩ := countAfter_eq_some_iff.1 hc
    rw [← hwindow]
    exact hle
  · exact fun hle => ⟨_, if_pos hle⟩

/-- A count stands at a length of time on the tick that lies so far from the start, if the length is
one that the count keeps and does not exceed its window. -/
theorem exists_countAfter_elapsed_iff {t : GapTimer} {n : Nat} {len : Count → UInt16} {d : UInt16}
    (hlen : ∀ c, t.countAfter n = some c → len c = d) (hd : d.toNat ≤ t.speed.window.toNat) :
    (∃ c, t.countAfter n = some c ∧ c.elapsed = len c) ↔ n = d.toNat := by
  constructor
  · rintro ⟨c, hc, he⟩
    obtain ⟨hn, -⟩ := countAfter_eq_some_iff.1 hc
    rw [← hn, he, hlen c hc]
  · intro hn
    obtain ⟨c, hc⟩ := exists_countAfter_iff.2 (hn ▸ hd)
    obtain ⟨hn', -⟩ := countAfter_eq_some_iff.1 hc
    refine ⟨c, hc, UInt16.toNat_inj.1 ?_⟩
    rw [hn', hn, hlen c hc]

theorem GapInWindow.exists_countAfter_elapsed_eq_delay_iff {t : GapTimer} {n : Nat}
    (h : t.GapInWindow) :
    (∃ c, t.countAfter n = some c ∧ c.elapsed = c.delay) ↔ n = t.delay.toNat :=
  exists_countAfter_elapsed_iff (fun _ hc => (countAfter_eq_some_iff.1 hc).2.2.1) h.le_window

/-! ## Counts that have shown their pulse -/

/-- A count that still runs is past its gap. -/
def Spent (t : GapTimer) : Prop := ∀ c, t.count = some c → c.delay < c.elapsed

theorem Spent.txAllowed_eq_false {t : GapTimer} (h : t.Spent) : t.signals.txAllowed = false := by
  cases hc : t.count with
  | none => simp [signals, hc]
  | some c =>
    have hlt := UInt16.lt_iff_toNat_lt.1 (h c hc)
    have hne : c.elapsed ≠ c.delay := fun he => by
      rw [he] at hlt
      omega
    simpa [signals, hc] using hne

/-- Without a start there is no new count. -/
theorem Spent.step {t : GapTimer} (h : t.Spent) : (t.step false).1.Spent := by
  intro c' hc'
  rw [count_step_false, Option.bind_eq_some_iff] at hc'
  obtain ⟨c, hc, he⟩ := hc'
  unfold Count.elapse at he
  split at he
  next hw =>
    obtain rfl := Option.some.inj he
    have hlt := UInt16.lt_iff_toNat_lt.1 (h c hc)
    rw [UInt16.lt_iff_toNat_lt, Count.toNat_elapsed_add_one hw]
    exact Nat.lt_succ_of_lt hlt
  next => exact nomatch he

/-- A count is past its gap after more ticks than the gap has. -/
theorem spent_of_countAfter {t t' : GapTimer} {n : Nat} (h : t'.count = t.countAfter n)
    (hn : t.delay.toNat < n) : t'.Spent := by
  intro c hc
  rw [h, countAfter_eq_some_iff] at hc
  obtain ⟨he, -, hd, -⟩ := hc
  rw [UInt16.lt_iff_toNat_lt, hd, he]
  exact hn

/-! ## The count after a history -/

/-- The timer is started on this tick. -/
abbrev Starts (k : Tick GapTimer Bool Signals) : Prop := k.input = true

variable {t : GapTimer} (es : List (Event Adjustment Bool))

/-- **The running count** of a timer that stood still at first is that of the latest start. -/
theorem count_stateAfter_eq_some_iff (ht : t.count = none) {c : Count} :
    (stateAfter t es).count = some c ↔
      ∃ i k, IsLatest Starts (trace t es) i (trace t es).length k ∧
        k.before.countAfter ((trace t es).length - i) = some c := by
  -- By induction on the history from its end: the last event is the one that counts.
  induction es using List.reverseRecOn generalizing c with
  | nil =>
    constructor
    · intro h
      exact absurd (ht.symm.trans h) (Option.some_ne_none c).symm
    · rintro ⟨i, k, h, -⟩
      exact absurd h not_isLatest_zero
  | append_singleton es e ih =>
    rw [stateAfter_append, trace_append]
    cases e with
    | adjust a =>
      simpa [afterEvent, count_adjust] using ih
    | tick b =>
      simp only [stateAfter_cons, stateAfter_nil, afterEvent, clocked_step, trace_tick, trace_nil,
        List.length_append, List.length_singleton, isLatest_concat_iff]
      cases b with
      | true =>
        -- This start is the latest.
        constructor
        · intro h
          refine ⟨_, _, .inl ⟨rfl, rfl, rfl⟩, ?_⟩
          rw [Nat.add_sub_cancel_left, countAfter_one]
          exact h
        · rintro ⟨i, k, ⟨-, rfl, rfl⟩ | ⟨hb, -⟩, h⟩
          · rw [Nat.add_sub_cancel_left, countAfter_one] at h
            exact h
          · exact absurd rfl hb
      | false =>
        -- The latest start is one tick further back.
        have hsub {i : Nat} {k : Tick GapTimer Bool Signals}
            (h : IsLatest Starts (trace t es) i (trace t es).length k) :
            (trace t es).length + 1 - i = (trace t es).length - i + 1 :=
          Nat.succ_sub (Nat.le_of_lt h.lt)
        rw [count_step_false, Option.bind_eq_some_iff]
        constructor
        · rintro ⟨c', hc', he⟩
          obtain ⟨i, k, h, hk⟩ := ih.1 hc'
          refine ⟨i, k, .inr ⟨Bool.false_ne_true, h⟩, ?_⟩
          rw [hsub h, countAfter_succ, hk]
          exact he
        · rintro ⟨i, k, ⟨hb, -, -⟩ | ⟨-, h⟩, hk⟩
          · exact absurd hb Bool.false_ne_true
          · rw [hsub h, countAfter_succ, Option.bind_eq_some_iff] at hk
            obtain ⟨c', hc', he⟩ := hk
            exact ⟨c', ih.2 ⟨i, k, h, hc'⟩, he⟩

/-- What is asked of the running count is asked of the latest start. -/
theorem exists_count_stateAfter_iff (ht : t.count = none) (q : Count → Prop) :
    (∃ c, (stateAfter t es).count = some c ∧ q c) ↔
      ∃ i k, IsLatest Starts (trace t es) i (trace t es).length k ∧
        ∃ c, k.before.countAfter ((trace t es).length - i) = some c ∧ q c := by
  simp only [count_stateAfter_eq_some_iff es ht]
  constructor
  · rintro ⟨c, ⟨i, k, h, hc⟩, hq⟩
    exact ⟨i, k, h, c, hc, hq⟩
  · rintro ⟨i, k, h, c, hc, hq⟩
    exact ⟨c, ⟨i, k, h, hc⟩, hq⟩

/-- A count runs within its window, and so does its gap. -/
structure Count.Bounded (c : Count) : Prop where
  one_le_elapsed : 1 ≤ c.elapsed.toNat
  elapsed_le : c.elapsed.toNat ≤ c.window.toNat
  one_le_delay : 1 ≤ c.delay.toNat
  delay_le : c.delay.toNat ≤ c.window.toNat
  window_le : c.window.toNat ≤ 260

/-- Every running count of a timer is bounded: it is that of a start, whose gap lay within the
window. -/
theorem bounded_of_count_stateAfter {s : Speed} {c : Count}
    (hc : (stateAfter (ofSpeed s) es).count = some c) : c.Bounded := by
  obtain ⟨i, k, h, hk⟩ := (count_stateAfter_eq_some_iff es rfl).1 hc
  obtain ⟨he, hle, hd, hw⟩ := countAfter_eq_some_iff.1 hk
  obtain ⟨hone, hwin⟩ := gapInWindow_before h.get
  have hlt := h.lt
  exact ⟨by omega, he ▸ hle, hd ▸ hone, hd ▸ hw ▸ hwin, hw ▸ Speed.window_toNat_le _⟩

theorem txAllowed_signals_iff :
    t.signals.txAllowed = true ↔ ∃ c, t.count = some c ∧ c.elapsed = c.delay := by
  simp [signals, Option.any_eq_true]

/-- **The gap has passed** when as many ticks went by since the latest start as the gap was long
when that start came. -/
theorem txAllowed_stateAfter_iff (s : Speed) :
    (stateAfter (ofSpeed s) es).signals.txAllowed = true ↔
      ∃ i k, IsLatest Starts (trace (ofSpeed s) es) i (trace (ofSpeed s) es).length k ∧
        (trace (ofSpeed s) es).length - i = k.before.delay.toNat := by
  rw [txAllowed_signals_iff, exists_count_stateAfter_iff es rfl]
  constructor
  · rintro ⟨i, k, h, hc⟩
    exact ⟨i, k, h, (gapInWindow_before h.get).exists_countAfter_elapsed_eq_delay_iff.1 hc⟩
  · rintro ⟨i, k, h, hn⟩
    exact ⟨i, k, h, (gapInWindow_before h.get).exists_countAfter_elapsed_eq_delay_iff.2 hn⟩

end GapTimer

end ControlEndpoint
