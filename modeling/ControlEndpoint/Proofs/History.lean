import ControlEndpoint.Clocked
import Mathlib.Data.List.Basic
import Mathlib.Data.List.Induction

/-!
# Histories, tick by tick

Statements about timing speak of positions in a trace: the latest tick before another on which
something happened, and the first one from a tick on.  Each tick of a trace cuts its history in
two, and begins in the state that the first part ends in; so what is known of the state after a
history, in terms of the trace of that history, is known of every tick.

A part of a bigger clocked part goes through a history of its own, which reads off the bigger one.

## Main definitions

* `IsLatest p l i j a`: the last position before `j` at which `p` holds is `i`, where `a` stands
* `IsFirst p l i j a`: the first position from `i` on at which `p` holds is `j`, where `a` stands
* `IsNth p l n i a`: the position at which `p` holds after `n` others is `i`, where `a` stands
* `inputs es`: what is read on the ticks of a history
* `IsPart f g h`: the part `f s` of a state `s` is clocked by itself

## Main results

* `stateAfter_induction`: what every event preserves holds after every history
* `exists_cut_of_getElem?_trace`: each tick of a trace cuts its history in two
* `before_of_getElem?_trace_succ`: what adjustments leave alone passes from tick to tick
* `countP_add_pending`: what comes in has gone out or is pending
* `filterMap_append_pending`: what comes in goes out in order
* `IsPart.trace_map`: the trace of a part
-/

namespace ControlEndpoint

universe u v w z u' v' w' z'

/-! ## Positions -/

section Position

variable {α : Type u} {β : Type v}

/-- The last position of `l` before `j` at which `p` holds is `i`, and `a` stands there. -/
structure IsLatest (p : α → Prop) (l : List α) (i j : Nat) (a : α) : Prop where
  lt : i < j
  get : l[i]? = some a
  holds : p a
  quiet : ∀ m b, i < m → m < j → l[m]? = some b → ¬ p b

/-- The first position of `l` from `i` on at which `p` holds is `j`, and `a` stands there. -/
structure IsFirst (p : α → Prop) (l : List α) (i j : Nat) (a : α) : Prop where
  le : i ≤ j
  get : l[j]? = some a
  holds : p a
  quiet : ∀ m b, i ≤ m → m < j → l[m]? = some b → ¬ p b

variable {p : α → Prop} {l : List α} {i i' j : Nat} {a a' : α}

instance [DecidableEq α] [DecidablePred p] : Decidable (IsLatest p l i j a) :=
  decidable_of_iff (i < j ∧ l[i]? = some a ∧ p a ∧ ∀ m < j, i < m → ∀ b ∈ l[m]?, ¬ p b)
    ⟨fun ⟨hlt, hi, ha, hq⟩ => ⟨hlt, hi, ha, fun m b him hmj hb => hq m hmj him b hb⟩,
      fun ⟨hlt, hi, ha, hq⟩ => ⟨hlt, hi, ha, fun m hmj him b hb => hq m b him hmj hb⟩⟩

instance [DecidableEq α] [DecidablePred p] : Decidable (IsFirst p l i j a) :=
  decidable_of_iff (i ≤ j ∧ l[j]? = some a ∧ p a ∧ ∀ m < j, i ≤ m → ∀ b ∈ l[m]?, ¬ p b)
    ⟨fun ⟨hle, hj, ha, hq⟩ => ⟨hle, hj, ha, fun m b him hmj hb => hq m hmj him b hb⟩,
      fun ⟨hle, hj, ha, hq⟩ => ⟨hle, hj, ha, fun m hmj him b hb => hq m b him hmj hb⟩⟩

theorem exists_getElem?_of_succ {b : α} (hi : l[i + 1]? = some b) : ∃ a, l[i]? = some a := by
  obtain ⟨hlen, -⟩ := List.getElem?_eq_some_iff.1 hi
  exact ⟨_, List.getElem?_eq_getElem (Nat.lt_of_succ_lt hlen)⟩

theorem not_isLatest_zero : ¬ IsLatest p l i 0 a := fun h => Nat.not_lt_zero i h.lt

theorem IsLatest.unique (h : IsLatest p l i j a) (h' : IsLatest p l i' j a') :
    i = i' ∧ a = a' := by
  have hi : i = i' := by
    rcases Nat.lt_trichotomy i i' with hlt | heq | hgt
    · exact absurd h'.holds (h.quiet i' a' hlt h'.lt h'.get)
    · exact heq
    · exact absurd h.holds (h'.quiet i a hgt h.lt h.get)
  subst hi
  exact ⟨rfl, Option.some.inj (h.get.symm.trans h'.get)⟩

/-- Of two positions where `p` holds, the latest is not the earlier one. -/
theorem IsLatest.le_of_holds (h : IsLatest p l i j a) {m : Nat} {b : α} (hm : l[m]? = some b)
    (hb : p b) (hmj : m < j) : m ≤ i :=
  Nat.le_of_not_lt fun him => h.quiet m b him hmj hm hb

/-- What comes later in the list has no part in the matter. -/
theorem isLatest_append_iff {r : List α} (hj : j ≤ l.length) :
    IsLatest p (l ++ r) i j a ↔ IsLatest p l i j a := by
  have hget (m : Nat) (hm : m < j) : (l ++ r)[m]? = l[m]? :=
    List.getElem?_append_left (Nat.lt_of_lt_of_le hm hj)
  constructor
  · rintro ⟨hlt, hi, ha, hq⟩
    exact ⟨hlt, hget i hlt ▸ hi, ha, fun m b hm hmj hb => hq m b hm hmj (by rw [hget m hmj, hb])⟩
  · rintro ⟨hlt, hi, ha, hq⟩
    exact ⟨hlt, by rw [hget i hlt, hi], ha, fun m b hm hmj hb => hq m b hm hmj (hget m hmj ▸ hb)⟩

theorem isLatest_take_iff (hj : j ≤ l.length) :
    IsLatest p (l.take j) i j a ↔ IsLatest p l i j a := by
  have hlen : j ≤ (l.take j).length := Nat.le_of_eq (List.length_take_of_le hj).symm
  rw [← isLatest_append_iff hlen (r := l.drop j), List.take_append_drop]

/-- One more entry is the latest if `p` holds of it, and changes nothing otherwise. -/
theorem isLatest_concat_iff {b : α} :
    IsLatest p (l ++ [b]) i (l.length + 1) a ↔
      p b ∧ i = l.length ∧ a = b ∨ ¬ p b ∧ IsLatest p l i l.length a := by
  have hlast : (l ++ [b])[l.length]? = some b := by simp
  constructor
  · intro h
    by_cases hb : p b
    · have hi : i = l.length :=
        Nat.le_antisymm (Nat.le_of_lt_succ h.lt)
          (h.le_of_holds hlast hb (Nat.lt_succ_self _))
      subst hi
      exact .inl ⟨hb, rfl, Option.some.inj (h.get.symm.trans hlast)⟩
    · -- The latest position is not that of `b`, so it lies in `l`.
      have hi : i ≠ l.length := by
        rintro rfl
        exact hb (Option.some.inj (h.get.symm.trans hlast) ▸ h.holds)
      have hlt : i < l.length := Nat.lt_of_le_of_ne (Nat.le_of_lt_succ h.lt) hi
      refine .inr ⟨hb, (isLatest_append_iff (Nat.le_refl _)).1 ⟨hlt, h.get, h.holds, ?_⟩⟩
      exact fun m c hm hml hc => h.quiet m c hm (Nat.lt_succ_of_lt hml) hc
  · rintro (⟨hb, rfl, rfl⟩ | ⟨hb, h⟩)
    · exact ⟨Nat.lt_succ_self _, hlast, hb, fun m c hm hml => by omega⟩
    · have h' := (isLatest_append_iff (r := [b]) (Nat.le_refl _)).2 h
      refine ⟨Nat.lt_succ_of_lt h.lt, h'.get, h'.holds, fun m c hm hml hc => ?_⟩
      rcases Nat.lt_or_eq_of_le (Nat.le_of_lt_succ hml) with hml | rfl
      · exact h'.quiet m c hm hml hc
      · exact Option.some.inj (hc.symm.trans hlast) ▸ hb

theorem isLatest_map_iff {f : α → β} {q : β → Prop} {b : β} :
    IsLatest q (l.map f) i j b ↔ ∃ a, IsLatest (fun a => q (f a)) l i j a ∧ f a = b := by
  constructor
  · rintro ⟨hlt, hi, hb, hq⟩
    rw [List.getElem?_map, Option.map_eq_some_iff] at hi
    obtain ⟨a, ha, rfl⟩ := hi
    exact ⟨a, ⟨hlt, ha, hb, fun m c hm hmj hc => hq m (f c) hm hmj (by simp [hc])⟩, rfl⟩
  · rintro ⟨a, ⟨hlt, ha, hb, hq⟩, rfl⟩
    refine ⟨hlt, by simp [ha], hb, fun m c hm hmj hc => ?_⟩
    rw [List.getElem?_map, Option.map_eq_some_iff] at hc
    obtain ⟨c, hc, rfl⟩ := hc
    exact hq m c hm hmj hc

end Position

/-! ## Counted positions -/

section Count

variable {α : Type u}

/-- The position of `l` at which `p` holds, after `n` positions at which it held, is `i`, and `a`
stands there. -/
structure IsNth (p : α → Bool) (l : List α) (n i : Nat) (a : α) : Prop where
  get : l[i]? = some a
  holds : p a = true
  count : (l.take i).countP p = n

variable {p : α → Bool} {l : List α} {n i i' j : Nat} {a a' : α}

instance [DecidableEq α] : Decidable (IsNth p l n i a) :=
  decidable_of_iff (l[i]? = some a ∧ p a = true ∧ (l.take i).countP p = n)
    ⟨fun ⟨hi, ha, hn⟩ => ⟨hi, ha, hn⟩, fun ⟨hi, ha, hn⟩ => ⟨hi, ha, hn⟩⟩

theorem countP_take_succ (hi : l[i]? = some a) :
    (l.take (i + 1)).countP p = (l.take i).countP p + if p a then 1 else 0 := by
  rw [List.take_add_one, hi, Option.toList_some, List.countP_append, List.countP_singleton]

/-- Past its position, one more has been counted. -/
theorem IsNth.lt_countP_take (h : IsNth p l n i a) (hij : i < j) : n < (l.take j).countP p := by
  have hsub : (l.take (i + 1)).Sublist (l.take j) := List.take_sublist_take_left hij
  have hle := hsub.countP_le (p := p)
  rw [countP_take_succ h.get, h.count, if_pos h.holds] at hle
  exact hle

theorem IsNth.unique (h : IsNth p l n i a) (h' : IsNth p l n i' a') : i = i' := by
  rcases Nat.lt_trichotomy i i' with hlt | heq | hgt
  · exact absurd h'.count (Nat.ne_of_gt (h.lt_countP_take hlt))
  · exact heq
  · exact absurd h.count (Nat.ne_of_gt (h'.lt_countP_take hgt))

/-- Whatever is counted has a position. -/
theorem exists_isNth_of_lt_countP (h : n < (l.take j).countP p) :
    ∃ i a, i < j ∧ IsNth p l n i a := by
  induction j with
  | zero => simp at h
  | succ j ih =>
    by_cases hn : n < (l.take j).countP p
    · obtain ⟨i, a, hij, hi⟩ := ih hn
      exact ⟨i, a, Nat.lt_succ_of_lt hij, hi⟩
    · -- The count grows at position `j`, so `p` holds there.
      cases hj : l[j]? with
      | none =>
        rw [List.take_add_one, hj, Option.toList_none, List.append_nil] at h
        exact absurd h hn
      | some a =>
        rw [countP_take_succ hj] at h
        cases ha : p a with
        | false => exact absurd (by simpa [ha] using h) hn
        | true =>
          simp only [ha, if_true] at h
          exact ⟨j, a, Nat.lt_succ_self j, hj, ha, by omega⟩

end Count

/-! ## The ticks of a trace -/

section Trace

variable {σ : Type u} {κ : Type z} {ι : Type v} {ο : Type w} [Clocked σ ι ο] [Adjustable σ κ]

/-- **What every event preserves** holds after every history. -/
theorem stateAfter_induction {I : σ → Prop} (hadjust : ∀ s (k : κ), I s → I (Adjustable.adjust s k))
    (htick : ∀ s (i : ι), I s → I (Clocked.step s i).1) {s : σ} (hs : I s)
    (es : List (Event κ ι)) : I (stateAfter s es) := by
  induction es generalizing s with
  | nil => exact hs
  | cons e es ih =>
    cases e with
    | adjust k => exact ih (hadjust s k hs)
    | tick i => exact ih (htick s i hs)

@[simp] theorem length_trace_map_tick (s : σ) (is : List ι) :
    (trace s (is.map (@Event.tick κ ι))).length = is.length := by
  induction is generalizing s with
  | nil => rfl
  | cons i is ih => simp [ih]

theorem stateAfter_map_tick (s : σ) (is : List ι) :
    stateAfter s (is.map (@Event.tick κ ι)) = Clocked.after s is := by
  rw [stateAfter, List.foldl_map]
  rfl

/-- Ticks without adjustments between them go from state to state as inputs do. -/
theorem trace_map_tick_append (s : σ) (is js : List ι) :
    trace s ((is ++ js).map (@Event.tick κ ι)) =
      trace s (is.map .tick) ++ trace (Clocked.after s is) (js.map (@Event.tick κ ι)) := by
  rw [List.map_append, trace_append, stateAfter_map_tick]

/-- **Each tick of a trace cuts its history in two**: it begins in the state that the first part
ends in, and its number is the number of ticks of that part. -/
theorem exists_cut_of_getElem?_trace {s : σ} {es : List (Event κ ι)} {t : Nat}
    {k : Tick σ ι ο} (h : (trace s es)[t]? = some k) :
    ∃ fs gs, es = fs ++ .tick k.input :: gs ∧ (trace s fs).length = t ∧
      k.before = stateAfter s fs ∧ k.output = (Clocked.step k.before k.input).2 := by
  induction es generalizing s t with
  | nil => simp at h
  | cons e es ih =>
    cases e with
    | adjust a =>
      obtain ⟨fs, gs, rfl, hlen, hbefore, hout⟩ := ih h
      -- An adjustment is no tick, and does not change the numbers of those that follow.
      exact ⟨.adjust a :: fs, gs, rfl, hlen, hbefore, hout⟩
    | tick i =>
      rw [trace_tick] at h
      cases t with
      | zero =>
        obtain rfl := Option.some.inj h
        exact ⟨[], es, rfl, rfl, rfl, rfl⟩
      | succ t =>
        obtain ⟨fs, gs, rfl, rfl, hbefore, hout⟩ := ih (by simpa using h)
        exact ⟨.tick i :: fs, gs, rfl, rfl, hbefore, hout⟩

/-- An output is that of the state that the inputs before it lead to. -/
theorem Clocked.getElem?_outputs (s : σ) (is : List ι) (n : Nat) :
    (Clocked.outputs s is)[n]? =
      is[n]?.map fun i => (Clocked.step (Clocked.after s (is.take n)) i).2 := by
  induction is generalizing s n with
  | nil => rfl
  | cons i is ih =>
    cases n with
    | zero => rfl
    | succ n => exact ih (Clocked.step s i).1 n

theorem output_of_getElem?_trace {s : σ} {es : List (Event κ ι)} {t : Nat} {k : Tick σ ι ο}
    (h : (trace s es)[t]? = some k) : k.output = (Clocked.step k.before k.input).2 := by
  obtain ⟨-, -, -, -, -, hout⟩ := exists_cut_of_getElem?_trace h
  exact hout

/-- An invariant of the events holds at the beginning of every tick. -/
theorem before_induction {I : σ → Prop} (hadjust : ∀ s (k : κ), I s → I (Adjustable.adjust s k))
    (htick : ∀ s (i : ι), I s → I (Clocked.step s i).1) {s : σ} (hs : I s)
    {es : List (Event κ ι)} {t : Nat} {k : Tick σ ι ο} (h : (trace s es)[t]? = some k) :
    I k.before := by
  obtain ⟨fs, -, -, -, hbefore, -⟩ := exists_cut_of_getElem?_trace h
  exact hbefore ▸ stateAfter_induction hadjust htick hs fs

/-- What is read on the ticks of a history, in order. -/
def inputs : List (Event κ ι) → List ι
  | [] => []
  | .adjust _ :: es => inputs es
  | .tick i :: es => i :: inputs es

theorem inputs_append (es fs : List (Event κ ι)) : inputs (es ++ fs) = inputs es ++ inputs fs := by
  induction es with
  | nil => rfl
  | cons e es ih => cases e <;> simp [inputs, ih]

theorem map_input_trace (s : σ) (es : List (Event κ ι)) :
    (trace s es).map (fun k => k.input) = inputs es := by
  induction es generalizing s with
  | nil => rfl
  | cons e es ih =>
    cases e with
    | adjust k => exact ih (Adjustable.adjust s k)
    | tick i => exact congrArg _ (ih (Clocked.step s i).1)

theorem length_inputs (s : σ) (es : List (Event κ ι)) :
    (inputs es).length = (trace s es).length := by
  rw [← map_input_trace s es, List.length_map]

/-- What is read before a tick is what is read on the history before it. -/
theorem take_inputs_append (s : σ) (fs gs : List (Event κ ι)) :
    (inputs (fs ++ gs)).take (trace s fs).length = inputs fs := by
  rw [inputs_append, ← length_inputs, List.take_left]

/-- **What comes in has gone out or is pending**, if that is so of every tick and no adjustment
bears on what is pending. -/
theorem countP_add_pending {pending : σ → Nat} {enters leaves : Tick σ ι ο → Bool}
    (hadjust : ∀ s (k : κ), pending (Adjustable.adjust s k) = pending s)
    (htick : ∀ k : Tick σ ι ο, k.output = (Clocked.step k.before k.input).2 →
      (if leaves k then 1 else 0) + pending (Clocked.step k.before k.input).1 =
        (if enters k then 1 else 0) + pending k.before)
    (s : σ) (es : List (Event κ ι)) :
    (trace s es).countP leaves + pending (stateAfter s es) =
      (trace s es).countP enters + pending s := by
  induction es generalizing s with
  | nil => rfl
  | cons e es ih =>
    cases e with
    | adjust k => exact (ih (Adjustable.adjust s k)).trans (by rw [hadjust]; rfl)
    | tick i =>
      have hrest := ih (Clocked.step s i).1
      have hhere := htick ⟨s, i, (Clocked.step s i).2⟩ rfl
      dsimp only at hhere
      rw [trace_tick, List.countP_cons, List.countP_cons, stateAfter_cons, afterEvent]
      omega

/-- **What comes in goes out in order**, one tick late, if each tick shows what was pending before
it and leaves pending what it brings. -/
theorem filterMap_append_pending {β : Type w} {pending : σ → Option β}
    {enters leaves : Tick σ ι ο → Option β}
    (hadjust : ∀ s (k : κ), pending (Adjustable.adjust s k) = pending s)
    (htick : ∀ k : Tick σ ι ο, k.output = (Clocked.step k.before k.input).2 →
      leaves k = pending k.before ∧ pending (Clocked.step k.before k.input).1 = enters k)
    (s : σ) (es : List (Event κ ι)) :
    (trace s es).filterMap leaves ++ (pending (stateAfter s es)).toList =
      (pending s).toList ++ (trace s es).filterMap enters := by
  simp only [List.filterMap_eq_flatMap_toList]
  induction es generalizing s with
  | nil => exact (List.append_nil _).symm
  | cons e es ih =>
    cases e with
    | adjust k => exact (ih (Adjustable.adjust s k)).trans (by rw [hadjust]; rfl)
    | tick i =>
      obtain ⟨hleaves, henters⟩ := htick ⟨s, i, (Clocked.step s i).2⟩ rfl
      dsimp only at henters
      rw [trace_tick, stateAfter_cons, afterEvent, List.flatMap_cons, List.flatMap_cons, hleaves,
        List.append_assoc, ih, henters]

/-- A tick of a trace sees what came before it in the whole trace. -/
theorem isLatest_trace_iff {p : Tick σ ι ο → Prop} {s : σ} {fs gs : List (Event κ ι)} {i : Nat}
    {a : Tick σ ι ο} :
    IsLatest p (trace s (fs ++ gs)) i (trace s fs).length a ↔
      IsLatest p (trace s fs) i (trace s fs).length a := by
  rw [trace_append]
  exact isLatest_append_iff (Nat.le_refl _)

/-- Before the first tick there are adjustments only. -/
theorem before_of_getElem?_trace_zero {γ : Type u} {g : σ → γ}
    (hadjust : ∀ s (k : κ), g (Adjustable.adjust s k) = g s) {s : σ} {es : List (Event κ ι)}
    {k : Tick σ ι ο} (hk : (trace s es)[0]? = some k) : g k.before = g s := by
  induction es generalizing s with
  | nil => simp at hk
  | cons e es ih =>
    cases e with
    | adjust a => exact (ih hk).trans (hadjust s a)
    | tick i =>
      obtain rfl := Option.some.inj hk
      rfl

/-- What adjustments leave alone passes from a tick to the next. -/
theorem before_of_getElem?_trace_succ {γ : Type u} {g : σ → γ}
    (hadjust : ∀ s (k : κ), g (Adjustable.adjust s k) = g s) {s : σ} {es : List (Event κ ι)}
    {t : Nat} {k k' : Tick σ ι ο} (hk : (trace s es)[t]? = some k)
    (hk' : (trace s es)[t + 1]? = some k') :
    g k'.before = g (Clocked.step k.before k.input).1 := by
  -- The tick `k'` is the first of the history that follows `k`.
  obtain ⟨fs, gs, rfl, rfl, hbefore, -⟩ := exists_cut_of_getElem?_trace hk
  rw [trace_append, trace_tick, List.getElem?_append_right (Nat.le_add_right _ 1),
    Nat.add_sub_cancel_left, List.getElem?_cons_succ, ← hbefore] at hk'
  exact before_of_getElem?_trace_zero hadjust hk'

end Trace

/-! ## Parts -/

section Part

variable {σ : Type u} {σ' : Type u'} {κ : Type z} {κ' : Type z'} {ι : Type v} {ι' : Type v'}
  {ο : Type w} {ο' : Type w'} [Clocked σ ι ο] [Adjustable σ κ] [Clocked σ' ι' ο']
  [Adjustable σ' κ']

/-- An event as a part sees it. -/
def Event.map (g : κ → κ') (h : ι → ι') : Event κ ι → Event κ' ι'
  | .adjust k => .adjust (g k)
  | .tick i => .tick (h i)

theorem inputs_map (g : κ → κ') (h : ι → ι') (es : List (Event κ ι)) :
    inputs (es.map (Event.map g h)) = (inputs es).map h := by
  induction es with
  | nil => rfl
  | cons e es ih => cases e <;> simp [Event.map, inputs, ih]

/-- The part `f s` of a state `s` goes through the adjustments `g k` and the ticks `h i`. -/
structure IsPart (f : σ → σ') (g : κ → κ') (h : ι → ι') : Prop where
  adjust : ∀ s k, f (Adjustable.adjust s k) = Adjustable.adjust (f s) (g k)
  step : ∀ s i, f (Clocked.step s i).1 = (Clocked.step (f s) (h i)).1

/-- A tick as a part sees it. -/
def Tick.map (f : σ → σ') (h : ι → ι') (k : Tick σ ι ο) : Tick σ' ι' ο' where
  before := f k.before
  input := h k.input
  output := (Clocked.step (f k.before) (h k.input)).2

variable {f : σ → σ'} {g : κ → κ'} {h : ι → ι'}

theorem IsPart.stateAfter_map (hf : IsPart f g h) (s : σ) (es : List (Event κ ι)) :
    stateAfter (f s) (es.map (Event.map g h)) = f (stateAfter s es) := by
  induction es generalizing s with
  | nil => rfl
  | cons e es ih => cases e <;> simp [Event.map, afterEvent, ← hf.adjust, ← hf.step, ih]

/-- **The trace of a part** reads off the trace of the whole. -/
theorem IsPart.trace_map (hf : IsPart f g h) (s : σ) (es : List (Event κ ι)) :
    trace (f s) (es.map (Event.map g h)) = (trace s es).map (Tick.map f h) := by
  induction es generalizing s with
  | nil => rfl
  | cons e es ih => cases e <;> simp [Event.map, Tick.map, ← hf.adjust, ← hf.step, ih]

end Part

end ControlEndpoint
