import ControlEndpoint.Proofs.History
import ControlEndpoint.Responder.Any
import ControlEndpoint.ResponderBank.Monitored

/-!
# The responders of a bank run by themselves

A bank steps each of its responders once per tick, all with the broadcast of the tick, and lets
none of them see another.  So each is in the state that it would have come to alone, on the
broadcasts since it was attached, and the bus resolves what they would drive alone.  A responder
that found no slot is not stepped at all.

This holds of every history: with responders that come late, with more of them than there are
slots, and with ticks whose bus is refused, which are ticks like all others.  The responders may be
of different types, as `AnyResponder` is a type of responders like all others.

## Main definitions

* `Arrival`: a responder that was given to a bank, and the broadcasts since
* `arrivals es`: the responders that a history gives to a bank, in order
* `Arrival.alone`, `Arrival.drive`: the responder run alone

## Main results

* `ResponderBank.responders_stateAfter`: the responders of a bank
* `ResponderBank.getElem?_responders_of`: the same for responders of different types
* `ResponderBank.attach_stateAfter`, `ResponderBank.step_stateAfter`: the answers of a bank
* `MonitoredBank.records_stateAfter`: what each responder was shown, and how often
* `ResponderBank.responders_run_alone`: all of it
-/

namespace ControlEndpoint

universe u

/-! ## Arrivals -/

/-- A responder that was given to a bank, with the broadcasts of the ticks since. -/
structure Arrival (σ : Type u) where
  responder : σ
  since : List Broadcast

variable {σ τ : Type u}

/-- The responders that a history gives to a bank, whether or not they find a slot, in order. -/
def arrivals : List (Event σ Broadcast) → List (Arrival σ)
  | [] => []
  | .adjust r :: es => ⟨r, inputs es⟩ :: arrivals es
  | .tick _ :: es => arrivals es

namespace Arrival

/-- More broadcasts have been shown. -/
def later (is : List Broadcast) (a : Arrival σ) : Arrival σ := { a with since := a.since ++ is }

/-- The same arrival of another responder. -/
def map (f : σ → τ) (a : Arrival σ) : Arrival τ := ⟨f a.responder, a.since⟩

@[simp] theorem later_nil : later [] = (id : Arrival σ → Arrival σ) :=
  funext fun a => congrArg (mk a.responder) (List.append_nil a.since)

variable [Responder σ] (a : Arrival σ)

/-- The state that the responder comes to when it runs alone. -/
def alone : σ := Clocked.after a.responder a.since

/-- What the responder drives on the next tick when it runs alone. -/
def drive (i : Broadcast) : Drive := (Clocked.step a.alone i).2

theorem alone_later (is : List Broadcast) : (a.later is).alone = Clocked.after a.alone is :=
  Clocked.after_append a.responder a.since is

end Arrival

/-- Those who are there see what comes later. -/
theorem arrivals_append (es fs : List (Event σ Broadcast)) :
    arrivals (es ++ fs) = (arrivals es).map (Arrival.later (inputs fs)) ++ arrivals fs := by
  induction es with
  | nil => rfl
  | cons e es ih => cases e <;> simp [arrivals, Arrival.later, inputs_append, ih]

theorem arrivals_concat_tick (es : List (Event σ Broadcast)) (i : Broadcast) :
    arrivals (es ++ [.tick i]) = (arrivals es).map (Arrival.later [i]) := by
  simp [arrivals_append, arrivals, inputs]

theorem arrivals_concat_adjust (es : List (Event σ Broadcast)) (r : σ) :
    arrivals (es ++ [.adjust r]) = arrivals es ++ [⟨r, []⟩] := by
  simp [arrivals_append, arrivals, inputs]

theorem arrivals_map (f : σ → τ) (es : List (Event σ Broadcast)) :
    arrivals (es.map (Event.map f id)) = (arrivals es).map (Arrival.map f) := by
  induction es with
  | nil => rfl
  | cons e es ih => cases e <;> simp [Event.map, arrivals, Arrival.map, inputs_map, ih]

theorem inputs_map_adjust (rs : List σ) : inputs (rs.map (@Event.adjust σ Broadcast)) = [] := by
  induction rs with
  | nil => rfl
  | cons r rs ih => exact ih

/-- Those who come before the first tick have seen nothing. -/
theorem arrivals_map_adjust (rs : List σ) :
    arrivals (rs.map .adjust) = rs.map fun r => ⟨r, []⟩ := by
  induction rs with
  | nil => rfl
  | cons r rs ih => rw [List.map_cons, arrivals, inputs_map_adjust, ih, List.map_cons]

namespace ResponderBank

variable {capacity : Nat}

/-! ## A bank after a history -/

theorem responders_empty : (∅ : ResponderBank σ capacity).responders = [] := by
  simp [responders, EmptyCollection.emptyCollection, empty]

variable [Responder σ]

theorem packed_stateAfter (es : List (Event σ Broadcast)) :
    (stateAfter (∅ : ResponderBank σ capacity) es).Packed :=
  stateAfter_induction (I := fun b : ResponderBank σ capacity => b.Packed)
    (fun _ r h => h.attach r) (fun _ i h => h.step i) packed_empty es

theorem Packed.size_eq {b : ResponderBank σ capacity} (h : b.Packed) {as : List (Arrival σ)}
    (hb : b.responders = (as.take capacity).map Arrival.alone) :
    b.size = min capacity as.length := by
  rw [← h.length_responders, hb, List.length_map, List.length_take]

/-- **The responders of a bank** are the first that came, as many as there are slots, each in the
state that it comes to alone. -/
theorem responders_stateAfter (es : List (Event σ Broadcast)) :
    (stateAfter (∅ : ResponderBank σ capacity) es).responders =
      ((arrivals es).take capacity).map Arrival.alone := by
  -- By induction on the history from its end.
  induction es using List.reverseRecOn with
  | nil =>
    rw [arrivals, List.take_nil]
    exact responders_empty
  | append_singleton es e ih =>
    have hpacked : (stateAfter (∅ : ResponderBank σ capacity) es).Packed := packed_stateAfter es
    have hsize := hpacked.size_eq ih
    rw [stateAfter_append]
    cases e with
    | adjust r =>
      rw [arrivals_concat_adjust]
      show ((stateAfter (∅ : ResponderBank σ capacity) es).attach r).1.responders = _
      rw [hpacked.responders_attach, ih, hsize, List.take_append]
      by_cases hlt : (arrivals es).length < capacity
      · -- The responder takes a slot, and has seen nothing yet.
        have hpos : 0 < capacity - (arrivals es).length := Nat.sub_pos_of_lt hlt
        rw [if_pos (by omega), List.map_append, List.take_of_length_le (l := [_]) hpos]
        rfl
      · -- It comes behind those who have taken all slots.
        have hzero : capacity - (arrivals es).length = 0 := by omega
        rw [if_neg (by omega), hzero, List.take_zero, List.append_nil]
    | tick i =>
      rw [arrivals_concat_tick, ← List.map_take, List.map_map]
      show ((stateAfter (∅ : ResponderBank σ capacity) es).step i).1.responders = _
      rw [responders_step, ih, List.map_map]
      exact List.map_congr_left fun a _ => (a.alone_later [i]).symm

/-- In a bank of responders of different types, each runs by itself as one of its own type. -/
theorem getElem?_responders_of {es : List (Event AnyResponder.{u} Broadcast)} {n : Nat} {r : σ}
    {is : List Broadcast} (hn : n < capacity) (h : (arrivals es)[n]? = some ⟨.of r, is⟩) :
    (stateAfter (∅ : ResponderBank AnyResponder.{u} capacity) es).responders[n]? =
      some (.of (Clocked.after r is)) := by
  rw [responders_stateAfter, List.getElem?_map, List.getElem?_take_of_lt hn, h, Option.map_some,
    Arrival.alone, AnyResponder.after_of]

theorem size_stateAfter (es : List (Event σ Broadcast)) :
    (stateAfter (∅ : ResponderBank σ capacity) es).size = min capacity (arrivals es).length :=
  (packed_stateAfter es).size_eq (responders_stateAfter es)

/-- A responder is told the number of those before it, as long as there are slots. -/
theorem attach_stateAfter (es : List (Event σ Broadcast)) (r : σ) :
    ((stateAfter (∅ : ResponderBank σ capacity) es).attach r).2 =
      if (arrivals es).length < capacity then .ok (arrivals es).length else .error .full := by
  have hsize : (stateAfter (∅ : ResponderBank σ capacity) es).size =
      min capacity (arrivals es).length := size_stateAfter es
  by_cases hlt : (arrivals es).length < capacity
  · rw [Nat.min_eq_right (Nat.le_of_lt hlt)] at hsize
    simp [attach, hsize, hlt]
  · rw [Nat.min_eq_left (Nat.le_of_not_lt hlt)] at hsize
    simp [attach, hsize, hlt]

/-- **The bus of a bank** resolves what its responders drive alone. -/
theorem step_stateAfter (es : List (Event σ Broadcast)) (i : Broadcast) :
    ((stateAfter (∅ : ResponderBank σ capacity) es).step i).2 =
      Drive.resolve (((arrivals es).take capacity).map fun a => a.drive i) := by
  rw [(packed_stateAfter es).bus_step, drives, responders_stateAfter, List.map_map]
  rfl

/-! ## A bank that takes no more responders -/

/-- The bank that was given the responders `rs`, and has not been ticked. -/
def holding (rs : List σ) : ResponderBank σ capacity := rs.foldl Adjustable.adjust ∅

theorem holding_eq_stateAfter (rs : List σ) :
    (holding rs : ResponderBank σ capacity) = stateAfter ∅ (rs.map .adjust) := by
  rw [stateAfter, List.foldl_map]
  rfl

theorem packed_holding (rs : List σ) : (holding rs : ResponderBank σ capacity).Packed := by
  rw [holding_eq_stateAfter]
  exact packed_stateAfter _

theorem responders_holding (rs : List σ) :
    (holding rs : ResponderBank σ capacity).responders = rs.take capacity := by
  rw [holding_eq_stateAfter, responders_stateAfter, arrivals_map_adjust, ← List.map_take,
    List.map_map]
  exact List.map_id _

theorem Packed.after {b : ResponderBank σ capacity} (h : b.Packed) (is : List Broadcast) :
    (Clocked.after b is).Packed := by
  induction is generalizing b with
  | nil => exact h
  | cons i is ih => exact ih (h.step i)

/-- Each responder of a bank goes through all ticks of the bank. -/
theorem responders_after (b : ResponderBank σ capacity) (is : List Broadcast) :
    (Clocked.after b is).responders = b.responders.map fun r => Clocked.after r is := by
  induction is generalizing b with
  | nil => exact (List.map_id _).symm
  | cons i is ih =>
    have hstep : (Clocked.step b i).1.responders = _ := b.responders_step i
    rw [Clocked.after_cons, ih, hstep, List.map_map]
    rfl

end ResponderBank

/-! ## What the responders were shown -/

/-- The record of a responder that was monitored from its arrival on. -/
def Arrival.record [Responder σ] (a : Arrival σ) : Monitored σ where
  inner := a.alone
  ticks := a.since.length
  seen := a.since.getLast?

theorem Arrival.alone_map_monitored [Responder σ] (a : Arrival σ) :
    (a.map fun r => ({ inner := r } : Monitored σ)).alone = a.record := by
  let m : Monitored σ := { inner := a.responder }
  have hticks : (Clocked.after m a.since).ticks = a.since.length :=
    (m.ticks_after a.since).trans (Nat.zero_add _)
  have hseen : (Clocked.after m a.since).seen = a.since.getLast? :=
    (m.seen_after a.since).trans Option.or_none
  exact Monitored.ext (m.inner_after a.since) hticks hseen

namespace MonitoredBank

variable [Responder σ] {capacity : Nat}

/-- A monitored bank holds a bank of monitored responders. -/
theorem isPart_bank :
    IsPart (fun b : MonitoredBank σ capacity => b.bank) (fun r => { inner := r }) id where
  adjust b r := by
    by_cases hlt : b.bank.size < capacity
    · show (b.attach r).1.bank = _
      rw [attach_of_lt hlt]
      rfl
    · show (b.attach r).1.bank = (b.bank.attach { inner := r }).1
      rw [attach_of_le (Nat.le_of_not_lt hlt)]
      simp [ResponderBank.attach, hlt]
  step _ _ := rfl

theorem bank_stateAfter (es : List (Event σ Broadcast)) :
    (stateAfter (∅ : MonitoredBank σ capacity) es).bank =
      stateAfter (∅ : ResponderBank (Monitored σ) capacity)
        (es.map (Event.map (fun r => { inner := r }) id)) :=
  (isPart_bank.stateAfter_map (∅ : MonitoredBank σ capacity) es).symm

/-- Those who are refused stay as they came. -/
theorem refused_stateAfter (es : List (Event σ Broadcast)) :
    (stateAfter (∅ : MonitoredBank σ capacity) es).refused =
      ((arrivals es).drop capacity).map Arrival.responder := by
  induction es using List.reverseRecOn with
  | nil =>
    rw [arrivals, List.drop_nil]
    rfl
  | append_singleton es e ih =>
    have hsize : (stateAfter (∅ : MonitoredBank σ capacity) es).bank.size =
        min capacity (arrivals es).length := by
      rw [bank_stateAfter, ResponderBank.size_stateAfter, arrivals_map, List.length_map]
    rw [stateAfter_append]
    cases e with
    | adjust r =>
      rw [arrivals_concat_adjust]
      show ((stateAfter (∅ : MonitoredBank σ capacity) es).attach r).1.refused = _
      by_cases hlt : (arrivals es).length < capacity
      · rw [attach_of_lt (by omega), List.drop_of_length_le (by rw [List.length_append]; exact hlt)]
        exact ih.trans (by rw [List.drop_of_length_le (Nat.le_of_lt hlt)])
      · rw [attach_of_le (by omega), List.drop_append_of_le_length (Nat.le_of_not_lt hlt),
          List.map_append, ← ih]
        rfl
    | tick i =>
      rw [arrivals_concat_tick, ← List.map_drop, List.map_map]
      exact ih

/-- **The records of a bank**: who found a slot was stepped once for each tick since, and who found
none was not stepped. -/
theorem records_stateAfter (es : List (Event σ Broadcast)) :
    (stateAfter (∅ : MonitoredBank σ capacity) es).records =
      ((arrivals es).take capacity).map Arrival.record ++
        ((arrivals es).drop capacity).map fun a => { inner := a.responder } := by
  rw [records, bank_stateAfter, ResponderBank.responders_stateAfter, arrivals_map, ← List.map_take,
    List.map_map, refused_stateAfter, List.map_map]
  exact congrArg (· ++ _) (List.map_congr_left fun a _ => a.alone_map_monitored)

end MonitoredBank

namespace ResponderBank

/-- **The responders of a bank run by themselves.**  After every history, a bank holds the first
responders that came, as many as there are slots, each in the state that it comes to alone on the
broadcasts since.  The next responder finds a slot as long as there is one, and the next tick
resolves what the responders would drive alone.  A monitor beside each responder has counted one
step for each tick since it came, the latest with the latest broadcast, and no step where it found
no slot. -/
theorem responders_run_alone [Responder σ] (capacity : Nat) (es : List (Event σ Broadcast)) :
    (stateAfter (∅ : ResponderBank σ capacity) es).responders =
        ((arrivals es).take capacity).map Arrival.alone ∧
      (∀ r, ((stateAfter (∅ : ResponderBank σ capacity) es).attach r).2 =
        if (arrivals es).length < capacity then .ok (arrivals es).length else .error .full) ∧
      (∀ i, ((stateAfter (∅ : ResponderBank σ capacity) es).step i).2 =
        Drive.resolve (((arrivals es).take capacity).map fun a => a.drive i)) ∧
      (stateAfter (∅ : MonitoredBank σ capacity) es).records =
        ((arrivals es).take capacity).map
            (fun a => { inner := a.alone, ticks := a.since.length, seen := a.since.getLast? }) ++
          ((arrivals es).drop capacity).map
            (fun a => { inner := a.responder, ticks := 0, seen := none }) :=
  ⟨responders_stateAfter es, attach_stateAfter es, step_stateAfter es,
    MonitoredBank.records_stateAfter es⟩

end ResponderBank

end ControlEndpoint
