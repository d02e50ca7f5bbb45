import ControlEndpoint.Proofs.ResponderBank
import ControlEndpoint.Responder.Scripted

/-!
# The slots of a bank

A bank fills its slots in the order in which responders come, and never empties one.  After every
history the first slots hold the responders that found one, and the others are free; the numbers that
the responders were told count up to the number of slots, and all who come later are refused.

A refusal leaves no trace: the bank is what it was before, so the rest of the history goes as if the
responder had never come.

The bus of a tick is read from the front of the row that the responders drive, as many places as
there are responders.  There always are as many places, so that a bus is refused for its handshakes
alone.

## Main definitions

* `ResponderBank.accepted`: the operations of a history that are not refused, with their answers

## Main results

* `ResponderBank.filterMap_slot?_answers`: what the responders of a history are told
* `ResponderBank.answers_accepted`, `ResponderBank.stateAfter_accepted`: refusals leave no trace
* `ResponderBank.slots_fill_in_order`: all of it
-/

namespace ControlEndpoint

universe u

namespace ResponderBank

variable {σ : Type u} {capacity : Nat}

/-- The answer to a responder that came. -/
def Answer.slot? : Answer → Option (Except AttachError Nat)
  | .attached slot => some slot
  | .stepped _ => none

/-- The answer refuses a responder. -/
def Answer.refuses : Answer → Bool
  | .attached (.error _) => true
  | .attached (.ok _) | .stepped _ => false

variable [Responder σ] (b : ResponderBank σ capacity)

/-- The operations of a history that are not refused, with their answers. -/
def accepted (es : List (Event σ Broadcast)) : List (Event σ Broadcast × Answer) :=
  (es.zip (b.answers es)).filter fun x => !x.2.refuses

/-! ## Answers -/

theorem answers_append (es fs : List (Event σ Broadcast)) :
    b.answers (es ++ fs) = b.answers es ++ (stateAfter b es).answers fs := by
  induction es generalizing b with
  | nil => rfl
  | cons e es ih => exact congrArg _ (ih (afterEvent b e))

/-- **The responders of a history are told** the numbers of the slots in order, and are refused when
there are no more. -/
theorem filterMap_slot?_answers (es : List (Event σ Broadcast)) :
    ((∅ : ResponderBank σ capacity).answers es).filterMap Answer.slot? =
      (List.range (arrivals es).length).map fun k =>
        if k < capacity then .ok k else .error .full := by
  induction es using List.reverseRecOn with
  | nil => rfl
  | append_singleton es e ih =>
    rw [answers_append, List.filterMap_append, ih]
    cases e with
    | adjust r =>
      -- The responder is the next to be told.
      have hlast : ((stateAfter (∅ : ResponderBank σ capacity) es).answers
          [.adjust r]).filterMap Answer.slot? =
          [((stateAfter (∅ : ResponderBank σ capacity) es).attach r).2] := rfl
      rw [hlast, attach_stateAfter, arrivals_concat_adjust, List.length_append,
        List.length_singleton, List.range_succ, List.map_append, List.map_singleton]
    | tick i =>
      rw [arrivals_concat_tick, List.length_map]
      exact List.append_nil _

/-! ## Refusals leave no trace -/

variable {b}

omit [Responder σ] in
theorem attach_eq_self_of_error {r : σ} {e : AttachError} (h : (b.attach r).2 = .error e) :
    (b.attach r).1 = b := by
  unfold attach at h ⊢
  by_cases hlt : b.size < capacity
  · rw [dif_pos hlt] at h
    exact nomatch h
  · rw [dif_neg hlt]

theorem afterEvent_eq_self_of_refuses {e : Event σ Broadcast} (h : (b.answer e).refuses = true) :
    afterEvent b e = b := by
  cases e with
  | adjust r =>
    cases hr : (b.attach r).2 with
    | error => exact attach_eq_self_of_error hr
    | ok slot => exact nomatch (hr ▸ h : Answer.refuses (.attached (.ok slot)) = true)
  | tick i => exact nomatch h

theorem accepted_cons_of_refuses {e : Event σ Broadcast} (h : (b.answer e).refuses = true)
    (es : List (Event σ Broadcast)) : b.accepted (e :: es) = b.accepted es := by
  have hself : afterEvent b e = b := afterEvent_eq_self_of_refuses h
  rw [accepted, answers, List.zip_cons_cons, List.filter_cons_of_neg (by simp [h]), hself]
  rfl

theorem accepted_cons {e : Event σ Broadcast} (h : (b.answer e).refuses = false)
    (es : List (Event σ Broadcast)) :
    b.accepted (e :: es) = (e, b.answer e) :: (afterEvent b e).accepted es := by
  rw [accepted, answers, List.zip_cons_cons, List.filter_cons_of_pos (by simp [h])]
  rfl

/-- **Refusals leave no trace in the answers**: without them, all others are the same. -/
theorem answers_accepted (b : ResponderBank σ capacity) (es : List (Event σ Broadcast)) :
    b.answers ((b.accepted es).map Prod.fst) = (b.accepted es).map Prod.snd := by
  induction es generalizing b with
  | nil => rfl
  | cons e es ih =>
    cases h : (b.answer e).refuses with
    | true => rw [accepted_cons_of_refuses h, ih]
    | false => rw [accepted_cons h, List.map_cons, List.map_cons, answers, ih]

/-- **Refusals leave no trace in the bank**. -/
theorem stateAfter_accepted (b : ResponderBank σ capacity) (es : List (Event σ Broadcast)) :
    stateAfter b ((b.accepted es).map Prod.fst) = stateAfter b es := by
  induction es generalizing b with
  | nil => rfl
  | cons e es ih =>
    cases h : (b.answer e).refuses with
    | true =>
      rw [accepted_cons_of_refuses h, ih, stateAfter_cons, afterEvent_eq_self_of_refuses h]
    | false => rw [accepted_cons h, List.map_cons, stateAfter_cons, ih, stateAfter_cons]

/-! ## The slots after a history -/

theorem toList_slots_stateAfter (es : List (Event σ Broadcast)) :
    (stateAfter (∅ : ResponderBank σ capacity) es).slots.toList =
      ((arrivals es).take capacity).map (fun a => some a.alone) ++
        List.replicate (capacity - (stateAfter (∅ : ResponderBank σ capacity) es).size) none := by
  rw [(packed_stateAfter es).toList_slots, responders_stateAfter, List.map_map]
  rfl

/-- **The slots fill in order, and refusals leave no trace.**  After every history the first slots
hold the responders that came first, as many as there are slots, and the other slots are free.  The
responders were told the numbers of the slots in order, and those who found none were refused.  A
refusal leaves the bank as it is, so that without the refused operations the others of the history
are answered alike and lead to the same bank.  On each tick the row has a place for every responder,
and a bus is refused exactly if two distinct lines are raised on it, and for no other reason. -/
theorem slots_fill_in_order (capacity : Nat) (es : List (Event σ Broadcast)) :
    let new : ResponderBank σ capacity := ∅
    let bank := stateAfter new es
    new = default ∧
      (bank.slots.toList = ((arrivals es).take capacity).map (fun a => some a.alone) ++
          List.replicate (capacity - bank.size) none ∧
        bank.size = min capacity (arrivals es).length ∧ bank.size ≤ capacity ∧
          (bank.isEmpty = true ↔ bank.size = 0)) ∧
      ((new.answers es).filterMap Answer.slot? =
          (List.range (arrivals es).length).map (fun k =>
            if k < capacity then .ok k else .error .full) ∧
        (∀ r e, (bank.attach r).2 = .error e → (bank.attach r).1 = bank) ∧
          new.answers ((new.accepted es).map Prod.fst) = (new.accepted es).map Prod.snd ∧
            stateAfter new ((new.accepted es).map Prod.fst) = bank) ∧
      ∀ i, bank.front? i = some (bank.drives i) ∧
        (bank.step i).2 = Drive.resolve (bank.drives i) ∧
          ∀ e, (bank.step i).2 = .error e ↔ e = .conflictingHandshakes ∧ ∃ j k : Fin 8,
            j ≠ k ∧ (∃ d ∈ bank.drives i, j ∈ d.handshakes) ∧
              ∃ d ∈ bank.drives i, k ∈ d.handshakes := by
  intro new bank
  have hpacked : bank.Packed := packed_stateAfter es
  refine ⟨rfl, ⟨toList_slots_stateAfter es, size_stateAfter es, hpacked.size_le, ?_⟩, ?_, ?_⟩
  · exact beq_iff_eq
  · exact ⟨filterMap_slot?_answers es, fun r e => attach_eq_self_of_error, answers_accepted new es,
      stateAfter_accepted new es⟩
  · intro i
    have hbus := hpacked.bus_step i
    refine ⟨hpacked.front?_eq i, hbus, fun e => ?_⟩
    rw [hbus]
    exact Drive.resolve_eq_error_iff

/-- The second responder finds no slot, and the tick after it is that of the first alone. -/
theorem slots_fill_in_order_refused :
    let stalling : ScriptedResponder := { script := [.ofHandshakes (.single .stall)] }
    let acking : ScriptedResponder := { script := [.ofHandshakes (.single .ack)] }
    let new : ResponderBank ScriptedResponder 1 := ∅
    let es := [.adjust stalling, .adjust acking, .tick {}]
    let bank := stateAfter new es
    (bank.attach acking).2 = .error .full ∧ (bank.attach acking).1 = bank ∧
      (new.accepted es).map Prod.fst = [.adjust stalling, .tick {}] ∧
        new.answers [.adjust stalling, .tick {}] = (new.accepted es).map Prod.snd := by
  intro stalling acking new es bank
  have hfull : (bank.attach acking).2 = .error .full := rfl
  have haccepted : (new.accepted es).map Prod.fst = [.adjust stalling, .tick {}] := rfl
  obtain ⟨-, -, ⟨-, hself, hanswers, -⟩, -⟩ := slots_fill_in_order 1 es
  exact ⟨hfull, hself acking .full hfull, haccepted, haccepted ▸ hanswers⟩

end ResponderBank

end ControlEndpoint
