import ControlEndpoint.Proofs.Drive.Alike
import ControlEndpoint.Proofs.ResponderBank
import ControlEndpoint.Responder.Scripted
import Mathlib.Data.List.Forall2

/-!
# What a bank does not show of its responders

A bank shows of its responders what they drive, and nothing of what they hold besides: two banks
that go through the same operations show the same buses, if on each tick the responders of one drive
what those of the other do.  A responder that never drives anything could as well be absent.  It may
come before or behind all others and at any time, as long as it takes no one's slot.

These are statements about whole histories.  A history that gives two banks a responder each at a
time is a history of pairs.

## Main definitions

* `ResponderBank.buses`: the buses of a history
* `Arrival.DrivesAlike`: a pair of responders that drive alike
* `WithSilent es es'`: the history `es'` is `es` with silent responders on the way

## Main results

* `ResponderBank.buses_concat_tick`: the bus of one more tick
* `ResponderBank.buses_map_fst`: two banks whose responders drive alike
* `ResponderBank.buses_append_of_withSilent`: a bank with silent responders
* `ResponderBank.undriven_values_unseen`: both
-/

namespace ControlEndpoint

universe u v

variable {σ τ : Type u} [Responder σ] [Responder τ]

/-! ## The buses of a history -/

namespace ResponderBank

variable {capacity : Nat}

/-- The buses that a bank shows on the ticks of a history. -/
def buses (capacity : Nat) (es : List (Event σ Broadcast)) : List (Except BusError Drive) :=
  (trace (∅ : ResponderBank σ capacity) es).map fun k => k.output

theorem buses_concat_adjust (es : List (Event σ Broadcast)) (r : σ) :
    buses capacity (es ++ [.adjust r]) = buses capacity es := by
  rw [buses, trace_append, List.map_append]
  exact List.append_nil _

/-- **The bus of one more tick** resolves what the responders drive alone. -/
theorem buses_concat_tick (es : List (Event σ Broadcast)) (i : Broadcast) :
    buses capacity (es ++ [.tick i]) =
      buses capacity es ++
        [Drive.resolve (((arrivals es).take capacity).map fun a => a.drive i)] := by
  rw [buses, trace_append, List.map_append, ← step_stateAfter]
  rfl

end ResponderBank

/-! ## Responders that drive alike -/

theorem forall₂_concat_iff {α : Type u} {β : Type v} {R : α → β → Prop} {l : List α} {l' : List β}
    {a : α} {b : β} : List.Forall₂ R (l ++ [a]) (l' ++ [b]) ↔ List.Forall₂ R l l' ∧ R a b := by
  rw [← List.forall₂_reverse_iff, List.reverse_concat, List.reverse_concat, List.forall₂_cons,
    List.forall₂_reverse_iff, and_comm]

namespace Arrival

theorem outputs_concat (r : σ) (is : List Broadcast) (i : Broadcast) :
    Clocked.outputs r (is ++ [i]) = Clocked.outputs r is ++ [(⟨r, is⟩ : Arrival σ).drive i] :=
  Clocked.outputs_append r is [i]

/-- The two responders of a pair drive alike on every tick since they came. -/
def DrivesAlike (a : Arrival (σ × τ)) : Prop :=
  List.Forall₂ Drive.Alike (Clocked.outputs a.responder.1 a.since)
    (Clocked.outputs a.responder.2 a.since)

theorem drivesAlike_later_iff {a : Arrival (σ × τ)} {i : Broadcast} :
    (a.later [i]).DrivesAlike ↔
      a.DrivesAlike ∧ ((a.map Prod.fst).drive i).Alike ((a.map Prod.snd).drive i) := by
  unfold DrivesAlike
  rw [show (a.later [i]).since = a.since ++ [i] from rfl, outputs_concat, outputs_concat]
  exact forall₂_concat_iff

end Arrival

namespace ResponderBank

variable {capacity : Nat}

/-- **Two banks whose responders drive alike** show the same buses. -/
theorem buses_map_fst (es : List (Event (σ × τ) Broadcast))
    (h : ∀ a ∈ (arrivals es).take capacity, a.DrivesAlike) :
    buses capacity (es.map (Event.map Prod.fst id)) =
      buses capacity (es.map (Event.map Prod.snd id)) := by
  -- By induction on the history from its end.
  induction es using List.reverseRecOn with
  | nil => rfl
  | append_singleton es e ih =>
    rw [List.map_append, List.map_append]
    cases e with
    | adjust p =>
      have hbefore : ∀ a ∈ (arrivals es).take capacity, a.DrivesAlike := by
        intro a ha
        apply h
        rw [arrivals_concat_adjust, List.take_append]
        exact List.mem_append_left _ ha
      show buses capacity (es.map _ ++ [.adjust p.1]) = buses capacity (es.map _ ++ [.adjust p.2])
      rw [buses_concat_adjust, buses_concat_adjust]
      exact ih hbefore
    | tick i =>
      have hnow : ∀ a ∈ (arrivals es).take capacity, a.DrivesAlike ∧
          ((a.map Prod.fst).drive i).Alike ((a.map Prod.snd).drive i) := by
        intro a ha
        apply Arrival.drivesAlike_later_iff.1
        apply h
        rw [arrivals_concat_tick, ← List.map_take]
        exact List.mem_map_of_mem ha
      have hbus := Drive.resolve_map_eq_of_alike fun a ha => (hnow a ha).2
      show buses capacity (es.map _ ++ [.tick i]) = buses capacity (es.map _ ++ [.tick i])
      rw [buses_concat_tick, buses_concat_tick, ih fun a ha => (hnow a ha).1, arrivals_map,
        arrivals_map, ← List.map_take, ← List.map_take, List.map_map, List.map_map]
      exact congrArg (_ ++ [·]) hbus

/-! ## Responders that drive nothing -/

omit [Responder σ] in
theorem length_arrivals_append_le (fs gs : List (Event σ Broadcast)) (q : σ) :
    (arrivals (fs ++ gs)).length ≤ (arrivals (fs ++ .adjust q :: gs)).length := by
  rw [arrivals_append, arrivals_append, List.length_append, List.length_append, List.length_map,
    List.length_map]
  exact Nat.add_le_add_left (Nat.le_succ _) _

/-- A responder that drives nothing from its arrival on is not seen, if no one else needs its
slot. -/
theorem buses_append_silent_cons {q : σ} (fs gs : List (Event σ Broadcast))
    (hq : ∀ d ∈ Clocked.outputs q (inputs gs), d.Silent)
    (hroom : (arrivals (fs ++ .adjust q :: gs)).length ≤ capacity) :
    buses capacity (fs ++ .adjust q :: gs) = buses capacity (fs ++ gs) := by
  induction gs using List.reverseRecOn with
  | nil => rw [buses_concat_adjust, List.append_nil]
  | append_singleton gs e ih =>
    rw [← List.cons_append, ← List.append_assoc] at hroom ⊢
    rw [← List.append_assoc]
    cases e with
    | adjust r =>
      have hinputs : inputs (gs ++ [.adjust r]) = inputs gs := by
        rw [inputs_append]
        exact List.append_nil _
      rw [hinputs] at hq
      rw [arrivals_concat_adjust, List.length_append] at hroom
      rw [buses_concat_adjust, buses_concat_adjust]
      exact ih hq (Nat.le_of_add_right_le hroom)
    | tick i =>
      have hinputs : inputs (gs ++ [.tick i]) = inputs gs ++ [i] := inputs_append gs [.tick i]
      rw [hinputs, Arrival.outputs_concat] at hq
      rw [arrivals_concat_tick, List.length_map] at hroom
      have hbefore : ∀ d ∈ Clocked.outputs q (inputs gs), d.Silent := by
        intro d hd
        exact hq d (List.mem_append_left _ hd)
      have hnow : ((⟨q, inputs gs⟩ : Arrival σ).drive i).Silent := by
        apply hq
        exact List.mem_append_right _ (List.mem_singleton_self _)
      -- The responder stands between those who came before it and those who came after.
      have harrivals : arrivals (fs ++ .adjust q :: gs) =
          (arrivals fs).map (Arrival.later (inputs gs)) ++ ⟨q, inputs gs⟩ :: arrivals gs :=
        arrivals_append fs (.adjust q :: gs)
      have hroom' : (arrivals (fs ++ gs)).length ≤ capacity :=
        Nat.le_trans (length_arrivals_append_le fs gs q) hroom
      rw [buses_concat_tick, buses_concat_tick, ih hbefore hroom, List.take_of_length_le hroom,
        List.take_of_length_le hroom', harrivals, arrivals_append, List.map_append, List.map_cons,
        Drive.resolve_append_silent_cons hnow, List.map_append]

end ResponderBank

/-- The history `es'` is `es` with more responders attached on the way, which drive nothing. -/
inductive WithSilent : List (Event σ Broadcast) → List (Event σ Broadcast) → Prop
  | nil : WithSilent [] []
  | cons {es es'} (e : Event σ Broadcast) (h : WithSilent es es') : WithSilent (e :: es) (e :: es')
  | attach {es es'} (q : σ) (hq : ∀ d ∈ Clocked.outputs q (inputs es'), d.Silent)
      (h : WithSilent es es') : WithSilent es (.adjust q :: es')

namespace ResponderBank

variable {capacity : Nat}

/-- **Silent responders are not seen**, if there is room for all. -/
theorem buses_append_of_withSilent {es es' : List (Event σ Broadcast)} (h : WithSilent es es')
    (fs : List (Event σ Broadcast)) (hroom : (arrivals (fs ++ es')).length ≤ capacity) :
    buses capacity (fs ++ es') = buses capacity (fs ++ es) := by
  -- By induction on the histories from their beginnings; `fs` is what came before.
  induction h generalizing fs with
  | nil => rfl
  | @cons es es' e _ ih =>
    rw [List.append_cons] at hroom
    rw [List.append_cons, List.append_cons fs e es]
    exact ih (fs ++ [e]) hroom
  | @attach es es' q hq _ ih =>
    calc buses capacity (fs ++ .adjust q :: es')
        = buses capacity (fs ++ es') := buses_append_silent_cons fs es' hq hroom
      _ = buses capacity (fs ++ es) :=
          ih fs (Nat.le_trans (length_arrivals_append_le fs es' q) hroom)

/-- **Undriven values are not seen.**  The first part is about two banks that go through the same
operations, each with responders of its own: they show the same buses, if each responder that finds
a slot drives, on every tick since it came, what its counterpart drives.  The second part is about
one bank with more responders, attached at any time, that drive nothing: it shows the same buses
without them, if there is room for all. -/
theorem undriven_values_unseen (capacity : Nat) :
    (∀ es : List (Event (σ × τ) Broadcast),
      (∀ a ∈ (arrivals es).take capacity,
        List.Forall₂ Drive.Alike (Clocked.outputs a.responder.1 a.since)
          (Clocked.outputs a.responder.2 a.since)) →
      buses capacity (es.map (Event.map Prod.fst id)) =
        buses capacity (es.map (Event.map Prod.snd id))) ∧
      ∀ es es' : List (Event σ Broadcast), WithSilent es es' →
        (arrivals es').length ≤ capacity → buses capacity es' = buses capacity es := by
  constructor
  · intro es h
    exact buses_map_fst es h
  · intro es es' h hroom
    exact buses_append_of_withSilent h [] hroom

/-- One responder fills what it does not drive with other values, and another comes between the two
ticks and drives nothing. -/
theorem undriven_values_unseen_scripted :
    let plain : ScriptedResponder := { script := [{}, { addressStrobe := true, address := 5 }] }
    let filled : ScriptedResponder :=
      { script := [{ address := 7, tx := { payload := 9 }, dataToggle := false },
          { addressStrobe := true, address := 133, config := 3 }] }
    let silent : ScriptedResponder := { script := [{ address := 9, dataToggle := false }] }
    let es : List (Event (ScriptedResponder × ScriptedResponder) Broadcast) :=
      [.adjust (plain, filled), .tick {}, .tick {}]
    let es₁ : List (Event ScriptedResponder Broadcast) := [.adjust plain, .tick {}, .tick {}]
    let es₂ : List (Event ScriptedResponder Broadcast) :=
      [.adjust plain, .tick {}, .adjust silent, .tick {}]
    (∀ a ∈ (arrivals es).take 2,
        List.Forall₂ Drive.Alike (Clocked.outputs a.responder.1 a.since)
          (Clocked.outputs a.responder.2 a.since)) ∧
      buses 2 (es.map (Event.map Prod.fst id)) = buses 2 (es.map (Event.map Prod.snd id)) ∧
      WithSilent es₁ es₂ ∧ (arrivals es₂).length ≤ 2 ∧ buses 2 es₂ = buses 2 es₁ := by
  intro plain filled silent es es₁ es₂
  obtain ⟨halike, hsilent⟩ := @undriven_values_unseen ScriptedResponder ScriptedResponder _ _ 2
  have hpair : ∀ a ∈ (arrivals es).take 2,
      List.Forall₂ Drive.Alike (Clocked.outputs a.responder.1 a.since)
        (Clocked.outputs a.responder.2 a.since) := by
    intro a ha
    obtain rfl : a = ⟨(plain, filled), [{}, {}]⟩ := List.mem_singleton.1 ha
    apply List.Forall₂.cons
    · exact ⟨rfl, nofun, rfl, nofun, rfl, rfl, rfl, nofun, nofun, rfl⟩
    · apply List.Forall₂.cons
      · exact ⟨rfl, fun _ => by decide, rfl, nofun, rfl, rfl, rfl, nofun, nofun, rfl⟩
      · exact .nil
  have hwith : WithSilent es₁ es₂ := by
    apply WithSilent.cons
    apply WithSilent.cons
    apply WithSilent.attach
    · intro d hd
      obtain rfl := List.mem_singleton.1 hd
      exact ⟨rfl, rfl, rfl, rfl, rfl, rfl⟩
    · exact .cons _ .nil
  exact ⟨hpair, halike es hpair, hwith, Nat.le_refl 2, hsilent es₁ es₂ hwith (Nat.le_refl 2)⟩

end ResponderBank

end ControlEndpoint
