import ControlEndpoint.Drive.Resolve

/-!
# Buses of buses

The drives of a bus may be grouped in any way, each group resolved to a bus of its own, and these
buses resolved again: the result is that of all drives on one bus.  A group that has a conflict is
refused, and then the one bus is refused too, since the lines that a group raises stay raised
whatever else is driven.

What no strobe raises is lost when a group is resolved.  It is lost on the one bus as well, and
falls back to the same values.

## Main results

* `Drive.joinAll_map_joinAll`: joining in groups
* `Drive.mapM_resolve`: groups are resolved unless one of them conflicts
* `Drive.resolve_in_groups`: resolving in groups
-/

namespace ControlEndpoint

namespace Drive

/-! ## Groups -/

/-- Drives are joined in groups or all at once. -/
theorem joinAll_map_joinAll (ls : List (List Drive)) :
    joinAll (ls.map joinAll) = joinAll ls.flatten := by
  induction ls with
  | nil => rfl
  | cons l ls ih => rw [List.map_cons, joinAll_cons, ih, List.flatten_cons, joinAll_append]

/-- A bus conflicts if a part of it does. -/
theorem conflicting_joinAll_of_subset {l l' : List Drive} (hsub : l ⊆ l')
    (h : (joinAll l).handshakes.Conflicting) : (joinAll l').handshakes.Conflicting := by
  refine h.mono fun i hi => ?_
  obtain ⟨d, hd, hid⟩ := (mem_handshakes_joinAll l).1 hi
  exact (mem_handshakes_joinAll l').2 ⟨d, hsub hd, hid⟩

/-- **Groups are resolved** unless one of them conflicts. -/
theorem mapM_resolve (ls : List (List Drive)) :
    ls.mapM resolve =
      if ∃ l ∈ ls, (joinAll l).handshakes.Conflicting then .error .conflictingHandshakes
      else .ok (ls.map joinAll) := by
  induction ls with
  | nil => rfl
  | cons l ls ih =>
    have hcons : (∃ l' ∈ l :: ls, (joinAll l').handshakes.Conflicting) ↔
        (joinAll l).handshakes.Conflicting ∨ ∃ l' ∈ ls, (joinAll l').handshakes.Conflicting := by
      simp only [List.mem_cons, exists_eq_or_imp]
    rw [List.mapM_cons, ih, resolve]
    by_cases hl : (joinAll l).handshakes.Conflicting
    · rw [if_pos hl, if_pos (hcons.2 (.inl hl))]
      rfl
    · by_cases hls : ∃ l' ∈ ls, (joinAll l').handshakes.Conflicting
      · rw [if_neg hl, if_pos hls, if_pos (hcons.2 (.inr hls))]
        rfl
      · rw [if_neg hl, if_neg hls, if_neg fun h => (hcons.1 h).elim hl hls]
        rfl

/-- Resolving in groups, and the buses of the groups again. -/
theorem mapM_resolve_bind_resolve (ls : List (List Drive)) :
    (ls.mapM resolve >>= resolve) = resolve ls.flatten := by
  rw [mapM_resolve]
  by_cases h : ∃ l ∈ ls, (joinAll l).handshakes.Conflicting
  · -- The conflict of a group is one of the whole bus.
    obtain ⟨l, hl, hc⟩ := id h
    have hflat : (joinAll ls.flatten).handshakes.Conflicting :=
      conflicting_joinAll_of_subset (fun d hd => List.mem_flatten.2 ⟨l, hl, hd⟩) hc
    rw [if_pos h, resolve, if_pos hflat]
    rfl
  · rw [if_neg h]
    show resolve (ls.map joinAll) = resolve ls.flatten
    rw [resolve, resolve, joinAll_map_joinAll]

/-! ## Idle drives -/

/-- An idle drive is not seen on a bus, wherever it stands. -/
theorem joinAll_append_idle_cons (l r : List Drive) :
    joinAll (l ++ idle :: r) = joinAll (l ++ r) := by
  rw [joinAll_append, joinAll_cons, idle_join (settled_joinAll r), joinAll_append]

/-- **A bus may be resolved in groups**: to resolve each group of drives, and then the buses of the
groups, gives what all drives give on one bus, be it a bus or a refusal.  So an idle drive may stand
anywhere, and a bus that was resolved is not changed by being resolved again. -/
theorem resolve_in_groups :
    (∀ ls : List (List Drive),
        (do let buses ← ls.mapM resolve; resolve buses) = resolve ls.flatten) ∧
      (∀ l r : List Drive, resolve (l ++ idle :: r) = resolve (l ++ r)) ∧
      ∀ l : List Drive, (do let bus ← resolve l; resolve [bus]) = resolve l := by
  refine ⟨mapM_resolve_bind_resolve, ?_, ?_⟩
  · intro l r
    rw [resolve, resolve, joinAll_append_idle_cons]
  · -- A bus is one group.
    intro l
    calc (do let bus ← resolve l; resolve [bus])
        = [l].mapM resolve >>= resolve := by
          rw [List.mapM_cons, List.mapM_nil]
          cases resolve l <;> rfl
      _ = resolve [l].flatten := mapM_resolve_bind_resolve [l]
      _ = resolve l := by rw [List.flatten_singleton]

-- The refusal of a group stays, although the other group alone would be a bus.
example :
    (do let buses ← [[ofHandshakes (.single .ack), ofHandshakes (.single .stall)], [idle]].mapM
          resolve
        resolve buses) = .error .conflictingHandshakes := by
  decide

end Drive

end ControlEndpoint
