import ControlEndpoint.Drive.Resolve

/-!
# A bus, wire by wire

What stands on a wire of a bus can be told from the drives alone, without joining them: a strobe is
raised if some drive raises it, and the value under it is that of the first drive that does; the
flags of the transmit stream and the handshakes are raised if some drive raises them; the byte and
its toggle are those of the last drive that has a byte to send.  A join goes through the drives two
at a time, and forgets at each step what no strobe raises.  It comes to the same wires.

A bus is refused if two distinct lines are raised on it, and the drives of any other bus share one
line: each of them raises that line or none.

## Main definitions

* `Drive.wires`: the bus of a list of drives, wire by wire

## Main results

* `Drive.joinAll_eq_wires`: the join of a list of drives
* `Drive.not_conflicting_joinAll_iff`: the buses without a conflict
* `Drive.resolve_eq_wires`: when a bus is refused, and what stands on its wires otherwise
-/

namespace ControlEndpoint

namespace Drive

/-- The bus of a list of drives in order of priority, wire by wire. -/
def wires (l : List Drive) : Drive where
  addressStrobe := l.any (·.addressStrobe)
  address := (l.find? (·.addressStrobe)).elim 0 (·.address % 128)
  configStrobe := l.any (·.configStrobe)
  config := (l.find? (·.configStrobe)).elim 0 (·.config)
  tx :=
    { valid := l.any (·.tx.valid)
      first := l.any (·.tx.first)
      last := l.any (·.tx.last)
      payload := (l.reverse.find? (·.tx.valid)).elim 0 (·.tx.payload) }
  dataToggle := (l.reverse.find? (·.tx.valid)).elim true (·.dataToggle)
  handshakes := { bits := (l.map (·.handshakes.bits)).foldr (· ||| ·) 0 }

variable (l : List Drive)

/-! ## Values under a strobe -/

theorem findSome?_ite {α β : Type} (p : α → Bool) (f : α → β) (l : List α) :
    l.findSome? (fun a => if p a then some (f a) else none) = (l.find? p).map f := by
  induction l with
  | nil => rfl
  | cons a l ih => cases h : p a <;> simp [h, ih]

theorem address_joinAll :
    (joinAll l).address = (l.find? (·.addressStrobe)).elim 0 (·.address % 128) := by
  have hfirst : l.findSome? addressChange = (l.find? (·.addressStrobe)).map (·.address % 128) :=
    findSome?_ite _ _ l
  rw [(settled_joinAll l).address_eq, addressChange_joinAll, hfirst]
  cases l.find? (·.addressStrobe) <;> rfl

theorem config_joinAll :
    (joinAll l).config = (l.find? (·.configStrobe)).elim 0 (·.config) := by
  have hfirst : l.findSome? configChange = (l.find? (·.configStrobe)).map (·.config) :=
    findSome?_ite _ _ l
  rw [(settled_joinAll l).config_eq, configChange_joinAll, hfirst]
  cases l.find? (·.configStrobe) <;> rfl

theorem data_joinAll_eq_map :
    (joinAll l).data =
      (l.reverse.find? (·.tx.valid)).map fun d => (d.tx.payload, d.dataToggle) := by
  rw [data_joinAll]
  exact findSome?_ite _ _ l.reverse

theorem payload_joinAll :
    (joinAll l).tx.payload = (l.reverse.find? (·.tx.valid)).elim 0 (·.tx.payload) := by
  rw [(settled_joinAll l).payload_eq, data_joinAll_eq_map]
  cases l.reverse.find? (·.tx.valid) <;> rfl

theorem dataToggle_joinAll :
    (joinAll l).dataToggle = (l.reverse.find? (·.tx.valid)).elim true (·.dataToggle) := by
  rw [(settled_joinAll l).dataToggle_eq, data_joinAll_eq_map]
  cases l.reverse.find? (·.tx.valid) <;> rfl

/-! ## Wires that any drive raises -/

theorem addressStrobe_joinAll : (joinAll l).addressStrobe = l.any (·.addressStrobe) := by
  rw [← isSome_addressChange, addressChange_joinAll, List.isSome_findSome?]
  simp only [isSome_addressChange]

theorem configStrobe_joinAll : (joinAll l).configStrobe = l.any (·.configStrobe) := by
  rw [← isSome_configChange, configChange_joinAll, List.isSome_findSome?]
  simp only [isSome_configChange]

theorem valid_joinAll : (joinAll l).tx.valid = l.any (·.tx.valid) := by
  rw [← isSome_data, data_joinAll, List.isSome_findSome?, List.any_reverse]
  simp only [isSome_data]

theorem first_joinAll : (joinAll l).tx.first = l.any (·.tx.first) := by
  induction l with
  | nil => rfl
  | cons a l ih => rw [joinAll_cons, first_join, ih, List.any_cons]

theorem last_joinAll : (joinAll l).tx.last = l.any (·.tx.last) := by
  induction l with
  | nil => rfl
  | cons a l ih => rw [joinAll_cons, last_join, ih, List.any_cons]

theorem handshakes_joinAll :
    (joinAll l).handshakes = { bits := (l.map (·.handshakes.bits)).foldr (· ||| ·) 0 } := by
  induction l with
  | nil => rfl
  | cons a l ih => rw [joinAll_cons, handshakes_join, ih]; rfl

/-- **The join of a list of drives**, wire by wire. -/
theorem joinAll_eq_wires : joinAll l = wires l := by
  apply Drive.ext
  · exact addressStrobe_joinAll l
  · exact address_joinAll l
  · exact configStrobe_joinAll l
  · exact config_joinAll l
  · apply TxBeat.ext
    · exact valid_joinAll l
    · exact first_joinAll l
    · exact last_joinAll l
    · exact payload_joinAll l
  · exact dataToggle_joinAll l
  · exact handshakes_joinAll l

/-! ## Conflicts -/

/-- **A bus has no conflict** exactly if its drives share one line. -/
theorem not_conflicting_joinAll_iff :
    ¬ (joinAll l).handshakes.Conflicting ↔
      ∃ i : Fin 8, ∀ d ∈ l, d.handshakes = ∅ ∨ d.handshakes = {i} := by
  simp only [HandshakeSet.not_conflicting_iff, HandshakeSet.eq_empty_or_eq_singleton_iff,
    mem_handshakes_joinAll]
  constructor
  · rintro ⟨i, hi⟩
    exact ⟨i, fun d hd j hj => hi j ⟨d, hd, hj⟩⟩
  · rintro ⟨i, hi⟩
    exact ⟨i, fun j ⟨d, hd, hj⟩ => hi d hd j hj⟩

/-- **A bus, wire by wire.**  A bus is refused exactly if two distinct lines are raised on it, by
one drive or by several.  It is not refused exactly if its drives share one line, and then each of
its wires is as the drives have it. -/
theorem resolve_eq_wires (l : List Drive) :
    (resolve l = .error .conflictingHandshakes ↔ ∃ i j : Fin 8,
        i ≠ j ∧ (∃ d ∈ l, i ∈ d.handshakes) ∧ ∃ d ∈ l, j ∈ d.handshakes) ∧
      ∀ bus, resolve l = .ok bus ↔
        (∃ i : Fin 8, ∀ d ∈ l, d.handshakes = ∅ ∨ d.handshakes = {i}) ∧ bus = wires l := by
  constructor
  · exact resolve_eq_error_iff.trans (and_iff_right rfl)
  · intro bus
    rw [resolve_eq_ok_iff, not_conflicting_joinAll_iff, joinAll_eq_wires, eq_comm]

-- The flags of a drive without a byte count, and its byte does not.
example :
    resolve [{ tx := { first := true, payload := 7 } }, { tx := { valid := true, payload := 5 } },
        { tx := { last := true, payload := 9 }, dataToggle := false, handshakes := {7} }] =
      .ok { tx := { valid := true, first := true, last := true, payload := 5 },
            handshakes := {7} } := by
  decide

end Drive

end ControlEndpoint
