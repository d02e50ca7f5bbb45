import ControlEndpoint.Drive.Resolve

/-!
# What a drive contributes to a bus

A value counts under its strobe and not otherwise, and of an address only the low seven bits count.
Two drives that agree on all that counts contribute the same to every bus, whatever else they hold;
and a drive that raises nothing contributes nothing.

## Main definitions

* `Drive.Alike d e`: the two drives agree on all that counts
* `Drive.Silent d`: the drive raises nothing

## Main results

* `Drive.resolve_map_eq_of_alike`: a bus does not tell alike drives apart
* `Drive.resolve_append_silent_cons`: a silent drive is not seen on a bus
-/

namespace ControlEndpoint

universe u

namespace Drive

/-- The two drives raise the same strobes, flags and lines, and agree on what is under a strobe. -/
structure Alike (d e : Drive) : Prop where
  addressStrobe : d.addressStrobe = e.addressStrobe
  address : d.addressStrobe = true → d.address % 128 = e.address % 128
  configStrobe : d.configStrobe = e.configStrobe
  config : d.configStrobe = true → d.config = e.config
  valid : d.tx.valid = e.tx.valid
  first : d.tx.first = e.tx.first
  last : d.tx.last = e.tx.last
  payload : d.tx.valid = true → d.tx.payload = e.tx.payload
  dataToggle : d.tx.valid = true → d.dataToggle = e.dataToggle
  handshakes : d.handshakes = e.handshakes

/-- The drive raises no strobe, no flag and no line. -/
structure Silent (d : Drive) : Prop where
  addressStrobe : d.addressStrobe = false
  configStrobe : d.configStrobe = false
  valid : d.tx.valid = false
  first : d.tx.first = false
  last : d.tx.last = false
  handshakes : d.handshakes = ∅

variable {d e : Drive}

/-- What is under a strobe of a silent drive does not count, so an idle drive will do for it. -/
theorem Silent.alike_idle (h : d.Silent) : d.Alike idle where
  addressStrobe := h.addressStrobe
  address hstrobe := absurd (h.addressStrobe.symm.trans hstrobe) Bool.false_ne_true
  configStrobe := h.configStrobe
  config hstrobe := absurd (h.configStrobe.symm.trans hstrobe) Bool.false_ne_true
  valid := h.valid
  first := h.first
  last := h.last
  payload hvalid := absurd (h.valid.symm.trans hvalid) Bool.false_ne_true
  dataToggle hvalid := absurd (h.valid.symm.trans hvalid) Bool.false_ne_true
  handshakes := h.handshakes

/-! ## Alike drives on a bus -/

theorem Alike.addressChange_eq (h : d.Alike e) : d.addressChange = e.addressChange := by
  rw [addressChange, addressChange, ← h.addressStrobe]
  split
  · next hstrobe => rw [h.address hstrobe]
  · rfl

theorem Alike.configChange_eq (h : d.Alike e) : d.configChange = e.configChange := by
  rw [configChange, configChange, ← h.configStrobe]
  split
  · next hstrobe => rw [h.config hstrobe]
  · rfl

theorem Alike.data_eq (h : d.Alike e) : d.data = e.data := by
  rw [data, data, ← h.valid]
  split
  · next hvalid => rw [h.payload hvalid, h.dataToggle hvalid]
  · rfl

/-- Alike drives make the same bus with any other drive. -/
theorem Alike.join_eq (h : d.Alike e) (c : Drive) : join d c = join e c := by
  apply (settled_join d c).ext (settled_join e c)
  · rw [addressChange_join, addressChange_join, h.addressChange_eq]
  · rw [configChange_join, configChange_join, h.configChange_eq]
  · rw [data_join, data_join, h.data_eq]
  · rw [first_join, first_join, h.first]
  · rw [last_join, last_join, h.last]
  · rw [handshakes_join, handshakes_join, h.handshakes]

section Families

variable {α : Type u} {f g : α → Drive}

theorem joinAll_map_eq_of_alike {l : List α} (h : ∀ a ∈ l, (f a).Alike (g a)) :
    joinAll (l.map f) = joinAll (l.map g) := by
  induction l with
  | nil => rfl
  | cons a l ih =>
    have hhead : (f a).Alike (g a) := h a List.mem_cons_self
    have htail : joinAll (l.map f) = joinAll (l.map g) :=
      ih fun b hb => h b (List.mem_cons_of_mem a hb)
    rw [List.map_cons, List.map_cons, joinAll_cons, joinAll_cons, htail, hhead.join_eq]

/-- **A bus does not tell alike drives apart.** -/
theorem resolve_map_eq_of_alike {l : List α} (h : ∀ a ∈ l, (f a).Alike (g a)) :
    resolve (l.map f) = resolve (l.map g) := by
  rw [resolve, resolve, joinAll_map_eq_of_alike h]

end Families

/-- **A silent drive is not seen** on a bus, wherever it stands. -/
theorem resolve_append_silent_cons (h : d.Silent) (l r : List Drive) :
    resolve (l ++ d :: r) = resolve (l ++ r) := by
  have hjoin : joinAll (l ++ d :: r) = joinAll (l ++ r) := by
    rw [joinAll_append, joinAll_cons, h.alike_idle.join_eq, idle_join (settled_joinAll r),
      joinAll_append]
  rw [resolve, resolve, hjoin]

end Drive

end ControlEndpoint
