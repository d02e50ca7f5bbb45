import ControlEndpoint.Drive.Resolve
import ControlEndpoint.Responder

/-!
# Banks of responders

A bank holds the responders of an endpoint in a row of slots, and fills the slots in order.  A
responder that was attached earlier has priority, and none is ever detached.

On each tick a bank shows the broadcast to all of its responders.  They put what they drive into a
row with a place for each slot, and the bus is resolved from the front of that row, as many places
as responders were attached.  A row that is too short for that refuses the bus.

A bank without a free slot refuses further responders.  A bus that is refused does not stop a
bank: its responders have seen the tick, and go on with the next.

## Main definitions

* `ResponderBank`: the slots of a bank, and how many are filled
* `ResponderBank.responders`: the attached responders, in order of priority
* `ResponderBank.attach`, `ResponderBank.step`: the two operations
* `ResponderBank.row`, `ResponderBank.front?`: the row of a tick, and the places that the bus reads
* `ResponderBank.Packed`: the filled slots come first
* `ResponderBank.answers`: the answers to a history of operations

## Main results

* `ResponderBank.Packed.toList_slots`: a packed bank is known by its responders
* `ResponderBank.Packed.responders_attach`, `ResponderBank.responders_step`: the operations on
  responders
* `ResponderBank.Packed.front?_eq`: the bus reads what the responders drive
-/

namespace ControlEndpoint

universe u

/-- The reason to refuse a responder. -/
inductive AttachError where
  /-- No slot is free. -/
  | full
deriving DecidableEq, Repr

/-- The text of a refusal. -/
def AttachError.message : AttachError → String
  | .full => "request handler multiplexer is full"

/-- A row of slots for responders. -/
@[ext] structure ResponderBank (σ : Type u) (capacity : Nat) where
  /-- The slots, in order of priority. -/
  slots : Vector (Option σ) capacity
  /-- The number of responders that were attached. -/
  size : Nat

namespace ResponderBank

/-- The number of slots of a bank, where no other is asked for. -/
def defaultCapacity : Nat := 16

variable {σ : Type u} {capacity : Nat}

/-- The bank without responders. -/
def empty : ResponderBank σ capacity where
  slots := Vector.replicate capacity none
  size := 0

instance : EmptyCollection (ResponderBank σ capacity) where
  emptyCollection := empty

instance : Inhabited (ResponderBank σ capacity) := ⟨empty⟩

variable (b : ResponderBank σ capacity)

/-- The attached responders, in order of priority. -/
def responders : List σ := b.slots.toList.filterMap id

/-- No responder is attached. -/
def isEmpty : Bool := b.size == 0

/-- The responder `r` takes the next slot, if there is one; the answer is its number. -/
def attach (r : σ) : ResponderBank σ capacity × Except AttachError Nat :=
  if h : b.size < capacity then
    ({ slots := b.slots.set b.size (some r), size := b.size + 1 }, .ok b.size)
  else (b, .error .full)

instance : Adjustable (ResponderBank σ capacity) σ where
  adjust b r := (b.attach r).1

section Ticks

variable [Responder σ] (i : Broadcast)

/-- What the responders drive during a tick, in order of priority. -/
def drives : List Drive := b.responders.map fun r => (Clocked.step r i).2

/-- What is driven during a tick, in a row with a place for each slot: the responders fill it from
the front, and the places behind them are idle. -/
def row : Vector Drive capacity :=
  let drives := b.drives i
  Vector.ofFn fun k => drives[k.val]?.getD .idle

/-- The places of the row that the bus reads, if the row has so many. -/
def front? : Option (List Drive) :=
  if b.size ≤ capacity then some ((b.row i).toList.take b.size) else none

/-- One tick of every responder; the answer is the bus they drive. -/
def step : ResponderBank σ capacity × Except BusError Drive :=
  ({ b with slots := b.slots.map (Option.map fun r => (Clocked.step r i).1) },
    match b.front? i with
    | some drives => Drive.resolve drives
    | none => .error (.shortRow b.size capacity))

instance : Clocked (ResponderBank σ capacity) Broadcast (Except BusError Drive) where
  step b i := b.step i

/-- The answer of a bank to an operation. -/
inductive Answer where
  /-- To a responder: the number of its slot. -/
  | attached (slot : Except AttachError Nat)
  /-- To a tick: the bus. -/
  | stepped (bus : Except BusError Drive)
deriving DecidableEq

/-- The answer to an operation. -/
def answer : Event σ Broadcast → Answer
  | .adjust r => .attached (b.attach r).2
  | .tick i => .stepped (b.step i).2

/-- The answers to a history of operations. -/
def answers (b : ResponderBank σ capacity) : List (Event σ Broadcast) → List Answer
  | [] => []
  | e :: es => b.answer e :: answers (afterEvent b e) es

/-! ## Responders after a tick -/

@[simp] theorem responders_step :
    (b.step i).1.responders = b.responders.map fun r => (Clocked.step r i).1 := by
  simp only [responders, step, Vector.toList_map, List.filterMap_map, List.map_filterMap]
  rfl

@[simp] theorem size_step : (b.step i).1.size = b.size := rfl

end Ticks

/-! ## Packed banks

Slots are filled in order, so the filled slots of a bank are always the first ones, and a bank is
known by the list of its responders. -/

/-- The filled slots are the first ones, and the size counts them. -/
structure Packed (b : ResponderBank σ capacity) : Prop where
  /-- The slots suffice. -/
  size_le : b.size ≤ capacity
  /-- A slot is filled if its number is below the size. -/
  isSome_iff : ∀ k (h : k < capacity), b.slots[k].isSome ↔ k < b.size

theorem packed_empty : (∅ : ResponderBank σ capacity).Packed where
  size_le := Nat.zero_le _
  isSome_iff k h := by simp [EmptyCollection.emptyCollection, empty]

variable {b : ResponderBank σ capacity}

theorem Packed.attach (h : b.Packed) (r : σ) : (b.attach r).1.Packed := by
  unfold ResponderBank.attach
  split
  · next hlt =>
    refine ⟨hlt, fun k hk => ?_⟩
    by_cases he : b.size = k
    · simp [← he]
    · have := h.isSome_iff k hk
      simp only [Vector.getElem_set_ne _ _ he, this]
      omega
  · exact h

theorem Packed.step [Responder σ] (h : b.Packed) (i : Broadcast) : (b.step i).1.Packed where
  size_le := h.size_le
  isSome_iff k hk := by simpa [ResponderBank.step] using h.isSome_iff k hk

/-- A list whose filled entries are the first `n`. -/
theorem eq_map_some_append_of_isSome_iff {l : List (Option σ)} {n : Nat} (hn : n ≤ l.length)
    (h : ∀ k (hk : k < l.length), l[k].isSome ↔ k < n) :
    (l.filterMap id).length = n ∧
      l = (l.filterMap id).map some ++ List.replicate (l.length - n) none := by
  induction l generalizing n with
  | nil => simp_all
  | cons a l ih =>
    have tail (k : Nat) (hk : k < l.length) : l[k].isSome ↔ k + 1 < n := h (k + 1) (by simpa)
    have head := h 0 (Nat.zero_lt_succ _)
    cases n with
    | zero =>
      obtain rfl : a = none := by simpa using head
      have ⟨h₁, h₂⟩ := ih (Nat.zero_le _) fun k hk => by simpa using tail k hk
      rw [List.length_eq_zero_iff.1 h₁] at h₂
      rw [List.filterMap_cons_none rfl]
      refine ⟨h₁, ?_⟩
      rw [List.length_eq_zero_iff.1 h₁]
      exact congrArg (none :: ·) h₂
    | succ n =>
      obtain ⟨x, rfl⟩ : ∃ x, a = some x := by simpa [Option.isSome_iff_exists] using head
      have ⟨h₁, h₂⟩ := ih (Nat.le_of_succ_le_succ hn) fun k hk => by simpa using tail k hk
      rw [List.filterMap_cons_some (f := id) rfl]
      refine ⟨congrArg (· + 1) h₁, ?_⟩
      rw [List.length_cons, Nat.add_sub_add_right]
      exact congrArg (some x :: ·) h₂

theorem Packed.length_responders (h : b.Packed) : b.responders.length = b.size :=
  (eq_map_some_append_of_isSome_iff (by simpa using h.size_le)
    fun k hk => by simpa using h.isSome_iff k (by simpa using hk)).1

theorem Packed.length_drives [Responder σ] (h : b.Packed) (i : Broadcast) :
    (b.drives i).length = b.size := by
  rw [drives, List.length_map, h.length_responders]

/-- **The bus reads what the responders drive**, and nothing else: the row has a place for each of
them. -/
theorem Packed.front?_eq [Responder σ] (h : b.Packed) (i : Broadcast) :
    b.front? i = some (b.drives i) := by
  rw [front?, if_pos h.size_le, Option.some.injEq]
  apply List.ext_getElem
  · rw [List.length_take, Vector.length_toList, h.length_drives, Nat.min_eq_left h.size_le]
  · intro k hk hk'
    simp [row, hk']

/-- All responders of a bank drive its bus. -/
theorem Packed.bus_step [Responder σ] (h : b.Packed) (i : Broadcast) :
    (b.step i).2 = Drive.resolve (b.drives i) := by
  rw [ResponderBank.step, h.front?_eq i]

/-- **A packed bank is known by its responders**: they fill the first slots, and the rest is
free. -/
theorem Packed.toList_slots (h : b.Packed) :
    b.slots.toList = b.responders.map some ++ List.replicate (capacity - b.size) none := by
  have := (eq_map_some_append_of_isSome_iff (l := b.slots.toList) (by simpa using h.size_le)
    fun k hk => by simpa using h.isSome_iff k (by simpa using hk)).2
  rw [responders]
  simpa using this

/-- A responder that finds a slot goes behind all others. -/
theorem Packed.responders_attach (h : b.Packed) (r : σ) :
    (b.attach r).1.responders =
      if b.size < capacity then b.responders ++ [r] else b.responders := by
  unfold ResponderBank.attach
  split
  · next hlt =>
    obtain ⟨m, hm⟩ := Nat.exists_eq_add_of_lt hlt
    have hr : capacity - b.size = m + 1 := by omega
    simp only [responders, Vector.toList_set]
    rw [h.toList_slots, List.set_append_right _ _ (by simp [h.length_responders])]
    simp [h.length_responders, hr, List.replicate_succ]
  · rfl

end ResponderBank

end ControlEndpoint
