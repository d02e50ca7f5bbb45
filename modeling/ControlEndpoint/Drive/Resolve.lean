import ControlEndpoint.Drive

/-!
# Resolving a bus

The responders of an endpoint drive one bus.  Their drives are joined in order of priority: the
first that strobes an address sets the address, and so for the configuration; the flags of the
transmit stream and the handshakes are raised if any drive raises them; the byte and its toggle
are those of the last drive that has a byte to send.  What is under a strobe that no one raises
falls back to the value of an idle drive.

A bus that is asked for two handshakes at once has no meaning, and is refused.

## Main definitions

* `Drive.join`: the drive of two responders, the first of which has priority
* `Drive.joinAll`: the drive of a list of responders, in order of priority
* `Drive.resolve`: the drive of a bus, unless its handshakes conflict

## Main results

* `Drive.joinAll_append`: a bus may be cut anywhere
* `Drive.addressChange_joinAll`, `Drive.configChange_joinAll`, `Drive.data_joinAll`: who wins a
  strobe
* `Drive.resolve_eq_ok_iff`, `Drive.resolve_eq_error_iff`: when a bus is refused
-/

namespace ControlEndpoint

/-- The reason to refuse a bus. -/
inductive BusError where
  /-- The responders ask for more than one handshake. -/
  | conflictingHandshakes
  /-- The bus reads more drives than the tick has places for. -/
  | shortRow (reads places : Nat)
deriving DecidableEq, Repr

/-- The text of a refusal. -/
def BusError.message : BusError → String
  | .conflictingHandshakes => "Handlers requested conflicting handshakes"
  | .shortRow reads places =>
    s!"range end index {reads} out of range for slice of length {places}"

/-- Equality of results is decided by their cases. -/
instance decidableEqExcept {ε α : Type} [DecidableEq ε] [DecidableEq α] :
    DecidableEq (Except ε α)
  | .ok a, .ok b => decidable_of_iff (a = b) (by simp)
  | .error e, .error f => decidable_of_iff (e = f) (by simp)
  | .ok _, .error _ | .error _, .ok _ => isFalse (by simp)

namespace Drive

/-- The bus of two drives, the first of which has priority. -/
def join (a b : Drive) : Drive :=
  let address := a.addressChange.or b.addressChange
  let config := a.configChange.or b.configChange
  let data := b.data.or a.data
  { addressStrobe := address.isSome
    address := address.getD 0
    configStrobe := config.isSome
    config := config.getD 0
    tx :=
      { valid := a.tx.valid || b.tx.valid
        first := a.tx.first || b.tx.first
        last := a.tx.last || b.tx.last
        payload := (data.map Prod.fst).getD 0 }
    dataToggle := (data.map Prod.snd).getD true
    handshakes := a.handshakes ∪ b.handshakes }

/-- The bus of a list of drives, in order of priority. -/
def joinAll (l : List Drive) : Drive := l.foldr join idle

/-- The bus of a list of drives, in order of priority, unless its handshakes conflict. -/
def resolve (l : List Drive) : Except BusError Drive :=
  if (joinAll l).handshakes.Conflicting then .error .conflictingHandshakes else .ok (joinAll l)

/-! ## Two drives

Joining is associative, and an idle drive is its unit up to what no strobe raises. -/

variable (a b c : Drive)

@[simp] theorem addressChange_join :
    (join a b).addressChange = a.addressChange.or b.addressChange := by
  have once (x : UInt8) : x % 128 % 128 = x % 128 := by grind
  cases ha : a.addressStrobe <;> cases hb : b.addressStrobe <;>
    simp [addressChange, join, ha, hb, once]

@[simp] theorem configChange_join :
    (join a b).configChange = a.configChange.or b.configChange := by
  cases ha : a.configStrobe <;> cases hb : b.configStrobe <;> simp [configChange, join, ha, hb]

@[simp] theorem data_join : (join a b).data = b.data.or a.data := by
  cases ha : a.tx.valid <;> cases hb : b.tx.valid <;> simp [data, join, ha, hb]

@[simp] theorem first_join : (join a b).tx.first = (a.tx.first || b.tx.first) := rfl

@[simp] theorem last_join : (join a b).tx.last = (a.tx.last || b.tx.last) := rfl

@[simp] theorem handshakes_join : (join a b).handshakes = a.handshakes ∪ b.handshakes := rfl

/-- What no strobe raises is as in an idle drive.  Joins are of this form. -/
structure Settled (d : Drive) : Prop where
  /-- The address is that of the strobe. -/
  address_eq : d.address = d.addressChange.getD 0
  /-- The configuration is that of the strobe. -/
  config_eq : d.config = d.configChange.getD 0
  /-- The byte is that of the transmit stream. -/
  payload_eq : d.tx.payload = (d.data.map Prod.fst).getD 0
  /-- The toggle is that of the transmit stream. -/
  dataToggle_eq : d.dataToggle = (d.data.map Prod.snd).getD true

/-- **A settled drive is known** by its strobes, the values under them, and its handshakes. -/
theorem Settled.ext {d e : Drive} (hd : d.Settled) (he : e.Settled)
    (address : d.addressChange = e.addressChange) (config : d.configChange = e.configChange)
    (data : d.data = e.data) (first : d.tx.first = e.tx.first) (last : d.tx.last = e.tx.last)
    (handshakes : d.handshakes = e.handshakes) : d = e := by
  apply Drive.ext
  · rw [← isSome_addressChange, address, isSome_addressChange]
  · rw [hd.address_eq, he.address_eq, address]
  · rw [← isSome_configChange, config, isSome_configChange]
  · rw [hd.config_eq, he.config_eq, config]
  · apply TxBeat.ext
    · rw [← isSome_data, data, isSome_data]
    · exact first
    · exact last
    · rw [hd.payload_eq, he.payload_eq, data]
  · rw [hd.dataToggle_eq, he.dataToggle_eq, data]
  · exact handshakes

theorem settled_idle : idle.Settled := ⟨rfl, rfl, rfl, rfl⟩

theorem settled_join : (join a b).Settled where
  address_eq := by rw [addressChange_join]; rfl
  config_eq := by rw [configChange_join]; rfl
  payload_eq := by rw [data_join]; rfl
  dataToggle_eq := by rw [data_join]; rfl

theorem join_assoc : join (join a b) c = join a (join b c) := by
  apply (settled_join _ _).ext (settled_join _ _) <;>
    simp [Option.or_assoc, Bool.or_assoc, HandshakeSet.union_assoc]

theorem idle_join {d : Drive} (h : d.Settled) : join idle d = d := by
  apply (settled_join _ _).ext h <;> simp

/-! ## A list of drives -/

variable (l l' : List Drive)

@[simp] theorem joinAll_nil : joinAll [] = idle := rfl

@[simp] theorem joinAll_cons : joinAll (a :: l) = join a (joinAll l) := rfl

theorem settled_joinAll : (joinAll l).Settled := by
  cases l with
  | nil => exact settled_idle
  | cons a l => exact settled_join a _

/-- **A bus may be cut anywhere**: it joins the buses of its parts. -/
theorem joinAll_append : joinAll (l ++ l') = join (joinAll l) (joinAll l') := by
  induction l with
  | nil => exact (idle_join (settled_joinAll l')).symm
  | cons a l ih => simp [ih, join_assoc]

/-- The first drive that strobes an address sets it. -/
theorem addressChange_joinAll : (joinAll l).addressChange = l.findSome? addressChange := by
  induction l with
  | nil => rfl
  | cons a l ih => cases h : a.addressChange <;> simp [ih, h]

/-- The first drive that strobes a configuration sets it. -/
theorem configChange_joinAll : (joinAll l).configChange = l.findSome? configChange := by
  induction l with
  | nil => rfl
  | cons a l ih => cases h : a.configChange <;> simp [ih, h]

/-- The last drive that has a byte to send sends it. -/
theorem data_joinAll : (joinAll l).data = l.reverse.findSome? data := by
  induction l with
  | nil => rfl
  | cons a l ih => cases h : a.data <;> simp [ih, h, List.findSome?_append]

/-- A line is raised if any drive raises it. -/
theorem mem_handshakes_joinAll {i : Fin 8} :
    i ∈ (joinAll l).handshakes ↔ ∃ d ∈ l, i ∈ d.handshakes := by
  induction l with
  | nil => simp
  | cons a l ih => simp [ih]

variable {a l}

/-- **A bus is refused** exactly if two distinct lines are raised on it, by one drive or by
several, and for no other reason. -/
theorem resolve_eq_error_iff {e : BusError} :
    resolve l = .error e ↔ e = .conflictingHandshakes ∧ ∃ i j : Fin 8,
      i ≠ j ∧ (∃ d ∈ l, i ∈ d.handshakes) ∧ ∃ d ∈ l, j ∈ d.handshakes := by
  have hrefused : resolve l = .error e ↔
      e = .conflictingHandshakes ∧ (joinAll l).handshakes.Conflicting := by
    unfold resolve
    split <;> simp_all [eq_comm]
  rw [hrefused, HandshakeSet.conflicting_iff]
  simp only [mem_handshakes_joinAll]
  grind

theorem resolve_eq_ok_iff :
    resolve l = .ok a ↔ ¬ (joinAll l).handshakes.Conflicting ∧ joinAll l = a := by
  unfold resolve
  split <;> simp_all

end Drive

end ControlEndpoint
