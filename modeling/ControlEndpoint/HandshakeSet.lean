/-!
# Handshake sets

Handshakes pass between the parts of an endpoint on eight lines, one bit of a byte each.  The
three lowest lines carry the handshakes of the bus; the others carry none, and a set keeps them
as they are.

## Main definitions

* `Handshake`: the handshakes of the bus, and their lines
* `HandshakeSet`: the lines that are raised; membership `i ∈ s` is a bit test
* `HandshakeSet.lines`: the raised lines, lowest first
* `HandshakeSet.Conflicting`: more than one line is raised, so that no handshake can be sent
* `HandshakeSet.known`, `HandshakeSet.unknown`: the two parts of a set

## Main results

* `HandshakeSet.conflicting_iff`: a set conflicts exactly when it has two distinct lines
* `HandshakeSet.not_conflicting_iff`: a set does not conflict exactly when one line is all it has
-/

namespace ControlEndpoint

/-- The handshakes of the bus. -/
inductive Handshake where
  /-- The packet was accepted. -/
  | ack
  /-- Not now. -/
  | nak
  /-- The request is not supported. -/
  | stall
deriving DecidableEq, Repr

namespace Handshake

/-- The handshakes, in the order of their lines. -/
def all : List Handshake := [ack, nak, stall]

/-- The line that carries a handshake. -/
def line : Handshake → Fin 8
  | .ack => 0
  | .nak => 1
  | .stall => 2

/-- The bit of that line. -/
def bit : Handshake → UInt8
  | .ack => 1
  | .nak => 2
  | .stall => 4

end Handshake

/-- A set of raised handshake lines. -/
@[ext] structure HandshakeSet where
  /-- One bit for each line. -/
  bits : UInt8 := 0
deriving DecidableEq, Repr, Inhabited

namespace HandshakeSet

/-- Line `i` is raised. -/
instance : Membership (Fin 8) HandshakeSet where
  mem s i := s.bits.toBitVec[i] = true

instance (i : Fin 8) (s : HandshakeSet) : Decidable (i ∈ s) :=
  inferInstanceAs (Decidable (s.bits.toBitVec[i] = true))

instance : EmptyCollection HandshakeSet where
  emptyCollection := { bits := 0 }

instance : Union HandshakeSet where
  union s t := { bits := s.bits ||| t.bits }

instance : Inter HandshakeSet where
  inter s t := { bits := s.bits &&& t.bits }

/-- The lines of `s` without those of `t`. -/
instance : SDiff HandshakeSet where
  sdiff s t := { bits := s.bits &&& ~~~t.bits }

/-- Every line of `s` is one of `t`. -/
instance : HasSubset HandshakeSet where
  Subset s t := s.bits &&& t.bits = s.bits

instance (s t : HandshakeSet) : Decidable (s ⊆ t) :=
  inferInstanceAs (Decidable (s.bits &&& t.bits = s.bits))

/-- The set of one handshake. -/
def single (h : Handshake) : HandshakeSet where
  bits := h.bit

/-- The handshakes of the bus. -/
def all : HandshakeSet where
  bits := 7

/-- The set of one line. -/
instance : Singleton (Fin 8) HandshakeSet where
  singleton i := { bits := 1 <<< UInt8.ofFin (i.castLE (by decide)) }

/-- The lines in exactly one of `s` and `t`. -/
def symmDiff (s t : HandshakeSet) : HandshakeSet where
  bits := s.bits ^^^ t.bits

/-- The raised lines, lowest first. -/
def lines (s : HandshakeSet) : List (Fin 8) := (List.finRange 8).filter (· ∈ s)

/-- More than one line is raised: there is no precedence among handshakes, so none can be sent. -/
def Conflicting (s : HandshakeSet) : Prop := 1 < s.lines.length

instance (s : HandshakeSet) : Decidable s.Conflicting := inferInstanceAs (Decidable (_ < _))

/-- The lines that carry a handshake. -/
def known (s : HandshakeSet) : HandshakeSet := s ∩ all

/-- The lines that carry no handshake. -/
def unknown (s : HandshakeSet) : HandshakeSet := s \ all

/-- The set with these bits, if each of them is that of a handshake. -/
def ofBits? (bits : UInt8) : Option HandshakeSet :=
  if ({ bits } : HandshakeSet) ⊆ all then some { bits } else none

/-- The handshakes that are not in `s`. -/
def complement (s : HandshakeSet) : HandshakeSet := all \ s

/-! ## Membership -/

variable {s t : HandshakeSet} {i j : Fin 8}

theorem mem_def : i ∈ s ↔ s.bits.toBitVec[i] = true := Iff.rfl

theorem ext_mem (h : ∀ i, i ∈ s ↔ i ∈ t) : s = t := by
  refine HandshakeSet.ext (UInt8.eq_of_toBitVec_eq (BitVec.eq_of_getElem_eq fun i hi => ?_))
  exact Bool.eq_iff_iff.2 (h ⟨i, hi⟩)

@[simp] theorem not_mem_empty : i ∉ (∅ : HandshakeSet) := by
  simp [mem_def, EmptyCollection.emptyCollection]

@[simp] theorem mem_union : i ∈ s ∪ t ↔ i ∈ s ∨ i ∈ t := by
  simp [mem_def, Union.union]

@[simp] theorem mem_inter : i ∈ s ∩ t ↔ i ∈ s ∧ i ∈ t := by
  simp [mem_def, Inter.inter]

@[simp] theorem mem_sdiff : i ∈ s \ t ↔ i ∈ s ∧ i ∉ t := by
  simp [mem_def, SDiff.sdiff]

@[simp] theorem mem_single {h : Handshake} : i ∈ single h ↔ i = h.line := by
  revert i
  cases h <;> decide

@[simp] theorem mem_singleton : i ∈ ({j} : HandshakeSet) ↔ i = j := by
  revert i j
  decide

theorem eq_empty_or_eq_singleton_iff : s = ∅ ∨ s = {j} ↔ ∀ i ∈ s, i = j := by
  constructor
  · rintro (rfl | rfl) i hi
    · exact absurd hi not_mem_empty
    · exact mem_singleton.1 hi
  · intro h
    by_cases hj : j ∈ s
    · refine .inr (ext_mem fun i => ⟨fun hi => mem_singleton.2 (h i hi), fun hi => ?_⟩)
      rwa [mem_singleton.1 hi]
    · refine .inl (ext_mem fun i => ⟨fun hi => ?_, fun hi => absurd hi not_mem_empty⟩)
      exact absurd (h i hi ▸ hi) hj

theorem mem_lines : i ∈ s.lines ↔ i ∈ s := by
  simp [lines]

@[simp] theorem empty_union : ∅ ∪ s = s := ext_mem fun i => by simp

@[simp] theorem union_empty : s ∪ ∅ = s := ext_mem fun i => by simp

theorem union_assoc {u : HandshakeSet} : (s ∪ t) ∪ u = s ∪ (t ∪ u) :=
  ext_mem fun i => by simp [or_assoc]

/-- **A set conflicts** exactly when it has two distinct lines. -/
theorem conflicting_iff : s.Conflicting ↔ ∃ i ∈ s, ∃ j ∈ s, i ≠ j := by
  have hd : s.lines.Nodup := (List.nodup_finRange 8).filter _
  constructor
  · intro h
    have h₀ : 0 < s.lines.length := Nat.lt_trans Nat.zero_lt_one h
    refine ⟨s.lines[0], mem_lines.1 (List.getElem_mem h₀), s.lines[1],
      mem_lines.1 (List.getElem_mem h), fun he => ?_⟩
    have := (List.getElem_inj hd).1 he
    omega
  · rintro ⟨i, hi, j, hj, hij⟩
    rw [← mem_lines] at hi hj
    unfold Conflicting
    match hl : s.lines with
    | [] => simp [hl] at hi
    | [k] => simp_all
    | _ :: _ :: _ => simp

theorem not_conflicting_iff : ¬ s.Conflicting ↔ ∃ j, ∀ i ∈ s, i = j := by
  rw [conflicting_iff]
  constructor
  · intro h
    by_cases hs : ∃ j, j ∈ s
    · obtain ⟨j, hj⟩ := hs
      exact ⟨j, fun i hi => Decidable.by_contra fun hij => h ⟨i, hi, j, hj, hij⟩⟩
    · exact ⟨0, fun i hi => absurd ⟨i, hi⟩ hs⟩
  · rintro ⟨k, hk⟩ ⟨i, hi, j, hj, hij⟩
    exact hij ((hk i hi).trans (hk j hj).symm)

/-- A set that conflicts still does so with more lines raised. -/
theorem Conflicting.mono (h : s.Conflicting) (hst : ∀ i, i ∈ s → i ∈ t) : t.Conflicting := by
  obtain ⟨i, hi, j, hj, hij⟩ := conflicting_iff.1 h
  exact conflicting_iff.2 ⟨i, hst i hi, j, hst j hj, hij⟩

end HandshakeSet

end ControlEndpoint
