import ControlEndpoint.Proofs.SetupReceiver

/-!
# The grammar of SETUP transactions

A transaction can be read off the whole list of ticks, with no machine that goes through them one
by one: skip to the token, skip to the next packet, accept it if it holds a SETUP packet, skip to
the end of the gap, and begin again.  The receiver does what such a reader finds.

The two differ in when they know something.  The reader sees all ticks at once and skips over
them; the receiver moves at every tick, and its register shows a packet one tick late.

## Main definitions

* `SetupReceiver.readings`: the ticks of a history, each with the speed that holds then
* `SetupReceiver.Marks`: the packets that are accepted and the handshakes, with their ticks
* `SetupReceiver.awaitToken`, `SetupReceiver.awaitData`, `SetupReceiver.awaitGap`: the reader
* `SetupReceiver.Marks.output`: what has to be shown on a tick

## Main results

* `SetupReceiver.marks_trace`: the receiver accepts and acknowledges what the reader finds
* `SetupReceiver.packet_stateAfter`: the register holds the latest packet accepted
* `SetupReceiver.outputs_eq_grammar`: so its outputs are those that the reader finds
-/

namespace ControlEndpoint

namespace SetupReceiver

/-- What the receiver reads on a tick, and the speed that holds then. -/
structure Reading extends Input where
  speed : Speed

/-- The ticks of a history that begins at a speed. -/
def readings : Speed → List Event → List Reading
  | _, [] => []
  | _, .adjust s :: es => readings s es
  | s, .tick i :: es => { toInput := i, speed := s } :: readings s es

/-- The accepted packets and the handshakes of a list of ticks, in order. -/
@[ext] structure Marks where
  /-- The ticks that bring a SETUP packet that is accepted, with its bytes. -/
  accepts : List (Nat × Vector UInt8 8) := []
  /-- The ticks of the handshakes. -/
  acks : List Nat := []

namespace Marks

/-- A packet with the bytes `b` is accepted on tick `t`, before all else. -/
def accept (t : Nat) (b : Vector UInt8 8) (m : Marks) : Marks :=
  { m with accepts := (t, b) :: m.accepts }

/-- There is a handshake on tick `t`, before all others. -/
def ack (t : Nat) (m : Marks) : Marks := { m with acks := t :: m.acks }

end Marks

/-! ## The reader -/

theorem length_lt_of_dropWhile_eq_cons {α : Type} {p : α → Bool} {l r : List α} {a : α}
    (h : l.dropWhile p = a :: r) : r.length < l.length := by
  have hle := (List.dropWhile_sublist p (l := l)).length_le
  rw [h, List.length_cons] at hle
  exact hle

mutual

/-- Skips the ticks up to and including the first that opens a transaction. -/
def awaitToken (l : List (Reading × Nat)) : Marks :=
  match _h : l.dropWhile fun x => ¬ x.1.token.OpensSetup with
  | [] => {}
  | _ :: rest => awaitData rest
termination_by l.length
decreasing_by exact length_lt_of_dropWhile_eq_cons (by assumption)

/-- Skips the ticks without packets.  The next tick closes the transaction: a SETUP packet is
accepted, and anything else drops the transaction. -/
def awaitData (l : List (Reading × Nat)) : Marks :=
  match _h : l.dropWhile fun x => ¬ x.1.token.isNew ∧ ¬ x.1.data.isNew with
  | [] => {}
  | (x, t) :: rest =>
    if x.data.HoldsSetup then
      if x.txAllowed ∨ x.speed = .high then
        ((awaitToken rest).ack t).accept t x.data.payload
      else (awaitGap rest).accept t x.data.payload
    else awaitToken rest
termination_by l.length
decreasing_by all_goals exact length_lt_of_dropWhile_eq_cons (by assumption)

/-- Skips the ticks up to the one on which the gap has passed, whatever they bring. -/
def awaitGap (l : List (Reading × Nat)) : Marks :=
  match _h : l.dropWhile fun x => ¬ x.1.txAllowed with
  | [] => {}
  | (_, t) :: rest => (awaitToken rest).ack t
termination_by l.length
decreasing_by exact length_lt_of_dropWhile_eq_cons (by assumption)

end

/-- The marks of a list of ticks. -/
def transactions (l : List Reading) : Marks := awaitToken l.zipIdx

/-! ## The reader, tick by tick -/

theorem awaitToken_eq (l : List (Reading × Nat)) :
    awaitToken l =
      match l.dropWhile fun x => ¬ x.1.token.OpensSetup with
      | [] => {}
      | _ :: rest => awaitData rest := by
  rw [awaitToken]
  split
  next h => rw [h]
  next h => rw [h]

theorem awaitData_eq (l : List (Reading × Nat)) :
    awaitData l =
      match l.dropWhile fun x => ¬ x.1.token.isNew ∧ ¬ x.1.data.isNew with
      | [] => {}
      | (x, t) :: rest =>
        if x.data.HoldsSetup then
          if x.txAllowed ∨ x.speed = .high then
            ((awaitToken rest).ack t).accept t x.data.payload
          else (awaitGap rest).accept t x.data.payload
        else awaitToken rest := by
  rw [awaitData]
  split
  next h => rw [h]
  next h => rw [h]

theorem awaitGap_eq (l : List (Reading × Nat)) :
    awaitGap l =
      match l.dropWhile fun x => ¬ x.1.txAllowed with
      | [] => {}
      | (_, t) :: rest => (awaitToken rest).ack t := by
  rw [awaitGap]
  split
  next h => rw [h]
  next h => rw [h]

section Cons

variable (x : Reading) (t : Nat) (l : List (Reading × Nat))

@[simp] theorem awaitToken_nil : awaitToken [] = {} := awaitToken_eq []

@[simp] theorem awaitData_nil : awaitData [] = {} := awaitData_eq []

@[simp] theorem awaitGap_nil : awaitGap [] = {} := awaitGap_eq []

theorem awaitToken_cons :
    awaitToken ((x, t) :: l) = if x.token.OpensSetup then awaitData l else awaitToken l := by
  rw [awaitToken_eq, awaitToken_eq l, List.dropWhile_cons]
  by_cases h : x.token.OpensSetup <;> simp [h]

theorem awaitData_cons :
    awaitData ((x, t) :: l) =
      if ¬ x.token.isNew ∧ ¬ x.data.isNew then awaitData l
      else if x.data.HoldsSetup then
        if x.txAllowed ∨ x.speed = .high then
          ((awaitToken l).ack t).accept t x.data.payload
        else (awaitGap l).accept t x.data.payload
      else awaitToken l := by
  rw [awaitData_eq, awaitData_eq l, List.dropWhile_cons]
  by_cases h : ¬ x.token.isNew ∧ ¬ x.data.isNew
  · rw [if_pos (decide_eq_true h), if_pos h]
  · rw [if_neg (by simpa using h), if_neg h]

theorem awaitGap_cons :
    awaitGap ((x, t) :: l) = if x.txAllowed then (awaitToken l).ack t else awaitGap l := by
  rw [awaitGap_eq, awaitGap_eq l, List.dropWhile_cons]
  cases h : x.txAllowed <;> simp

end Cons

/-! ## The receiver follows the reader -/

/-- The marks of the ticks of a receiver, the first of which has number `n`. -/
def marks (n : Nat) (tr : List Tick) : Marks where
  accepts := (tr.zipIdx n).filterMap fun (k, t) =>
    if k.before.Accepts k.input then some (t, k.input.data.payload) else none
  acks := (tr.zipIdx n).filterMap fun (k, t) => if k.output.ack then some t else none

/-- What the reader finds from a tick on whose phase is known. -/
def resume : Phase → List (Reading × Nat) → Marks
  | .idle => awaitToken
  | .awaitingData => awaitData
  | .awaitingGap => awaitGap

theorem resume_nil (p : Phase) : resume p [] = {} := by cases p <;> simp [resume]

theorem marks_cons (n : Nat) (k : Tick) (tr : List Tick) :
    marks n (k :: tr) =
      let m := if k.output.ack then (marks (n + 1) tr).ack n else marks (n + 1) tr
      if k.before.Accepts k.input then m.accept n k.input.data.payload else m := by
  by_cases ha : k.before.Accepts k.input <;> cases hk : k.output.ack <;>
    simp [marks, ha, hk, Marks.ack, Marks.accept]

/-- One tick of the receiver takes the reader one tick further. -/
theorem resume_cons (r : SetupReceiver) (i : Input) (n : Nat) (l : List (Reading × Nat)) :
    resume r.phase (({ toInput := i, speed := r.speed }, n) :: l) =
      let m := resume (r.nextPhase i) l
      let m := if r.acks i then m.ack n else m
      if r.Accepts i then m.accept n i.data.payload else m := by
  cases hp : r.phase with
  | idle =>
    rw [resume, awaitToken_cons]
    by_cases ho : i.token.OpensSetup <;> simp [nextPhase, acks, Accepts, hp, ho, resume]
  | awaitingData =>
    rw [resume, awaitData_cons]
    by_cases hh : i.data.HoldsSetup
    · -- The packet is accepted, with or without a gap to wait for.
      have hd : i.data.isNew = true := hh.1
      by_cases hg : i.txAllowed = true ∨ r.speed = .high
      · have hack : r.acks i = true := acks_iff.2 (.inl ⟨⟨hp, hh⟩, hg.symm⟩)
        simp [nextPhase, Accepts, hp, hh, hd, hg, hack, resume]
      · have hack : r.acks i = false := by
          simpa [acks, hp, hh] using hg
        simp [nextPhase, Accepts, hp, hh, hd, hg, hack, resume]
    · -- The transaction is dropped, unless nothing arrives.
      cases hd : i.data.isNew <;> cases ht : i.token.isNew <;>
        simp [nextPhase, acks, Accepts, hp, hh, hd, ht, resume]
  | awaitingGap =>
    rw [resume, awaitGap_cons]
    cases ha : i.txAllowed <;> simp [nextPhase, acks, Accepts, hp, ha, resume]

/-- **The receiver does what the reader finds**, from any state and with any numbering of the
ticks. -/
theorem marks_trace (r : SetupReceiver) (es : List Event) (n : Nat) :
    marks n (trace r es) = resume r.phase ((readings r.speed es).zipIdx n) := by
  -- The next tick finds the receiver in another phase, and has the next number.
  induction es generalizing r n with
  | nil => rw [readings, List.zipIdx_nil, resume_nil]; rfl
  | cons e es ih =>
    cases e with
    | adjust s => exact ih (r.setSpeed s) n
    | tick i =>
      have hrest := ih (r.step i).1 (n + 1)
      rw [speed_step, phase_step] at hrest
      rw [readings, List.zipIdx_cons, resume_cons, ← hrest, trace_tick, marks_cons]
      rfl

/-! ## The register -/

/-- The packet that was accepted last. -/
def lastPacket (l : List (Nat × Vector UInt8 8)) : SetupPacket :=
  (l.getLast?.map fun x => SetupPacket.ofBytes x.2).getD {}

/-- What the register has to show on tick `t`: the packet that was accepted last before, which is
marked as received if that was on the tick before. -/
def Marks.setup (m : Marks) (t : Nat) : SetupPacket :=
  { lastPacket (m.accepts.filter (·.1 < t)) with received := m.accepts.any (·.1 + 1 == t) }

/-- What has to be shown on tick `t`, which brings `x`. -/
def Marks.output (m : Marks) (t : Nat) (x : Reading) : Output where
  setup := m.setup t
  ack := decide (t ∈ m.acks)
  timerStart := x.data.isNew

theorem mem_acks_marks_iff {tr : List Tick} {t : Nat} :
    t ∈ (marks 0 tr).acks ↔ ∃ k, tr[t]? = some k ∧ k.output.ack = true := by
  simp only [marks, List.mem_filterMap]
  constructor
  · rintro ⟨⟨k, u⟩, hk, h⟩
    by_cases ha : k.output.ack
    · rw [if_pos ha, Option.some.injEq] at h
      exact ⟨k, h ▸ List.mk_mem_zipIdx_iff_getElem?.1 hk, ha⟩
    · exact nomatch (if_neg ha).symm.trans h
  · rintro ⟨k, hk, ha⟩
    exact ⟨(k, t), List.mk_mem_zipIdx_iff_getElem?.2 hk, if_pos ha⟩

theorem bounds_of_mem_accepts {n : Nat} {tr : List Tick} {x : Nat × Vector UInt8 8}
    (hx : x ∈ (marks n tr).accepts) : n ≤ x.1 ∧ x.1 < n + tr.length := by
  obtain ⟨⟨k, t⟩, hk, h⟩ := List.mem_filterMap.1 hx
  dsimp only at h
  by_cases ha : k.before.Accepts k.input
  · rw [if_pos ha, Option.some.injEq] at h
    obtain ⟨hle, hlt, -⟩ := List.mem_zipIdx hk
    rw [← h]
    exact ⟨hle, hlt⟩
  · exact nomatch (if_neg ha).symm.trans h

theorem accepts_append (tr tr' : List Tick) :
    (marks 0 (tr ++ tr')).accepts = (marks 0 tr).accepts ++ (marks tr.length tr').accepts := by
  simp [marks, List.zipIdx_append]

/-- The register shows what was accepted before, not what comes later. -/
theorem setup_append (tr tr' : List Tick) :
    (marks 0 (tr ++ tr')).setup tr.length = (marks 0 tr).setup tr.length := by
  -- Neither the filter nor the mark looks at ticks from `tr.length` on.
  have hfilter : (marks tr.length tr').accepts.filter (·.1 < tr.length) = [] := by
    refine List.filter_eq_nil_iff.2 fun x hx => ?_
    have hle := (bounds_of_mem_accepts hx).1
    simpa using hle
  have hany : (marks tr.length tr').accepts.any (·.1 + 1 == tr.length) = false := by
    refine List.any_eq_false.2 fun x hx => ?_
    have hle := (bounds_of_mem_accepts hx).1
    simp only [beq_iff_eq]
    omega
  rw [Marks.setup, accepts_append, List.filter_append, hfilter, List.append_nil, List.any_append,
    hany, Bool.or_false]
  rfl

/-- One more tick moves the register by its own packet. -/
theorem setup_concat (tr : List Tick) (k : Tick) :
    (marks 0 (tr ++ [k])).setup (tr.length + 1) =
      if k.before.Accepts k.input then { k.input.data.setup with received := true }
      else { (marks 0 tr).setup tr.length with received := false } := by
  -- What was accepted before stays in the register, and is no longer new.
  have hbefore (x : Nat × Vector UInt8 8) (hx : x ∈ (marks 0 tr).accepts) : x.1 < tr.length :=
    Nat.zero_add tr.length ▸ (bounds_of_mem_accepts hx).2
  have hfilter : (marks 0 tr).accepts.filter (·.1 < tr.length) = (marks 0 tr).accepts :=
    List.filter_eq_self.2 fun x hx => decide_eq_true (hbefore x hx)
  have hfilter' : (marks 0 tr).accepts.filter (·.1 < tr.length + 1) = (marks 0 tr).accepts :=
    List.filter_eq_self.2 fun x hx => decide_eq_true (Nat.lt_succ_of_lt (hbefore x hx))
  have hany : (marks 0 tr).accepts.any (·.1 + 1 == tr.length + 1) = false := by
    refine List.any_eq_false.2 fun x hx => ?_
    have hlt := hbefore x hx
    simp only [beq_iff_eq]
    omega
  rw [Marks.setup, accepts_append, List.filter_append, hfilter', List.any_append, hany,
    Bool.false_or, Marks.setup, hfilter]
  by_cases ha : k.before.Accepts k.input
  · simp [marks, ha, lastPacket, DataPacket.setup]
  · simp [marks, ha]

/-- **The register** holds the packet that was accepted last. -/
theorem packet_stateAfter (s : Speed) (es : List Event) :
    (stateAfter (ofSpeed s) es).packet =
      (marks 0 (trace (ofSpeed s) es)).setup (trace (ofSpeed s) es).length := by
  -- By induction on the history from its end: the last tick alone moves the register.
  induction es using List.reverseRecOn with
  | nil => rfl
  | append_singleton es e ih =>
    rw [stateAfter_append, trace_append]
    cases e with
    | adjust s' => simpa [afterEvent] using ih
    | tick i =>
      rw [trace_tick, trace_nil, List.length_append, List.length_singleton, setup_concat, ← ih]
      rfl

/-! ## The outputs -/

theorem readings_eq_map (r : SetupReceiver) (es : List Event) :
    readings r.speed es =
      (trace r es).map fun k => { toInput := k.input, speed := k.before.speed } := by
  induction es generalizing r with
  | nil => rfl
  | cons e es ih =>
    cases e with
    | adjust s => exact ih (r.setSpeed s)
    | tick i => exact congrArg _ (ih (r.step i).1)

theorem output_eq_marks_output {s : Speed} {es : List Event} {t : Nat} {k : Tick}
    (hk : (trace (ofSpeed s) es)[t]? = some k) :
    k.output =
      (marks 0 (trace (ofSpeed s) es)).output t { toInput := k.input, speed := k.before.speed } := by
  have hout := output_of_getElem?_trace hk
  have hsetup : k.output.setup = (marks 0 (trace (ofSpeed s) es)).setup t := by
    -- The register is read before the tick moves it.
    obtain ⟨fs, gs, rfl, rfl, hbefore, -⟩ := exists_cut_of_getElem?_trace hk
    rw [hout, clocked_step, setup_step, hbefore, packet_stateAfter, trace_append, setup_append]
  have hack : k.output.ack = decide (t ∈ (marks 0 (trace (ofSpeed s) es)).acks) := by
    rw [Bool.eq_iff_iff, decide_eq_true_iff, mem_acks_marks_iff]
    constructor
    · exact fun h => ⟨k, hk, h⟩
    · rintro ⟨k', hk', h⟩
      exact Option.some.inj (hk'.symm.trans hk) ▸ h
  have hstart : k.output.timerStart = k.input.data.isNew := by rw [hout]; rfl
  calc k.output = ⟨k.output.setup, k.output.ack, k.output.timerStart⟩ := rfl
    _ = _ := by rw [hsetup, hack, hstart]; rfl

/-- **The grammar of SETUP transactions**: on every tick of every history the receiver shows what
the reader of the whole list of ticks finds.  There is a handshake where the reader ends a
transaction, and the register shows the packet accepted last, which is marked as received on the
tick after. -/
theorem outputs_eq_grammar (s : Speed) (es : List Event) :
    (trace (ofSpeed s) es).map (fun k => k.output) =
      (readings s es).mapIdx fun t x => (transactions (readings s es)).output t x := by
  have hmarks : transactions (readings s es) = marks 0 (trace (ofSpeed s) es) :=
    (marks_trace (ofSpeed s) es 0).symm
  -- The readings are those of the trace, so that both sides run over the same ticks.
  rw [hmarks, show readings s es = _ from readings_eq_map (ofSpeed s) es]
  refine List.ext_getElem? fun t => ?_
  rw [List.getElem?_mapIdx, List.getElem?_map, List.getElem?_map, Option.map_map]
  cases hk : (trace (ofSpeed s) es)[t]? with
  | none => rfl
  | some k => exact congrArg some (output_eq_marks_output hk)

-- A token on the tick of the data is passed over, and so is one while the gap is awaited.
example :
    (transactions (readings .full [.tick { token := .detected Token.setupPid },
      .tick { token := .detected 1, data := .ofBytes (List.replicate 8 0) }, .adjust .high,
      .tick { token := .detected Token.setupPid }, .tick { txAllowed := true }])).acks = [3] := by
  cbv

end SetupReceiver

end ControlEndpoint
