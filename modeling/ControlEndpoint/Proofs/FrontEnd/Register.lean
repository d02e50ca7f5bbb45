import ControlEndpoint.Proofs.FrontEnd.Timing

/-!
# The register of the front end

A packet that the front end accepts is in its register from the next tick on, and is marked as
received on that tick alone.  On all other ticks the register is as it was, without the mark.  So
the packets that are shown with a mark are the packets that were accepted, each once and in order,
one tick late: what is still marked after a history is what its last tick accepted.

The gap and the handshakes have no part in this.

## Main definitions

* `FrontEnd.Accepts`: the tick brings a SETUP packet that the receiver awaits
* `FrontEnd.accepted`, `FrontEnd.received`: the bytes that a tick accepts, and those it shows with
  a mark
* `FrontEnd.marked`: the bytes that the register holds with a mark

## Main results

* `FrontEnd.setup_succ`: the register from tick to tick
* `FrontEnd.setup_of_isLatest`: the register between two marks
* `FrontEnd.received_append_marked`: packets are shown as they were accepted
* `FrontEnd.packet_stateAfter`: the register holds the packet accepted last
-/

namespace ControlEndpoint

namespace FrontEnd

/-- The tick brings the SETUP packet that the receiver awaits. -/
def Accepts (f : FrontEnd) (i : Traffic) : Prop :=
  f.receiver.phase = .awaitingData ∧ i.data.HoldsSetup

instance (f : FrontEnd) (i : Traffic) : Decidable (f.Accepts i) :=
  inferInstanceAs (Decidable (_ ∧ _))

/-- The bytes of the packet that a tick accepts. -/
def accepted (k : Tick) : Option (Vector UInt8 8) :=
  if k.before.Accepts k.input then some k.input.data.payload else none

/-- The bytes of a packet with a mark. -/
def markedBytes (p : SetupPacket) : Option (Vector UInt8 8) :=
  if p.received then some p.toBytes else none

/-- The bytes of the packet that a tick shows as just received. -/
def received (k : Tick) : Option (Vector UInt8 8) := markedBytes k.output.setup

/-- The bytes of the packet that the next tick will show as just received. -/
def marked (f : FrontEnd) : Option (Vector UInt8 8) := markedBytes f.receiver.packet

variable {f : FrontEnd} {i : Traffic}

/-! ## One tick -/

theorem packet_step (f : FrontEnd) (i : Traffic) :
    (f.step i).1.receiver.packet =
      if f.Accepts i then { i.data.setup with received := true }
      else { f.receiver.packet with received := false } := rfl

theorem packet_adjust (f : FrontEnd) (a : Adjustment) :
    (Adjustable.adjust f a).receiver.packet = f.receiver.packet := by
  cases a <;> rfl

theorem marked_step (f : FrontEnd) (i : Traffic) :
    (f.step i).1.marked = if f.Accepts i then some i.data.payload else none := by
  rw [marked, packet_step]
  split
  · exact congrArg some (SetupPacket.toBytes_ofBytes i.data.payload)
  · rfl

theorem unmarked_packet (h : f.marked = none) :
    { f.receiver.packet with received := false } = f.receiver.packet := by
  cases hp : f.receiver.packet.received with
  | false => rw [← hp]
  | true => simp [marked, markedBytes, hp] at h

theorem accepted_of_no_data {k : Tick} (h : k.input.data.isNew = false) : accepted k = none :=
  if_neg fun ha => Bool.false_ne_true (h.symm.trans ha.2.1)

/-! ## From tick to tick -/

variable {s : Speed} {es : List Event} {t : Nat} {k k' : Tick}

theorem setup_eq_packet (hk : (trace f es)[t]? = some k) :
    k.output.setup = k.before.receiver.packet := by
  rw [output_of_getElem?_trace hk]
  rfl

/-- At first the register is empty. -/
theorem setup_zero (hk : (trace (ofSpeed s) es)[0]? = some k) : k.output.setup = {} :=
  (setup_eq_packet hk).trans <|
    before_of_getElem?_trace_zero (g := fun f : FrontEnd => f.receiver.packet) packet_adjust hk

/-- **The register from tick to tick**: it takes the packet that a tick accepts, with a mark, and
otherwise loses its mark and nothing else. -/
theorem setup_succ (hk : (trace f es)[t]? = some k) (hk' : (trace f es)[t + 1]? = some k') :
    k'.output.setup =
      if k.before.Accepts k.input then { k.input.data.setup with received := true }
      else { k.output.setup with received := false } := by
  rw [setup_eq_packet hk, setup_eq_packet hk', ← packet_step]
  exact before_of_getElem?_trace_succ (g := fun f : FrontEnd => f.receiver.packet) packet_adjust
    hk hk'

/-- A packet is shown with a mark. -/
abbrev ShowsReceived (k : Tick) : Prop := k.output.setup.received = true

/-- **Between two marks** the register shows the packet that was marked last. -/
theorem setup_of_isLatest {r : Nat} {j : Tick}
    (hlatest : IsLatest ShowsReceived (trace f es) r (t + 1) j) (hk : (trace f es)[t]? = some k) :
    { k.output.setup with received := false } = { j.output.setup with received := false } := by
  induction t generalizing k with
  | zero =>
    have hr : r = 0 := Nat.lt_one_iff.1 hlatest.lt
    subst hr
    rw [Option.some.inj (hk.symm.trans hlatest.get)]
  | succ t ih =>
    rcases Nat.lt_or_eq_of_le (Nat.le_of_lt_succ hlatest.lt) with hlt | rfl
    · -- No mark is shown on this tick, so the register is as it was on the tick before.
      obtain ⟨k₀, hk₀⟩ := exists_getElem?_of_succ hk
      have hquiet : ¬ ShowsReceived k := hlatest.quiet (t + 1) k hlt (Nat.lt_succ_self _) hk
      have hnext := setup_succ hk₀ hk
      by_cases hacc : k₀.before.Accepts k₀.input
      · rw [if_pos hacc] at hnext
        exact absurd (congrArg SetupPacket.received hnext) hquiet
      · rw [if_neg hacc] at hnext
        have hlatest₀ : IsLatest ShowsReceived (trace f es) r (t + 1) j :=
          ⟨hlt, hlatest.get, hlatest.holds,
            fun m b hm hmt => hlatest.quiet m b hm (Nat.lt_succ_of_lt hmt)⟩
        rw [hnext]
        exact ih hlatest₀ hk₀
    · rw [Option.some.inj (hk.symm.trans hlatest.get)]

/-- **Packets are shown as they were accepted**, in order, and the last of them is still marked if
no tick came after it. -/
theorem received_append_marked (f : FrontEnd) (es : List Event) :
    (trace f es).filterMap received ++ (marked (stateAfter f es)).toList =
      (marked f).toList ++ (trace f es).filterMap accepted := by
  refine filterMap_append_pending ?_ ?_ f es
  · intro f a
    rw [marked, packet_adjust, marked]
  · intro k hk
    constructor
    · rw [received, hk]
      rfl
    · exact marked_step k.before k.input

/-- **The register** holds the packet accepted last, or what it held at first. -/
theorem packet_stateAfter (f : FrontEnd) (es : List Event) :
    { (stateAfter f es).receiver.packet with received := false } =
      ((trace f es).filterMap accepted).getLast?.elim
        { f.receiver.packet with received := false } SetupPacket.ofBytes := by
  induction es generalizing f with
  | nil => rfl
  | cons e es ih =>
    cases e with
    | adjust a =>
      rw [stateAfter_cons, afterEvent, ih, packet_adjust, trace_adjust]
    | tick i =>
      rw [stateAfter_cons, afterEvent, clocked_step, ih, packet_step, trace_tick, clocked_step]
      by_cases ha : f.Accepts i
      · have hacc : accepted ⟨f, i, (f.step i).2⟩ = some i.data.payload := if_pos ha
        rw [if_pos ha, List.filterMap_cons_some hacc, List.getLast?_cons]
        cases ((trace (f.step i).1 es).filterMap accepted).getLast? <;> rfl
      · have hacc : accepted ⟨f, i, (f.step i).2⟩ = none := if_neg ha
        rw [if_neg ha, List.filterMap_cons_none hacc]

end FrontEnd

end ControlEndpoint
