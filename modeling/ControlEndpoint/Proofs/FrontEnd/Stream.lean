import ControlEndpoint.Proofs.FrontEnd.Progress
import ControlEndpoint.Proofs.FrontEnd.Register

/-!
# Streams of transactions

A host sends SETUP transactions one after the other, each with a data packet of any length, and
leaves the gap after each.  The front end reads from such a stream the packets of eight bytes, and
acknowledges these.  The others are dropped, although they start the timer too.

Nothing passes from one transaction to the next, even if no more than the gap is left.  When a
token comes, the receiver has acknowledged what it accepted, and the timer has shown its pulse; the
count may go on, but it will not show another.

## Main definitions

* `FrontEnd.Transaction`, `FrontEnd.stream`: what the host sends
* `FrontEnd.sendings`: the data packets of a stream, with their ticks
* `FrontEnd.Ready`: no earlier packet has anything left to do

## Main results

* `FrontEnd.Ready.findIdxs_ack_ticks`: the handshake of a transaction
* `FrontEnd.Ready.after_ticks`: the front end is ready for the next
* `FrontEnd.stream_round_trip`: what is received and acknowledged of a stream
-/

namespace ControlEndpoint

namespace FrontEnd

/-! ## What the host sends -/

/-- A tick without packets, after a token with the identifier `pid`. -/
def heldTraffic (pid : UInt8) : Traffic where
  token := .held pid

/-- A transaction that leaves a gap of so many ticks: a SETUP token, ticks without packets, a data
packet on a tick with any token, and the ticks that follow. -/
structure Transaction (gap : Nat) where
  pid : UInt8
  isSetup : pid % 16 = Token.setupPid
  lead : List UInt8
  token : Token
  bytes : List UInt8
  trail : List UInt8
  gap_le : gap ≤ trail.length

variable {gap : Nat}

namespace Transaction

variable (x : Transaction gap)

/-- The ticks up to the data packet. -/
def opening : List Traffic := { token := .detected x.pid } :: x.lead.map heldTraffic

/-- The tick of the data packet. -/
def data : Traffic where
  token := x.token
  data := .ofBytes x.bytes

/-- All ticks of a transaction. -/
def ticks : List Traffic := x.opening ++ x.data :: x.trail.map heldTraffic

end Transaction

/-- One transaction after the other. -/
def stream (xs : List (Transaction gap)) : List Traffic := xs.flatMap Transaction.ticks

/-- The data packets of a stream that begins on tick `n`, each with its tick. -/
def sendings (n : Nat) : List (Transaction gap) → List (Nat × List UInt8)
  | [] => []
  | x :: xs => (n + x.opening.length, x.bytes) :: sendings (n + x.ticks.length) xs

/-- The front end at a speed, with another gap if one is given. -/
def ofSpeedWithDelay (s : Speed) : Option UInt16 → FrontEnd
  | none => ofSpeed s
  | some ticks => (ofSpeed s).modifyTimer (·.setDelay ticks)

/-- The ticks between a packet that is accepted and its handshake. -/
def lateness (s : Speed) (gap : Nat) : Nat := if s = .high then 0 else gap

variable {f : FrontEnd} {s : Speed} {p : SetupReceiver.Phase} {i : Traffic}

/-! ## Ticks without packets -/

theorem dataless_held (ps : List UInt8) : Dataless ((ps.map heldTraffic).map .tick) := by
  intro i hi
  simp only [List.mem_map] at hi
  obtain ⟨j, ⟨pid, -, rfl⟩, hj⟩ := hi
  obtain rfl := Event.tick.inj hj
  rfl

theorem phase_ne_of_idle (h : f.receiver.phase = .idle) : f.receiver.phase ≠ .awaitingGap := by
  rw [h]
  decide

theorem phase_step_held (hphase : f.receiver.phase ≠ .awaitingGap) (pid : UInt8) :
    (f.step (heldTraffic pid)).1.receiver.phase = f.receiver.phase := by
  have hno : ¬ (Token.held pid).OpensSetup := Token.not_opensSetup_held pid
  cases hp : f.receiver.phase with
  | idle => simp [SetupReceiver.nextPhase, hp, heldTraffic, input, hno]
  | awaitingData => simp [SetupReceiver.nextPhase, hp, heldTraffic, input]
  | awaitingGap => exact absurd hp hphase

theorem phase_after_held (hphase : f.receiver.phase ≠ .awaitingGap) (ps : List UInt8) :
    (Clocked.after f (ps.map heldTraffic)).receiver.phase = f.receiver.phase := by
  induction ps generalizing f with
  | nil => rfl
  | cons pid ps ih =>
    have hstep := phase_step_held hphase pid
    rw [List.map_cons, Clocked.after_cons, clocked_step, ih (hstep ▸ hphase), hstep]

/-- Once the gap has passed, the receiver is idle. -/
theorem phase_after_held_of_acksAfter {n : Nat} (h : f.AcksAfter n) {ps : List UInt8}
    (hn : n < ps.length) : (Clocked.after f (ps.map heldTraffic)).receiver.phase = .idle := by
  induction ps generalizing f n with
  | nil => exact absurd hn (Nat.not_lt_zero n)
  | cons pid ps ih =>
    rw [List.map_cons, Clocked.after_cons, clocked_step]
    cases n with
    | zero =>
      -- This tick acknowledges.
      have hack : f.receiver.acks (f.input (heldTraffic pid)) = true := h.acks_iff.2 rfl
      have hidle : (f.step (heldTraffic pid)).1.receiver.phase = .idle := by
        rw [SetupReceiver.acks, h.phase] at hack
        rw [receiver_step, SetupReceiver.phase_step, SetupReceiver.nextPhase, h.phase]
        exact if_pos hack
      rw [phase_after_held (phase_ne_of_idle hidle), hidle]
    | succ n => exact ih (h.step rfl) (Nat.lt_of_succ_lt_succ hn)

theorem count_after_held {t : GapTimer} {n : Nat} (h : f.timer.count = t.countAfter n)
    (ps : List UInt8) :
    (Clocked.after f (ps.map heldTraffic)).timer.count = t.countAfter (n + ps.length) := by
  induction ps generalizing f n with
  | nil => exact h
  | cons pid ps ih =>
    have hstep : (f.step (heldTraffic pid)).1.timer.count = t.countAfter (n + 1) := by
      rw [GapTimer.countAfter_succ, ← h]
      rfl
    rw [List.map_cons, Clocked.after_cons, clocked_step, ih hstep, List.length_cons,
      Nat.add_right_comm, Nat.add_assoc]

theorem marked_after_held {ps : List UInt8} (hps : ps ≠ []) :
    (Clocked.after f (ps.map heldTraffic)).marked = none := by
  rcases List.eq_nil_or_concat ps with rfl | ⟨qs, pid, rfl⟩
  · exact absurd rfl hps
  · rw [List.concat_eq_append, List.map_append, Clocked.after_append]
    show ((Clocked.after f (qs.map heldTraffic)).step (heldTraffic pid)).1.marked = none
    rw [marked_step, if_neg fun h => Bool.false_ne_true h.2.1]

theorem filterMap_accepted_of_dataless {fs : List Event} (hfs : Dataless fs) :
    (trace f fs).filterMap accepted = [] := by
  induction fs generalizing f with
  | nil => rfl
  | cons e fs ih =>
    cases e with
    | adjust a => exact ih hfs.tail
    | tick i =>
      rw [trace_tick, List.filterMap_cons_none (accepted_of_no_data hfs.head), ih hfs.tail]

/-! ## Nothing is left of earlier packets -/

/-- The front end runs at the speed `s` and with the gap of the transactions. -/
structure Configured (s : Speed) (gap : Nat) (f : FrontEnd) : Prop where
  speed_eq : f.receiver.speed = s
  delay_eq : f.timer.delay.toNat = gap
  inWindow : f.timer.GapInWindow

/-- The front end is in the phase `p`, and no earlier packet has anything left to do. -/
structure Ready (s : Speed) (gap : Nat) (p : SetupReceiver.Phase) (f : FrontEnd) : Prop
    extends Configured s gap f where
  phase_eq : f.receiver.phase = p
  spent : f.timer.Spent

theorem Configured.step (h : f.Configured s gap) (i : Traffic) : (f.step i).1.Configured s gap :=
  ⟨h.speed_eq, h.delay_eq, h.inWindow.step i.data.isNew⟩

theorem Configured.after (h : f.Configured s gap) (is : List Traffic) :
    (Clocked.after f is).Configured s gap := by
  induction is generalizing f with
  | nil => exact h
  | cons i is ih => exact ih (h.step i)

theorem Configured.one_le_gap (h : f.Configured s gap) : 1 ≤ gap := h.delay_eq ▸ h.inWindow.one_le

theorem ready_ofSpeedWithDelay (s : Speed) (delay? : Option UInt16) :
    Ready s (ofSpeedWithDelay s delay?).timer.delay.toNat .idle (ofSpeedWithDelay s delay?) := by
  cases delay? with
  | none => exact ⟨⟨rfl, rfl, GapTimer.gapInWindow_leastGap s none⟩, rfl, nofun⟩
  | some ticks => exact ⟨⟨rfl, rfl, GapTimer.gapInWindow_setDelay _ ticks⟩, rfl, nofun⟩

variable {x : Transaction gap}

/-! ## Up to the data packet -/

theorem Ready.step (h : Ready s gap p f) (hi : i.data.isNew = false) :
    Ready s gap (f.step i).1.receiver.phase (f.step i).1 := by
  refine ⟨h.toConfigured.step i, rfl, ?_⟩
  rw [timer_step, hi]
  exact h.spent.step

theorem Ready.after_held (h : Ready s gap p f) (hp : p ≠ .awaitingGap) (ps : List UInt8) :
    Ready s gap p (Clocked.after f (ps.map heldTraffic)) := by
  induction ps generalizing f with
  | nil => exact h
  | cons pid ps ih =>
    have hphase : (f.step (heldTraffic pid)).1.receiver.phase = p := by
      rw [phase_step_held (h.phase_eq ▸ hp) pid, h.phase_eq]
    exact ih (hphase ▸ h.step rfl)

/-- The token opens a transaction, and the ticks after it do not end it. -/
theorem Ready.after_opening (h : Ready s gap .idle f) :
    Ready s gap .awaitingData (Clocked.after f x.opening) := by
  -- The detector keeps the low four bits of the identifier, which are those of SETUP.
  have hopens : (Token.detected x.pid).OpensSetup := Token.opensSetup_detected_iff.2 x.isSetup
  have hphase : (f.step { token := .detected x.pid }).1.receiver.phase = .awaitingData := by
    rw [receiver_step, SetupReceiver.phase_step, SetupReceiver.nextPhase_eq_awaitingData_iff]
    exact .inl ⟨h.phase_eq, hopens⟩
  have htoken := h.step (i := { token := .detected x.pid }) rfl
  rw [hphase] at htoken
  exact htoken.after_held nofun x.lead

theorem dataless_opening (x : Transaction gap) : Dataless (x.opening.map .tick) := by
  intro i hi
  rcases List.mem_cons.1 hi with hi | hi
  · obtain rfl := Event.tick.inj hi
    rfl
  · exact dataless_held x.lead i hi

/-! ## The data packet and the gap after it -/

theorem Ready.accepts_data_iff (h : Ready s gap .awaitingData f) :
    f.Accepts x.data ↔ x.bytes.length = 8 := by
  rw [Accepts, and_iff_right h.phase_eq]
  exact DataPacket.holdsSetup_ofBytes_iff

theorem Ready.acks_data_iff (h : Ready s gap .awaitingData f) :
    f.receiver.acks (f.input x.data) = true ↔ x.bytes.length = 8 ∧ s = .high := by
  rw [SetupReceiver.acks_iff, txAllowed_input, h.spent.txAllowed_eq_false, h.speed_eq]
  have hacc : f.receiver.Accepts (f.input x.data) ↔ x.bytes.length = 8 := h.accepts_data_iff
  simp [hacc]

/-- A packet that is dropped or acknowledged at once leaves nothing to wait for. -/
theorem Ready.phase_step_data (h : Ready s gap .awaitingData f)
    (hx : ¬ (x.bytes.length = 8 ∧ s ≠ .high)) :
    (f.step x.data).1.receiver.phase = .idle := by
  have hno : ¬ (x.data.data.HoldsSetup ∧ f.receiver.acks (f.input x.data) = false) := by
    rintro ⟨hholds, hack⟩
    rw [← Bool.not_eq_true, h.acks_data_iff] at hack
    -- Accepted and not acknowledged at once: a packet of eight bytes below high speed.
    have hlen := DataPacket.holdsSetup_ofBytes_iff.1 hholds
    exact hx ⟨hlen, fun hs => hack ⟨hlen, hs⟩⟩
  rw [receiver_step, SetupReceiver.phase_step, SetupReceiver.nextPhase, h.phase_eq]
  exact (if_pos rfl).trans (if_neg hno)

/-- A packet that is accepted at a speed with a gap waits for the rest of it. -/
theorem Ready.acksAfter_data (h : Ready s gap .awaitingData f) (hlen : x.bytes.length = 8)
    (hs : s ≠ .high) : (f.step x.data).1.AcksAfter (gap - 1) := by
  constructor
  · rw [receiver_step, SetupReceiver.phase_step, SetupReceiver.nextPhase_eq_awaitingGap_iff]
    refine ⟨.inl (h.accepts_data_iff.2 hlen), ?_⟩
    rw [← Bool.not_eq_true, h.acks_data_iff]
    exact fun hack => hs hack.2
  · refine ⟨f.timer.freshCount, rfl, ?_, h.inWindow.le_window⟩
    have hone := h.one_le_gap
    show 1 + (gap - 1) = f.timer.delay.toNat
    rw [h.delay_eq]
    omega

theorem Ready.findIdxs_ack_closing (h : Ready s gap .awaitingData f) (n : Nat) :
    (trace f ((x.data :: x.trail.map heldTraffic).map .tick)).findIdxs (fun k => k.output.ack) n =
      if x.bytes.length = 8 then [n + lateness s gap] else [] := by
  have htrail : Dataless ((x.trail.map heldTraffic).map .tick) := dataless_held x.trail
  rw [List.map_cons, trace_tick, clocked_step, List.findIdxs_cons, output_step,
    SetupReceiver.ack_step]
  by_cases hx : x.bytes.length = 8 ∧ s ≠ .high
  · -- The handshake is one of the ticks that follow, as there are enough of them.
    obtain ⟨hlen, hs⟩ := hx
    have hno : f.receiver.acks (f.input x.data) ≠ true := fun hack =>
      hs (h.acks_data_iff.1 hack).2
    have hone := h.one_le_gap
    have hgap := x.gap_le
    rw [if_neg hno, findIdxs_ack_of_acksAfter htrail (h.acksAfter_data hlen hs),
      length_trace_map_tick, List.length_map, if_pos (by omega), if_pos hlen, lateness, if_neg hs]
    congr 1
    omega
  · have hphase := phase_ne_of_idle (h.phase_step_data hx)
    rw [findIdxs_ack_of_phase_ne htrail hphase]
    by_cases hlen : x.bytes.length = 8
    · have hs : s = .high := Decidable.by_contra fun hs => hx ⟨hlen, hs⟩
      rw [if_pos (h.acks_data_iff.2 ⟨hlen, hs⟩), if_pos hlen, lateness, if_pos hs, Nat.add_zero]
    · rw [if_neg fun hack => hlen (h.acks_data_iff.1 hack).1, if_neg hlen]

/-- After the gap nothing is left of the transaction. -/
theorem Ready.after_closing (h : Ready s gap .awaitingData f) :
    Ready s gap .idle (Clocked.after f (x.data :: x.trail.map heldTraffic)) := by
  refine ⟨h.toConfigured.after _, ?_, ?_⟩
  · rw [Clocked.after_cons, clocked_step]
    by_cases hx : x.bytes.length = 8 ∧ s ≠ .high
    · have hone := h.one_le_gap
      have hgap := x.gap_le
      exact phase_after_held_of_acksAfter (h.acksAfter_data hx.1 hx.2) (by omega)
    · have hphase := h.phase_step_data hx
      rw [phase_after_held (phase_ne_of_idle hphase), hphase]
  · -- The count has gone on for longer than the gap, or has stopped.
    have hcount : (f.step x.data).1.timer.count = f.timer.countAfter 1 := by
      rw [GapTimer.countAfter_one]
      rfl
    have hgap := x.gap_le
    exact GapTimer.spent_of_countAfter (count_after_held hcount x.trail) (by rw [h.delay_eq]; omega)

/-! ## Whole transactions -/

/-- **The handshake of a transaction.** -/
theorem Ready.findIdxs_ack_ticks (h : Ready s gap .idle f) (x : Transaction gap) (n : Nat) :
    (trace f (x.ticks.map .tick)).findIdxs (fun k => k.output.ack) n =
      if x.bytes.length = 8 then [n + x.opening.length + lateness s gap] else [] := by
  have hphase := phase_ne_of_idle h.phase_eq
  rw [Transaction.ticks, trace_map_tick_append, List.findIdxs_append,
    findIdxs_ack_of_phase_ne (dataless_opening x) hphase, List.nil_append, length_trace_map_tick,
    h.after_opening.findIdxs_ack_closing]

theorem Ready.filterMap_accepted_ticks (h : Ready s gap .idle f) (x : Transaction gap) :
    (trace f (x.ticks.map .tick)).filterMap accepted =
      if x.bytes.length = 8 then [(DataPacket.ofBytes x.bytes).payload] else [] := by
  rw [Transaction.ticks, trace_map_tick_append, List.filterMap_append,
    filterMap_accepted_of_dataless (dataless_opening x), List.nil_append, List.map_cons, trace_tick,
    List.filterMap_cons, filterMap_accepted_of_dataless (dataless_held x.trail)]
  have hacc : (Clocked.after f x.opening).Accepts x.data ↔ x.bytes.length = 8 :=
    h.after_opening.accepts_data_iff
  by_cases hlen : x.bytes.length = 8
  · simp [accepted, hacc, hlen]
    rfl
  · simp [accepted, hacc, hlen]

/-- **The front end is ready for the next transaction.** -/
theorem Ready.after_ticks (h : Ready s gap .idle f) (x : Transaction gap) :
    Ready s gap .idle (Clocked.after f x.ticks) := by
  rw [Transaction.ticks, Clocked.after_append]
  exact h.after_opening.after_closing

theorem Ready.marked_after_ticks (h : Ready s gap .idle f) (x : Transaction gap) :
    (Clocked.after f x.ticks).marked = none := by
  have htrail : x.trail ≠ [] := by
    have hone := h.one_le_gap
    have hgap := x.gap_le
    exact List.ne_nil_of_length_pos (by omega)
  rw [Transaction.ticks, Clocked.after_append, Clocked.after_cons]
  exact marked_after_held htrail

/-! ## Streams -/

theorem Ready.findIdxs_ack_stream (h : Ready s gap .idle f) (xs : List (Transaction gap))
    (n : Nat) :
    (trace f ((stream xs).map .tick)).findIdxs (fun k => k.output.ack) n =
      ((sendings n xs).filter fun d => d.2.length = 8).map fun d => d.1 + lateness s gap := by
  induction xs generalizing f n with
  | nil => rfl
  | cons x xs ih =>
    rw [stream, List.flatMap_cons, trace_map_tick_append, List.findIdxs_append,
      h.findIdxs_ack_ticks, length_trace_map_tick, ← stream, ih (h.after_ticks x), sendings]
    by_cases hlen : x.bytes.length = 8 <;> simp [hlen]

theorem Ready.filterMap_accepted_stream (h : Ready s gap .idle f) (xs : List (Transaction gap)) :
    (trace f ((stream xs).map .tick)).filterMap accepted =
      ((xs.map (·.bytes)).filter (·.length = 8)).map fun d => (DataPacket.ofBytes d).payload := by
  induction xs generalizing f with
  | nil => rfl
  | cons x xs ih =>
    rw [stream, List.flatMap_cons, trace_map_tick_append, List.filterMap_append,
      h.filterMap_accepted_ticks, ← stream, ih (h.after_ticks x)]
    by_cases hlen : x.bytes.length = 8 <;> simp [hlen]

theorem Ready.marked_after_stream (h : Ready s gap .idle f) (hf : f.marked = none)
    (xs : List (Transaction gap)) : (Clocked.after f (stream xs)).marked = none := by
  induction xs generalizing f with
  | nil => exact hf
  | cons x xs ih =>
    rw [stream, List.flatMap_cons, Clocked.after_append]
    exact ih (h.after_ticks x) (h.marked_after_ticks x)

/-- **Streams make the round trip.**  A front end at any speed, and with any gap that it was given,
reads a stream of transactions that leave that gap.  The packets that it shows as received are the
packets of eight bytes, in order.  The handshakes are one for each of these, on the tick of the
packet at high speed, and as many ticks later as the gap has at the other speeds.  In the end the
register holds the last of these packets. -/
theorem stream_round_trip (s : Speed) (delay? : Option UInt16)
    (xs : List (Transaction (ofSpeedWithDelay s delay?).timer.delay.toNat)) :
    let f := ofSpeedWithDelay s delay?
    let tr := trace f ((stream xs).map .tick)
    (tr.filterMap received).map Vector.toList = (xs.map (·.bytes)).filter (·.length = 8) ∧
      tr.findIdxs (fun k => k.output.ack) =
        ((sendings 0 xs).filter fun d => d.2.length = 8).map
          (fun d => d.1 + if s = .high then 0 else f.timer.delay.toNat) ∧
      (stateAfter f ((stream xs).map .tick)).receiver.packet =
        ((xs.map (·.bytes)).filter (·.length = 8)).getLast?.elim {}
          fun d => (DataPacket.ofBytes d).setup := by
  intro f tr
  have hready : Ready s f.timer.delay.toNat .idle f := ready_ofSpeedWithDelay s delay?
  have hpacket : f.receiver.packet = {} := by cases delay? <;> rfl
  have hunmarked : f.marked = none := by
    rw [marked, hpacket]
    rfl
  have haccepted := hready.filterMap_accepted_stream xs
  -- The stream ends with ticks without data, so that no packet is still to be shown.
  have hend : (stateAfter f ((stream xs).map .tick)).marked = none := by
    rw [stateAfter_map_tick]
    exact hready.marked_after_stream hunmarked xs
  refine ⟨?_, hready.findIdxs_ack_stream xs 0, ?_⟩
  · have hreceived := received_append_marked f ((stream xs).map .tick)
    rw [hend, hunmarked, Option.toList_none, List.append_nil, List.nil_append, haccepted]
      at hreceived
    have hbytes : ∀ d ∈ (xs.map (·.bytes)).filter (·.length = 8),
        (DataPacket.ofBytes d).payload.toList = d := by
      intro d hd
      exact DataPacket.toList_payload_ofBytes (of_decide_eq_true (List.mem_filter.1 hd).2)
    rw [hreceived, List.map_map]
    exact (List.map_congr_left hbytes).trans (List.map_id _)
  · have hlast := packet_stateAfter f ((stream xs).map .tick)
    rw [haccepted, List.getLast?_map, hpacket, unmarked_packet hend] at hlast
    rw [hlast]
    cases ((xs.map (·.bytes)).filter (·.length = 8)).getLast? <;> rfl

/-- No more than the gap is left, and two packets are dropped, one too short and one too long: their
counts are running when the next token comes. -/
theorem stream_round_trip_dropped :
    let x (bytes : List UInt8) : Transaction 2 :=
      { pid := 0xFD, isSetup := rfl, lead := [], token := {}, bytes, trail := [0, 1],
        gap_le := Nat.le_refl 2 }
    let setAddress : List UInt8 := [0x00, 5, 42, 0, 0, 0, 0, 0]
    let getDescriptor : List UInt8 := [0x80, 6, 0, 1, 0, 0, 64, 0]
    let xs := [x setAddress, x [7], x (getDescriptor ++ [7]), x getDescriptor]
    let f := ofSpeedWithDelay .full (some 2)
    let tr := trace f ((stream xs).map .tick)
    (tr.filterMap received).map Vector.toList = [setAddress, getDescriptor] ∧
      tr.findIdxs (fun k => k.output.ack) = [3, 15] ∧
      (stateAfter f ((stream xs).map .tick)).receiver.packet =
        { isIn := true, request := 6, value := 256, length := 64 } := by
  intro x setAddress getDescriptor xs f tr
  obtain ⟨hreceived, hacks, hpacket⟩ := stream_round_trip .full (some 2) xs
  exact ⟨hreceived.trans (by decide), hacks.trans (by decide), hpacket.trans (by decide)⟩

end FrontEnd

end ControlEndpoint
