import ControlEndpoint.FrontEnd
import ControlEndpoint.Proofs.GapTimer
import ControlEndpoint.Proofs.SetupReceiver

/-!
# When the front end acknowledges

The timer of a front end is started by every data packet and by nothing else.  So it tells the
receiver that the gap has passed on one tick only: as many ticks after the latest data packet as
the gap was long when that packet came, whatever was adjusted since.

The pulse says nothing about which packet it belongs to.  A packet that is accepted on the very
tick on which the count of an older packet ends is acknowledged at once; every other packet has
its own gap left, or that of a data packet that came after it.

## Main definitions

* `FrontEnd.GapEndsAt`: the gap after the latest data packet ends on a tick
* `FrontEnd.AckFor`: the packet accepted on one tick is acknowledged on another

## Main results

* `FrontEnd.ack_iff_of_history`: the ticks of the handshakes
* `FrontEnd.gap_left_before_ack`: the gap that is left before the handshake
-/

namespace ControlEndpoint

namespace FrontEnd

/-- What happens to a front end. -/
abbrev Event := ControlEndpoint.Event Adjustment Traffic

/-- One tick of a front end. -/
abbrev Tick := ControlEndpoint.Tick FrontEnd Traffic SetupReceiver.Output

@[simp] theorem clocked_step (f : FrontEnd) (i : Traffic) : Clocked.step f i = f.step i := rfl

/-- A tick that brings a SETUP token. -/
def tokenTick : Event := .tick { token := .detected Token.setupPid }

/-- A tick that brings a data packet. -/
def dataTick (bytes : List UInt8) : Event := .tick { data := .ofBytes bytes }

/-- A tick without packets. -/
def idleTick : Event := .tick {}

/-- The bytes of a SETUP packet, all zero. -/
def zeros : List UInt8 := List.replicate 8 0

/-! ## The timer of a front end -/

/-- An adjustment of a front end, as its timer sees it. -/
def Adjustment.toTimer : Adjustment → GapTimer.Adjustment
  | .speed s => .speed s
  | .delay ticks => .delay ticks
  | .timerSpeed s => .speed s

/-- The timer reads of the traffic whether a data packet arrives. -/
def startsTimer (i : Traffic) : Bool := i.data.isNew

/-- The timer is a part of the front end that is started by every data packet. -/
theorem isPart_timer : IsPart FrontEnd.timer Adjustment.toTimer startsTimer where
  adjust f a := by cases a <;> rfl
  step _ _ := rfl

/-- A data packet arrives on this tick. -/
abbrev BringsData (k : Tick) : Prop := k.input.data.isNew = true

/-- The gap after the latest data packet before tick `t` ends on tick `t`: it is as long as the
timer had it when that packet came. -/
def GapEndsAt (tr : List Tick) (t : Nat) : Prop :=
  ∃ i k, IsLatest BringsData tr i t k ∧ t - i = k.before.timer.delay.toNat

theorem GapEndsAt.iff_of_isLatest {tr : List Tick} {i t : Nat} {k : Tick}
    (h : IsLatest BringsData tr i t k) :
    GapEndsAt tr t ↔ t - i = k.before.timer.delay.toNat := by
  constructor
  · rintro ⟨i', k', h', ht⟩
    obtain ⟨rfl, rfl⟩ := h.unique h'
    exact ht
  · exact fun ht => ⟨i, k, h, ht⟩

/-- **The receiver is told** that the gap has passed on the tick on which the gap after the latest
data packet ends. -/
theorem txAllowed_before_iff {s : Speed} {es : List Event} {t : Nat} {k : Tick}
    (hk : (trace (ofSpeed s) es)[t]? = some k) :
    k.before.timer.signals.txAllowed = true ↔ GapEndsAt (trace (ofSpeed s) es) t := by
  obtain ⟨fs, gs, rfl, rfl, hbefore, -⟩ := exists_cut_of_getElem?_trace hk
  -- The history before the tick, as the timer sees it.
  have htimer := isPart_timer.stateAfter_map (ofSpeed s) fs
  have htrace := isPart_timer.trace_map (ofSpeed s) fs
  have h := GapTimer.txAllowed_stateAfter_iff
    (fs.map (ControlEndpoint.Event.map Adjustment.toTimer startsTimer)) s
  rw [show GapTimer.ofSpeed s = (ofSpeed s).timer from rfl, htimer, htrace, ← hbefore,
    List.length_map] at h
  simp only [isLatest_map_iff] at h
  rw [h, GapEndsAt]
  simp only [isLatest_trace_iff]
  constructor
  · rintro ⟨i, -, ⟨j, hj, rfl⟩, hi⟩
    exact ⟨i, j, hj, hi⟩
  · rintro ⟨i, j, hj, hi⟩
    exact ⟨i, _, ⟨j, hj, rfl⟩, hi⟩

/-- The gap of the timer lies within its window at the beginning of every tick. -/
theorem gapInWindow_before {s : Speed} {es : List Event} {t : Nat} {k : Tick}
    (hk : (trace (ofSpeed s) es)[t]? = some k) : k.before.timer.GapInWindow :=
  before_induction (I := fun f : FrontEnd => f.timer.GapInWindow)
    (fun f a _ => isPart_timer.adjust f a ▸ GapTimer.GapInWindow.adjust a.toTimer)
    (fun _ i h => h.step i.data.isNew) (GapTimer.gapInWindow_leastGap s none) hk

/-! ## The ticks of the handshakes -/

variable {s : Speed} {es : List Event} {t : Nat} {k k' : Tick}

theorem ack_eq_acks (hk : (trace (ofSpeed s) es)[t]? = some k) :
    k.output.ack = k.before.receiver.acks (k.before.input k.input) := by
  rw [output_of_getElem?_trace hk]
  rfl

/-- The handshake is asked for on the tick on which the gap after the latest data packet ends, if
there is a packet to acknowledge by then; at high speed no gap is waited for. -/
theorem ack_iff (hk : (trace (ofSpeed s) es)[t]? = some k) :
    k.output.ack = true ↔
      k.before.receiver.Accepts (k.before.input k.input) ∧
          (k.before.receiver.speed = .high ∨ GapEndsAt (trace (ofSpeed s) es) t) ∨
        k.before.receiver.phase = .awaitingGap ∧ GapEndsAt (trace (ofSpeed s) es) t := by
  rw [ack_eq_acks hk, SetupReceiver.acks_iff, txAllowed_input, txAllowed_before_iff hk]

/-- **The ticks of the handshakes.**  A tick asks for a handshake exactly if it brings a SETUP
packet that the receiver awaits, at high speed or on the end of the gap after an earlier data
packet, or if the receiver awaits the end of the gap and it is there.  That end lies as many ticks
after the latest data packet as the gap was long in the state before that packet: the rest `gs` of
the history, with the adjustments in it, does not move it. -/
theorem ack_iff_of_history (s : Speed) (es : List Event) :
    (∀ t k, (trace (ofSpeed s) es)[t]? = some k →
      (k.output.ack = true ↔
        k.before.receiver.phase = .awaitingData ∧ k.input.data.HoldsSetup ∧
            (k.before.receiver.speed = .high ∨
              ∃ i j, IsLatest BringsData (trace (ofSpeed s) es) i t j ∧
                t - i = j.before.timer.delay.toNat) ∨
          k.before.receiver.phase = .awaitingGap ∧
            ∃ i j, IsLatest BringsData (trace (ofSpeed s) es) i t j ∧
              t - i = j.before.timer.delay.toNat)) ∧
      ∀ fs i gs, es = fs ++ .tick i :: gs → i.data.isNew = true →
        ∀ t, (trace (ofSpeed s) fs).length < t →
          (∀ m k, (trace (ofSpeed s) fs).length < m → m < t →
            (trace (ofSpeed s) es)[m]? = some k → ¬ BringsData k) →
          (GapEndsAt (trace (ofSpeed s) es) t ↔
            t - (trace (ofSpeed s) fs).length =
              (stateAfter (ofSpeed s) fs).timer.delay.toNat) := by
  constructor
  · -- The receiver reads the token and the data of the tick as they come.
    intro t k hk
    rw [ack_iff hk, SetupReceiver.Accepts, toTraffic_input, and_assoc]
    rfl
  · rintro fs i gs rfl hi t hlt hquiet
    -- The tick of the packet `i` is the latest that brings data.
    have hget : (trace (ofSpeed s) (fs ++ .tick i :: gs))[(trace (ofSpeed s) fs).length]? =
        some ⟨stateAfter (ofSpeed s) fs, i, ((stateAfter (ofSpeed s) fs).step i).2⟩ := by
      simp [trace_append]
    exact GapEndsAt.iff_of_isLatest ⟨hlt, hget, hi, hquiet⟩

/-- The gap of two ticks that a packet found is not moved by a later adjustment. -/
theorem ack_iff_of_history_readjusted :
    let es := [.adjust (.delay 2), tokenTick, dataTick zeros, .adjust (.delay 30), idleTick,
      idleTick]
    (∃ k, (trace (ofSpeed .full) es)[3]? = some k ∧ k.output.ack = true) ∧
      (GapEndsAt (trace (ofSpeed .full) es) 3 ↔ 3 - 1 = 2) := by
  intro es
  obtain ⟨hack, hend⟩ := ack_iff_of_history .full es
  constructor
  · have hlatest : IsLatest BringsData (trace (ofSpeed .full) es) 1 3
        ((trace (ofSpeed .full) es).get ⟨1, by decide⟩) := by decide
    exact ⟨_, rfl, (hack 3 _ rfl).2 (.inr ⟨by decide, 1, _, hlatest, by decide⟩)⟩
  · refine hend [.adjust (.delay 2), tokenTick] _ _ rfl (by decide) 3 (by decide) ?_
    intro m k hm hmt hk
    obtain rfl : m = 2 := Nat.le_antisymm (Nat.le_of_lt_succ hmt) hm
    obtain rfl := Option.some.inj hk
    decide

/-! ## The gap before the handshake -/

theorem phase_succ (hk : (trace (ofSpeed s) es)[t]? = some k)
    (hk' : (trace (ofSpeed s) es)[t + 1]? = some k') :
    k'.before.receiver.phase = k.before.receiver.nextPhase (k.before.input k.input) :=
  before_of_getElem?_trace_succ (g := fun f : FrontEnd => f.receiver.phase)
    (fun _ a => by cases a <;> rfl) hk hk'

/-- A packet that is accepted and not acknowledged is awaited until it is. -/
theorem phase_eq_awaitingGap_of_no_ack {T : Nat} (hk : (trace (ofSpeed s) es)[T]? = some k)
    (ha : k.before.receiver.Accepts (k.before.input k.input))
    (hquiet : ∀ m b, T ≤ m → m < t → (trace (ofSpeed s) es)[m]? = some b → ¬ b.output.ack = true)
    (hlt : T < t) (hk' : (trace (ofSpeed s) es)[t]? = some k') :
    k'.before.receiver.phase = .awaitingGap := by
  -- By induction on `t`: the tick before brought the packet, or was already one of waiting.
  induction t generalizing k' with
  | zero => exact absurd hlt (Nat.not_lt_zero T)
  | succ t ih =>
    have hquiet' : ∀ m b, T ≤ m → m < t → (trace (ofSpeed s) es)[m]? = some b →
        ¬ b.output.ack = true := fun m b hm hmt => hquiet m b hm (Nat.lt_succ_of_lt hmt)
    obtain ⟨b, hb⟩ := exists_getElem?_of_succ hk'
    have hno : b.before.receiver.acks (b.before.input b.input) = false := by
      rw [← ack_eq_acks hb, ← Bool.not_eq_true]
      exact hquiet t b (Nat.le_of_lt_succ hlt) (Nat.lt_succ_self t) hb
    rw [phase_succ hb hk', SetupReceiver.nextPhase_eq_awaitingGap_iff]
    rcases Nat.lt_or_eq_of_le (Nat.le_of_lt_succ hlt) with hlt | rfl
    · exact ⟨.inr (ih hquiet' hlt hb), hno⟩
    · obtain rfl := Option.some.inj (hk.symm.trans hb)
      exact ⟨.inl ha, hno⟩

/-- The packet accepted on tick `T`, at a speed that has a gap to wait for, is acknowledged on
tick `t`: the first tick from `T` on that asks for the handshake. -/
structure AckFor (s : Speed) (es : List Event) (T t : Nat) (k k' : Tick) : Prop where
  get : (trace (ofSpeed s) es)[T]? = some k
  accepts : k.before.receiver.Accepts (k.before.input k.input)
  slow : k.before.receiver.speed ≠ .high
  first : IsFirst (fun k : Tick => k.output.ack = true) (trace (ofSpeed s) es) T t k'

instance {T : Nat} : Decidable (AckFor s es T t k k') :=
  decidable_of_iff
    ((trace (ofSpeed s) es)[T]? = some k ∧ k.before.receiver.Accepts (k.before.input k.input) ∧
      k.before.receiver.speed ≠ .high ∧
        IsFirst (fun k : Tick => k.output.ack = true) (trace (ofSpeed s) es) T t k')
    ⟨fun ⟨hk, ha, hs, hf⟩ => ⟨hk, ha, hs, hf⟩, fun ⟨hk, ha, hs, hf⟩ => ⟨hk, ha, hs, hf⟩⟩

/-- **The gap is not always left.**  The end of the gap after an older packet, which was no SETUP
packet, acknowledges the SETUP packet on the tick that brings it; and a later packet that finds a
shorter gap brings the handshake forward. -/
theorem exists_ackFor_before_gap :
    (∃ k k', AckFor .full [.adjust (.delay 2), dataTick [], tokenTick, dataTick zeros] 2 2 k k' ∧
        2 - 2 < k.before.timer.delay.toNat) ∧
      ∃ k k', AckFor .full [tokenTick, dataTick zeros, .adjust (.delay 1), dataTick [], idleTick]
          1 3 k k' ∧ 3 - 1 < k.before.timer.delay.toNat := by
  constructor
  · let tr := trace (ofSpeed .full) [.adjust (.delay 2), dataTick [], tokenTick, dataTick zeros]
    exact ⟨tr.get ⟨2, by decide⟩, tr.get ⟨2, by decide⟩, by decide, by decide⟩
  · let tr := trace (ofSpeed .full)
      [tokenTick, dataTick zeros, .adjust (.delay 1), dataTick [], idleTick]
    exact ⟨tr.get ⟨1, by decide⟩, tr.get ⟨3, by decide⟩, by decide, by decide⟩

/-- **The gap before the handshake.**  The handshake comes on the end of the gap after the latest
data packet `i` before it.  Unless it comes at once, with the end of the gap after an older packet,
that packet is the SETUP packet or one that came after it.  So the gap that the timer had for the
SETUP packet is left, or else a packet came after it that found a gap with an earlier end. -/
theorem gap_left_before_ack {T : Nat} (h : AckFor s es T t k k') :
    1 ≤ k.before.timer.delay.toNat ∧
      ∃ i j, IsLatest BringsData (trace (ofSpeed s) es) i t j ∧
        t - i = j.before.timer.delay.toNat ∧
        (t = T ∨ T ≤ i ∧
          (k.before.timer.delay.toNat ≤ t - T ∨
            T < i ∧ i - T + j.before.timer.delay.toNat < k.before.timer.delay.toNat)) := by
  refine ⟨(gapInWindow_before h.get).one_le, ?_⟩
  rcases Nat.eq_or_lt_of_le h.first.le with rfl | hlt
  · -- The packet is acknowledged on the tick that brings it.
    obtain rfl := Option.some.inj (h.get.symm.trans h.first.get)
    rcases (ack_iff h.get).1 h.first.holds with ⟨-, hhigh | hend⟩ | ⟨hgap, -⟩
    · exact absurd hhigh h.slow
    · obtain ⟨i, j, hi, hend⟩ := hend
      exact ⟨i, j, hi, hend, .inl rfl⟩
    · exact absurd h.accepts (SetupReceiver.not_accepts_of_awaitingGap hgap)
  · -- The receiver awaits the gap from then on.
    have hgap := phase_eq_awaitingGap_of_no_ack h.get h.accepts h.first.quiet hlt h.first.get
    rcases (ack_iff h.first.get).1 h.first.holds with ⟨hacc, -⟩ | ⟨-, i, j, hi, hend⟩
    · exact absurd hacc (SetupReceiver.not_accepts_of_awaitingGap hgap)
    have hTi : T ≤ i := hi.le_of_holds h.get h.accepts.2.1 hlt
    refine ⟨i, j, hi, hend, .inr ⟨hTi, ?_⟩⟩
    rcases Nat.lt_or_eq_of_le hTi with hTi | rfl
    · -- A later packet has started the count again, and its gap ends earlier or it does not.
      have hit := hi.lt
      omega
    · obtain rfl := Option.some.inj (h.get.symm.trans hi.get)
      exact .inl (Nat.le_of_eq hend.symm)

/-- A gap of three ticks is left although an older count is still running. -/
theorem gap_left_before_ack_running :
    let es := [.adjust (.delay 3), dataTick [], tokenTick, dataTick zeros, idleTick, idleTick,
      idleTick]
    ∃ k k', AckFor .full es 2 5 k k' ∧ 1 ≤ k.before.timer.delay.toNat ∧
      ∃ i j, IsLatest BringsData (trace (ofSpeed .full) es) i 5 j ∧
        5 - i = j.before.timer.delay.toNat ∧
        (5 = 2 ∨ 2 ≤ i ∧
          (k.before.timer.delay.toNat ≤ 5 - 2 ∨
            2 < i ∧ i - 2 + j.before.timer.delay.toNat < k.before.timer.delay.toNat)) := by
  intro es
  let tr := trace (ofSpeed .full) es
  have hack : AckFor .full es 2 5 (tr.get ⟨2, by decide⟩) (tr.get ⟨5, by decide⟩) := by decide
  exact ⟨_, _, hack, gap_left_before_ack hack⟩

end FrontEnd

end ControlEndpoint
