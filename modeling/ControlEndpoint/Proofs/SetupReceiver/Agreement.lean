import ControlEndpoint.Proofs.SetupReceiver

/-!
# Receivers that differ in their timing

The speed of the link and the end of the gap decide when a packet is acknowledged.  They do not
decide which packets are decoded: two receivers that see the same traffic hold the same register at
all times, whatever the speed of each and whatever each is told of its gap.

One may be idle while the other still awaits its gap, for any number of ticks.  That makes no
difference until a SETUP token arrives, which an idle receiver follows and a waiting one does not
see.  So the two agree as long as no SETUP token arrives in a gap.

## Main definitions

* `SetupReceiver.Agrees r q`: the same register, and both await data or neither does
* `SetupReceiver.QuietGaps`: no SETUP token arrives in a gap

## Main results

* `SetupReceiver.Agrees.step`: a tick with the same traffic keeps two receivers in agreement
* `SetupReceiver.decoded_eq_of_traffic_eq`: two receivers decode the same packets
-/

namespace ControlEndpoint

namespace SetupReceiver

/-- Two receivers hold the same register, and both await data or neither does. -/
structure Agrees (r q : SetupReceiver) : Prop where
  packet : r.packet = q.packet
  awaits : r.phase = .awaitingData ↔ q.phase = .awaitingData

variable {r q : SetupReceiver} {i j : Input}

/-! ## One tick -/

/-- Where no SETUP token arrives in a gap, whether data is awaited depends on whether it was awaited
before, and on the traffic. -/
theorem nextPhase_eq_awaitingData_iff_of_quiet
    (hquiet : r.phase = .awaitingGap → ¬ i.token.OpensSetup) :
    r.nextPhase i = .awaitingData ↔
      r.phase ≠ .awaitingData ∧ i.token.OpensSetup ∨
        r.phase = .awaitingData ∧ i.data.isNew = false ∧ i.token.isNew = false := by
  rw [nextPhase_eq_awaitingData_iff]
  cases hp : r.phase with
  | idle => simp
  | awaitingData => simp
  | awaitingGap => simp [hquiet hp]

theorem Agrees.accepts_iff (h : Agrees r q) (hij : i.toTraffic = j.toTraffic) :
    r.Accepts i ↔ q.Accepts j := by
  rw [Accepts, Accepts, h.awaits, hij]

theorem Agrees.nextPacket_eq (h : Agrees r q) (hij : i.toTraffic = j.toTraffic) :
    r.nextPacket i = q.nextPacket j := by
  by_cases hacc : r.Accepts i
  · rw [nextPacket, nextPacket, if_pos hacc, if_pos ((h.accepts_iff hij).1 hacc), hij]
  · rw [nextPacket, nextPacket, if_neg hacc, if_neg (mt (h.accepts_iff hij).2 hacc), h.packet]

/-- **A tick with the same traffic** keeps two receivers in agreement. -/
theorem Agrees.step (h : Agrees r q) (hij : i.toTraffic = j.toTraffic)
    (hr : r.phase = .awaitingGap → ¬ i.token.OpensSetup)
    (hq : q.phase = .awaitingGap → ¬ j.token.OpensSetup) : Agrees (r.step i).1 (q.step j).1 where
  packet := h.nextPacket_eq hij
  awaits := by
    rw [phase_step, phase_step, nextPhase_eq_awaitingData_iff_of_quiet hr,
      nextPhase_eq_awaitingData_iff_of_quiet hq, h.awaits, hij, ne_eq, ne_eq, h.awaits]

/-! ## Two runs -/

/-- No SETUP token arrives on a tick that begins in a gap. -/
def QuietGaps (tr : List Tick) : Prop :=
  ∀ k ∈ tr, k.before.phase = .awaitingGap → ¬ k.input.token.OpensSetup

instance (tr : List Tick) : Decidable (QuietGaps tr) :=
  inferInstanceAs (Decidable (∀ k ∈ tr, _ → _))

/-- What a tick tells of the packets: the register that is shown, whether the timer is started, and
the register after the tick. -/
def decoded (k : Tick) : SetupPacket × Bool × SetupPacket :=
  (k.output.setup, k.output.timerStart, (k.before.step k.input).1.packet)

variable {s₁ s₂ : Speed} {es₁ es₂ : List Event} {t : Nat} {k₁ k₂ : Tick}

theorem traffic_eq_of_getElem?
    (htraffic : (inputs es₁).map (·.toTraffic) = (inputs es₂).map (·.toTraffic))
    (hk₁ : (trace (ofSpeed s₁) es₁)[t]? = some k₁) (hk₂ : (trace (ofSpeed s₂) es₂)[t]? = some k₂) :
    k₁.input.toTraffic = k₂.input.toTraffic := by
  have h : ((inputs es₁).map (·.toTraffic))[t]? = ((inputs es₂).map (·.toTraffic))[t]? := by
    rw [htraffic]
  rw [← map_input_trace (ofSpeed s₁), ← map_input_trace (ofSpeed s₂)] at h
  simpa [hk₁, hk₂] using h

/-- Two receivers with the same traffic and quiet gaps agree at the beginning of every tick. -/
theorem agrees_before
    (htraffic : (inputs es₁).map (·.toTraffic) = (inputs es₂).map (·.toTraffic))
    (hquiet₁ : QuietGaps (trace (ofSpeed s₁) es₁)) (hquiet₂ : QuietGaps (trace (ofSpeed s₂) es₂))
    (hk₁ : (trace (ofSpeed s₁) es₁)[t]? = some k₁) (hk₂ : (trace (ofSpeed s₂) es₂)[t]? = some k₂) :
    Agrees k₁.before k₂.before := by
  -- By induction on the ticks, whatever adjustments lie between them.
  induction t generalizing k₁ k₂ with
  | zero =>
    obtain ⟨hphase₁, hpacket₁⟩ := before_zero hk₁
    obtain ⟨hphase₂, hpacket₂⟩ := before_zero hk₂
    exact ⟨by rw [hpacket₁, hpacket₂], by rw [hphase₁, hphase₂]⟩
  | succ t ih =>
    obtain ⟨j₁, hj₁⟩ := exists_getElem?_of_succ hk₁
    obtain ⟨j₂, hj₂⟩ := exists_getElem?_of_succ hk₂
    obtain ⟨hpacket, hawaits⟩ := (ih hj₁ hj₂).step (traffic_eq_of_getElem? htraffic hj₁ hj₂)
      (hquiet₁ j₁ (List.mem_of_getElem? hj₁)) (hquiet₂ j₂ (List.mem_of_getElem? hj₂))
    obtain ⟨hphase₁, hpacket₁⟩ := before_succ hj₁ hk₁
    obtain ⟨hphase₂, hpacket₂⟩ := before_succ hj₂ hk₂
    exact ⟨hpacket₁.trans (hpacket.trans hpacket₂.symm), by rw [hphase₁, hphase₂]; exact hawaits⟩

/-- **Timing does not decide what is decoded**: two receivers that see the same traffic, each at its
own speeds and told of its own gaps, show the same register on every tick, start their timers on the
same ticks, and hold the same register after every tick, if no SETUP token arrives in a gap of
either. -/
theorem decoded_eq_of_traffic_eq (s₁ s₂ : Speed) {es₁ es₂ : List Event}
    (htraffic : (inputs es₁).map (·.toTraffic) = (inputs es₂).map (·.toTraffic))
    (hquiet₁ : QuietGaps (trace (ofSpeed s₁) es₁))
    (hquiet₂ : QuietGaps (trace (ofSpeed s₂) es₂)) :
    (trace (ofSpeed s₁) es₁).map decoded = (trace (ofSpeed s₂) es₂).map decoded := by
  have hlen : (trace (ofSpeed s₁) es₁).length = (trace (ofSpeed s₂) es₂).length := by
    have h := congrArg List.length htraffic
    rw [← map_input_trace (ofSpeed s₁), ← map_input_trace (ofSpeed s₂)] at h
    simpa using h
  refine List.ext_getElem (by simpa using hlen) fun t h₁ h₂ => ?_
  rw [List.getElem_map, List.getElem_map]
  have hk₁ : (trace (ofSpeed s₁) es₁)[t]? = some _ := List.getElem?_eq_getElem (by simpa using h₁)
  have hk₂ : (trace (ofSpeed s₂) es₂)[t]? = some _ := List.getElem?_eq_getElem (by simpa using h₂)
  have hagrees := agrees_before htraffic hquiet₁ hquiet₂ hk₁ hk₂
  have hij := traffic_eq_of_getElem? htraffic hk₁ hk₂
  rw [decoded, decoded, output_of_getElem?_trace hk₁, output_of_getElem?_trace hk₂]
  simp only [clocked_step, setup_step, timerStart_step, packet_step]
  rw [hagrees.packet, hagrees.nextPacket_eq hij, hij]

/-- At high speed both packets are acknowledged at once.  At full speed the first waits for its gap,
and the second is acknowledged at high speed after all. -/
theorem decoded_eq_of_traffic_eq_high_full :
    let tokenTick : Event := .tick { token := .detected Token.setupPid }
    let dataTick : Event := .tick { data := .ofBytes (List.replicate 8 1) }
    let es₁ := [tokenTick, dataTick, .tick { token := .detected 1 }, tokenTick, dataTick, .tick {}]
    let es₂ := [tokenTick, dataTick, .tick { token := .detected 1, txAllowed := true }, tokenTick,
      .adjust .high, dataTick, .tick {}]
    (inputs es₁).map (·.toTraffic) = (inputs es₂).map (·.toTraffic) ∧
      QuietGaps (trace (ofSpeed .high) es₁) ∧ QuietGaps (trace (ofSpeed .full) es₂) ∧
        (trace (ofSpeed .high) es₁).map decoded = (trace (ofSpeed .full) es₂).map decoded := by
  intro tokenTick dataTick es₁ es₂
  have htraffic : (inputs es₁).map (·.toTraffic) = (inputs es₂).map (·.toTraffic) := by decide
  have hquiet₁ : QuietGaps (trace (ofSpeed .high) es₁) := by decide
  have hquiet₂ : QuietGaps (trace (ofSpeed .full) es₂) := by decide
  exact ⟨htraffic, hquiet₁, hquiet₂, decoded_eq_of_traffic_eq .high .full htraffic hquiet₁ hquiet₂⟩

-- A token in a gap is followed by one receiver and not by the other.
example :
    let tokenTick : Event := .tick { token := .detected Token.setupPid }
    let dataTick : Event := .tick { data := .ofBytes (List.replicate 8 1) }
    let es := [tokenTick, dataTick, tokenTick, dataTick]
    (trace (ofSpeed .high) es).map decoded ≠ (trace (ofSpeed .full) es).map decoded := by
  decide

end SetupReceiver

end ControlEndpoint
