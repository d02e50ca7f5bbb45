import ControlEndpoint.Proofs.SetupReceiver

/-!
# Conservation of SETUP packets

Every packet that a receiver accepts leads to one handshake and to one mark in the register, and
nothing else leads to either.  Both may come later than the packet: the handshake as long as the
gap is awaited, and the mark by the one tick that the register is late.  So two ledgers balance
after every history: what was accepted is what was acknowledged or awaits the gap, and it is also
what was shown as received or is marked in the register.

From the first ledger, read before a given tick, the handshakes and the packets alternate.

## Main results

* `SetupReceiver.countP_acks_add`, `SetupReceiver.countP_received_add`: the two ledgers
* `SetupReceiver.countP_take_acks_add`: the first ledger, before a given tick
* `SetupReceiver.acks_paired_with_accepts`: all of it
-/

namespace ControlEndpoint

namespace SetupReceiver

/-- The packet of the tick is accepted. -/
def accepts (k : Tick) : Bool := decide (k.before.Accepts k.input)

theorem accepts_eq_true_iff {k : Tick} : accepts k = true ↔ k.before.Accepts k.input :=
  decide_eq_true_iff

/-- The tick asks for the handshake. -/
def acknowledges (k : Tick) : Bool := k.output.ack

/-- The register is shown as just received. -/
def showsReceived (k : Tick) : Bool := k.output.setup.received

/-- The number of handshakes that are still owed: one while the gap is awaited. -/
def owed (r : SetupReceiver) : Nat := if r.phase = .awaitingGap then 1 else 0

/-- The number of marks that are still to be shown. -/
def marked (r : SetupReceiver) : Nat := if r.packet.received then 1 else 0

/-! ## The ledgers -/

variable {r : SetupReceiver} {i : Input}

/-- Where a packet is accepted, no handshake is owed for an earlier one. -/
theorem owed_eq_zero_of_accepts (h : r.Accepts i) : owed r = 0 :=
  if_neg fun hp => not_accepts_of_awaitingGap hp h

/-- A tick acknowledges what was owed or what it accepts, or goes on owing it. -/
theorem acks_add_owed_step (r : SetupReceiver) (i : Input) :
    (if r.acks i then 1 else 0) + owed (r.step i).1 =
      (if decide (r.Accepts i) then 1 else 0) + owed r := by
  have hnext := nextPhase_eq_awaitingGap_iff (r := r) (i := i)
  by_cases hacc : r.Accepts i
  · rw [owed_eq_zero_of_accepts hacc]
    cases hack : r.acks i <;> simp [owed, hnext, hacc, hack]
  · by_cases hphase : r.phase = .awaitingGap
    · cases hack : r.acks i <;> simp [owed, hnext, hacc, hphase, hack]
    · have hack : r.acks i = false := acks_eq_false hacc hphase
      simp [owed, hnext, hacc, hphase, hack]

/-- **The ledger of the handshakes**: what was accepted was acknowledged or is owed. -/
theorem countP_acks_add (s : Speed) (es : List Event) :
    (trace (ofSpeed s) es).countP acknowledges + owed (stateAfter (ofSpeed s) es) =
      (trace (ofSpeed s) es).countP accepts := by
  refine countP_add_pending (fun _ _ => rfl) ?_ (ofSpeed s) es
  intro k hk
  rw [acknowledges, hk]
  exact acks_add_owed_step k.before k.input

/-- **The ledger of the marks**: what was accepted was shown or is marked. -/
theorem countP_received_add (s : Speed) (es : List Event) :
    (trace (ofSpeed s) es).countP showsReceived + marked (stateAfter (ofSpeed s) es) =
      (trace (ofSpeed s) es).countP accepts := by
  refine countP_add_pending (fun _ _ => rfl) ?_ (ofSpeed s) es
  intro k hk
  rw [showsReceived, hk]
  -- The mark that is shown is the old one, and the new one is that of the packet of this tick.
  show (if k.before.packet.received then 1 else 0) +
      (if (k.before.nextPacket k.input).received then 1 else 0) =
    (if decide (k.before.Accepts k.input) then 1 else 0) +
      if k.before.packet.received then 1 else 0
  rw [received_nextPacket, Nat.add_comm]

/-! ## Packets and handshakes alternate -/

variable {s : Speed} {es : List Event} {n t : Nat} {k k' : Tick}

/-- The ledger of the handshakes as it stands before tick `t`. -/
theorem countP_take_acks_add (hk : (trace (ofSpeed s) es)[t]? = some k) :
    ((trace (ofSpeed s) es).take t).countP acknowledges + owed k.before =
      ((trace (ofSpeed s) es).take t).countP accepts := by
  obtain ⟨fs, gs, rfl, rfl, hbefore, -⟩ := exists_cut_of_getElem?_trace hk
  rw [trace_append, List.take_left, hbefore]
  exact countP_acks_add s fs

/-- A handshake answers a packet that was accepted before it, or on its own tick. -/
theorem exists_accepts_of_acknowledges (h : IsNth acknowledges (trace (ofSpeed s) es) n t k) :
    ∃ T j, IsNth accepts (trace (ofSpeed s) es) n T j ∧ T ≤ t := by
  have hledger := countP_take_acks_add h.get
  have hack : k.before.acks k.input = true := by
    have hholds := h.holds
    rw [acknowledges, output_of_getElem?_trace h.get] at hholds
    exact hholds
  rw [h.count] at hledger
  rcases acks_iff.1 hack with ⟨hacc, -⟩ | ⟨hphase, -⟩
  · -- Nothing was owed, so this packet is the one that is answered.
    rw [owed_eq_zero_of_accepts hacc, Nat.add_zero] at hledger
    exact ⟨t, k, ⟨h.get, accepts_eq_true_iff.2 hacc, hledger.symm⟩, Nat.le_refl t⟩
  · have howed : owed k.before = 1 := if_pos hphase
    obtain ⟨T, j, hlt, hT⟩ := exists_isNth_of_lt_countP (p := accepts) (l := trace (ofSpeed s) es)
      (n := n) (j := t) (by omega)
    exact ⟨T, j, hT, Nat.le_of_lt hlt⟩

/-- No packet is accepted before the one before it is acknowledged. -/
theorem exists_acknowledges_of_accepts
    (h : IsNth accepts (trace (ofSpeed s) es) (n + 1) t k) :
    ∃ u j, IsNth acknowledges (trace (ofSpeed s) es) n u j ∧ u < t := by
  have hledger := countP_take_acks_add h.get
  have hacc : k.before.Accepts k.input := accepts_eq_true_iff.1 h.holds
  rw [h.count, owed_eq_zero_of_accepts hacc, Nat.add_zero] at hledger
  obtain ⟨u, j, hlt, hu⟩ := exists_isNth_of_lt_countP (p := acknowledges)
    (l := trace (ofSpeed s) es) (n := n) (j := t) (by omega)
  exact ⟨u, j, hu, hlt⟩

/-! ## Marks stand apart -/

/-- A receiver that has just accepted a packet awaits no data. -/
theorem phase_ne_of_received (s : Speed) (es : List Event)
    (h : (stateAfter (ofSpeed s) es).packet.received = true) :
    (stateAfter (ofSpeed s) es).phase ≠ .awaitingData := by
  revert h
  refine stateAfter_induction (I := fun r : SetupReceiver => r.packet.received = true →
    r.phase ≠ .awaitingData) (fun _ _ h => h) ?_ (fun h => absurd h Bool.false_ne_true) es
  intro r i _ hr hphase
  -- The mark comes from a packet of this tick, which has ended the wait for data.
  have hacc : r.Accepts i := by simpa using hr
  rcases nextPhase_eq_awaitingData_iff.1 hphase with ⟨hp, -⟩ | ⟨-, hd, -⟩
  · exact nomatch hacc.1.symm.trans hp
  · exact not_accepts_of_no_data hd hacc

theorem received_eq_false_of_received (hk : (trace (ofSpeed s) es)[t]? = some k)
    (hk' : (trace (ofSpeed s) es)[t + 1]? = some k') (h : k.output.setup.received = true) :
    k'.output.setup.received = false := by
  have hpacket : k'.before.packet = k.before.nextPacket k.input := (before_succ hk hk').2
  have hphase : k.before.phase ≠ .awaitingData := by
    obtain ⟨fs, -, -, -, hbefore, hout⟩ := exists_cut_of_getElem?_trace hk
    rw [hout, clocked_step, setup_step] at h
    rw [hbefore] at h ⊢
    exact phase_ne_of_received s fs h
  rw [output_of_getElem?_trace hk', clocked_step, setup_step, hpacket,
    received_nextPacket]
  exact decide_eq_false fun hacc => hphase hacc.1

/-- **Handshakes and marks are conserved and paired.**  After every history the ledgers of the
handshakes and of the marks agree.  Each handshake comes on or after the tick that accepts its
packet and before the tick that accepts the next, which is not accepted without it.  A packet is
never shown as received on two ticks in a row. -/
theorem acks_paired_with_accepts (s : Speed) (es : List Event) :
    (trace (ofSpeed s) es).countP (fun k => k.output.setup.received) +
          (if (stateAfter (ofSpeed s) es).packet.received then 1 else 0) =
        (trace (ofSpeed s) es).countP (fun k => k.output.ack) +
          (if (stateAfter (ofSpeed s) es).phase = .awaitingGap then 1 else 0) ∧
      (∀ n t k, IsNth (fun k : Tick => k.output.ack) (trace (ofSpeed s) es) n t k →
        (∃ T j, IsNth accepts (trace (ofSpeed s) es) n T j ∧ T ≤ t) ∧
          ∀ T j, IsNth accepts (trace (ofSpeed s) es) (n + 1) T j → t < T) ∧
      (∀ n T j, IsNth accepts (trace (ofSpeed s) es) (n + 1) T j →
        ∃ t k, IsNth (fun k : Tick => k.output.ack) (trace (ofSpeed s) es) n t k) ∧
      ∀ t k k', (trace (ofSpeed s) es)[t]? = some k → (trace (ofSpeed s) es)[t + 1]? = some k' →
        ¬ (k.output.setup.received = true ∧ k'.output.setup.received = true) := by
  refine ⟨(countP_received_add s es).trans (countP_acks_add s es).symm, ?_, ?_, ?_⟩
  · intro n t k hk
    refine ⟨exists_accepts_of_acknowledges hk, fun T j hT => ?_⟩
    obtain ⟨u, l, hu, hlt⟩ := exists_acknowledges_of_accepts hT
    exact hu.unique hk ▸ hlt
  · intro n T j hT
    obtain ⟨u, l, hu, -⟩ := exists_acknowledges_of_accepts hT
    exact ⟨u, l, hu⟩
  · rintro t k k' hk hk' ⟨h, h'⟩
    exact nomatch h'.symm.trans (received_eq_false_of_received hk hk' h)

/-- The first packet waits for its handshake until the speed changes, and the second does not. -/
theorem acks_paired_with_accepts_hurried :
    let tokenTick : Event := .tick { token := .detected Token.setupPid }
    let dataTick : Event := .tick { data := .ofBytes (List.replicate 8 0) }
    let es := [tokenTick, dataTick, .tick { txAllowed := true }, .adjust .high, tokenTick, dataTick,
      .tick {}]
    let tr := trace (ofSpeed .full) es
    ∃ k j k₄ k₅, IsNth (fun k : Tick => k.output.ack) tr 0 2 k ∧ IsNth accepts tr 1 4 j ∧
      tr[4]? = some k₄ ∧ tr[5]? = some k₅ ∧
      (∃ T j, IsNth accepts tr 0 T j ∧ T ≤ 2) ∧ 2 < 4 ∧
      (∃ t k, IsNth (fun k : Tick => k.output.ack) tr 0 t k) ∧
      ¬ (k₄.output.setup.received = true ∧ k₅.output.setup.received = true) := by
  intro tokenTick dataTick es tr
  obtain ⟨-, hacks, haccepts, hshown⟩ := acks_paired_with_accepts .full es
  have hk : IsNth (fun k : Tick => k.output.ack) tr 0 2 (tr.get ⟨2, by decide⟩) := by decide
  have hj : IsNth accepts tr 1 4 (tr.get ⟨4, by decide⟩) := by decide
  have h₄ : tr[4]? = some (tr.get ⟨4, by decide⟩) := by decide
  have h₅ : tr[5]? = some (tr.get ⟨5, by decide⟩) := by decide
  obtain ⟨hT, hlt⟩ := hacks 0 2 _ hk
  exact ⟨_, _, _, _, hk, hj, h₄, h₅, hT, hlt 4 _ hj, haccepts 0 4 _ hj, hshown 4 _ _ h₄ h₅⟩

end SetupReceiver

end ControlEndpoint
