import ControlEndpoint.Proofs.History
import ControlEndpoint.Responder.Address

/-!
# The address responder and its history

An address waits in the responder from the tick that brings its request to the tick that strobes
it, unless another request comes first.  So what waits can be read off the latest request and the
drives since: the latest request sets the address, and no drive has strobed one since it came.

A request counts on the tick that brings it, so that one tick may bring a request and strobe its
address.

## Main definitions

* `AddressResponder.Waits`: the latest request sets an address that was not strobed since

## Main results

* `AddressResponder.pending_after_eq_some_iff`: the address that waits after a history
* `AddressResponder.latch_after_eq_some_iff`: the address that waits during a tick
-/

namespace ControlEndpoint

namespace AddressResponder

variable {r : AddressResponder} {i : Broadcast} {a : UInt8}

/-! ## One tick -/

theorem pending_step :
    (r.step i).1.pending = if (r.step i).2.addressStrobe then none else r.latch i := by
  unfold step
  cases r.latch i <;> cases i.statusRequested <;>
    by_cases h : Handshake.ack.line ∈ i.handshakes <;> simp [Drive.idle, Drive.zeroLength, h]

/-- The address that is strobed is the one that waits. -/
theorem latch_eq_some_address (h : (r.step i).2.addressStrobe = true) :
    r.latch i = some (r.step i).2.address := by
  obtain ⟨hlatch, hstatus, hack⟩ := addressStrobe_step r i |>.1 h
  obtain ⟨a, ha⟩ := Option.isSome_iff_exists.1 hlatch
  simp [step, ha, hstatus, hack]

/-- A packet is sent exactly when the host asks for the status stage of a request that waits. -/
theorem valid_step :
    (r.step i).2.tx.valid = true ↔ (r.latch i).isSome ∧ i.statusRequested = true := by
  unfold step
  cases r.latch i <;> cases i.statusRequested <;>
    by_cases h : Handshake.ack.line ∈ i.handshakes <;>
      simp [Drive.idle, Drive.zeroLength, TxBeat.zeroLength, h]

theorem handshakes_step : (r.step i).2.handshakes = ∅ := by
  unfold step
  cases r.latch i <;> cases i.statusRequested <;>
    by_cases h : Handshake.ack.line ∈ i.handshakes <;> simp [Drive.idle, Drive.zeroLength, h]

/-! ## The address that waits -/

/-- A request arrives. -/
abbrev BringsRequest (i : Broadcast) : Prop := i.setup.received = true

/-- The latest request of the broadcasts `is` sets the address `a`, and none of the drives `ds` has
strobed an address since it came. -/
def Waits (is : List Broadcast) (ds : List Drive) (a : UInt8) : Prop :=
  ∃ n b, IsLatest BringsRequest is n is.length b ∧ b.setup.SetsAddress ∧ b.setup.address = a ∧
    ∀ d ∈ ds.drop n, d.addressStrobe = false

variable {is : List Broadcast} {ds : List Drive} {d : Drive}

/-- A request takes the place of the one before it.  No drive has followed it yet. -/
theorem waits_concat_broadcast (hlen : ds.length = is.length) :
    Waits (is ++ [i]) ds a ↔
      if i.setup.received then i.setup.SetsAddress ∧ i.setup.address = a else Waits is ds a := by
  simp only [Waits, List.length_append, List.length_singleton, isLatest_concat_iff]
  by_cases hi : i.setup.received = true
  · rw [if_pos hi]
    constructor
    · rintro ⟨n, b, ⟨-, -, rfl⟩ | ⟨hno, -⟩, hsets, haddr, -⟩
      · exact ⟨hsets, haddr⟩
      · exact absurd hi hno
    · rintro ⟨hsets, haddr⟩
      refine ⟨is.length, i, .inl ⟨hi, rfl, rfl⟩, hsets, haddr, ?_⟩
      intro d hd
      rw [← hlen, List.drop_length] at hd
      exact absurd hd List.not_mem_nil
  · rw [if_neg hi]
    constructor
    · rintro ⟨n, b, ⟨hyes, -⟩ | ⟨-, hlatest⟩, hrest⟩
      · exact absurd hyes hi
      · exact ⟨n, b, hlatest, hrest⟩
    · rintro ⟨n, b, hlatest, hrest⟩
      exact ⟨n, b, .inr ⟨hi, hlatest⟩, hrest⟩

theorem waits_concat_drive (hlen : is.length ≤ ds.length + 1) :
    Waits is (ds ++ [d]) a ↔ d.addressStrobe = false ∧ Waits is ds a := by
  -- Every request came no later than the new drive.
  have hquiet (n : Nat) (hn : n < is.length) :
      (∀ d' ∈ (ds ++ [d]).drop n, d'.addressStrobe = false) ↔
        (∀ d' ∈ ds.drop n, d'.addressStrobe = false) ∧ d.addressStrobe = false := by
    rw [List.drop_append_of_le_length (by omega), List.forall_mem_append, List.forall_mem_singleton]
  constructor
  · rintro ⟨n, b, hlatest, hsets, haddr, hds⟩
    obtain ⟨hds, hd⟩ := (hquiet n hlatest.lt).1 hds
    exact ⟨hd, n, b, hlatest, hsets, haddr, hds⟩
  · rintro ⟨hd, n, b, hlatest, hsets, haddr, hds⟩
    exact ⟨n, b, hlatest, hsets, haddr, (hquiet n hlatest.lt).2 ⟨hds, hd⟩⟩

/-- The request that is latched waits, if that is so of the address before it. -/
theorem latch_eq_some_iff_of_pending (hlen : ds.length = is.length)
    (hr : ∀ a, r.pending = some a ↔ Waits is ds a) :
    r.latch i = some a ↔ Waits (is ++ [i]) ds a := by
  rw [waits_concat_broadcast hlen, ← hr, latch]
  by_cases hi : i.setup.received = true
  · by_cases hs : i.setup.SetsAddress <;> simp [hi, hs]
  · simp [hi]

/-- **The address that waits after a history.** -/
theorem pending_after_eq_some_iff (is : List Broadcast) (a : UInt8) :
    (Clocked.after ({} : AddressResponder) is).pending = some a ↔
      Waits is (Clocked.outputs ({} : AddressResponder) is) a := by
  induction is using List.reverseRecOn generalizing a with
  | nil =>
    constructor
    · intro h
      cases h
    · rintro ⟨n, b, hlatest, -⟩
      exact absurd hlatest not_isLatest_zero
  | append_singleton is i ih =>
    have hlen : (Clocked.outputs ({} : AddressResponder) is).length = is.length :=
      Clocked.length_outputs _ _
    have hlatch := latch_eq_some_iff_of_pending (i := i) (a := a) hlen ih
    rw [Clocked.after_append, Clocked.outputs_append, Clocked.after_cons, Clocked.after_nil,
      Clocked.outputs_cons, Clocked.outputs_nil, waits_concat_drive (by simp), ← hlatch]
    show (step _ i).1.pending = some a ↔ (step _ i).2.addressStrobe = false ∧ _
    rw [pending_step]
    cases (step _ i).2.addressStrobe <;> simp

/-- **The address that waits during a tick**, whose request may have come on that very tick. -/
theorem latch_after_eq_some_iff (is : List Broadcast) (i : Broadcast) (a : UInt8) :
    (Clocked.after ({} : AddressResponder) is).latch i = some a ↔
      Waits (is ++ [i]) (Clocked.outputs ({} : AddressResponder) is) a :=
  latch_eq_some_iff_of_pending (Clocked.length_outputs _ _) (pending_after_eq_some_iff is)

end AddressResponder

end ControlEndpoint
