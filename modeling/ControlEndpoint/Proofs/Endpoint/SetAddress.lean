import ControlEndpoint.Proofs.Drive.Wires
import ControlEndpoint.Proofs.Endpoint
import ControlEndpoint.Proofs.Responder.Address
import ControlEndpoint.Responder.Stall

/-!
# Setting the address

An endpoint takes its address through an address responder, and a stall responder behind it
refuses all other requests.  The two go by different things: the address responder goes by a request
that it latched when the request came, and the stall responder by the register as it stands.  They
never contradict each other, as the register stands still between requests.

So the bus is never refused, no packet is sent together with a stall, and the address changes once
for each request that sets it, when the host acknowledges, unless another request comes first.

## Main definitions

* `Endpoint.addressing`: the two responders
* `Endpoint.ChangesAddress`: the address changes on a tick

## Main results

* `Endpoint.latch_eq_some_iff`: the address that waits, by what the endpoint showed
* `Endpoint.not_valid_and_stall`: the two responders do not contradict each other
* `Endpoint.address_set_once`: the bus of the endpoint
-/

namespace ControlEndpoint

namespace Endpoint

/-- The stall responder that refuses all requests but those that set the address. -/
def refusing : StallResponder where
  condition p := !decide p.SetsAddress

/-- An address responder, and behind it the stall responder for all other requests. -/
def addressing : List AnyResponder := [.of ({} : AddressResponder), .of refusing]

variable {capacity : Nat}

/-- A tick of an endpoint with responders of different types. -/
abbrev BankTick (capacity : Nat) := Tick (ResponderBank AnyResponder.{0} capacity)

/-- The ticks of an endpoint that takes its address. -/
abbrev ticks (capacity : Nat) (s : Speed) (es : List Event) : List (BankTick capacity) :=
  trace (holding capacity s addressing) es

/-- The bus changes the address. -/
def ChangesAddress (k : BankTick capacity) : Prop :=
  ∃ d, k.output.bus = .ok d ∧ d.addressStrobe = true

/-! ## The two responders -/

section Drives

variable (is : List Broadcast) (i : Broadcast)

/-- What the address responder drives after a history. -/
def addressDrive : Drive := ((Clocked.after ({} : AddressResponder) is).step i).2

/-- The bus that the two responders drive after a history. -/
def addressingBus : Drive := .wires [addressDrive is i, refusing.drive i]

theorem addressStrobe_addressingBus :
    (addressingBus is i).addressStrobe = (addressDrive is i).addressStrobe := by
  simp [addressingBus, Drive.wires]

theorem valid_addressingBus : (addressingBus is i).tx.valid = (addressDrive is i).tx.valid := by
  simp [addressingBus, Drive.wires]

theorem address_addressingBus (h : (addressDrive is i).addressStrobe = true) :
    (addressingBus is i).address = (addressDrive is i).address % 128 := by
  simp [addressingBus, Drive.wires, h]

theorem mem_handshakes_addressingBus_iff {j : Fin 8} :
    j ∈ (addressingBus is i).handshakes ↔
      (i.Requests ∧ ¬ i.setup.SetsAddress) ∧ j = Handshake.stall.line := by
  have hnone : (addressDrive is i).handshakes = ∅ := AddressResponder.handshakes_step
  rw [addressingBus, ← Drive.joinAll_eq_wires, Drive.mem_handshakes_joinAll]
  simp [hnone, StallResponder.mem_handshakes_drive_iff, refusing]

/-- The two responders never ask for two handshakes at once. -/
theorem resolve_addressing :
    Drive.resolve [addressDrive is i, refusing.drive i] = .ok (addressingBus is i) := by
  rw [Drive.resolve_eq_ok_iff, Drive.joinAll_eq_wires, HandshakeSet.not_conflicting_iff]
  -- A stall is all there can be, as the address responder sends no handshakes.
  refine ⟨⟨Handshake.stall.line, ?_⟩, rfl⟩
  intro j hj
  exact ((mem_handshakes_addressingBus_iff is i).1 hj).2

/-- Each responder acts as if it were alone. -/
theorem map_addressing :
    (addressing.map fun r => (Clocked.step (Clocked.after r is) i).2) =
      [addressDrive is i, refusing.drive i] := by
  have haddress : (Clocked.step (Clocked.after (AnyResponder.of ({} : AddressResponder)) is) i).2 =
      addressDrive is i := by
    rw [AnyResponder.after_of]
    rfl
  have hstall : (Clocked.step (Clocked.after (AnyResponder.of refusing) is) i).2 =
      refusing.drive i := by
    rw [AnyResponder.after_of]
    -- The condition outlives every tick, and nothing else bears on what is driven.
    show (Clocked.after refusing is).drive i = _
    rw [StallResponder.drive_eq, StallResponder.drive_eq, StallResponder.condition_after]
  rw [addressing, List.map_cons, List.map_cons, List.map_nil, haddress, hstall]

end Drives

/-! ## The bus, tick by tick -/

section Bus

variable {s : Speed} {es : List Event} {r t : Nat} {j k : BankTick capacity}

theorem bus_ticks (hcap : 2 ≤ capacity) (hk : (ticks capacity s es)[t]? = some k) :
    k.output.bus = .ok (addressingBus (seenBefore (ticks capacity s es) t) (seen k)) := by
  -- Both responders found a slot.
  have hall : addressing.take capacity = addressing := List.take_of_length_le hcap
  rw [bus_of_getElem?_trace hk, hall, map_addressing, resolve_addressing]

theorem changesAddress_iff (hcap : 2 ≤ capacity) (hk : (ticks capacity s es)[t]? = some k) :
    ChangesAddress k ↔
      (addressDrive (seenBefore (ticks capacity s es) t) (seen k)).addressStrobe = true := by
  rw [ChangesAddress, bus_ticks hcap hk, ← addressStrobe_addressingBus]
  simp

/-! ## The address that waits, on the ticks of the endpoint -/

theorem getElem?_outputs_address {m : Nat} (hm : m < t) (hk : (ticks capacity s es)[m]? = some k) :
    (Clocked.outputs ({} : AddressResponder) (seenBefore (ticks capacity s es) t))[m]? =
      some (addressDrive (seenBefore (ticks capacity s es) m) (seen k)) := by
  rw [Clocked.getElem?_outputs, getElem?_seenBefore hm, take_seenBefore (Nat.le_of_lt hm), hk]
  rfl

/-- The address responder strobed no address from tick `r` on exactly if the bus did not. -/
theorem forall_mem_drop_outputs_iff (hcap : 2 ≤ capacity) (ht : t ≤ (ticks capacity s es).length) :
    (∀ d ∈ (Clocked.outputs ({} : AddressResponder) (seenBefore (ticks capacity s es) t)).drop r,
        d.addressStrobe = false) ↔
      ∀ m k, r ≤ m → m < t → (ticks capacity s es)[m]? = some k → ¬ ChangesAddress k := by
  -- The responder was alone with what was seen, so its drive number `m` is that of tick `m`.
  constructor
  · intro h m k hrm hmt hk
    rw [changesAddress_iff hcap hk, Bool.not_eq_true]
    apply h
    rw [List.mem_iff_getElem?]
    refine ⟨m - r, ?_⟩
    rw [List.getElem?_drop, Nat.add_sub_cancel' hrm, getElem?_outputs_address hmt hk]
  · intro h d hd
    obtain ⟨n, hn⟩ := List.mem_iff_getElem?.1 hd
    rw [List.getElem?_drop] at hn
    have hlt : r + n < t := by
      obtain ⟨hlt, -⟩ := List.getElem?_eq_some_iff.1 hn
      rwa [Clocked.length_outputs, length_seenBefore ht] at hlt
    have hk := List.getElem?_eq_getElem (Nat.lt_of_lt_of_le hlt ht)
    have hquiet := h (r + n) _ (Nat.le_add_right r n) hlt hk
    rw [changesAddress_iff hcap hk, Bool.not_eq_true] at hquiet
    rwa [← Option.some.inj ((getElem?_outputs_address hlt hk).symm.trans hn)]

/-- **The address that waits** on a tick is that of the latest request, if the request sets one and
the bus has not changed the address since. -/
theorem latch_eq_some_iff (hcap : 2 ≤ capacity) (hk : (ticks capacity s es)[t]? = some k)
    {a : UInt8} :
    (Clocked.after ({} : AddressResponder) (seenBefore (ticks capacity s es) t)).latch (seen k) =
        some a ↔
      ∃ r j, IsLatest SeesReceived (ticks capacity s es) r (t + 1) j ∧
        (seen j).setup.SetsAddress ∧ (seen j).setup.address = a ∧
          ∀ m k', r ≤ m → m < t → (ticks capacity s es)[m]? = some k' → ¬ ChangesAddress k' := by
  obtain ⟨ht, -⟩ := List.getElem?_eq_some_iff.1 hk
  rw [AddressResponder.latch_after_eq_some_iff, ← seenBefore_succ hk, AddressResponder.Waits,
    length_seenBefore ht]
  simp only [isLatest_seenBefore_iff ht, forall_mem_drop_outputs_iff hcap (Nat.le_of_lt ht)]
  constructor
  · rintro ⟨r, -, ⟨j, hj, rfl⟩, hrest⟩
    exact ⟨r, j, hj, hrest⟩
  · rintro ⟨r, j, hj, hrest⟩
    exact ⟨r, seen j, ⟨j, hj, rfl⟩, hrest⟩

/-! ## What the bus shows -/

/-- Between two requests the stall responder goes by the request that came last. -/
theorem setsAddress_seen_iff (hlatest : IsLatest SeesReceived (ticks capacity s es) r (t + 1) j)
    (hk : (ticks capacity s es)[t]? = some k) :
    (seen k).setup.SetsAddress ↔ (seen j).setup.SetsAddress := by
  show SetupPacket.SetsAddress { (seen k).setup with received := false } ↔ _
  rw [setup_seen_of_isLatest hlatest hk]
  rfl

/-- A packet and a stall are never sent together. -/
theorem not_valid_and_stall (hcap : 2 ≤ capacity) (hk : (ticks capacity s es)[t]? = some k) :
    ¬ ((addressingBus (seenBefore (ticks capacity s es) t) (seen k)).tx.valid = true ∧
      Handshake.stall.line ∈
        (addressingBus (seenBefore (ticks capacity s es) t) (seen k)).handshakes) := by
  rintro ⟨hvalid, hstall⟩
  rw [valid_addressingBus, addressDrive, AddressResponder.valid_step] at hvalid
  rw [mem_handshakes_addressingBus_iff] at hstall
  obtain ⟨a, ha⟩ := Option.isSome_iff_exists.1 hvalid.1
  -- The request that waits is in the register, where the stall responder sees it.
  obtain ⟨r, j, hlatest, hsets, -⟩ := (latch_eq_some_iff hcap hk).1 ha
  exact hstall.1.2 ((setsAddress_seen_iff hlatest hk).2 hsets)

theorem changesAddress_iff_exists (hcap : 2 ≤ capacity) (hk : (ticks capacity s es)[t]? = some k) :
    ChangesAddress k ↔ ∃ r j, IsLatest SeesReceived (ticks capacity s es) r (t + 1) j ∧
      (seen j).setup.SetsAddress ∧ Handshake.ack.line ∈ k.input.rest.handshakes ∧
        k.input.rest.statusRequested = false ∧
          ∀ m k', r ≤ m → m < t → (ticks capacity s es)[m]? = some k' → ¬ ChangesAddress k' := by
  rw [changesAddress_iff hcap hk, addressDrive, AddressResponder.addressStrobe_step,
    Option.isSome_iff_exists]
  simp only [latch_eq_some_iff hcap hk]
  constructor
  · rintro ⟨⟨-, r, j, hlatest, hsets, rfl, hquiet⟩, hstatus, hack⟩
    exact ⟨r, j, hlatest, hsets, hack, hstatus, hquiet⟩
  · rintro ⟨r, j, hlatest, hsets, hack, hstatus, hquiet⟩
    exact ⟨⟨_, r, j, hlatest, hsets, rfl, hquiet⟩, hstatus, hack⟩

/-- The new address is that of the request that came last. -/
theorem address_of_changesAddress (hcap : 2 ≤ capacity) (hk : (ticks capacity s es)[t]? = some k)
    (hchanges : ChangesAddress k)
    (hlatest : IsLatest SeesReceived (ticks capacity s es) r (t + 1) j) :
    (addressingBus (seenBefore (ticks capacity s es) t) (seen k)).address.toNat =
      (seen j).setup.value.toNat % 128 := by
  have hstrobe := (changesAddress_iff hcap hk).1 hchanges
  have hlatch := AddressResponder.latch_eq_some_address hstrobe
  obtain ⟨r', j', hlatest', -, haddr, -⟩ := (latch_eq_some_iff hcap hk).1 hlatch
  obtain ⟨rfl, rfl⟩ := hlatest.unique hlatest'
  rw [address_addressingBus _ _ hstrobe, addressDrive, ← haddr, SetupPacket.address]
  -- The responder takes seven bits of the low byte, and the bus takes seven bits again.
  simp only [UInt8.toNat_mod, toNat_lowByte]
  show _ % 256 % 128 % 128 = _
  omega

/-- Once a request has changed the address it is not to do so again. -/
theorem not_changesAddress_of_lt (hcap : 2 ≤ capacity) {t' : Nat} {k' : BankTick capacity}
    (hk : (ticks capacity s es)[t]? = some k) (hk' : (ticks capacity s es)[t']? = some k')
    (hlatest : IsLatest SeesReceived (ticks capacity s es) r (t' + 1) j) (hr : r ≤ t)
    (htt' : t < t') (hchanges : ChangesAddress k) : ¬ ChangesAddress k' := by
  rw [changesAddress_iff_exists hcap hk']
  rintro ⟨r', j', hlatest', -, -, -, hquiet⟩
  -- No tick since the request may have changed the address, but tick `t` did.
  obtain ⟨rfl, -⟩ := hlatest.unique hlatest'
  exact hquiet t k hr htt' hk hchanges

end Bus

/-- **The address changes once for each request that sets it.**  On no tick is the bus refused or a
packet sent together with a stall.  The address changes on a tick exactly if the latest request
sets it, the host acknowledges while it does not ask for the status stage, and no tick since the
request came has changed the address; it is then the low seven bits of the value of the request.
So no request changes the address twice. -/
theorem address_set_once (hcap : 2 ≤ capacity) (s : Speed) (es : List Event) :
    let tr := ticks capacity s es
    (∀ t k, tr[t]? = some k → ∃ d, k.output.bus = .ok d ∧
      ¬ (d.tx.valid = true ∧ Handshake.stall.line ∈ d.handshakes) ∧
      (d.addressStrobe = true ↔ ∃ r j, IsLatest SeesReceived tr r (t + 1) j ∧
        (seen j).setup.SetsAddress ∧ Handshake.ack.line ∈ k.input.rest.handshakes ∧
          k.input.rest.statusRequested = false ∧
            ∀ m k', r ≤ m → m < t → tr[m]? = some k' → ¬ ChangesAddress k') ∧
      ∀ r j, d.addressStrobe = true → IsLatest SeesReceived tr r (t + 1) j →
        d.address.toNat = (seen j).setup.value.toNat % 128) ∧
    ∀ r j t t' k k', IsLatest SeesReceived tr r (t + 1) j → IsLatest SeesReceived tr r (t' + 1) j →
      tr[t]? = some k → tr[t']? = some k' → ChangesAddress k → ChangesAddress k' → t = t' := by
  intro tr
  constructor
  · intro t k hk
    have hbus := bus_ticks hcap hk
    have hstrobe : (addressingBus (seenBefore tr t) (seen k)).addressStrobe = true ↔
        ChangesAddress k := by
      rw [changesAddress_iff hcap hk, addressStrobe_addressingBus]
    refine ⟨_, hbus, not_valid_and_stall hcap hk, ?_, ?_⟩
    · rw [hstrobe]
      exact changesAddress_iff_exists hcap hk
    · intro r j hd hlatest
      exact address_of_changesAddress hcap hk (hstrobe.1 hd) hlatest
  · intro r j t t' k k' hlatest hlatest' hk hk' hchanges hchanges'
    rcases Nat.lt_trichotomy t t' with hlt | heq | hgt
    · have hr : r ≤ t := Nat.le_of_lt_succ hlatest.lt
      exact absurd hchanges' (not_changesAddress_of_lt hcap hk hk' hlatest' hr hlt hchanges)
    · exact heq
    · have hr : r ≤ t' := Nat.le_of_lt_succ hlatest'.lt
      exact absurd hchanges (not_changesAddress_of_lt hcap hk' hk hlatest hr hgt hchanges')

/-- The host acknowledges a request that sets the address to 42, and does so twice. -/
theorem address_set_once_to_42 :
    let es : List Event := [.tick { token := .detected Token.setupPid },
      .tick { data := .ofBytes [0, 5, 42, 0, 0, 0, 0, 0] }, .tick {},
      .tick { rest := { handshakes := .single .ack } },
      .tick { rest := { handshakes := .single .ack } }]
    let tr := ticks ResponderBank.defaultCapacity .high es
    2 ≤ ResponderBank.defaultCapacity ∧ ∃ k k' d, tr[3]? = some k ∧ tr[4]? = some k' ∧
      k.output.bus = .ok d ∧ d.addressStrobe = true ∧ d.address.toNat = 42 ∧
        ¬ ChangesAddress k' := by
  intro es tr
  have hcap : 2 ≤ ResponderBank.defaultCapacity := by decide
  obtain ⟨hbus, honce⟩ := address_set_once hcap .high es
  have h₂ : tr[2]? = some (tr.get ⟨2, by decide⟩) := rfl
  have h₃ : tr[3]? = some (tr.get ⟨3, by decide⟩) := rfl
  have h₄ : tr[4]? = some (tr.get ⟨4, by decide⟩) := rfl
  -- The request is shown on tick 2, and no other.
  have hlatest (n : Nat) (hn : 2 < n) (hn' : n ≤ 5) :
      IsLatest SeesReceived tr 2 n (tr.get ⟨2, by decide⟩) := by
    refine ⟨hn, h₂, by decide, ?_⟩
    intro m b hm hmn hb
    have hm' : m = 3 ∨ m = 4 := by omega
    rcases hm' with rfl | rfl
    · obtain rfl := Option.some.inj (h₃.symm.trans hb)
      decide
    · obtain rfl := Option.some.inj (h₄.symm.trans hb)
      decide
  obtain ⟨d, hd, -, hiff, haddr⟩ := hbus 3 _ h₃
  have hquiet : ¬ ChangesAddress (tr.get ⟨2, by decide⟩) := by
    rintro ⟨d₂, hd₂, hstrobe⟩
    obtain ⟨d₂', hd₂', -, hiff₂, -⟩ := hbus 2 _ h₂
    obtain rfl := Except.ok.inj (hd₂.symm.trans hd₂')
    obtain ⟨-, -, -, -, hack, -⟩ := hiff₂.1 hstrobe
    exact absurd hack (by decide)
  have hstrobe : d.addressStrobe = true := by
    refine hiff.2 ⟨2, _, hlatest 4 (by decide) (by decide), by decide, by decide, rfl, ?_⟩
    intro m k' hm hm3 hk'
    obtain rfl : m = 2 := by omega
    obtain rfl := Option.some.inj (h₂.symm.trans hk')
    exact hquiet
  refine ⟨hcap, _, _, d, h₃, h₄, hd, hstrobe, ?_, ?_⟩
  · exact haddr 2 _ hstrobe (hlatest 4 (by decide) (by decide))
  · intro hagain
    exact absurd (honce 2 _ 3 4 _ _ (hlatest 4 (by decide) (by decide))
      (hlatest 5 (by decide) (by decide)) h₃ h₄ ⟨d, hd, hstrobe⟩ hagain) (by decide)

end Endpoint

end ControlEndpoint
