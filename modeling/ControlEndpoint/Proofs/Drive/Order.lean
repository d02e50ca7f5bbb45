import ControlEndpoint.Proofs.Drive.Wires
import Mathlib.Data.List.Perm.Basic

/-!
# The order of the drives on a bus

Priority counts among the drives that contend for the same strobe, and for nothing else.  Where a
strobe has a winner, it is the first of those that raise it, or the last for the transmit stream;
drives that do not raise it may stand before, between or behind them.  Flags and handshakes are
raised whoever raises them.

One drive may contend for several strobes.  Each strobe looks at its own contenders, so a list of
drives may be reordered as long as each of the three lists of contenders stays as it is.

## Main definitions

* `Drive.SameContenders l l'`: the same drives contend for each strobe, in the same order

## Main results

* `Drive.joinAll_eq_of_perm`: two orders of the same drives
* `Drive.resolve_eq_of_perm`: order counts among contenders only
-/

namespace ControlEndpoint

namespace Drive

/-- The drives that contend for a strobe are the same in `l` and in `l'`, in the same order. -/
structure SameContenders (l l' : List Drive) : Prop where
  address : l.filter (·.addressStrobe) = l'.filter (·.addressStrobe)
  config : l.filter (·.configStrobe) = l'.filter (·.configStrobe)
  data : l.filter (·.tx.valid) = l'.filter (·.tx.valid)

variable {l l' : List Drive} {p : Drive → Bool}

/-! ## Winners -/

theorem find?_eq_of_filter_eq (h : l.filter p = l'.filter p) : l.find? p = l'.find? p := by
  rw [← List.head?_filter, h, List.head?_filter]

theorem find?_reverse_eq_of_filter_eq (h : l.filter p = l'.filter p) :
    l.reverse.find? p = l'.reverse.find? p := by
  rw [← List.getLast?_filter, h, List.getLast?_filter]

/-- A strobe with one contender has it in every order. -/
theorem filter_eq_of_perm_of_countP_le_one (hperm : l.Perm l') (h : l.countP p ≤ 1) :
    l.filter p = l'.filter p := by
  have hfilter : (l.filter p).Perm (l'.filter p) := hperm.filter p
  rw [List.countP_eq_length_filter] at h
  rcases hl : l.filter p with _ | ⟨d, _ | ⟨e, m⟩⟩
  · rw [hl] at hfilter
    exact (List.nil_perm.1 hfilter).symm
  · rw [hl] at hfilter
    exact List.singleton_perm.1 hfilter
  · rw [hl] at h
    simp at h

/-! ## Two orders of the same drives -/

theorem handshakes_joinAll_eq_of_perm (hperm : l.Perm l') :
    (joinAll l).handshakes = (joinAll l').handshakes := by
  apply HandshakeSet.ext_mem
  intro i
  rw [mem_handshakes_joinAll, mem_handshakes_joinAll]
  constructor
  · rintro ⟨d, hd, hi⟩
    exact ⟨d, hperm.mem_iff.1 hd, hi⟩
  · rintro ⟨d, hd, hi⟩
    exact ⟨d, hperm.mem_iff.2 hd, hi⟩

/-- **Two orders of the same drives** are joined to the same bus, if each strobe has its contenders
in the same order. -/
theorem joinAll_eq_of_perm (hperm : l.Perm l') (h : SameContenders l l') :
    joinAll l = joinAll l' := by
  apply Drive.ext
  · rw [addressStrobe_joinAll, addressStrobe_joinAll, hperm.any_eq]
  · rw [address_joinAll, address_joinAll, find?_eq_of_filter_eq h.address]
  · rw [configStrobe_joinAll, configStrobe_joinAll, hperm.any_eq]
  · rw [config_joinAll, config_joinAll, find?_eq_of_filter_eq h.config]
  · apply TxBeat.ext
    · rw [valid_joinAll, valid_joinAll, hperm.any_eq]
    · rw [first_joinAll, first_joinAll, hperm.any_eq]
    · rw [last_joinAll, last_joinAll, hperm.any_eq]
    · rw [payload_joinAll, payload_joinAll, find?_reverse_eq_of_filter_eq h.data]
  · rw [dataToggle_joinAll, dataToggle_joinAll, find?_reverse_eq_of_filter_eq h.data]
  · exact handshakes_joinAll_eq_of_perm hperm

/-- **Order counts among contenders only.**  Two orders of the same drives make the same bus, or are
both refused, if the drives that contend for a strobe stand in the same order in both.  That is so
in every order where each strobe has at most one contender. -/
theorem resolve_eq_of_perm (hperm : l.Perm l') :
    (SameContenders l l' → resolve l = resolve l') ∧
      (l.countP (·.addressStrobe) ≤ 1 → l.countP (·.configStrobe) ≤ 1 →
        l.countP (·.tx.valid) ≤ 1 → SameContenders l l') := by
  constructor
  · intro h
    rw [resolve, resolve, joinAll_eq_of_perm hperm h]
  · intro haddress hconfig hdata
    exact ⟨filter_eq_of_perm_of_countP_le_one hperm haddress,
      filter_eq_of_perm_of_countP_le_one hperm hconfig,
      filter_eq_of_perm_of_countP_le_one hperm hdata⟩

/-- The drive that changes the configuration goes from the end to the front, past two drives that
contend for the address, one of which also sends a byte. -/
theorem resolve_eq_of_perm_config_first :
    let five : Drive := { addressStrobe := true, address := 5, handshakes := .single .ack }
    let nine : Drive := { addressStrobe := true, address := 9, tx := { valid := true } }
    let config : Drive := { configStrobe := true, config := 1, tx := { first := true } }
    [five, nine, config].Perm [config, five, nine] ∧
      SameContenders [five, nine, config] [config, five, nine] ∧
      resolve [five, nine, config] = resolve [config, five, nine] ∧
      [nine, config].Perm [config, nine] ∧ SameContenders [nine, config] [config, nine] := by
  intro five nine config
  have hperm : [five, nine, config].Perm [config, five, nine] :=
    @List.perm_append_comm _ [five, nine] [config]
  have hsame : SameContenders [five, nine, config] [config, five, nine] := ⟨rfl, rfl, rfl⟩
  have hperm' : [nine, config].Perm [config, nine] := .swap _ _ _
  obtain ⟨hresolve, -⟩ := resolve_eq_of_perm hperm
  obtain ⟨-, halone⟩ := resolve_eq_of_perm hperm'
  exact ⟨hperm, hsame, hresolve hsame, hperm', halone (by decide) (by decide) (by decide)⟩

-- Of two drives that contend for the address, the first wins.
example :
    let five : Drive := { addressStrobe := true, address := 5 }
    let nine : Drive := { addressStrobe := true, address := 9 }
    resolve [five, nine] ≠ resolve [nine, five] := by
  decide

end Drive

end ControlEndpoint
