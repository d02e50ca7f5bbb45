/-!
# Value changes

A signal that holds its value for many ticks is written down by its changes: its first value,
and then each value that differs from the one a tick before, with the number of the tick.

## Main definitions

* `valueChanges l`: the changes of the signal `l`, each with its tick

## Main results

* `mem_valueChanges_iff`: the ticks written down are tick `0` and those whose value is new
-/

namespace ControlEndpoint

universe u

variable {α : Type u} [DecidableEq α]

/-- The changes of a signal that goes on with `l` at tick `t`, having held the value `held`. -/
def valueChangesFrom (held : Option α) (t : Nat) : List α → List (Nat × α)
  | [] => []
  | a :: l =>
    if held = some a then valueChangesFrom held (t + 1) l
    else (t, a) :: valueChangesFrom (some a) (t + 1) l

/-- The first value of a signal, and each value that differs from the one a tick before. -/
def valueChanges (l : List α) : List (Nat × α) := valueChangesFrom none 0 l

@[simp] theorem valueChanges_nil : valueChanges ([] : List α) = [] := rfl

theorem le_of_mem_valueChangesFrom {held : Option α} {t s : Nat} {a : α} {l : List α}
    (hm : (s, a) ∈ valueChangesFrom held t l) : t ≤ s := by
  induction l generalizing held t with
  | nil => simp [valueChangesFrom] at hm
  | cons b l ih =>
    simp only [valueChangesFrom] at hm
    split at hm
    · have := ih hm
      omega
    · rcases List.mem_cons.1 hm with hm | hm
      · simp_all
      · have := ih hm
        omega

theorem mem_valueChangesFrom_iff {held : Option α} {t k : Nat} {a : α} {l : List α} :
    (t + k, a) ∈ valueChangesFrom held t l ↔
      l[k]? = some a ∧ (if k = 0 then held else l[k - 1]?) ≠ some a := by
  induction l generalizing held t k with
  | nil => simp [valueChangesFrom]
  | cons b l ih =>
    have later (h : Option α) (j : Nat) : (t + (j + 1), a) ∈ valueChangesFrom h (t + 1) l ↔
        l[j]? = some a ∧ (if j = 0 then h else l[j - 1]?) ≠ some a := by
      rw [← ih, Nat.add_right_comm t 1 j, Nat.add_assoc]
    have early (h : Option α) : (t, a) ∉ valueChangesFrom h (t + 1) l := fun hm =>
      Nat.not_succ_le_self t (le_of_mem_valueChangesFrom hm)
    cases k with
    | zero =>
      by_cases hb : held = some b
      · simp_all [valueChangesFrom]
      · simp_all [valueChangesFrom]
        grind
    | succ j => cases j <;> by_cases hb : held = some b <;> simp_all [valueChangesFrom]

/-- **The ticks written down** are tick `0` and each tick whose value differs from the one
before. -/
theorem mem_valueChanges_iff {t : Nat} {a : α} {l : List α} :
    (t, a) ∈ valueChanges l ↔ l[t]? = some a ∧ (t = 0 ∨ l[t - 1]? ≠ some a) := by
  have h : (0 + t, a) ∈ valueChangesFrom none 0 l ↔ _ := mem_valueChangesFrom_iff
  rw [Nat.zero_add] at h
  rw [valueChanges, h]
  by_cases ht : t = 0 <;> simp [ht]

end ControlEndpoint
