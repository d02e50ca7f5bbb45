/-!
# Little-endian words

A 16-bit word travels as two bytes, the low byte first.

## Main definitions

* `word lo hi`: the word with low byte `lo` and high byte `hi`
* `lowByte`, `highByte`: the two bytes of a word

## Main results

* `lowByte_word`, `highByte_word`, `word_lowByte_highByte`: words are pairs of bytes
-/

namespace ControlEndpoint

/-- The word with low byte `lo` and high byte `hi`. -/
def word (lo hi : UInt8) : UInt16 := lo.toUInt16 + 256 * hi.toUInt16

/-- The byte of a word that travels first. -/
def lowByte (w : UInt16) : UInt8 := w.toUInt8

/-- The byte of a word that travels second. -/
def highByte (w : UInt16) : UInt8 := (w / 256).toUInt8

theorem toNat_word (lo hi : UInt8) : (word lo hi).toNat = lo.toNat + 256 * hi.toNat := by
  have := lo.toNat_lt
  have := hi.toNat_lt
  simp [word]
  omega

theorem toNat_lowByte (w : UInt16) : (lowByte w).toNat = w.toNat % 256 := by simp [lowByte]

theorem toNat_highByte (w : UInt16) : (highByte w).toNat = w.toNat / 256 := by
  have := w.toNat_lt
  simp [highByte]
  omega

@[simp] theorem lowByte_word (lo hi : UInt8) : lowByte (word lo hi) = lo := by
  have := lo.toNat_lt
  rw [← UInt8.toNat_inj, toNat_lowByte, toNat_word]
  omega

@[simp] theorem highByte_word (lo hi : UInt8) : highByte (word lo hi) = hi := by
  have := lo.toNat_lt
  rw [← UInt8.toNat_inj, toNat_highByte, toNat_word]
  omega

theorem word_inj {lo hi lo' hi' : UInt8} : word lo hi = word lo' hi' ↔ lo = lo' ∧ hi = hi' := by
  constructor
  · intro h
    have hlo := congrArg lowByte h
    have hhi := congrArg highByte h
    rw [lowByte_word, lowByte_word] at hlo
    rw [highByte_word, highByte_word] at hhi
    exact ⟨hlo, hhi⟩
  · rintro ⟨rfl, rfl⟩
    rfl

/-- Every word is made of its two bytes. -/
@[simp] theorem word_lowByte_highByte (w : UInt16) : word (lowByte w) (highByte w) = w := by
  rw [← UInt16.toNat_inj, toNat_word, toNat_lowByte, toNat_highByte]
  omega

end ControlEndpoint
