import Emmc.Lib.Bitfield

/-!
# Slices of a wide register

A register that is wider than a word is read as a sequence of words. `join_extractLsb'` puts together a
field whose halves lie in two of them.
-/

namespace Bitfield

variable {n w : Nat}

/-- A value that fits is the same in a wider word. -/
theorem setWidth_widen {a b c : Nat} (x : BitVec a) (fits : a ≤ b) :
    (x.setWidth b).setWidth c = x.setWidth c := by
  have less : x.toNat < 2 ^ b := Nat.lt_of_lt_of_le x.isLt (Nat.pow_le_pow_right (by decide) fits)
  apply BitVec.eq_of_toNat_eq
  simp only [BitVec.toNat_setWidth, Nat.mod_eq_of_lt less]

/-- Two slices that meet. -/
theorem join_extractLsb' (x : BitVec n) (k a b : Nat) :
    (x.extractLsb' (k + a) b).setWidth w <<< a ||| (x.extractLsb' k a).setWidth w =
      (x.extractLsb' k (a + b)).setWidth w := by
  apply BitVec.eq_of_getLsbD_eq
  intro i bound
  simp only [BitVec.getLsbD_or, BitVec.getLsbD_shiftLeft, BitVec.getLsbD_extractLsb',
    BitVec.getLsbD_setWidth]
  rcases Nat.lt_or_ge i a with low | high
  · simp [bound, low, Nat.lt_add_right b low]
  · have place : k + a + (i - a) = k + i := by omega
    have range : i - a < b ↔ i < a + b := by omega
    have left : i - a < w := by omega
    simp [bound, Nat.not_lt.mpr high, place, range, left]

/-- Four bytes that meet. -/
theorem join_bytes (x : BitVec n) (k : Nat) :
    (x.extractLsb' (k + 24) 8).setWidth 32 <<< 24 ||| (x.extractLsb' (k + 16) 8).setWidth 32 <<< 16 |||
      (x.extractLsb' (k + 8) 8).setWidth 32 <<< 8 ||| (x.extractLsb' k 8).setWidth 32 =
      x.extractLsb' k 32 := by
  have high := join_extractLsb' (w := 32) x (k + 16) 8 8
  have middle := join_extractLsb' (w := 32) x (k + 8) 8 16
  have whole := join_extractLsb' (w := 32) x k 8 24
  rw [Nat.add_assoc] at high middle
  rw [BitVec.setWidth_eq] at whole
  rw [← whole, ← middle, ← high]
  simp only [BitVec.shiftLeft_or_distrib, ← BitVec.shiftLeft_add]

end Bitfield
