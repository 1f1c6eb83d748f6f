import Mathlib.Data.BitVec

/-!
# Bit fields of a machine word

A `Bitfield w` names the bits `lsb..msb` of a `w`-bit word. `get` reads the field as a number,
`set` replaces it and masks off the bits of the new value that do not fit, the way a hardware
register field is declared in C. Every fact follows from the bitwise readings `getLsbD_get` and
`getLsbD_set`.
-/

/-- The bits `lsb..msb` of a `w`-bit word, the bounds checked by computation. -/
structure Bitfield (w : Nat) where
  lsb : Nat
  msb : Nat
  bounded : (lsb ≤ msb && msb < w) = true := by exact Eq.refl true

namespace Bitfield

variable {w : Nat}

theorem ordered (f : Bitfield w) : f.lsb ≤ f.msb :=
  of_decide_eq_true (Bool.and_eq_true_iff.mp f.bounded).1

theorem inside (f : Bitfield w) : f.msb < w :=
  of_decide_eq_true (Bool.and_eq_true_iff.mp f.bounded).2

/-- Number of bits of the field. -/
def width (f : Bitfield w) : Nat := f.msb + 1 - f.lsb

/-- The low `width` bits set. -/
def lowMask (f : Bitfield w) : BitVec w := BitVec.ofNat w (2 ^ f.width - 1)

/-- The value of the field. -/
def get (f : Bitfield w) (raw : BitVec w) : BitVec w := (raw >>> f.lsb) &&& f.lowMask

/-- Replace the field by the bits of `v` that fit. -/
def set (f : Bitfield w) (raw v : BitVec w) : BitVec w :=
  (raw &&& ~~~(f.lowMask <<< f.lsb)) ||| ((v &&& f.lowMask) <<< f.lsb)

/-- The one-bit field `n`. -/
abbrev bit (n : Nat) (inside : decide (n < w) = true := by exact Eq.refl true) : Bitfield w :=
  { lsb := n, msb := n, bounded := Bool.and_eq_true_iff.mpr ⟨decide_eq_true n.le_refl, inside⟩ }

/-- A one-bit field read as a truth value. -/
def test (f : Bitfield w) (raw : BitVec w) : Bool := raw.getLsbD f.lsb

/-- Write a truth value to a one-bit field. -/
def put (f : Bitfield w) (raw : BitVec w) (b : Bool) : BitVec w := f.set raw (BitVec.ofNat w b.toNat)

/-- No bit belongs to both fields. -/
def Disjoint (f g : Bitfield w) : Prop := f.msb < g.lsb ∨ g.msb < f.lsb

instance (f g : Bitfield w) : Decidable (Disjoint f g) :=
  inferInstanceAs (Decidable (_ ∨ _))

theorem getLsbD_lowMask (f : Bitfield w) (i : Nat) :
    f.lowMask.getLsbD i = (decide (i < w) && decide (i < f.width)) := by
  simp only [lowMask, BitVec.getLsbD_ofNat, Nat.testBit_two_pow_sub_one]

theorem getLsbD_get (f : Bitfield w) (raw : BitVec w) (i : Nat) :
    (f.get raw).getLsbD i =
      (decide (i < w) && decide (i < f.width) && raw.getLsbD (f.lsb + i)) := by
  simp only [get, BitVec.getLsbD_and, BitVec.getLsbD_ushiftRight, getLsbD_lowMask]
  exact Bool.and_comm _ _

theorem getLsbD_set (f : Bitfield w) (raw v : BitVec w) {i : Nat} (bound : i < w) :
    (f.set raw v).getLsbD i =
      if f.lsb ≤ i ∧ i ≤ f.msb then v.getLsbD (i - f.lsb) else raw.getLsbD i := by
  have range : (f.lsb ≤ i ∧ i ≤ f.msb) ↔ (f.lsb ≤ i ∧ i - f.lsb < f.width) := by
    have := f.ordered
    unfold width
    omega
  simp only [set, BitVec.getLsbD_or, BitVec.getLsbD_and, BitVec.getLsbD_not,
    BitVec.getLsbD_shiftLeft, getLsbD_lowMask, range]
  by_cases low : f.lsb ≤ i <;> by_cases high : i - f.lsb < f.width <;>
    simp [bound, low, high, Nat.not_lt.mpr] <;> grind

/-- Reading back a field that was just written gives the bits that fit. -/
@[simp] theorem get_set_self (f : Bitfield w) (raw v : BitVec w) :
    f.get (f.set raw v) = v &&& f.lowMask := by
  apply BitVec.eq_of_getLsbD_eq
  intro i bound
  rw [getLsbD_get, BitVec.getLsbD_and, getLsbD_lowMask]
  by_cases small : i < f.width
  · have ordered := f.ordered
    have inside := f.inside
    have upper : f.lsb + i ≤ f.msb := by unfold width at small; omega
    rw [getLsbD_set f raw v (by omega), if_pos ⟨by omega, upper⟩, Nat.add_sub_cancel_left]
    simp [bound, small]
  · simp [small]

/-- A write does not disturb a disjoint field. -/
theorem get_set_of_disjoint {f g : Bitfield w} (apart : f.Disjoint g) (raw v : BitVec w) :
    f.get (g.set raw v) = f.get raw := by
  apply BitVec.eq_of_getLsbD_eq
  intro i bound
  rw [getLsbD_get, getLsbD_get]
  by_cases small : i < f.width
  · have fOrdered := f.ordered
    have gOrdered := g.ordered
    have inside := f.inside
    have upper : f.lsb + i ≤ f.msb := by unfold width at small; omega
    rw [getLsbD_set g raw v (by omega), if_neg (by unfold Disjoint at apart; omega)]
  · simp [small]

/-- Masking with the low bits is reduction modulo the size of the field. -/
theorem toNat_and_lowMask (f : Bitfield w) (v : BitVec w) :
    (v &&& f.lowMask).toNat = v.toNat % 2 ^ f.width := by
  have width : f.width ≤ w := by
    have := f.inside
    unfold width
    omega
  have fits : 2 ^ f.width - 1 < 2 ^ w :=
    Nat.lt_of_lt_of_le (Nat.sub_lt (Nat.two_pow_pos _) Nat.one_pos)
      (Nat.pow_le_pow_right (by decide) width)
  rw [BitVec.toNat_and, lowMask, BitVec.toNat_ofNat, Nat.mod_eq_of_lt fits,
    Nat.and_two_pow_sub_one_eq_mod]

theorem toNat_get_lt (f : Bitfield w) (raw : BitVec w) : (f.get raw).toNat < 2 ^ f.width := by
  unfold get
  rw [toNat_and_lowMask]
  exact Nat.mod_lt _ (Nat.two_pow_pos _)

/-- The value read back after a write, as a number. -/
theorem toNat_get_set (f : Bitfield w) (raw v : BitVec w) :
    (f.get (f.set raw v)).toNat = v.toNat % 2 ^ f.width := by
  rw [get_set_self, toNat_and_lowMask]

/-- A write is read back unchanged exactly when the value fits the field. -/
theorem get_set_eq_iff (f : Bitfield w) (raw v : BitVec w) :
    f.get (f.set raw v) = v ↔ v.toNat < 2 ^ f.width := by
  rw [← BitVec.toNat_inj, toNat_get_set]
  apply Iff.intro
  · intro same
    rw [← same]
    exact Nat.mod_lt _ (Nat.two_pow_pos _)
  · exact Nat.mod_eq_of_lt

/-- The bit a one-bit write sets. -/
theorem test_set_self (f : Bitfield w) (raw v : BitVec w) :
    f.test (f.set raw v) = v.getLsbD 0 := by
  have := f.ordered
  have := f.inside
  rw [test, getLsbD_set f raw v (by omega), if_pos ⟨Nat.le_refl _, f.ordered⟩, Nat.sub_self]

theorem test_set_of_disjoint {f g : Bitfield w} (apart : f.Disjoint g) (raw v : BitVec w) :
    f.test (g.set raw v) = f.test raw := by
  have := f.ordered
  have := f.inside
  have outside : ¬(g.lsb ≤ f.lsb ∧ f.lsb ≤ g.msb) := by
    have := g.ordered
    unfold Disjoint at apart
    omega
  rw [test, getLsbD_set g raw v (by omega), if_neg outside, test]

theorem test_and (f : Bitfield w) (a b : BitVec w) : f.test (a &&& b) = (f.test a && f.test b) :=
  BitVec.getLsbD_and

theorem test_not (f : Bitfield w) (a : BitVec w) : f.test (~~~a) = !f.test a := by
  have inside : f.lsb < w := Nat.lt_of_le_of_lt f.ordered f.inside
  unfold test
  rw [BitVec.getLsbD_not, decide_eq_true inside, Bool.true_and]

/-- A word with only the bit `n` set meets another one exactly in this bit. -/
theorem put_and_eq_zero_iff {n : Nat} (inside : decide (n < w) = true) (x : BitVec w) :
    (bit n inside).put 0 true &&& x = 0 ↔ (bit n inside).test x = false := by
  have bound := of_decide_eq_true inside
  have single : ∀ i < w, ((bit n inside).put 0 true).getLsbD i = decide (i = n) := by
    intro i bound
    rw [put, getLsbD_set _ _ _ bound]
    by_cases here : i = n
    · subst here
      rw [if_pos ⟨Nat.le_refl _, Nat.le_refl _⟩, Nat.sub_self]
      simpa using by omega
    · have outside : ¬(n ≤ i ∧ i ≤ n) := by omega
      rw [if_neg outside, decide_eq_false here]
      exact BitVec.getLsbD_zero
  apply Iff.intro
  · intro none
    have apart : ((bit n inside).put 0 true &&& x).getLsbD n = false := by
      rw [none]
      exact BitVec.getLsbD_zero
    rw [BitVec.getLsbD_and, single n bound, decide_eq_true rfl, Bool.true_and] at apart
    exact apart
  · intro clear
    apply BitVec.eq_of_getLsbD_eq
    intro i bound
    have zero : (0 : BitVec w).getLsbD i = false := BitVec.getLsbD_zero
    rw [BitVec.getLsbD_and, single i bound, zero, Bool.and_eq_false_imp]
    intro here
    rw [of_decide_eq_true here]
    exact clear

end Bitfield
