import Emmc.Mmc

/-!
# The clock behind the delays between register writes

Some controllers need a pause between two register writes. The driver remembers when it wrote last,
in microseconds of a free-running 64-bit counter, and busy-waits until the delay is over.

* `tscToUs_toNat`: the conversion is exact as long as the product does not overflow.
* `clock_iff`: the clock runs forwards and a write waits no longer than the delay exactly as long as
  the counter stays within the readings whose product does not overflow.

The counter is the generic timer with a frequency of at most 32 bits. What the counter reads is
given as a list of readings.
-/

namespace Emmc

namespace Clock

/-! ## The code -/

/-- `tsc_to_us` with the generic timer. -/
def tscToUs (genericTimerFreq : U32) (tsc : U64) : U64 :=
  let freq : U64 := genericTimerFreq.setWidth 64
  if freq ≠ 0 then tsc * 1000000 / freq else 0

/-- Read the counter until it has reached a point in time, and return the readings that are left.
The loop goes on when no reading is left. -/
def busyWaitUntil (freq : U32) (til : U64) : List U64 → Option (List U64)
  | [] => none
  | tsc :: readings => if tscToUs freq tsc < til then busyWaitUntil freq til readings else some readings

structure WriteDelay where
  writeDelay : U32 := 0
  lastRegWrite : U64 := 0

/-- Wait until the delay has passed since the last write operation. -/
def WriteDelay.wait (d : WriteDelay) (freq : U32) (readings : List U64) : Option (List U64) :=
  busyWaitUntil freq (d.lastRegWrite + d.writeDelay.setWidth 64) readings

/-- Record the time of a write operation. -/
def WriteDelay.updateLastWrite (d : WriteDelay) (freq : U32) (tsc : U64) : WriteDelay :=
  { d with lastRegWrite := tscToUs freq tsc }

/-! ## What the delays rely on -/

/-- The clock runs forwards while the counter reads less than `n`. -/
def Forward (freq : U32) (n : Nat) : Prop :=
  ∀ t₀ t₁ : U64, t₀ ≤ t₁ → t₁.toNat < n → tscToUs freq t₀ ≤ tscToUs freq t₁

/-- After a write at `t₀`, the wait is over when the counter reads `t₁` and the delay has passed
since then. -/
def Prompt (freq : U32) (n : Nat) : Prop :=
  ∀ (d : WriteDelay) (t₀ t₁ : U64) (before later : List U64), t₀ ≤ t₁ → t₁.toNat < n →
    d.writeDelay.toNat * freq.toNat ≤ (t₁.toNat - t₀.toNat) * 1000000 →
    ∃ rest, (d.updateLastWrite freq t₀).wait freq (before ++ t₁ :: later) = some rest ∧
      later <:+ rest

/-- The first reading whose product with a million overflows. -/
def firstOverflow : Nat := 18446744073710

/-! ## The conversion -/

theorem tscToUs_eq {freq : U32} (running : freq ≠ 0) (tsc : U64) :
    (tscToUs freq tsc).toNat = tsc.toNat * 1000000 % 2 ^ 64 / freq.toNat := by
  have wide : (freq.setWidth 64).toNat = freq.toNat := BitVec.toNat_setWidth_of_le (by decide)
  have some : freq.setWidth 64 ≠ 0 := by
    intro none
    have zero := congrArg BitVec.toNat none
    rw [wide] at zero
    exact running (BitVec.eq_of_toNat_eq zero)
  rw [tscToUs, if_pos some, BitVec.toNat_udiv, BitVec.toNat_mul, wide]
  rfl

theorem tscToUs_toNat {freq : U32} (running : freq ≠ 0) {tsc : U64}
    (small : tsc.toNat < firstOverflow) :
    (tscToUs freq tsc).toNat = tsc.toNat * 1000000 / freq.toNat := by
  rw [firstOverflow] at small
  rw [tscToUs_eq running, Nat.mod_eq_of_lt (by omega)]

theorem forward_of_le {freq : U32} (running : freq ≠ 0) {n : Nat} (bound : n ≤ firstOverflow) :
    Forward freq n := by
  intro t₀ t₁ order less
  rw [BitVec.le_def] at order ⊢
  rw [tscToUs_toNat running (by omega), tscToUs_toNat running (by omega)]
  exact Nat.div_le_div_right (Nat.mul_le_mul_right _ order)

/-- The loop ends at the latest with a reading that has reached the point in time. -/
theorem busyWaitUntil_reached {freq : U32} {til tsc : U64} (before later : List U64)
    (reached : til ≤ tscToUs freq tsc) :
    ∃ rest, busyWaitUntil freq til (before ++ tsc :: later) = some rest ∧ later <:+ rest := by
  induction before with
  | nil =>
    rw [List.nil_append, busyWaitUntil, if_neg (BitVec.not_lt.mpr reached)]
    exact ⟨later, rfl, List.suffix_refl later⟩
  | cons first before ih =>
    rw [List.cons_append, busyWaitUntil]
    split
    · exact ih
    · refine ⟨_, rfl, ?_⟩
      exact (List.suffix_cons tsc later).trans (List.suffix_append before _)

theorem prompt_of_le {freq : U32} (running : freq ≠ 0) {n : Nat} (bound : n ≤ firstOverflow) :
    Prompt freq n := by
  intro d t₀ t₁ before later order less passed
  have positive : 0 < freq.toNat := by
    have some : freq.toNat ≠ 0 := fun none => running (BitVec.eq_of_toNat_eq none)
    omega
  refine busyWaitUntil_reached before later ?_
  rw [BitVec.le_def] at order ⊢
  have start : ((d.updateLastWrite freq t₀).lastRegWrite).toNat =
      t₀.toNat * 1000000 / freq.toNat := tscToUs_toNat running (by omega)
  rw [tscToUs_toNat running (by omega), BitVec.toNat_add, start]
  have wide : (d.writeDelay.setWidth 64).toNat = d.writeDelay.toNat :=
    BitVec.toNat_setWidth_of_le (by decide)
  calc (t₀.toNat * 1000000 / freq.toNat + (d.writeDelay.setWidth 64).toNat) % 2 ^ 64
      ≤ t₀.toNat * 1000000 / freq.toNat + d.writeDelay.toNat := by
        rw [wide]
        exact Nat.mod_le _ _
    _ = (t₀.toNat * 1000000 + d.writeDelay.toNat * freq.toNat) / freq.toNat :=
        (Nat.add_mul_div_right _ _ positive).symm
    _ ≤ t₁.toNat * 1000000 / freq.toNat := by
        refine Nat.div_le_div_right ?_
        have sum : t₀.toNat + (t₁.toNat - t₀.toNat) = t₁.toNat := Nat.add_sub_cancel' order
        calc t₀.toNat * 1000000 + d.writeDelay.toNat * freq.toNat
            ≤ t₀.toNat * 1000000 + (t₁.toNat - t₀.toNat) * 1000000 := Nat.add_le_add_left passed _
          _ = t₁.toNat * 1000000 := by rw [← Nat.add_mul, sum]

/-- At the first overflow the clock jumps back, with every frequency. -/
theorem backward {freq : U32} (running : freq ≠ 0) :
    tscToUs freq (BitVec.ofNat 64 firstOverflow) <
      tscToUs freq (BitVec.ofNat 64 (firstOverflow - 1)) := by
  have positive : 0 < freq.toNat := by
    have some : freq.toNat ≠ 0 := fun none => running (BitVec.eq_of_toNat_eq none)
    omega
  have small := freq.isLt
  rw [BitVec.lt_def, tscToUs_eq running, tscToUs_eq running]
  show 448384 / freq.toNat < 18446744073709000000 / freq.toNat
  calc 448384 / freq.toNat ≤ 448384 := Nat.div_le_self _ _
    _ < 18446744073709000000 / freq.toNat :=
      (Nat.lt_div_iff_mul_lt positive).mpr (by omega)

/-- The clock can be relied on exactly up to the first overflow. -/
theorem clock_iff {freq : U32} (running : freq ≠ 0) (n : Nat) :
    Forward freq n ∧ Prompt freq n ↔ n ≤ firstOverflow := by
  apply Iff.intro
  · intro given
    rcases given with ⟨forward, -⟩
    refine Nat.le_of_not_lt fun beyond => ?_
    have jump := backward running
    have order := forward (BitVec.ofNat 64 (firstOverflow - 1)) (BitVec.ofNat 64 firstOverflow)
      (by decide) beyond
    exact absurd jump (BitVec.not_lt.mpr order)
  · exact fun bound => ⟨forward_of_le running bound, prompt_of_le running bound⟩

/-- A counter of 54 MHz can be relied on for almost four days. -/
theorem clock_54 : Forward 54000000 firstOverflow ∧ Prompt 54000000 firstOverflow :=
  (clock_iff (by decide) firstOverflow).mpr (Nat.le_refl _)

/-- A write just before the overflow, with a delay of 10 us: when the delay has passed the clock has
jumped back, and the wait goes on. -/
theorem wait_goes_on_54 :
    let t₀ : U64 := 18446744073709
    let t₁ : U64 := 18446744074249
    (t₁.toNat - t₀.toNat) * 1000000 = 10 * (54000000 : U32).toNat ∧
      tscToUs 54000000 t₁ < tscToUs 54000000 t₀ ∧
      (({ writeDelay := 10 } : WriteDelay).updateLastWrite 54000000 t₀).wait 54000000 [t₁] =
        none := by
  decide

end Clock

end Emmc
