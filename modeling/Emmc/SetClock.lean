import Mathlib.Data.BitVec
import Emmc.Lib.Search
import Emmc.Sdhci.Hw
import Emmc.Sdhi.Hw

/-!
# The clock of the card

`set_clock` of the two drivers looks for a divider of the host clock and writes it to a register. The
controllers encode dividers differently; what is programmed is what the register reads back as.

* `usdhcDividers`, `base10Divider`, `Sdhi.clockDivider`: the searches, `none` if one would not end.
* `Slow host freq c`: the host clock divided by `c` is not above the frequency.
* `setClock_optimal`: the divider is the smallest slow candidate, or the largest candidate.

The message about `Reg_cap2_sdhci` is left out.
-/

namespace Emmc

open Throwing Search

/-- The product fits 32 bits. -/
def NoWrap (x y : U32) : Prop := x.toNat * y.toNat < 2 ^ 32

theorem NoWrap.toNat {x y : U32} (fits : NoWrap x y) : (x * y).toNat = x.toNat * y.toNat :=
  BitVec.toNat_mul_of_lt fits

/-- The host clock divided by `c` is not above the frequency. -/
def Slow (hostClock freq : U32) (c : Nat) : Prop := hostClock.toNat / c ≤ freq.toNat

theorem slow_upward (hostClock freq : U32) : Upward (Slow hostClock freq) :=
  fun _ _ positive le fine => Nat.le_trans (Nat.div_le_div_left le positive) fine

theorem slow_iff {hostClock freq div : U32} :
    hostClock / div ≤ freq ↔ Slow hostClock freq div.toNat := by
  rw [BitVec.le_def, BitVec.toNat_udiv, Slow]

theorem fast_iff {hostClock freq div : U32} :
    freq < hostClock / div ↔ ¬ Slow hostClock freq div.toNat := by
  rw [← slow_iff, BitVec.not_le]

/-! ## The code -/

namespace Sdhci

/-- What `set_clock` changes. -/
structure Clocked where
  hw : Hw := {}
  writeDelay : U32 := 0

abbrev ClockM := EStateM RuntimeError Clocked

def onRegs {α : Type} (m : HwM α) : ClockM α := zoom Clocked.hw (fun h t => { t with hw := h }) m

def ddrPreDiv (ddrActive : Bool) : U32 := if ddrActive then 2 else 1

def tooFast (hostClock freq divider : U32) : Bool := freq < hostClock / divider

def preDivSmall (hostClock freq ddrPreDiv preDiv : U32) : Bool :=
  tooFast hostClock freq (16 * preDiv * ddrPreDiv) && decide (preDiv < 256)

def divSmall (hostClock freq ddrPreDiv preDiv div : U32) : Bool :=
  tooFast hostClock freq (div * preDiv * ddrPreDiv) && decide (div < 16)

/-- The prescaler and the divisor. -/
def usdhcDividers (hostClock freq ddrPreDiv : U32) : Option (U32 × U32) := do
  let preDiv ← loop (preDivSmall hostClock freq ddrPreDiv) (fun preDiv => preDiv <<< 1) 9 1
  let div ← loop (divSmall hostClock freq ddrPreDiv preDiv) (fun div => div + 1) 16 1
  return (preDiv, div)

def base10Divider (hostClock freq : U32) : Option U32 :=
  if hostClock ≤ freq then some 1
  else loop (fun div => decide (div < 2046) && !decide (hostClock / div ≤ freq))
    (fun div => div + 2) 1023 2

section Registers

open RegSysCtrl

def usdhcDisabled (sc : U32) : U32 :=
  sdclkfs.set (dvs.set (sdcen.put (icst.put (icen.put sc false) false) false) 0) 0

def usdhcEnabled (sc preDiv div : U32) : U32 :=
  sdclkfs.set (dvs.set (sdcen.put (icst.put (icen.put sc true) true) true) div) preDiv

def base10Enabled (div : U32) : U32 :=
  clkFreqMs2.set (clkFreq8.set (icen.put 0 true) (div &&& 0xff)) (div >>> 8 &&& 0x3)

end Registers

def programUsdhc (preDiv div : U32) : ClockM Unit := do
  let sc ← onRegs (readReg .sysCtrl)
  onRegs (writeReg .sysCtrl (usdhcDisabled sc))
  let sc ← onRegs (readReg .sysCtrl)
  onRegs (writeReg .sysCtrl (usdhcEnabled sc (preDiv >>> 1) (div - 1)))

def setClockUsdhc (hostClock freq : U32) (ddrActive : Bool) : Option (ClockM Unit) := do
  let (preDiv, div) ← usdhcDividers hostClock freq (ddrPreDiv ddrActive)
  return programUsdhc preDiv div

/-- `stable`: the clock becomes stable in time. -/
def programBase10 (freq div : U32) (stable : Bool) : ClockM Unit := do
  onRegs (writeReg .sysCtrl 0)
  onRegs (writeReg .sysCtrl (base10Enabled (div >>> 1)))
  modify fun t => { t with writeDelay := (4000000 + freq - 1) / freq }
  onRegs (poll stable "Clock stable")
  let sc ← onRegs (readReg .sysCtrl)
  onRegs (writeReg .sysCtrl (RegSysCtrl.sdcen.put sc true))

def setClockBase10 (hostClock freq : U32) (stable : Bool) : Option (ClockM Unit) :=
  if freq = 0 then some (onRegs (writeReg .sysCtrl 0))
  else do
    let div ← base10Divider hostClock freq
    return programBase10 freq div stable

/-- The iproc controller takes the branch of the bcm2711. -/
def setClock (type : SdhciType) (hostClock freq : U32) (ddrActive stable : Bool) :
    Option (ClockM Unit) :=
  match type with
  | .bcm2711 => setClockBase10 hostClock freq stable
  | .plain | .usdhc => setClockUsdhc hostClock freq ddrActive

end Sdhci

namespace Sdhi

/-- The condition on `clk_div` and `real_clock`. -/
def realClockSlow (freq : U32) (t : U32 × U32) : Bool := t.2 <<< 1 ≤ freq

def clockDivider (freq : U32) : Option U32 :=
  if freq < 200000000 then
    (loop (realClockSlow freq) (fun t => (t.1 >>> 1, t.2 <<< 1)) 9 (0x80, 200000000 / 512)).map Prod.fst
  else some 0xff

def setClock (freq : U32) : Option (HwM Unit) := do
  let clkDiv ← clockDivider freq
  return do
    let ctrl ← readReg .sdClkCtrl
    writeReg .sdClkCtrl (RegSdClkCtrl.div.set ctrl clkDiv)

end Sdhi

/-! ## uSDHC -/

namespace Sdhci

/-- The prescaler `2 ^ i` is reached with `n` more rounds possible. -/
structure PreDivAt (hostClock freq k : U32) (n : Nat) (preDiv : U32) (i : Nat) : Prop where
  rounds : i + n = 8
  value : preDiv.toNat = 2 ^ i
  tooSmall : ∀ j < i, ¬ Slow hostClock freq (16 * 2 ^ j * k.toNat)

theorem PreDivAt.le {hostClock freq k : U32} {n i : Nat} {preDiv : U32}
    (here : PreDivAt hostClock freq k n preDiv i) : preDiv.toNat ≤ 256 := by
  have rounds := here.rounds
  rw [here.value]
  exact Nat.pow_le_pow_right (by decide) (show i ≤ 8 by omega)

section Usdhc

variable {hostClock freq k : U32} (ratio : k.toNat ≤ 2)
include ratio

theorem preDiv_fits {preDiv : U32} (bound : preDiv.toNat ≤ 256) :
    NoWrap 16 preDiv ∧ NoWrap (16 * preDiv) k ∧
      (16 * preDiv * k).toNat = 16 * preDiv.toNat * k.toNat := by
  have first : NoWrap 16 preDiv := by
    show 16 * preDiv.toNat < _
    omega
  have product : (16 * preDiv).toNat = 16 * preDiv.toNat := first.toNat
  have second : NoWrap (16 * preDiv) k := by
    unfold NoWrap
    rw [product]
    calc 16 * preDiv.toNat * k.toNat ≤ 16 * 256 * 2 :=
          Nat.mul_le_mul (Nat.mul_le_mul_left _ bound) ratio
      _ < 2 ^ 32 := by decide
  exact ⟨first, second, by rw [second.toNat, product]⟩

theorem div_fits {preDiv div : U32} (bound : preDiv.toNat ≤ 256) (small : div.toNat ≤ 16) :
    NoWrap div preDiv ∧ NoWrap (div * preDiv) k ∧
      (div * preDiv * k).toNat = div.toNat * preDiv.toNat * k.toNat := by
  have product : div.toNat * preDiv.toNat ≤ 16 * 256 := Nat.mul_le_mul small bound
  have first : NoWrap div preDiv := Nat.lt_of_le_of_lt product (by decide)
  have second : NoWrap (div * preDiv) k := by
    unfold NoWrap
    rw [first.toNat]
    calc div.toNat * preDiv.toNat * k.toNat ≤ 16 * 256 * 2 := Nat.mul_le_mul product ratio
      _ < 2 ^ 32 := by decide
  exact ⟨first, second, by rw [second.toNat, first.toNat]⟩

theorem PreDivAt.next {n i : Nat} {preDiv : U32}
    (here : PreDivAt hostClock freq k (n + 1) preDiv i)
    (again : preDivSmall hostClock freq k preDiv = true) :
    PreDivAt hostClock freq k n (preDiv <<< 1) (i + 1) := by
  unfold preDivSmall tooFast at again
  rw [Bool.and_eq_true, decide_eq_true_eq, fast_iff, (preDiv_fits ratio here.le).2.2,
    here.value] at again
  have rounds := here.rounds
  have bound := here.le
  refine ⟨by omega, ?_, fun j less => ?_⟩
  · rw [BitVec.toNat_shiftLeft, Nat.shiftLeft_eq, Nat.mod_eq_of_lt (by omega), here.value]
    exact (Nat.pow_succ ..).symm
  · rcases Nat.lt_succ_iff_lt_or_eq.mp less with earlier | now
    · exact here.tooSmall j earlier
    · rw [now]
      exact again.1

variable (hostClock freq) in
/-- Where the first loop ends. -/
theorem preDiv_loop :
    (∃ preDiv i n, loop (preDivSmall hostClock freq k) (fun preDiv => preDiv <<< 1) 9 1 = some preDiv ∧
      PreDivAt hostClock freq k n preDiv i ∧ (Slow hostClock freq (16 * 2 ^ i * k.toNat) ∨ i = 8)) ∧
    ∀ preDiv ∈ visits (preDivSmall hostClock freq k) (fun preDiv => preDiv <<< 1) 9 1,
      preDiv.toNat ≤ 256 := by
  have rule := loop_rule (preDivSmall hostClock freq k) (fun preDiv => preDiv <<< 1)
    (fun n preDiv => ∃ i, PreDivAt hostClock freq k n preDiv i) ?_ ?_ 8 1
    ⟨0, rfl, rfl, fun j less => absurd less (Nat.not_lt_zero j)⟩
  · rcases rule with ⟨⟨preDiv, ends, ⟨n, i, here⟩, exceeds⟩, visited⟩
    refine ⟨⟨preDiv, i, n, ends, here, ?_⟩, fun y member => ?_⟩
    · unfold preDivSmall tooFast at exceeds
      rw [Bool.and_eq_false_iff, decide_eq_false_iff_not, decide_eq_false_iff_not, fast_iff, not_not,
        (preDiv_fits ratio here.le).2.2, here.value] at exceeds
      apply exceeds.imp_right
      intro large
      have rounds := here.rounds
      rw [BitVec.lt_def, here.value] at large
      by_contra other
      exact large (Nat.pow_lt_pow_right (by decide) (show i < 8 by omega))
    · obtain ⟨n, i, here⟩ := visited y member
      exact here.le
  · intro preDiv post
    rcases post with ⟨i, here⟩
    have rounds := here.rounds
    have value := here.value
    rw [show i = 8 by omega] at value
    unfold preDivSmall
    rw [Bool.and_eq_false_iff, decide_eq_false_iff_not, BitVec.lt_def, value]
    exact Or.inr (by decide)
  · rintro n preDiv ⟨i, here⟩ again
    exact ⟨i + 1, here.next ratio again⟩

/-- The divisor is reached behind the prescaler `2 ^ i`, with `n` more rounds possible. -/
structure DivAt (hostClock freq k : U32) (i n : Nat) (div : U32) : Prop where
  rounds : div.toNat + n = 16
  positive : 1 ≤ div.toNat
  tooSmall : ∀ e, 1 ≤ e → e < div.toNat → ¬ Slow hostClock freq (e * 2 ^ i * k.toNat)

variable (hostClock freq) in
/-- Where the second loop ends. -/
theorem div_loop {preDiv : U32} {i : Nat} (bound : i ≤ 8) (value : preDiv.toNat = 2 ^ i) :
    (∃ div n, loop (divSmall hostClock freq k preDiv) (fun div => div + 1) 16 1 = some div ∧
      DivAt hostClock freq k i n div ∧
      (Slow hostClock freq (div.toNat * 2 ^ i * k.toNat) ∨ div.toNat = 16)) ∧
    ∀ div ∈ visits (divSmall hostClock freq k preDiv) (fun div => div + 1) 16 1, div.toNat ≤ 16 := by
  have small : preDiv.toNat ≤ 256 := by
    rw [value]
    exact Nat.pow_le_pow_right (by decide) bound
  have rule := loop_rule (divSmall hostClock freq k preDiv) (fun div => div + 1)
    (DivAt hostClock freq k i) ?_ ?_ 15 1 ⟨rfl, Nat.le_refl 1, fun e one less => ?_⟩
  · rcases rule with ⟨⟨div, ends, ⟨n, here⟩, exceeds⟩, visited⟩
    have rounds := here.rounds
    refine ⟨⟨div, n, ends, here, ?_⟩, fun y member => ?_⟩
    · unfold divSmall tooFast at exceeds
      rw [Bool.and_eq_false_iff, decide_eq_false_iff_not, decide_eq_false_iff_not, fast_iff, not_not,
        (div_fits ratio small (show div.toNat ≤ 16 by omega)).2.2, value] at exceeds
      apply exceeds.imp_right
      intro large
      rw [BitVec.lt_def] at large
      have sixteen : (16 : U32).toNat = 16 := rfl
      omega
    · obtain ⟨m, there⟩ := visited y member
      have left := there.rounds
      omega
  · intro div here
    have rounds := here.rounds
    unfold divSmall
    rw [Bool.and_eq_false_iff, decide_eq_false_iff_not, BitVec.lt_def, show div.toNat = 16 from rounds]
    exact Or.inr (by decide)
  · intro n div here again
    have rounds := here.rounds
    have fits := (div_fits ratio small (show div.toNat ≤ 16 by omega)).2.2
    unfold divSmall tooFast at again
    rw [Bool.and_eq_true, decide_eq_true_eq, fast_iff, fits, value] at again
    have next : (div + 1).toNat = div.toNat + 1 := by
      rw [BitVec.toNat_add]
      exact Nat.mod_eq_of_lt (show div.toNat + 1 < 2 ^ 32 by omega)
    refine ⟨by omega, by omega, fun e one less => ?_⟩
    rw [next] at less
    rcases Nat.lt_succ_iff_lt_or_eq.mp less with earlier | now
    · exact here.tooSmall e one earlier
    · rw [now]
      exact again.1
  · exact absurd less (Nat.not_lt.mpr one)

variable (hostClock freq) in
/-- What the two searches find. -/
theorem usdhcDividers_spec :
    ∃ preDiv div, usdhcDividers hostClock freq k = some (preDiv, div) ∧
      (∃ i ≤ 8, preDiv.toNat = 2 ^ i) ∧ (1 ≤ div.toNat ∧ div.toNat ≤ 16) ∧
      LeastOrLast (Slow hostClock freq) ((· * k.toNat) '' products 8 8)
        (div.toNat * preDiv.toNat * k.toNat) := by
  obtain ⟨preDiv, i, n, first, here, enough⟩ := (preDiv_loop hostClock freq ratio).1
  have power : i ≤ 8 := by
    have rounds := here.rounds
    omega
  obtain ⟨div, m, second, there, ends⟩ := (div_loop hostClock freq ratio power here.value).1
  have factor : div.toNat ≤ 16 := by
    have rounds := there.rounds
    omega
  refine ⟨preDiv, div, ?_, ⟨i, power, here.value⟩, ⟨there.positive, factor⟩, ?_⟩
  · unfold usdhcDividers
    rw [first]
    show (loop _ _ 16 1).bind _ = _
    rw [second]
    rfl
  rw [here.value]
  have up : Upward (fun c => Slow hostClock freq (c * k.toNat)) := by
    intro a b positive le fine
    rcases Nat.eq_zero_or_pos k.toNat with zero | some
    · rw [zero] at fine ⊢
      exact fine
    · exact slow_upward hostClock freq _ _ (Nat.mul_pos positive some) (Nat.mul_le_mul_right _ le) fine
  exact (leastOrLast_product up power here.tooSmall enough there.positive factor there.tooSmall
    ends).scale

end Usdhc

/-! ### Encoding -/

section Encoding

open RegSysCtrl

def clockDivider (ddrActive : Bool) (sc : U32) : U32 :=
  if ddrActive then clockDividerDdr sc else clockDividerSdr sc

theorem sdclkfs_usdhcEnabled (sc div : U32) {preDiv : U32} (small : preDiv.toNat < 256) :
    sdclkfs.get (usdhcEnabled sc preDiv div) = preDiv :=
  (Bitfield.get_set_eq_iff _ _ _).mpr small

theorem dvs_usdhcEnabled (sc preDiv : U32) {div : U32} (small : div.toNat < 16) :
    dvs.get (usdhcEnabled sc preDiv div) = div := by
  unfold usdhcEnabled
  rw [Bitfield.get_set_of_disjoint (by decide)]
  exact (Bitfield.get_set_eq_iff _ _ _).mpr small

/-- The decoders do not overflow, whatever the register holds. -/
theorem clockDivider_fits (raw : U32) :
    (NoWrap (sdclkfs.get raw) 4 ∧ (dvs.get raw + 1).toNat = (dvs.get raw).toNat + 1) ∧
      NoWrap (if sdclkfs.get raw ≠ 0 then sdclkfs.get raw * 2 else 1) (dvs.get raw + 1) ∧
      NoWrap (if sdclkfs.get raw ≠ 0 then sdclkfs.get raw * 4 else 2) (dvs.get raw + 1) := by
  have scale : (sdclkfs.get raw).toNat < 256 := sdclkfs.toNat_get_lt raw
  have divisor : (dvs.get raw).toNat < 16 := dvs.toNat_get_lt raw
  have next : (dvs.get raw + 1).toNat = (dvs.get raw).toNat + 1 := by
    rw [BitVec.toNat_add]
    exact Nat.mod_eq_of_lt (show (dvs.get raw).toNat + 1 < 2 ^ 32 by omega)
  have four : NoWrap (sdclkfs.get raw) 4 := by
    show (sdclkfs.get raw).toNat * 4 < _
    omega
  have two : NoWrap (sdclkfs.get raw) 2 := by
    show (sdclkfs.get raw).toNat * 2 < _
    omega
  have below : ∀ {x : U32}, x.toNat ≤ 255 * 4 → NoWrap x (dvs.get raw + 1) := by
    intro x bound
    unfold NoWrap
    rw [next]
    calc x.toNat * ((dvs.get raw).toNat + 1) ≤ 255 * 4 * 16 := Nat.mul_le_mul bound divisor
      _ < 2 ^ 32 := by decide
  have value4 : (sdclkfs.get raw * 4).toNat = (sdclkfs.get raw).toNat * 4 := four.toNat
  have value2 : (sdclkfs.get raw * 2).toNat = (sdclkfs.get raw).toNat * 2 := two.toNat
  refine ⟨⟨four, next⟩, below ?_, below ?_⟩
  · split
    · omega
    · decide
  · split
    · omega
    · decide

/-- A power of two is what its half is decoded as. -/
theorem prescaler_toNat {preDiv : U32} (power : ∃ i ≤ 8, preDiv.toNat = 2 ^ i) :
    (if preDiv >>> 1 ≠ 0 then preDiv >>> 1 * 2 else 1).toNat = preDiv.toNat ∧
      (if preDiv >>> 1 ≠ 0 then preDiv >>> 1 * 4 else 2).toNat = preDiv.toNat * 2 := by
  rcases power with ⟨i, bound, value⟩
  have half : (preDiv >>> 1).toNat = preDiv.toNat / 2 := by
    rw [BitVec.toNat_ushiftRight, Nat.shiftRight_eq_div_pow, Nat.pow_one]
  cases i with
  | zero =>
    have one : preDiv = 1 := BitVec.eq_of_toNat_eq value
    rw [one]
    decide
  | succ i =>
    have limit : 2 ^ i ≤ 2 ^ 7 := Nat.pow_le_pow_right (by decide) (show i ≤ 7 by omega)
    have some := Nat.two_pow_pos i
    have same : (preDiv >>> 1).toNat = 2 ^ i := by
      rw [half, value, Nat.pow_succ, Nat.mul_div_cancel _ (by decide)]
    have nonzero : preDiv >>> 1 ≠ 0 := by
      intro zero
      rw [zero] at same
      have none : 0 = 2 ^ i := same
      omega
    rw [if_pos nonzero, if_pos nonzero, BitVec.toNat_mul, BitVec.toNat_mul, same, value, Nat.pow_succ]
    apply And.intro
    · exact Nat.mod_eq_of_lt (show 2 ^ i * 2 < 2 ^ 32 by omega)
    · show 2 ^ i * 4 % 2 ^ 32 = _
      rw [Nat.mod_eq_of_lt (by omega)]
      omega

/-- The register reads back as the product of the dividers that were found. -/
theorem clockDivider_usdhcEnabled (sc : U32) (ddrActive : Bool) {preDiv div : U32}
    (power : ∃ i ≤ 8, preDiv.toNat = 2 ^ i) (one : 1 ≤ div.toNat) (small : div.toNat ≤ 16) :
    (clockDivider ddrActive (usdhcEnabled sc (preDiv >>> 1) (div - 1))).toNat =
      div.toNat * preDiv.toNat * (ddrPreDiv ddrActive).toNat := by
  have less : (div - 1).toNat = div.toNat - 1 := by bv_omega
  have half : (preDiv >>> 1).toNat < 256 := by
    rcases power with ⟨i, bound, value⟩
    have limit : 2 ^ i ≤ 2 ^ 8 := Nat.pow_le_pow_right (by decide) bound
    rw [BitVec.toNat_ushiftRight, Nat.shiftRight_eq_div_pow, Nat.pow_one, value]
    omega
  have scale := sdclkfs_usdhcEnabled sc (div - 1) half
  have divisor := dvs_usdhcEnabled sc (preDiv >>> 1) (show (div - 1).toNat < 16 by omega)
  obtain ⟨⟨-, next⟩, sdr, ddr⟩ := clockDivider_fits (usdhcEnabled sc (preDiv >>> 1) (div - 1))
  rw [scale] at sdr ddr
  rw [divisor] at sdr ddr next
  have whole : (div - 1 + 1).toNat = div.toNat := by omega
  obtain ⟨single, double⟩ := prescaler_toNat power
  cases ddrActive with
  | true =>
    show (clockDividerDdr _).toNat = div.toNat * preDiv.toNat * 2
    rw [clockDividerDdr, scale, divisor, ddr.toNat, double, whole, Nat.mul_comm, Nat.mul_assoc]
  | false =>
    show (clockDividerSdr _).toNat = div.toNat * preDiv.toNat * 1
    rw [clockDividerSdr, scale, divisor, sdr.toNat, single, whole, Nat.mul_comm, Nat.mul_one]

end Encoding

/-! ## Version 3.00 -/

/-- What a register field of 10 bits can stand for. -/
def base10Candidates : Set Nat := {c | c = 1 ∨ ∃ n, 1 ≤ n ∧ n ≤ 1023 ∧ c = 2 * n}

/-- The divider `2 * m` is reached with `n` more rounds possible. -/
structure Base10At (hostClock freq : U32) (n : Nat) (div : U32) (m : Nat) : Prop where
  rounds : m + n = 1023
  value : div.toNat = 2 * m
  positive : 1 ≤ m
  tooSmall : ∀ e, 1 ≤ e → e < m → ¬ Slow hostClock freq (2 * e)

theorem base10Divider_spec (hostClock freq : U32) :
    ∃ div, base10Divider hostClock freq = some div ∧
      LeastOrLast (Slow hostClock freq) base10Candidates div.toNat := by
  have up := slow_upward hostClock freq
  have positive : ∀ c ∈ base10Candidates, 0 < c := by
    intro c member
    rcases member with one | ⟨n, some, -, value⟩
    · omega
    · omega
  unfold base10Divider
  split
  · rename_i le
    have fine : Slow hostClock freq 1 := by
      rw [Slow, Nat.div_one]
      exact BitVec.le_def.mp le
    refine ⟨1, rfl, leastOrLast_ascending up positive (Or.inl rfl) (fun c member less => ?_)
      (Or.inl fine)⟩
    exact absurd (positive c member) (Nat.not_lt.mpr (Nat.le_of_lt_succ less))
  rename_i above
  have undivided : ¬ Slow hostClock freq 1 := by
    rw [Slow, Nat.div_one]
    exact fun le => above (BitVec.le_def.mpr le)
  have rule := loop_rule (fun div => decide (div < 2046) && !decide (hostClock / div ≤ freq))
    (fun div => div + 2) (fun n div => ∃ m, Base10At hostClock freq n div m) ?_ ?_ 1022 2
    ⟨1, rfl, rfl, Nat.le_refl 1, fun e one less => absurd less (Nat.not_lt.mpr one)⟩
  · rcases rule with ⟨⟨div, ends, ⟨n, m, here⟩, exceeds⟩, -⟩
    have rounds := here.rounds
    refine ⟨div, ends, leastOrLast_ascending up positive ?_ (fun c member less => ?_) ?_⟩
    · exact Or.inr ⟨m, here.positive, by omega, here.value⟩
    · rcases member with one | ⟨e, some, -, value⟩
      · rw [one]
        exact undivided
      · rw [here.value, value] at less
        rw [value]
        exact here.tooSmall e some (by omega)
    · rw [Bool.and_eq_false_iff, decide_eq_false_iff_not, Bool.not_eq_false', decide_eq_true_eq,
        slow_iff, BitVec.lt_def] at exceeds
      apply exceeds.symm.imp_right
      intro large c member
      have limit : (2046 : U32).toNat = 2046 := rfl
      rcases member with one | ⟨e, -, most, value⟩
      · omega
      · omega
  · intro div here
    rcases here with ⟨m, here⟩
    have rounds := here.rounds
    have value := here.value
    rw [Bool.and_eq_false_iff, decide_eq_false_iff_not, BitVec.lt_def, value, show m = 1023 from rounds]
    exact Or.inl (by decide)
  · intro n div here again
    rcases here with ⟨m, here⟩
    have rounds := here.rounds
    have value := here.value
    rw [Bool.and_eq_true, Bool.not_eq_true', decide_eq_false_iff_not, slow_iff, value] at again
    have next : (div + 2).toNat = div.toNat + 2 := by
      rw [BitVec.toNat_add]
      exact Nat.mod_eq_of_lt (show div.toNat + 2 < 2 ^ 32 by omega)
    refine ⟨m + 1, by omega, by omega, by omega, fun e one less => ?_⟩
    rcases Nat.lt_succ_iff_lt_or_eq.mp less with earlier | now
    · exact here.tooSmall e one earlier
    · rw [now]
      exact again.2

section Encoding

open RegSysCtrl

/-- The field value 0 stands for the host clock. -/
def baseDivider (sc : U32) : U32 := if clockBaseDivider10 sc = 0 then 1 else clockBaseDivider10 sc

/-- The decoder does not overflow, whatever the register holds. -/
theorem clockBaseDivider10_fits (raw : U32) :
    NoWrap (clkFreq8.get raw + clkFreqMs2.get raw <<< 8) 2 ∧
      (clockBaseDivider10 raw).toNat =
        2 * ((clkFreq8.get raw).toNat + 256 * (clkFreqMs2.get raw).toNat) := by
  have low : (clkFreq8.get raw).toNat < 256 := clkFreq8.toNat_get_lt raw
  have high : (clkFreqMs2.get raw).toNat < 4 := clkFreqMs2.toNat_get_lt raw
  have shifted : (clkFreqMs2.get raw <<< 8).toNat = 256 * (clkFreqMs2.get raw).toNat := by
    rw [BitVec.toNat_shiftLeft, Nat.shiftLeft_eq, Nat.mod_eq_of_lt (by omega), Nat.mul_comm]
  have sum : (clkFreq8.get raw + clkFreqMs2.get raw <<< 8).toNat =
      (clkFreq8.get raw).toNat + 256 * (clkFreqMs2.get raw).toNat := by
    rw [BitVec.toNat_add, shifted, Nat.mod_eq_of_lt (by omega)]
  have fits : NoWrap (clkFreq8.get raw + clkFreqMs2.get raw <<< 8) 2 := by
    show _ * 2 < _
    omega
  refine ⟨fits, ?_⟩
  rw [clockBaseDivider10, fits.toNat, sum]
  exact Nat.mul_comm _ _

/-- Both fields are read back from a word that has the clock enabled as well. -/
theorem base10_fields (div : U32) (enabled : Bool) :
    let sc := if enabled then sdcen.put (base10Enabled div) true else base10Enabled div
    clkFreq8.get sc = div &&& 0xff ∧ clkFreqMs2.get sc = div >>> 8 &&& 0x3 := by
  have low : clkFreq8.get (base10Enabled div) = div &&& 0xff := by
    unfold base10Enabled
    rw [Bitfield.get_set_of_disjoint (by decide), Bitfield.get_set_self, BitVec.and_assoc]
    rfl
  have high : clkFreqMs2.get (base10Enabled div) = div >>> 8 &&& 0x3 := by
    unfold base10Enabled
    rw [Bitfield.get_set_self, BitVec.and_assoc]
    rfl
  cases enabled with
  | true =>
    apply And.intro
    · exact (Bitfield.get_set_of_disjoint (by decide) _ _).trans low
    · exact (Bitfield.get_set_of_disjoint (by decide) _ _).trans high
  | false => exact ⟨low, high⟩

theorem baseDivider_base10Enabled {div : U32} (candidate : div.toNat ∈ base10Candidates)
    (enabled : Bool) :
    (baseDivider (if enabled then sdcen.put (base10Enabled (div >>> 1)) true
      else base10Enabled (div >>> 1))).toNat = div.toNat := by
  obtain ⟨low, high⟩ := base10_fields (div >>> 1) enabled
  revert low high
  generalize (if enabled then sdcen.put (base10Enabled (div >>> 1)) true
    else base10Enabled (div >>> 1)) = sc
  intro low high
  have value := (clockBaseDivider10_fits sc).2
  have mask8 : (div >>> 1 &&& 0xff).toNat = div.toNat / 2 % 256 := by
    rw [BitVec.toNat_and, BitVec.toNat_ushiftRight, Nat.shiftRight_eq_div_pow]
    exact Nat.and_two_pow_sub_one_eq_mod _ 8
  have mask2 : (div >>> 1 >>> 8 &&& 0x3).toNat = div.toNat / 2 / 256 % 4 := by
    rw [BitVec.toNat_and, BitVec.toNat_ushiftRight, BitVec.toNat_ushiftRight,
      Nat.shiftRight_eq_div_pow, Nat.shiftRight_eq_div_pow]
    exact Nat.and_two_pow_sub_one_eq_mod _ 2
  rw [low, high, mask8, mask2] at value
  rcases candidate with one | ⟨n, some, most, double⟩
  · rw [one] at value
    have zero : clockBaseDivider10 sc = 0 := BitVec.eq_of_toNat_eq value
    rw [baseDivider, if_pos zero, one]
    rfl
  · rw [double] at value
    have whole : (clockBaseDivider10 sc).toNat = 2 * n := by omega
    have nonzero : clockBaseDivider10 sc ≠ 0 := by
      intro zero
      rw [zero] at whole
      have none : 0 = 2 * n := whole
      omega
    rw [baseDivider, if_neg nonzero, whole, double]

end Encoding

end Sdhci

/-! ## SDHI -/

namespace Sdhi

open RegSdClkCtrl

/-- The dividers `set_divisor` accepts. -/
def candidates : Set Nat := {c | ∃ divisor raw, setDivisor 0 divisor = .ok raw ∧ c = divisor.toNat}

theorem mem_candidates {c : Nat} : c ∈ candidates ↔ ∃ i ≤ 9, c = 2 ^ i := by
  apply Iff.intro
  · intro given
    rcases given with ⟨divisor, raw, accepted, rfl⟩
    have value : divisor ∈ ([512, 256, 128, 64, 32, 16, 8, 4, 2, 1] : List U32) := by
      unfold setDivisor at accepted
      split at accepted
      · rename_i large
        simp only [List.mem_cons] at large ⊢
        tauto
      split at accepted
      · rename_i two
        rw [two]
        decide
      split at accepted
      · rename_i one
        rw [one]
        decide
      · cases accepted
    simp only [List.mem_cons, List.not_mem_nil, or_false] at value
    rcases value with rfl | rfl | rfl | rfl | rfl | rfl | rfl | rfl | rfl | rfl
    · exact ⟨9, by decide, rfl⟩
    · exact ⟨8, by decide, rfl⟩
    · exact ⟨7, by decide, rfl⟩
    · exact ⟨6, by decide, rfl⟩
    · exact ⟨5, by decide, rfl⟩
    · exact ⟨4, by decide, rfl⟩
    · exact ⟨3, by decide, rfl⟩
    · exact ⟨2, by decide, rfl⟩
    · exact ⟨1, by decide, rfl⟩
    · exact ⟨0, by decide, rfl⟩
  · intro given
    rcases given with ⟨i, bound, rfl⟩
    have each : ∀ i : Fin 10, (setDivisor 0 (BitVec.ofNat 32 (2 ^ i.val))).isOk = true := by decide
    have small : 2 ^ i ≤ 2 ^ 9 := Nat.pow_le_pow_right (by decide) bound
    have value : (BitVec.ofNat 32 (2 ^ i)).toNat = 2 ^ i := by
      rw [BitVec.toNat_ofNat, Nat.mod_eq_of_lt (by omega)]
    have accepted := each ⟨i, by omega⟩
    cases result : setDivisor 0 (BitVec.ofNat 32 (2 ^ i)) with
    | ok raw => exact ⟨_, raw, result, value.symm⟩
    | error e =>
      rw [result] at accepted
      cases accepted

/-- The divider and the clock it stands for, with `n` more rounds possible. -/
structure SearchAt (freq : U32) (n : Nat) (t : U32 × U32) (i : Nat) : Prop where
  rounds : i + n = 8
  div : t.1.toNat = 128 / 2 ^ i
  clock : t.2.toNat = 390625 * 2 ^ i
  reached : 0 < i → 390625 * 2 ^ i ≤ freq.toNat

section Search

variable {freq : U32}

theorem SearchAt.doubled {n i : Nat} {t : U32 × U32} (here : SearchAt freq n t i) :
    NoWrap t.2 2 ∧ (t.2 <<< 1).toNat = 390625 * 2 ^ (i + 1) := by
  have rounds := here.rounds
  have limit : 2 ^ i ≤ 2 ^ 8 := Nat.pow_le_pow_right (by decide) (show i ≤ 8 by omega)
  have clock := here.clock
  apply And.intro
  · show t.2.toNat * 2 < _
    omega
  · rw [BitVec.toNat_shiftLeft, Nat.shiftLeft_eq, clock]
    omega

theorem SearchAt.next {n i : Nat} {t : U32 × U32} (here : SearchAt freq (n + 1) t i)
    (again : realClockSlow freq t = true) :
    SearchAt freq n (t.1 >>> 1, t.2 <<< 1) (i + 1) := by
  have rounds := here.rounds
  have doubled := here.doubled.2
  unfold realClockSlow at again
  rw [decide_eq_true_eq, BitVec.le_def, doubled] at again
  refine ⟨by omega, ?_, doubled, fun _ => again⟩
  show (t.1 >>> 1).toNat = _
  rw [BitVec.toNat_ushiftRight, Nat.shiftRight_eq_div_pow, here.div, Nat.div_div_eq_div_mul,
    Nat.pow_one, Nat.pow_succ]

theorem search_loop (low : freq < 200000000) :
    (∃ t i n, loop (realClockSlow freq) (fun t => (t.1 >>> 1, t.2 <<< 1)) 9 (0x80, 200000000 / 512) =
      some t ∧ SearchAt freq n t i ∧ freq.toNat < 390625 * 2 ^ (i + 1)) ∧
    ∀ t ∈ visits (realClockSlow freq) (fun t => (t.1 >>> 1, t.2 <<< 1)) 9 (0x80, 200000000 / 512),
      NoWrap t.2 2 := by
  have rule := loop_rule (realClockSlow freq) (fun t => (t.1 >>> 1, t.2 <<< 1))
    (fun n t => ∃ i, SearchAt freq n t i) ?_ ?_ 8 (0x80, 200000000 / 512)
    ⟨0, rfl, rfl, rfl, fun positive => absurd positive (Nat.lt_irrefl 0)⟩
  · rcases rule with ⟨⟨t, ends, ⟨n, i, here⟩, exceeds⟩, visited⟩
    refine ⟨⟨t, i, n, ends, here, ?_⟩, fun t member => ?_⟩
    · unfold realClockSlow at exceeds
      rw [decide_eq_false_iff_not, BitVec.le_def, here.doubled.2] at exceeds
      exact Nat.lt_of_not_le exceeds
    · obtain ⟨m, j, there⟩ := visited t member
      exact there.doubled.1
  · intro t here
    rcases here with ⟨i, here⟩
    have doubled := here.doubled.2
    have rounds : i = 8 := here.rounds
    rw [rounds] at doubled
    unfold realClockSlow
    rw [decide_eq_false_iff_not, BitVec.le_def, doubled]
    exact Nat.not_le.mpr (BitVec.lt_def.mp low)
  · intro n t here again
    rcases here with ⟨i, here⟩
    exact ⟨i + 1, here.next again⟩

end Search

/-- The field of the register reads back as the divider. -/
theorem divisor_set (ctrl : U32) {clkDiv : U32} {i : Nat} (bound : i ≤ 8)
    (value : clkDiv.toNat = 128 / 2 ^ i) :
    (divisor (div.set ctrl clkDiv)).toNat = 2 ^ (9 - i) := by
  have each : ∀ i : Fin 9, 128 / 2 ^ i.val < 2 ^ div.width ∧
      (if BitVec.ofNat 32 (128 / 2 ^ i.val) = 0xff then (1 : U32)
        else if BitVec.ofNat 32 (128 / 2 ^ i.val) = 0 then 2
        else BitVec.ofNat 32 (128 / 2 ^ i.val) <<< 2).toNat = 2 ^ (9 - i.val) := by decide
  have same : clkDiv = BitVec.ofNat 32 (128 / 2 ^ i) := by
    rw [← value, BitVec.ofNat_toNat, BitVec.setWidth_eq]
  obtain ⟨small, decoded⟩ := each ⟨i, by omega⟩
  rw [← same] at decoded
  have fits : clkDiv.toNat < 2 ^ div.width := by
    rw [value]
    exact small
  rw [divisor, (Bitfield.get_set_eq_iff div ctrl clkDiv).mpr fits]
  exact decoded

theorem host_div {j : Nat} (bound : j ≤ 9) : 200000000 / 2 ^ j = 390625 * 2 ^ (9 - j) := by
  have whole : 200000000 = 390625 * 2 ^ (9 - j) * 2 ^ j := by
    rw [Nat.mul_assoc, ← Nat.pow_add, Nat.sub_add_cancel bound]
  rw [whole]
  exact Nat.mul_div_cancel _ (Nat.two_pow_pos j)

theorem clockDivider_spec (freq : U32) :
    ∃ clkDiv, clockDivider freq = some clkDiv ∧ clkDiv.toNat < 2 ^ div.width ∧
      ∀ ctrl, LeastOrLast (Slow 200000000 freq) candidates
        (divisor (div.set ctrl clkDiv)).toNat := by
  have up := slow_upward 200000000 freq
  have host : (200000000 : U32).toNat = 200000000 := rfl
  have positive : ∀ c ∈ candidates, 0 < c := by
    intro c member
    obtain ⟨i, -, value⟩ := mem_candidates.mp member
    rw [value]
    exact Nat.two_pow_pos i
  unfold clockDivider
  split
  · rename_i low
    obtain ⟨t, i, n, ends, here, stop⟩ := (search_loop low).1
    have rounds := here.rounds
    have bound : i ≤ 8 := by omega
    refine ⟨t.1, by rw [ends]; rfl, ?_, fun ctrl => ?_⟩
    · rw [here.div]
      exact Nat.lt_of_le_of_lt (Nat.div_le_self _ _) (by decide)
    rw [divisor_set ctrl bound here.div]
    apply leastOrLast_ascending up positive
    · exact mem_candidates.mpr ⟨9 - i, by omega, rfl⟩
    · intro c member less fine
      obtain ⟨j, top, rfl⟩ := mem_candidates.mp member
      have smaller : j < 9 - i := (Nat.pow_lt_pow_iff_right (by decide)).mp less
      rw [Slow, host, host_div top] at fine
      have more : 2 ^ (i + 1) ≤ 2 ^ (9 - j) := Nat.pow_le_pow_right (by decide) (by omega)
      omega
    · rcases Nat.eq_zero_or_pos i with zero | some
      · apply Or.inr
        intro c member
        obtain ⟨j, top, rfl⟩ := mem_candidates.mp member
        exact Nat.pow_le_pow_right (by decide) (by omega)
      · apply Or.inl
        rw [Slow, host, host_div (by omega), show 9 - (9 - i) = i by omega]
        exact here.reached some
  · rename_i high
    rw [BitVec.lt_def, host, Nat.not_lt] at high
    refine ⟨0xff, rfl, by decide, fun ctrl => ?_⟩
    have one : divisor (div.set ctrl 0xff) = 1 := by
      rw [divisor, (Bitfield.get_set_eq_iff div ctrl 0xff).mpr (by decide), if_pos rfl]
    rw [one]
    apply leastOrLast_ascending up positive
    · exact mem_candidates.mpr ⟨0, by decide, rfl⟩
    · intro c member less
      exact absurd (positive c member) (Nat.not_lt.mpr (Nat.le_of_lt_succ less))
    · apply Or.inl
      show 200000000 / 1 ≤ freq.toNat
      rw [Nat.div_one]
      exact high

/-- The register holds the divider, or a poll timed out and it was not written. -/
theorem setClock_spec (freq : U32) :
    ∃ m, setClock freq = some m ∧ ∀ h, wp m
      (fun _ h' => LeastOrLast (Slow 200000000 freq) candidates (divisor (h'.regs .sdClkCtrl)).toNat)
      (fun _ h' => h'.regs = h.regs) h := by
  obtain ⟨clkDiv, found, -, best⟩ := clockDivider_spec freq
  refine ⟨readReg .sdClkCtrl >>= fun ctrl => writeReg .sdClkCtrl (div.set ctrl clkDiv), ?_,
    fun h => ?_⟩
  · unfold setClock
    rw [found]
    rfl
  rw [wp_bind, wp_readReg, wp_writeReg_polled rfl]
  exact ⟨fun _ => best (h.regs .sdClkCtrl), fun _ => rfl⟩

end Sdhi

/-! ## The driver functions -/

namespace Sdhci

def usdhcCandidates (ddrActive : Bool) : Set Nat :=
  (· * (ddrPreDiv ddrActive).toNat) '' products 8 8

theorem ddrPreDiv_le (ddrActive : Bool) : (ddrPreDiv ddrActive).toNat ≤ 2 := by
  cases ddrActive <;> decide

theorem setClockUsdhc_spec (hostClock freq : U32) (ddrActive : Bool) :
    ∃ m, setClockUsdhc hostClock freq ddrActive = some m ∧ ∀ t, wp m
      (fun _ t' => LeastOrLast (Slow hostClock freq) (usdhcCandidates ddrActive)
        (clockDivider ddrActive (t'.hw.regs .sysCtrl)).toNat)
      (fun _ _ => False) t := by
  rcases usdhcDividers_spec hostClock freq (ddrPreDiv_le ddrActive) with
    ⟨preDiv, div, found, power, ⟨one, small⟩, best⟩
  refine ⟨programUsdhc preDiv div, ?_, fun t => ?_⟩
  · unfold setClockUsdhc
    rw [found]
    rfl
  have decoded := clockDivider_usdhcEnabled
    ((t.hw.setReg .sysCtrl (usdhcDisabled (t.hw.regs .sysCtrl))).regs .sysCtrl) ddrActive power one
    small
  rw [← decoded] at best
  exact best

theorem setClockBase10_spec (hostClock : U32) {freq : U32} (running : freq ≠ 0) (stable : Bool) :
    ∃ m, setClockBase10 hostClock freq stable = some m ∧ ∀ t, wp m
      (fun _ t' => LeastOrLast (Slow hostClock freq) base10Candidates
        (baseDivider (t'.hw.regs .sysCtrl)).toNat)
      (fun _ t' => LeastOrLast (Slow hostClock freq) base10Candidates
        (baseDivider (t'.hw.regs .sysCtrl)).toNat) t := by
  obtain ⟨div, found, best⟩ := base10Divider_spec hostClock freq
  refine ⟨programBase10 freq div stable, ?_, fun t => ?_⟩
  · unfold setClockBase10
    rw [if_neg running, found]
    rfl
  have decoded := baseDivider_base10Enabled best.candidate
  cases stable with
  | true =>
    rw [← decoded true] at best
    exact best
  | false =>
    rw [← decoded false] at best
    exact best

/-! ## Results -/

def candidates (type : SdhciType) (ddrActive : Bool) : Set Nat :=
  match type with
  | .bcm2711 => base10Candidates
  | .plain | .usdhc => usdhcCandidates ddrActive

/-- How the controller reads the register. -/
def divider (type : SdhciType) (ddrActive : Bool) (sc : U32) : U32 :=
  match type with
  | .bcm2711 => baseDivider sc
  | .plain | .usdhc => clockDivider ddrActive sc

/-- `set_clock` programs the best divider, even if the clock does not become stable. -/
theorem setClock_spec (type : SdhciType) (hostClock : U32) {freq : U32} (running : freq ≠ 0)
    (ddrActive stable : Bool) :
    ∃ m, setClock type hostClock freq ddrActive stable = some m ∧ ∀ t, wp m
      (fun _ t' => LeastOrLast (Slow hostClock freq) (candidates type ddrActive)
        (divider type ddrActive (t'.hw.regs .sysCtrl)).toNat)
      (fun _ t' => LeastOrLast (Slow hostClock freq) (candidates type ddrActive)
        (divider type ddrActive (t'.hw.regs .sysCtrl)).toNat) t := by
  have usdhc : ∃ m, setClockUsdhc hostClock freq ddrActive = some m ∧ ∀ t, wp m
      (fun _ t' => LeastOrLast (Slow hostClock freq) (usdhcCandidates ddrActive)
        (clockDivider ddrActive (t'.hw.regs .sysCtrl)).toNat)
      (fun _ t' => LeastOrLast (Slow hostClock freq) (usdhcCandidates ddrActive)
        (clockDivider ddrActive (t'.hw.regs .sysCtrl)).toNat) t := by
    obtain ⟨m, terminates, spec⟩ := setClockUsdhc_spec hostClock freq ddrActive
    exact ⟨m, terminates, fun t => (spec t).mono (fun _ _ best => best) (fun _ _ e => e.elim)⟩
  cases type with
  | bcm2711 => exact setClockBase10_spec hostClock running stable
  | plain => exact usdhc
  | usdhc => exact usdhc

open RegSysCtrl in
/-- No product of the searches and the decoders overflows, and the fields have room for what is written
to them. -/
structure Sound (hostClock freq : U32) (ddrActive : Bool) : Prop where
  preDiv : ∀ preDiv ∈ visits (preDivSmall hostClock freq (ddrPreDiv ddrActive))
    (fun preDiv => preDiv <<< 1) 9 1, NoWrap 16 preDiv ∧ NoWrap (16 * preDiv) (ddrPreDiv ddrActive)
  div : ∀ preDiv,
    loop (preDivSmall hostClock freq (ddrPreDiv ddrActive)) (fun preDiv => preDiv <<< 1) 9 1 =
      some preDiv →
    ∀ div ∈ visits (divSmall hostClock freq (ddrPreDiv ddrActive) preDiv) (fun div => div + 1) 16 1,
      NoWrap div preDiv ∧ NoWrap (div * preDiv) (ddrPreDiv ddrActive)
  usdhcFields : ∀ preDiv div,
    usdhcDividers hostClock freq (ddrPreDiv ddrActive) = some (preDiv, div) →
    (preDiv >>> 1).toNat < 2 ^ sdclkfs.width ∧ (div - 1).toNat < 2 ^ dvs.width
  base10Fields : ∀ div, base10Divider hostClock freq = some div →
    (div >>> 1).toNat < 2 ^ (clkFreq8.width + clkFreqMs2.width)
  sdr : ∀ raw, NoWrap (sdclkfs.get raw) 2 ∧
    NoWrap (if sdclkfs.get raw ≠ 0 then sdclkfs.get raw * 2 else 1) (dvs.get raw + 1)
  ddr : ∀ raw, NoWrap (sdclkfs.get raw) 4 ∧
    NoWrap (if sdclkfs.get raw ≠ 0 then sdclkfs.get raw * 4 else 2) (dvs.get raw + 1)
  base10 : ∀ raw, NoWrap (clkFreq8.get raw + clkFreqMs2.get raw <<< 8) 2

theorem sound (hostClock freq : U32) (ddrActive : Bool) : Sound hostClock freq ddrActive where
  preDiv := by
    intro preDiv member
    have bound := (preDiv_loop hostClock freq (ddrPreDiv_le ddrActive)).2 preDiv member
    obtain ⟨first, second, -⟩ := preDiv_fits (ddrPreDiv_le ddrActive) bound
    exact ⟨first, second⟩
  div := by
    intro preDiv ends div member
    obtain ⟨preDiv', i, n, ends', here, -⟩ := (preDiv_loop hostClock freq (ddrPreDiv_le ddrActive)).1
    rw [ends'] at ends
    cases ends
    have rounds := here.rounds
    have bound := (div_loop hostClock freq (ddrPreDiv_le ddrActive) (show i ≤ 8 by omega)
      here.value).2 div member
    obtain ⟨first, second, -⟩ := div_fits (ddrPreDiv_le ddrActive) here.le bound
    exact ⟨first, second⟩
  usdhcFields := by
    intro preDiv div found
    rcases usdhcDividers_spec hostClock freq (ddrPreDiv_le ddrActive) with
      ⟨preDiv', div', found', ⟨i, power, value⟩, ⟨one, small⟩, -⟩
    rw [found'] at found
    cases found
    have bound : 2 ^ i ≤ 2 ^ 8 := Nat.pow_le_pow_right (by decide) power
    apply And.intro
    · rw [BitVec.toNat_ushiftRight, Nat.shiftRight_eq_div_pow, value]
      show 2 ^ i / 2 ^ 1 < 2 ^ 8
      omega
    · show (div - 1).toNat < 2 ^ 4
      bv_omega
  base10Fields := by
    intro div found
    obtain ⟨div', found', best⟩ := base10Divider_spec hostClock freq
    rw [found'] at found
    cases found
    rw [BitVec.toNat_ushiftRight, Nat.shiftRight_eq_div_pow]
    show div.toNat / 2 ^ 1 < 2 ^ 10
    rcases best.candidate with one | ⟨n, -, most, value⟩
    · omega
    · omega
  sdr := by
    intro raw
    obtain ⟨⟨four, -⟩, product, -⟩ := clockDivider_fits raw
    exact ⟨Nat.lt_of_le_of_lt (Nat.mul_le_mul_left _ (by decide)) four, product⟩
  ddr := by
    intro raw
    obtain ⟨⟨four, -⟩, -, product⟩ := clockDivider_fits raw
    exact ⟨four, product⟩
  base10 := fun raw => (clockBaseDivider10_fits raw).1

end Sdhci

/-- No product overflows, and the field has room for the divider. -/
structure Sdhi.Sound (freq : U32) : Prop where
  clock : freq < 200000000 →
    ∀ t ∈ visits (realClockSlow freq) (fun t => (t.1 >>> 1, t.2 <<< 1)) 9 (0x80, 200000000 / 512),
      NoWrap t.2 2
  field : ∀ clkDiv, clockDivider freq = some clkDiv → clkDiv.toNat < 2 ^ RegSdClkCtrl.div.width
  divisor : ∀ raw, NoWrap (RegSdClkCtrl.div.get raw) 4

theorem Sdhi.sound (freq : U32) : Sdhi.Sound freq where
  clock := fun low => (search_loop low).2
  field := by
    intro clkDiv found
    obtain ⟨clkDiv', found', small, -⟩ := clockDivider_spec freq
    rw [found'] at found
    cases found
    exact small
  divisor := by
    intro raw
    have small : (RegSdClkCtrl.div.get raw).toNat < 256 := RegSdClkCtrl.div.toNat_get_lt raw
    show (RegSdClkCtrl.div.get raw).toNat * 4 < _
    omega

/-- Every controller is set to the smallest divider that is slow enough, or to its largest one. -/
theorem setClock_optimal {freq : U32} (running : freq ≠ 0) :
    (∀ (type : SdhciType) (hostClock : U32) (ddrActive stable : Bool),
      (∃ m, Sdhci.setClock type hostClock freq ddrActive stable = some m ∧ ∀ t, wp m
        (fun _ t' => LeastOrLast (Slow hostClock freq) (Sdhci.candidates type ddrActive)
          (Sdhci.divider type ddrActive (t'.hw.regs .sysCtrl)).toNat)
        (fun _ t' => LeastOrLast (Slow hostClock freq) (Sdhci.candidates type ddrActive)
          (Sdhci.divider type ddrActive (t'.hw.regs .sysCtrl)).toNat) t) ∧
      Sdhci.Sound hostClock freq ddrActive) ∧
    (∃ m, Sdhi.setClock freq = some m ∧ ∀ h, wp m
      (fun _ h' => LeastOrLast (Slow 200000000 freq) Sdhi.candidates
        (Sdhi.RegSdClkCtrl.divisor (h'.regs .sdClkCtrl)).toNat)
      (fun _ h' => h'.regs = h.regs) h) ∧
    Sdhi.Sound freq := by
  refine ⟨fun type hostClock ddrActive stable => ⟨?_, ?_⟩, ?_, Sdhi.sound freq⟩
  · exact Sdhci.setClock_spec type hostClock running ddrActive stable
  · exact Sdhci.sound hostClock freq ddrActive
  · exact Sdhi.setClock_spec freq

/-- 400 kHz, of the uSDHC with a base clock of 396 MHz and of the SDHI. -/
theorem setClock_identification :
    (∃ m, Sdhci.setClock .usdhc 396000000 400000 false true = some m ∧ ∀ t, wp m
      (fun _ t' => LeastOrLast (Slow 396000000 400000) (Sdhci.candidates .usdhc false)
        (Sdhci.divider .usdhc false (t'.hw.regs .sysCtrl)).toNat)
      (fun _ t' => LeastOrLast (Slow 396000000 400000) (Sdhci.candidates .usdhc false)
        (Sdhci.divider .usdhc false (t'.hw.regs .sysCtrl)).toNat) t) ∧
    Sdhci.Sound 396000000 400000 false ∧
    (∃ m, Sdhi.setClock 400000 = some m ∧ ∀ h, wp m
      (fun _ h' => LeastOrLast (Slow 200000000 400000) Sdhi.candidates
        (Sdhi.RegSdClkCtrl.divisor (h'.regs .sdClkCtrl)).toNat)
      (fun _ h' => h'.regs = h.regs) h) ∧
    Sdhi.Sound 400000 := by
  obtain ⟨sdhci, sdhi, sound⟩ := setClock_optimal (show (400000 : U32) ≠ 0 by decide)
  obtain ⟨least, sound'⟩ := sdhci .usdhc 396000000 false true
  exact ⟨least, sound', sdhi, sound⟩

end Emmc
