import Emmc.Lib.Slice
import Emmc.PowerUp.Scan
import Emmc.Sdhci.Irq
import Emmc.Sdhi.Irq

/-!
# Responses of 136 bits

CID and CSD are registers of 128 bits whose lowest byte is a checksum. Both controllers check it and keep
the bits 127 to 8 in four response registers; `cmd_fetch_response` moves them back to their places, and
the fields of the registers are then read from four words.

* `Holds regs R`: the response registers hold the bits 127 to 8 of `R`.
* `Reads R resp`: what the driver reads from the words of the response is what `R` says.
* `fetched_exactly`: it is, with both controllers.
-/

namespace Emmc

open Throwing

/-! ## The response registers -/

namespace Response

/-- The response registers hold the bits 127 to 8. The top byte of the last one may be anything. -/
def Holds (regs : Fin 4 → U32) (R : BitVec 128) : Prop :=
  ∀ (i : Fin 4) (j : Nat), j < 32 → 32 * i.val + j < 120 →
    (regs i).getLsbD j = R.getLsbD (32 * i.val + j + 8)

/-- The response registers of a controller. -/
def ofReg (R : BitVec 128) : Fin 4 → U32 := fun i => (R >>> 8).extractLsb' (32 * i.val) 32

/-- Every response can be held by the registers. -/
theorem holds_ofReg (R : BitVec 128) : Holds (ofReg R) R := by
  intro i j bound range
  unfold ofReg
  rw [BitVec.getLsbD_extractLsb', BitVec.getLsbD_ushiftRight, decide_eq_true bound, Bool.true_and]
  congr 1
  omega

/-- What `cmd_fetch_response` makes of the registers. -/
def shifted (regs : Fin 4 → U32) : Fin 4 → U32
  | 0 => regs 3 <<< 8 ||| regs 2 >>> 24
  | 1 => regs 2 <<< 8 ||| regs 1 >>> 24
  | 2 => regs 1 <<< 8 ||| regs 0 >>> 24
  | 3 => regs 0 <<< 8

/-- The four words of a register, the highest one first; the checksum is zero. -/
def words (R : BitVec 128) : Fin 4 → U32 := fun i => (R >>> 8 <<< 8).extractLsb' (96 - 32 * i.val) 32

/-- A bit of a word of the response, in terms of the response. The lowest byte, with the checksum, is
dropped. -/
theorem getLsbD_words (R : BitVec 128) (i : Fin 4) {j : Nat} (bound : j < 32) :
    (words R i).getLsbD j =
      (decide (8 ≤ 96 - 32 * i.val + j) && R.getLsbD (96 - 32 * i.val + j)) := by
  unfold words
  rw [BitVec.getLsbD_extractLsb', BitVec.getLsbD_shiftLeft, BitVec.getLsbD_ushiftRight,
    decide_eq_true bound, Bool.true_and]
  have inside : 96 - 32 * i.val + j < 128 := by omega
  rcases Nat.lt_or_ge (96 - 32 * i.val + j) 8 with low | high
  · simp [low]
  · simp [inside, high, Nat.not_lt.mpr high, Nat.add_sub_cancel' high]

/-- The two parts of a word come from neighbouring registers. -/
theorem shifted_of_holds {regs : Fin 4 → U32} {R : BitVec 128} (holds : Holds regs R) :
    shifted regs = words R := by
  have pair : ∀ (lo hi : Fin 4), hi.val = lo.val + 1 → ∀ j < 32,
      (regs hi <<< 8 ||| regs lo >>> 24).getLsbD j = R.getLsbD (32 * hi.val + j) := by
    intro lo hi next j bound
    rw [BitVec.getLsbD_or, BitVec.getLsbD_shiftLeft, BitVec.getLsbD_ushiftRight]
    rcases Nat.lt_or_ge j 8 with low | high
    · have from_lo := holds lo (24 + j) (by omega) (by omega)
      have place : 32 * lo.val + (24 + j) + 8 = 32 * hi.val + j := by omega
      rw [place] at from_lo
      simp [low, from_lo]
    · have from_hi := holds hi (j - 8) (by omega) (by omega)
      have place : 32 * hi.val + (j - 8) + 8 = 32 * hi.val + j := by omega
      rw [place] at from_hi
      have outside : (regs lo).getLsbD (24 + j) = false := BitVec.getLsbD_of_ge _ _ (by omega)
      simp [bound, Nat.not_lt.mpr high, from_hi, outside]
  funext i
  apply BitVec.eq_of_getLsbD_eq
  intro j bound
  rw [getLsbD_words R i bound]
  match i with
  | 0 => simpa [shifted, show 8 ≤ 96 + j by omega] using pair 2 3 rfl j bound
  | 1 => simpa [shifted, show 8 ≤ 64 + j by omega] using pair 1 2 rfl j bound
  | 2 => simpa [shifted, show 8 ≤ 32 + j by omega] using pair 0 1 rfl j bound
  | 3 =>
    show (regs 0 <<< 8).getLsbD j = _
    rw [BitVec.getLsbD_shiftLeft]
    rcases Nat.lt_or_ge j 8 with low | high
    · simp [low]
    · have from_lo := holds 0 (j - 8) (by omega) (by simp; omega)
      have place : 32 * (0 : Fin 4).val + (j - 8) + 8 = j := by simp; omega
      rw [place] at from_lo
      simp [bound, Nat.not_lt.mpr high, from_lo, high]

/-! ## Fields -/

open Mmc

/-- A field of a register, read from a word of the response. -/
theorem get_words (R : BitVec 128) (i : Fin 4) (f : Bitfield 32) (clear : 8 ≤ 96 - 32 * i.val + f.lsb) :
    f.get (words R i) = (R.extractLsb' (96 - 32 * i.val + f.lsb) f.width).setWidth 32 := by
  have inside := f.inside
  have ordered := f.ordered
  apply BitVec.eq_of_getLsbD_eq
  intro j bound
  rw [Bitfield.getLsbD_get, BitVec.getLsbD_setWidth, BitVec.getLsbD_extractLsb']
  by_cases small : j < f.width
  · have within : f.lsb + j < 32 := by
      unfold Bitfield.width at small
      omega
    rw [getLsbD_words R i within]
    simp [bound, small, show 8 ≤ 96 - 32 * i.val + (f.lsb + j) by omega, Nat.add_assoc]
  · simp [small]

/-- The serial number of an SD card. -/
theorem psnSd_words (R : BitVec 128) : RegCid.psnSd (words R) = R.extractLsb' 24 32 := by
  unfold RegCid.psnSd
  rw [get_words R 2 RegCid.byte2 (by decide), get_words R 2 RegCid.byte1 (by decide),
    get_words R 2 RegCid.byte0 (by decide), get_words R 3 RegCid.byte3 (by decide)]
  exact Bitfield.join_bytes R 24

/-- The serial number of an eMMC device. -/
theorem psnMmc_words (R : BitVec 128) : RegCid.psnMmc (words R) = R.extractLsb' 16 32 := by
  unfold RegCid.psnMmc
  rw [get_words R 2 RegCid.byte1 (by decide), get_words R 2 RegCid.byte0 (by decide),
    get_words R 3 RegCid.byte3 (by decide), get_words R 3 RegCid.byte2 (by decide)]
  exact Bitfield.join_bytes R 16

section Csd

variable (R : BitVec 128)

theorem csdStructure_words :
    (RegCsd.ofResponse (words R)).csdStructure = (R.extractLsb' 126 2).setWidth 32 :=
  get_words R 0 RegCsd.structureField (by decide)

theorem specVers_words :
    (RegCsd.ofResponse (words R)).specVers = (R.extractLsb' 122 4).setWidth 32 :=
  get_words R 0 RegCsd.specVersField (by decide)

/-- Fields are cut out of the words where they lie in the response, also across two words. -/
theorem cSize_words : (RegCsd.ofResponse (words R)).cSize = (R.extractLsb' 62 12).setWidth 32 := by
  unfold RegCsd.cSize
  show RegCsd.cSizeHiField.get (words R 1) <<< 2 ||| RegCsd.cSizeLoField.get (words R 2) = _
  rw [get_words R 1 _ (by decide), get_words R 2 _ (by decide)]
  exact Bitfield.join_extractLsb' R 62 2 10

theorem toNat_one_shiftLeft {n : Nat} (small : n < 32) : ((1 : U32) <<< n).toNat = 2 ^ n := by
  rw [BitVec.toNat_shiftLeft, Nat.shiftLeft_eq]
  show 1 * 2 ^ n % 2 ^ 32 = _
  rw [Nat.one_mul, Nat.mod_eq_of_lt (Nat.pow_lt_pow_right (by decide) small)]

/-- The multiplier is a power of two. -/
theorem mult_words :
    (RegCsd.ofResponse (words R)).mult.toNat = 2 ^ ((R.extractLsb' 47 3).toNat + 2) := by
  have bound := (R.extractLsb' 47 3).isLt
  have exponent : (RegCsd.cSizeMultField.get (words R 2) + 2).toNat = (R.extractLsb' 47 3).toNat + 2 := by
    rw [get_words R 2 _ (by decide), BitVec.toNat_add]
    show (((R.extractLsb' 47 3).setWidth 32).toNat + 2) % 2 ^ 32 = _
    rw [BitVec.toNat_setWidth_of_le (by decide)]
    omega
  show ((1 : U32) <<< (RegCsd.cSizeMultField.get (words R 2) + 2).toNat).toNat = _
  rw [exponent, toNat_one_shiftLeft (by omega)]

/-- And so is the block length. -/
theorem blockLen_words :
    (RegCsd.ofResponse (words R)).blockLen.toNat = 2 ^ (R.extractLsb' 80 4).toNat := by
  have bound := (R.extractLsb' 80 4).isLt
  have exponent : (RegCsd.readBlLenField.get (words R 1)).toNat = (R.extractLsb' 80 4).toNat := by
    rw [get_words R 1 _ (by decide)]
    exact BitVec.toNat_setWidth_of_le (by decide)
  show ((1 : U32) <<< (RegCsd.readBlLenField.get (words R 1)).toNat).toNat = _
  rw [exponent, toNat_one_shiftLeft (by omega)]

/-- The bytes of a card of standard capacity. -/
def standardBytes : Nat :=
  ((R.extractLsb' 62 12).toNat + 1) * 2 ^ ((R.extractLsb' 47 3).toNat + 2) *
    2 ^ (R.extractLsb' 80 4).toNat

/-- The bytes of a card of high capacity. -/
def highBytes : Nat := ((R.extractLsb' 48 22).toNat + 1) * 2 ^ 19

/-- The product is one of 32 bits. -/
theorem deviceSize0_words :
    (RegCsd.ofResponse (words R)).deviceSize0.toNat = standardBytes R % 2 ^ 32 := by
  have bound := (R.extractLsb' 62 12).isLt
  have count : ((RegCsd.ofResponse (words R)).cSize + 1).toNat = (R.extractLsb' 62 12).toNat + 1 := by
    rw [cSize_words, BitVec.toNat_add, BitVec.toNat_setWidth_of_le (by decide)]
    exact Nat.mod_eq_of_lt (show (R.extractLsb' 62 12).toNat + 1 < 2 ^ 32 by omega)
  unfold RegCsd.deviceSize0 standardBytes
  rw [BitVec.toNat_setWidth_of_le (by decide), BitVec.toNat_mul, BitVec.toNat_mul, count, mult_words,
    blockLen_words, Nat.mod_mul_mod]

theorem cSize1_words :
    (RegCsd.cSizeHiField1.get (words R 1)).setWidth 64 <<< 16 |||
      (RegCsd.cSizeLoField1.get (words R 2)).setWidth 64 = ((R.extractLsb' 48 22).setWidth 64 : U64) := by
  rw [get_words R 1 _ (by decide), get_words R 2 _ (by decide),
    Bitfield.setWidth_widen _ (by decide), Bitfield.setWidth_widen _ (by decide)]
  exact Bitfield.join_extractLsb' R 48 16 6

/-- For version 2.0, the size is a product without an overflow. -/
theorem deviceSize1_words : (RegCsd.ofResponse (words R)).deviceSize1.toNat = highBytes R := by
  have bound := (R.extractLsb' 48 22).isLt
  have small : (((R.extractLsb' 48 22).setWidth 64 : U64) + 1).toNat = (R.extractLsb' 48 22).toNat + 1 := by
    rw [BitVec.toNat_add, BitVec.toNat_setWidth_of_le (by decide)]
    exact Nat.mod_eq_of_lt (show (R.extractLsb' 48 22).toNat + 1 < 2 ^ 64 by omega)
  have size : (RegCsd.ofResponse (words R)).deviceSize1 =
      (((R.extractLsb' 48 22).setWidth 64 : U64) + 1) <<< 19 := by
    rw [← cSize1_words]
    rfl
  rw [size, BitVec.toNat_shiftLeft, Nat.shiftLeft_eq, small]
  unfold highBytes
  omega

end Csd

/-! ## Both controllers -/

/-- What the driver reads from the words of a response is what the register says. Of a card of standard
capacity it is the size in 32 bits. -/
structure Reads (R : BitVec 128) (resp : Fin 4 → U32) : Prop where
  serialSd : RegCid.psnSd resp = R.extractLsb' 24 32
  serialMmc : RegCid.psnMmc resp = R.extractLsb' 16 32
  version : (RegCsd.ofResponse resp).specVers = (R.extractLsb' 122 4).setWidth 32
  standard : R.extractLsb' 126 2 = 0 →
    (deviceSize (RegCsd.ofResponse resp)).toNat = standardBytes R % 2 ^ 32
  high : R.extractLsb' 126 2 = 1 → (deviceSize (RegCsd.ofResponse resp)).toNat = highBytes R

/-- The words say what the response says. -/
theorem reads_words (R : BitVec 128) : Reads R (words R) where
  serialSd := psnSd_words R
  serialMmc := psnMmc_words R
  version := specVers_words R
  standard := by
    intro standard
    unfold deviceSize
    rw [csdStructure_words, standard, if_pos (by decide), deviceSize0_words]
  high := by
    intro high
    unfold deviceSize
    rw [csdStructure_words, high, if_neg (by decide), if_pos (by decide), deviceSize1_words]

/-- The response registers of an SDHCI controller. -/
def sdhciRegs (h : Sdhci.Hw) : Fin 4 → U32
  | 0 => h.regs .cmdRsp0
  | 1 => h.regs .cmdRsp1
  | 2 => h.regs .cmdRsp2
  | 3 => h.regs .cmdRsp3

/-- The response registers of an SDHI controller. -/
def sdhiRegs (h : Sdhi.Hw) : Fin 4 → U32
  | 0 => h.regs .sdRsp10
  | 1 => h.regs .sdRsp32
  | 2 => h.regs .sdRsp54
  | 3 => h.regs .sdRsp76

/-- An SDHCI controller shifts the response by a byte. -/
theorem sdhci_fetch (s : Sdhci) {c : Cmd} (long : c.cmd &&& rsp136Bits ≠ 0) (h : Sdhci.Hw) :
    wp s.cmdFetchResponse (fun _ t => t.1.resp = shifted (sdhciRegs h)) (fun _ _ => False) (c, h) := by
  unfold Sdhci.cmdFetchResponse
  rw [wp_modify]
  unfold Sdhci.withResponse
  rw [if_pos long]
  funext i
  match i with
  | 0 => rfl
  | 1 => rfl
  | 2 => rfl
  | 3 => rfl

/-- And so does SDHI. -/
theorem sdhi_fetch {c : Cmd} (long : c.cmd &&& rsp136Bits ≠ 0) (h : Sdhi.Hw) :
    wp Sdhi.cmdFetchResponse (fun _ t => t.1.resp = shifted (sdhiRegs h)) (fun _ _ => False) (c, h) := by
  unfold Sdhi.cmdFetchResponse
  rw [wp_modify]
  unfold Sdhi.response
  rw [if_pos long]
  funext i
  match i with
  | 0 => rfl
  | 1 => rfl
  | 2 => rfl
  | 3 => rfl

/-- Whatever CID or CSD the response registers hold: with both controllers, serial number, version and
size of the device are those of the register. -/
theorem fetched_exactly (R : BitVec 128) {c : Cmd} (long : c.cmd &&& rsp136Bits ≠ 0) :
    (∀ (s : Sdhci) (h : Sdhci.Hw), Holds (sdhciRegs h) R →
      wp s.cmdFetchResponse (fun _ t => Reads R t.1.resp) (fun _ _ => False) (c, h)) ∧
    ∀ h : Sdhi.Hw, Holds (sdhiRegs h) R →
      wp Sdhi.cmdFetchResponse (fun _ t => Reads R t.1.resp) (fun _ _ => False) (c, h) := by
  have reads : ∀ {regs resp : Fin 4 → U32}, Holds regs R → resp = shifted regs → Reads R resp := by
    intro regs resp holds same
    rw [same, shifted_of_holds holds]
    exact reads_words R
  apply And.intro
  · exact fun s h holds => (sdhci_fetch s long h).imp fun _ _ same => reads holds same
  · exact fun h holds => (sdhi_fetch long h).imp fun _ _ same => reads holds same

/-- The CSD of an SD card of high capacity, with 60800 units of 512 KiB. -/
def sdhcCsd : BitVec 128 := 1 <<< 126 ||| 60799 <<< 48

/-- An SDHI controller that has received it. -/
def sdhcReceived : Sdhi.Hw :=
  { regs := fun
      | .sdRsp10 => ofReg sdhcCsd 0
      | .sdRsp32 => ofReg sdhcCsd 1
      | .sdRsp54 => ofReg sdhcCsd 2
      | .sdRsp76 => ofReg sdhcCsd 3
      | _ => 0 }

theorem sdhcCsd_fetched :
    wp Sdhi.cmdFetchResponse
      (fun _ t => (deviceSize (RegCsd.ofResponse t.1.resp)).toNat = 60800 * 2 ^ 19) (fun _ _ => False)
      ({ cmd := Mmc.cmd9SendCsd }, sdhcReceived) := by
  have held : sdhiRegs sdhcReceived = ofReg sdhcCsd := by
    funext i
    match i with
    | 0 => rfl
    | 1 => rfl
    | 2 => rfl
    | 3 => rfl
  have holds : Holds (sdhiRegs sdhcReceived) sdhcCsd := by
    rw [held]
    exact holds_ofReg sdhcCsd
  apply ((fetched_exactly sdhcCsd (c := { cmd := Mmc.cmd9SendCsd }) (by decide)).2 _ holds).imp
  intro _ t reads
  rw [reads.high (by decide)]
  decide

end Response

end Emmc
