import Mathlib.Data.BitVec
import Emmc.Cmd

/-!
# What a card tells about its size

The card-specific data of an SD card and the operation conditions register, as far as the number of
sectors and the addressing mode are taken from them. Products of 32-bit fields are 32-bit products.

* `Card`: an SD card with its OCR and CSD, or an eMMC device with its OCR and sector count.
* `Card.addresses_fit`: of a supported card, the address of every sector fits 32 bits.
-/

namespace Emmc

namespace Mmc

namespace RegOcr

def ccs : Bitfield 32 := .bit 30

end RegOcr

/-- The words of the CSD as the response holds them. -/
structure RegCsd where
  raw0 : U32
  raw1 : U32
  raw2 : U32
deriving DecidableEq, Repr

namespace RegCsd

variable (csd : RegCsd)

def structureField : Bitfield 32 := { lsb := 30, msb := 31 }
def readBlLenField : Bitfield 32 := { lsb := 16, msb := 19 }
def cSizeMultField : Bitfield 32 := { lsb := 15, msb := 17 }

/-! Fields of `c_size` with `csd_structure` 0 and 3. -/

def cSizeHiField : Bitfield 32 := { lsb := 0, msb := 9 }
def cSizeLoField : Bitfield 32 := { lsb := 30, msb := 31 }

/-! Fields of `c_size` with `csd_structure` 1. -/

def cSizeHiField1 : Bitfield 32 := { lsb := 0, msb := 5 }
def cSizeLoField1 : Bitfield 32 := { lsb := 16, msb := 31 }

def csdStructure : U32 := structureField.get csd.raw0

def cSize : U32 := cSizeHiField.get csd.raw1 <<< 2 ||| cSizeLoField.get csd.raw2

def mult : U32 := 1 <<< (cSizeMultField.get csd.raw2 + 2).toNat

def blockLen : U32 := 1 <<< (readBlLenField.get csd.raw1).toNat

/-- `s0.device_size` -/
def deviceSize0 : U64 := ((csd.cSize + 1) * csd.mult * csd.blockLen).setWidth 64

/-- `s1.device_size` -/
def deviceSize1 : U64 :=
  let cSize : U64 := (cSizeHiField1.get csd.raw1).setWidth 64 <<< 16 |||
    (cSizeLoField1.get csd.raw2).setWidth 64
  (cSize + 1) <<< 19

/-- `s3.device_size` -/
def deviceSize3 : U64 :=
  if csd.cSize = 0xfff then 0 else ((csd.cSize + 1) * csd.mult * csd.blockLen).setWidth 64

end RegCsd

end Mmc

/-- `Device::device_size` -/
def deviceSize (csd : Mmc.RegCsd) : U64 :=
  if csd.csdStructure = 0 then csd.deviceSize0
  else if csd.csdStructure = 1 then csd.deviceSize1
  else if csd.csdStructure = 2 then csd.deviceSize3
  else 0

/-- A card as far as the driver sizes and addresses it. -/
inductive Card
  | sd (ocr : U32) (csd : Mmc.RegCsd)
  | mmc (ocr : U32) (secCount : U32)

namespace Card

def ocr : Card → U32
  | sd ocr _ => ocr
  | mmc ocr _ => ocr

/-- `_addr_mult` after `power_up_sd` or `power_up_mmc`. -/
def addrMult (card : Card) : U64 := if Mmc.RegOcr.ccs.test card.ocr then 1 else 512

/-- `_num_sectors` after `power_up_sd` or `power_up_mmc`. -/
def numSectors : Card → U64
  | sd _ csd => deviceSize csd / 512
  | mmc _ secCount => secCount.setWidth 64

def capacity (card : Card) : U64 := card.numSectors * 512

/-- Standard capacity SD cards are addressed by byte, high capacity ones by sector; an eMMC device that
is addressed by byte is not too large for that. -/
def Supported : Card → Prop
  | sd ocr csd => (csd.csdStructure = 0 ∧ Mmc.RegOcr.ccs.test ocr = false) ∨
    (csd.csdStructure = 1 ∧ Mmc.RegOcr.ccs.test ocr = true)
  | mmc ocr secCount => Mmc.RegOcr.ccs.test ocr = true ∨ secCount.toNat ≤ 2 ^ 23

/-! ## Bounds -/

theorem deviceSize0_lt (csd : Mmc.RegCsd) : csd.deviceSize0.toNat < 2 ^ 32 := by
  unfold Mmc.RegCsd.deviceSize0
  rw [BitVec.toNat_setWidth_of_le (by decide)]
  exact BitVec.isLt _

/-- Version 2.0 has 22 bits of 512 KiB. -/
theorem deviceSize1_le (csd : Mmc.RegCsd) : csd.deviceSize1.toNat ≤ 2 ^ 41 := by
  have high : (Mmc.RegCsd.cSizeHiField1.get csd.raw1).toNat < 2 ^ 6 := Bitfield.toNat_get_lt _ _
  have low : (Mmc.RegCsd.cSizeLoField1.get csd.raw2).toNat < 2 ^ 16 := Bitfield.toNat_get_lt _ _
  have cSize : ((Mmc.RegCsd.cSizeHiField1.get csd.raw1).setWidth 64 <<< 16 |||
      (Mmc.RegCsd.cSizeLoField1.get csd.raw2).setWidth 64).toNat < 2 ^ 22 := by
    rw [BitVec.toNat_or]
    apply Nat.or_lt_two_pow
    · rw [BitVec.toNat_shiftLeft, Nat.shiftLeft_eq, BitVec.toNat_setWidth_of_le (by decide)]
      omega
    · rw [BitVec.toNat_setWidth_of_le (by decide)]
      omega
  unfold Mmc.RegCsd.deviceSize1
  rw [BitVec.toNat_shiftLeft, Nat.shiftLeft_eq, BitVec.toNat_add]
  show ((_ + 1) % 2 ^ 64) * 2 ^ 19 % 2 ^ 64 ≤ 2 ^ 41
  omega

/-- The number of sectors leaves room for a multiplication by 512. -/
theorem numSectors_lt (card : Card) : card.numSectors.toNat < 2 ^ 55 := by
  cases card with
  | sd ocr csd =>
    show (deviceSize csd / 512).toNat < _
    rw [BitVec.toNat_udiv]
    have size := (deviceSize csd).isLt
    show (deviceSize csd).toNat / 512 < _
    omega
  | mmc ocr secCount =>
    show (secCount.setWidth 64).toNat < _
    rw [BitVec.toNat_setWidth_of_le (by decide)]
    exact Nat.lt_of_lt_of_le secCount.isLt (by decide)

/-- The capacity is that of all sectors. -/
theorem capacity_div (card : Card) : card.capacity.toNat / 512 = card.numSectors.toNat := by
  have small := card.numSectors_lt
  unfold capacity
  rw [BitVec.toNat_mul]
  show card.numSectors.toNat * 512 % 2 ^ 64 / 512 = _
  omega

/-- The unit of the addresses is a sector or a byte. -/
theorem addrMult_cases (card : Card) :
    (Mmc.RegOcr.ccs.test card.ocr = true ∧ card.addrMult = 1) ∨
      (Mmc.RegOcr.ccs.test card.ocr = false ∧ card.addrMult = 512) := by
  unfold addrMult
  cases Mmc.RegOcr.ccs.test card.ocr with
  | true => exact Or.inl ⟨rfl, rfl⟩
  | false => exact Or.inr ⟨rfl, rfl⟩

theorem addrMult_pos (card : Card) : 0 < card.addrMult.toNat := by
  rcases card.addrMult_cases with ⟨-, mult⟩ | ⟨-, mult⟩
  · rw [mult]
    decide
  · rw [mult]
    decide

/-- All sectors have an address of 32 bits. -/
theorem addresses_fit {card : Card} (supported : card.Supported) :
    card.numSectors.toNat * card.addrMult.toNat ≤ 2 ^ 32 := by
  have byte : card.numSectors.toNat ≤ 2 ^ 23 → card.numSectors.toNat * 512 ≤ 2 ^ 32 := by
    omega
  rcases card.addrMult_cases with ⟨sector, mult⟩ | ⟨bytes, mult⟩
  · rw [mult]
    show card.numSectors.toNat * 1 ≤ _
    rw [Nat.mul_one]
    cases card with
    | sd ocr csd =>
      rcases supported with ⟨-, other⟩ | ⟨high, -⟩
      · exact absurd (other.symm.trans sector) Bool.false_ne_true
      · have size := deviceSize1_le csd
        show (deviceSize csd / 512).toNat ≤ _
        unfold deviceSize
        rw [if_neg (by rw [high]; decide), if_pos high, BitVec.toNat_udiv]
        show csd.deviceSize1.toNat / 512 ≤ _
        omega
    | mmc ocr secCount =>
      show (secCount.setWidth 64).toNat ≤ _
      rw [BitVec.toNat_setWidth_of_le (by decide)]
      exact Nat.le_of_lt secCount.isLt
  · rw [mult]
    apply byte
    cases card with
    | sd ocr csd =>
      rcases supported with ⟨standard, -⟩ | ⟨-, other⟩
      · have size := deviceSize0_lt csd
        show (deviceSize csd / 512).toNat ≤ _
        unfold deviceSize
        rw [if_pos standard, BitVec.toNat_udiv]
        show csd.deviceSize0.toNat / 512 ≤ _
        omega
      · exact absurd (bytes.symm.trans other) Bool.false_ne_true
    | mmc ocr secCount =>
      rcases supported with other | small
      · exact absurd (bytes.symm.trans other) Bool.false_ne_true
      · show (secCount.setWidth 64).toNat ≤ _
        rw [BitVec.toNat_setWidth_of_le (by decide)]
        exact small

end Card

end Emmc
