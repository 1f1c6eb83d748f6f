import Emmc.Sdhci.Reg

/-!
# Configuration of an SDHCI controller

`Sdhci` is what does not change once the driver is set up: the variant of the controller, the
board, the DMA modes, the descriptor memory and the bounce buffer. Its fields carry what the
constructor and `setup_bounce_buffer` check (`Construct.construct_config`).

* `initPlatform` sets the DMA limit and offset of the variant.
* `dmaOffset_add_dmaLimit`: every address up to the limit fits 32 bits after the offset was added.
* `bounce_end_le`: the bounce buffer lies at or below the limit.
* `maxDescs_le`: the size of the descriptor table.

Sizes are those of a 64-bit `l4_size_t`. Only the variants with an `init_platform` are modelled.
-/

namespace Emmc

inductive SdhciType
  | plain
  | usdhc
  | bcm2711
deriving DecidableEq, Repr

/-- The parts of a board revision code that tell the DMA constraints. -/
structure SocRev where
  newStyle : Bool
  type : Nat
  revision : Nat
deriving DecidableEq, Repr

/-- What `init_platform` decides about DMA. -/
structure Platform where
  dmaOffset : U64
  dmaLimit : U64
deriving DecidableEq, Repr

namespace Platform

def oldBoard : Platform := { dmaOffset := 0xc0000000, dmaLimit := 0x3fffffff }

def fullRange : Platform := { dmaOffset := 0, dmaLimit := 0xffffffff }

end Platform

def initPlatform : SdhciType → SocRev → Platform
  | .plain, _ => .fullRange
  | .usdhc, _ => .fullRange
  | .bcm2711, rev =>
    if rev.newStyle then
      match rev.type with
      | 0x11 => if rev.revision ≤ 2 then .oldBoard else .fullRange
      | 0x13 => .fullRange
      | 0x14 => .fullRange
      | 0x15 => .fullRange
      | _ => .oldBoard
    else .oldBoard

/-- `Drv_base::dma_accessible`. -/
def dmaAccessible (dmaLimit dmaAddr size : U64) : Bool :=
  dmaAddr ≤ dmaLimit ∧ dmaAddr + size - 1 ≤ dmaLimit

/-- Conversion `%llx` of a format string. -/
def hex (value : U64) : String := String.ofList (Nat.toDigits 16 value.toNat)

/-- Conversion `%08llx` of a format string. -/
def hex08 (value : U64) : String :=
  let digits := Nat.toDigits 16 value.toNat
  String.ofList (List.replicate (8 - digits.length) '0' ++ digits)

/-- Physical memory as `dma->map` reports it. -/
structure Mapping where
  phys : U64
  size : U64
  fits : phys.toNat + size.toNat ≤ 2 ^ 64

namespace Sdhci

def maxInoutReqSize : SdhciType → Nat
  | .usdhc => RegBlkAtt.maxBlocks <<< 9
  | _ => RegBlkSize.maxBlocks <<< 9

def adma2DescMemSize (type : SdhciType) (is64 : Bool) (maxSeg : Nat) : Nat :=
  let descsPerSeg := maxInoutReqSize type / Adma2Desc.maxLength
  L4.roundPage (maxSeg * descsPerSeg * Adma2Desc.sizeOf is64)

end Sdhci

structure Sdhci where
  type : SdhciType
  socRev : SocRev
  maxSeg : Nat
  dmaAdma2 : Bool := true
  autoCmd12 : Bool := false
  autoCmd23Enabled : Bool := true
  adma2Is64 : Bool
  adma2DescPhys : U64
  /-- Physical memory behind the virtual addresses of the driver. -/
  translate : U64 → U64 := id
  bbPhys : U64 := 0
  bbVirt : U64 := 0
  bbSize : U64 := 0
  segments : 0 < maxSeg ∧ maxSeg ≤ 128
  auto : autoCmd23Enabled = true → dmaAdma2 = true := by exact fun enabled => enabled
  descriptors : dmaAccessible (initPlatform type socRev).dmaLimit adma2DescPhys
    (BitVec.ofNat 64 (Sdhci.adma2DescMemSize type adma2Is64 maxSeg)) = true
  bounce : bbSize ≠ 0 → 64 <<< 10 ≤ bbSize.toNat ∧ L4.pageSize ≤ bbSize.toNat / maxSeg ∧
    bbPhys.toNat + bbSize.toNat ≤ 2 ^ 64 ∧
    dmaAccessible (initPlatform type socRev).dmaLimit bbPhys bbSize = true

namespace Sdhci

theorem segments_64 : 0 < 64 ∧ 64 ≤ 128 := by decide

variable (s : Sdhci)

def dmaOffset : U64 := (initPlatform s.type s.socRev).dmaOffset
def dmaLimit : U64 := (initPlatform s.type s.socRev).dmaLimit

def dmaAccessible (dmaAddr size : U64) : Bool := Emmc.dmaAccessible s.dmaLimit dmaAddr size

def providedBounceBuffer : Bool := s.bbSize ≠ 0

/-- `auto_cmd23()`. -/
def autoCmd23 : Bool := s.autoCmd23Enabled && (s.type = .usdhc || s.type = .bcm2711)

/-- Number of descriptors the descriptor memory has room for. -/
def maxDescs : Nat :=
  adma2DescMemSize s.type s.adma2Is64 s.maxSeg / Adma2Desc.sizeOf s.adma2Is64

/-! ## Bounds -/

/-- A board either reaches all of the memory or has the window of the old boards. -/
theorem initPlatform_cases (type : SdhciType) (rev : SocRev) :
    initPlatform type rev = .oldBoard ∨ initPlatform type rev = .fullRange := by
  cases type with
  | plain => exact Or.inr rfl
  | usdhc => exact Or.inr rfl
  | bcm2711 =>
    rw [initPlatform]
    split
    · split
      · split
        · exact Or.inl rfl
        · exact Or.inr rfl
      · exact Or.inr rfl
      · exact Or.inr rfl
      · exact Or.inr rfl
      · exact Or.inl rfl
    · exact Or.inl rfl

/-- On both, a DMA address with the offset of the board still fits 32 bits. -/
theorem dmaOffset_add_dmaLimit : s.dmaOffset.toNat + s.dmaLimit.toNat < 2 ^ 32 := by
  rw [dmaOffset, dmaLimit]
  rcases initPlatform_cases s.type s.socRev with board | board <;> rw [board] <;> decide

/-- So an address within the limit fits 32 bits without the offset, too. -/
theorem dmaLimit_lt : s.dmaLimit.toNat < 2 ^ 32 :=
  Nat.lt_of_le_of_lt (Nat.le_add_left _ _) s.dmaOffset_add_dmaLimit

/-- What accessibility means for memory that does not wrap around. -/
theorem dmaAccessible_iff {addr size : U64} (some : 0 < size.toNat)
    (fits : addr.toNat + size.toNat ≤ 2 ^ 64) :
    s.dmaAccessible addr size = true ↔ addr.toNat + size.toNat - 1 ≤ s.dmaLimit.toNat := by
  have last : (addr + size - 1).toNat = addr.toNat + size.toNat - 1 := by
    bv_omega
  simp only [dmaAccessible, Emmc.dmaAccessible, decide_eq_true_eq, BitVec.le_def, last]
  omega

/-- The bounce buffer lies within the limit as a whole. -/
theorem bounce_end_le (provided : s.bbSize ≠ 0) :
    s.bbPhys.toNat + s.bbSize.toNat ≤ s.dmaLimit.toNat + 1 := by
  obtain ⟨large, -, fits, accessible⟩ := s.bounce provided
  have some : 0 < s.bbSize.toNat := Nat.lt_of_lt_of_le (by decide) large
  have bound := (s.dmaAccessible_iff some fits).mp accessible
  omega

/-- And so does the memory of the descriptors. -/
theorem adma2DescPhys_le : s.adma2DescPhys ≤ s.dmaLimit :=
  (of_decide_eq_true s.descriptors).1

/-- The largest request is 65535 blocks of 512 bytes, for every type of controller. -/
theorem maxInoutReqSize_eq (type : SdhciType) : maxInoutReqSize type = 33553920 := by
  cases type <;> rfl

/-- There are 1023 descriptors for each segment, and the memory has whole pages. -/
theorem adma2DescMemSize_eq (type : SdhciType) (is64 : Bool) (maxSeg : Nat) :
    adma2DescMemSize type is64 maxSeg =
      (maxSeg * 1023 * Adma2Desc.sizeOf is64 + 4095) / 4096 * 4096 := by
  rw [adma2DescMemSize, maxInoutReqSize_eq]
  rfl

/-- The number of descriptors is bounded by that memory. -/
theorem maxDescs_le : s.maxDescs ≤ 131072 := by
  have bound := s.segments.2
  rw [maxDescs, adma2DescMemSize_eq]
  cases s.adma2Is64 <;> simp only [Adma2Desc.sizeOf, if_true, Bool.false_eq_true, if_false] <;> omega

end Sdhci

end Emmc
