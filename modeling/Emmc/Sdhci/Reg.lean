import Emmc.Cmd

/-!
# Registers and descriptors of the SDHCI controller

The registers the driver touches while it handles commands, with the bit fields it uses, and the
two formats of an ADMA2 descriptor. `Blk_att` and `Blk_size`, `Ds_addr` and `Cmd_arg2`, and
`Autocmd12_err_status` and `Host_ctrl2` are two names of one register each.
-/

namespace Emmc

namespace Sdhci

inductive Regs
  | dsAddr
  | blkAtt
  | cmdArg
  | cmdXfrTyp
  | cmdRsp0
  | cmdRsp1
  | cmdRsp2
  | cmdRsp3
  | dataBuffAccPort
  | presState
  | sysCtrl
  | intStatus
  | intStatusEn
  | intSignalEn
  | autocmd12ErrStatus
  | wtmkLvl
  | mixCtrl
  | admaSysAddrLo
  | admaSysAddrHi
deriving DecidableEq, Repr

abbrev Regs.blkSize : Regs := .blkAtt
abbrev Regs.cmdArg2 : Regs := .dsAddr
abbrev Regs.hostCtrl2 : Regs := .autocmd12ErrStatus

/-! ## Bit fields -/

/-! Block attributes (uSDHC). -/

namespace RegBlkAtt

def maxBlocks : Nat := 2 ^ 16 - 1

def blkcnt : Bitfield 32 := { lsb := 16, msb := 31 }
def blksize : Bitfield 32 := { lsb := 0, msb := 12 }

end RegBlkAtt

/-! Block size (SDHCI). -/

namespace RegBlkSize

def maxBlocks : Nat := 2 ^ 16 - 1

def blkcnt : Bitfield 32 := { lsb := 16, msb := 31 }
def sdmaBufBndry : Bitfield 32 := { lsb := 12, msb := 14 }
def blksize : Bitfield 32 := { lsb := 0, msb := 11 }

def bndry512k : U32 := 7

end RegBlkSize

namespace RegCmdXfrTyp

def cmdinx : Bitfield 32 := { lsb := 24, msb := 29 }
def cmdtyp : Bitfield 32 := { lsb := 22, msb := 23 }
def dpsel : Bitfield 32 := .bit 21
def cicen : Bitfield 32 := .bit 20
def cccen : Bitfield 32 := .bit 19
def rsptyp : Bitfield 32 := { lsb := 16, msb := 17 }
def msbsel : Bitfield 32 := .bit 5
def dtdsel : Bitfield 32 := .bit 4
def ac23en : Bitfield 32 := .bit 3
def ac12en : Bitfield 32 := .bit 2
def bcen : Bitfield 32 := .bit 1
def dmaen : Bitfield 32 := .bit 0

def cmd52Abort : U32 := 3

def respNo : U32 := 0
def respLength136 : U32 := 1
def respLength48 : U32 := 2
def respLength48CheckBusy : U32 := 3

end RegCmdXfrTyp

namespace RegPresState

def cihb : Bitfield 32 := .bit 0

end RegPresState

namespace RegSysCtrl

def rstd : Bitfield 32 := .bit 26
def rstc : Bitfield 32 := .bit 25
def sdcen : Bitfield 32 := .bit 2
def icst : Bitfield 32 := .bit 1
def icen : Bitfield 32 := .bit 0

/-! The divider of the clock (uSDHC). -/

def sdclkfs : Bitfield 32 := { lsb := 8, msb := 15 }
def dvs : Bitfield 32 := { lsb := 4, msb := 7 }

def clockDividerSdr (raw : U32) : U32 :=
  (if sdclkfs.get raw ≠ 0 then sdclkfs.get raw * 2 else 1) * (dvs.get raw + 1)

def clockDividerDdr (raw : U32) : U32 :=
  (if sdclkfs.get raw ≠ 0 then sdclkfs.get raw * 4 else 2) * (dvs.get raw + 1)

/-! The divider of the clock (version 3.00). -/

def clkFreq8 : Bitfield 32 := { lsb := 8, msb := 15 }
def clkFreqMs2 : Bitfield 32 := { lsb := 6, msb := 7 }

def clockBaseDivider10 (raw : U32) : U32 := (clkFreq8.get raw + clkFreqMs2.get raw <<< 8) * 2

end RegSysCtrl

/-! Interrupt status; the two enable registers have the same layout. -/

namespace RegIntStatus

def dmae : Bitfield 32 := .bit 28
def admae : Bitfield 32 := .bit 25
def ac12e : Bitfield 32 := .bit 24
def lime : Bitfield 32 := .bit 23
def debe : Bitfield 32 := .bit 22
def dce : Bitfield 32 := .bit 21
def dtoe : Bitfield 32 := .bit 20
def cie : Bitfield 32 := .bit 19
def cebe : Bitfield 32 := .bit 18
def cce : Bitfield 32 := .bit 17
def ctoe : Bitfield 32 := .bit 16
def rte : Bitfield 32 := .bit 12
def brr : Bitfield 32 := .bit 5
def bwr : Bitfield 32 := .bit 4
def dint : Bitfield 32 := .bit 3
def tc : Bitfield 32 := .bit 1
def cc : Bitfield 32 := .bit 0

/-- There was an error during the command phase. -/
def cmdError (raw : U32) : Bool := cie.test raw || cebe.test raw || cce.test raw

/-- There was an error during the data phase. -/
def dataError (raw : U32) : Bool :=
  debe.test raw || dce.test raw || dtoe.test raw || dmae.test raw || admae.test raw

/-- Copy the given one-bit fields to an empty register. -/
def copy (fields : List (Bitfield 32)) (other : U32) : U32 :=
  fields.foldl (fun raw f => f.put raw (f.test other)) 0

def copyCmdError (other : U32) : U32 := copy [cie, cebe, cce] other

def copyDataError (other : U32) : U32 := copy [debe, dce, dtoe, admae, dmae] other

end RegIntStatus

/-- Set the given one-bit fields. -/
def assign (fields : List (Bitfield 32 × Bool)) (raw : U32) : U32 :=
  fields.foldl (fun raw f => f.1.put raw f.2) raw

section EnableInts

open RegIntStatus

/-- The interrupt sources both enable registers have in common, apart from command completion. -/
def commonInts (autoCmd12 : Bool) (c : Cmd) : List (Bitfield 32 × Bool) :=
  [(tc, true), (dint, true), (rte, true), (ctoe, true), (cce, true), (cebe, true), (cie, true),
    (dtoe, true), (dce, true), (debe, true), (lime, true),
    (ac12e, autoCmd12 && c.flags.inoutCmd12 || c.flags.autoCmd23), (admae, true), (dmae, true),
    (brr, c.isTuning)]

/-- `Reg_int_status_en::enable_ints`. -/
def RegIntStatusEn.enableInts (autoCmd12 : Bool) (c : Cmd) : U32 :=
  assign ((cc, true) :: commonInts autoCmd12 c) 0

/-- `Reg_int_signal_en::enable_ints`: no interrupt at the completion of a command with data. -/
def RegIntSignalEn.enableInts (autoCmd12 : Bool) (c : Cmd) : U32 :=
  assign ((cc, !c.flags.hasData) :: commonInts autoCmd12 c) 0

end EnableInts

namespace RegAutocmd12ErrStatus

def smpClkSel : Bitfield 32 := .bit 23
def executeTuning : Bitfield 32 := .bit 22

end RegAutocmd12ErrStatus

namespace RegHostCtrl2

def tuned : Bitfield 32 := .bit 23
def tuneon : Bitfield 32 := .bit 22

end RegHostCtrl2

namespace RegWtmkLvl

def wrBrstLen : Bitfield 32 := { lsb := 24, msb := 28 }
def wrWml : Bitfield 32 := { lsb := 16, msb := 23 }
def rdBrstLen : Bitfield 32 := { lsb := 8, msb := 12 }
def rdWml : Bitfield 32 := { lsb := 0, msb := 7 }

def wmlDma : U32 := 64
def brstDma : U32 := 16

/-- The same watermark level and the DMA burst length in both directions. -/
def levels (raw wml : U32) : U32 :=
  wrBrstLen.set (rdBrstLen.set (wrWml.set (rdWml.set raw wml) wml) brstDma) brstDma

end RegWtmkLvl

namespace RegMixCtrl

def fbclkSel : Bitfield 32 := .bit 25
def autoTuneEn : Bitfield 32 := .bit 24
def ac23en : Bitfield 32 := .bit 7
def msbsel : Bitfield 32 := .bit 5
def dtdsel : Bitfield 32 := .bit 4
def ac12en : Bitfield 32 := .bit 2
def bcen : Bitfield 32 := .bit 1
def dmaen : Bitfield 32 := .bit 0

end RegMixCtrl

/-! ## ADMA2 descriptors -/

/-- The words of a descriptor; the 32-bit format does not have the third one. -/
structure Adma2Desc where
  word0 : U32 := 0
  word1 : U32 := 0
  word2 : U32 := 0
deriving DecidableEq, Repr

namespace Adma2Desc

def length : Bitfield 32 := { lsb := 16, msb := 31 }
def act : Bitfield 32 := { lsb := 3, msb := 5 }
def endBit : Bitfield 32 := .bit 1
def valid : Bitfield 32 := .bit 0

def actTran : U32 := 4
def maxLength : Nat := 32768

/-- Size of a descriptor with 32-bit or 64-bit addresses. -/
def sizeOf (is64 : Bool) : Nat := if is64 then 16 else 8

/-- `get_max_addr` of the two formats. -/
def getMaxAddr (is64 : Bool) : U64 := if is64 then 0xffffffffffffffff else 0xffffffff

/-- `reset` of the two formats. -/
def reset (is64 : Bool) (d : Adma2Desc) : Adma2Desc :=
  { word0 := 0, word1 := 0, word2 := if is64 then 0 else d.word2 }

/-- `set_addr` of the two formats. -/
def setAddr (is64 : Bool) (d : Adma2Desc) (addr : U64) : Adma2Desc :=
  if is64 then { d with word1 := addr.setWidth 32, word2 := (addr >>> 32).setWidth 32 }
  else { d with word1 := addr.setWidth 32 }

/-- `get_addr` of the two formats. -/
def getAddr (is64 : Bool) (d : Adma2Desc) : U64 :=
  if is64 then d.word2.setWidth 64 <<< 32 ||| d.word1.setWidth 64 else d.word1.setWidth 64

/-- Modify a bit field of the first word. -/
def setWord0 (d : Adma2Desc) (f : Bitfield 32) (v : U32) : Adma2Desc :=
  { d with word0 := f.set d.word0 v }

/-- A descriptor as the driver writes it. -/
def transfer (is64 : Bool) (d : Adma2Desc) (addr : U64) (len : U32) (last : Bool) : Adma2Desc :=
  let d := (d.reset is64).setWord0 valid 1
  let d := d.setWord0 act actTran
  let d := (d.setWord0 length len).setAddr is64 addr
  if last then d.setWord0 endBit 1 else d

section Fields

variable (is64 : Bool) (d : Adma2Desc) (addr : U64) (len : U32) (last : Bool)

/-- The first word of a descriptor is built as the code builds it: valid, action, length and, for the last
one, the end bit. -/
theorem word0_transfer : (d.transfer is64 addr len last).word0 =
    if last then endBit.set (length.set (act.set (valid.set 0 1) actTran) len) 1
    else length.set (act.set (valid.set 0 1) actTran) len := by
  cases is64 <;> cases last <;> rfl

/-- Every descriptor that is written is valid. -/
theorem valid_transfer : valid.test (d.transfer is64 addr len last).word0 = true := by
  rw [word0_transfer]
  have body : valid.test (length.set (act.set (valid.set 0 1) actTran) len) = true := by
    rw [Bitfield.test_set_of_disjoint (by decide), Bitfield.test_set_of_disjoint (by decide),
      Bitfield.test_set_self]
    rfl
  split
  · rw [Bitfield.test_set_of_disjoint (by decide)]
    exact body
  · exact body

/-- Every one transfers; there are no links and no gaps. -/
theorem act_transfer : act.get (d.transfer is64 addr len last).word0 = actTran := by
  rw [word0_transfer]
  have body : act.get (length.set (act.set (valid.set 0 1) actTran) len) = actTran := by
    rw [Bitfield.get_set_of_disjoint (by decide), Bitfield.get_set_eq_iff]
    decide
  split
  · rw [Bitfield.get_set_of_disjoint (by decide)]
    exact body
  · exact body

/-- The end bit is on the last one only. -/
theorem endBit_transfer : endBit.test (d.transfer is64 addr len last).word0 = last := by
  rw [word0_transfer]
  cases last with
  | true =>
    rw [if_pos rfl, Bitfield.test_set_self]
    rfl
  | false =>
    rw [if_neg Bool.false_ne_true, Bitfield.test_set_of_disjoint (by decide),
      Bitfield.test_set_of_disjoint (by decide), Bitfield.test_set_of_disjoint (by decide)]
    rfl

/-- A length that fits its field is read back from the descriptor. -/
theorem length_transfer (fits : len.toNat ≤ maxLength) :
    length.get (d.transfer is64 addr len last).word0 = len := by
  have small : len.toNat < 2 ^ length.width := Nat.lt_of_le_of_lt fits (by decide)
  have body := (Bitfield.get_set_eq_iff length (act.set (valid.set 0 1) actTran) len).mpr small
  rw [word0_transfer]
  split
  · rw [Bitfield.get_set_of_disjoint (by decide)]
    exact body
  · exact body

/-- The address a descriptor holds, cut off to the width of its format. -/
theorem getAddr_transfer : (d.transfer is64 addr len last).getAddr is64 =
    if is64 then addr else (addr.setWidth 32).setWidth 64 := by
  cases is64 with
  | false => cases last <;> rfl
  | true =>
    have halves : ((addr >>> 32).setWidth 32).setWidth 64 <<< 32 |||
        (addr.setWidth 32).setWidth 64 = addr := by
      apply BitVec.eq_of_getLsbD_eq
      intro i bound
      simp only [BitVec.getLsbD_or, BitVec.getLsbD_shiftLeft, BitVec.getLsbD_setWidth,
        BitVec.getLsbD_ushiftRight]
      rcases Nat.lt_or_ge i 32 with low | high
      · simp [low, bound]
      · simp [Nat.not_lt.mpr high, bound, Nat.add_sub_cancel' high, show i - 32 < 32 by omega,
          show i - 32 < 64 by omega]
    cases last <;> exact halves

end Fields

end Adma2Desc

end Sdhci

end Emmc
