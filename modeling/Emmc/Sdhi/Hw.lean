import Mathlib.Logic.Function.Basic
import Emmc.Drv

/-!
# State of an SDHI controller

The registers with the bit fields the driver uses, and the state `Hw` with a log of the register
writes (newest first). Before it writes some of the registers the driver polls `Sd_info`; whether
such a poll succeeds in time is taken from the list `polls`, and a list that is used up succeeds.
`Sd_info` is one register of 32 bits here, although it is accessed in two halves.

* `wp_writeReg_free`, `wp_writeReg_polled`: a register is written, or a poll timed out and nothing was
  written.
-/

namespace Emmc

open Throwing

namespace Sdhi

inductive Regs
  | sdCmd
  | sdArg
  | sdStop
  | sdSeccnt
  | sdRsp10
  | sdRsp32
  | sdRsp54
  | sdRsp76
  | sdInfo
  | sdInfoMask
  | sdClkCtrl
  | sdSize
  | sdOption
  | sdioMode
  | ccExtMode
  | hostMode
  | dmCmInfo1
  | dmCmInfo1Mask
  | dmCmInfo2Mask
  | dmCmDtranMode
  | dmCmDtranCtrl
  | dmDtranAddr
deriving DecidableEq, Repr

/-! ## Bit fields -/

namespace RegSdCmd

def md5 : Bitfield 32 := .bit 13
def md4 : Bitfield 32 := .bit 12
def md3 : Bitfield 32 := .bit 11
def mode : Bitfield 32 := { lsb := 8, msb := 10 }
def cf : Bitfield 32 := { lsb := 0, msb := 5 }

def respNone : U32 := 3
def respR1 : U32 := 4
def respR1b : U32 := 5
def respR2 : U32 := 6
def respR3 : U32 := 7

end RegSdCmd

namespace RegSdStop

def sec : Bitfield 32 := .bit 8

end RegSdStop

namespace RegSdSize

def len : Bitfield 32 := { lsb := 0, msb := 9 }

end RegSdSize

namespace RegSdClkCtrl

def sclken : Bitfield 32 := .bit 8
def div : Bitfield 32 := { lsb := 0, msb := 7 }

def divisor (raw : U32) : U32 :=
  if div.get raw = 0xff then 1
  else if div.get raw = 0 then 2
  else div.get raw <<< 2

def setDivisor (raw divisor : U32) : Except RuntimeError U32 :=
  if divisor = 512 ∨ divisor = 256 ∨ divisor = 128 ∨ divisor = 64 ∨ divisor = 32 ∨ divisor = 16 ∨
      divisor = 8 ∨ divisor = 4 then .ok (div.set raw (divisor >>> 2))
  else if divisor = 2 then .ok (div.set raw 0)
  else if divisor = 1 then .ok (div.set raw 0xff)
  else .error ⟨-L4.einval, "invalid divisor"⟩

end RegSdClkCtrl

namespace RegSdInfo

def ila : Bitfield 32 := .bit 31
def cbsy : Bitfield 32 := .bit 30
def sclkdiven : Bitfield 32 := .bit 29
def res27 : Bitfield 32 := .bit 27
def bwe : Bitfield 32 := .bit 25
def bre : Bitfield 32 := .bit 24
def err6 : Bitfield 32 := .bit 22
def err5 : Bitfield 32 := .bit 21
def err3 : Bitfield 32 := .bit 19
def err2 : Bitfield 32 := .bit 18
def err1 : Bitfield 32 := .bit 17
def err0 : Bitfield 32 := .bit 16
def info2 : Bitfield 32 := .bit 2
def info0 : Bitfield 32 := .bit 0

/-- A register object that was not read from the controller. -/
def fresh : U32 := res27.put 0 true

def error (raw : U32) : Bool :=
  err0.test raw || err1.test raw || err2.test raw || err3.test raw || err6.test raw || ila.test raw

end RegSdInfo

namespace RegSdInfoMask

def emask6 : Bitfield 32 := .bit 22
def imask4 : Bitfield 32 := .bit 4
def imask3 : Bitfield 32 := .bit 3
def imask2 : Bitfield 32 := .bit 2
def imask0 : Bitfield 32 := .bit 0

def enableInts (raw : U32) : U32 :=
  [imask0, imask2, imask3, imask4, emask6].foldl (fun raw f => f.put raw false) raw

end RegSdInfoMask

namespace RegCcExtMode

def res12 : Bitfield 32 := .bit 12
def res4 : Bitfield 32 := .bit 4
def dmasdrw : Bitfield 32 := .bit 1

def fresh : U32 := res12.put (res4.put 0 true) true

end RegCcExtMode

namespace RegDmCmDtranMode

def chNum : Bitfield 32 := { lsb := 16, msb := 17 }
def busWidth : Bitfield 32 := { lsb := 4, msb := 5 }
def addrMode : Bitfield 32 := .bit 0

def ch0Write : U32 := 0
def ch1Read : U32 := 1
def bus64bits : U32 := 3
def incrAddr : U32 := 1

end RegDmCmDtranMode

namespace RegDmCmDtranCtrl

def dmStart : Bitfield 32 := .bit 0

end RegDmCmDtranCtrl

namespace RegDmCmInfo1Mask

def dtranend12Mask : Bitfield 32 := .bit 20
def dtranend11Mask : Bitfield 32 := .bit 17
def dtranend0Mask : Bitfield 32 := .bit 16

end RegDmCmInfo1Mask

namespace RegDmCmInfo2Mask

def dtranerr1Mask : Bitfield 32 := .bit 17
def dtranerr0Mask : Bitfield 32 := .bit 16

end RegDmCmInfo2Mask

/-! ## The controller -/

structure Hw where
  regs : Regs → U32 := fun _ => 0
  /-- `Sd_info` as it was read at the interrupt. -/
  info : U32 := 0
  /-- Whether the next polls succeed. -/
  polls : List Bool := []
  log : List (Regs × U32) := []

/-- What an interrupt finds. -/
structure Irq where
  regs : Regs → U32
  polls : List Bool := []

def Irq.info (irq : Irq) : U32 := irq.regs .sdInfo

def present (irq : Irq) (h : Hw) : Hw :=
  { h with regs := irq.regs, info := irq.info, polls := irq.polls }

abbrev HwM := EStateM RuntimeError Hw

/-- Run a function that does not touch the command. -/
def onHw {α : Type} (m : HwM α) : EStateM RuntimeError (Cmd × Hw) α :=
  zoom Prod.snd (fun h s => (s.1, h)) m

def readReg (r : Regs) : HwM U32 := do
  return (← get).regs r

/-- The condition that is polled before a register is written. -/
def Regs.polled : Regs → Option String
  | .sdCmd | .sdStop | .sdSeccnt | .sdSize | .sdOption | .sdioMode | .ccExtMode | .hostMode =>
    some "Writing register (cbsy)"
  | .sdClkCtrl => some "Writing register (sclkdiven)"
  | _ => none

/-- `Util::poll`. -/
def poll (text : String) : HwM Unit := do
  let done := (← get).polls.headD true
  modify fun h => { h with polls := h.polls.tail }
  if done then return () else throw ⟨-L4.eio, text⟩

def Hw.setReg (h : Hw) (r : Regs) (value : U32) : Hw :=
  { h with regs := Function.update h.regs r value, log := (r, value) :: h.log }

def writeReg (r : Regs) (value : U32) : HwM Unit := do
  (match r.polled with
  | some text => poll text
  | none => pure ())
  modify (·.setReg r value)

/-! ## What a write does -/

theorem wp_onHw {α : Type} {m : HwM α} {Q : α → Cmd × Hw → Prop}
    {E : RuntimeError → Cmd × Hw → Prop} {t : Cmd × Hw} :
    wp (onHw m) Q E t ↔ wp m (fun a h => Q a (t.1, h)) (fun e h => E e (t.1, h)) t.2 := by
  rw [onHw, wp_zoom]

theorem wp_readReg {r : Regs} {Q : U32 → Hw → Prop} {E : RuntimeError → Hw → Prop} {h : Hw} :
    wp (readReg r) Q E h ↔ Q (h.regs r) h := by
  rw [readReg, wp_bind, wp_get, wp_pure]

/-- A register without a poll is just written. -/
theorem wp_writeReg_free {r : Regs} (free : r.polled = none) {value : U32} {Q : Unit → Hw → Prop}
    {E : RuntimeError → Hw → Prop} {h : Hw} :
    wp (writeReg r value) Q E h ↔ Q () (h.setReg r value) := by
  rw [writeReg, free]
  exact Iff.rfl

/-- The state behind a poll. -/
def Hw.afterPoll (h : Hw) : Hw := { h with polls := h.polls.tail }

/-- A register is written behind a successful poll, or not at all. -/
theorem wp_writeReg_polled {r : Regs} {text : String} (polled : r.polled = some text) {value : U32}
    {Q : Unit → Hw → Prop} {E : RuntimeError → Hw → Prop} {h : Hw} :
    wp (writeReg r value) Q E h ↔
      (h.polls.headD true = true → Q () (h.afterPoll.setReg r value)) ∧
      (h.polls.headD true = false → E ⟨-L4.eio, text⟩ h.afterPoll) := by
  rw [writeReg, polled]
  simp only [poll, wp_bind, wp_get, wp_modify]
  rw [wp_ite, wp_pure, wp_throw, Bool.not_eq_true]
  exact Iff.rfl

end Sdhi

end Emmc
