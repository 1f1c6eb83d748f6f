import Mathlib.Logic.Function.Basic
import Emmc.Lib.Memory
import Emmc.Lib.Frame
import Emmc.Drv
import Emmc.Sdhci.Config

/-!
# State of an SDHCI controller

`Hw` holds the registers, the ADMA2 descriptors, physical memory and a log of the register writes
and the descriptors written (newest first). A descriptor is logged with the physical address it was
written for. An interrupt (`Irq`) finds the registers and the memory as the controller left them,
the words it will read from the data port, and whether a software reset is going to finish.

* `memcpy` copies bytes between virtual addresses; `memcpy_eq` is its effect on physical memory
  where the addresses are mapped to two stretches of it.
* `Quiet` computations set up registers: they do not throw and do not issue a command.

Writing a one to `Int_status` clears the bit. Cache maintenance and the delay between two register
writes are left out.
-/

namespace Emmc

open Throwing

namespace Sdhci

/-- What the driver writes. -/
inductive Access
  | reg (reg : Regs) (value : U32)
  | desc (index : Nat) (phys : U64) (desc : Adma2Desc)

/-- A register write that does not issue a command. -/
def Access.isSetup : Access → Bool
  | .reg r _ => r ≠ .cmdXfrTyp
  | .desc .. => false

/-- The command register was written. -/
def Access.isCommand : Access → Bool
  | .reg r _ => r = .cmdXfrTyp
  | .desc .. => false

structure Hw where
  regs : Regs → U32 := fun _ => 0
  /-- `Int_status` as it was read at the interrupt. -/
  is : U32 := 0
  fifo : List U32 := []
  rstcDone : Bool := true
  rstdDone : Bool := true
  descs : Nat → Adma2Desc := fun _ => {}
  mem : U64 → U8 := fun _ => 0
  log : List Access := []

structure Irq where
  regs : Regs → U32
  fifo : List U32 := []
  rstcDone : Bool := true
  rstdDone : Bool := true
  mem : U64 → U8 := fun _ => 0

def present (irq : Irq) (h : Hw) : Hw :=
  { h with
    regs := irq.regs
    is := irq.regs .intStatus
    fifo := irq.fifo
    rstcDone := irq.rstcDone
    rstdDone := irq.rstdDone
    mem := irq.mem }

abbrev HwM := EStateM RuntimeError Hw

/-- Run a function that does not touch the command. -/
def onHw {α : Type} (m : HwM α) : EStateM RuntimeError (Cmd × Hw) α :=
  zoom Prod.snd (fun h s => (s.1, h)) m

/-! ## Registers and descriptors -/

def readReg (r : Regs) : HwM U32 := do
  return (← get).regs r

def Hw.setReg (h : Hw) (r : Regs) (value : U32) : Hw :=
  { h with
    regs := Function.update h.regs r (if r = .intStatus then h.regs r &&& ~~~value else value)
    log := .reg r value :: h.log }

def writeReg (r : Regs) (value : U32) : HwM Unit := modify (·.setReg r value)

/-- The next word of the data port. -/
def readDataPort : HwM U32 := do
  let words := (← get).fifo
  modify fun h => { h with fifo := words.tail }
  return words.headD 0

def Hw.setDesc (h : Hw) (index : Nat) (phys : U64) (d : Adma2Desc) : Hw :=
  { h with descs := Function.update h.descs index d, log := .desc index phys d :: h.log }

def Hw.setMem (h : Hw) (mem : U64 → U8) : Hw := { h with mem := mem }

/-- `Util::poll`, told whether the condition becomes true in time. -/
def poll (done : Bool) (text : String) : HwM Unit :=
  if done then return () else throw ⟨-L4.eio, text⟩

/-! ## Memory -/

/-- The bytes at `n` consecutive virtual addresses. -/
def loadBytes (translate : U64 → U64) (mem : U64 → U8) (src : U64) (n : Nat) : List U8 :=
  (List.range n).map fun i => mem (translate (src + BitVec.ofNat 64 i))

/-- Store bytes at consecutive virtual addresses. -/
def storeBytes (translate : U64 → U64) (mem : U64 → U8) (dst : U64) : List U8 → U64 → U8
  | [] => mem
  | byte :: bytes =>
    storeBytes translate (Function.update mem (translate dst) byte) (dst + 1) bytes

def memcpy (translate : U64 → U64) (mem : U64 → U8) (dst src : U64) (n : Nat) : U64 → U8 :=
  storeBytes translate mem dst (loadBytes translate mem src n)

/-- `n` virtual addresses are mapped to consecutive physical ones. -/
def Maps (translate : U64 → U64) (virt phys : U64) (n : Nat) : Prop :=
  ∀ i < n, translate (virt + BitVec.ofNat 64 i) = phys + BitVec.ofNat 64 i

/-- A part of a buffer is mapped as the buffer is. -/
theorem Maps.part {translate : U64 → U64} {virt phys : U64} {n : Nat}
    (maps : Maps translate virt phys n) {offset k : Nat} (within : offset + k ≤ n) :
    Maps translate (virt + BitVec.ofNat 64 offset) (phys + BitVec.ofNat 64 offset) k := by
  intro i less
  have whole := maps (offset + i) (by omega)
  rw [BitVec.ofNat_add] at whole
  rw [BitVec.add_assoc, whole, BitVec.add_assoc]

/-- Copying from a mapped buffer reads the physical memory behind it. -/
theorem loadBytes_eq {translate : U64 → U64} {mem : U64 → U8} {src phys : U64} {n : Nat}
    (maps : Maps translate src phys n) :
    loadBytes translate mem src n = Memory.read mem ⟨phys, n⟩ := by
  refine List.map_congr_left fun i member => ?_
  rw [maps i (List.mem_range.mp member)]

/-- Copying to it writes that memory, as long as no byte is written twice. -/
theorem storeBytes_eq {translate : U64 → U64} {mem : U64 → U8} {dst phys : U64} {bytes : List U8}
    (maps : Maps translate dst phys bytes.length) (fits : bytes.length ≤ 2 ^ 64) :
    storeBytes translate mem dst bytes = Memory.write mem phys bytes := by
  induction bytes generalizing mem dst phys with
  | nil => rfl
  | cons byte bytes ih =>
    have first : translate dst = phys := by
      have here := maps 0 (by simp)
      rwa [BitVec.add_zero, BitVec.add_zero] at here
    have rest : Maps translate (dst + 1) (phys + 1) bytes.length :=
      maps.part (by rw [List.length_cons, Nat.add_comm])
    have single : Function.update mem phys byte = Memory.write mem phys [byte] := by
      funext x
      by_cases here : x = phys
      · rw [here, Function.update_self, Memory.write, BitVec.sub_self]
        rfl
      · have away : 1 ≤ (x - phys).toNat := by
          have : x - phys ≠ 0 := fun zero => here (by bv_omega)
          bv_omega
        rw [Function.update_of_ne here, Memory.write_of_outside]
        exact Nat.not_lt.mpr away
    rw [storeBytes, first, ih rest (Nat.le_of_succ_le fits), single]
    exact (Memory.write_append (show ([byte] ++ bytes).length ≤ 2 ^ 64 from fits)).symm

/-- The effect of `memcpy` between two mapped stretches. -/
theorem memcpy_eq {translate : U64 → U64} {mem : U64 → U8} {dst src goal origin : U64} {n : Nat}
    (target : Maps translate dst goal n)
    (source : Maps translate src origin n) (fits : n ≤ 2 ^ 64) :
    memcpy translate mem dst src n = Memory.write mem goal (Memory.read mem ⟨origin, n⟩) := by
  rw [memcpy, loadBytes_eq source, storeBytes_eq]
  · rwa [Memory.length_read]
  · rwa [Memory.length_read]

/-! ## Register setup -/

/-- From `h` to `h'` only registers were set up. -/
structure Hw.Setup (h h' : Hw) : Prop where
  mem : h'.mem = h.mem
  descs : h'.descs = h.descs
  log : ∃ new, h'.log = new ++ h.log ∧ ∀ a ∈ new, a.isSetup = true

theorem Hw.Setup.refl (h : Hw) : h.Setup h :=
  ⟨rfl, rfl, [], rfl, fun _ member => absurd member List.not_mem_nil⟩

/-- A setup in two steps is a setup. -/
theorem Hw.Setup.trans {h h' h'' : Hw} (first : h.Setup h') (second : h'.Setup h'') :
    h.Setup h'' := by
  obtain ⟨new, log, setup⟩ := first.log
  obtain ⟨new', log', setup'⟩ := second.log
  refine ⟨second.mem.trans first.mem, second.descs.trans first.descs, new' ++ new, ?_, ?_⟩
  · rw [log', log, List.append_assoc]
  · intro a member
    rcases List.mem_append.mp member with late | early
    · exact setup' a late
    · exact setup a early

instance : IsPreorder Hw Hw.Setup where
  refl := Hw.Setup.refl
  trans _ _ _ := Hw.Setup.trans

/-- The computation only sets up registers. -/
abbrev Quiet {α : Type} (m : HwM α) : Prop := Relates Hw.Setup (fun _ _ => False) m

/-- A register is read without a trace in the log. -/
theorem quiet_readReg (r : Regs) : Quiet (readReg r) := fun h => Hw.Setup.refl h

/-- Writing a register other than the one that issues commands is part of a setup. -/
theorem quiet_writeReg {r : Regs} (setup : r ≠ .cmdXfrTyp) (value : U32) :
    Quiet (writeReg r value) := by
  intro h
  refine ⟨rfl, rfl, [.reg r value], rfl, fun a member => ?_⟩
  rw [List.mem_singleton.mp member]
  exact decide_eq_true setup

/-- Using a quiet computation within a driver function. -/
theorem Quiet.onHw {α : Type} {m : HwM α} (quiet : Quiet m) (c : Cmd) (h : Hw) :
    wp (onHw m) (fun _ s => s.1 = c ∧ h.Setup s.2) (fun _ _ => False) (c, h) := by
  rw [Sdhci.onHw, wp_zoom]
  exact (quiet h).mono (fun _ _ setup => ⟨rfl, setup⟩) (fun _ _ absurd => absurd)

/-! ## No command issued -/

/-- No command was issued. -/
def Hw.Unissued (h h' : Hw) : Prop :=
  ∃ new, h'.log = new ++ h.log ∧ ∀ a ∈ new, a.isCommand = false

theorem Hw.Unissued.refl (h : Hw) : h.Unissued h :=
  ⟨[], rfl, fun _ member => absurd member List.not_mem_nil⟩

/-- No command is issued in two steps that issue none. -/
theorem Hw.Unissued.trans {h h' h'' : Hw} (first : h.Unissued h') (second : h'.Unissued h'') :
    h.Unissued h'' := by
  rcases first with ⟨new, log, clean⟩
  rcases second with ⟨new', log', clean'⟩
  refine ⟨new' ++ new, by rw [log', log, List.append_assoc], fun a member => ?_⟩
  rcases List.mem_append.mp member with late | early
  · exact clean' a late
  · exact clean a early

/-- A setup issues no command. -/
theorem Hw.Setup.unissued {h h' : Hw} (setup : h.Setup h') : h.Unissued h' := by
  obtain ⟨new, log, clean⟩ := setup.log
  refine ⟨new, log, fun a member => ?_⟩
  have only := clean a member
  cases a with
  | reg r value => exact decide_eq_false (of_decide_eq_true only)
  | desc => rfl

/-- Descriptors lie in memory: writing one issues nothing. -/
theorem Hw.unissued_setDesc (h : Hw) (i : Nat) (phys : U64) (d : Adma2Desc) :
    h.Unissued (h.setDesc i phys d) := by
  refine ⟨[.desc i phys d], rfl, fun a member => ?_⟩
  rw [List.mem_singleton.mp member]
  rfl

end Sdhci

end Emmc
