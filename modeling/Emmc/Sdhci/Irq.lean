import Emmc.Sdhci.Submit

/-!
# Interrupts of an SDHCI controller

The handlers for the command phase and the data phase look at the interrupt status that was read
once, acknowledge what they have seen, and reset the affected line after an error. The response is
fetched when a command succeeded; a read request then copies what went through the bounce buffer.

* `handleIrqCmd_spec`, `handleIrqData_spec` and `cmdFetchResponse_spec` say what happens to the
  command.
* `faultless` is the condition under which the handlers do not throw: the lines are reset after an
  error, and the controller does not stop in the middle of a transfer in ADMA2 mode.
* `hwDrv` is the driver as the device uses it.

Messages and the words of the ADMA error report are left out.
-/

namespace Emmc

open Throwing

namespace Sdhci

variable (s : Sdhci)

/-! ## The code -/

/-- Modify the command. -/
def modifyCmd (f : Cmd → Cmd) : EStateM RuntimeError (Cmd × Hw) Unit :=
  modify fun t => (f t.1, t.2)

def setStatus (status : Status) : EStateM RuntimeError (Cmd × Hw) Unit :=
  modifyCmd fun c => { c with status := status }

/-- Acknowledge interrupts. -/
def acknowledge (isAck : U32) : HwM Unit :=
  if isAck ≠ 0 then writeReg .intStatus isAck else return ()

/-- Software reset of one line after an error. -/
def resetLine (bit : Bitfield 32) (done : Bool) (text : String) : HwM Unit := do
  let sc ← readReg .sysCtrl
  writeReg .sysCtrl (bit.put sc true)
  poll done text

/-- The status a tuning command ends with. -/
def tuningStatus (es : U32) : Status :=
  if RegAutocmd12ErrStatus.executeTuning.test es then .tuningProgress
  else if RegAutocmd12ErrStatus.smpClkSel.test es then .success
  else .tuningFailed

/-- After a timeout, the uSDHC controller still inhibits commands. -/
def clearInhibit : HwM Unit :=
  if s.type = .usdhc then do
    let ps ← readReg .presState
    (if RegPresState.cihb.test ps then writeReg .presState (RegPresState.cihb.put ps false)
    else return ())
  else return ()

/-- Interrupt in the command phase: what is acknowledged at the end. -/
def dispatchCmd (is : U32) : EStateM RuntimeError (Cmd × Hw) U32 := do
  let c := (← get).1
  if RegIntStatus.ctoe.test is then
    onHw s.clearInhibit
    setStatus .cmdTimeout
    return assign [(RegIntStatus.ctoe, true), (RegIntStatus.cc, RegIntStatus.cc.test is)] 0
  else if RegIntStatus.cmdError is then
    setStatus .cmdError
    return RegIntStatus.copyCmdError is
  else if RegIntStatus.ac12e.test is then
    setStatus .cmdError
    return 0
  else if c.isTuning then
    let isAck := RegIntStatus.cc.put 0 (RegIntStatus.cc.test is)
    onHw (if RegIntStatus.cc.test is then writeReg .intStatus isAck else return ())
    if RegIntStatus.brr.test is then
      let es ← onHw (readReg .autocmd12ErrStatus)
      setStatus (tuningStatus es)
      return RegIntStatus.brr.put isAck true
    else
      return isAck
  else if RegIntStatus.cc.test is then
    setStatus (if c.flags.hasData then .progressData else .success)
    return RegIntStatus.cc.put 0 true
  else
    return 0

def handleIrqCmd (is : U32) : EStateM RuntimeError (Cmd × Hw) Unit := do
  let isAck ← s.dispatchCmd is
  onHw (acknowledge isAck)
  let t ← get
  (if t.1.error then
    onHw (resetLine RegSysCtrl.rstc t.2.rstcDone "Software reset for CMD line")
  else return ())

/-- The words of a little-endian data buffer. -/
def wordAt (bytes : List U8) : U32 :=
  bytes.foldr (fun byte word => word <<< 8 ||| byte.setWidth 32) 0

def bytesOf (word : U32) : List U8 :=
  [word.setWidth 8, (word >>> 8).setWidth 8, (word >>> 16).setWidth 8, (word >>> 24).setWidth 8]

/-- Read `n` words from the data port to the data buffer. -/
def readWords (dst : U64) : Nat → HwM Unit
  | 0 => return ()
  | n + 1 => do
    let data ← readDataPort
    modify fun h => h.setMem (storeBytes s.translate h.mem dst (bytesOf data))
    readWords (dst + 4) n

/-- Write `n` words of the data buffer to the data port. -/
def writeWords (src : U64) : Nat → HwM Unit
  | 0 => return ()
  | n + 1 => do
    writeReg .dataBuffAccPort (wordAt (loadBytes s.translate (← get).mem src 4))
    writeWords (src + 4) n

/-- Go on with an SDMA transfer that stopped at a boundary. -/
def restartSdma (blksToXfer : U32) : EStateM RuntimeError (Cmd × Hw) Unit := do
  onHw (writeReg .intStatus (RegIntStatus.dint.put 0 true))
  modifyCmd fun c =>
    let blksXferred := c.blockcnt - blksToXfer
    { c with
      blockcnt := c.blockcnt - blksXferred
      dataPhys := c.dataPhys + blksXferred * c.blocksize }
  onHw (writeReg .dsAddr (← get).1.dataPhys)

/-- Interrupt in the data phase: what is acknowledged at the end. -/
def dispatchData (is : U32) : EStateM RuntimeError (Cmd × Hw) U32 := do
  let c := (← get).1
  if RegIntStatus.dataError is then
    setStatus .dataError
    return RegIntStatus.copyDataError is
  else if RegIntStatus.tc.test is then
    setStatus .success
    return assign [(RegIntStatus.tc, true), (RegIntStatus.dint, RegIntStatus.dint.test is)] 0
  else if RegIntStatus.dint.test is then
    let blksToXfer := RegBlkAtt.blkcnt.get (← onHw (readReg .blkAtt))
    if blksToXfer ≠ 0 then
      if s.dmaAdma2 then
        throw ⟨-L4.einval, "Implement aborted transfer in ADMA2 mode"⟩
      else
        restartSdma blksToXfer
        return 0
    else
      return RegIntStatus.dint.put 0 true
  else if RegIntStatus.brr.test is then
    onHw (s.readWords c.dataVirt ((c.blocksize.toNat + 3) / 4))
    return RegIntStatus.brr.put 0 true
  else if RegIntStatus.bwr.test is then
    onHw (s.writeWords c.dataVirt ((c.blocksize.toNat + 3) / 4))
    return RegIntStatus.bwr.put 0 true
  else
    return 0

def handleIrqData (is : U32) : EStateM RuntimeError (Cmd × Hw) Unit := do
  let isAck ← s.dispatchData is
  onHw (acknowledge isAck)
  let t ← get
  (if t.1.error then
    onHw (resetLine RegSysCtrl.rstd t.2.rstdDone "Software reset for data line")
  else return ())

/-- The response words of a 136-bit response. -/
def longResponse (regs : Regs → U32) : Fin 4 → U32
  | 0 => regs .cmdRsp3 <<< 8 ||| regs .cmdRsp2 >>> 24
  | 1 => regs .cmdRsp2 <<< 8 ||| regs .cmdRsp1 >>> 24
  | 2 => regs .cmdRsp1 <<< 8 ||| regs .cmdRsp0 >>> 24
  | 3 => regs .cmdRsp0 <<< 8

/-- Copy the blocks of a read request from the bounce buffer, the way `cmd_fetch_response` finds
them there. -/
def copyOut : List Block → U32 → (U64 → U8) → U64 → U8
  | [], _, mem => mem
  | b :: rest, offset, mem =>
    if !s.dmaAccessible b.dmaAddr (b.size.setWidth 64) then
      copyOut rest (offset + b.size)
        (memcpy s.translate mem b.virtAddr (s.bbVirt + offset.setWidth 64) b.size.toNat)
    else copyOut rest offset mem

/-- The command with its response. -/
def withResponse (regs : Regs → U32) (c : Cmd) : Cmd :=
  if c.cmd &&& Mmc.rsp136Bits ≠ 0 then { c with resp := longResponse regs }
  else
    { c with
      resp := Function.update c.resp 0 (regs .cmdRsp0)
      flags := { c.flags with hasR1Response := true } }

/-- The command reads blocks and used the bounce buffer. -/
def fetchesBounced (c : Cmd) : Bool :=
  c.flags.readFromBounceBuffer &&
    (c.cmd = Mmc.cmd17ReadSingleBlock || c.cmd = Mmc.cmd18ReadMultipleBlock)

def cmdFetchResponse : EStateM RuntimeError (Cmd × Hw) Unit :=
  modify fun t =>
    let c := withResponse t.2.regs t.1
    (c, if fetchesBounced c then t.2.setMem (s.copyOut c.blocks 0 t.2.mem) else t.2)

/-! ## Computations that do not touch the command -/

/-- What the interrupt found and later steps will look at is still the same. -/
structure Hw.Pending (h h' : Hw) : Prop where
  is : h'.is = h.is
  rstc : h'.rstcDone = h.rstcDone
  rstd : h'.rstdDone = h.rstdDone
  blkAtt : h'.regs .blkAtt = h.regs .blkAtt
  rsp0 : h'.regs .cmdRsp0 = h.regs .cmdRsp0

theorem Hw.Pending.refl (h : Hw) : h.Pending h := ⟨rfl, rfl, rfl, rfl, rfl⟩

/-- What the handler looks at later is the same behind two steps. -/
theorem Hw.Pending.trans {h h' h'' : Hw} (first : h.Pending h') (second : h'.Pending h'') :
    h.Pending h'' :=
  ⟨second.is.trans first.is, second.rstc.trans first.rstc, second.rstd.trans first.rstd,
    second.blkAtt.trans first.blkAtt, second.rsp0.trans first.rsp0⟩

instance : IsPreorder Hw Hw.Pending where
  refl := Hw.Pending.refl
  trans _ _ _ := Hw.Pending.trans

/-- The computation returns and leaves what is pending alone. -/
abbrev Steady {α : Type} (m : HwM α) : Prop := Relates Hw.Pending (fun _ _ => False) m

theorem steady_readReg (r : Regs) : Steady (readReg r) := fun h => Hw.Pending.refl h

/-- No register but the counter of the blocks and the response is looked at by what follows. -/
theorem steady_writeReg {r : Regs} (other : r ≠ .blkAtt ∧ r ≠ .cmdRsp0) (value : U32) :
    Steady (writeReg r value) :=
  fun _ => ⟨rfl, rfl, rfl, Function.update_of_ne other.1.symm _ _,
    Function.update_of_ne other.2.symm _ _⟩

theorem steady_readDataPort : Steady readDataPort := fun _ => ⟨rfl, rfl, rfl, rfl, rfl⟩

/-- Acknowledging writes the status, which was read before. -/
theorem steady_acknowledge (isAck : U32) : Steady (acknowledge isAck) := by
  rw [acknowledge]
  split
  · exact steady_writeReg (by decide) _
  · exact .pure _

/-- By induction on the number of words. -/
theorem steady_readWords (dst : U64) (n : Nat) : Steady (s.readWords dst n) := by
  induction n generalizing dst with
  | zero => exact .pure _
  | succ n ih =>
    rw [readWords]
    refine Relates.bind steady_readDataPort fun data => ?_
    exact Relates.bind (fun _ => ⟨rfl, rfl, rfl, rfl, rfl⟩) fun _ => ih _

/-- The same in the other direction. -/
theorem steady_writeWords (src : U64) (n : Nat) : Steady (s.writeWords src n) := by
  induction n generalizing src with
  | zero => exact .pure _
  | succ n ih =>
    rw [writeWords]
    refine Relates.bind (fun h => Hw.Pending.refl h) fun h => ?_
    exact Relates.bind (steady_writeReg (by decide) _) fun _ => ih _

/-- The command is untouched, and so is what is pending. -/
structure Untouched (t t' : Cmd × Hw) : Prop where
  cmd : t'.1 = t.1
  pending : t.2.Pending t'.2

/-- A step of the controller does not touch the command. -/
theorem Steady.onHw {α : Type} {m : HwM α} (steady : Steady m) (t : Cmd × Hw) :
    wp (onHw m) (fun _ t' => Untouched t t') (fun _ _ => False) t := by
  rw [Sdhci.onHw, wp_zoom]
  exact (steady t.2).mono (fun _ _ pending => ⟨rfl, pending⟩) (fun _ _ absurd => absurd)

/-- The reset of a line fails when the poll does. -/
theorem resetLine_spec (bit : Bitfield 32) (done : Bool) (text : String) (t : Cmd × Hw) :
    wp (onHw (resetLine bit done text)) (fun _ t' => Untouched t t')
      (fun _ t' => done = false ∧ t'.1 = t.1) t := by
  rw [Sdhci.onHw, wp_zoom, resetLine, wp_bind, poll]
  cases done with
  | true => exact ⟨rfl, rfl, rfl, rfl, rfl, rfl⟩
  | false => exact ⟨rfl, rfl⟩

/-! ## The command phase -/

/-- The statuses the command phase can end with, for other than tuning commands. -/
def CmdPhase (c c' : Cmd) : Prop :=
  c'.status = .progressCmd ∨ c'.status = .success ∨ c'.failed = true ∨
    c.flags.hasData = true ∧ c'.status = .progressData

/-- What the command phase leaves of the command. -/
structure AfterCmd (c : Cmd) (h : Hw) (t : Cmd × Hw) : Prop where
  same : c.SameRequest t.1
  blockcnt : t.1.blockcnt = c.blockcnt
  pending : h.Pending t.2
  phase : c.isTuning = false → CmdPhase c t.1

/-- What happened in the command phase is not changed by a step that touches nothing. -/
theorem AfterCmd.untouched {c : Cmd} {h : Hw} {t t' : Cmd × Hw} (after : AfterCmd c h t)
    (untouched : Untouched t t') : AfterCmd c h t' where
  same := untouched.cmd ▸ after.same
  blockcnt := untouched.cmd ▸ after.blockcnt
  pending := after.pending.trans untouched.pending
  phase := untouched.cmd ▸ after.phase

/-- A command that was not touched is still in its command phase. -/
theorem Untouched.afterCmd {c : Cmd} {h : Hw} {t : Cmd × Hw} (untouched : Untouched (c, h) t)
    (phase : c.status = .progressCmd) : AfterCmd c h t where
  same := untouched.cmd ▸ Cmd.SameRequest.refl c
  blockcnt := congrArg Cmd.blockcnt untouched.cmd
  pending := untouched.pending
  phase := fun _ => Or.inl ((congrArg Cmd.status untouched.cmd).trans phase)

/-- Setting the status is all that happens to the command. -/
theorem setStatus_spec {c : Cmd} {h : Hw} {t : Cmd × Hw} (untouched : Untouched (c, h) t)
    (status : Status) (outcome : c.isTuning = false → CmdPhase c { c with status := status }) :
    wp (setStatus status) (fun _ t' => AfterCmd c h t') (fun _ _ => False) t := by
  have cmd : t.1 = c := untouched.cmd
  refine ⟨?_, ?_, untouched.pending, fun noTuning => ?_⟩
  · show c.SameRequest { t.1 with status := status }
    rw [cmd]
    constructor <;> rfl
  · show t.1.blockcnt = c.blockcnt
    rw [cmd]
  · show CmdPhase c { t.1 with status := status }
    rw [cmd]
    exact outcome noTuning

theorem untouched_refl (t : Cmd × Hw) : Untouched t t := ⟨rfl, Hw.Pending.refl _⟩

theorem Untouched.trans {t t' t'' : Cmd × Hw} (first : Untouched t t') (second : Untouched t' t'') :
    Untouched t t'' :=
  ⟨second.cmd.trans first.cmd, first.pending.trans second.pending⟩

theorem steady_clearInhibit : Steady s.clearInhibit := by
  rw [clearInhibit]
  split
  · refine Relates.bind (steady_readReg _) fun ps => ?_
    split
    · exact steady_writeReg (by decide) _
    · exact .pure _
  · exact .pure _

/-- Each branch of the dispatch sets the status or leaves it, and never throws. -/
theorem dispatchCmd_spec {c : Cmd} (h : Hw) (is : U32) (phase : c.status = .progressCmd) :
    wp (s.dispatchCmd is) (fun _ t => AfterCmd c h t) (fun _ _ => False) (c, h) := by
  have start : Untouched (c, h) (c, h) := untouched_refl _
  rw [dispatchCmd, wp_bind, wp_get, wp_ite]
  refine ⟨fun _ => ?_, fun _ => ?_⟩
  · rw [wp_bind]
    refine (s.steady_clearInhibit.onHw (c, h)).mono (fun _ t untouched => ?_) (fun _ _ e => e)
    rw [wp_bind]
    exact setStatus_spec untouched _ fun _ => Or.inr (Or.inr (Or.inl rfl))
  rw [wp_ite]
  refine ⟨fun _ => ?_, fun _ => ?_⟩
  · rw [wp_bind]
    exact setStatus_spec start _ fun _ => Or.inr (Or.inr (Or.inl rfl))
  rw [wp_ite]
  refine ⟨fun _ => ?_, fun _ => ?_⟩
  · rw [wp_bind]
    exact setStatus_spec start _ fun _ => Or.inr (Or.inr (Or.inl rfl))
  rw [wp_ite]
  refine ⟨fun tuning => ?_, fun noTuning => ?_⟩
  · have contradiction {c' : Cmd} : c.isTuning = false → CmdPhase c c' := by
      intro none
      rw [none] at tuning
      exact absurd tuning Bool.false_ne_true
    have ack : Steady (if RegIntStatus.cc.test is then
        writeReg .intStatus (RegIntStatus.cc.put 0 (RegIntStatus.cc.test is)) else return ()) := by
      split
      · exact steady_writeReg (by decide) _
      · exact .pure _
    rw [wp_bind]
    refine (ack.onHw (c, h)).mono (fun _ t untouched => ?_) (fun _ _ e => e)
    rw [wp_ite]
    refine ⟨fun _ => ?_, fun _ => untouched.afterCmd phase⟩
    rw [wp_bind]
    refine ((steady_readReg _).onHw t).mono (fun es t' same => ?_) (fun _ _ e => e)
    rw [wp_bind]
    exact setStatus_spec (untouched.trans same) _ contradiction
  rw [wp_ite]
  refine ⟨fun _ => ?_, fun _ => start.afterCmd phase⟩
  rw [wp_bind]
  refine setStatus_spec start _ fun _ => ?_
  cases data : c.flags.hasData with
  | true => exact Or.inr (Or.inr (Or.inr ⟨data, rfl⟩))
  | false => exact Or.inr (Or.inl rfl)

/-- The interrupt ends the command with an error. -/
def commandFails (is : U32) : Bool :=
  RegIntStatus.ctoe.test is || RegIntStatus.cmdError is || RegIntStatus.ac12e.test is

/-- The status behind the command phase, for other than tuning commands. -/
def nextStatus (is : U32) (c : Cmd) : Status :=
  if RegIntStatus.ctoe.test is then .cmdTimeout
  else if RegIntStatus.cmdError is then .cmdError
  else if RegIntStatus.ac12e.test is then .cmdError
  else if RegIntStatus.cc.test is then if c.flags.hasData then .progressData else .success
  else c.status

/-- The new status is an error exactly for the words that have one of the error bits. -/
theorem nextStatus_error (is : U32) {c : Cmd} (phase : c.status = .progressCmd) :
    (nextStatus is c).toInt < 0 ↔ commandFails is = true := by
  rw [nextStatus, commandFails, phase]
  cases RegIntStatus.ctoe.test is <;> cases RegIntStatus.cmdError is <;>
    cases RegIntStatus.ac12e.test is <;> cases RegIntStatus.cc.test is <;>
    cases c.flags.hasData <;> decide

/-- Without tuning, the status is a function of the word. -/
theorem dispatchCmd_exact {c : Cmd} (noTuning : c.isTuning = false) (h : Hw) (is : U32) :
    wp (s.dispatchCmd is)
      (fun _ t => t.1 = { c with status := nextStatus is c } ∧ h.Pending t.2)
      (fun _ _ => False) (c, h) := by
  rw [dispatchCmd, nextStatus, wp_bind, wp_get, wp_ite]
  refine ⟨fun timeout => ?_, fun noTimeout => ?_⟩
  · rw [wp_bind, if_pos timeout]
    refine (s.steady_clearInhibit.onHw (c, h)).mono (fun _ t untouched => ?_) (fun _ _ e => e)
    rw [wp_bind]
    exact ⟨congrArg (fun c : Cmd => { c with status := .cmdTimeout }) untouched.cmd,
      untouched.pending⟩
  rw [if_neg noTimeout, wp_ite]
  refine ⟨fun bad => ?_, fun fine => ?_⟩
  · rw [if_pos bad]
    exact ⟨rfl, Hw.Pending.refl h⟩
  rw [if_neg fine, wp_ite]
  refine ⟨fun bad => ?_, fun fine => ?_⟩
  · rw [if_pos bad]
    exact ⟨rfl, Hw.Pending.refl h⟩
  rw [if_neg fine]
  simp only [noTuning, Bool.false_eq_true, if_false]
  rw [wp_ite]
  refine ⟨fun complete => ?_, fun incomplete => ?_⟩
  · rw [if_pos complete]
    exact ⟨rfl, Hw.Pending.refl h⟩
  · rw [if_neg incomplete]
    exact ⟨rfl, Hw.Pending.refl h⟩

/-- The handler throws exactly when the command failed and its line cannot be reset. -/
theorem handleIrqCmd_exact {c : Cmd} (noTuning : c.isTuning = false) (h : Hw) (is : U32)
    (phase : c.status = .progressCmd) :
    wp (s.handleIrqCmd is)
      (fun _ t => t.1 = { c with status := nextStatus is c } ∧ h.Pending t.2 ∧
        (commandFails is = true → h.rstcDone = true))
      (fun _ t => t.1 = { c with status := nextStatus is c } ∧ commandFails is = true ∧
        h.rstcDone = false) (c, h) := by
  rw [handleIrqCmd, wp_bind]
  apply (s.dispatchCmd_exact noTuning h is).imp_ok
  intro isAck t post
  rcases post with ⟨cmd, pending⟩
  rw [wp_bind]
  apply ((steady_acknowledge isAck).onHw t).imp_ok
  intro _ t' untouched
  have cmd' := untouched.cmd.trans cmd
  have pending' := pending.trans untouched.pending
  have error : t'.1.error = true ↔ commandFails is = true := by
    rw [cmd', Cmd.error_iff]
    exact nextStatus_error is phase
  rw [wp_bind, wp_get, wp_ite]
  refine ⟨fun bad => ?_, fun fine => ?_⟩
  · rw [onHw, wp_zoom, resetLine, wp_bind, poll]
    show wp (if t'.2.rstcDone = true then _ else _) _ _ _
    have done := pending'.rstc
    rw [wp_ite]
    refine ⟨fun ok => ?_, fun stuck => ?_⟩
    · refine ⟨cmd', ?_, fun _ => done.symm.trans ok⟩
      exact pending'.trans ⟨rfl, rfl, rfl, rfl, rfl⟩
    · exact ⟨cmd', error.mp bad, by rw [← done]; exact Bool.eq_false_iff.mpr stuck⟩
  · exact ⟨cmd', pending', fun fails => absurd (error.mpr fails) fine⟩

/-- The handler throws only when the reset of the command line does not finish. -/
theorem handleIrqCmd_spec {c : Cmd} (h : Hw) (is : U32) (phase : c.status = .progressCmd) :
    wp (s.handleIrqCmd is) (fun _ t => AfterCmd c h t)
      (fun _ t => h.rstcDone = false ∧ c.SameRequest t.1) (c, h) := by
  rw [handleIrqCmd, wp_bind]
  refine (s.dispatchCmd_spec h is phase).mono (fun isAck t after => ?_) (fun _ _ e => e.elim)
  rw [wp_bind]
  refine ((steady_acknowledge isAck).onHw t).mono (fun _ t' same => ?_) (fun _ _ e => e.elim)
  have post := after.untouched same
  rw [wp_bind, wp_get, wp_ite]
  refine ⟨fun _ => ?_, fun _ => post⟩
  refine (resetLine_spec _ _ _ t').mono (fun _ t'' reset => post.untouched reset)
    (fun _ t'' stuck => ?_)
  exact ⟨post.pending.rstc.symm.trans stuck.1, stuck.2 ▸ post.same⟩

/-! ## The data phase -/

/-- The statuses the data phase can end with. -/
def DataPhase (is : U32) (c' : Cmd) : Prop :=
  c'.status = .progressData ∨ c'.status = .success ∨
    c'.failed = true ∧ RegIntStatus.dataError is = true

/-- A data phase ends with an error only if the word has one. -/
theorem DataPhase.dataError {is : U32} {c' : Cmd} (phase : DataPhase is c')
    (error : c'.error = true) : RegIntStatus.dataError is = true := by
  rcases phase with data | success | ⟨-, bad⟩
  · rw [Cmd.error, data] at error
    exact absurd error (by decide)
  · rw [Cmd.error, success] at error
    exact absurd error (by decide)
  · exact bad

/-- The controller stopped in the middle of a transfer, without an error. -/
def interrupted (is blkAtt : U32) : Bool :=
  !RegIntStatus.dataError is && !RegIntStatus.tc.test is && RegIntStatus.dint.test is &&
    RegBlkAtt.blkcnt.get blkAtt ≠ 0

structure AfterData (is : U32) (c : Cmd) (h : Hw) (t : Cmd × Hw) : Prop where
  same : c.SameRequest t.1
  pending : h.Pending t.2
  phase : DataPhase is t.1

/-- A command that was not touched is still in its data phase. -/
theorem Untouched.afterData {is : U32} {c : Cmd} {h : Hw} {t : Cmd × Hw}
    (untouched : Untouched (c, h) t) (phase : c.status = .progressData) : AfterData is c h t where
  same := untouched.cmd ▸ Cmd.SameRequest.refl c
  pending := untouched.pending
  phase := Or.inl ((congrArg Cmd.status untouched.cmd).trans phase)

/-- What happened in the data phase is not changed by a step that touches nothing. -/
theorem AfterData.untouched {is : U32} {c : Cmd} {h : Hw} {t t' : Cmd × Hw}
    (after : AfterData is c h t) (untouched : Untouched t t') : AfterData is c h t' where
  same := untouched.cmd ▸ after.same
  pending := after.pending.trans untouched.pending
  phase := untouched.cmd ▸ after.phase

/-- A restart stays in the data phase. -/
theorem restartSdma_spec {c : Cmd} (h : Hw) (is blks : U32) (phase : c.status = .progressData) :
    wp (restartSdma blks) (fun _ t => AfterData is c h t) (fun _ _ => False) (c, h) :=
  ⟨by constructor <;> rfl, ⟨rfl, rfl, rfl, rfl, rfl⟩, Or.inl phase⟩

/-- The dispatch throws only for ADMA2 with blocks left, where it finds itself interrupted. -/
theorem dispatchData_spec {c : Cmd} (h : Hw) (is : U32) (phase : c.status = .progressData) :
    wp (s.dispatchData is) (fun _ t => AfterData is c h t)
      (fun _ t => (s.dmaAdma2 = true ∧ interrupted is (h.regs .blkAtt) = true) ∧ c.SameRequest t.1)
      (c, h) := by
  have start : Untouched (c, h) (c, h) := untouched_refl _
  rw [dispatchData, wp_bind, wp_get, wp_ite]
  refine ⟨fun bad => ?_, fun noError => ?_⟩
  · exact ⟨by constructor <;> rfl, Hw.Pending.refl h, Or.inr (Or.inr ⟨rfl, bad⟩)⟩
  rw [wp_ite]
  refine ⟨fun _ => ?_, fun noTc => ?_⟩
  · exact ⟨by constructor <;> rfl, Hw.Pending.refl h, Or.inr (Or.inl rfl)⟩
  rw [wp_ite]
  refine ⟨fun dint => ?_, fun _ => ?_⟩
  · rw [wp_bind]
    show wp (if RegBlkAtt.blkcnt.get (h.regs .blkAtt) ≠ 0 then _ else _) _ _ (c, h)
    rw [wp_ite]
    refine ⟨fun left => ?_, fun _ => start.afterData phase⟩
    rw [wp_ite]
    refine ⟨fun adma2 => ⟨⟨adma2, ?_⟩, Cmd.SameRequest.refl c⟩, fun _ => ?_⟩
    · rw [interrupted, Bool.eq_false_iff.mpr noError, Bool.eq_false_iff.mpr noTc, dint,
        decide_eq_true left]
      rfl
    · rw [wp_bind]
      exact restartSdma_spec h is _ phase
  rw [wp_ite]
  refine ⟨fun _ => ?_, fun _ => ?_⟩
  · rw [wp_bind]
    exact ((s.steady_readWords _ _).onHw (c, h)).mono (fun _ _ same => same.afterData phase)
      (fun _ _ e => e.elim)
  rw [wp_ite]
  refine ⟨fun _ => ?_, fun _ => start.afterData phase⟩
  rw [wp_bind]
  exact ((s.steady_writeWords _ _).onHw (c, h)).mono (fun _ _ same => same.afterData phase)
    (fun _ _ e => e.elim)

/-- The data phase cannot be handled: its line cannot be reset after an error, or an ADMA2 transfer
stopped in the middle. -/
def dataStuck (is blkAtt : U32) (rstdDone : Bool) : Bool :=
  RegIntStatus.dataError is && !rstdDone || s.dmaAdma2 && interrupted is blkAtt

/-- The handler throws only when the data phase cannot be handled. -/
theorem handleIrqData_spec {c : Cmd} (h : Hw) (is : U32) (phase : c.status = .progressData) :
    wp (s.handleIrqData is) (fun _ t => AfterData is c h t)
      (fun _ t => s.dataStuck is (h.regs .blkAtt) h.rstdDone = true ∧ c.SameRequest t.1)
      (c, h) := by
  rw [handleIrqData, wp_bind]
  refine (s.dispatchData_spec h is phase).mono (fun isAck t after => ?_) (fun _ t stopped => ?_)
  · rw [wp_bind]
    refine ((steady_acknowledge isAck).onHw t).mono (fun _ t' same => ?_) (fun _ _ e => e.elim)
    have post := after.untouched same
    rw [wp_bind, wp_get, wp_ite]
    refine ⟨fun error => ?_, fun _ => post⟩
    refine (resetLine_spec _ _ _ t').mono (fun _ t'' reset => post.untouched reset)
      (fun _ t'' stuck => ⟨?_, stuck.2 ▸ post.same⟩)
    rw [dataStuck, post.phase.dataError error, ← post.pending.rstd, stuck.1]
    rfl
  · refine ⟨?_, stopped.2⟩
    rw [dataStuck, stopped.1.1, stopped.1.2, Bool.or_comm]
    rfl

/-- Fetching the response changes neither status nor count. -/
theorem cmdFetchResponse_spec (c : Cmd) (h : Hw) :
    wp s.cmdFetchResponse
      (fun _ t => c.SameRequest t.1 ∧ t.1.status = c.status ∧ t.1.blockcnt = c.blockcnt)
      (fun _ _ => False) (c, h) := by
  show c.SameRequest (withResponse h.regs c) ∧ (withResponse h.regs c).status = c.status ∧
    (withResponse h.regs c).blockcnt = c.blockcnt
  rw [withResponse]
  split
  · exact ⟨by constructor <;> rfl, rfl, rfl⟩
  · exact ⟨by constructor <;> rfl, rfl, rfl⟩

/-! ## The driver -/

/-- `handle_irq_cmd(cmd, is)` with the status read at the interrupt. -/
def irqCmd : Action Hw Unit := do
  s.handleIrqCmd (← get).2.is

/-- `handle_irq_data(cmd, is)` with the status read at the interrupt. -/
def irqData : Action Hw Unit := do
  s.handleIrqData (← get).2.is

/-- It throws only if the reset of the command line does not come through. -/
theorem irqCmd_spec (t : Cmd × Hw) (phase : t.1.status = .progressCmd) :
    wp s.irqCmd (fun _ t' => AfterCmd t.1 t.2 t')
      (fun _ t' => t.2.rstcDone = false ∧ t.1.SameRequest t'.1) t := by
  rw [irqCmd, wp_bind, wp_get]
  exact s.handleIrqCmd_spec t.2 t.2.is phase

/-- In the data phase it is the reset of the data line, or the interrupted ADMA2 transfer. -/
theorem irqData_spec (t : Cmd × Hw) (phase : t.1.status = .progressData) :
    wp s.irqData (fun _ t' => AfterData t.2.is t.1 t.2 t')
      (fun _ t' => s.dataStuck t.2.is (t.2.regs .blkAtt) t.2.rstdDone = true ∧
        t.1.SameRequest t'.1) t := by
  rw [irqData, wp_bind, wp_get]
  exact s.handleIrqData_spec t.2 t.2.is phase

/-- The driver functions as the device calls them. -/
def hwOps : HwOps Hw Irq where
  dmaAdma2 := s.dmaAdma2
  autoCmd12 := s.autoCmd12
  autoCmd23 := s.autoCmd23
  bounceBufferSize := s.bbSize.toNat
  maxInoutReqSize := maxInoutReqSize s.type
  present := present
  cmdSubmit := s.cmdSubmit
  handleIrqCmd := s.irqCmd
  handleIrqData := s.irqData
  cmdFetchResponse := s.cmdFetchResponse

/-- The interrupt ends the command with an error, and its line cannot be reset. For a tuning command
the interrupt alone does not tell that. -/
def cmdStuck (irq : Irq) (c : Cmd) : Bool :=
  (commandFails (irq.regs .intStatus) || c.isTuning) && !irq.rstcDone

/-- The interrupt is handled in the data phase, to which it may have led itself. -/
def entersData (irq : Irq) (c : Cmd) : Bool :=
  c.status = .progressData ||
    c.status = .progressCmd &&
      (nextStatus (irq.regs .intStatus) c = .progressData || c.isTuning)

/-- Neither phase of the command is stuck at this interrupt. -/
def faultless (irq : Irq) (c : Cmd) : Bool :=
  !(c.status = .progressCmd && cmdStuck irq c) &&
    !(entersData irq c && s.dataStuck (irq.regs .intStatus) (irq.regs .blkAtt) irq.rstdDone)

/-- An interrupt is faultless if neither of the phases that it goes through gets stuck. -/
theorem faultless_iff (irq : Irq) (c : Cmd) : s.faultless irq c = true ↔
    (c.status = .progressCmd → cmdStuck irq c = false) ∧ (entersData irq c = true →
      s.dataStuck (irq.regs .intStatus) (irq.regs .blkAtt) irq.rstdDone = false) := by
  rw [faultless, Bool.and_eq_true, Bool.not_eq_true', Bool.not_eq_true', Bool.and_eq_false_imp,
    Bool.and_eq_false_imp, decide_eq_true_eq]

/-- The data phase of an interrupt. -/
theorem onData_faultless {irq : Irq} {h : Hw} {t : Cmd × Hw} (pending : (present irq h).Pending t.2)
    (free : t.1.status = .progressData →
      s.dataStuck (irq.regs .intStatus) (irq.regs .blkAtt) irq.rstdDone = false) :
    wp (HwOps.onStatus .progressData s.irqData) (fun _ _ => True) (fun _ _ => False) t := by
  refine HwDrv.wp_onStatus.mpr ⟨fun phase => ?_, fun _ => trivial⟩
  refine (s.irqData_spec t phase).mono (fun _ _ _ => trivial) ?_
  intro _ _ post
  rcases post with ⟨stuck, -⟩
  rw [pending.is, pending.blkAtt, pending.rstd] at stuck
  exact Bool.false_ne_true ((free phase).symm.trans stuck)

/-- The command phase of an interrupt, and what it may lead to. -/
theorem irqCmd_faultless {irq : Irq} {c : Cmd} (h : Hw) (phase : c.status = .progressCmd)
    (free : cmdStuck irq c = false) :
    wp s.irqCmd
      (fun _ t => (present irq h).Pending t.2 ∧
        (t.1.status = .progressData → entersData irq c = true))
      (fun _ _ => False) (c, present irq h) := by
  cases tuning : c.isTuning with
  | true =>
    refine (s.irqCmd_spec (c, present irq h) phase).mono (fun _ t after => ?_) ?_
    · refine ⟨after.pending, fun _ => ?_⟩
      rw [entersData, phase, tuning, Bool.or_true]
      rfl
    · intro _ _ post
      rcases post with ⟨stuck, -⟩
      have stuck : irq.rstcDone = false := stuck
      rw [cmdStuck, tuning, Bool.or_true, stuck] at free
      cases free
  | false =>
    rw [irqCmd, wp_bind, wp_get]
    refine (s.handleIrqCmd_exact tuning (present irq h) _ phase).mono ?_ ?_
    · intro _ t post
      rcases post with ⟨cmd, pending, -⟩
      refine ⟨pending, fun data => ?_⟩
      rw [cmd] at data
      have next : nextStatus (irq.regs .intStatus) c = .progressData := data
      rw [entersData, phase, next]
      rfl
    · intro _ _ post
      rcases post with ⟨-, fails, stuck⟩
      have fails : commandFails (irq.regs .intStatus) = true := fails
      have stuck : irq.rstcDone = false := stuck
      rw [cmdStuck, fails, stuck] at free
      cases free

/-- The handler returns on a faultless interrupt. -/
theorem hwOps_faultless {irq : Irq} (c : Cmd) (h : Hw) (noFault : s.faultless irq c = true) :
    returns s.hwOps.handleIrq (c, present irq h) := by
  obtain ⟨cmdFree, dataFree⟩ := (s.faultless_iff irq c).mp noFault
  have fetch : ∀ t : Cmd × Hw, wp (HwOps.onStatus .success s.cmdFetchResponse)
      (fun _ _ => True) (fun _ _ => False) t := fun t =>
    HwDrv.wp_onStatus.mpr ⟨fun _ => (s.cmdFetchResponse_spec t.1 t.2).mono
      (fun _ _ _ => trivial) (fun _ _ e => e), fun _ => trivial⟩
  rw [returns, HwOps.handleIrq, wp_bind]
  refine HwDrv.wp_onStatus.mpr ⟨fun phase => ?_, fun _ => ?_⟩
  · apply (s.irqCmd_faultless h phase (cmdFree phase)).imp_ok
    intro _ t post
    rcases post with ⟨pending, enters⟩
    rw [wp_bind]
    exact (s.onData_faultless pending fun data => dataFree (enters data)).mono
      (fun _ t' _ => fetch t') (fun _ _ e => e)
  · rw [wp_bind]
    refine (s.onData_faultless (Hw.Pending.refl _) fun data => dataFree ?_).mono
      (fun _ t' _ => fetch t') (fun _ _ e => e)
    have data : c.status = .progressData := data
    rw [entersData, data]
    rfl

/-- Acceptance looks at the block list and the size only. -/
theorem accepts_congr {c c' : Cmd} (data : c.flags.hasData = true) (data' : c'.flags.hasData = true)
    (some : c.blocks ≠ []) (blocks : c'.blocks = c.blocks) (blockcnt : c'.blockcnt = c.blockcnt)
    (blocksize : c'.blocksize = c.blocksize) : s.accepts c' = s.accepts c := by
  rw [accepts, accepts, acceptsCount, acceptsCount, acceptsDescs, acceptsDescs, data, data', blocks,
    blockcnt, blocksize, if_pos some, if_pos some]

/-- The SDHCI driver. -/
def hwDrv : HwDrv Hw Irq where
  toHwOps := s.hwOps
  accepts := s.accepts
  faultless := s.faultless
  submit_ok := by
    intro c h ready ok
    refine (s.cmdSubmit_spec c h).mono ?_ (fun _ _ refused => refused.1 ⟨ready, ok⟩)
    intro _ t post
    rcases post with ⟨-, sent⟩
    exact ⟨sent.kept.1, sent.status, sent.kept.2⟩
  submit_refused := by
    intro c h refused
    exact (s.cmdSubmit_spec c h).mono (fun _ _ sent => refused sent.1)
      (fun _ _ post => post.2.kept)
  accepts_noData := by
    intro c _ noData
    show s.accepts c = true
    rw [accepts, noData]
    rfl
  accepts_congr := fun c c' _ _ data data' some blocks blockcnt blocksize =>
    s.accepts_congr data data' some blocks blockcnt blocksize
  irqCmd := by
    intro c h phase
    exact (s.irqCmd_spec (c, h) phase).mono
      (fun _ _ after => ⟨after.same, after.blockcnt, after.phase⟩) (fun _ _ stuck => stuck.2)
  irqData := by
    intro c h phase
    exact (s.irqData_spec (c, h) phase).mono
      (fun _ _ after => ⟨after.same, after.phase.imp_right (Or.imp_right And.left)⟩)
      (fun _ _ stuck => stuck.2)
  fetch := s.cmdFetchResponse_spec
  irq_faultless := fun irq c h _ noFault => s.hwOps_faultless c h noFault

end Sdhci

end Emmc
