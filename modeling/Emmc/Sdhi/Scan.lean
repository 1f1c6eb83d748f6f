import Emmc.PowerUp.Controller
import Emmc.PowerUp.Follows
import Emmc.SetClock
import Emmc.Sdhi.Irq

/-!
# An SDHI controller during the scan

The same as for SDHCI controllers, with less to set up: this driver knows neither voltages nor timings, and
its tuning never finishes. Commands and interrupts use other registers than the clock and the width of the
bus (`kept`), and a `Port` leaves these two to the driver.

* `driver`: what the device calls while it looks for a card. The driver does what the initialisation asks of
  it, although its interrupt handlers may throw.
* `scan_shown`: at each command of a scan the clock runs with the best divider.

The soft reset leaves any registers behind.
-/

namespace Emmc

open Throwing Search

namespace Sdhi

open PowerUp (Filmed)

/-! ## Registers -/

/-- The registers that only `init` writes. -/
inductive InitRegs
  | sdioInfo1Mask
  | softRst
  | sdifMode
  | dmCmRst
deriving DecidableEq, Repr

namespace RegSdOption

def width : Bitfield 32 := .bit 15
def width8 : Bitfield 32 := .bit 13

def setBusWidth (raw : U32) : Mmc.BusWidth → U32
  | .width1bit => width8.put (width.put raw true) false
  | .width4bit => width8.put (width.put raw false) false
  | .width8bit => width8.put (width.put raw false) true

/-- What `str_bus_width` says. -/
def busWidth (raw : U32) : Mmc.BusWidth :=
  if width.test raw then .width1bit else if width8.test raw then .width8bit else .width4bit

end RegSdOption

namespace RegSdInfo

def dat0 : Bitfield 32 := .bit 23

end RegSdInfo

namespace RegSdioMode

def iomod : Bitfield 32 := .bit 0

end RegSdioMode

namespace RegSdioInfo1Mask

def mexwt : Bitfield 32 := .bit 15
def mexpub52 : Bitfield 32 := .bit 14
def res2 : Bitfield 32 := .bit 2
def res1 : Bitfield 32 := .bit 1
def iomsk : Bitfield 32 := .bit 0

end RegSdioInfo1Mask

namespace RegSoftRst

def res2 : Bitfield 32 := .bit 2
def res1 : Bitfield 32 := .bit 1
def sdrst : Bitfield 32 := .bit 0

def fresh : U32 := res2.put (res1.put 0 true) true

end RegSoftRst

namespace RegDmCmRst

def dtranrst : Bitfield 32 := { lsb := 8, msb := 9 }

end RegDmCmRst

namespace RegHostMode

def buswidth : Bitfield 32 := .bit 8
def wmode : Bitfield 32 := .bit 0

end RegHostMode

/-! ## The code -/

def setBusWidth (width : Mmc.BusWidth) : HwM Unit := do
  let op ← readReg .sdOption
  writeReg .sdOption (RegSdOption.setBusWidth op width)

def clockGate (on : Bool) : HwM Unit := do
  let ctrl ← readReg .sdClkCtrl
  writeReg .sdClkCtrl (RegSdClkCtrl.sclken.put ctrl on)

def clockDisable : HwM Unit := clockGate false

def clockEnable : HwM Unit := clockGate true

theorem setClock_isSome (freq : U32) : (setClock freq).isSome = true := by
  obtain ⟨m, found, -⟩ := setClock_spec freq
  rw [found]
  rfl

/-- Timing and strobe are ignored. -/
def setClockAndTiming (freq : U32) : HwM Unit := do
  clockDisable
  if freq = 0 then
    return ()
  else
    (setClock freq).get (setClock_isSome freq)
    clockEnable

def suppUhsTimings (_ : Mmc.Timing) : Bool := false

def suppPowerLimit (_ : Mmc.PowerLimit) : Bool := false

def xpcSupported (_ : Mmc.Voltage) : Bool := true

/-- 3.2 to 3.4 V. -/
def supportedVoltage : U32 := (Bitfield.bit 21).put ((Bitfield.bit 20).put 0 true) true

/-- What the registers say about the bus. -/
structure Shown where
  width : Mmc.BusWidth
  running : Bool
  divisor : U32

/-- The registers of the bus. -/
def Hw.kept (h : Hw) : U32 × U32 := (h.regs .sdClkCtrl, h.regs .sdOption)

def Hw.shown (h : Hw) : Shown where
  width := RegSdOption.busWidth (h.regs .sdOption)
  running := RegSdClkCtrl.sclken.test (h.regs .sdClkCtrl)
  divisor := RegSdClkCtrl.divisor (h.regs .sdClkCtrl)

/-- A controller with a card, and what they are going to answer. -/
structure Port where
  hw : Hw
  initRegs : InitRegs → U32 := fun _ => 0
  /-- The registers after the soft reset. -/
  reset : Regs → U32 := fun _ => 0
  /-- `Sd_info` as it is read outside of interrupts. -/
  infos : List U32 := []
  irqs : List Irq := []
  /-- The I/O buffer, and what the next commands leave there. -/
  ioBuf : Nat → U8 := fun _ => 0
  ioBufs : List (Nat → U8) := []
  /-- What the registers said at each command, the last one first. The driver does not have it. -/
  filmed : List Shown := []

abbrev PortM := EStateM RuntimeError Port

def onCtrl {α : Type} (m : HwM α) : PortM α := zoom Port.hw (fun h p => { p with hw := h }) m

def writeInit (r : InitRegs) (value : U32) : PortM Unit :=
  modify fun p => { p with initRegs := Function.update p.initRegs r value }

def init : PortM Unit := do
  match RegSdClkCtrl.setDivisor 0 4 with
  | .error e => throw e
  | .ok sdClkCtrl => do
    onCtrl (writeReg .sdClkCtrl sdClkCtrl)
    writeInit .softRst (RegSoftRst.sdrst.put RegSoftRst.fresh false)
    writeInit .softRst (RegSoftRst.sdrst.put RegSoftRst.fresh true)
    modify fun p => { p with hw := { p.hw with regs := p.reset } }
    writeInit .sdioInfo1Mask
      ([RegSdioInfo1Mask.res1, RegSdioInfo1Mask.res2, RegSdioInfo1Mask.iomsk, RegSdioInfo1Mask.mexpub52,
        RegSdioInfo1Mask.mexwt].foldl (fun raw f => f.put raw true) 0)
    onCtrl (writeReg .sdioMode (RegSdioMode.iomod.put 0 true))
    let dmCmRst := (← get).initRegs .dmCmRst
    writeInit .dmCmRst (RegDmCmRst.dtranrst.set dmCmRst 0)
    writeInit .dmCmRst (RegDmCmRst.dtranrst.set dmCmRst 3)
    writeInit .sdifMode 0
    onCtrl do
      writeReg .sdClkCtrl (RegSdClkCtrl.sclken.put sdClkCtrl true)
      writeReg .sdInfoMask (~~~0)
      writeReg .dmCmInfo1Mask (~~~0)
      writeReg .dmCmInfo2Mask (~~~0)
      let hostMode ← readReg .hostMode
      writeReg .hostMode (RegHostMode.buswidth.put (RegHostMode.wmode.put hostMode false) false)

def cardBusy : PortM Bool := do
  let infos := (← get).infos
  modify fun p => { p with infos := infos.tail }
  return !RegSdInfo.dat0.test (infos.headD 0)

/-- An interrupt of a controller that leaves the registers of the bus alone. -/
def Irq.sparing (irq : Irq) (h : Hw) : Irq :=
  { irq with regs := fun r => if r = .sdClkCtrl ∨ r = .sdOption then h.regs r else irq.regs r }

def sparingOps : HwOps Hw Irq := { hwOps with present := fun irq h => present (irq.sparing h) h }

/-- Execute a command with the interrupts to come. -/
def carryOut (recvError : Int) : Action Port Unit := do
  zoom (fun t => { cmd := t.1, hw := t.2.hw, irqs := t.2.irqs })
    (fun y t => (y.cmd, { t.2 with hw := y.hw, irqs := y.irqs })) (sparingOps.cmdExec recvError)
  modify fun t => (t.1, { t.2 with ioBuf := t.2.ioBufs.headD t.2.ioBuf, ioBufs := t.2.ioBufs.tail })

/-- Film the registers, and execute a command. -/
def film (recvError : Int) : Action Port Unit := do
  modify fun t => (t.1, { t.2 with filmed := t.2.hw.shown :: t.2.filmed })
  carryOut recvError

/-! ## What commands leave alone -/

section Keeps

/-- The clock and the width are in two registers, and commands write others. -/
theorem spares_writeReg {r : Regs} (clock : r ≠ .sdClkCtrl) (width : r ≠ .sdOption) (value : U32) :
    Spares Hw.kept (writeReg r value) := by
  have same : ∀ h : Hw, (h.setReg r value).kept = h.kept := by
    intro h
    unfold Hw.kept Hw.setReg
    dsimp only
    rw [Function.update_of_ne clock.symm, Function.update_of_ne width.symm]
  have polled : ∀ text, Spares Hw.kept (poll text) := by
    intro text
    apply Relates.get.bind
    intro h
    dsimp only
    apply Relates.bind
    · exact .modify fun _ => rfl
    · exact fun _ => .ite (.pure _) (.throw _)
  unfold writeReg
  apply Relates.bind
  · cases r.polled with
    | none => exact .pure _
    | some text => exact polled text
  · exact fun _ => .modify same

theorem spares_readReg (r : Regs) : Spares Hw.kept (readReg r) := fun _ => rfl

variable {c₀ : Cmd} {bus : U32 × U32}

/-- The request is that of `c₀`, and the registers of the bus are `bus`. -/
def Settled (c₀ : Cmd) (bus : U32 × U32) (t : Cmd × Hw) : Prop := c₀.SameRequest t.1 ∧ t.2.kept = bus

/-- What spares both registers keeps the bus as it is. -/
theorem keeps_onHw {α : Type} {m : HwM α} (spared : Spares Hw.kept m) : Keeps (Settled c₀ bus) (onHw m) := by
  intro t here
  rw [wp_onHw]
  exact (spared t.2).mono (fun _ _ same => ⟨here.1, same.trans here.2⟩)
    fun _ _ same => ⟨here.1, same.trans here.2⟩

theorem keeps_setStatus (status : Status) : Keeps (Settled c₀ bus) (setStatus status) :=
  keeps_modify fun _ here => ⟨here.1.trans (by constructor <;> rfl), here.2⟩

theorem keeps_handleIrqCmd (info : U32) : Keeps (Settled c₀ bus) (handleIrqCmd info) := by
  have started : Spares Hw.kept startDma :=
    (spares_readReg _).bind fun _ => spares_writeReg (by decide) (by decide) _
  unfold handleIrqCmd
  apply Keeps.ite _ (keeps_pure _)
  apply (keeps_onHw (spares_writeReg (by decide) (by decide) _)).bind
  intro _
  apply keeps_get_bind
  intro t
  apply Keeps.ite (keeps_setStatus _)
  apply Keeps.ite (keeps_setStatus _)
  apply Keeps.ite _ (keeps_setStatus _)
  exact (keeps_setStatus _).bind fun _ => keeps_onHw started

theorem keeps_handleIrqData (info : U32) : Keeps (Settled c₀ bus) (handleIrqData info) := by
  have finished : Keeps (Settled c₀ bus) finishTransfer := by
    apply (keeps_onHw (spares_readReg _)).bind
    intro mask
    apply (keeps_onHw (spares_writeReg (by decide) (by decide) _)).bind
    intro _
    apply (keeps_onHw (spares_writeReg (by decide) (by decide) _)).bind
    intro _
    apply (keeps_onHw (spares_writeReg (by decide) (by decide) _)).bind
    exact fun _ => keeps_setStatus _
  unfold handleIrqData
  apply (keeps_onHw (.ite (spares_writeReg (by decide) (by decide) _) (.pure _))).bind
  intro _
  apply keeps_get_bind
  intro t
  apply Keeps.bind (finished.ite (keeps_pure _))
  exact fun _ => (keeps_setStatus _).ite (keeps_pure _)

theorem spares_setupData (c : Cmd) : Spares Hw.kept (setupData c) := by
  have unmasked : Spares Hw.kept (unmaskDma c) := by
    apply (spares_readReg _).bind
    intro info1
    apply (spares_readReg _).bind
    intro info2
    apply Relates.ite
    · exact (spares_writeReg (by decide) (by decide) _).bind fun _ =>
        spares_writeReg (by decide) (by decide) _
    · exact (spares_writeReg (by decide) (by decide) _).bind fun _ =>
        spares_writeReg (by decide) (by decide) _
  have dma : Spares Hw.kept (setupDma c) := by
    apply (spares_writeReg (by decide) (by decide) _).bind
    intro _
    apply (spares_writeReg (by decide) (by decide) _).bind
    intro _
    apply (spares_writeReg (by decide) (by decide) _).bind
    intro _
    apply (spares_writeReg (by decide) (by decide) _).bind
    exact fun _ => unmasked
  have sizes : Spares Hw.kept (do
      writeReg .sdSize (RegSdSize.len.set 0 c.blocksize)
      writeReg .sdStop (RegSdStop.sec.put 0 (1 < c.blockcnt))
      writeReg .sdSeccnt c.blockcnt
      setupDma c) := by
    apply (spares_writeReg (by decide) (by decide) _).bind
    intro _
    apply (spares_writeReg (by decide) (by decide) _).bind
    intro _
    exact (spares_writeReg (by decide) (by decide) _).bind fun _ => dma
  exact .ite (.bind (.throw _) fun _ => sizes) sizes

/-- A submission spares them on both exits. -/
theorem keeps_cmdSubmit : Keeps (Settled c₀ bus) cmdSubmit := by
  have sent : ∀ c mode, Spares Hw.kept (sendCommand c mode) := by
    intro c mode
    apply (spares_writeReg (by decide) (by decide) _).bind
    intro _
    apply (spares_writeReg (by decide) (by decide) _).bind
    exact fun _ => spares_writeReg (by decide) (by decide) _
  unfold cmdSubmit
  apply keeps_get_bind
  intro t settled
  rw [wp_ite]
  refine ⟨fun _ => settled, fun _ => ?_⟩
  cases responseMode t.1 with
  | none => exact settled
  | some mode =>
    have body : Keeps (Settled c₀ bus) (do
        onHw (if t.1.flags.hasData then setupData t.1 else pure ())
        onHw (sendCommand t.1 mode)
        setStatus .progressCmd) := by
      apply (keeps_onHw (.ite (spares_setupData t.1) (.pure _))).bind
      intro _
      apply (keeps_onHw (sent t.1 mode)).bind
      exact fun _ => keeps_setStatus _
    exact body t settled

theorem keepsAll_settled : sparingOps.KeepsAll (Settled c₀ bus) where
  submit := keeps_cmdSubmit
  present _ _ _ here := ⟨here.1, here.2⟩
  irqCmd := keeps_get_bind fun t => keeps_handleIrqCmd t.2.info t
  irqData := keeps_get_bind fun t => keeps_handleIrqData t.2.info t
  fetch := keeps_modify fun _ here => ⟨here.1.trans (by constructor <;> rfl), here.2⟩

end Keeps

/-! ## What becomes of a command -/

theorem started_of_progress {c : Cmd} (phase : c.status = .progressCmd) : c.Started :=
  Or.inl ((Cmd.progress_iff c).mpr (Or.inl phase))

theorem handleIrqCmd_starts (info : U32) {c : Cmd} (h : Hw) (phase : c.status = .progressCmd) :
    wp (handleIrqCmd info) (fun _ t => t.1.Started) (fun _ _ => True) (c, h) := by
  unfold handleIrqCmd
  rw [wp_ite]
  refine ⟨fun _ => ?_, fun _ => started_of_progress phase⟩
  rw [wp_bind, wp_onHw, wp_writeReg_free rfl, wp_bind, wp_get, wp_ite]
  refine ⟨fun _ => Or.inr (Or.inr rfl), fun _ => ?_⟩
  rw [wp_ite]
  refine ⟨fun _ => Or.inr (Or.inr rfl), fun _ => ?_⟩
  rw [wp_ite]
  refine ⟨fun _ => ?_, fun _ => Or.inr (Or.inl rfl)⟩
  have data : wp (setStatus .progressData) (fun _ t => t.1.Started) (fun _ _ => False)
      (c, h.setReg .sdInfo (RegSdInfo.err6.put (RegSdInfo.info0.put (~~~0) false) false)) :=
    Or.inl ((Cmd.progress_iff _).mpr (Or.inr rfl))
  apply data.bind_ok
  intro _ t started
  rw [wp_onHw]
  exact (wp_any startDma t.2).mono (fun _ _ _ => started) fun _ _ _ => trivial

/-- The handler of the data phase always ends it. -/
theorem handleIrqData_ends (info : U32) (t : Cmd × Hw) :
    wp (handleIrqData info) (fun _ t' => t'.1.status = .success ∨ t'.1.status = .dataError)
      (fun _ _ => True) t := by
  have finished : ∀ t, wp finishTransfer (fun _ t' => t'.1.status = .success) (fun _ _ => True) t := by
    intro t
    unfold finishTransfer
    apply wp_second
    intro _ t
    apply wp_second
    intro _ t
    apply wp_second
    intro _ t
    apply wp_second
    exact fun _ _ => rfl
  unfold handleIrqData
  apply wp_second
  intro _ t
  rw [wp_bind, wp_get]
  dsimp only
  rw [transferDone_eq, if_pos rfl]
  apply (finished t).bind
  intro _ t status
  rw [wp_ite]
  exact ⟨fun _ => Or.inr rfl, fun _ => Or.inl status⟩

theorem started_of_ended {c : Cmd} (ended : c.status = .success ∨ c.status = .dataError) :
    c.Started ∧ c.status ≠ .progressCmd := by
  rcases ended with status | status
  · exact ⟨Or.inr (Or.inl status), by rw [status]; decide⟩
  · refine ⟨Or.inr (Or.inr ?_), by rw [status]; decide⟩
    unfold Cmd.failed
    rw [status]
    rfl

/-- The handlers start and end a command, and nothing else. -/
theorem works_started : sparingOps.Works Cmd.Started where
  started _ started := started
  irqCmd _ h phase _ := by
    show wp (get >>= _) _ _ _
    rw [wp_bind, wp_get]
    exact handleIrqCmd_starts _ h phase
  irqData c h _ _ := by
    show wp (get >>= _) _ _ _
    rw [wp_bind, wp_get]
    exact (handleIrqData_ends _ (c, h)).imp fun _ _ ended => started_of_ended ended
  fetch _ _ := rfl

/-- A submission that returns has started its command. -/
theorem cmdSubmit_starts (t : Cmd × Hw) :
    wp cmdSubmit (fun _ t' => t'.1.Started) (fun _ _ => True) t := by
  unfold cmdSubmit
  rw [wp_bind, wp_get, wp_ite]
  refine ⟨fun _ => trivial, fun _ => ?_⟩
  cases responseMode t.1 with
  | none => trivial
  | some mode =>
    apply wp_second
    intro _ t
    apply wp_second
    exact fun _ _ => started_of_progress rfl

/-- What comes of the execution of a command. -/
theorem carryOut_spec (recvError : Int) (c : Cmd) (p : Port) :
    wp (carryOut recvError)
      (fun _ t => (t.1.status = .success ∨ t.1.error = true) ∧ c.SameRequest t.1 ∧
        t.2.hw.kept = p.hw.kept ∧ t.2.filmed = p.filmed)
      (fun _ t => c.SameRequest t.1 ∧ t.2.filmed = p.filmed) (c, p) := by
  have decided := sparingOps.cmdExec_decides works_started recvError (s := ⟨c, p.hw, p.irqs⟩)
    (cmdSubmit_starts (c, p.hw))
  have settled := keepsAll_settled.cmdExec recvError ⟨c, p.hw, p.irqs⟩
    (show Settled c p.hw.kept (c, p.hw) from ⟨Cmd.SameRequest.refl c, rfl⟩)
  unfold carryOut
  rw [wp_bind, wp_zoom]
  exact (decided.and settled).mono (fun _ _ post => ⟨post.1, post.2.1, post.2.2, rfl⟩)
    fun _ _ post => ⟨post.2.1, rfl⟩

def driver (recvError : Int) (ioPhys ioVirt : U64) : PowerUp.Driver Port where
  suppUhsTimings := suppUhsTimings
  suppPowerLimit := suppPowerLimit
  needsTuningSdr50 := false
  ioPhys := ioPhys
  ioVirt := ioVirt
  ioBuf p := p.ioBuf
  cmdExec := film recvError
  setBusWidth width := onCtrl (setBusWidth width)
  setClockAndTiming freq _ _ := onCtrl (setClockAndTiming freq)
  setVoltage _ := return ()
  delay _ := return ()
  tuningFinished := return none
  resetTuning := return ()
  enableAutoTuning := return ()
  cardBusy := cardBusy
  init := init
  suppUhsModes := false
  xpcSupported := xpcSupported
  supportedVoltage := supportedVoltage
  decides := by
    intro c p _
    unfold film
    rw [wp_bind, wp_modify]
    exact (carryOut_spec recvError c _).mono (fun _ _ post => post.1) fun _ _ _ => trivial
  sparesRequest := by
    intro c p
    unfold film
    rw [wp_bind, wp_modify]
    exact (carryOut_spec recvError c _).mono (fun _ _ post => post.2.1) fun _ _ post => post.1

/-! ## What the registers follow -/

/-- What the registers say at a command in the view `v`. -/
structure Told (v : PowerUp.View) (width : Option Mmc.BusWidth) (shown : Shown) : Prop where
  width : ∀ w, width = some w → shown.width = w
  running : shown.running = true
  divisor : LeastOrLast (Slow 200000000 v.freq) candidates shown.divisor.toNat
  identifying : (∀ rca, v.card ≠ .tran rca) → v.freq = 400 * kHz

/-- The clock runs at this frequency. -/
def Runs (freq : U32) (shown : Shown) : Prop :=
  shown.running = true ∧ LeastOrLast (Slow 200000000 freq) candidates shown.divisor.toNat

/-- The registers agree with the view and the width, as far as the clock is on. -/
structure InStep (v : PowerUp.View) (width : Option Mmc.BusWidth) (shown : Shown) : Prop where
  width : ∀ w, width = some w → shown.width = w
  runs : v.freq ≠ 0 → Runs v.freq shown

/-- The registers of the port agree with the view and the width. -/
def Agreed (v : PowerUp.View) (width : Option Mmc.BusWidth) (p : Port) : Prop := InStep v width p.hw.shown

/-- The two registers are all that is shown. -/
theorem shown_of_kept {h h' : Hw} (same : h'.kept = h.kept) : h'.shown = h.shown := by
  have clock : h'.regs .sdClkCtrl = h.regs .sdClkCtrl := congrArg Prod.fst same
  have width : h'.regs .sdOption = h.regs .sdOption := congrArg Prod.snd same
  unfold Hw.shown
  rw [clock, width]

/-! ### The calls -/

/-- The width that is set is the width that is shown. -/
theorem setBusWidth_spec (width : Mmc.BusWidth) (h : Hw) :
    wp (setBusWidth width) (fun _ h' => h'.shown = { h.shown with width := width }) (fun _ _ => True) h := by
  have written : ∀ raw, RegSdOption.busWidth (RegSdOption.setBusWidth raw width) = width := by
    intro raw
    cases width <;>
      simp (disch := decide) [RegSdOption.busWidth, RegSdOption.setBusWidth, Bitfield.test_put_of_disjoint]
  unfold setBusWidth
  rw [wp_bind, wp_readReg, wp_writeReg_polled rfl]
  refine ⟨fun _ => ?_, fun _ => trivial⟩
  unfold Hw.shown Hw.setReg
  dsimp only
  rw [Function.update_self, Function.update_of_ne (by decide), written]
  rfl

/-- The divider and the width stay. -/
theorem clockGate_spec (on : Bool) (h : Hw) :
    wp (clockGate on) (fun _ h' => h'.shown = { h.shown with running := on }) (fun _ _ => True) h := by
  unfold clockGate
  rw [wp_bind, wp_readReg, wp_writeReg_polled rfl]
  refine ⟨fun _ => ?_, fun _ => trivial⟩
  have divisor : ∀ raw, RegSdClkCtrl.divisor (RegSdClkCtrl.sclken.put raw on) = RegSdClkCtrl.divisor raw := by
    intro raw
    simp (disch := decide) [RegSdClkCtrl.divisor, Bitfield.get_put_of_disjoint]
  unfold Hw.shown Hw.setReg
  dsimp only
  rw [Function.update_self, Function.update_of_ne (by decide), divisor, Bitfield.test_put_self]
  rfl

/-- The clock is set in its own register. -/
theorem setClock_width {freq : U32} {m : HwM Unit} (found : setClock freq = some m) (h : Hw) :
    wp m (fun _ h' => h'.shown.width = h.shown.width) (fun _ _ => True) h := by
  obtain ⟨clkDiv, -, same⟩ := Option.bind_eq_some_iff.mp found
  cases same
  rw [wp_bind, wp_readReg, wp_writeReg_polled rfl]
  refine ⟨fun _ => ?_, fun _ => trivial⟩
  unfold Hw.shown Hw.setReg
  dsimp only
  rw [Function.update_of_ne (by decide)]
  rfl

/-- The width stays, and a frequency other than zero runs. -/
theorem setClockAndTiming_spec (freq : U32) (h : Hw) :
    wp (setClockAndTiming freq)
      (fun _ h' => h'.shown.width = h.shown.width ∧ (freq ≠ 0 → Runs freq h'.shown)) (fun _ _ => True)
      h := by
  obtain ⟨m, found, spec⟩ := setClock_spec freq
  have same : (setClock freq).get (setClock_isSome freq) = m := Option.get_of_eq_some _ found
  unfold setClockAndTiming
  apply (clockGate_spec false h).bind
  intro _ h₁ stopped
  have width₁ : h₁.shown.width = h.shown.width := by rw [stopped]
  rw [wp_ite]
  refine ⟨fun off => ⟨width₁, fun on => absurd off on⟩, fun _ => ?_⟩
  rw [same, wp_bind]
  apply ((setClock_width found h₁).and (spec h₁)).mono
  · intro _ h₂ post
    obtain ⟨width₂, best⟩ := post
    apply (clockGate_spec true h₂).imp
    intro _ h₃ gated
    rw [gated]
    exact ⟨width₂.trans width₁, fun _ => ⟨rfl, best⟩⟩
  · exact fun _ _ _ => trivial

/-- A command does not touch the clock. -/
theorem InStep.executed {v : PowerUp.View} {width : Option Mmc.BusWidth} {shown : Shown}
    (inStep : InStep v width shown) (sent : PowerUp.Sent) (ended : Cmd) :
    InStep (v.executed sent ended) width shown := by
  unfold PowerUp.View.executed
  split
  · exact ⟨inStep.width, inStep.runs⟩
  · exact ⟨inStep.width, inStep.runs⟩

/-- The controller is the part of the port that runs. -/
theorem wp_onCtrl {α : Type} {m : HwM α} {Q : α → Port → Prop} {E : RuntimeError → Port → Prop} {p : Port} :
    wp (onCtrl m) Q E p ↔ wp m (fun a h => Q a { p with hw := h }) (fun e h => E e { p with hw := h }) p.hw :=
  wp_zoom _ _ m

/-- Whatever is asked of the controller, its registers agree, as long as the calls are permitted. -/
theorem films_driver (recvError : Int) (ioPhys ioVirt : U64) :
    PowerUp.Films Agreed Told Port.filmed (driver recvError ioPhys ioVirt).toHost where
  cmdExec := by
    intro c v width p agreed permitted
    have clocked := (permitted c fun _ => 0).2
    have runs := agreed.runs clocked.1
    have told : Told v width p.hw.shown := ⟨agreed.width, runs.1, runs.2, clocked.2⟩
    show wp (film recvError) _ _ _
    unfold film
    rw [wp_bind, wp_modify]
    apply (carryOut_spec recvError c _).mono
    · intro _ t post
      obtain ⟨-, -, kept, film⟩ := post
      refine ⟨?_, _, told, film⟩
      unfold Agreed
      rw [shown_of_kept kept]
      exact agreed.executed (PowerUp.sent c) t.1
    · exact fun _ t post => ⟨_, told, post.2⟩
  setBusWidth := by
    intro width v w p agreed _
    show wp (onCtrl _) _ _ _
    rw [wp_onCtrl]
    apply (setBusWidth_spec width p.hw).mono
    · intro _ h same
      refine ⟨?_, rfl⟩
      unfold Agreed
      dsimp only
      rw [same]
      exact ⟨fun _ here => Option.some.inj here, agreed.runs⟩
    · exact fun _ _ _ => rfl
  setClockAndTiming := by
    intro freq timing strobe v width p agreed _
    show wp (onCtrl _) _ _ _
    rw [wp_onCtrl]
    apply (setClockAndTiming_spec freq p.hw).mono
    · exact fun _ h post => ⟨⟨fun w here => post.1.trans (agreed.width w here), post.2⟩, rfl⟩
    · exact fun _ _ _ => rfl
  setVoltage _ _ _ _ agreed _ := ⟨⟨agreed.width, agreed.runs⟩, rfl⟩
  delay _ := .pure ()
  tuningFinished := .pure none
  resetTuning := .pure ()
  enableAutoTuning := .pure ()
  cardBusy _ _ _ agreed := ⟨agreed, rfl⟩

/-- `init` does not send commands. -/
theorem spares_init : Spares Port.filmed init := by
  have ctrl : ∀ {α : Type} (m : HwM α), Spares Port.filmed (onCtrl m) := by
    intro α m p
    rw [wp_onCtrl]
    exact (wp_any m p.hw).mono (fun _ _ _ => rfl) fun _ _ _ => rfl
  have written : ∀ r value, Spares Port.filmed (writeInit r value) := fun _ _ => .modify fun _ => rfl
  unfold init
  cases RegSdClkCtrl.setDivisor 0 4 with
  | error e => exact .throw e
  | ok sdClkCtrl =>
    apply (ctrl _).bind
    intro _
    apply (written _ _).bind
    intro _
    apply (written _ _).bind
    intro _
    apply Relates.bind
    · exact .modify fun _ => rfl
    intro _
    apply (written _ _).bind
    intro _
    apply (ctrl _).bind
    intro _
    apply Relates.get.bind
    intro p
    apply (written _ _).bind
    intro _
    apply (written _ _).bind
    intro _
    apply (written _ _).bind
    exact fun _ => ctrl _

/-- Whatever controller and card answer, at each command of a scan the clock of the card runs with the best
divider for the frequency that was asked for, 400 kHz while the card is identified. -/
theorem scan_shown (recvError : Int) (ioPhys ioVirt : U64) (disable : PowerUp.DeviceTypeDisable)
    (queue : CmdQueue) (medium : PowerUp.Medium) (p : Port) :
    let drv := driver recvError ioPhys ioVirt
    let scan : PowerUp.Scan Port := { queue := queue, hw := { p with filmed := [] }, medium := medium }
    Filmed Told (PowerUp.calls drv disable scan) (PowerUp.reached drv disable scan).filmed := by
  intro drv scan
  have start : ∀ shown, InStep PowerUp.watch.start none shown :=
    fun _ => ⟨nofun, fun running => absurd rfl running⟩
  have init : wp drv.init (fun _ p => Agreed PowerUp.watch.start none p ∧ p.filmed = [])
      (fun _ p => p.filmed = []) scan.hw :=
    (spares_init scan.hw).mono (fun _ _ same => ⟨start _, same⟩) fun _ _ same => same
  exact PowerUp.scan_films drv (films_driver recvError ioPhys ioVirt) disable init

end Sdhi

end Emmc
