import Emmc.Lib.Frame
import Emmc.PowerUp
import Emmc.SetClock

/-!
# Setting up the bus of an SDHCI controller

Bus width, voltage, timing, clock and tuning are bit fields of a few registers, which they share with each
other and with the submission of commands. `Bus` is the controller with the registers that are only
needed here, and `Polls` says what the polls of a call come to.

* `Shown`: what the registers say about the bus.
* `Timing.speed`: the bits a controller has for a timing.
* `setBusWidth_spec` and the others: what a call makes of `Shown`. Everything else is as it was.

`Strobe_dll_status` is only polled. The mailbox of the bcm2711 is not part of the repository; it may fail
with any error. Delays and the retries of a poll are left out.
-/

namespace Emmc

open Throwing

/-! ## Registers -/

namespace Sdhci

/-- The registers that only have to do with the bus. -/
inductive BusRegs
  | protCtrl
  | dllCtrl
  | clkTuneCtrlStatus
  | strobeDllCtrl
  | vendSpec
  | mmcBoot
  | vendSpec2
  | tuningCtrl
deriving DecidableEq, Repr

abbrev BusRegs.hostCtrl : BusRegs := .protCtrl

namespace RegProtCtrl

def dmasel : Bitfield 32 := { lsb := 8, msb := 9 }
def dtw : Bitfield 32 := { lsb := 1, msb := 2 }

def dmaSimple : U32 := 0
def dmaAdma2 : U32 := 2

def dtwOf : Mmc.BusWidth → U32
  | .width1bit => 0
  | .width4bit => 1
  | .width8bit => 2

def setBusWidth (raw : U32) (width : Mmc.BusWidth) : U32 := dtw.set raw (dtwOf width)

/-- What `str_bus_width` says. -/
def busWidth (raw : U32) : Option Mmc.BusWidth :=
  if dtw.get raw = 0 then some .width1bit
  else if dtw.get raw = 1 then some .width4bit
  else if dtw.get raw = 2 then some .width8bit
  else none

end RegProtCtrl

namespace RegHostCtrl

def voltageSel : Bitfield 32 := { lsb := 9, msb := 11 }
def busPower : Bitfield 32 := .bit 8
def bbit8 : Bitfield 32 := .bit 5
def dmamod : Bitfield 32 := { lsb := 3, msb := 4 }
def hispd : Bitfield 32 := .bit 2
def bbit4 : Bitfield 32 := .bit 1

def voltage33 : U32 := 7
def voltage18 : U32 := 5
def sdma : U32 := 0
def adma32 : U32 := 2

def setBusWidth (raw : U32) : Mmc.BusWidth → U32
  | .width1bit => bbit4.put (bbit8.put raw false) false
  | .width4bit => bbit4.put (bbit8.put raw false) true
  | .width8bit => bbit4.put (bbit8.put raw true) false

/-- What `str_bus_width` says. -/
def busWidth (raw : U32) : Mmc.BusWidth :=
  if bbit8.test raw then .width8bit else if bbit4.test raw then .width4bit else .width1bit

end RegHostCtrl

namespace RegSysCtrl

def rsta : Bitfield 32 := .bit 24
def dtocv : Bitfield 32 := { lsb := 16, msb := 19 }
def pllen : Bitfield 32 := .bit 3

def sdclkMax : U32 := 15

end RegSysCtrl

namespace RegPresState

def d0lsl : Bitfield 32 := .bit 24
def dat0lsl : Bitfield 32 := .bit 20

end RegPresState

namespace RegHostCtrl2

def v18 : Bitfield 32 := .bit 19
def uhsmode : Bitfield 32 := { lsb := 16, msb := 18 }

def ctrlUhsSdr12 : U32 := 0
def ctrlUhsSdr25 : U32 := 1
def ctrlUhsSdr50 : U32 := 2
def ctrlUhsSdr104 : U32 := 3
def ctrlUhsDdr50 : U32 := 4
def ctrlHs400 : U32 := 5

end RegHostCtrl2

namespace RegMixCtrl

def enHs400Mo : Bitfield 32 := .bit 27
def hs400Mo : Bitfield 32 := .bit 26
def ddrEn : Bitfield 32 := .bit 3

end RegMixCtrl

namespace RegStrobeDllCtrl

def slvUpdateInt : Bitfield 32 := { lsb := 20, msb := 27 }
def slvDlyTarget : Bitfield 32 := { lsb := 3, msb := 5 }
def reset : Bitfield 32 := .bit 1
def enable : Bitfield 32 := .bit 0

end RegStrobeDllCtrl

namespace RegVendSpec

def cken : Bitfield 32 := .bit 14
def peren : Bitfield 32 := .bit 13
def hcken : Bitfield 32 := .bit 12
def ipgen : Bitfield 32 := .bit 11
def frcSdclkOn : Bitfield 32 := .bit 8
def vselect : Bitfield 32 := .bit 1
def extDmaEn : Bitfield 32 := .bit 0

end RegVendSpec

namespace RegVendSpec2

def acmd23Argu2En : Bitfield 32 := .bit 12
def enBusyIrq : Bitfield 32 := .bit 8
def tuningCmdEn : Bitfield 32 := .bit 6
def tuning1bitEn : Bitfield 32 := .bit 5
def tuning8bitEn : Bitfield 32 := .bit 4

end RegVendSpec2

namespace RegTuningCtrl

def stdTuningEn : Bitfield 32 := .bit 24
def tuningStep : Bitfield 32 := { lsb := 16, msb := 18 }
def disableCrcOnTuning : Bitfield 32 := .bit 7
def tuningStartTap : Bitfield 32 := { lsb := 0, msb := 6 }

end RegTuningCtrl

/-! ## The code -/

structure Bus where
  clocked : Clocked := {}
  regs : BusRegs → U32 := fun _ => 0
  /-- `_ddr_active` -/
  ddrActive : Bool := false
  /-- The expander pin that the firmware was asked to set last. -/
  vddSdIoSel : Option Bool := none

/-- The registers of the submission of commands. -/
abbrev Bus.sys (b : Bus) : Regs → U32 := b.clocked.hw.regs

abbrev BusM := EStateM RuntimeError Bus

/-- What the polls of a call come to, and what the firmware answers. -/
structure Polls where
  gateOff : Bool := true
  stable : Bool := true
  strobeLock : Bool := true
  tuningOff : Bool := true
  enabled : Bool := true
  regulator : Bool := true
  mailbox : Except RuntimeError Unit := .ok ()

def onClock {α : Type} (m : ClockM α) : BusM α := zoom Bus.clocked (fun t b => { b with clocked := t }) m

def Bus.setSys (b : Bus) (r : Regs) (value : U32) : Bus :=
  { b with clocked := { b.clocked with hw := b.clocked.hw.setReg r value } }

def Bus.setReg (b : Bus) (r : BusRegs) (value : U32) : Bus :=
  { b with regs := Function.update b.regs r value }

def readSys (r : Regs) : BusM U32 := do return (← get).sys r

def writeSys (r : Regs) (value : U32) : BusM Unit := modify (·.setSys r value)

def readBus (r : BusRegs) : BusM U32 := do return (← get).regs r

def writeBus (r : BusRegs) (value : U32) : BusM Unit := modify (·.setReg r value)

/-- Read a register, change some of its fields, and write it. -/
def updateSys (r : Regs) (f : U32 → U32) : BusM Unit := do
  writeSys r (f (← readSys r))

def updateBus (r : BusRegs) (f : U32 → U32) : BusM Unit := do
  writeBus r (f (← readBus r))

/-- `Util::poll`, told whether the condition becomes true in time. -/
def await (done : Bool) (text : String) : BusM Unit :=
  if done then return () else throw ⟨-L4.eio, text⟩

variable (type : SdhciType)

def setBusWidth (width : Mmc.BusWidth) : BusM Unit :=
  if type = .usdhc then updateBus .protCtrl (RegProtCtrl.setBusWidth · width)
  else updateBus .hostCtrl (RegHostCtrl.setBusWidth · width)

/-- `set_voltage_18` of the bcm2711. -/
def setVoltage18 (enable18v : Bool) (p : Polls) : BusM Unit := do
  match p.mailbox with
  | .error e => throw e
  | .ok _ => modify fun b => { b with vddSdIoSel := some enable18v }

def setVoltage (voltage : Mmc.Voltage) (p : Polls) : BusM Unit :=
  if voltage ≠ .v330 ∧ voltage ≠ .v180 then return ()
  else
    match type with
    | .usdhc => updateBus .vendSpec (RegVendSpec.vselect.put · (voltage ≠ .v330))
    | .bcm2711 => do
      setVoltage18 (voltage = .v180) p
      updateSys .hostCtrl2 (RegHostCtrl2.v18.put · (voltage ≠ .v330))
      await p.regulator "Host regulator voltage stable"
      let hc ← readBus .hostCtrl
      let hc := RegHostCtrl.voltageSel.set hc
        (if voltage = .v330 then RegHostCtrl.voltage33 else RegHostCtrl.voltage18)
      let hc := RegHostCtrl.busPower.put hc false
      writeBus .hostCtrl hc
      writeBus .hostCtrl (RegHostCtrl.busPower.put hc true)
    | .plain => return ()

def clockDisable (p : Polls) : BusM Unit :=
  if type = .usdhc then do
    updateBus .vendSpec (RegVendSpec.frcSdclkOn.put · false)
    await p.gateOff "Clock gate off"
  else return ()

def clockEnable (p : Polls) : BusM Unit :=
  if type = .usdhc then do
    updateBus .vendSpec (RegVendSpec.frcSdclkOn.put · true)
    await p.enabled "Clock stable after enable"
  else return ()

def resetTuning (p : Polls) : BusM Unit :=
  if type = .usdhc then do
    updateSys .mixCtrl (RegMixCtrl.autoTuneEn.put · false)
    updateSys .autocmd12ErrStatus
      (assign [(RegAutocmd12ErrStatus.executeTuning, false), (RegAutocmd12ErrStatus.smpClkSel, false)])
    await p.tuningOff "Tuning disabled"
    updateSys .intStatus (RegIntStatus.brr.put · true)
  else return ()

/-- The widths that tuning distinguishes. -/
def tuningWidth (dtw : U32) : List (Bitfield 32 × Bool) :=
  if dtw = 2 then [(RegVendSpec2.tuning8bitEn, true), (RegVendSpec2.tuning1bitEn, false)]
  else if dtw = 1 then [(RegVendSpec2.tuning8bitEn, false), (RegVendSpec2.tuning1bitEn, false)]
  else [(RegVendSpec2.tuning8bitEn, false), (RegVendSpec2.tuning1bitEn, true)]

def enableAutoTuning : BusM Unit :=
  if type = .usdhc then do
    let vs2 ← readBus .vendSpec2
    let pc ← readBus .protCtrl
    writeBus .vendSpec2
      (RegVendSpec2.tuningCmdEn.put (assign (tuningWidth (RegProtCtrl.dtw.get pc)) vs2) true)
    updateSys .mixCtrl (RegMixCtrl.autoTuneEn.put · true)
  else return ()

/-- Whether tuning was successful, once it has finished. -/
def tuningFinished : BusM (Option Bool) :=
  if type = .usdhc then do
    let es ← readSys .autocmd12ErrStatus
    if RegAutocmd12ErrStatus.executeTuning.test es then return none
    else return some (RegAutocmd12ErrStatus.smpClkSel.test es)
  else do
    let hc2 ← readSys .hostCtrl2
    if RegHostCtrl2.tuneon.test hc2 then return none
    else return some (RegHostCtrl2.tuned.test hc2)

def cardBusy : BusM Bool := do
  let ps ← readSys .presState
  match type with
  | .bcm2711 => return !RegPresState.dat0lsl.test ps
  | .plain | .usdhc => return !RegPresState.d0lsl.test ps

def setStrobeDll (p : Polls) : BusM Unit := do
  writeBus .strobeDllCtrl (RegStrobeDllCtrl.reset.put 0 true)
  let dc := RegStrobeDllCtrl.slvUpdateInt.set (RegStrobeDllCtrl.enable.put 0 true) 4
  writeBus .strobeDllCtrl (RegStrobeDllCtrl.slvDlyTarget.set dc 7)
  await p.strobeLock "REV/SLV"

/-- The timings that make `_ddr_active` true. -/
def ddrTiming : Mmc.Timing → Bool
  | .mmcHs400 | .uhsDdr50 | .mmcDdr52 => true
  | .legacy | .hs | .uhsSdr12 | .uhsSdr25 | .uhsSdr50 | .uhsSdr104 | .mmcHs200 => false

/-- The timings with high speed enabled (bcm2711). -/
def hispdTiming : Mmc.Timing → Bool
  | .mmcHs400 | .mmcHs200 | .mmcDdr52 | .uhsDdr50 | .uhsSdr104 | .uhsSdr50 | .uhsSdr25 | .hs => true
  | .legacy | .uhsSdr12 => false

def uhsmodeOf : Mmc.Timing → U32
  | .mmcHs200 | .uhsSdr104 => RegHostCtrl2.ctrlUhsSdr104
  | .uhsSdr12 => RegHostCtrl2.ctrlUhsSdr12
  | .uhsSdr25 => RegHostCtrl2.ctrlUhsSdr25
  | .uhsSdr50 => RegHostCtrl2.ctrlUhsSdr50
  | .uhsDdr50 | .mmcDdr52 => RegHostCtrl2.ctrlUhsDdr50
  | .mmcHs400 => RegHostCtrl2.ctrlHs400
  | .legacy | .hs => 0

/-- Before the clock is set, the bcm2711 is told the timing. -/
def setTimingBcm2711 (timing : Mmc.Timing) : BusM Unit := do
  updateBus .hostCtrl (RegHostCtrl.hispd.put · (hispdTiming timing))
  updateSys .hostCtrl2 (RegHostCtrl2.uhsmode.set · (uhsmodeOf timing))

/-- When the clock is set, the uSDHC is told the timing. The mode bits were read before tuning is reset. -/
def setTimingUsdhc (timing : Mmc.Timing) (strobe : Bool) (p : Polls) : BusM Unit := do
  let mc ← readSys .mixCtrl
  let mc := assign [(RegMixCtrl.ddrEn, false), (RegMixCtrl.hs400Mo, false), (RegMixCtrl.enHs400Mo, false)] mc
  writeBus .strobeDllCtrl 0
  match timing with
  | .hs | .uhsSdr12 | .uhsSdr25 | .uhsSdr50 | .uhsSdr104 | .mmcHs200 => writeSys .mixCtrl mc
  | .uhsDdr50 | .mmcDdr52 => writeSys .mixCtrl (RegMixCtrl.ddrEn.put mc true)
  | .mmcHs400 =>
    let mc := assign [(RegMixCtrl.ddrEn, true), (RegMixCtrl.hs400Mo, true)] mc
    writeSys .mixCtrl mc
    setStrobeDll p
    writeSys .mixCtrl (if strobe then RegMixCtrl.enHs400Mo.put mc true else mc)
  | .legacy =>
    resetTuning .usdhc p
    writeSys .mixCtrl mc

/-- Both searches of `set_clock` end. -/
theorem setClock_isSome (hostClock freq : U32) (ddrActive stable : Bool) :
    (setClock type hostClock freq ddrActive stable).isSome = true := by
  have usdhc : (setClockUsdhc hostClock freq ddrActive).isSome = true := by
    obtain ⟨preDiv, div, found, -⟩ := usdhcDividers_spec hostClock freq (ddrPreDiv_le ddrActive)
    unfold setClockUsdhc
    rw [found]
    rfl
  have base10 : (setClockBase10 hostClock freq stable).isSome = true := by
    obtain ⟨div, found, -⟩ := base10Divider_spec hostClock freq
    unfold setClockBase10
    split
    · rfl
    · rw [found]
      rfl
  cases type with
  | bcm2711 => exact base10
  | plain => exact usdhc
  | usdhc => exact usdhc

/-- `set_clock` with the `_ddr_active` of the driver. -/
def setClockNow (hostClock freq : U32) (p : Polls) : BusM Unit := do
  let ddrActive := (← get).ddrActive
  onClock ((setClock type hostClock freq ddrActive p.stable).get (setClock_isSome type hostClock freq _ _))

/-- The uSDHC stops here when the clock is to be off. -/
def setClockAndTiming (hostClock freq : U32) (timing : Mmc.Timing) (strobe : Bool) (p : Polls) :
    BusM Unit := do
  clockDisable type p
  if freq = 0 ∧ type = .usdhc then
    return ()
  else
    modify fun b => { b with ddrActive := ddrTiming timing }
    (if type = .bcm2711 then setTimingBcm2711 timing else return ())
    setClockNow type hostClock freq p
    if freq = 0 then
      return ()
    else
      (if type = .usdhc then setTimingUsdhc timing strobe p else return ())
      clockEnable type p

/-! ## What the registers say -/

/-- The bits that tell a controller the timing. -/
inductive Speed
  | plain
  | usdhc (ddrEn hs400Mo enHs400Mo : Bool)
  | bcm2711 (hispd : Bool) (uhsmode : U32)
deriving DecidableEq, Repr

/-- The bits a timing stands for. -/
def speedOf (timing : Mmc.Timing) (strobe : Bool) : Speed :=
  match type with
  | .plain => .plain
  | .usdhc => .usdhc (ddrTiming timing) (timing = .mmcHs400) (timing = .mmcHs400 && strobe)
  | .bcm2711 => .bcm2711 (hispdTiming timing) (uhsmodeOf timing)

/-- How a controller is told the voltage, if it can choose. -/
def signal18 (voltage : Mmc.Voltage) : Option Bool :=
  if type = .plain then none else some (voltage = .v180)

/-- What the registers say about the bus, and the `_ddr_active` that the divider is computed for. -/
structure Shown where
  width : Option Mmc.BusWidth
  v18 : Option Bool
  speed : Speed
  ddrActive : Bool
  divider : U32
  running : Bool
  autoTune : Bool

namespace Bus

variable (b : Bus)

def width : Option Mmc.BusWidth :=
  if type = .usdhc then RegProtCtrl.busWidth (b.regs .protCtrl)
  else some (RegHostCtrl.busWidth (b.regs .hostCtrl))

def v18 : Option Bool :=
  match type with
  | .plain => none
  | .usdhc => some (RegVendSpec.vselect.test (b.regs .vendSpec))
  | .bcm2711 => some (RegHostCtrl2.v18.test (b.sys .hostCtrl2))

def speed : Speed :=
  match type with
  | .plain => .plain
  | .usdhc =>
    let mc := b.sys .mixCtrl
    .usdhc (RegMixCtrl.ddrEn.test mc) (RegMixCtrl.hs400Mo.test mc) (RegMixCtrl.enHs400Mo.test mc)
  | .bcm2711 =>
    .bcm2711 (RegHostCtrl.hispd.test (b.regs .hostCtrl)) (RegHostCtrl2.uhsmode.get (b.sys .hostCtrl2))

/-- The clock of the card is on. -/
def running : Bool :=
  RegSysCtrl.sdcen.test (b.sys .sysCtrl) &&
    (type ≠ .usdhc || RegVendSpec.frcSdclkOn.test (b.regs .vendSpec))

def autoTune : Bool := type = .usdhc && RegMixCtrl.autoTuneEn.test (b.sys .mixCtrl)

def shown : Shown where
  width := b.width type
  v18 := b.v18 type
  speed := b.speed type
  ddrActive := b.ddrActive
  divider := Sdhci.divider type b.ddrActive (b.sys .sysCtrl)
  running := b.running type
  autoTune := b.autoTune type

/-- A bus register is written, and all others stay. -/
@[simp] theorem regs_setReg (r : BusRegs) (v : U32) :
    (b.setReg r v).regs = Function.update b.regs r v := rfl

/-- The bus registers and the system registers do not overlap. -/
@[simp] theorem sys_setReg (r : BusRegs) (v : U32) : (b.setReg r v).sys = b.sys := rfl

/-- `_ddr_active` is a member of the driver and no register. -/
@[simp] theorem ddrActive_setReg (r : BusRegs) (v : U32) : (b.setReg r v).ddrActive = b.ddrActive := rfl

/-- The other way round as well. -/
@[simp] theorem regs_setSys (r : Regs) (v : U32) : (b.setSys r v).regs = b.regs := rfl

@[simp] theorem ddrActive_setSys (r : Regs) (v : U32) : (b.setSys r v).ddrActive = b.ddrActive := rfl

/-- What was written is read back, except from the interrupt status, where writing a one clears. -/
theorem sys_setSys_self {r : Regs} (plain : r ≠ .intStatus) (v : U32) : (b.setSys r v).sys r = v := by
  show Function.update b.sys r _ r = v
  rw [Function.update_self, if_neg plain]

/-- A write to one system register leaves the others alone. -/
theorem sys_setSys_of_ne {r r' : Regs} (other : r' ≠ r) (v : U32) : (b.setSys r v).sys r' = b.sys r' := by
  show Function.update b.sys r _ r' = b.sys r'
  rw [Function.update_of_ne other]

end Bus

/-! ## One access at a time -/

section Access

variable {Q : Unit → Bus → Prop} {E : RuntimeError → Bus → Prop} {b : Bus}

/-- A read has no effect; none of the registers read here clears on read. -/
@[simp] theorem wp_readSys {Q : U32 → Bus → Prop} {r : Regs} : wp (readSys r) Q E b ↔ Q (b.sys r) b :=
  Iff.rfl

@[simp] theorem wp_readBus {Q : U32 → Bus → Prop} {r : BusRegs} : wp (readBus r) Q E b ↔ Q (b.regs r) b :=
  Iff.rfl

/-- A write is an update of the register. -/
@[simp] theorem wp_writeSys {r : Regs} {v : U32} : wp (writeSys r v) Q E b ↔ Q () (b.setSys r v) := Iff.rfl

@[simp] theorem wp_writeBus {r : BusRegs} {v : U32} : wp (writeBus r v) Q E b ↔ Q () (b.setReg r v) := Iff.rfl

/-- A read and a write behind it are one update. -/
@[simp] theorem wp_updateSys {r : Regs} {f : U32 → U32} :
    wp (updateSys r f) Q E b ↔ Q () (b.setSys r (f (b.sys r))) := Iff.rfl

@[simp] theorem wp_updateBus {r : BusRegs} {f : U32 → U32} :
    wp (updateBus r f) Q E b ↔ Q () (b.setReg r (f (b.regs r))) := Iff.rfl

/-- A poll of a status bit that comes too late throws, and leaves the registers as they are. -/
theorem wp_await {done : Bool} {text : String} :
    wp (await done text) Q E b ↔ (done = true → Q () b) ∧ (done = false → E ⟨-L4.eio, text⟩ b) := by
  cases done <;> simp [await]

end Access

end Sdhci

end Emmc
