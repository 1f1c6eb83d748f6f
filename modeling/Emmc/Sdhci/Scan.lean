import Emmc.PowerUp.Controller
import Emmc.PowerUp.Follows
import Emmc.Sdhci.Settings

/-!
# An SDHCI controller during the scan

`driver` is what the device calls while it looks for a card, down to the registers: `init`, the
capabilities, the calls that set up the bus, and commands with their interrupts. A `Port` is the controller
with what it and the card are going to answer; whatever they answer, it leaves the bits of the driver alone
(`Irq.sparing`).

* `Told`: what the registers are to say at a command.
* `films_driver`: the registers agree with what was asked for, and are filmed at each command.
* `scan_filmed`: so at each command of a scan the clock runs with the best divider, and timings that need
  signals of 1.8 V have them.

The software reset leaves any registers behind. Delays are left out.
-/

namespace Emmc

open Throwing

namespace Sdhci

open PowerUp (Filmed needsV18 Selects)

/-! ## Capabilities -/

namespace RegCap1

def vs30 : Bitfield 32 := .bit 25
def vs33 : Bitfield 32 := .bit 24

end RegCap1

/-! `Host_ctrl_cap` of the uSDHC has these fields at the same places. -/

namespace RegCap2

def tuneSdr50 : Bitfield 32 := .bit 13
def ddr50Support : Bitfield 32 := .bit 2
def sdr104Support : Bitfield 32 := .bit 1
def sdr50Support : Bitfield 32 := .bit 0

end RegCap2

namespace RegMaxCurrent

def maxCurrent18vVdd1 : Bitfield 32 := { lsb := 16, msb := 23 }
def maxCurrent33vVdd1 : Bitfield 32 := { lsb := 0, msb := 7 }

/-- In milliamperes. -/
def maxCurrent (val : U32) : Nat := val.toNat * 4

end RegMaxCurrent

/-- The registers that say what a controller is capable of. -/
structure Caps where
  cap1 : U32
  /-- `Host_ctrl_cap` of the uSDHC. -/
  cap2 : U32
  maxCurrent : U32

namespace Caps

variable (caps : Caps) (type : SdhciType)

def suppUhsTimings : Mmc.Timing → Bool
  | .uhsSdr12 | .uhsSdr25 => true
  | .uhsSdr50 => RegCap2.sdr50Support.test caps.cap2
  | .uhsSdr104 => RegCap2.sdr104Support.test caps.cap2
  | .uhsDdr50 => RegCap2.ddr50Support.test caps.cap2
  | .legacy | .hs | .mmcDdr52 | .mmcHs200 | .mmcHs400 => false

/-- The voltage windows of the OCR, 3.2 to 3.4 V and 2.9 to 3.1 V. -/
def supportedVoltage : U32 :=
  match type with
  | .bcm2711 =>
    let vs33 := RegCap1.vs33.test caps.cap1
    let vs30 := RegCap1.vs30.test caps.cap1
    assign [(.bit 20, vs33), (.bit 21, vs33), (.bit 17, vs30), (.bit 18, vs30)] 0
  | .plain | .usdhc => assign [(.bit 20, true), (.bit 21, true)] 0

/-- Up to 540 mW at the voltage. -/
def xpcSupported (voltage : Mmc.Voltage) : Bool :=
  match type with
  | .bcm2711 =>
    let mc := caps.maxCurrent
    match voltage with
    | .v180 => 300 ≤ RegMaxCurrent.maxCurrent (RegMaxCurrent.maxCurrent18vVdd1.get mc)
    | .v330 => 164 ≤ RegMaxCurrent.maxCurrent (RegMaxCurrent.maxCurrent33vVdd1.get mc)
    | .v120 => false
  | .plain | .usdhc => true

end Caps

def suppPowerLimit : Mmc.PowerLimit → Bool
  | .power072w | .power144w | .power216w | .power288w => true
  | .power180w => false

/-! ## The reset of the controller -/

/-- What `init` finds: the registers after the software reset, and what the polls come to. -/
structure Reset where
  regs : Regs → U32 := fun _ => 0
  busRegs : BusRegs → U32 := fun _ => 0
  done : Bool := true
  stable : Bool := true
  pllStable : Bool := true

def Bus.reset (b : Bus) (r : Reset) : Bus :=
  { b with
    clocked := { b.clocked with hw := { b.clocked.hw with regs := r.regs } }
    regs := r.busRegs }

def initUsdhc (dmaAdma2 : Bool) : BusM Unit := do
  writeBus .mmcBoot 0
  writeSys .mixCtrl 0
  writeSys .autocmd12ErrStatus 0
  writeBus .clkTuneCtrlStatus 0
  writeBus .dllCtrl 0
  updateBus .tuningCtrl fun tc =>
    RegTuningCtrl.disableCrcOnTuning.put (RegTuningCtrl.tuningStartTap.set tc 0x14) true
  writeBus .vendSpec
    (assign [(RegVendSpec.extDmaEn, true), (RegVendSpec.peren, true), (RegVendSpec.hcken, true),
      (RegVendSpec.ipgen, true), (RegVendSpec.cken, true)] 0 ||| 0x30000000)
  updateBus .vendSpec2 (RegVendSpec2.enBusyIrq.put · true)
  updateBus .protCtrl
    (RegProtCtrl.dmasel.set · (if dmaAdma2 then RegProtCtrl.dmaAdma2 else RegProtCtrl.dmaSimple))
  updateBus .tuningCtrl fun tc =>
    let tc := RegTuningCtrl.tuningStartTap.set (RegTuningCtrl.stdTuningEn.put tc true) 20
    RegTuningCtrl.disableCrcOnTuning.put (RegTuningCtrl.tuningStep.set tc 2) true

/-- The internal clock first, then the clock of the card. -/
def initClockBcm2711 (r : Reset) : BusM Unit := do
  let sc := RegSysCtrl.icen.put 0 true
  writeSys .sysCtrl sc
  await r.stable "Clock stable"
  writeSys .sysCtrl (assign [(RegSysCtrl.sdcen, true), (RegSysCtrl.pllen, true)] sc)
  await r.pllStable "PLL clock stable"

/-- What the controllers other than the uSDHC have in common. -/
def initHost (type : SdhciType) (dmaAdma2 : Bool) : BusM Unit := do
  writeSys .autocmd12ErrStatus 0
  writeBus .clkTuneCtrlStatus 0
  updateBus .hostCtrl fun hc =>
    let hc := if type = .bcm2711 then
      RegHostCtrl.busPower.put (RegHostCtrl.voltageSel.set hc RegHostCtrl.voltage33) true else hc
    RegHostCtrl.dmamod.set hc (if dmaAdma2 then RegHostCtrl.adma32 else RegHostCtrl.sdma)

/-- The plain controller is told the word of the reset again, with the clock turned on. -/
def init (type : SdhciType) (dmaAdma2 : Bool) (r : Reset) : BusM Unit := do
  updateSys .sysCtrl (RegSysCtrl.dtocv.set · RegSysCtrl.sdclkMax)
  let sc ← readSys .sysCtrl
  updateBus .vendSpec2 (RegVendSpec2.acmd23Argu2En.put · true)
  let sc := RegSysCtrl.rsta.put sc true
  let sc := if type = .usdhc then sc ||| 0xf else sc
  writeSys .sysCtrl sc
  modify (·.reset r)
  await r.done "Software reset all"
  match type with
  | .usdhc => initUsdhc dmaAdma2
  | .bcm2711 => do
    initClockBcm2711 r
    initHost .bcm2711 dmaAdma2
  | .plain => do
    writeSys .sysCtrl
      (assign [(RegSysCtrl.icen, true), (RegSysCtrl.icst, true), (RegSysCtrl.sdcen, true),
        (RegSysCtrl.pllen, true)] sc)
    initHost .plain dmaAdma2

/-! ## The driver of the scan -/

/-- What the controller answers to one call: what its polls come to, and the bits of the registers that are
not the driver's. -/
structure Reply where
  polls : Polls := {}
  status : Regs → U32 := fun _ => 0

/-- A controller with a card, and what they are going to answer. -/
structure Port where
  bus : Bus
  reset : Reset := {}
  irqs : List Irq := []
  replies : List Reply := []
  /-- What the registers said at each command, the last one first. The driver does not have it. -/
  filmed : List Shown := []

abbrev PortM := EStateM RuntimeError Port

def onBus {α : Type} (m : BusM α) : PortM α := zoom Port.bus (fun b p => { p with bus := b }) m

/-- The answer to the next call. -/
def nextReply : PortM Reply := do
  let replies := (← get).replies
  modify fun p => { p with replies := replies.tail }
  return replies.headD {}

def withPolls (m : Polls → BusM Unit) : PortM Unit := do
  let reply ← nextReply
  onBus (m reply.polls)

/-- The registers as the next call finds them. -/
def Bus.found (status : Regs → U32) (b : Bus) : Bus :=
  let hw := b.clocked.hw
  { b with clocked := { b.clocked with hw := { hw with regs := (Irq.sparing { regs := status } hw).regs } } }

def withStatus {α : Type} (m : BusM α) : PortM α := do
  let reply ← nextReply
  onBus do
    modify (·.found reply.status)
    m

variable (s : Sdhci)

theorem faultless_sparing (irq : Irq) (h : Hw) (c : Cmd) :
    s.faultless (irq.sparing h) c = s.faultless irq c := by
  have whole : ∀ {r : Regs}, touched false r = ~~~0 → (irq.sparing h).regs r = irq.regs r := by
    intro r all
    show irq.regs r &&& touched false r ||| h.regs r &&& ~~~touched false r = irq.regs r
    have ones : (~~~0 : U32) = BitVec.allOnes 32 := rfl
    rw [all, ones, BitVec.and_allOnes, BitVec.not_allOnes, BitVec.and_zero, BitVec.or_zero]
  unfold faultless cmdStuck entersData
  rw [whole (r := .intStatus) rfl, whole (r := .blkAtt) rfl]
  rfl

/-- The driver for interrupts that leave its bits alone. -/
def sparingDrv : HwDrv Hw Irq :=
  { s.hwDrv with
    present := fun irq h => present (irq.sparing h) h
    irq_faultless := fun irq c h _ noFault =>
      s.hwOps_faultless c h ((s.faultless_sparing irq h c).trans noFault) }

/-- Execute a command with the interrupts to come. -/
def carryOut (recvError : Int) : Action Port Unit :=
  zoom (fun t => { cmd := t.1, hw := t.2.bus.clocked.hw, irqs := t.2.irqs })
    (fun y t => (y.cmd, { t.2 with
      bus := { t.2.bus with clocked := { t.2.bus.clocked with hw := y.hw } }
      irqs := y.irqs }))
    (s.sparingDrv.cmdExec recvError)

/-- Film the registers, and execute a command. -/
def film (recvError : Int) : Action Port Unit := do
  modify fun t => (t.1, { t.2 with filmed := t.2.bus.shown s.type :: t.2.filmed })
  s.carryOut recvError

def driver (caps : Caps) (hostClock : U32) (recvError : Int) (ioPhys ioVirt : U64) : PowerUp.Driver Port where
  suppUhsTimings := caps.suppUhsTimings
  suppPowerLimit := suppPowerLimit
  needsTuningSdr50 := RegCap2.tuneSdr50.test caps.cap2
  ioPhys := ioPhys
  ioVirt := ioVirt
  ioBuf p i := p.bus.clocked.hw.mem (s.translate (ioVirt + BitVec.ofNat 64 i))
  cmdExec := s.film recvError
  setBusWidth width := onBus (setBusWidth s.type width)
  setClockAndTiming freq timing strobe :=
    withPolls (setClockAndTiming s.type hostClock freq timing strobe)
  setVoltage voltage := withPolls (setVoltage s.type voltage)
  delay _ := return ()
  tuningFinished := withStatus (tuningFinished s.type)
  resetTuning := withPolls (resetTuning s.type)
  enableAutoTuning := onBus (enableAutoTuning s.type)
  cardBusy := withStatus (cardBusy s.type)
  init := do onBus (init s.type s.dmaAdma2 (← get).reset)
  suppUhsModes := true
  xpcSupported := caps.xpcSupported s.type
  supportedVoltage := caps.supportedVoltage s.type
  decides := by
    intro c p noTuning
    unfold film carryOut
    rw [wp_bind, wp_modify, wp_zoom]
    exact s.sparingDrv.cmdExec_decides recvError ⟨c, p.bus.clocked.hw, p.irqs⟩ noTuning
  sparesRequest := by
    intro c p
    unfold film carryOut
    rw [wp_bind, wp_modify, wp_zoom]
    exact s.sparingDrv.cmdExec_same recvError ⟨c, p.bus.clocked.hw, p.irqs⟩

/-! ## What commands leave alone -/

theorem keeps_kept {α : Type} {bits : Regs → U32} {m : EStateM RuntimeError (Cmd × Hw) α}
    (spared : Spares (view true) m) : Keeps (fun t => t.2.kept true = bits) m :=
  spared.keeps fun v => v.2 = bits

/-- The functions of the driver and the interrupts keep the bits that only the bus has to do with. -/
theorem keepsAll_kept (bits : Regs → U32) :
    s.sparingDrv.toHwOps.KeepsAll fun t => t.2.kept true = bits where
  submit := by
    intro t here
    have kept : ∀ {t' : Cmd × Hw}, t'.2.kept t.1.isTuning = t.2.kept t.1.isTuning →
        t'.2.kept true = bits := by
      intro t' same
      rw [← here]
      cases tuning : t.1.isTuning with
      | true => rwa [tuning] at same
      | false => exact kept_tuning (by rwa [tuning] at same)
    exact (s.cmdSubmit_kept t.1 t.2).mono (fun _ _ post => kept post.1) fun _ _ same => kept same
  present := fun irq _ h here => (kept_tuning (kept_present irq h)).trans here
  irqCmd := keeps_kept s.spares_irqCmd
  irqData := keeps_kept s.spares_irqData
  fetch := keeps_kept s.spares_fetch

/-- Apart from automatic tuning, the bus is set up after a command as it was before. -/
theorem carryOut_shown (recvError : Int) (c : Cmd) (p : Port) :
    wp (s.carryOut recvError)
      (fun _ t => (∃ autoTune, t.2.bus.shown s.type = { p.bus.shown s.type with autoTune := autoTune }) ∧
        t.2.filmed = p.filmed)
      (fun _ t => t.2.filmed = p.filmed) (c, p) := by
  unfold carryOut
  rw [wp_zoom]
  apply ((s.keepsAll_kept _).cmdExec recvError _ rfl).mono
  · intro _ y same
    have unmoved : Unmoved true p.bus
        { p.bus with clocked := { p.bus.clocked with hw := y.hw } } := ⟨rfl, rfl, same⟩
    exact ⟨⟨_, unmoved.shown⟩, rfl⟩
  · exact fun _ _ _ => rfl

/-! ## What the registers follow -/

/-- The bits of the controller are those of `timing`, which is one for the frequency. -/
structure Timing (type : SdhciType) (freq : U32) (speed : Speed) (ddrActive : Bool) (timing : Mmc.Timing) :
    Prop where
  speed : ∃ strobe, speed = speedOf type timing strobe
  ddrActive : ddrActive = ddrTiming timing
  matching : freq ≤ 400 * kHz ∨ ∃ mode, Selects mode freq timing

/-- What the registers say at a command in the view `v`. -/
structure Told (type : SdhciType) (hostClock : U32) (v : PowerUp.View) (width : Option Mmc.BusWidth)
    (shown : Shown) : Prop where
  width : ∀ w, width = some w → shown.width = some w
  running : shown.running = true
  divider : Best type hostClock v.freq shown.ddrActive shown.divider
  identifying : (∀ rca, v.card ≠ .tran rca) → v.freq = 400 * kHz
  timing : ∃ timing, Timing type v.freq shown.speed shown.ddrActive timing ∧
    (needsV18 timing = true → shown.v18 = signal18 type .v180)

/-- The registers agree with the view and the width. As long as the clock is off, nothing is said about
divider and timing. -/
structure InStep (type : SdhciType) (hostClock : U32) (v : PowerUp.View) (width : Option Mmc.BusWidth)
    (shown : Shown) : Prop where
  width : ∀ w, width = some w → shown.width = some w
  voltage : v.voltage = some .v180 → shown.v18 = signal18 type .v180
  running : v.freq ≠ 0 → shown.running = true
  divider : v.freq ≠ 0 → Best type hostClock v.freq shown.ddrActive shown.divider
  timing : v.freq ≠ 0 → ∃ timing, Timing type v.freq shown.speed shown.ddrActive timing ∧
    (needsV18 timing = true → v.voltage = some .v180)

section InStep

variable {type : SdhciType} {hostClock : U32} {v : PowerUp.View} {width : Option Mmc.BusWidth} {shown : Shown}

theorem InStep.told (inStep : InStep type hostClock v width shown)
    (clocked : v.freq ≠ 0 ∧ ((∀ rca, v.card ≠ .tran rca) → v.freq = 400 * kHz)) :
    Told type hostClock v width shown := by
  obtain ⟨timing, bits, powered⟩ := inStep.timing clocked.1
  exact ⟨inStep.width, inStep.running clocked.1, inStep.divider clocked.1, clocked.2, timing, bits,
    fun needed => inStep.voltage (powered needed)⟩

theorem InStep.setVoltage (inStep : InStep type hostClock v width shown) {voltage : Mmc.Voltage}
    (permitted : voltage = .v180 ∨ v.voltage = none) :
    InStep type hostClock { v with voltage := some voltage } width
      (if voltage = .v120 then shown else { shown with v18 := signal18 type voltage }) := by
  have powered : ∀ {timing}, (needsV18 timing = true → v.voltage = some .v180) →
      needsV18 timing = true → some voltage = some .v180 := by
    intro timing before needed
    rcases permitted with same | none
    · rw [same]
    · rw [none] at before
      cases before needed
  by_cases low : voltage = .v120
  · rw [if_pos low]
    refine ⟨inStep.width, fun high => ?_, inStep.running, inStep.divider, fun clocked => ?_⟩
    · rw [low] at high
      cases high
    · obtain ⟨timing, bits, before⟩ := inStep.timing clocked
      exact ⟨timing, bits, powered before⟩
  · rw [if_neg low]
    refine ⟨inStep.width, fun high => ?_, inStep.running, inStep.divider, fun clocked => ?_⟩
    · cases high
      rfl
    · obtain ⟨timing, bits, before⟩ := inStep.timing clocked
      exact ⟨timing, bits, powered before⟩

theorem InStep.setClock (inStep : InStep type hostClock v width shown) {freq : U32} {timing : Mmc.Timing}
    {strobe : Bool} {shown' : Shown} (matching : freq ≤ 400 * kHz ∨ ∃ mode, Selects mode freq timing)
    (powered : needsV18 timing = true → v.voltage = some .v180)
    (timed : if freq = 0 ∧ type = .usdhc then shown' = { shown with running := false }
      else Timed type hostClock freq timing strobe shown shown') :
    InStep type hostClock { v with freq := freq } width shown' := by
  by_cases off : freq = 0 ∧ type = .usdhc
  · rw [if_pos off] at timed
    have stopped : ¬ freq ≠ 0 := fun running => running off.1
    rw [timed]
    exact ⟨inStep.width, inStep.voltage, fun running => absurd running stopped,
      fun running => absurd running stopped, fun running => absurd running stopped⟩
  · rw [if_neg off] at timed
    refine ⟨fun w same => timed.width.trans (inStep.width w same),
      fun high => timed.v18.trans (inStep.voltage high), fun running => ?_, fun running => ?_,
      fun _ => ⟨timing, ⟨⟨strobe, timed.speed⟩, timed.ddrActive, matching⟩, powered⟩⟩
    · rw [timed.running, decide_eq_true running, Bool.true_or]
    · rw [timed.ddrActive]
      exact timed.divider running

/-- Automatic tuning is no part of what the calls have asked for. -/
theorem InStep.tuned (inStep : InStep type hostClock v width shown) (autoTune : Bool) :
    InStep type hostClock v width { shown with autoTune := autoTune } :=
  ⟨inStep.width, inStep.voltage, inStep.running, inStep.divider, inStep.timing⟩

/-- A command touches neither the clock nor the voltage. -/
theorem InStep.executed (inStep : InStep type hostClock v width shown) (sent : PowerUp.Sent) (ended : Cmd) :
    InStep type hostClock (v.executed sent ended) width shown := by
  unfold PowerUp.View.executed
  split
  · exact ⟨inStep.width, inStep.voltage, inStep.running, inStep.divider, inStep.timing⟩
  · exact ⟨inStep.width, inStep.voltage, inStep.running, inStep.divider, inStep.timing⟩

/-- At the beginning the clock is off and no voltage was set. -/
theorem inStep_start : InStep type hostClock PowerUp.watch.start none shown :=
  ⟨nofun, nofun, fun running => absurd rfl running, fun running => absurd rfl running,
    fun running => absurd rfl running⟩

end InStep

/-! ## The driver follows the calls -/

section Follows

variable (hostClock : U32)

/-- The registers of the port agree with the view and the width. -/
def Agreed (v : PowerUp.View) (width : Option Mmc.BusWidth) (p : Port) : Prop :=
  InStep s.type hostClock v width (p.bus.shown s.type)

/-- A call that does not need an answer. -/
theorem wp_onBus {α : Type} {m : BusM α} {Q : α → Port → Prop} {E : RuntimeError → Port → Prop} {p : Port} :
    wp (onBus m) Q E p ↔
      wp m (fun a b => Q a { p with bus := b }) (fun e b => E e { p with bus := b }) p.bus :=
  wp_zoom _ _ m

/-- The answer changes neither the bus nor the film. -/
theorem wp_withPolls {m : Polls → BusM Unit} {Q : Unit → Port → Prop} {E : RuntimeError → Port → Prop}
    {p : Port} :
    wp (withPolls m) Q E p ↔
      wp (m (p.replies.headD {}).polls)
        (fun a b => Q a { p with bus := b, replies := p.replies.tail })
        (fun e b => E e { p with bus := b, replies := p.replies.tail }) p.bus := by
  unfold withPolls nextReply
  rw [wp_bind, wp_bind, wp_get, wp_bind, wp_modify, wp_pure, wp_onBus]

/-- A call is in step if the registers that it leaves are; the film is not part of the bus. -/
theorem agreed_onBus {m : BusM Unit} {v : PowerUp.View} {width : Option Mmc.BusWidth} {p : Port}
    (spec : wp m (fun _ b => InStep s.type hostClock v width (b.shown s.type)) (fun _ _ => True) p.bus) :
    wp (onBus m) (fun _ p' => s.Agreed hostClock v width p' ∧ p'.filmed = p.filmed)
      (fun _ p' => p'.filmed = p.filmed) p := by
  rw [wp_onBus]
  exact spec.mono (fun _ _ inStep => ⟨inStep, rfl⟩) (fun _ _ _ => rfl)

/-- The same for a call that needs an answer, whatever it is. -/
theorem agreed_withPolls {m : Polls → BusM Unit} {v : PowerUp.View} {width : Option Mmc.BusWidth}
    {p : Port} (spec : ∀ polls,
      wp (m polls) (fun _ b => InStep s.type hostClock v width (b.shown s.type)) (fun _ _ => True) p.bus) :
    wp (withPolls m) (fun _ p' => s.Agreed hostClock v width p' ∧ p'.filmed = p.filmed)
      (fun _ p' => p'.filmed = p.filmed) p := by
  rw [wp_withPolls]
  exact (spec _).mono (fun _ _ inStep => ⟨inStep, rfl⟩) (fun _ _ _ => rfl)

theorem found_shown (status : Regs → U32) (b : Bus) : (b.found status).shown s.type = b.shown s.type :=
  Unmoved.same ⟨rfl, rfl, kept_present { regs := status } b.clocked.hw⟩

/-- What only reads registers. -/
theorem unnoticed_withStatus {α : Type} {m : BusM α}
    (reads : ∀ b, wp m (fun _ b' => b' = b) (fun _ _ => False) b) :
    PowerUp.Unnoticed (s.Agreed hostClock) Port.filmed (withStatus m) := by
  intro v width p agreed
  unfold withStatus nextReply
  rw [wp_bind, wp_bind, wp_get, wp_bind, wp_modify, wp_pure, wp_onBus, wp_bind, wp_modify]
  apply (reads _).imp_ok
  intro _ b same
  rw [same]
  refine ⟨?_, rfl⟩
  unfold Agreed
  dsimp only
  rw [s.found_shown]
  exact agreed

theorem tuningFinished_reads (b : Bus) :
    wp (tuningFinished s.type) (fun _ b' => b' = b) (fun _ _ => False) b := by
  unfold tuningFinished
  cases s.type <;> simp [wp_ite]

theorem cardBusy_reads (b : Bus) : wp (cardBusy s.type) (fun _ b' => b' = b) (fun _ _ => False) b := by
  unfold cardBusy
  cases s.type <;> simp

/-- Whatever is asked of the controller, its registers agree, as long as the calls are permitted. -/
theorem films_driver (caps : Caps) (recvError : Int) (ioPhys ioVirt : U64) :
    PowerUp.Films (s.Agreed hostClock) (Told s.type hostClock) Port.filmed
      (s.driver caps hostClock recvError ioPhys ioVirt).toHost where
  cmdExec := by
    intro c v width p agreed permitted
    have told := agreed.told (permitted c fun _ => 0).2
    show wp (s.film recvError) _ _ _
    unfold film
    rw [wp_bind, wp_modify]
    apply (s.carryOut_shown recvError c _).mono
    · intro _ t post
      obtain ⟨⟨autoTune, same⟩, film⟩ := post
      refine ⟨?_, _, told, film⟩
      unfold Agreed
      rw [same]
      exact (agreed.executed (PowerUp.sent c) t.1).tuned autoTune
    · exact fun _ t film => ⟨_, told, film⟩
  setBusWidth := by
    intro width v w p agreed _
    apply s.agreed_onBus
    apply (setBusWidth_spec s.type width p.bus).imp_ok
    intro _ b same
    rw [same]
    exact ⟨fun _ here => here, agreed.voltage, agreed.running, agreed.divider, agreed.timing⟩
  setClockAndTiming := by
    intro freq timing strobe v width p agreed permits
    apply s.agreed_withPolls
    intro polls
    have matching : freq ≤ 400 * kHz ∨ ∃ mode, Selects mode freq timing :=
      permits.2.1.imp_right fun ⟨mode, _, selects⟩ => ⟨mode, selects⟩
    apply (setClockAndTiming_spec s.type hostClock freq timing strobe polls p.bus).mono
    · exact fun _ b timed => agreed.setClock matching permits.2.2 timed
    · exact fun _ _ _ => trivial
  setVoltage := by
    intro voltage v width p agreed permits
    apply s.agreed_withPolls
    intro polls
    apply (setVoltage_spec s.type voltage polls p.bus).mono
    · intro _ b same
      rw [same]
      exact agreed.setVoltage permits.2.2
    · exact fun _ _ _ => trivial
  delay _ := .pure ()
  tuningFinished := s.unnoticed_withStatus hostClock s.tuningFinished_reads
  resetTuning := by
    intro v width p agreed
    apply s.agreed_withPolls
    intro polls
    apply (resetTuning_spec s.type polls p.bus).mono
    · intro _ b same
      rw [same]
      exact agreed.tuned false
    · exact fun _ _ _ => trivial
  enableAutoTuning := by
    intro v width p agreed
    apply s.agreed_onBus
    apply (enableAutoTuning_spec s.type p.bus).imp_ok
    intro _ b same
    rw [same]
    exact agreed.tuned _
  cardBusy := s.unnoticed_withStatus hostClock s.cardBusy_reads

/-- Whatever controller and card answer, at each command of a scan the clock of the card runs with the best
divider for the frequency that was asked for, 400 kHz while the card is identified; the bits of the timing
go with that frequency, and with signals of 1.8 V if they need them. -/
theorem scan_filmed (caps : Caps) (recvError : Int) (ioPhys ioVirt : U64)
    (disable : PowerUp.DeviceTypeDisable) (queue : CmdQueue) (medium : PowerUp.Medium) (bus : Bus)
    (reset : Reset) (irqs : List Irq) (replies : List Reply) :
    let drv := s.driver caps hostClock recvError ioPhys ioVirt
    let scan : PowerUp.Scan Port :=
      { queue := queue, hw := { bus := bus, reset := reset, irqs := irqs, replies := replies }, medium := medium }
    Filmed (Told s.type hostClock) (PowerUp.calls drv disable scan) (PowerUp.reached drv disable scan).filmed := by
  intro drv scan
  have init : wp drv.init (fun _ p => s.Agreed hostClock PowerUp.watch.start none p ∧ p.filmed = [])
      (fun _ p => p.filmed = []) scan.hw := by
    show wp (get >>= _) _ _ _
    rw [wp_bind, wp_get, wp_onBus]
    exact (wp_any _ _).mono (fun _ _ _ => ⟨inStep_start, rfl⟩) fun _ _ _ => rfl
  exact PowerUp.scan_films drv (s.films_driver hostClock caps recvError ioPhys ioVirt) disable init

end Follows

end Sdhci

end Emmc
