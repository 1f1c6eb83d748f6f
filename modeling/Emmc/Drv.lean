import Emmc.Lib.Throwing
import Emmc.Cmd

/-!
# Host controller drivers

The device drives its controller through `Drv<Hw_drv>`. `HwOps` is what a controller driver
provides: submitting a command, reacting to an interrupt in the command phase and in the data
phase, and fetching the response. From these the base class builds `handleIrq` and the
synchronous `cmdExec`. Waiting for the bus (`cmd_wait_available`) changes nothing and is left out.

* `HwDrv` adds what the device relies on: which commands the driver accepts for submission, for
  which interrupts its handlers do not throw, and that the driver leaves the device's part of the
  command alone (`SameRequest`).
* `handleIrq_spec` and `handleIrq_idle` say what one interrupt does to a command.
-/

namespace Emmc

open Throwing

/-- A driver function working on a command and the state of the controller. -/
abbrev Action (H : Type) := EStateM RuntimeError (Cmd × H)

/-- A controller driver. `H` is the state of the controller, `Irq` what an interrupt finds in its
registers. -/
structure HwOps (H Irq : Type) where
  dmaAdma2 : Bool
  autoCmd12 : Bool
  autoCmd23 : Bool
  bounceBufferSize : Nat
  maxInoutReqSize : Nat
  present : Irq → H → H
  cmdSubmit : Action H Unit
  handleIrqCmd : Action H Unit
  handleIrqData : Action H Unit
  cmdFetchResponse : Action H Unit

variable {H Irq : Type}

namespace HwOps

/-- Run `m` if the command has the given status. -/
def onStatus (status : Status) (m : Action H Unit) : Action H Unit := do
  if (← get).1.status = status then m

/-- The driver part of an interrupt, for the command the controller works on. -/
def handleIrq (hw : HwOps H Irq) : Action H Unit := do
  onStatus .progressCmd hw.handleIrqCmd
  onStatus .progressData hw.handleIrqData
  onStatus .success hw.cmdFetchResponse

/-! ## Synchronous execution -/

/-- State of a synchronous execution: `irqs` are the interrupts that are still to be received. -/
structure Sync (H Irq : Type) where
  cmd : Cmd
  hw : H
  irqs : List Irq

/-- Run a driver function within a synchronous execution. -/
def onSync (m : Action H Unit) : EStateM RuntimeError (Sync H Irq) Unit :=
  zoom (fun s => (s.cmd, s.hw)) (fun t s => { s with cmd := t.1, hw := t.2 }) m

/-- Receive and handle interrupts while the command has the given status. Receiving fails when no
interrupt is left. -/
def waitWhile (hw : HwOps H Irq) (recvError : Int) (phase : Status) (handler : Action H Unit) :
    List Irq → EStateM RuntimeError (Sync H Irq) Unit
  | [] => do
    if (← get).cmd.status = phase then throw ⟨recvError, "Receive IRQ."⟩
  | irq :: irqs => do
    if (← get).cmd.status = phase then
      modify fun s => { s with hw := hw.present irq s.hw, irqs := irqs }
      onSync handler
      waitWhile hw recvError phase handler irqs

def cmdWaitCmdFinished (hw : HwOps H Irq) (recvError : Int) :
    EStateM RuntimeError (Sync H Irq) Unit := do
  hw.waitWhile recvError .progressCmd hw.handleIrqCmd (← get).irqs

def cmdWaitDataFinished (hw : HwOps H Irq) (recvError : Int) :
    EStateM RuntimeError (Sync H Irq) Unit := do
  hw.waitWhile recvError .progressData hw.handleIrqData (← get).irqs

/-- Submit a command and wait until it completed, either successfully or with an error. -/
def cmdExec (hw : HwOps H Irq) (recvError : Int) : EStateM RuntimeError (Sync H Irq) Unit := do
  onSync hw.cmdSubmit
  hw.cmdWaitCmdFinished recvError
  if !(← get).cmd.error then
    hw.cmdWaitDataFinished recvError
    if !(← get).cmd.error then
      if (← get).cmd.cmd &&& Mmc.rspPresent ≠ 0 then
        onSync hw.cmdFetchResponse

end HwOps

/-! ## What the device relies on -/

/-- A command that is in flight or ended, with or without success. -/
def Cmd.Started (c : Cmd) : Prop :=
  c.progress = true ∨ c.status = .success ∨ c.failed = true

/-- How an interrupt leaves a command that was in flight. -/
structure Cmd.AfterIrq (c c' : Cmd) : Prop where
  same : c.SameRequest c'
  started : c.isTuning = false → c'.Started
  noData : c.isTuning = false → c.flags.hasData = false → c.status = .progressCmd →
    c'.status ≠ .progressData ∧ c'.blockcnt = c.blockcnt

/-- A controller driver with the facts the device relies on. -/
structure HwDrv (H Irq : Type) extends HwOps H Irq where
  /-- The command can be submitted as far as its size and its addresses go. -/
  accepts : Cmd → Bool
  /-- The interrupt handlers do not throw. -/
  faultless : Irq → Cmd → Bool
  submit_ok : ∀ c h, c.status = .readyForSubmit → accepts c = true →
    wp cmdSubmit
      (fun _ s => c.SameRequest s.1 ∧ s.1.status = .progressCmd ∧ s.1.blockcnt = c.blockcnt)
      (fun _ _ => False) (c, h)
  submit_refused : ∀ c h, ¬(c.status = .readyForSubmit ∧ accepts c = true) →
    wp cmdSubmit (fun _ _ => False)
      (fun _ s => c.SameRequest s.1 ∧ s.1.status = c.status ∧ s.1.blockcnt = c.blockcnt) (c, h)
  /-- Commands without data are always accepted. -/
  accepts_noData : ∀ c : Cmd, c.cmd ∈ Mmc.inoutCommands → c.flags.hasData = false →
    accepts c = true
  /-- Acceptance of a data command depends on its block list and its size only. -/
  accepts_congr : ∀ c c' : Cmd, c.cmd ∈ Mmc.inoutCommands → c'.cmd ∈ Mmc.inoutCommands →
    c.flags.hasData = true → c'.flags.hasData = true → c.blocks ≠ [] → c'.blocks = c.blocks →
    c'.blockcnt = c.blockcnt → c'.blocksize = c.blocksize → accepts c' = accepts c
  irqCmd : ∀ c h, c.status = .progressCmd →
    wp handleIrqCmd
      (fun _ s => c.SameRequest s.1 ∧ s.1.blockcnt = c.blockcnt ∧
        (c.isTuning = false → s.1.status = .progressCmd ∨ s.1.status = .success ∨
          s.1.failed = true ∨ c.flags.hasData = true ∧ s.1.status = .progressData))
      (fun _ s => c.SameRequest s.1) (c, h)
  irqData : ∀ c h, c.status = .progressData →
    wp handleIrqData
      (fun _ s => c.SameRequest s.1 ∧
        (s.1.status = .progressData ∨ s.1.status = .success ∨ s.1.failed = true))
      (fun _ s => c.SameRequest s.1) (c, h)
  fetch : ∀ c h,
    wp cmdFetchResponse
      (fun _ s => c.SameRequest s.1 ∧ s.1.status = c.status ∧ s.1.blockcnt = c.blockcnt)
      (fun _ _ => False) (c, h)
  irq_faultless : ∀ irq c h, c.progress = true → faultless irq c = true →
    returns toHwOps.handleIrq (c, present irq h)

namespace HwDrv

variable (drv : HwDrv H Irq)

theorem wp_onStatus {status : Status} {m : Action H Unit} {Q : Unit → Cmd × H → Prop}
    {E : RuntimeError → Cmd × H → Prop} {s : Cmd × H} :
    wp (HwOps.onStatus status m) Q E s ↔
      (s.1.status = status → wp m Q E s) ∧ (s.1.status ≠ status → Q () s) := by
  simp only [HwOps.onStatus, wp_bind, wp_get, wp_ite, wp_pure, ne_eq]

/-- An interrupt for a command that is not in flight at most fetches the response again. -/
theorem handleIrq_idle {c : Cmd} (idle : c.progress = false) (h : H) :
    wp drv.handleIrq
      (fun _ s => c.SameRequest s.1 ∧ s.1.status = c.status ∧ s.1.blockcnt = c.blockcnt)
      (fun _ _ => False) (c, h) := by
  have notCmd : c.status ≠ .progressCmd := by
    intro status
    simp [Cmd.progress, status] at idle
  have notData : c.status ≠ .progressData := by
    intro status
    simp [Cmd.progress, status] at idle
  simp only [HwOps.handleIrq, wp_bind]
  refine wp_onStatus.mpr ⟨fun cmd => absurd cmd notCmd, fun _ => ?_⟩
  refine wp_onStatus.mpr ⟨fun data => absurd data notData, fun _ => ?_⟩
  exact wp_onStatus.mpr
    ⟨fun _ => drv.fetch c h, fun _ => ⟨Cmd.SameRequest.refl c, rfl, rfl⟩⟩

/-- The final fetch leaves status and block count alone. -/
theorem onSuccess_spec (c : Cmd) (h : H) :
    wp (HwOps.onStatus .success drv.cmdFetchResponse)
      (fun _ s => c.SameRequest s.1 ∧ s.1.status = c.status ∧ s.1.blockcnt = c.blockcnt)
      (fun _ _ => False) (c, h) :=
  wp_onStatus.mpr ⟨fun _ => drv.fetch c h, fun _ => ⟨Cmd.SameRequest.refl c, rfl, rfl⟩⟩

/-- The data phase of an interrupt. -/
theorem onData_spec (c : Cmd) (h : H) :
    wp (HwOps.onStatus .progressData drv.handleIrqData)
      (fun _ s => c.SameRequest s.1 ∧ (c.Started → s.1.Started) ∧
        (c.status ≠ .progressData → s.1.status = c.status ∧ s.1.blockcnt = c.blockcnt))
      (fun _ s => c.SameRequest s.1) (c, h) := by
  refine wp_onStatus.mpr ⟨fun data => ?_, fun other => ?_⟩
  · apply (drv.irqData c h data).imp
    intro _ s outcome
    rcases outcome with ⟨same, status⟩
    refine ⟨same, fun _ => ?_, fun other => absurd data other⟩
    rcases status with status | status | status
    · exact Or.inl ((Cmd.progress_iff _).mpr (Or.inr status))
    · exact Or.inr (Or.inl status)
    · exact Or.inr (Or.inr status)
  · exact ⟨Cmd.SameRequest.refl c, fun started => started, fun _ => ⟨rfl, rfl⟩⟩

/-- The command phase of an interrupt. -/
theorem onCmd_spec {c : Cmd} (h : H) (busy : c.progress = true) :
    wp (HwOps.onStatus .progressCmd drv.handleIrqCmd)
      (fun _ s => c.SameRequest s.1 ∧ (c.isTuning = false → s.1.Started) ∧
        (c.isTuning = false → c.flags.hasData = false → c.status = .progressCmd →
          s.1.status ≠ .progressData ∧ s.1.blockcnt = c.blockcnt))
      (fun _ s => c.SameRequest s.1) (c, h) := by
  refine wp_onStatus.mpr ⟨fun cmd => ?_, fun other => ?_⟩
  · apply (drv.irqCmd c h cmd).imp
    intro _ s outcome
    rcases outcome with ⟨same, blockcnt, outcome⟩
    refine ⟨same, fun noTuning => ?_, fun noTuning noData _ => ⟨fun data => ?_, blockcnt⟩⟩
    · rcases outcome noTuning with status | status | status | both
      · exact Or.inl ((Cmd.progress_iff _).mpr (Or.inl status))
      · exact Or.inr (Or.inl status)
      · exact Or.inr (Or.inr status)
      · exact Or.inl ((Cmd.progress_iff _).mpr (Or.inr both.2))
    · rcases outcome noTuning with status | status | status | both
      · cases data.symm.trans status
      · cases data.symm.trans status
      · simp [Cmd.failed, data, Status.toInt] at status
      · rw [noData] at both
        exact Bool.false_ne_true both.1
  · exact ⟨Cmd.SameRequest.refl c, fun _ => Or.inl busy, fun _ _ cmd => absurd cmd other⟩

/-- What an interrupt does to a command in flight. -/
theorem handleIrq_spec {c : Cmd} (h : H) (busy : c.progress = true) :
    wp drv.handleIrq (fun _ s => c.AfterIrq s.1) (fun _ s => c.SameRequest s.1) (c, h) := by
  simp only [HwOps.handleIrq, wp_bind]
  apply (drv.onCmd_spec h busy).imp
  intro _ s₁ outcome₁
  rcases outcome₁ with ⟨same₁, started₁, noData₁⟩
  refine (drv.onData_spec s₁.1 s₁.2).mono ?_ (fun _ _ same => same₁.trans same)
  intro _ s₂ outcome₂
  rcases outcome₂ with ⟨same₂, started₂, frame₂⟩
  apply (drv.onSuccess_spec s₂.1 s₂.2).imp_ok
  intro _ s₃ outcome₃
  rcases outcome₃ with ⟨same₃, status₃, blockcnt₃⟩
  refine ⟨same₁.trans (same₂.trans same₃), fun noTuning => ?_, fun noTuning noData cmd => ?_⟩
  · have started := started₂ (started₁ noTuning)
    simpa only [Cmd.Started, Cmd.progress, Cmd.failed, status₃] using started
  · obtain ⟨notData, blockcnt₁⟩ := noData₁ noTuning noData cmd
    obtain ⟨status₂, blockcnt₂⟩ := frame₂ notData
    exact ⟨by rw [status₃, status₂]; exact notData, by rw [blockcnt₃, blockcnt₂, blockcnt₁]⟩

/-- The handlers of an interrupt only throw at a fault. -/
theorem handleIrq_faultless {c : Cmd} (h : H) {irq : Irq} (busy : c.progress = true)
    (noFault : drv.faultless irq c = true) :
    wp drv.handleIrq (fun _ s => c.AfterIrq s.1) (fun _ _ => False) (c, drv.present irq h) :=
  ((drv.handleIrq_spec _ busy).and (drv.irq_faultless irq c h busy noFault)).mono
    (fun _ _ both => both.1) (fun _ _ both => both.2)

/-- A submission succeeds exactly for a command that is ready and acceptable. -/
theorem submit_spec (c : Cmd) (h : H) :
    wp drv.cmdSubmit
      (fun _ s => (c.status = .readyForSubmit ∧ drv.accepts c = true) ∧ c.SameRequest s.1 ∧
        s.1.status = .progressCmd ∧ s.1.blockcnt = c.blockcnt)
      (fun _ s => ¬(c.status = .readyForSubmit ∧ drv.accepts c = true) ∧ c.SameRequest s.1 ∧
        s.1.status = c.status ∧ s.1.blockcnt = c.blockcnt) (c, h) := by
  by_cases ok : c.status = .readyForSubmit ∧ drv.accepts c = true
  · exact (drv.submit_ok c h ok.1 ok.2).mono (fun _ _ spec => ⟨ok, spec⟩)
      (fun _ _ absurd => absurd.elim)
  · exact (drv.submit_refused c h ok).mono (fun _ _ absurd => absurd.elim)
      (fun _ _ spec => ⟨ok, spec⟩)

/-! ## Synchronous execution leaves the request alone -/

theorem onSync_same {m : Action H Unit} {s : HwOps.Sync H Irq}
    (spec : wp m (fun _ t => s.cmd.SameRequest t.1) (fun _ t => s.cmd.SameRequest t.1)
      (s.cmd, s.hw)) :
    wp (HwOps.onSync m) (fun _ s' => s.cmd.SameRequest s'.cmd)
      (fun _ s' => s.cmd.SameRequest s'.cmd) s := by
  simp only [HwOps.onSync, wp_zoom]
  exact spec

/-- Waiting in one phase, given what the handler of that phase does. -/
theorem waitWhile_same {recvError : Int} {phase : Status} {handler : Action H Unit}
    (spec : ∀ (c : Cmd) (h : H), c.status = phase →
      wp handler (fun _ t => c.SameRequest t.1) (fun _ t => c.SameRequest t.1) (c, h))
    (irqs : List Irq) (s : HwOps.Sync H Irq) :
    wp (drv.waitWhile recvError phase handler irqs) (fun _ s' => s.cmd.SameRequest s'.cmd)
      (fun _ s' => s.cmd.SameRequest s'.cmd) s := by
  induction irqs generalizing s with
  | nil =>
    simp only [HwOps.waitWhile, wp_bind, wp_get, wp_ite, wp_throw, wp_pure]
    exact ⟨fun _ => Cmd.SameRequest.refl _, fun _ => Cmd.SameRequest.refl _⟩
  | cons irq irqs ih =>
    simp only [HwOps.waitWhile, wp_bind, wp_get, wp_ite, wp_modify, wp_pure]
    refine ⟨fun inPhase => ?_, fun _ => Cmd.SameRequest.refl _⟩
    have handled := spec s.cmd (drv.present irq s.hw) inPhase
    refine (onSync_same (s := ⟨s.cmd, drv.present irq s.hw, irqs⟩) handled).mono ?_
      (fun _ _ same => same)
    intro _ s₁ same
    exact (ih s₁).mono (fun _ _ same' => same.trans same') (fun _ _ same' => same.trans same')

theorem cmdExec_same (recvError : Int) (s : HwOps.Sync H Irq) :
    wp (drv.cmdExec recvError) (fun _ s' => s.cmd.SameRequest s'.cmd)
      (fun _ s' => s.cmd.SameRequest s'.cmd) s := by
  have submit : ∀ s : HwOps.Sync H Irq, wp (HwOps.onSync drv.cmdSubmit)
      (fun _ s' => s.cmd.SameRequest s'.cmd) (fun _ s' => s.cmd.SameRequest s'.cmd) s :=
    fun s => onSync_same ((drv.submit_spec s.cmd s.hw).mono (fun _ _ post => post.2.1)
      (fun _ _ post => post.2.1))
  have waitCmd : ∀ s : HwOps.Sync H Irq, wp (drv.cmdWaitCmdFinished recvError)
      (fun _ s' => s.cmd.SameRequest s'.cmd) (fun _ s' => s.cmd.SameRequest s'.cmd) s := by
    intro s
    simp only [HwOps.cmdWaitCmdFinished, wp_bind, wp_get]
    exact drv.waitWhile_same (fun c h phase => (drv.irqCmd c h phase).mono
      (fun _ _ post => post.1) (fun _ _ same => same)) s.irqs s
  have waitData : ∀ s : HwOps.Sync H Irq, wp (drv.cmdWaitDataFinished recvError)
      (fun _ s' => s.cmd.SameRequest s'.cmd) (fun _ s' => s.cmd.SameRequest s'.cmd) s := by
    intro s
    simp only [HwOps.cmdWaitDataFinished, wp_bind, wp_get]
    exact drv.waitWhile_same (fun c h phase => (drv.irqData c h phase).mono
      (fun _ _ post => post.1) (fun _ _ same => same)) s.irqs s
  have fetch : ∀ s : HwOps.Sync H Irq, wp (HwOps.onSync drv.cmdFetchResponse)
      (fun _ s' => s.cmd.SameRequest s'.cmd) (fun _ s' => s.cmd.SameRequest s'.cmd) s :=
    fun s => onSync_same ((drv.fetch s.cmd s.hw).mono (fun _ _ post => post.1)
      (fun _ _ absurd => absurd.elim))
  simp only [HwOps.cmdExec, wp_bind, wp_get, wp_ite, wp_pure]
  apply (submit s).imp
  intro _ s₁ same₁
  refine (waitCmd s₁).mono ?_ (fun _ _ same => same₁.trans same)
  intro _ s₂ same₂
  refine ⟨fun _ => (waitData s₂).mono ?_ (fun _ _ same => (same₁.trans same₂).trans same),
    fun _ => same₁.trans same₂⟩
  intro _ s₃ same₃
  have same := (same₁.trans same₂).trans same₃
  exact ⟨fun _ => ⟨fun _ => (fetch s₃).mono (fun _ _ same' => same.trans same')
    (fun _ _ same' => same.trans same'), fun _ => same⟩, fun _ => same⟩

end HwDrv

end Emmc
