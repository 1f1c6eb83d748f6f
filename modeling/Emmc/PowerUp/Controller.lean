import Emmc.Drv
import Emmc.PowerUp.Scan

/-!
# A controller driver during the initialisation

The initialisation asks two things of the execution of a command: that the command is not in flight
afterwards, and that the device's part of it is left alone. Every controller driver has both.

* `HwOps.cmdExec_decides`: waiting in a phase ends in another status, and at last in neither phase.
* `HwOps.KeepsAll.cmdExec`: what the functions of a driver keep true, the execution of a command keeps true.
* `HwDrv.cmdExec_decides`: a command that was executed has succeeded or failed.
* `HwDrv.driver`: the driver of the initialisation on top of a controller driver.
-/

namespace Emmc

open Throwing

variable {H Irq ρ : Type}

/-- The controller, the interrupts that the initialisation is going to receive, and what else it drives. -/
structure Board (H Irq ρ : Type) where
  hw : H
  irqs : List Irq := []
  rest : ρ

namespace HwOps

theorem wp_onSync {m : Action H Unit} {Q : Unit → Sync H Irq → Prop} {E : RuntimeError → Sync H Irq → Prop}
    {s : Sync H Irq} :
    wp (onSync m) Q E s ↔
      wp m (fun a t => Q a { s with cmd := t.1, hw := t.2 })
        (fun e t => E e { s with cmd := t.1, hw := t.2 }) (s.cmd, s.hw) :=
  wp_zoom _ _ m

variable (hw : HwOps H Irq)

/-- What the handler keeps of a command in the phase holds when the phase is left. -/
theorem waitWhile_left {recvError : Int} {phase : Status} {handler : Action H Unit} {inv : Cmd → Prop}
    (kept : ∀ c h, c.status = phase → inv c → wp handler (fun _ t => inv t.1) (fun _ _ => True) (c, h))
    (irqs : List Irq) {s : Sync H Irq} (here : inv s.cmd) :
    wp (hw.waitWhile recvError phase handler irqs)
      (fun _ s' => inv s'.cmd ∧ s'.cmd.status ≠ phase) (fun _ _ => True) s := by
  induction irqs generalizing s with
  | nil =>
    unfold waitWhile
    rw [wp_bind, wp_get, wp_ite]
    exact ⟨fun _ => trivial, fun left => ⟨here, left⟩⟩
  | cons irq irqs ih =>
    unfold waitWhile
    rw [wp_bind, wp_get, wp_ite]
    refine ⟨fun inPhase => ?_, fun left => ⟨here, left⟩⟩
    rw [wp_bind, wp_modify, wp_bind, wp_onSync]
    exact (kept s.cmd _ inPhase here).imp fun _ _ here' => ih here'

theorem error_of_failed {c : Cmd} (failed : c.failed = true) : c.error = true := by
  rw [Cmd.error_iff]
  unfold Cmd.failed at failed
  rw [decide_eq_true_eq] at failed
  omega

/-- What a command that has started has come to when it is in neither phase. -/
theorem decided_of_started {c : Cmd} (started : c.Started) (notCmd : c.status ≠ .progressCmd)
    (notData : c.status ≠ .progressData) : c.status = .success ∨ c.error = true := by
  rcases started with busy | success | failed
  · rcases (Cmd.progress_iff c).mp busy with status | status
    · exact absurd status notCmd
    · exact absurd status notData
  · exact Or.inl success
  · exact Or.inr (error_of_failed failed)

/-- What the functions of a driver do to a command that has started. In the data phase, it does not return
to the command phase. -/
structure Works (works : Cmd → Prop) : Prop where
  started : ∀ c, works c → c.Started
  irqCmd : ∀ c h, c.status = .progressCmd → works c →
    wp hw.handleIrqCmd (fun _ t => works t.1) (fun _ _ => True) (c, h)
  irqData : ∀ c h, c.status = .progressData → works c →
    wp hw.handleIrqData (fun _ t => works t.1 ∧ t.1.status ≠ .progressCmd) (fun _ _ => True) (c, h)
  fetch : ∀ c h, wp hw.cmdFetchResponse (fun _ t => t.1.status = c.status) (fun _ _ => True) (c, h)

/-- Unless the execution throws, a command that was submitted is not in flight any more. -/
theorem cmdExec_decides {works : Cmd → Prop} (driver : hw.Works works) (recvError : Int) {s : Sync H Irq}
    (submitted : wp hw.cmdSubmit (fun _ t => works t.1) (fun _ _ => True) (s.cmd, s.hw)) :
    wp (hw.cmdExec recvError) (fun _ s' => s'.cmd.status = .success ∨ s'.cmd.error = true)
      (fun _ _ => True) s := by
  unfold cmdExec
  rw [wp_bind, wp_onSync]
  apply submitted.imp
  intro _ t working
  have command : wp (hw.cmdWaitCmdFinished recvError)
      (fun _ s' => works s'.cmd ∧ s'.cmd.status ≠ .progressCmd) (fun _ _ => True)
      { s with cmd := t.1, hw := t.2 } := by
    unfold cmdWaitCmdFinished
    rw [wp_bind, wp_get]
    exact hw.waitWhile_left (fun c h phase here => driver.irqCmd c h phase here) s.irqs working
  apply command.bind
  intro _ s₂ working₂
  rw [wp_bind, wp_get, wp_ite]
  refine ⟨fun _ => ?_, fun failed => Or.inr (by simpa using failed)⟩
  have data : wp (hw.cmdWaitDataFinished recvError)
      (fun _ s' => (works s'.cmd ∧ s'.cmd.status ≠ .progressCmd) ∧ s'.cmd.status ≠ .progressData)
      (fun _ _ => True) s₂ := by
    unfold cmdWaitDataFinished
    rw [wp_bind, wp_get]
    have kept : ∀ c h, c.status = .progressData → works c ∧ c.status ≠ .progressCmd →
        wp hw.handleIrqData (fun _ t => works t.1 ∧ t.1.status ≠ .progressCmd) (fun _ _ => True) (c, h) :=
      fun c h phase here => driver.irqData c h phase here.1
    exact hw.waitWhile_left kept s₂.irqs working₂
  apply data.bind
  intro _ s₃ ended
  have decided := decided_of_started (driver.started _ ended.1.1) ended.1.2 ended.2
  rw [wp_bind, wp_get, wp_ite]
  refine ⟨fun _ => ?_, fun failed => Or.inr (by simpa using failed)⟩
  rw [wp_bind, wp_get, wp_ite]
  refine ⟨fun _ => ?_, fun _ => decided⟩
  rw [wp_onSync]
  apply (driver.fetch s₃.cmd s₃.hw).imp
  intro _ t same
  unfold Cmd.error at decided ⊢
  rwa [same]

/-- An invariant of command and controller that the functions of the driver keep. -/
structure KeepsAll (inv : Cmd × H → Prop) : Prop where
  submit : Keeps inv hw.cmdSubmit
  present : ∀ irq c h, inv (c, h) → inv (c, hw.present irq h)
  irqCmd : Keeps inv hw.handleIrqCmd
  irqData : Keeps inv hw.handleIrqData
  fetch : Keeps inv hw.cmdFetchResponse

section Keeps

variable {hw} {inv : Cmd × H → Prop}

/-- The invariant during the execution of a command. -/
def Held (inv : Cmd × H → Prop) (s : Sync H Irq) : Prop := inv (s.cmd, s.hw)

theorem keeps_onSync {m : Action H Unit} (keeps : Keeps inv m) :
    Keeps (Held inv) (onSync m : EStateM RuntimeError (Sync H Irq) Unit) := by
  intro s here
  rw [wp_onSync]
  exact keeps (s.cmd, s.hw) here

theorem KeepsAll.waitWhile (driver : hw.KeepsAll inv) (recvError : Int) (phase : Status)
    {handler : Action H Unit} (handles : Keeps inv handler) (irqs : List Irq) :
    Keeps (Held inv) (hw.waitWhile recvError phase handler irqs) := by
  induction irqs with
  | nil =>
    apply keeps_get_bind
    intro s here
    exact Keeps.ite (keeps_throw _) (keeps_pure _) s here
  | cons irq irqs ih =>
    apply keeps_get_bind
    intro s here
    rw [wp_ite]
    refine ⟨fun _ => ?_, fun _ => here⟩
    rw [wp_bind, wp_modify]
    exact (keeps_onSync handles).bind (fun _ => ih) _ (driver.present irq s.cmd s.hw here)

theorem KeepsAll.cmdExec (driver : hw.KeepsAll inv) (recvError : Int) :
    Keeps (Held inv) (hw.cmdExec recvError) := by
  have waits : ∀ (phase : Status) {handler : Action H Unit}, Keeps inv handler →
      Keeps (Held inv) (do hw.waitWhile recvError phase handler (← get).irqs) := by
    intro phase handler handles
    apply keeps_get_bind
    intro s here
    exact driver.waitWhile recvError phase handles s.irqs s here
  have fetches : Keeps (Held inv) (do
      if (← get).cmd.cmd &&& Mmc.rspPresent ≠ 0 then
        onSync hw.cmdFetchResponse : EStateM RuntimeError (Sync H Irq) Unit) := by
    apply keeps_get_bind
    intro s here
    exact Keeps.ite (keeps_onSync driver.fetch) (keeps_pure _) s here
  apply (keeps_onSync driver.submit).bind
  intro _
  apply (waits .progressCmd driver.irqCmd).bind
  intro _
  apply keeps_get_bind
  intro s here
  rw [wp_ite]
  refine ⟨fun _ => ?_, fun _ => here⟩
  apply (waits .progressData driver.irqData).bind _ s here
  intro _
  apply keeps_get_bind
  intro s here
  rw [wp_ite]
  exact ⟨fun _ => fetches s here, fun _ => here⟩

end Keeps

end HwOps

namespace HwDrv

variable (drv : HwDrv H Irq)

/-- A command that the controller works on has started and is not a tuning command. -/
structure Works (c : Cmd) : Prop where
  noTuning : c.isTuning = false
  started : c.Started

theorem Works.of_same {c c' : Cmd} (works : Works c) (same : c.SameRequest c') (started : c'.Started) :
    Works c' := by
  refine ⟨?_, started⟩
  have tuning := works.noTuning
  unfold Cmd.isTuning at tuning ⊢
  rwa [same.cmd]

theorem irqCmd_works {c : Cmd} (h : H) (phase : c.status = .progressCmd) (works : Works c) :
    wp drv.handleIrqCmd (fun _ t => Works t.1) (fun _ _ => True) (c, h) := by
  apply (drv.irqCmd c h phase).mono
  · intro _ t post
    obtain ⟨same, -, outcome⟩ := post
    apply works.of_same same
    rcases outcome works.noTuning with status | status | failed | ⟨-, status⟩
    · exact Or.inl ((Cmd.progress_iff _).mpr (Or.inl status))
    · exact Or.inr (Or.inl status)
    · exact Or.inr (Or.inr failed)
    · exact Or.inl ((Cmd.progress_iff _).mpr (Or.inr status))
  · exact fun _ _ _ => trivial

/-- In the data phase, a command does not return to the command phase. -/
theorem irqData_works {c : Cmd} (h : H) (phase : c.status = .progressData)
    (works : Works c) :
    wp drv.handleIrqData (fun _ t => Works t.1 ∧ t.1.status ≠ .progressCmd) (fun _ _ => True) (c, h) := by
  apply (drv.irqData c h phase).mono
  · intro _ t post
    obtain ⟨same, outcome⟩ := post
    rcases outcome with status | status | failed
    · refine ⟨works.of_same same (Or.inl ((Cmd.progress_iff _).mpr (Or.inr status))), ?_⟩
      rw [status]
      decide
    · refine ⟨works.of_same same (Or.inr (Or.inl status)), ?_⟩
      rw [status]
      decide
    · refine ⟨works.of_same same (Or.inr (Or.inr failed)), fun status => ?_⟩
      simp [Cmd.failed, status, Status.toInt] at failed
  · exact fun _ _ _ => trivial

/-- Unless the execution throws, the command is not in flight any more. -/
theorem cmdExec_decides (recvError : Int) (s : HwOps.Sync H Irq) (noTuning : s.cmd.isTuning = false) :
    wp (drv.cmdExec recvError) (fun _ s' => s'.cmd.status = .success ∨ s'.cmd.error = true)
      (fun _ _ => True) s := by
  have driver : drv.toHwOps.Works Works :=
    { started := fun _ works => works.started
      irqCmd := fun _ h phase works => drv.irqCmd_works h phase works
      irqData := fun _ h phase works => drv.irqData_works h phase works
      fetch := fun c h => (drv.fetch c h).imp_ok fun _ _ post => post.2.1 }
  apply drv.toHwOps.cmdExec_decides driver recvError
  apply (drv.submit_spec s.cmd s.hw).mono
  · intro _ t post
    obtain ⟨-, same, status, -⟩ := post
    refine ⟨?_, Or.inl ((Cmd.progress_iff _).mpr (Or.inl status))⟩
    unfold Cmd.isTuning at noTuning ⊢
    rwa [same.cmd]
  · exact fun _ _ _ => trivial

/-! ## The driver of the initialisation -/

/-- Execute a command with the interrupts to come. -/
def execute (recvError : Int) : Action (Board H Irq ρ) Unit :=
  zoom (fun t => { cmd := t.1, hw := t.2.hw, irqs := t.2.irqs })
    (fun s t => (s.cmd, { t.2 with hw := s.hw, irqs := s.irqs })) (drv.cmdExec recvError)

/-- Commands are executed by the controller driver, everything else is that of `setup`. -/
def driver (recvError : Int) (setup : PowerUp.Driver (Board H Irq ρ)) :
    PowerUp.Driver (Board H Irq ρ) :=
  { setup with
    cmdExec := drv.execute recvError
    decides := by
      intro c b noTuning
      unfold execute
      rw [wp_zoom]
      exact drv.cmdExec_decides recvError ⟨c, b.hw, b.irqs⟩ noTuning
    sparesRequest := by
      intro c b
      unfold execute
      rw [wp_zoom]
      exact drv.cmdExec_same recvError ⟨c, b.hw, b.irqs⟩ }

/-! ## Executed commands -/

theorem waitWhile_irqs {recvError : Int} {phase : Status} {handler : Action H Unit} (irqs : List Irq)
    {s : HwOps.Sync H Irq} (all : s.irqs = irqs) :
    wp (drv.waitWhile recvError phase handler irqs) (fun _ s' => s'.irqs <:+ irqs)
      (fun _ s' => s'.irqs <:+ irqs) s := by
  induction irqs generalizing s with
  | nil =>
    unfold HwOps.waitWhile
    rw [wp_bind, wp_get, wp_ite]
    have none : s.irqs <:+ [] := by rw [all]
    exact ⟨fun _ => none, fun _ => none⟩
  | cons irq irqs ih =>
    unfold HwOps.waitWhile
    rw [wp_bind, wp_get, wp_ite]
    have whole : s.irqs <:+ irq :: irqs := by rw [all]
    refine ⟨fun _ => ?_, fun _ => whole⟩
    have longer : ∀ {s' : HwOps.Sync H Irq}, s'.irqs <:+ irqs → s'.irqs <:+ irq :: irqs :=
      fun suffix => suffix.trans (List.suffix_cons irq irqs)
    rw [wp_bind, wp_modify, wp_bind, HwOps.wp_onSync]
    apply (wp_any handler _).mono
    · intro _ t _
      exact (ih rfl).mono (fun _ _ suffix => longer suffix) fun _ _ suffix => longer suffix
    · exact fun _ _ _ => List.suffix_cons irq irqs

/-- Interrupts are received from the front of the list. -/
theorem cmdExec_irqs (recvError : Int) (s : HwOps.Sync H Irq) :
    wp (drv.cmdExec recvError) (fun _ s' => s'.irqs <:+ s.irqs) (fun _ s' => s'.irqs <:+ s.irqs) s := by
  have action : ∀ (m : Action H Unit) (s : HwOps.Sync H Irq),
      wp (HwOps.onSync m) (fun _ s' => s'.irqs = s.irqs) (fun _ s' => s'.irqs = s.irqs) s := by
    intro m s
    rw [HwOps.wp_onSync]
    exact (wp_any m _).mono (fun _ _ _ => rfl) fun _ _ _ => rfl
  unfold HwOps.cmdExec
  rw [wp_bind]
  apply (action _ s).mono _ fun _ _ same => by rw [same]
  intro _ s₁ same
  unfold HwOps.cmdWaitCmdFinished HwOps.cmdWaitDataFinished
  rw [← same, wp_bind, wp_bind, wp_get]
  apply (drv.waitWhile_irqs s₁.irqs rfl).mono _ fun _ _ suffix => suffix
  intro _ s₂ suffix
  rw [wp_bind, wp_get, wp_ite]
  refine ⟨fun _ => ?_, fun _ => suffix⟩
  rw [wp_bind, wp_bind, wp_get]
  apply (drv.waitWhile_irqs s₂.irqs rfl).mono _ fun _ _ suffix' => suffix'.trans suffix
  intro _ s₃ suffix'
  rw [wp_bind, wp_get, wp_ite]
  refine ⟨fun _ => ?_, fun _ => suffix'.trans suffix⟩
  rw [wp_bind, wp_get, wp_ite]
  refine ⟨fun _ => ?_, fun _ => suffix'.trans suffix⟩
  exact (action _ s₃).mono (fun _ _ same' => by rw [same']; exact suffix'.trans suffix)
    fun _ _ same' => by rw [same']; exact suffix'.trans suffix

/-- However a command is executed: unless something is thrown it is not in flight any more, the device's
part of it is as it was, and the interrupts it did not need are still to come. -/
theorem executed_command (recvError : Int) (c : Cmd) (b : Board H Irq ρ) :
    wp (drv.execute recvError)
      (fun _ t => (c.isTuning = false → t.1.status = .success ∨ t.1.error = true) ∧
        c.SameRequest t.1 ∧ t.2.irqs <:+ b.irqs ∧ t.2.rest = b.rest)
      (fun _ t => c.SameRequest t.1 ∧ t.2.irqs <:+ b.irqs ∧ t.2.rest = b.rest) (c, b) := by
  unfold execute
  rw [wp_zoom]
  have decides : wp (drv.cmdExec recvError)
      (fun _ s => c.isTuning = false → s.cmd.status = .success ∨ s.cmd.error = true) (fun _ _ => True)
      ⟨c, b.hw, b.irqs⟩ := by
    cases tuning : c.isTuning with
    | true => exact (wp_any _ _).mono (fun _ _ _ => nofun) fun _ _ _ => trivial
    | false =>
      exact (drv.cmdExec_decides recvError ⟨c, b.hw, b.irqs⟩ tuning).imp fun _ _ decided _ => decided
  have same := drv.cmdExec_same recvError ⟨c, b.hw, b.irqs⟩
  have irqs := drv.cmdExec_irqs recvError ⟨c, b.hw, b.irqs⟩
  exact ((decides.and same).and irqs).mono (fun _ _ post => ⟨post.1.1, post.1.2, post.2, rfl⟩)
    fun _ _ post => ⟨post.1.2, post.2, rfl⟩

end HwDrv

end Emmc
