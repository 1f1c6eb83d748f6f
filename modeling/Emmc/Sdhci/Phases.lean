import Emmc.Sdhci.Capacity

/-!
# The phases of a data command

Interrupt after interrupt, a data command goes from its command phase to its data phase and ends with
a success or an error. One interrupt may take it through both phases.

* `interrupt`: one call of `handle_irq()`; an exception leaves the state it had reached.
* `statusAfter is c`: the status after an interrupt with the status word `is`, as a function.
* `interrupt_spec`: this is what the code does, whether its handlers return or throw.
* `Timely`: a success has been signalled, an error is noticed, and both are final.
* `success_not_premature`: every run from a submitted command is timely.
-/

namespace Emmc

open Throwing

namespace Sdhci

variable (s : Sdhci)

/-- One interrupt for the command. -/
def interrupt (irq : Irq) (t : Cmd × Hw) : Cmd × Hw :=
  after s.hwOps.handleIrq (t.1, present irq t.2)

/-- The status behind the data phase. -/
def dataStatus (is : U32) : Status :=
  if RegIntStatus.dataError is then .dataError
  else if RegIntStatus.tc.test is then .success
  else .progressData

/-- The status after an interrupt, for other than tuning commands. -/
def statusAfter (is : U32) (c : Cmd) : Status :=
  if c.status = .progressCmd then
    if nextStatus is c = .progressData then dataStatus is else nextStatus is c
  else if c.status = .progressData then dataStatus is
  else c.status

/-! ## What the code does -/

theorem Untouched.reaches {c : Cmd} {status : Status} {t t' : Cmd × Hw} (untouched : Untouched t t')
    (reaches : c.Reaches status t.1) : c.Reaches status t'.1 := by
  rw [untouched.cmd]
  exact reaches

theorem dispatchData_status {c : Cmd} (h : Hw) (is : U32) (phase : c.status = .progressData) :
    wp (s.dispatchData is) (fun _ t => c.Reaches (dataStatus is) t.1)
      (fun _ t => c.Reaches (dataStatus is) t.1 ∧ t.1.error = false) (c, h) := by
  have same : ∀ t : Cmd × Hw, Untouched (c, h) t → c.Reaches .progressData t.1 := by
    intro t untouched
    rw [untouched.cmd]
    exact ⟨Cmd.SameRequest.refl c, phase⟩
  rw [dispatchData, dataStatus, wp_bind, wp_get, wp_ite]
  refine ⟨fun bad => ?_, fun fine => ?_⟩
  · rw [if_pos bad]
    exact c.reaches_status .dataError
  rw [if_neg fine, wp_ite]
  refine ⟨fun complete => ?_, fun incomplete => ?_⟩
  · rw [if_pos complete]
    exact c.reaches_status .success
  rw [if_neg incomplete, wp_ite]
  refine ⟨fun _ => ?_, fun _ => ?_⟩
  · rw [wp_bind]
    refine ((steady_readReg .blkAtt).onHw (c, h)).mono (fun blkAtt t read => ?_) (fun _ _ e => e.elim)
    rw [wp_ite]
    refine ⟨fun _ => ?_, fun _ => same t read⟩
    rw [wp_ite]
    refine ⟨fun _ => ⟨same t read, ?_⟩, fun _ => ?_⟩
    · rw [read.cmd, Cmd.error, phase]
      rfl
    · rw [wp_bind]
      have started := same t read
      exact ⟨started.1.trans (by constructor <;> rfl), started.2⟩
  rw [wp_ite]
  refine ⟨fun _ => ?_, fun _ => ?_⟩
  · rw [wp_bind]
    exact ((s.steady_readWords _ _).onHw (c, h)).mono (fun _ t read => same t read)
      (fun _ _ e => e.elim)
  rw [wp_ite]
  refine ⟨fun _ => ?_, fun _ => same _ (untouched_refl _)⟩
  rw [wp_bind]
  exact ((s.steady_writeWords _ _).onHw (c, h)).mono (fun _ t written => same t written)
    (fun _ _ e => e.elim)

/-- The data phase, whether its handler returns or throws. -/
theorem irqData_status {c : Cmd} (h : Hw) (phase : c.status = .progressData) :
    wp s.irqData (fun _ t => c.Reaches (dataStatus h.is) t.1)
      (fun _ t => c.Reaches (dataStatus h.is) t.1) (c, h) := by
  rw [irqData, wp_bind, wp_get, handleIrqData, wp_bind]
  refine (s.dispatchData_status h h.is phase).mono (fun isAck t reaches => ?_)
    (fun _ _ post => post.1)
  rw [wp_bind]
  refine ((steady_acknowledge isAck).onHw t).mono (fun _ t' same => ?_) (fun _ _ e => e.elim)
  have reaches' := same.reaches reaches
  rw [wp_bind, wp_get, wp_ite]
  refine ⟨fun _ => ?_, fun _ => reaches'⟩
  refine (resetLine_spec _ _ _ t').mono (fun _ t'' reset => reset.reaches reaches') ?_
  intro _ t'' stuck
  rw [stuck.2]
  exact reaches'

/-- The command phase, whether its handler returns or throws. It only throws behind an error. -/
theorem irqCmd_status {c : Cmd} (noTuning : c.isTuning = false) (h : Hw)
    (phase : c.status = .progressCmd) :
    wp s.irqCmd (fun _ t => c.Reaches (nextStatus h.is c) t.1 ∧ t.2.is = h.is)
      (fun _ t => c.Reaches (nextStatus h.is c) t.1 ∧ t.1.error = true) (c, h) := by
  have reaches : ∀ c', c' = ({ c with status := nextStatus h.is c } : Cmd) →
      c.Reaches (nextStatus h.is c) c' := by
    intro c' same
    rw [same]
    exact ⟨by constructor <;> rfl, rfl⟩
  rw [irqCmd, wp_bind, wp_get]
  refine (s.handleIrqCmd_exact noTuning h h.is phase).mono ?_ ?_
  · intro _ t post
    exact ⟨reaches t.1 post.1, post.2.1.is⟩
  · intro _ t post
    refine ⟨reaches t.1 post.1, ?_⟩
    rw [post.1, Cmd.error_iff]
    exact (nextStatus_error h.is phase).mpr post.2.1

/-- The data phase of an interrupt and the fetch of the response. -/
theorem onData_status {c c₀ : Cmd} (same : c₀.SameRequest c) (h : Hw) :
    wp (do
        HwOps.onStatus .progressData s.irqData
        HwOps.onStatus .success s.cmdFetchResponse : Action Hw Unit)
      (fun _ t => c₀.Reaches (if c.status = .progressData then dataStatus h.is else c.status) t.1)
      (fun _ t => c₀.Reaches (if c.status = .progressData then dataStatus h.is else c.status) t.1)
      (c, h) := by
  have fetch : ∀ (t : Cmd × Hw) (status : Status), c₀.Reaches status t.1 →
      wp (HwOps.onStatus .success s.cmdFetchResponse) (fun _ t' => c₀.Reaches status t'.1)
        (fun _ t' => c₀.Reaches status t'.1) t := by
    intro t status reaches
    refine HwDrv.wp_onStatus.mpr ⟨fun _ => ?_, fun _ => reaches⟩
    refine (s.cmdFetchResponse_spec t.1 t.2).mono (fun _ t' post => ?_) (fun _ _ e => e.elim)
    exact ⟨reaches.1.trans post.1, post.2.1.trans reaches.2⟩
  rw [wp_bind]
  refine HwDrv.wp_onStatus.mpr ⟨fun phase => ?_, fun other => ?_⟩
  · have data : c.status = .progressData := phase
    rw [if_pos data]
    refine (s.irqData_status h data).mono (fun _ t reaches => fetch t _ ?_) (fun _ t reaches => ?_)
    · exact ⟨same.trans reaches.1, reaches.2⟩
    · exact ⟨same.trans reaches.1, reaches.2⟩
  · have notData : c.status ≠ .progressData := other
    rw [if_neg notData]
    exact fetch (c, h) c.status ⟨same, rfl⟩

/-- What one interrupt does to the status of a command. -/
theorem interrupt_spec {t : Cmd × Hw} (noTuning : t.1.isTuning = false) (irq : Irq) :
    t.1.Reaches (statusAfter (irq.regs .intStatus) t.1) (s.interrupt irq t).1 := by
  refine after_of_wp (P := fun t' : Cmd × Hw =>
    t.1.Reaches (statusAfter (irq.regs .intStatus) t.1) t'.1) ?_
  show wp (HwOps.onStatus .progressCmd s.irqCmd >>= fun _ => _) _ _ (t.1, present irq t.2)
  rw [wp_bind, statusAfter]
  refine HwDrv.wp_onStatus.mpr ⟨fun phase => ?_, fun other => ?_⟩
  · have cmd : t.1.status = .progressCmd := phase
    rw [if_pos cmd]
    refine (s.irqCmd_status noTuning (present irq t.2) cmd).mono ?_ ?_
    · intro _ t₁ post
      rcases post with ⟨⟨same, status⟩, word⟩
      have spec := s.onData_status same t₁.2
      rw [status, word] at spec
      exact spec
    · intro _ t₁ post
      rcases post with ⟨⟨same, status⟩, error⟩
      have notData : nextStatus (irq.regs .intStatus) t.1 ≠ .progressData := by
        intro data
        rw [Cmd.error_iff, status] at error
        change (nextStatus (irq.regs .intStatus) t.1).toInt < 0 at error
        rw [data] at error
        exact absurd error (by decide)
      rw [if_neg notData]
      exact ⟨same, status⟩
  · have notCmd : t.1.status ≠ .progressCmd := other
    rw [if_neg notCmd]
    exact s.onData_status (Cmd.SameRequest.refl t.1) (present irq t.2)

/-! ## Runs -/

/-- The word completes the command phase. -/
def completesCmd (irq : Irq) : Prop :=
  RegIntStatus.cc.test (irq.regs .intStatus) = true ∧ commandFails (irq.regs .intStatus) = false

/-- A run of interrupts for a data command: a success has been signalled by the status words, an
error in a word is noticed in the phase it belongs to, and the outcome is final. -/
structure Timely (irqs : List Irq) (t : Cmd × Hw) : Prop where
  success : ∀ past irq rest, irqs = past ++ irq :: rest →
    (Runs.run s.interrupt past t).1.status ≠ .success →
    (s.interrupt irq (Runs.run s.interrupt past t)).1.status = .success →
    RegIntStatus.tc.test (irq.regs .intStatus) = true ∧
      RegIntStatus.dataError (irq.regs .intStatus) = false ∧
      ∃ earlier ∈ past ++ [irq], completesCmd earlier
  cmdError : ∀ past irq rest, irqs = past ++ irq :: rest →
    (Runs.run s.interrupt past t).1.status = .progressCmd →
    commandFails (irq.regs .intStatus) = true →
    (s.interrupt irq (Runs.run s.interrupt past t)).1.error = true
  dataError : ∀ past irq rest, irqs = past ++ irq :: rest →
    (Runs.run s.interrupt past t).1.status = .progressData →
    RegIntStatus.dataError (irq.regs .intStatus) = true →
    (s.interrupt irq (Runs.run s.interrupt past t)).1.error = true
  final : ∀ past irq rest, irqs = past ++ irq :: rest →
    ((Runs.run s.interrupt past t).1.status = .success ∨
      (Runs.run s.interrupt past t).1.error = true) →
    (s.interrupt irq (Runs.run s.interrupt past t)).1.status =
      (Runs.run s.interrupt past t).1.status

/-- The status behind the command phase tells which bits were set. -/
theorem nextStatus_data {is : U32} {c : Cmd} (phase : c.status = .progressCmd)
    (data : nextStatus is c = .progressData) :
    RegIntStatus.cc.test is = true ∧ commandFails is = false := by
  have noError : ¬ (nextStatus is c).toInt < 0 := by
    rw [data]
    decide
  rw [nextStatus_error is phase] at noError
  have fine : commandFails is = false := by simpa using noError
  refine ⟨?_, fine⟩
  by_contra incomplete
  simp only [commandFails, Bool.or_eq_false_iff] at fine
  simp only [nextStatus, fine, incomplete, phase, Bool.false_eq_true, if_false] at data
  cases data

theorem nextStatus_ne_success {is : U32} {c : Cmd} (hasData : c.flags.hasData = true)
    (phase : c.status = .progressCmd) : nextStatus is c ≠ .success := by
  rw [nextStatus, hasData, phase]
  intro success
  split at success
  · cases success
  split at success
  · cases success
  split at success
  · cases success
  split at success <;> cases success

theorem dataStatus_success {is : U32} (success : dataStatus is = .success) :
    RegIntStatus.tc.test is = true ∧ RegIntStatus.dataError is = false := by
  rw [dataStatus] at success
  split at success
  · cases success
  · rename_i fine
    split at success
    · rename_i complete
      exact ⟨complete, by simpa using fine⟩
    · cases success

/-- What is known of a data command after the interrupts `past`. -/
structure Tracked (past : List Irq) (c : Cmd) : Prop where
  noTuning : c.isTuning = false
  hasData : c.flags.hasData = true
  completed : c.status = .progressData → ∃ earlier ∈ past, completesCmd earlier

/-- A success needs both phases to have completed. -/
theorem Tracked.success {past : List Irq} {c : Cmd} (tracked : Tracked past c) {irq : Irq}
    (before : c.status ≠ .success)
    (success : statusAfter (irq.regs .intStatus) c = .success) :
    RegIntStatus.tc.test (irq.regs .intStatus) = true ∧
      RegIntStatus.dataError (irq.regs .intStatus) = false ∧
      ∃ earlier ∈ past ++ [irq], completesCmd earlier := by
  rw [statusAfter] at success
  split at success
  · rename_i cmd
    split at success
    · rename_i data
      obtain ⟨complete, fine⟩ := dataStatus_success success
      exact ⟨complete, fine, irq, List.mem_append_right _ List.mem_cons_self,
        nextStatus_data cmd data⟩
    · exact absurd success (nextStatus_ne_success tracked.hasData cmd)
  split at success
  · rename_i data
    obtain ⟨complete, fine⟩ := dataStatus_success success
    obtain ⟨earlier, member, completes⟩ := tracked.completed data
    exact ⟨complete, fine, earlier, List.mem_append_left _ member, completes⟩
  · exact absurd success before

theorem Tracked.step {past : List Irq} {t : Cmd × Hw} (tracked : Tracked past t.1) (irq : Irq) :
    Tracked (past ++ [irq]) (s.interrupt irq t).1 := by
  obtain ⟨same, status⟩ := s.interrupt_spec tracked.noTuning irq
  have tuning : (s.interrupt irq t).1.isTuning = t.1.isTuning := by
    simp only [Cmd.isTuning, same.cmd]
  refine ⟨tuning.trans tracked.noTuning, same.hasData.trans tracked.hasData, fun data => ?_⟩
  rw [status, statusAfter] at data
  split at data
  · rename_i cmd
    refine ⟨irq, List.mem_append_right _ List.mem_cons_self, nextStatus_data cmd ?_⟩
    split at data
    · assumption
    · exact data
  split at data
  · rename_i before
    obtain ⟨earlier, member, completes⟩ := tracked.completed before
    exact ⟨earlier, List.mem_append_left _ member, completes⟩
  · rename_i notData
    exact absurd data notData

theorem Tracked.run {t : Cmd × Hw} (tracked : Tracked [] t.1) (past : List Irq) :
    Tracked past (Runs.run s.interrupt past t).1 := by
  induction past using List.reverseRecOn with
  | nil => exact tracked
  | append_singleton past irq ih =>
    rw [Runs.run_append]
    exact ih.step s irq

theorem timely_of_tracked {t : Cmd × Hw} (tracked : Tracked [] t.1) (irqs : List Irq) :
    s.Timely irqs t where
  success := by
    intro past irq rest _ before success
    have now := tracked.run s past
    rw [(s.interrupt_spec now.noTuning irq).2] at success
    exact now.success before success
  cmdError := by
    intro past irq rest _ phase fails
    have now := tracked.run s past
    have error := (nextStatus_error (irq.regs .intStatus) phase).mpr fails
    have notData : nextStatus (irq.regs .intStatus) (Runs.run s.interrupt past t).1 ≠
        .progressData := by
      intro data
      rw [data] at error
      exact absurd error (by decide)
    rw [Cmd.error_iff, (s.interrupt_spec now.noTuning irq).2, statusAfter, if_pos phase,
      if_neg notData]
    exact error
  dataError := by
    intro past irq rest _ phase bad
    have now := tracked.run s past
    have notCmd : (Runs.run s.interrupt past t).1.status ≠ .progressCmd := by
      rw [phase]
      decide
    rw [Cmd.error_iff, (s.interrupt_spec now.noTuning irq).2, statusAfter, if_neg notCmd,
      if_pos phase, dataStatus, if_pos bad]
    decide
  final := by
    intro past irq rest _ ended
    have now := tracked.run s past
    have idle : (Runs.run s.interrupt past t).1.status ≠ .progressCmd ∧
        (Runs.run s.interrupt past t).1.status ≠ .progressData := by
      rcases ended with success | error
      · rw [success]
        decide
      · rw [Cmd.error_iff] at error
        constructor <;> intro status <;> rw [status] at error <;> exact absurd error (by decide)
    rw [(s.interrupt_spec now.noTuning irq).2, statusAfter, if_neg idle.1, if_neg idle.2]

/-- After the submission of a data command, whatever the interrupts find. -/
theorem success_not_premature {c : Cmd} (h : Hw) (hasData : c.flags.hasData = true)
    (noTuning : c.isTuning = false) (submitted : returns s.cmdSubmit (c, h)) (irqs : List Irq) :
    s.Timely irqs (after s.cmdSubmit (c, h)) := by
  have sent := (wp_after submitted).and (s.cmdSubmit_spec c h)
  refine s.timely_of_tracked ?_ irqs
  refine after_of_wp (P := fun t : Cmd × Hw => Tracked [] t.1) ?_
  refine sent.mono ?_ (fun _ _ absurd => absurd.1.elim)
  intro _ t post
  obtain ⟨kept, busy, -⟩ := post.2.2
  refine ⟨?_, kept.1.hasData.trans hasData, fun data => ?_⟩
  · simp only [Cmd.isTuning, kept.1.cmd]
    exact noTuning
  · cases busy.symm.trans data

/-- CMD18 for one block. -/
def readBlock : Cmd :=
  { status := .readyForSubmit, cmd := Mmc.cmd18ReadMultipleBlock, blockcnt := 1, blocksize := 512,
    flags := { inout := true, inoutRead := true, hasData := true },
    blocks := [⟨0x1000, 0x1000, 1⟩] }

theorem readBlock_returns : returns unbuffered.cmdSubmit (readBlock, {}) := by
  have accepted : unbuffered.accepts readBlock = true := by rfl
  exact (unbuffered.hwDrv.submit_ok readBlock {} rfl accepted).mono (fun _ _ _ => trivial)
    (fun _ _ absurd => absurd)

/-- The command completes, then the transfer does. -/
theorem readBlock_timely :
    unbuffered.Timely [{ regs := fun _ => 1 }, { regs := fun _ => 2 }]
      (after unbuffered.cmdSubmit (readBlock, {})) :=
  unbuffered.success_not_premature {} rfl (by decide) readBlock_returns _

end Sdhci

end Emmc
