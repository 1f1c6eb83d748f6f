import Mathlib
import Emmc.Lib.Runs
import Emmc.Sdhi.Submit

/-!
# Interrupts of an SDHI controller

One interrupt runs the handler of the command phase and the handler of the data phase on the same
word of `Sd_info`.

* `statusAfter`: the status after an interrupt, as a function of the word and of the poll.
* `interrupt_spec`: this is what the code does.
* `Timely`: at an interrupt that makes the command a success, the end of the access was signalled,
  and no word of the data phase had an error.
* `success_timely_iff`: which words lead to a success that is not premature.

Messages, and the word that is read for a message only, are left out.
-/

namespace Emmc

open Throwing

namespace Sdhi

/-! ## The code -/

def setStatus (status : Status) : Action Hw Unit :=
  modify fun t => ({ t.1 with status := status }, t.2)

/-- Start the DMA channel. -/
def startDma : HwM Unit := do
  let ctrl ← readReg .dmCmDtranCtrl
  writeReg .dmCmDtranCtrl (RegDmCmDtranCtrl.dmStart.put ctrl true)

/-- The response has come, or it will not come any more. -/
def responded (info : U32) : Bool := RegSdInfo.info0.test info || RegSdInfo.err6.test info

def handleIrqCmd (info : U32) : Action Hw Unit := do
  if responded info then
    onHw (writeReg .sdInfo (RegSdInfo.err6.put (RegSdInfo.info0.put (~~~0) false) false))
    let c := (← get).1
    if RegSdInfo.err6.test info then setStatus .cmdTimeout
    else if RegSdInfo.error info then setStatus .cmdError
    else if c.flags.hasData then do
      setStatus .progressData
      onHw startDma
    else setStatus .success

/-- The transfer is done. A write looks at a register object that was not read. -/
def transferDone (c : Cmd) : Bool :=
  if isRead c then true
  else
    let sdInfo := RegSdInfo.fresh
    RegSdInfo.sclkdiven.test sdInfo || !RegSdInfo.cbsy.test sdInfo

/-- The end of a transfer. -/
def finishTransfer : Action Hw Unit := do
  let mask ← onHw (readReg .sdInfoMask)
  onHw (writeReg .sdInfoMask (RegSdInfoMask.imask2.put mask true))
  onHw (writeReg .dmCmInfo1 0)
  onHw (writeReg .ccExtMode (RegCcExtMode.dmasdrw.put RegCcExtMode.fresh false))
  setStatus .success

def dataFailed (info : U32) : Bool :=
  RegSdInfo.err1.test info || RegSdInfo.err2.test info || RegSdInfo.err5.test info

def handleIrqData (info : U32) : Action Hw Unit := do
  onHw (if RegSdInfo.bre.test info || RegSdInfo.bwe.test info then
    writeReg .sdInfo (RegSdInfo.bwe.put (RegSdInfo.bre.put (~~~0) false) false)
  else pure ())
  let c := (← get).1
  (if transferDone c then finishTransfer else pure ())
  if dataFailed info then setStatus .dataError

/-- The four words of a response of 136 bits, and the one word of any other. -/
def response (regs : Regs → U32) (c : Cmd) : Fin 4 → U32 :=
  if c.cmd &&& Mmc.rsp136Bits ≠ 0 then
    fun i => match i with
      | 0 => (regs .sdRsp76 <<< 8) ||| (regs .sdRsp54 >>> 24)
      | 1 => (regs .sdRsp54 <<< 8) ||| (regs .sdRsp32 >>> 24)
      | 2 => (regs .sdRsp32 <<< 8) ||| (regs .sdRsp10 >>> 24)
      | 3 => regs .sdRsp10 <<< 8
  else Function.update c.resp 0 (regs .sdRsp10)

def cmdFetchResponse : Action Hw Unit :=
  modify fun t =>
    ({ t.1 with
      resp := response t.2.regs t.1
      flags := { t.1.flags with
        hasR1Response := t.1.flags.hasR1Response || t.1.cmd &&& Mmc.rsp136Bits = 0 } }, t.2)

def hwOps : HwOps Hw Irq where
  dmaAdma2 := false
  autoCmd12 := false
  autoCmd23 := false
  bounceBufferSize := 0
  maxInoutReqSize := 4 <<< 20
  present := present
  cmdSubmit := cmdSubmit
  handleIrqCmd := do
    let info := (← get).2.info
    handleIrqCmd info
  handleIrqData := do
    let info := (← get).2.info
    handleIrqData info
  cmdFetchResponse := cmdFetchResponse

/-- One interrupt for the command; an exception leaves the state it had reached. -/
def interrupt (irq : Irq) (t : Cmd × Hw) : Cmd × Hw :=
  after hwOps.handleIrq (t.1, present irq t.2)

/-! ## The status after an interrupt -/

/-- The poll for an idle bus before `Cc_ext_mode` is written. -/
def Irq.idle (irq : Irq) : Bool := irq.polls.headD true

/-- The status behind the data phase: with the bus busy, the exception keeps it. -/
def dataStatus (irq : Irq) : Status :=
  if irq.idle then if dataFailed irq.info then .dataError else .success
  else .progressData

/-- The response has come without an error. -/
def accepted (info : U32) : Bool := responded info && !RegSdInfo.error info

/-- The status behind the command phase of a data command. -/
def cmdStatus (info : U32) : Status :=
  if accepted info then .progressData
  else if RegSdInfo.err6.test info then .cmdTimeout
  else if responded info then .cmdError
  else .progressCmd

/-- The status after an interrupt for a data command. -/
def statusAfter (irq : Irq) (status : Status) : Status :=
  if status = .progressCmd then
    if accepted irq.info then dataStatus irq else cmdStatus irq.info
  else if status = .progressData then dataStatus irq
  else status

theorem error_of_err6 {info : U32} (late : RegSdInfo.err6.test info = true) :
    RegSdInfo.error info = true := by
  rw [RegSdInfo.error, late, Bool.or_true, Bool.true_or]

theorem handleIrqCmd_spec {c : Cmd} (data : c.flags.hasData = true)
    (phase : c.status = .progressCmd) (info : U32) (h : Hw) :
    wp (handleIrqCmd info)
      (fun _ t => c.Reaches (cmdStatus info) t.1 ∧ t.2.info = h.info ∧ t.2.polls = h.polls)
      (fun _ _ => False) (c, h) := by
  rw [handleIrqCmd, wp_ite]
  apply And.intro
  · intro came
    rw [wp_bind, wp_onHw, wp_writeReg_free rfl, wp_bind, wp_get, wp_ite]
    apply And.intro
    · intro late
      have status : cmdStatus info = .cmdTimeout := by
        rw [cmdStatus, accepted, error_of_err6 late, Bool.not_true, Bool.and_false,
          if_neg Bool.false_ne_true, if_pos late]
      rw [status]
      exact ⟨c.reaches_status _, rfl, rfl⟩
    · intro inTime
      rw [wp_ite]
      apply And.intro
      · intro bad
        have status : cmdStatus info = .cmdError := by
          rw [cmdStatus, accepted, bad, Bool.not_true, Bool.and_false, if_neg Bool.false_ne_true,
            if_neg inTime, if_pos came]
        rw [status]
        exact ⟨c.reaches_status _, rfl, rfl⟩
      · intro fine
        have status : cmdStatus info = .progressData := by
          rw [cmdStatus, accepted, came, eq_false_of_ne_true fine]
          rfl
        rw [status, wp_ite]
        refine ⟨fun _ => ?_, fun none => absurd data none⟩
        rw [wp_bind, setStatus, wp_modify, wp_onHw, startDma, wp_bind, wp_readReg,
          wp_writeReg_free rfl]
        exact ⟨c.reaches_status _, rfl, rfl⟩
  · intro silent
    have status : cmdStatus info = .progressCmd := by
      have none := eq_false_of_ne_true silent
      rw [responded, Bool.or_eq_false_iff] at none
      rw [cmdStatus, accepted, eq_false_of_ne_true silent, none.2]
      rfl
    rw [status]
    exact ⟨⟨Cmd.SameRequest.refl c, phase⟩, rfl, rfl⟩

/-- A register object that was not read is not busy. -/
theorem transferDone_eq (c : Cmd) : transferDone c = true := by
  rw [transferDone]
  cases isRead c with
  | true => rfl
  | false => decide

theorem handleIrqData_spec {c c₀ : Cmd} (same : c₀.SameRequest c) (phase : c.status = .progressData)
    (info : U32) (h : Hw) :
    wp (handleIrqData info)
      (fun _ t => c₀.Reaches (if dataFailed info then .dataError else .success) t.1 ∧
        h.polls.headD true = true)
      (fun _ t => c₀.Reaches .progressData t.1 ∧ h.polls.headD true = false) (c, h) := by
  have acked : ∀ h' : Hw, h'.polls = h.polls →
      wp (do
          let c := (← get).1
          (if transferDone c then finishTransfer else pure ())
          if dataFailed info then setStatus .dataError : Action Hw Unit)
        (fun _ t => c₀.Reaches (if dataFailed info then .dataError else .success) t.1 ∧
          h.polls.headD true = true)
        (fun _ t => c₀.Reaches .progressData t.1 ∧ h.polls.headD true = false) (c, h') := by
    intro h' polls
    rw [wp_bind, wp_get, wp_bind, transferDone_eq, if_pos rfl, finishTransfer, wp_bind, wp_onHw,
      wp_readReg, wp_bind, wp_onHw, wp_writeReg_free rfl, wp_bind, wp_onHw, wp_writeReg_free rfl,
      wp_bind, wp_onHw, wp_writeReg_polled rfl]
    apply And.intro
    · intro done
      have inTime : h.polls.headD true = true := by
        rw [← polls]
        exact done
      rw [setStatus, wp_modify, wp_ite]
      apply And.intro
      · intro bad
        rw [if_pos bad]
        exact ⟨⟨same.trans (by constructor <;> rfl), rfl⟩, inTime⟩
      · intro fine
        rw [if_neg fine]
        exact ⟨⟨same.trans (by constructor <;> rfl), rfl⟩, inTime⟩
    · intro late
      refine ⟨⟨same, phase⟩, ?_⟩
      rw [← polls]
      exact late
  rw [handleIrqData, wp_bind, wp_onHw, wp_ite]
  apply And.intro
  · intro _
    rw [wp_writeReg_free rfl]
    exact acked _ rfl
  · intro _
    exact acked h rfl

theorem cmdFetchResponse_spec {c c₀ : Cmd} {status : Status} (reaches : c₀.Reaches status c)
    (h : Hw) : wp cmdFetchResponse (fun _ t => c₀.Reaches status t.1) (fun _ _ => False) (c, h) :=
  ⟨reaches.1.trans (by constructor <;> rfl), reaches.2⟩

theorem statusAfter_other {irq : Irq} {status : Status} (noCmd : status ≠ .progressCmd)
    (noData : status ≠ .progressData) : statusAfter irq status = status := by
  rw [statusAfter, if_neg noCmd, if_neg noData]

/-- The data phase of an interrupt and the fetch of the response. -/
theorem onData_spec {c c₀ : Cmd} (same : c₀.SameRequest c) (irq : Irq) (h : Hw)
    (info : h.info = irq.info) (polls : h.polls = irq.polls) :
    wp (do
        HwOps.onStatus .progressData hwOps.handleIrqData
        HwOps.onStatus .success hwOps.cmdFetchResponse : Action Hw Unit)
      (fun _ t => c₀.Reaches (if c.status = .progressData then dataStatus irq else c.status) t.1)
      (fun _ t => c₀.Reaches (if c.status = .progressData then dataStatus irq else c.status) t.1)
      (c, h) := by
  have fetch : ∀ (t : Cmd × Hw) (status : Status), c₀.Reaches status t.1 →
      wp (HwOps.onStatus .success hwOps.cmdFetchResponse) (fun _ t' => c₀.Reaches status t'.1)
        (fun _ t' => c₀.Reaches status t'.1) t := by
    intro t status reaches
    rw [HwOps.onStatus, wp_bind, wp_get, wp_ite]
    apply And.intro
    · intro _
      exact (cmdFetchResponse_spec reaches t.2).mono (fun _ _ post => post)
        (fun _ _ never => never.elim)
    · intro _
      exact reaches
  rw [wp_bind, HwOps.onStatus, wp_bind, wp_get, wp_ite]
  apply And.intro
  · intro phase
    rw [if_pos phase]
    have spec := handleIrqData_spec same phase h.info h
    rw [info, polls] at spec
    show wp (handleIrqData h.info) _ _ (c, h)
    rw [info]
    refine spec.mono ?_ ?_
    · intro _ t post
      have status : dataStatus irq = if dataFailed irq.info then .dataError else .success :=
        if_pos post.2
      rw [status]
      exact fetch t _ post.1
    · intro _ t post
      have status : dataStatus irq = .progressData := by
        rw [dataStatus, Irq.idle, post.2, if_neg Bool.false_ne_true]
      rw [status]
      exact post.1
  · intro other
    rw [if_neg other]
    exact fetch (c, h) c.status ⟨same, rfl⟩

/-- What one interrupt does to a data command, whether the handlers return or throw. -/
theorem interrupt_spec {t : Cmd × Hw} (data : t.1.flags.hasData = true) (irq : Irq) :
    t.1.Reaches (statusAfter irq t.1.status) (interrupt irq t).1 := by
  refine after_of_wp (P := fun t' : Cmd × Hw => t.1.Reaches (statusAfter irq t.1.status) t'.1) ?_
  rw [HwOps.handleIrq, wp_bind, HwOps.onStatus, wp_bind, wp_get, wp_ite]
  apply And.intro
  · intro phase
    refine (handleIrqCmd_spec data phase irq.info (present irq t.2)).mono ?_
      (fun _ _ never => never.elim)
    intro _ t' post
    rcases post with ⟨⟨same, status⟩, info, polls⟩
    have next : statusAfter irq t.1.status =
        if t'.1.status = .progressData then dataStatus irq else t'.1.status := by
      rw [statusAfter, if_pos phase, status]
      by_cases good : accepted irq.info = true
      · rw [if_pos good, cmdStatus, if_pos good, if_pos rfl]
      · have still : cmdStatus irq.info ≠ .progressData := by
          rw [cmdStatus, if_neg good]
          intro same
          split at same
          · cases same
          · split at same <;> cases same
        rw [if_neg good, if_neg still]
    rw [next]
    exact onData_spec same irq t'.2 info polls
  · intro other
    have next : statusAfter irq t.1.status =
        if t.1.status = .progressData then dataStatus irq else t.1.status := by
      rw [statusAfter, if_neg other]
    rw [next]
    exact onData_spec (Cmd.SameRequest.refl _) irq (present irq t.2) rfl rfl

/-! ## Runs -/

/-- The words seen so far, and those of the data phase, newest first. -/
structure Watch where
  t : Cmd × Hw
  seen : List U32 := []
  data : List U32 := []

/-- The handler of the data phase gets the word. -/
def Watch.consumes (w : Watch) (irq : Irq) : Bool :=
  (after (HwOps.onStatus .progressCmd hwOps.handleIrqCmd) (w.t.1, present irq w.t.2)).1.status =
    .progressData

def watch (irq : Irq) (w : Watch) : Watch where
  t := interrupt irq w.t
  seen := irq.info :: w.seen
  data := if w.consumes irq then irq.info :: w.data else w.data

/-- One of the errors CRC, END and data timeout. -/
def errors (info : U32) : Bool :=
  RegSdInfo.err1.test info || RegSdInfo.err2.test info || RegSdInfo.err3.test info

/-- The end of the access was signalled, or, for a write, the bus is idle; and no word of the data
phase had an error. -/
def Watch.Signalled (w : Watch) (irq : Irq) : Prop :=
  (w.seen.any RegSdInfo.info2.test = true ∨ isRead w.t.1 = false ∧ irq.idle = true) ∧
    w.data.any errors = false

instance decidableSignalled (w : Watch) (irq : Irq) : Decidable (w.Signalled irq) :=
  inferInstanceAs (Decidable ((_ ∨ _ ∧ _) ∧ _))

/-- If the interrupt makes the command a success, this is not premature. -/
def Timely (irq : Irq) (w : Watch) : Prop :=
  w.t.1.status ≠ .success → (watch irq w).t.1.status = .success → (watch irq w).Signalled irq

instance decidableTimely (irq : Irq) (w : Watch) : Decidable (Timely irq w) :=
  inferInstanceAs (Decidable (_ → _ → _))

/-- In the data phase: the first word behind which the bus is idle ends it. -/
def EndsWell (read : Bool) (seen data : List U32) : List Irq → Prop
  | [] => True
  | irq :: irqs =>
    if irq.idle then
      dataFailed irq.info = true ∨
        (read = true → (irq.info :: seen).any RegSdInfo.info2.test = true) ∧
          (irq.info :: data).any errors = false
    else EndsWell read (irq.info :: seen) (irq.info :: data) irqs

/-- In the command phase: the first response without an error starts the data phase. -/
def RespondsWell (read : Bool) (seen : List U32) : List Irq → Prop
  | [] => True
  | irq :: irqs =>
    if accepted irq.info then EndsWell read seen [] (irq :: irqs)
    else responded irq.info = true ∨ RespondsWell read (irq.info :: seen) irqs

instance decidableEndsWell (read : Bool) : ∀ seen data irqs, Decidable (EndsWell read seen data irqs)
  | _, _, [] => inferInstanceAs (Decidable True)
  | seen, data, irq :: irqs =>
    have := decidableEndsWell read (irq.info :: seen) (irq.info :: data) irqs
    inferInstanceAs (Decidable (if irq.idle then _ ∨ (read = true → _) ∧ _ else _))

instance decidableRespondsWell (read : Bool) : ∀ seen irqs, Decidable (RespondsWell read seen irqs)
  | _, [] => inferInstanceAs (Decidable True)
  | seen, irq :: irqs =>
    have := decidableRespondsWell read (irq.info :: seen) irqs
    inferInstanceAs (Decidable (if accepted irq.info then EndsWell read seen [] (irq :: irqs)
      else responded irq.info = true ∨ RespondsWell read (irq.info :: seen) irqs))

theorem watch_status {w : Watch} (data : w.t.1.flags.hasData = true) (irq : Irq) :
    (watch irq w).t.1.status = statusAfter irq w.t.1.status :=
  (interrupt_spec data irq).2

theorem watch_data {w : Watch} (data : w.t.1.flags.hasData = true) (irq : Irq) :
    (watch irq w).t.1.flags.hasData = true :=
  (interrupt_spec data irq).1.hasData.trans data

theorem watch_isRead {w : Watch} (data : w.t.1.flags.hasData = true) (irq : Irq) :
    isRead (watch irq w).t.1 = isRead w.t.1 := by
  have same : (watch irq w).t.1.cmd = w.t.1.cmd := (interrupt_spec data irq).1.cmd
  rw [isRead, isRead, same]

/-- A command that has ended stays as it is. -/
theorem timely_ended {w : Watch} (data : w.t.1.flags.hasData = true)
    (noCmd : w.t.1.status ≠ .progressCmd) (noData : w.t.1.status ≠ .progressData)
    (irqs : List Irq) : Runs.Along watch Timely irqs w := by
  induction irqs generalizing w with
  | nil => trivial
  | cons irq irqs ih =>
    have status := watch_status data irq
    rw [statusAfter_other noCmd noData] at status
    apply And.intro
    · intro before success
      exact absurd (status.symm.trans success) before
    · apply ih (watch_data data irq)
      · rw [status]
        exact noCmd
      · rw [status]
        exact noData

theorem consumes_data {w : Watch} (irq : Irq) (phase : w.t.1.status = .progressData) :
    w.consumes irq = true := by
  have skipped : wp (HwOps.onStatus .progressCmd hwOps.handleIrqCmd)
      (fun _ t => t.1.status = .progressData) (fun _ t => t.1.status = .progressData)
      (w.t.1, present irq w.t.2) := by
    rw [HwOps.onStatus, wp_bind, wp_get, wp_ite]
    refine ⟨fun cmd => ?_, fun _ => phase⟩
    rw [phase] at cmd
    cases cmd
  exact decide_eq_true (after_of_wp (P := fun t : Cmd × Hw => t.1.status = .progressData) skipped)

theorem consumes_cmd {w : Watch} (data : w.t.1.flags.hasData = true) (irq : Irq)
    (phase : w.t.1.status = .progressCmd) : w.consumes irq = accepted irq.info := by
  have handled : wp (HwOps.onStatus .progressCmd hwOps.handleIrqCmd)
      (fun _ t => t.1.status = cmdStatus irq.info) (fun _ t => t.1.status = cmdStatus irq.info)
      (w.t.1, present irq w.t.2) := by
    rw [HwOps.onStatus, wp_bind, wp_get, wp_ite]
    refine ⟨fun _ => ?_, fun other => absurd phase other⟩
    exact (handleIrqCmd_spec data phase irq.info (present irq w.t.2)).mono
      (fun _ _ post => post.1.2) (fun _ _ never => never.elim)
  have status := after_of_wp (P := fun t : Cmd × Hw => t.1.status = cmdStatus irq.info) handled
  rw [Watch.consumes, status, cmdStatus]
  by_cases good : accepted irq.info = true
  · rw [if_pos good, good]
    rfl
  · rw [if_neg good, eq_false_of_ne_true good]
    split
    · rfl
    · split <;> rfl

/-- An interrupt whose word the data handler gets. -/
theorem timely_data_cons {w : Watch} (data : w.t.1.flags.hasData = true) {irq : Irq}
    {irqs : List Irq} (before : w.t.1.status ≠ .success) (consumed : w.consumes irq = true)
    (status : (watch irq w).t.1.status = dataStatus irq)
    (rest : (watch irq w).t.1.status = .progressData →
      (Runs.Along watch Timely irqs (watch irq w) ↔
        EndsWell (isRead w.t.1) (irq.info :: w.seen) (irq.info :: w.data) irqs)) :
    Runs.Along watch Timely (irq :: irqs) w ↔
      EndsWell (isRead w.t.1) w.seen w.data (irq :: irqs) := by
  have words : (watch irq w).data = irq.info :: w.data := if_pos consumed
  have read := watch_isRead data irq
  rw [Runs.along_cons, EndsWell]
  by_cases idle : irq.idle = true
  · rw [if_pos idle]
    rw [dataStatus, if_pos idle] at status
    have onTime : Runs.Along watch Timely irqs (watch irq w) := by
      apply timely_ended (watch_data data irq)
      · rw [status]
        split <;> exact fun same => by cases same
      · rw [status]
        split <;> exact fun same => by cases same
    rw [and_iff_left onTime, Timely, status]
    by_cases bad : dataFailed irq.info = true
    · rw [if_pos bad]
      exact ⟨fun _ => Or.inl bad, fun _ _ success => by cases success⟩
    · rw [if_neg bad, Watch.Signalled, words, read]
      apply Iff.intro
      · intro timely
        obtain ⟨signalled, clean⟩ := timely before rfl
        refine Or.inr ⟨fun reading => ?_, clean⟩
        rcases signalled with ended | ⟨writing, -⟩
        · exact ended
        · rw [reading] at writing
          cases writing
      · intro well _ _
        rcases well with failed | ⟨signalled, clean⟩
        · exact absurd failed bad
        · refine ⟨?_, clean⟩
          cases reading : isRead w.t.1 with
          | true => exact Or.inl (signalled reading)
          | false => exact Or.inr ⟨rfl, idle⟩
  · rw [if_neg idle]
    rw [dataStatus, if_neg idle] at status
    rw [rest status]
    apply and_iff_right
    intro _ success
    rw [status] at success
    cases success

theorem timely_data {w : Watch} (data : w.t.1.flags.hasData = true)
    (phase : w.t.1.status = .progressData) (irqs : List Irq) :
    Runs.Along watch Timely irqs w ↔ EndsWell (isRead w.t.1) w.seen w.data irqs := by
  induction irqs generalizing w with
  | nil => exact Iff.rfl
  | cons irq irqs ih =>
    have consumed := consumes_data irq phase
    have words : (watch irq w).data = irq.info :: w.data := if_pos consumed
    apply timely_data_cons data (fun same => by rw [phase] at same; cases same) consumed
    · rw [watch_status data, phase]
      rfl
    · intro busy
      rw [ih (watch_data data irq) busy, watch_isRead data, words]
      rfl

theorem timely_cmd {w : Watch} (data : w.t.1.flags.hasData = true)
    (phase : w.t.1.status = .progressCmd) (nothing : w.data = []) (irqs : List Irq) :
    Runs.Along watch Timely irqs w ↔ RespondsWell (isRead w.t.1) w.seen irqs := by
  induction irqs generalizing w with
  | nil => exact Iff.rfl
  | cons irq irqs ih =>
    have consumed := consumes_cmd data irq phase
    have status := watch_status data irq
    rw [phase, statusAfter, if_pos rfl] at status
    have before : w.t.1.status ≠ .success := by
      rw [phase]
      exact fun same => by cases same
    rw [RespondsWell]
    by_cases good : accepted irq.info = true
    · rw [if_pos good] at status ⊢
      rw [good] at consumed
      have words : (watch irq w).data = irq.info :: w.data := if_pos consumed
      rw [← nothing]
      apply timely_data_cons data before consumed status
      intro busy
      rw [timely_data (watch_data data irq) busy, watch_isRead data, words]
      rfl
    · rw [if_neg good] at status ⊢
      rw [eq_false_of_ne_true good] at consumed
      have words : (watch irq w).data = w.data := if_neg (by rw [consumed]; exact Bool.false_ne_true)
      rw [cmdStatus, if_neg good] at status
      rw [Runs.along_cons]
      have quiet : Timely irq w := by
        intro _ success
        rw [status] at success
        split at success
        · cases success
        · split at success <;> cases success
      rw [and_iff_right quiet]
      by_cases came : responded irq.info = true
      · have ended : Runs.Along watch Timely irqs (watch irq w) := by
          apply timely_ended (watch_data data irq)
          · rw [status, if_pos came]
            split <;> exact fun same => by cases same
          · rw [status, if_pos came]
            split <;> exact fun same => by cases same
        exact ⟨fun _ => Or.inl came, fun _ => ended⟩
      · have none := eq_false_of_ne_true came
        rw [responded, Bool.or_eq_false_iff] at none
        rw [none.2, if_neg Bool.false_ne_true, if_neg came] at status
        rw [ih (watch_data data irq) status (words.trans nothing), watch_isRead data]
        apply Iff.intro
        · exact Or.inr
        · intro well
          rcases well with came' | well
          · exact absurd came' came
          · exact well

/-- A submission that returns leaves the command in its command phase. -/
theorem cmdSubmit_progress (c : Cmd) (h : Hw) :
    wp cmdSubmit (fun _ t => t.1 = { c with status := .progressCmd }) (fun _ _ => True) (c, h) := by
  rw [cmdSubmit]
  simp only [wp_bind, wp_get, wp_ite, wp_throw]
  refine ⟨fun _ => trivial, fun _ => ?_⟩
  cases responseMode c with
  | none => trivial
  | some mode =>
    rw [wp_bind, wp_onHw]
    refine (wp_any _ h).mono (fun _ h₁ _ => ?_) (fun _ _ _ => trivial)
    rw [wp_bind, wp_onHw]
    exact (wp_any _ h₁).mono (fun _ _ _ => rfl) (fun _ _ _ => trivial)

theorem after_cmdSubmit {c : Cmd} {h : Hw} (submitted : returns cmdSubmit (c, h)) :
    (after cmdSubmit (c, h)).1 = { c with status := .progressCmd } := by
  refine after_of_wp (P := fun t : Cmd × Hw => t.1 = { c with status := .progressCmd }) ?_
  exact ((wp_after submitted).and (cmdSubmit_progress c h)).mono (fun _ _ post => post.2)
    (fun _ _ never => never.1.elim)

/-- After the submission of a data command, no success is premature if and only if the first response
without an error starts a data phase that ends well. -/
theorem success_timely_iff {c : Cmd} {h : Hw} (data : c.flags.hasData = true)
    (submitted : returns cmdSubmit (c, h)) (irqs : List Irq) :
    Runs.Along watch Timely irqs { t := after cmdSubmit (c, h) } ↔
      RespondsWell (isRead c) [] irqs := by
  have sent := after_cmdSubmit submitted
  have started := timely_cmd (w := { t := after cmdSubmit (c, h) })
    (by rw [sent]; exact data) (by rw [sent]) rfl irqs
  rw [started, sent]
  rfl

/-- An interrupt that finds this status word. -/
def word (info : U32) (idle : Bool) : Irq where
  regs := fun r => if r = .sdInfo then info else 0
  polls := [idle]

/-- CMD17 or CMD24. -/
def oneBlock (cmdVal : U32) : Cmd :=
  { status := .readyForSubmit, cmd := cmdVal, blockcnt := 1, blocksize := 512,
    flags := { inout := true, hasData := true }, blocks := [⟨0x1000, 0x1000, 1⟩] }

theorem read_timely :
    Runs.Along watch Timely [word 0 true, word 5 true]
      { t := after cmdSubmit (oneBlock Mmc.cmd17ReadSingleBlock, {}) } :=
  (success_timely_iff rfl (cmdSubmit_returns rfl rfl (by decide)) _).mpr (by decide_cbv)

/-- A read is a success with its response; and a write is one in spite of a data timeout, which the
handler finds after the bus was busy. -/
theorem response_is_success :
    ¬ Runs.Along watch Timely [word 1 true]
        { t := after cmdSubmit (oneBlock Mmc.cmd17ReadSingleBlock, {}) } ∧
      ¬ Runs.Along watch Timely [word 1 false, word 0x80000 true]
        { t := after cmdSubmit (oneBlock Mmc.cmd24WriteBlock, {}) } := by
  apply And.intro
  · decide_cbv
  · decide_cbv

end Sdhi

end Emmc
