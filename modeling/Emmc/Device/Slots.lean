import Emmc.Device.Completion

/-!
# What every command slot keeps

A property `P` of the command in a slot, with what was logged so far, holds of all slots in every
reachable state once it survives the few things the device does with a slot. `SlotRule` lists them;
nothing is asked of the operations, which may throw anywhere.

* `Kept`: the queue is settled, `P` holds of every slot, and `L` holds of the log. Only the call of
  a callback is of interest to `L`.
* one lemma per function of the device, from submitting a command up to `flush`.
* `kept_run`: with a `SlotRule`, `Kept` holds after every run.
* `InoutRule`, `inout_run`: the same for a property of the commands of in/out requests only, which
  every request establishes anew.
-/

namespace Emmc

open Throwing

variable {H Irq : Type}

/-- The command in a slot that was just taken from the queue. -/
def Cmd.taken (c : Cmd) : Cmd :=
  { c with flags := { c.flags with enqueued := true }, status := .uninitialized }

/-- The command in a slot that was given back to the queue. -/
def Cmd.released (c : Cmd) : Cmd :=
  ({ c with flags := { c.flags with enqueued := false } } : Cmd).invalidate

/-- Creating a command initialises its slot. -/
theorem CmdQueue.cmds_created (q : CmdQueue) (slot : Slot) :
    q.created.cmds slot = if slot = q.create then (q.cmds slot).taken else q.cmds slot := by
  by_cases same : slot = q.create
  · rw [if_pos same, same]
    exact cmds_setCmd_self _ _ _
  · rw [if_neg same]
    exact cmds_setCmd_of_ne _ same _

/-- Retiring one releases its slot. -/
theorem CmdQueue.cmds_retired (q : CmdQueue) (slot other : Slot) :
    (q.retired slot).cmds other =
      if other = slot then (q.cmds slot).released else q.cmds other := by
  by_cases same : other = slot
  · rw [if_pos same, same]
    exact cmds_setCmd_self _ _ _
  · rw [if_neg same]
    exact cmds_setCmd_of_ne _ same _

/-- The event is not the call of a request's callback. -/
def Event.Quiet (event : Event) : Prop := event.called? = none

namespace Device

/-- The requests an operation makes. -/
def Op.requests : Op Irq → List Request
  | .inout req => [req]
  | .irq _ nested => nested
  | .flush _ _ => []

variable (drv : HwDrv H Irq) (info : DeviceInfo)

/-- What the device does with a slot, when it is asked for `allowed` requests only. -/
structure SlotRule (allowed : Request → Prop) (P : Slot → List Event → Cmd → Prop)
    (L : List Event → Prop) : Prop where
  older : ∀ {slot log c}, P slot log c → ∀ event, P slot (event :: log) c
  driver : ∀ {slot log c c'}, P slot log c → c.SameRequest c' → P slot log c'
  taken : ∀ {slot log c}, P slot log c → c.flags.enqueued = false → P slot log c.taken
  named : ∀ {slot log c}, P slot log c → c.flags.enqueued = false → ∀ cb,
    P slot log { c.taken with cbIo := cb }
  entered : ∀ {slot log c req}, allowed req → c.flags.enqueued = true →
    P slot log (firstCommand drv info req c)
  setup : ∀ {slot log c}, P slot log c → ∀ word arg, P slot log (c.initArg word arg)
  marked : ∀ {slot log c}, P slot log c → P slot log c.markStatusAfterSwitch
  released : ∀ {slot log c}, P slot log c → P slot log c.released
  continued : ∀ {slot log c cb}, P slot log c → c.progress = false → c.flags.inout = true →
    c.cbIo = some cb → (inoutWork drv info c).2 = .moreWork →
    P slot log (inoutWork drv info c).1
  answered : ∀ {slot log c cb code size}, P slot log c → c.progress = false →
    c.flags.inout = true → c.cbIo = some cb → (inoutWork drv info c).2 = .workDone code size →
    L log → L (.callback slot cb code size :: log) ∧
      P slot (.callback slot cb code size :: log) (inoutWork drv info c).1
  quiet : ∀ {event log}, event.Quiet → L log → L (event :: log)

/-- The invariant that a `SlotRule` carries. -/
structure Kept (P : Slot → List Event → Cmd → Prop) (L : List Event → Prop)
    (d : Device H Irq) : Prop where
  settled : d.queue.Settled
  slots : ∀ slot, P slot d.log (d.queue.cmds slot)
  log : L d.log

variable {drv info}
variable {allowed : Request → Prop} {P : Slot → List Event → Cmd → Prop} {L : List Event → Prop}

/-- Writing a command that has the property, into a slot whose mark does not change. -/
theorem Kept.setCmd {d : Device H Irq} (kept : Kept P L d) {slot : Slot} {c : Cmd}
    (flag : c.flags.enqueued = (d.queue.cmds slot).flags.enqueued) (property : P slot d.log c) :
    Kept P L (d.setCmd slot c) := by
  refine ⟨kept.settled.setCmd flag, fun other => ?_, kept.log⟩
  rw [queue_setCmd]
  by_cases same : other = slot
  · rw [same, CmdQueue.cmds_setCmd_self]
    exact property
  · rw [CmdQueue.cmds_setCmd_of_ne _ same]
    exact kept.slots other

section Rule

variable (rule : SlotRule drv info allowed P L)
include rule

/-- An event that no rule is about keeps everything. -/
theorem Kept.emit {d : Device H Irq} (kept : Kept P L d) {event : Event} (quiet : event.Quiet) :
    Kept P L { d with log := event :: d.log } :=
  ⟨kept.settled, fun slot => rule.older (kept.slots slot) event, rule.quiet quiet kept.log⟩

theorem keeps_emit {event : Event} (quiet : event.Quiet) :
    Keeps (Kept P L) (emit event : DeviceM H Irq Unit) :=
  keeps_modify fun _ kept => kept.emit rule quiet

/-! ## Submitting the head -/

/-- A call of the driver on a slot keeps the rule of the slot if it stays within the same request, on both
exits. -/
theorem keeps_onCmd {slot : Slot} {m : Action H Unit}
    (same : ∀ c h, wp m (fun _ s => c.SameRequest s.1) (fun _ s => c.SameRequest s.1) (c, h)) :
    Keeps (Kept P L) (onCmd slot m : DeviceM H Irq Unit) := by
  intro d kept
  have written : ∀ (c : Cmd) (h : H), (d.queue.cmds slot).SameRequest c →
      Kept P L { d with queue := d.queue.setCmd slot c, hw := h } := by
    intro c h same
    have after := kept.setCmd same.enqueued (rule.driver (kept.slots slot) same)
    exact ⟨after.settled, after.slots, after.log⟩
  refine (onCmd_spec (same (d.queue.cmds slot) d.hw)).mono ?_ ?_
  · intro _ d' post
    rcases post with ⟨c, h, same, rfl⟩
    exact written c h same
  · intro _ d' post
    rcases post with ⟨c, h, same, rfl⟩
    exact (written c h same).emit rule rfl

/-- The submission changes the progress of the command, not its request. -/
theorem keeps_cmdSubmitOnAvail (slot : Slot) :
    Keeps (Kept P L) (cmdSubmitOnAvail drv slot : DeviceM H Irq Unit) := by
  refine (keeps_onCmd rule fun c h => ?_).bind fun _ => keeps_get_bind fun d kept => ?_
  · exact (drv.submit_spec c h).mono (fun _ _ post => post.2.1) (fun _ _ post => post.2.1)
  · exact keeps_emit rule (by rfl) d kept

/-- Kicking either submits the head or does nothing. -/
theorem keeps_drvCmdQueueKick : Keeps (Kept P L) (drvCmdQueueKick drv : DeviceM H Irq Bool) := by
  intro d kept
  simp only [drvCmdQueueKick, wp_bind, wp_get]
  cases d.queue.working? with
  | none => exact kept
  | some slot =>
    refine Keeps.ite ?_ (keeps_pure _) d kept
    exact (keeps_cmdSubmitOnAvail rule slot).bind fun _ => keeps_pure _

theorem keeps_cmdQueueKick : Keeps (Kept P L) (cmdQueueKick drv : DeviceM H Irq Unit) := by
  refine (keeps_drvCmdQueueKick rule).bind fun submitted => Keeps.ite ?_ (keeps_pure _)
  exact keeps_modify fun d kept => ⟨kept.settled, kept.slots, kept.log⟩

/-! ## Requests -/

/-- A slot that is retired is released, and the others are not touched. -/
theorem keeps_retire (slot : Slot) :
    Keeps (Kept P L) (onQueue (CmdQueue.retire slot) : DeviceM H Irq Unit) := by
  intro d kept
  rw [onQueue, wp_zoom]
  by_cases head : d.queue.working? = some slot
  · apply (CmdQueue.retire_spec kept.settled head).imp_ok
    intro _ q retired
    subst retired
    refine ⟨kept.settled.retired head, fun other => ?_, kept.log⟩
    rw [CmdQueue.cmds_retired]
    split
    · rename_i same
      rw [same]
      exact rule.released (kept.slots slot)
    · exact kept.slots other
  · refine (CmdQueue.retire_of_not_working head).mono (fun _ _ absurd => absurd.elim) ?_
    intro _ q same
    subst same
    exact kept

/-- A slot that was just taken, before anything was written to it. -/
theorem Kept.created {d : Device H Irq} (kept : Kept P L d) (room : d.queue.isFull = false) :
    Kept P L ({ d with queue := d.queue.created } : Device H Irq) := by
  refine ⟨kept.settled.created room, fun slot => ?_, kept.log⟩
  show P slot d.log (d.queue.created.cmds slot)
  rw [CmdQueue.cmds_created]
  split
  · rename_i same
    refine rule.taken (kept.slots slot) ?_
    rw [same]
    simpa using (kept.settled.enqueued d.queue.create).not.mpr d.queue.create_notMem_outstanding
  · exact kept.slots slot

/-- The slot of a new request is entered with its first command. A request that throws before has only put
its name on the slot. -/
theorem kept_submitRequest {req : Request} (wanted : allowed req) {d : Device H Irq}
    (kept : Kept P L d) (room : d.queue.isFull = false) :
    wp (submitRequest drv info d.queue.create req) (fun _ d' => Kept P L d')
      (fun _ d' => Kept P L d') ({ d with queue := d.queue.created } : Device H Irq) := by
  have created := kept.created rule room
  have unmarked : (d.queue.cmds d.queue.create).flags.enqueued = false := by
    simpa using (kept.settled.enqueued d.queue.create).not.mpr d.queue.create_notMem_outstanding
  have fresh : d.queue.created.cmds d.queue.create = (d.queue.cmds d.queue.create).taken := by
    rw [CmdQueue.cmds_created, if_pos rfl]
  have mark : (d.queue.created.cmds d.queue.create).flags.enqueued = true := by
    rw [fresh]
    rfl
  have kick : ∀ c, c = firstCommand drv info req (d.queue.cmds d.queue.create).taken →
      wp (cmdQueueKick drv) (fun _ d' => Kept P L d') (fun _ d' => Kept P L d')
        (({ d with queue := d.queue.created } : Device H Irq).setCmd d.queue.create c) := by
    intro c first
    refine keeps_cmdQueueKick rule _ (created.setCmd ?_ ?_)
    · rw [first, (firstCommand_resumed drv info req _).2.2.1]
      exact mark.symm
    · rw [first]
      exact rule.entered wanted rfl
  simp only [submitRequest, wp_bind, wp_modifyCmd, wp_ite, wp_throw, setCmd_setCmd, queue_setCmd,
    CmdQueue.cmds_setCmd_self]
  rw [fresh]
  refine ⟨fun _ => ?_, fun _ => ⟨fun adma => kick _ ?_, fun sdma => kick _ ?_⟩⟩
  · exact created.setCmd mark.symm (rule.named (kept.slots _) unmarked req.cb)
  · simp only [firstCommand, adma, if_true]
    rfl
  · simp only [firstCommand, sdma, if_false, Bool.false_eq_true]
    rfl

/-- What is cleaned up behind an exception retires the slot. -/
theorem keeps_cleanUp (slot : Slot) :
    Keeps (Kept P L) (cleanUp drv slot : DeviceM H Irq Int) :=
  (keeps_retire rule slot).bind fun _ => (keeps_cmdQueueKick rule).bind fun _ => keeps_pure _

/-- A request is refused before it takes a slot, entered, or cleaned up. -/
theorem keeps_inoutData {req : Request} (wanted : allowed req) :
    Keeps (Kept P L) (inoutData drv info req : DeviceM H Irq Int) := by
  intro d kept
  simp only [inoutData, wp_bind, onQueue, wp_zoom]
  apply (CmdQueue.createCmd_spec kept.settled).imp_ok
  intro slot q created
  by_cases full : d.queue.isFull = true
  · rw [if_pos full] at created
    rcases created with ⟨rfl, rfl⟩
    exact kept.emit rule rfl
  · rw [if_neg full] at created
    rcases created with ⟨rfl, rfl⟩
    have room : d.queue.isFull = false := by simpa using full
    simp only [wp_bind, wp_tryCatch, wp_pure]
    refine (kept_submitRequest rule wanted kept room).mono ?_ ?_
    · intro _ d₁ kept₁
      exact keeps_emit rule (by rfl) d₁ kept₁
    · intro _ d₁ kept₁
      apply (keeps_cleanUp rule d.queue.create d₁ kept₁).imp
      intro _ d₂ kept₂
      exact keeps_emit rule (by rfl) d₂ kept₂

/-- That its outcome is noted for the caller does not matter. -/
theorem keeps_callInout {req : Request} (wanted : allowed req) :
    Keeps (Kept P L) (callInout drv info req : DeviceM H Irq Unit) :=
  (keeps_inoutData rule wanted).bind fun _ => keeps_modify fun _ kept => ⟨kept.settled, kept.slots, kept.log⟩

theorem keeps_inoutAll {reqs : List Request} (wanted : ∀ req ∈ reqs, allowed req) :
    Keeps (Kept P L) (inoutAll drv info reqs : DeviceM H Irq Unit) := by
  induction reqs with
  | nil => exact keeps_pure _
  | cons req reqs ih =>
    refine (keeps_callInout rule (wanted req List.mem_cons_self)).bind fun _ => ih ?_
    intro req' member
    exact wanted req' (List.mem_cons_of_mem _ member)

/-! ## Interrupts -/

/-- Going on with a request whose command is not in flight. -/
theorem kept_handleIrqInout {nested : List Request} (wanted : ∀ req ∈ nested, allowed req)
    {d : Device H Irq} (kept : Kept P L d) {slot : Slot}
    (ended : (d.queue.cmds slot).progress = false)
    (inout : (d.queue.cmds slot).flags.inout = true) :
    wp (handleIrqInout drv info slot nested) (fun _ d' => Kept P L d')
      (fun _ d' => Kept P L d') d := by
  simp only [handleIrqInout, wp_bind, wp_get]
  cases context : (d.queue.cmds slot).cbIo with
  | none => exact kept
  | some cb =>
    simp only [wp_bind, wp_modifyCmd]
    cases work : (inoutWork drv info (d.queue.cmds slot)).2 with
    | moreWork =>
      refine keeps_cmdQueueKick rule _ (kept.setCmd ?_ ?_)
      · exact (inoutWork_resumed drv info work).owner.enqueued
      · exact rule.continued (kept.slots slot) ended inout context work
    | workDone code size =>
      obtain ⟨log, property⟩ :=
        rule.answered (kept.slots slot) ended inout context work kept.log
      simp only [emit, wp_bind, wp_modify]
      have called : Kept P L { d with log := .callback slot cb code size :: d.log } :=
        ⟨kept.settled, fun other => rule.older (kept.slots other) _, log⟩
      have marked := (inoutWork_done drv info work).2.1.enqueued
      have written : Kept P L (({ d with log := .callback slot cb code size :: d.log } :
          Device H Irq).setCmd slot (inoutWork drv info (d.queue.cmds slot)).1) :=
        called.setCmd marked property
      apply (keeps_inoutAll rule wanted _ written).imp
      intro _ d₁ kept₁
      apply (keeps_retire rule slot d₁ kept₁).imp
      intro _ d₂ kept₂
      exact keeps_cmdQueueKick rule d₂ kept₂

theorem keeps_drvHandleIrq (slot : Slot) :
    Keeps (Kept P L) (drvHandleIrq drv slot : DeviceM H Irq Unit) := by
  refine keeps_get_bind fun d kept => ?_
  refine (keeps_onCmd rule fun c h => ?_).bind (fun _ => keeps_get_bind fun d' kept' => ?_) d kept
  · cases busy : c.progress with
    | false =>
      exact (drv.handleIrq_idle busy h).mono (fun _ _ post => post.1)
        (fun _ _ absurd => absurd.elim)
    | true => exact (drv.handleIrq_spec h busy).mono (fun _ _ post => post.same) (fun _ _ p => p)
  · exact Keeps.ite (keeps_emit rule (by rfl)) (keeps_pure _) d' kept'

/-- An interrupt ends a command, continues its request or answers it, and the requests of the callback come
behind the answer. -/
theorem keeps_handleIrq (irq : Irq) {nested : List Request}
    (wanted : ∀ req ∈ nested, allowed req) :
    Keeps (Kept P L) (handleIrq drv info irq nested : DeviceM H Irq Unit) := by
  refine (keeps_modify fun d kept => ⟨kept.settled, kept.slots, kept.log⟩).bind fun _ =>
    Keeps.tryCatch (keeps_get_bind fun d kept => ?_) fun _ => keeps_pure _
  cases d.queue.working? with
  | none => exact kept
  | some slot =>
    refine (keeps_drvHandleIrq rule slot).bind (fun _ => keeps_get_bind fun d' kept' => ?_) d kept
    by_cases busy : (d'.queue.cmds slot).progress = true
    · rw [if_pos busy]
      exact ⟨kept'.settled, kept'.slots, kept'.log⟩
    rw [if_neg busy]
    by_cases inout : (d'.queue.cmds slot).flags.inout = true
    · rw [if_pos inout]
      exact kept_handleIrqInout rule wanted kept' (by simpa using busy) inout
    · rw [if_neg inout]
      exact keeps_cmdQueueKick rule d' kept'

/-! ## Flushes -/

/-- A command that is polled uses a slot like any other one. -/
theorem keeps_cmdExec (slot : Slot) :
    Keeps (Kept P L) (cmdExec drv info slot : DeviceM H Irq Unit) := by
  intro d kept
  have written : ∀ s : HwOps.Sync H Irq, (d.queue.cmds slot).SameRequest s.cmd →
      Kept P L { d with queue := d.queue.setCmd slot s.cmd, hw := s.hw, irqs := s.irqs } := by
    intro s same
    have after := kept.setCmd same.enqueued (rule.driver (kept.slots slot) same)
    exact ⟨after.settled, after.slots, after.log⟩
  simp only [cmdExec, wp_bind, wp_zoom, wp_get]
  refine (drv.cmdExec_same info.recvError ⟨d.queue.cmds slot, d.hw, d.irqs⟩).mono ?_ ?_
  · intro _ s same
    exact keeps_emit rule (by rfl) _ (written s same)
  · intro _ s same
    exact written s same

theorem keeps_initArg (slot : Slot) (word arg : U32) :
    Keeps (Kept P L) (modifyCmd slot (·.initArg word arg) : DeviceM H Irq Unit) :=
  fun _ kept => kept.setCmd rfl (rule.setup (kept.slots slot) word arg)

theorem keeps_markStatusAfterSwitch (slot : Slot) :
    Keeps (Kept P L) (modifyCmd slot (·.markStatusAfterSwitch) : DeviceM H Irq Unit) :=
  fun _ kept => kept.setCmd rfl (rule.marked (kept.slots slot))

/-- By induction on the number of polls. -/
theorem keeps_pollSwitch (slot : Slot) (polls : Nat) :
    Keeps (Kept P L) (pollSwitch drv info slot polls : DeviceM H Irq Unit) := by
  induction polls with
  | zero => exact keeps_pure _
  | succ polls ih =>
    refine (keeps_initArg rule slot _ _).bind fun _ =>
      (keeps_cmdExec rule slot).bind fun _ => keeps_get_bind fun d kept => ?_
    refine Keeps.ite (keeps_pure _) ?_ d kept
    cases (d.queue.cmds slot).mmcStatus with
    | error e => exact keeps_throw e
    | ok status => exact Keeps.ite (keeps_pure _) ih

theorem keeps_execMmcSwitch (slot : Slot) (idx val : U8) :
    Keeps (Kept P L) (execMmcSwitch drv info slot idx val : DeviceM H Irq Unit) := by
  refine (keeps_initArg rule slot _ _).bind fun _ =>
    (keeps_markStatusAfterSwitch rule slot).bind fun _ => (keeps_cmdExec rule slot).bind fun _ =>
      keeps_get_bind fun d kept => ?_
  exact Keeps.ite (keeps_pollSwitch rule slot 50) (keeps_pure _) d kept

/-- A flush sets its slot up for CMD6 and CMD13, which no request is about. -/
theorem keeps_flushSlot (slot : Slot) :
    Keeps (Kept P L) (flushSlot drv info slot : DeviceM H Irq Unit) := by
  refine (keeps_execMmcSwitch rule slot _ _).bind fun _ => keeps_get_bind fun d kept => ?_
  cases (d.queue.cmds slot).checkError "CMD6: SWITCH/FLUSH_CACHE" with
  | error e => exact kept
  | ok _ => exact keeps_retire rule slot d kept

/-- A full queue throws before there is a slot; an exception behind that retires the slot. -/
theorem keeps_flush (cb : Callback) :
    Keeps (Kept P L) (flush drv info cb : DeviceM H Irq Int) := by
  refine Keeps.ite ((keeps_emit rule (by rfl)).bind fun _ => keeps_pure _) fun d kept => ?_
  rw [wp_bind, onQueue, wp_zoom]
  apply (CmdQueue.createCmd_spec kept.settled).imp_ok
  intro slot q created
  by_cases full : d.queue.isFull = true
  · rw [if_pos full] at created
    rcases created with ⟨rfl, rfl⟩
    exact kept
  · rw [if_neg full] at created
    rcases created with ⟨rfl, rfl⟩
    have body : Keeps (Kept P L) (tryCatch
        (do
          flushSlot drv info d.queue.create
          return L4.eok)
        fun _ => do
          onQueue (CmdQueue.retire d.queue.create)
          return -L4.einval : DeviceM H Irq Int) :=
      ((keeps_flushSlot rule _).bind fun _ => keeps_pure _).tryCatch
        fun _ => (keeps_retire rule _).bind fun _ => keeps_pure _
    have room : d.queue.isFull = false := by simpa using full
    exact (body.bind fun code => Keeps.ite ((keeps_emit rule (by rfl)).bind fun _ => keeps_pure _)
      (keeps_pure _)) _ (kept.created rule room)

/-! ## Runs -/

/-- An operation whose requests are all allowed keeps the rules of all slots and of the log. -/
theorem kept_step {op : Op Irq} (wanted : ∀ req ∈ op.requests, allowed req) {d : Device H Irq}
    (kept : Kept P L d) : Kept P L (step drv info op d) := by
  cases op with
  | inout req =>
    exact (keeps_callInout rule (wanted req List.mem_cons_self)).after kept
  | irq irq nested => exact (keeps_handleIrq rule irq wanted).after kept
  | flush irqs cb =>
    exact ((keeps_modify fun d kept => ⟨kept.settled, kept.slots, kept.log⟩).bind
      fun _ => (keeps_flush rule cb).bind fun _ => keeps_pure _).after kept

/-- What a slot keeps, it keeps in every run. -/
theorem kept_run {ops : List (Op Irq)} (wanted : ∀ op ∈ ops, ∀ req ∈ op.requests, allowed req)
    (h : H) (blank : ∀ slot, P slot [] {}) (empty : L []) :
    Kept P L (Runs.run (step drv info) ops (start h)) :=
  Runs.run_invariant (P := fun op _ => ∀ req ∈ op.requests, allowed req)
    (fun _ _ kept wanted => kept_step rule wanted kept) ⟨settled_start h, blank, empty⟩
    (Runs.along_of_forall wanted _)

end Rule

/-! ## Commands of requests -/

variable (drv info) in
/-- What the device does with the command of an in/out request. -/
structure InoutRule (allowed : Request → Prop) (Q : Slot → List Event → Cmd → Prop)
    (L : List Event → Prop) : Prop where
  older : ∀ {slot log c}, Q slot log c → ∀ event, Q slot (event :: log) c
  driver : ∀ {slot log c c'}, Q slot log c → c.SameRequest c' → Q slot log c'
  entered : ∀ {slot log c req}, allowed req → Q slot log (firstCommand drv info req c)
  continued : ∀ {slot log c cb}, Q slot log c → c.progress = false → c.cbIo = some cb →
    (inoutWork drv info c).2 = .moreWork → Q slot log (inoutWork drv info c).1
  answered : ∀ {slot log c cb code size}, Q slot log c → c.progress = false →
    c.cbIo = some cb → (inoutWork drv info c).2 = .workDone code size → L log →
    L (.callback slot cb code size :: log) ∧
      Q slot (.callback slot cb code size :: log) (inoutWork drv info c).1
  quiet : ∀ {event log}, event.Quiet → L log → L (event :: log)

/-- A free slot is not marked as the slot of a request; one that is marked has the property. -/
def InoutSlot (Q : Slot → List Event → Cmd → Prop) (slot : Slot) (log : List Event) (c : Cmd) :
    Prop :=
  (c.flags.enqueued = false → c.flags.inout = false) ∧ (c.flags.inout = true → Q slot log c)

/-- A command that is not marked as that of a request. -/
theorem inoutSlot_other {Q : Slot → List Event → Cmd → Prop} {slot : Slot} {log : List Event}
    {c : Cmd} (other : c.flags.inout = false) : InoutSlot Q slot log c :=
  ⟨fun _ => other, fun inout => absurd (other.symm.trans inout) Bool.false_ne_true⟩

/-- A rule about the commands of requests is a rule about slots: a slot without a request satisfies it. -/
theorem InoutRule.slots {Q : Slot → List Event → Cmd → Prop}
    (rule : InoutRule drv info allowed Q L) : SlotRule drv info allowed (InoutSlot Q) L where
  older := fun property event =>
    ⟨property.1, fun inout => rule.older (property.2 inout) event⟩
  driver := by
    intro slot log c c' property same
    rw [InoutSlot, same.enqueued, same.inout]
    exact ⟨property.1, fun inout => rule.driver (property.2 inout) same⟩
  taken := fun property free => inoutSlot_other (property.1 free)
  named := fun property free _ => inoutSlot_other (property.1 free)
  entered := by
    intro slot log c req wanted mark
    have enqueued := (firstCommand_resumed drv info req c).2.2.1
    exact ⟨fun free => absurd ((mark.symm.trans enqueued.symm).trans free) (by decide),
      fun _ => rule.entered wanted⟩
  setup := fun _ _ _ => inoutSlot_other rfl
  marked := fun property =>
    ⟨property.1, fun inout => rule.driver (property.2 inout) (by constructor <;> rfl)⟩
  released := fun _ => inoutSlot_other rfl
  continued := by
    intro slot log c cb property ended inout context more
    have owner := (inoutWork_resumed drv info more).owner
    rw [InoutSlot, owner.enqueued, owner.inout]
    exact ⟨property.1, fun inout => rule.continued (property.2 inout) ended context more⟩
  answered := by
    intro slot log c cb code size property ended inout context done written
    obtain ⟨log', property'⟩ := rule.answered (property.2 inout) ended context done written
    have owner := (inoutWork_done drv info done).2.1
    rw [InoutSlot, owner.enqueued, owner.inout]
    exact ⟨log', property.1, fun _ => property'⟩
  quiet := rule.quiet

/-- What the commands of the requests keep, and what is logged with them, in every run. -/
theorem inout_run {Q : Slot → List Event → Cmd → Prop} (rule : InoutRule drv info allowed Q L)
    {ops : List (Op Irq)} (wanted : ∀ op ∈ ops, ∀ req ∈ op.requests, allowed req) (h : H)
    (empty : L []) : Kept (InoutSlot Q) L (Runs.run (step drv info) ops (start h)) :=
  kept_run rule.slots wanted h (fun _ => inoutSlot_other rfl) empty

end Device

end Emmc
