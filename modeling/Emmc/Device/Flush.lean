import Emmc.Device.Fifo

/-!
# Flushing the cache beside requests in flight

`flush` takes a slot at the tail of the queue but executes its command synchronously, past the
queue. Its `work_done()` insists on being the head, so `flush` only works when nothing else is
outstanding.

* `execMmcSwitch_spec`: until `work_done()`, the switch only touches the slot of the flush.
* `flush_spec`: what `flush` does to a settled queue.
* `settled_run`: the queue is settled after every run, whatever the interrupts and requests.
* `flushSafe_iff`: `flush` leaves the queue as it was if and only if no command is outstanding
  or it is refused because the queue is full.
-/

namespace Emmc

open Throwing

variable {H Irq : Type}

namespace Device

variable (drv : HwDrv H Irq) (info : DeviceInfo)

/-- Only the command in `slot` was rewritten, and it stays marked as it is. -/
def InSlot (slot : Slot) (d d' : Device H Irq) : Prop :=
  ∃ c : Cmd, c.flags.enqueued = (d.queue.cmds slot).flags.enqueued ∧
    d'.queue = d.queue.setCmd slot c

theorem InSlot.refl (slot : Slot) (d : Device H Irq) : InSlot slot d d := by
  refine ⟨d.queue.cmds slot, rfl, ?_⟩
  simp only [CmdQueue.setCmd, Function.update_eq_self]

theorem InSlot.trans {slot : Slot} {d d' d'' : Device H Irq} (first : InSlot slot d d')
    (second : InSlot slot d' d'') : InSlot slot d d'' := by
  rcases first with ⟨c, flag, queue⟩
  rcases second with ⟨c', flag', queue'⟩
  rw [queue, CmdQueue.cmds_setCmd_self] at flag'
  exact ⟨c', flag'.trans flag, by rw [queue', queue, CmdQueue.setCmd_setCmd]⟩

theorem InSlot.settled {slot : Slot} {d d' : Device H Irq} (inSlot : InSlot slot d d')
    (settled : d.queue.Settled) : d'.queue.Settled := by
  rcases inSlot with ⟨c, flag, queue⟩
  rw [queue]
  exact settled.setCmd flag

/-- Preparing a command in a slot. -/
theorem inSlot_setCmd {slot : Slot} {d : Device H Irq} {c : Cmd}
    (flag : c.flags.enqueued = (d.queue.cmds slot).flags.enqueued) :
    InSlot slot d (d.setCmd slot c) :=
  ⟨c, flag, rfl⟩

theorem cmdExec_spec (slot : Slot) (d : Device H Irq) :
    wp (cmdExec drv info slot) (fun _ d' => InSlot slot d d') (fun _ d' => InSlot slot d d') d := by
  simp only [cmdExec, emit, wp_bind, wp_zoom, wp_get, wp_modify]
  have same := drv.cmdExec_same info.recvError ⟨d.queue.cmds slot, d.hw, d.irqs⟩
  exact same.mono (fun _ s same => ⟨s.cmd, same.enqueued, rfl⟩)
    (fun _ s same => ⟨s.cmd, same.enqueued, rfl⟩)

theorem pollSwitch_spec (slot : Slot) (polls : Nat) (d : Device H Irq) :
    wp (pollSwitch drv info slot polls) (fun _ d' => InSlot slot d d')
      (fun _ d' => InSlot slot d d') d := by
  induction polls generalizing d with
  | zero => exact InSlot.refl slot d
  | succ polls ih =>
    simp only [pollSwitch, wp_bind, wp_modifyCmd, wp_get]
    have prepared : InSlot slot d (d.setCmd slot ((d.queue.cmds slot).initArg
        Mmc.cmd13SendStatus (info.rca.setWidth 32 <<< 16))) := inSlot_setCmd rfl
    refine (cmdExec_spec drv info slot _).mono ?_ (fun _ _ post => prepared.trans post)
    intro _ d₁ executed
    have done := prepared.trans executed
    rw [wp_ite]
    refine ⟨fun _ => done, fun _ => ?_⟩
    cases (d₁.queue.cmds slot).mmcStatus with
    | error e => exact done
    | ok status =>
      simp only [wp_ite, wp_pure]
      exact ⟨fun _ => done, fun _ => (ih d₁).mono (fun _ _ post => done.trans post)
        (fun _ _ post => done.trans post)⟩

/-- The switch only touches its own slot. -/
theorem execMmcSwitch_spec (slot : Slot) (idx val : U8) (d : Device H Irq) :
    wp (execMmcSwitch drv info slot idx val) (fun _ d' => InSlot slot d d')
      (fun _ d' => InSlot slot d d') d := by
  simp only [execMmcSwitch, wp_bind, wp_modifyCmd, wp_get, queue_setCmd, setCmd_setCmd,
    CmdQueue.cmds_setCmd_self, wp_ite, wp_pure]
  have prepared : ∀ arg, InSlot slot d (d.setCmd slot
      ((d.queue.cmds slot).initArg Mmc.cmd6Switch arg).markStatusAfterSwitch) :=
    fun _ => inSlot_setCmd rfl
  refine (cmdExec_spec drv info slot _).mono ?_ (fun _ _ post => (prepared _).trans post)
  intro _ d₁ executed
  have done := (prepared _).trans executed
  exact ⟨fun _ => (pollSwitch_spec drv info slot 50 d₁).mono (fun _ _ post => done.trans post)
    (fun _ _ post => done.trans post), fun _ => done⟩

/-- A device whose only change is in the slot just created. -/
theorem InSlot.slots {d d' : Device H Irq} (room : d.queue.isFull = false)
    (inSlot : InSlot d.queue.create ({ d with queue := d.queue.created } : Device H Irq) d') :
    d'.queue.pending.map Prod.fst = d.queue.pending.map Prod.fst ++ [d.queue.create] ∧
    ∃ c, d'.queue.pending = d.queue.pending ++ [(d.queue.create, c)] := by
  rcases inSlot with ⟨c, -, queue⟩
  have pending : d'.queue.pending = d.queue.pending ++ [(d.queue.create, c)] := by
    rw [queue]
    exact CmdQueue.pending_created room c
  exact ⟨by rw [pending, List.map_append, List.map_singleton], c, pending⟩

section Slot

variable {d : Device H Irq} (settled : d.queue.Settled) (room : d.queue.isFull = false)
include settled room

/-- `work_done()` and `destruct()` on the slot of the flush, as the success path and the handler
both call them. -/
theorem retire_created {d₂ : Device H Irq}
    (inSlot : InSlot d.queue.create ({ d with queue := d.queue.created } : Device H Irq) d₂) :
    wp (onQueue (CmdQueue.retire d.queue.create))
      (fun _ d' => d'.queue.Settled ∧ d'.queue.pending = d.queue.pending ∧ d.queue.pending = [])
      (fun _ d' => d.queue.pending ≠ [] ∧ d' = d₂) d₂ := by
  have fresh : d.queue.create ∉ d.queue.pending.map Prod.fst := by
    rw [CmdQueue.slots_pending]
    exact d.queue.create_notMem_outstanding
  have settled₂ := inSlot.settled (settled.created room)
  refine (retire_last settled₂ (inSlot.slots room).1 fresh).mono ?_ ?_
  · intro _ d' post
    rcases post with ⟨alone, settled', view⟩
    have empty : d.queue.pending = [] := List.map_eq_nil_iff.mp alone
    have pending : d'.queue.pending = [] := congrArg View.pending view
    exact ⟨settled', pending.trans empty.symm, empty⟩
  · intro _ d' post
    exact ⟨fun empty => post.1 (by rw [empty]; rfl), post.2⟩

theorem flushSlot_spec :
    wp (flushSlot drv info d.queue.create)
      (fun _ d' => d'.queue.Settled ∧ d'.queue.pending = d.queue.pending ∧ d.queue.pending = [])
      (fun _ d' =>
        InSlot d.queue.create ({ d with queue := d.queue.created } : Device H Irq) d')
      { d with queue := d.queue.created } := by
  simp only [flushSlot, wp_bind, wp_get]
  apply (execMmcSwitch_spec drv info d.queue.create _ _ _).imp
  intro _ d₂ inSlot
  cases (d₂.queue.cmds d.queue.create).checkError "CMD6: SWITCH/FLUSH_CACHE" with
  | error e => exact inSlot
  | ok _ =>
    refine (retire_created settled room inSlot).mono (fun _ _ post => post) ?_
    intro _ d' post
    rw [post.2]
    exact inSlot

end Slot

/-- `flush` on a settled queue: it returns only if nothing else is outstanding, or if it got no
slot. Otherwise its own slot stays behind. -/
theorem flush_spec (cache : info.hasCache = true) (cb : Callback) {d : Device H Irq}
    (settled : d.queue.Settled) :
    wp (flush drv info cb)
      (fun _ d' => d'.queue.Settled ∧ d'.queue.pending = d.queue.pending ∧
        (d.queue.pending = [] ∨ d.queue.isFull = true))
      (fun _ d' => d'.queue.Settled ∧ d.queue.isFull = false ∧ d.queue.pending ≠ []) d := by
  have noShortcut : ¬(!info.hasCache) = true := by simp [cache]
  simp only [flush, if_neg noShortcut, wp_bind, onQueue, wp_zoom]
  apply (CmdQueue.createCmd_spec settled).imp_ok
  intro slot q created
  by_cases full : d.queue.isFull = true
  · rw [if_pos full] at created
    rcases created with ⟨rfl, rfl⟩
    exact ⟨settled, rfl, Or.inr full⟩
  rw [if_neg full] at created
  rcases created with ⟨rfl, rfl⟩
  have room : d.queue.isFull = false := by simpa using full
  simp only [wp_bind, wp_tryCatch, wp_pure, wp_ite, emit, wp_modify]
  refine (flushSlot_spec drv info settled room).mono ?_ ?_
  · intro _ d₂ post
    rcases post with ⟨settled₂, pending₂, empty⟩
    exact ⟨fun _ => ⟨settled₂, pending₂, Or.inl empty⟩,
      fun _ => ⟨settled₂, pending₂, Or.inl empty⟩⟩
  · intro _ d₂ inSlot
    refine (retire_created settled room inSlot).mono ?_ ?_
    · intro _ d' post
      rcases post with ⟨settled', pending', empty⟩
      exact ⟨fun _ => ⟨settled', pending', Or.inl empty⟩,
        fun _ => ⟨settled', pending', Or.inl empty⟩⟩
    · intro _ d' post
      rw [post.2]
      exact ⟨inSlot.settled (settled.created room), room, post.1⟩

/-! ## Runs -/

/-- Every operation leaves the queue settled, whether it returns or throws. -/
theorem settled_step (op : Op Irq) {d : Device H Irq} (settled : d.queue.Settled) :
    (step drv info op d).queue.Settled := by
  refine after_of_wp (P := fun d' : Device H Irq => d'.queue.Settled) ?_
  cases op with
  | inout req =>
    rw [exec, wp_callInout]
    exact (inoutData_spec drv info settled req).mono (fun _ _ post => post.1)
      (fun _ _ post => post.1)
  | irq irq nested =>
    exact (handleIrq_spec drv info irq nested settled).mono (fun _ _ post => post.1)
      (fun _ _ absurd => absurd.elim)
  | flush irqs cb =>
    simp only [exec, wp_bind, wp_modify, wp_pure]
    by_cases cache : info.hasCache = true
    · exact (flush_spec drv info cache cb (d := { d with irqs := irqs }) settled).mono
        (fun _ _ post => post.1) (fun _ _ post => post.1)
    · have shortcut : (!info.hasCache) = true := by simpa using cache
      simp only [flush, if_pos shortcut, emit, wp_bind, wp_modify, wp_pure]
      exact settled

theorem settled_start (h : H) : (start h : Device H Irq).queue.Settled := by
  refine ⟨rfl, fun slot => ?_⟩
  show false = true ↔ slot ∈ CmdQueue.slotsFrom 0 (CmdQueue.distance 0 0)
  simp [CmdQueue.slotsFrom]

/-- The queue of every reachable device is settled. -/
theorem settled_run (ops : List (Op Irq)) (h : H) :
    (Runs.run (step drv info) ops (start h)).queue.Settled :=
  Runs.run_invariant (I := fun d : Device H Irq => d.queue.Settled) (P := fun _ _ => True)
    (fun op _ settled _ => settled_step drv info op settled) (settled_start h)
    (Runs.along_of_forall (fun _ _ => trivial) _)

/-! ## Safety of a flush -/

/-- With these interrupts to come, `flush` returns, and it leaves the outstanding commands alone
and gives its own slot back. -/
def FlushSafe (irqs : List Irq) (cb : Callback) (d : Device H Irq) : Prop :=
  wp (flush drv info cb) (fun _ d' => d.queue.SameOutstanding d'.queue) (fun _ _ => False)
    { d with irqs := irqs }

theorem flushSafe_iff (cache : info.hasCache = true) (irqs : List Irq) (cb : Callback)
    {d : Device H Irq} (settled : d.queue.Settled) :
    FlushSafe drv info irqs cb d ↔ d.queue.outstanding = [] ∨ d.queue.isFull = true := by
  have spec := flush_spec drv info cache cb (d := { d with irqs := irqs }) settled
  apply Iff.intro
  · intro safe
    have both := safe.and spec
    unfold wp at both
    cases outcome : flush drv info cb { d with irqs := irqs } with
    | ok code d' =>
      rw [outcome] at both
      rcases both.2.2.2 with empty | full
      · exact Or.inl (CmdQueue.pending_eq_nil.mp empty)
      · exact Or.inr full
    | error e d' =>
      rw [outcome] at both
      exact both.1.elim
  · intro condition
    refine spec.mono ?_ ?_
    · intro _ d' post
      exact settled.sameOutstanding post.1 post.2.1
    · intro _ d' post
      rcases post with ⟨-, room, others⟩
      rcases condition with empty | full
      · exact others (CmdQueue.pending_eq_nil.mpr empty)
      · exact Bool.false_ne_true (room.symm.trans full)

end Device

end Emmc
