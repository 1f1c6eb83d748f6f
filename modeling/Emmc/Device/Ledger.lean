import Emmc.Device.Flush
import Emmc.Lib.Frame

/-!
# The books of the device

The log is read as a history: which requests were accepted, whose callbacks were called, and how
the commands of a request ended.

* `transfers slot log`: the outcomes of the CMD23 and data commands since a request entered `slot`.
* `Ledger`: the accepted requests are the answered ones followed by the outstanding ones, and every
  answer agrees with the outcomes.
* `Replied`: the callers were told that exactly these requests are accepted; every operation keeps this
  (`replied_step`), since between the calls of a client nothing of it is touched (`spares_*`).
-/

namespace Emmc

open Throwing

namespace Event

/-- The request whose acceptance the event reports, if it has a callback. -/
def accepted? : Event → Option (Slot × Callback)
  | .returned (some slot) (some cb) code => if code = L4.eok then some (slot, cb) else none
  | _ => none

/-- The request whose callback was called. -/
def called? : Event → Option (Slot × Callback)
  | .callback slot cb _ _ => some (slot, cb)
  | _ => none

end Event

/-- The accepted requests, in the order of acceptance. -/
def acceptedRequests (log : List Event) : List (Slot × Callback) :=
  log.reverse.filterMap Event.accepted?

/-- The answered requests, in the order of their callbacks. -/
def calledRequests (log : List Event) : List (Slot × Callback) :=
  log.reverse.filterMap Event.called?

/-- The outcomes of the CMD23 and data commands in `slot` since it was given to a request, the last
one first. -/
def transfers (slot : Slot) : List Event → List Status
  | [] => []
  | .ended s cmd status _ :: log =>
    if s = slot ∧ cmd ∈ Mmc.transferCommands then status :: transfers slot log
    else transfers slot log
  | .returned (some s) _ _ :: log => if s = slot then [] else transfers slot log
  | _ :: log => transfers slot log

/-- Every callback got the code that the outcomes before it demand. -/
def Reported : List Event → Prop
  | [] => True
  | .callback slot _ code _ :: log =>
    (code = if ∀ status ∈ transfers slot log, status = .success then L4.eok else -L4.eio) ∧
      Reported log
  | _ :: log => Reported log

/-- The callbacks that are due. -/
def callbacks (pending : List (Slot × Cmd)) : List (Slot × Callback) :=
  pending.filterMap fun entry => entry.2.cbIo.map (Prod.mk entry.1)

/-- The books: `due` are the requests that were accepted and not answered. -/
structure Ledger (log : List Event) (due : List (Slot × Callback)) : Prop where
  balanced : acceptedRequests log = calledRequests log ++ due
  reported : Reported log

/-- No driver call threw. -/
def Calm (log : List Event) : Prop := ∀ slot, Event.threw slot ∉ log

/-- Nothing was thrown before, if nothing was thrown by now. -/
theorem Calm.suffix {log log' : List Event} (calm : Calm log') (suffix : log <:+ log') :
    Calm log :=
  fun slot member => calm slot (suffix.mem member)

/-- Where something was thrown, the log is not calm. -/
theorem not_calm {slot : Slot} {log : List Event} : ¬ Calm (.threw slot :: log) :=
  fun calm => calm slot List.mem_cons_self

/-! ## The books and single events -/

/-- A new event accepts at most one request, and it is the last one. -/
theorem acceptedRequests_cons (event : Event) (log : List Event) :
    acceptedRequests (event :: log) = acceptedRequests log ++ event.accepted?.toList :=
  Runs.filterMap_reverse_cons Event.accepted? event log

/-- The same for the callbacks. -/
theorem calledRequests_cons (event : Event) (log : List Event) :
    calledRequests (event :: log) = calledRequests log ++ event.called?.toList :=
  Runs.filterMap_reverse_cons Event.called? event log

theorem callbacks_cons (slot : Slot) (c : Cmd) (rest : List (Slot × Cmd)) :
    callbacks ((slot, c) :: rest) = (c.cbIo.map (Prod.mk slot)).toList ++ callbacks rest := by
  simp only [callbacks, List.filterMap_cons]
  cases c.cbIo <;> rfl

/-- The callbacks that are due lie in the order of the commands. -/
theorem callbacks_append (front back : List (Slot × Cmd)) :
    callbacks (front ++ back) = callbacks front ++ callbacks back :=
  List.filterMap_append

/-- Events that neither accept nor answer a request leave the books alone. -/
theorem Ledger.other {log : List Event} {due : List (Slot × Callback)} (ledger : Ledger log due)
    {event : Event} (accepts : event.accepted? = none) (calls : event.called? = none) :
    Ledger (event :: log) due := by
  refine ⟨?_, ?_⟩
  · rw [acceptedRequests_cons, calledRequests_cons, accepts, calls]
    simpa using ledger.balanced
  · cases event with
    | callback => cases calls
    | _ => exact ledger.reported

/-- A request is accepted. -/
theorem Ledger.accept {log : List Event} {due : List (Slot × Callback)} (ledger : Ledger log due)
    (slot : Slot) (cb : Option Callback) :
    Ledger (.returned (some slot) cb L4.eok :: log) (due ++ (cb.map (Prod.mk slot)).toList) := by
  refine ⟨?_, ledger.reported⟩
  have event : (Event.returned (some slot) cb L4.eok).accepted? = cb.map (Prod.mk slot) := by
    cases cb with
    | none => rfl
    | some cb => simp [Event.accepted?]
  rw [acceptedRequests_cons, calledRequests_cons, event, ledger.balanced]
  simp [Event.called?]

/-- The oldest request is answered, with the code its outcomes demand. -/
theorem Ledger.answer {log : List Event} {due : List (Slot × Callback)} {slot : Slot}
    {cb : Callback} (ledger : Ledger log ((slot, cb) :: due)) {code : Int} (size : U64)
    (agrees : code =
      if ∀ status ∈ transfers slot log, status = .success then L4.eok else -L4.eio) :
    Ledger (.callback slot cb code size :: log) due := by
  refine ⟨?_, agrees, ledger.reported⟩
  rw [acceptedRequests_cons, calledRequests_cons, ledger.balanced]
  simp [Event.accepted?, Event.called?]

/-- The code of every callback, from the outcomes before it. -/
theorem Reported.code {log front earlier : List Event} {slot : Slot} {cb : Callback} {code : Int}
    {size : U64} (reported : Reported log)
    (split : log = front ++ .callback slot cb code size :: earlier) :
    code = if ∀ status ∈ transfers slot earlier, status = .success then L4.eok else -L4.eio := by
  subst split
  induction front with
  | nil => exact reported.1
  | cons event front ih =>
    refine ih ?_
    cases event with
    | callback => exact reported.2
    | _ => exact reported

variable {H Irq : Type}

namespace Device

variable (drv : HwDrv H Irq) (info : DeviceInfo)

/-! ## What the callers were told -/

/-- The callbacks of the calls that returned `L4_EOK`, in the order of the calls. -/
def acceptedReplies (replies : List (Option Callback × Int)) : List Callback :=
  replies.reverse.filterMap fun reply => if reply.2 = L4.eok then reply.1 else none

/-- The callers were told that their requests are accepted exactly when they were. -/
def Replied (d : Device H Irq) : Prop :=
  acceptedReplies d.replies = (acceptedRequests d.log).map Prod.snd

/-- The replies and the accepted requests. -/
def books (d : Device H Irq) : List (Option Callback × Int) × List (Slot × Callback) :=
  (d.replies, acceptedRequests d.log)

/-- What leaves the books alone keeps them in agreement. -/
theorem replied_of_spares {α : Type} {m : DeviceM H Irq α} (spared : Spares books m) :
    Keeps Replied m :=
  spared.keeps fun b => acceptedReplies b.1 = b.2.map Prod.snd

/-- Only the return of a request is entered in the books. -/
theorem spares_emit {event : Event} (other : event.accepted? = none) :
    Spares books (emit event : DeviceM H Irq Unit) := by
  apply Relates.modify
  intro d
  simp only [Same, books, acceptedRequests_cons, other, Option.toList_none, List.append_nil]

/-- The commands are no part of the books. -/
theorem spares_modifyCmd (slot : Slot) (f : Cmd → Cmd) :
    Spares books (modifyCmd slot f : DeviceM H Irq Unit) :=
  Relates.modify fun _ => rfl

theorem spares_onQueue {α : Type} (m : EStateM RuntimeError CmdQueue α) :
    Spares books (onQueue m : DeviceM H Irq α) := by
  apply Spares.zoom_apart
  exact fun _ _ => rfl

theorem spares_onCmd (slot : Slot) (m : Action H Unit) :
    Spares books (onCmd slot m : DeviceM H Irq Unit) := by
  apply Relates.tryCatch
  · apply Spares.zoom_apart
    exact fun _ _ => rfl
  · exact fun e => (spares_emit rfl).bind fun _ => .throw e

theorem spares_cmdQueueKick : Spares books (cmdQueueKick drv : DeviceM H Irq Unit) := by
  have submitted : ∀ slot, Spares books (cmdSubmitOnAvail drv slot : DeviceM H Irq Unit) :=
    fun slot => (spares_onCmd slot drv.cmdSubmit).bind fun _ => Relates.get_bind fun _ => spares_emit rfl
  have kicked : Spares books (drvCmdQueueKick drv : DeviceM H Irq Bool) := by
    apply Relates.get_bind
    intro d
    dsimp only
    cases d.queue.working? with
    | none => exact Relates.pure false
    | some slot => exact Relates.ite ((submitted slot).bind fun _ => .pure true) (.pure false)
  exact kicked.bind fun _ => Relates.ite (.modify fun _ => rfl) (.pure ())

/-- A submission enters nothing: the request is accepted when `inout_data` returns. -/
theorem spares_submitRequest (slot : Slot) (req : Request) :
    Spares books (submitRequest drv info slot req) := by
  apply (spares_modifyCmd slot _).bind
  intro _
  apply Relates.ite (.throw_bind _ _)
  apply (spares_modifyCmd slot _).bind
  intro _
  apply Relates.ite
  · exact (spares_modifyCmd slot _).bind fun _ => spares_cmdQueueKick drv
  · exact (spares_modifyCmd slot _).bind fun _ => spares_cmdQueueKick drv

theorem spares_cleanUp (slot : Slot) : Spares books (cleanUp drv slot : DeviceM H Irq Int) := by
  apply (spares_onQueue _).bind
  intro _
  exact (spares_cmdQueueKick drv).bind fun _ => .pure _

/-- A call that returns `L4_EOK` accepts the request, and no other call does. -/
theorem inoutData_books (req : Request) (d : Device H Irq) :
    wp (inoutData drv info req)
      (fun code d' => d'.replies = d.replies ∧
        (acceptedRequests d'.log).map Prod.snd =
          (acceptedRequests d.log).map Prod.snd ++ if code = L4.eok then req.cb.toList else [])
      (fun _ d' => books d' = books d) d := by
  have returned : ∀ (slot : Slot) (code : Int) (d' : Device H Irq), books d' = books d →
      wp (do emit (.returned (some slot) req.cb code); return code : DeviceM H Irq Int)
        (fun code d' => d'.replies = d.replies ∧
          (acceptedRequests d'.log).map Prod.snd =
            (acceptedRequests d.log).map Prod.snd ++ if code = L4.eok then req.cb.toList else [])
        (fun _ d' => books d' = books d) d' := by
    intro slot code d' same
    have log : acceptedRequests d'.log = acceptedRequests d.log := congrArg Prod.snd same
    simp only [emit, wp_bind, wp_modify, wp_pure, acceptedRequests_cons, log, List.map_append]
    refine ⟨congrArg Prod.fst same, ?_⟩
    cases req.cb with
    | none => simp [Event.accepted?]
    | some cb =>
      by_cases ok : code = L4.eok
      · simp [Event.accepted?, ok]
      · simp [Event.accepted?, ok]
  unfold inoutData
  apply wp.bind (spares_onQueue CmdQueue.createCmd d)
  intro slot? d₁ same₁
  cases slot? with
  | none =>
    have full : ¬(-L4.ebusy = L4.eok) := by decide
    have log : acceptedRequests d₁.log = acceptedRequests d.log := congrArg Prod.snd same₁
    refine ⟨congrArg Prod.fst same₁, ?_⟩
    rw [acceptedRequests_cons, log, if_neg full]
    simp [Event.accepted?]
  | some slot =>
    have body : Spares books (tryCatch (do submitRequest drv info slot req; return L4.eok)
        fun _ => cleanUp drv slot : DeviceM H Irq Int) :=
      Relates.tryCatch ((spares_submitRequest drv info slot req).bind fun _ => .pure _)
        fun _ => spares_cleanUp drv slot
    rw [wp_bind]
    apply (body d₁).mono
    · exact fun code d₂ same₂ => returned slot code d₂ (same₂.trans same₁)
    · exact fun _ d₂ same₂ => same₂.trans same₁

/-- The code that is returned is entered twice, by `inout_data` in the log and by the caller in what it was
told, and both say the same. -/
theorem replied_callInout (req : Request) : Keeps Replied (callInout drv info req : DeviceM H Irq Unit) := by
  intro d replied
  rw [callInout, wp_bind]
  apply (inoutData_books drv info req d).mono
  · intro code d' post
    have before : acceptedReplies d.replies = (acceptedRequests d.log).map Prod.snd := replied
    show acceptedReplies ((req.cb, code) :: d'.replies) = (acceptedRequests d'.log).map Prod.snd
    rw [post.1, post.2, ← before, acceptedReplies, Runs.filterMap_reverse_cons]
    split <;> rfl
  · intro _ d' same
    have replies : d'.replies = d.replies := congrArg Prod.fst same
    have log : acceptedRequests d'.log = acceptedRequests d.log := congrArg Prod.snd same
    rw [Replied, replies, log]
    exact replied

/-- So it is for all requests of a client, in their order. -/
theorem replied_inoutAll (reqs : List Request) :
    Keeps Replied (inoutAll drv info reqs : DeviceM H Irq Unit) := by
  induction reqs with
  | nil => exact keeps_pure ()
  | cons req reqs ih => exact (replied_callInout drv info req).bind fun _ => ih

/-- And for those that a callback submits. -/
theorem replied_handleIrqInout (slot : Slot) (nested : List Request) :
    Keeps Replied (handleIrqInout drv info slot nested) := by
  have kick := replied_of_spares (spares_cmdQueueKick (H := H) drv)
  apply keeps_get_bind
  intro d replied
  dsimp only
  cases (d.queue.cmds slot).cbIo with
  | none => exact replied
  | some cb =>
    refine (replied_of_spares (spares_modifyCmd slot _)).bind (fun _ => ?_) d replied
    cases (inoutWork drv info (d.queue.cmds slot)).2 with
    | moreWork => exact kick
    | workDone code size =>
      apply (replied_of_spares (spares_emit rfl)).bind
      intro _
      apply (replied_inoutAll drv info nested).bind
      intro _
      exact (replied_of_spares (spares_onQueue _)).bind fun _ => kick

theorem spares_drvHandleIrq (slot : Slot) : Spares books (drvHandleIrq drv slot : DeviceM H Irq Unit) := by
  apply Relates.get_bind
  intro d
  apply (spares_onCmd slot _).bind
  intro _
  apply Relates.get_bind
  intro d'
  exact Relates.ite (spares_emit rfl) (.pure ())

theorem replied_dispatchIrq (nested : List Request) :
    Keeps Replied (dispatchIrq drv info nested : DeviceM H Irq Unit) := by
  apply keeps_get_bind
  intro d replied
  cases d.queue.working? with
  | none => exact replied
  | some slot =>
    refine (replied_of_spares (spares_drvHandleIrq drv slot)).bind (fun _ => ?_) d replied
    apply keeps_get_bind
    intro d' replied'
    by_cases busy : (d'.queue.cmds slot).progress = true
    · rw [if_pos busy]
      exact replied'
    rw [if_neg busy]
    by_cases inout : (d'.queue.cmds slot).flags.inout = true
    · rw [if_pos inout]
      exact replied_handleIrqInout drv info slot nested d' replied'
    · rw [if_neg inout]
      exact replied_of_spares (spares_cmdQueueKick drv) d' replied'

/-- An interrupt enters nothing but these. -/
theorem replied_handleIrq (irq : Irq) (nested : List Request) :
    Keeps Replied (handleIrq drv info irq nested : DeviceM H Irq Unit) := by
  apply Keeps.bind (keeps_modify ?_)
  · exact fun _ => (replied_dispatchIrq drv info nested).tryCatch fun _ => keeps_pure ()
  · exact fun _ replied => replied

/-! ## Flushes -/

theorem spares_cmdExec (slot : Slot) : Spares books (cmdExec drv info slot : DeviceM H Irq Unit) := by
  apply Relates.bind
  · apply Spares.zoom_apart
    exact fun _ _ => rfl
  · exact fun _ => Relates.get_bind fun _ => spares_emit rfl

theorem spares_pollSwitch (slot : Slot) (polls : Nat) :
    Spares books (pollSwitch drv info slot polls : DeviceM H Irq Unit) := by
  induction polls with
  | zero => exact Relates.pure ()
  | succ polls ih =>
    apply (spares_modifyCmd slot _).bind
    intro _
    apply (spares_cmdExec drv info slot).bind
    intro _
    apply Relates.get_bind
    intro d
    apply Relates.ite (.pure ())
    cases (d.queue.cmds slot).mmcStatus with
    | error e => exact Relates.throw e
    | ok status => exact Relates.ite (.pure ()) ih

theorem spares_flushSlot (slot : Slot) : Spares books (flushSlot drv info slot : DeviceM H Irq Unit) := by
  have switched : ∀ idx val, Spares books (execMmcSwitch drv info slot idx val : DeviceM H Irq Unit) := by
    intro idx val
    apply (spares_modifyCmd slot _).bind
    intro _
    apply (spares_modifyCmd slot _).bind
    intro _
    apply (spares_cmdExec drv info slot).bind
    intro _
    apply Relates.get_bind
    intro d
    exact Relates.ite (spares_pollSwitch drv info slot 50) (.pure ())
  apply (switched _ _).bind
  intro _
  apply Relates.get_bind
  intro d
  cases (d.queue.cmds slot).checkError "CMD6: SWITCH/FLUSH_CACHE" with
  | error e => exact Relates.throw e
  | ok _ => exact spares_onQueue _

/-- A flush is no request: it has no reply in the books. -/
theorem spares_flush (cb : Callback) : Spares books (flush drv info cb : DeviceM H Irq Int) := by
  apply Relates.ite
  · exact (spares_emit rfl).bind fun _ => .pure _
  apply (spares_onQueue _).bind
  intro slot?
  cases slot? with
  | none => exact Relates.pure _
  | some slot =>
    apply Relates.bind
    · apply Relates.tryCatch
      · exact (spares_flushSlot drv info slot).bind fun _ => .pure _
      · exact fun _ => (spares_onQueue _).bind fun _ => .pure _
    · exact fun _ => Relates.ite ((spares_emit rfl).bind fun _ => .pure _) (.pure _)

/-- After every operation the callers know which requests are accepted. -/
theorem replied_step (op : Op Irq) {d : Device H Irq} (replied : Replied d) :
    Replied (step drv info op d) := by
  cases op with
  | inout req => exact (replied_callInout drv info req).after replied
  | irq irq nested => exact (replied_handleIrq drv info irq nested).after replied
  | flush irqs cb =>
    have flushed := replied_of_spares (spares_flush drv info cb)
    exact ((keeps_modify fun _ replied => replied).bind
      fun _ => flushed.bind fun _ => keeps_pure _).after replied

/-- The callers are right about their requests in every run. -/
theorem replied_run (ops : List (Op Irq)) (h : H) : Replied (Runs.run (step drv info) ops (start h)) := by
  have step : ∀ op (d : Device H Irq), Replied d → True → Replied (step drv info op d) :=
    fun op _ replied _ => replied_step drv info op replied
  exact Runs.run_invariant step rfl (Runs.along_of_forall (fun _ _ => trivial) _)

end Device

end Emmc
