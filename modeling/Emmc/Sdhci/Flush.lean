import Mathlib
import Emmc.Device.Flush
import Emmc.Sdhci.Capacity

/-!
# Whether a flush was durable

`flush` executes CMD6 and polls with CMD13 until the card has left its programming state. The
interrupts tell how each of these commands ends: `answer` reads the next answer of the card from
them, `Replies` several in a row.

* `cmdExec_answer`: the synchronous execution of a command without data ends with its answer.
* `pollSwitch_answer`, `flush_answer`: so do the polls and the flush as a whole.
* `reportsDurable_iff`: a flush that is reported was durable, unless the card answers in such a way
  that the polls end silently (`EndsSilently`): with a switch error, or without ever being ready.
-/

namespace Emmc

open Throwing

namespace Sdhci

variable (s : Sdhci) (info : DeviceInfo)

/-! ## Answers of the card -/

/-- How a command without data ends. -/
inductive Answer
  | failed
  | reply (resp0 : U32)

/-- The answer to a command without data, and the interrupts behind it. There is none if the
interrupts do not end the command, or if its line cannot be reset after an error. -/
def answer : List Irq → Option (Answer × List Irq)
  | [] => none
  | irq :: irqs =>
    if commandFails (irq.regs .intStatus) then
      if irq.rstcDone then some (.failed, irqs) else none
    else if RegIntStatus.cc.test (irq.regs .intStatus) then
      some (.reply (irq.regs .cmdRsp0), irqs)
    else answer irqs

/-- The card answers to successive commands with these responses. -/
inductive Replies : List Irq → List U32 → List Irq → Prop
  | nil {irqs : List Irq} : Replies irqs [] irqs
  | cons {irqs irqs' rest : List Irq} {r : U32} {rs : List U32}
      (first : answer irqs = some (.reply r, irqs')) (later : Replies irqs' rs rest) :
      Replies irqs (r :: rs) rest

/-- The card is still programming. -/
def StillBusy (r : U32) : Prop :=
  Mmc.DeviceStatus.switchError.test r = false ∧ Mmc.DeviceStatus.readyForData.test r = false

/-- The card accepts the switch, and its answers end the polls without an error of a command: after
less than 50 answers that it is busy, it reports a switch error, or it is still busy at the 50th. -/
def EndsSilently (irqs : List Irq) : Prop :=
  ∃ first busy last rest, Replies irqs (first :: busy ++ [last]) rest ∧ busy.length ≤ 49 ∧
    (∀ r ∈ busy, StillBusy r) ∧
    (Mmc.DeviceStatus.switchError.test last = true ∨ busy.length = 49 ∧ StillBusy last)

/-- The command ended like this. -/
def Ended (a : Answer) (c : Cmd) : Prop :=
  match a with
  | .failed => c.error = true
  | .reply r => c.status = .success ∧ c.flags.hasR1Response = true ∧ c.resp 0 = r

/-! ## Synchronous execution -/

/-- The commands of a flush. -/
def syncCommands : List U32 := [Mmc.cmd6Switch, Mmc.cmd13SendStatus]

/-- A command of a flush, on its way. -/
structure Sent (cmd : U32) (c : Cmd) : Prop where
  word : c.cmd = cmd
  member : cmd ∈ syncCommands
  noData : c.flags.hasData = false

theorem Sent.noTuning {cmd : U32} {c : Cmd} (sent : Sent cmd c) : c.isTuning = false := by
  have word := sent.member
  rw [← sent.word] at word
  simp only [syncCommands, List.mem_cons, List.not_mem_nil, or_false] at word
  rcases word with word | word <;> rw [Cmd.isTuning, word] <;> rfl

/-- The command has an R1 response. -/
theorem Sent.response {cmd : U32} {c : Cmd} (sent : Sent cmd c) :
    c.cmd &&& Mmc.rspPresent ≠ 0 ∧ c.cmd &&& Mmc.rsp136Bits = 0 := by
  have word := sent.member
  rw [← sent.word] at word
  simp only [syncCommands, List.mem_cons, List.not_mem_nil, or_false] at word
  rcases word with word | word <;> rw [word] <;> decide

theorem Sent.of_same {cmd : U32} {c c' : Cmd} (sent : Sent cmd c) (same : c.SameRequest c') :
    Sent cmd c' :=
  ⟨same.cmd.trans sent.word, sent.member, same.hasData.trans sent.noData⟩

/-- Waiting for another phase than the current one. -/
theorem waitWhile_other {recvError : Int} {phase : Status} {handler : Action Hw Unit}
    (irqs : List Irq) {t : HwOps.Sync Hw Irq} (other : t.cmd.status ≠ phase) :
    wp (s.hwOps.waitWhile recvError phase handler irqs) (fun _ t' => t' = t) (fun _ _ => False)
      t := by
  cases irqs with
  | nil =>
    rw [HwOps.waitWhile, wp_bind, wp_get, wp_ite]
    exact ⟨fun same => absurd same other, fun _ => rfl⟩
  | cons irq irqs =>
    rw [HwOps.waitWhile, wp_bind, wp_get, wp_ite]
    exact ⟨fun same => absurd same other, fun _ => rfl⟩

/-- What the card answers ends the wait for the command. -/
structure Answered (cmd : U32) (irqs : List Irq) (t : HwOps.Sync Hw Irq) (a : Answer) : Prop where
  sent : Sent cmd t.cmd
  answer : answer irqs = some (a, t.irqs)
  failed : a = .failed → t.cmd.error = true
  success : ∀ r, a = .reply r → t.cmd.status = .success ∧ t.hw.regs .cmdRsp0 = r

/-- Without an error, a command without data is done when the controller says so. -/
theorem nextStatus_sent {cmd is : U32} {c : Cmd} (sent : Sent cmd c)
    (phase : c.status = .progressCmd) (fine : ¬ commandFails is = true) :
    nextStatus is c = if RegIntStatus.cc.test is then .success else .progressCmd := by
  rw [commandFails, Bool.or_eq_true, Bool.or_eq_true, not_or, not_or] at fine
  rw [nextStatus, if_neg fine.1.1, if_neg fine.1.2, if_neg fine.2, sent.noData, phase]
  rfl

theorem waitCmd_answer (recvError : Int) {cmd : U32} (irqs : List Irq) {t : HwOps.Sync Hw Irq}
    (sent : Sent cmd t.cmd) (phase : t.cmd.status = .progressCmd) :
    wp (s.hwOps.waitWhile recvError .progressCmd s.irqCmd irqs)
      (fun _ t' => ∃ a, Answered cmd irqs t' a) (fun _ _ => answer irqs = none) t := by
  induction irqs generalizing t with
  | nil =>
    rw [HwOps.waitWhile, wp_bind, wp_get, wp_ite]
    exact ⟨fun _ => rfl, fun other => absurd phase other⟩
  | cons irq irqs ih =>
    rw [HwOps.waitWhile, wp_bind, wp_get, wp_ite]
    refine ⟨fun _ => ?_, fun other => absurd phase other⟩
    rw [wp_bind, wp_modify, wp_bind, HwOps.onSync, wp_zoom, irqCmd, wp_bind, wp_get]
    have handled := s.handleIrqCmd_exact sent.noTuning (present irq t.hw) (irq.regs .intStatus) phase
    have errors := nextStatus_error (irq.regs .intStatus) phase
    refine handled.mono ?_ ?_
    · intro _ t₁ post
      rcases post with ⟨c₁, pending, reset⟩
      have sent₁ : Sent cmd t₁.1 := by
        rw [c₁]
        exact ⟨sent.word, sent.member, sent.noData⟩
      by_cases fails : commandFails (irq.regs .intStatus) = true
      · have error : (nextStatus (irq.regs .intStatus) t.cmd).toInt < 0 := errors.mpr fails
        have moved : t₁.1.status ≠ .progressCmd := by
          rw [c₁]
          intro same
          rw [show nextStatus (irq.regs .intStatus) t.cmd = .progressCmd from same] at error
          exact absurd error (by decide)
        apply (s.waitWhile_other irqs moved).imp_ok
        rintro _ _ rfl
        refine ⟨.failed, sent₁, ?_, fun _ => ?_, fun r absurd => by cases absurd⟩
        · have done : irq.rstcDone = true := reset fails
          rw [answer, if_pos fails, if_pos done]
        · show t₁.1.error = true
          rw [c₁, Cmd.error_iff]
          exact error
      · have next := nextStatus_sent sent phase fails
        by_cases complete : RegIntStatus.cc.test (irq.regs .intStatus) = true
        · rw [if_pos complete] at next
          have success : t₁.1.status = .success := by rw [c₁, next]
          have moved : t₁.1.status ≠ .progressCmd := by
            rw [success]
            decide
          apply (s.waitWhile_other irqs moved).imp_ok
          rintro _ _ rfl
          refine ⟨.reply (irq.regs .cmdRsp0), sent₁, ?_, fun absurd => (by cases absurd), ?_⟩
          · rw [answer, if_neg fails, if_pos complete]
          · intro r same
            cases same
            exact ⟨success, pending.rsp0⟩
        · rw [if_neg complete] at next
          have still : t₁.1.status = .progressCmd := by rw [c₁, next]
          have skip : answer (irq :: irqs) = answer irqs := by
            rw [answer, if_neg fails, if_neg complete]
          refine (ih sent₁ still).mono ?_ (fun _ _ none => skip.trans none)
          intro _ t₂ post
          rcases post with ⟨a, answered⟩
          exact ⟨a, answered.sent, skip.trans answered.answer, answered.failed, answered.success⟩
    · intro _ _ post
      rcases post with ⟨-, fails, stuck⟩
      have notDone : irq.rstcDone = false := stuck
      rw [answer, if_pos fails, notDone]
      rfl

/-- A command of a flush ends as the card answers; without an answer its execution fails. -/
theorem cmdExec_answer (recvError : Int) {cmd : U32} {c : Cmd} (sent : Sent cmd c)
    (ready : c.status = .readyForSubmit) (h : Hw) (irqs : List Irq) :
    wp (s.hwOps.cmdExec recvError)
      (fun _ t => Sent cmd t.cmd ∧ ∃ a, answer irqs = some (a, t.irqs) ∧ Ended a t.cmd)
      (fun _ _ => answer irqs = none) ⟨c, h, irqs⟩ := by
  have accepted : s.accepts c = true := by
    rw [accepts, sent.noData]
    rfl
  rw [HwOps.cmdExec, wp_bind, HwOps.onSync, wp_zoom]
  refine (s.cmdSubmit_spec c h).mono ?_ (fun _ _ refused => absurd ⟨ready, accepted⟩ refused.1)
  rintro _ ⟨c₁, h₁⟩ ⟨-, submitted⟩
  rw [wp_bind, HwOps.cmdWaitCmdFinished, wp_bind, wp_get]
  refine (s.waitCmd_answer recvError irqs (sent.of_same submitted.kept.1) submitted.status).mono ?_
    (fun _ _ none => none)
  intro _ t₂ post
  rcases post with ⟨a, answered⟩
  rw [wp_bind, wp_get, wp_ite]
  refine ⟨fun fine => ?_, fun bad => ?_⟩
  · cases a with
    | failed =>
      rw [answered.failed rfl] at fine
      exact absurd fine (by decide)
    | reply r =>
      obtain ⟨success, response⟩ := answered.success r rfl
      have moved : t₂.cmd.status ≠ .progressData := by
        rw [success]
        decide
      rw [wp_bind, HwOps.cmdWaitDataFinished, wp_bind, wp_get]
      apply (s.waitWhile_other t₂.irqs moved).imp_ok
      rintro _ t₂ rfl
      obtain ⟨present, short⟩ := answered.sent.response
      rw [wp_bind, wp_get, wp_ite]
      refine ⟨fun _ => ?_, fun bad => absurd fine bad⟩
      rw [wp_bind, wp_get, wp_ite]
      refine ⟨fun _ => ?_, fun none => absurd present none⟩
      have fetched : withResponse t₂.hw.regs t₂.cmd =
          { t₂.cmd with
            resp := Function.update t₂.cmd.resp 0 (t₂.hw.regs .cmdRsp0)
            flags := { t₂.cmd.flags with hasR1Response := true } } :=
        if_neg (not_not.mpr short)
      show Sent cmd (withResponse t₂.hw.regs t₂.cmd) ∧ ∃ a, answer irqs = some (a, t₂.irqs) ∧
        Ended a (withResponse t₂.hw.regs t₂.cmd)
      rw [fetched]
      refine ⟨⟨answered.sent.word, answered.sent.member, answered.sent.noData⟩, .reply r,
        answered.answer, success, rfl, ?_⟩
      show Function.update t₂.cmd.resp 0 (t₂.hw.regs .cmdRsp0) 0 = r
      rw [Function.update_self, response]
  · refine ⟨answered.sent, a, answered.answer, ?_⟩
    have error : t₂.cmd.error = true := by
      rw [Bool.not_eq_true', Bool.not_eq_false] at bad
      exact bad
    cases a with
    | failed => exact error
    | reply r =>
      have success := (answered.success r rfl).1
      rw [Cmd.error, success] at error
      exact absurd error (by decide)

/-! ## The history of a flush -/

/-- A synchronous execution: command, status and response. -/
structure Execution where
  cmd : U32
  status : Status
  resp0 : Option U32

def executed? : Event → Option Execution
  | .executed cmd status resp0 => some ⟨cmd, status, resp0⟩
  | _ => none

/-- The commands that were executed synchronously, in this order. -/
def executions (log : List Event) : List Execution := log.reverse.filterMap executed?

/-- A poll that ended with success and did not report a switch error. -/
def Execution.Fine (e : Execution) : Prop :=
  e.cmd = Mmc.cmd13SendStatus ∧ e.status = .success ∧
    ∃ r, e.resp0 = some r ∧ Mmc.DeviceStatus.switchError.test r = false

/-- The poll reported that the card is ready. -/
def Execution.Ready (e : Execution) : Prop :=
  ∃ r, e.resp0 = some r ∧ Mmc.DeviceStatus.readyForData.test r = true

/-- All polls were fine, and the last one reported that the card is ready. -/
def PollsFine (polls : List Execution) : Prop :=
  (∀ e ∈ polls, e.Fine) ∧ ∃ last, polls.getLast? = some last ∧ last.Ready

/-- The switch succeeded and the card left its programming state without an error. -/
def Durable (log : List Event) : Prop :=
  ∃ switch polls, executions log = switch :: polls ∧ switch.cmd = Mmc.cmd6Switch ∧
    switch.status = .success ∧ PollsFine polls

/-- With these interrupts to come, a flush is reported only if it was durable. -/
def ReportsDurable (irqs : List Irq) (cb : Callback) (d : Device Hw Irq) : Prop :=
  ∃ new, (after (Device.flush s.hwDrv info cb) { d with irqs := irqs }).log = new ++ d.log ∧
    (.flushed cb L4.eok ∈ new → Durable new)

theorem executions_append (new log : List Event) :
    executions (new ++ log) = executions log ++ executions new := by
  rw [executions, List.reverse_append, List.filterMap_append]
  rfl

theorem pollsFine_cons {e : Execution} {polls : List Execution} (some : polls ≠ []) :
    PollsFine (e :: polls) ↔ e.Fine ∧ PollsFine polls := by
  obtain ⟨e', polls, rfl⟩ := List.exists_cons_of_ne_nil some
  rw [PollsFine, PollsFine, List.forall_mem_cons, List.getLast?_cons_cons, and_assoc]

theorem pollsFine_singleton (e : Execution) : PollsFine [e] ↔ e.Fine ∧ e.Ready := by
  rw [PollsFine, List.forall_mem_singleton]
  apply Iff.intro
  · intro given
    rcases given with ⟨fine, last, same, ready⟩
    cases same
    exact ⟨fine, ready⟩
  · intro given
    rcases given with ⟨fine, ready⟩
    exact ⟨fine, e, rfl, ready⟩

/-! ## The polls -/

/-- How the polls end. -/
inductive Verdict
  | ready
  | silent
  | failed
deriving DecidableEq

/-- The end of at most `n` polls, from the answers of the card. -/
def polled : Nat → List Irq → Verdict
  | 0, _ => .silent
  | n + 1, irqs =>
    match answer irqs with
    | some (.reply r, rest) =>
      if Mmc.DeviceStatus.switchError.test r then .silent
      else if Mmc.DeviceStatus.readyForData.test r then .ready
      else polled n rest
    | _ => .failed

/-- The polls end silently at the next answer or behind it. -/
theorem polled_succ_silent (n : Nat) (irqs : List Irq) :
    polled (n + 1) irqs = .silent ↔ ∃ r rest, answer irqs = some (.reply r, rest) ∧
      (Mmc.DeviceStatus.switchError.test r = true ∨ StillBusy r ∧ polled n rest = .silent) := by
  rw [polled]
  apply Iff.intro
  · intro silent
    split at silent
    · rename_i r rest reply
      refine ⟨r, rest, reply, ?_⟩
      cases wrong : Mmc.DeviceStatus.switchError.test r with
      | true => exact Or.inl rfl
      | false =>
        rw [wrong, if_neg Bool.false_ne_true] at silent
        cases ready : Mmc.DeviceStatus.readyForData.test r with
        | true =>
          rw [ready, if_pos rfl] at silent
          cases silent
        | false =>
          rw [ready, if_neg Bool.false_ne_true] at silent
          exact Or.inr ⟨⟨wrong, ready⟩, silent⟩
    · cases silent
  · intro given
    rcases given with ⟨r, rest, reply, outcome⟩
    rw [reply]
    rcases outcome with wrong | ⟨⟨fine, notReady⟩, silent⟩
    · exact if_pos wrong
    · simp only [fine, notReady, Bool.false_eq_true, if_false]
      exact silent

theorem polled_silent_iff (n : Nat) (irqs : List Irq) :
    polled (n + 1) irqs = .silent ↔ ∃ busy last rest, Replies irqs (busy ++ [last]) rest ∧
      busy.length ≤ n ∧ (∀ r ∈ busy, StillBusy r) ∧
      (Mmc.DeviceStatus.switchError.test last = true ∨ busy.length = n ∧ StillBusy last) := by
  induction n generalizing irqs with
  | zero =>
    rw [polled_succ_silent]
    apply Iff.intro
    · intro given
      rcases given with ⟨r, rest, reply, outcome⟩
      refine ⟨[], r, rest, .cons reply .nil, Nat.le_refl _, by simp, ?_⟩
      exact outcome.imp id fun busy => ⟨rfl, busy.1⟩
    · intro given
      rcases given with ⟨busy, last, rest, replies, none, -, outcome⟩
      cases List.eq_nil_of_length_eq_zero (Nat.le_zero.mp none)
      cases replies with
      | cons first later =>
        exact ⟨last, _, first, outcome.imp id fun still => ⟨still.2, rfl⟩⟩
  | succ n ih =>
    rw [polled_succ_silent]
    apply Iff.intro
    · intro given
      rcases given with ⟨r, rest, reply, wrong | ⟨still, silent⟩⟩
      · exact ⟨[], r, rest, .cons reply .nil, Nat.zero_le _, by simp, Or.inl wrong⟩
      · obtain ⟨busy, last, rest', replies, few, all, outcome⟩ := (ih rest).mp silent
        refine ⟨r :: busy, last, rest', .cons reply replies, Nat.succ_le_succ few,
          List.forall_mem_cons.mpr ⟨still, all⟩, ?_⟩
        exact outcome.imp id fun count => ⟨congrArg Nat.succ count.1, count.2⟩
    · intro given
      rcases given with ⟨busy, last, rest, replies, few, all, outcome⟩
      cases busy with
      | nil =>
        cases replies with
        | cons first later =>
          refine ⟨last, _, first, outcome.imp id fun count => ?_⟩
          exact absurd count.1 (Nat.succ_ne_zero n).symm
      | cons r busy =>
        obtain ⟨still, later⟩ := List.forall_mem_cons.mp all
        cases replies with
        | cons first replies =>
          refine ⟨r, _, first, Or.inr ⟨still, (ih _).mpr ?_⟩⟩
          refine ⟨busy, last, rest, replies, Nat.le_of_succ_le_succ few, later, ?_⟩
          exact outcome.imp id fun count => ⟨Nat.succ.inj count.1, count.2⟩

/-! ## The device -/

/-- Nothing but synchronous executions happened. -/
def OnlyExecutes (new : List Event) : Prop := ∀ e ∈ new, (executed? e).isSome = true

/-- Executing a command of a flush in a slot. -/
theorem deviceExec_answer {cmd : U32} {slot : Slot} {d : Device Hw Irq}
    (sent : Sent cmd (d.queue.cmds slot)) (ready : (d.queue.cmds slot).status = .readyForSubmit) :
    wp (Device.cmdExec s.hwDrv info slot)
      (fun _ d' => ∃ a resp, answer d.irqs = some (a, d'.irqs) ∧ Ended a (d'.queue.cmds slot) ∧
        d'.log = .executed cmd (d'.queue.cmds slot).status resp :: d.log ∧
        ∀ r, a = .reply r → resp = some r)
      (fun _ d' => answer d.irqs = none ∧ d'.log = d.log) d := by
  rw [Device.cmdExec, wp_bind, wp_zoom]
  refine (s.cmdExec_answer info.recvError sent ready d.hw d.irqs).mono ?_
    (fun _ _ none => ⟨none, rfl⟩)
  intro _ t post
  rcases post with ⟨sent', a, answered, ended⟩
  rw [wp_bind, wp_get]
  have inSlot : (d.queue.setCmd slot t.cmd).cmds slot = t.cmd := d.queue.cmds_setCmd_self slot t.cmd
  refine ⟨a, if t.cmd.flags.hasR1Response then some (t.cmd.resp 0) else none, answered, ?_, ?_, ?_⟩
  · show Ended a ((d.queue.setCmd slot t.cmd).cmds slot)
    rw [inSlot]
    exact ended
  · show Event.executed ((d.queue.setCmd slot t.cmd).cmds slot).cmd
      ((d.queue.setCmd slot t.cmd).cmds slot).status
      (if ((d.queue.setCmd slot t.cmd).cmds slot).flags.hasR1Response then
        some (((d.queue.setCmd slot t.cmd).cmds slot).resp 0) else none) :: d.log =
      Event.executed cmd ((d.queue.setCmd slot t.cmd).cmds slot).status _ :: d.log
    rw [inSlot, sent'.word]
  · rintro r rfl
    rcases ended with ⟨-, hasResponse, response⟩
    rw [if_pos hasResponse, response]

/-- A poll with this response. -/
def pollOf (r : U32) : Execution := ⟨Mmc.cmd13SendStatus, .success, some r⟩

theorem pollOf_fine (r : U32) : (pollOf r).Fine ↔ Mmc.DeviceStatus.switchError.test r = false := by
  apply Iff.intro
  · intro given
    rcases given with ⟨-, -, r', same, fine⟩
    cases same
    exact fine
  · intro fine
    exact ⟨rfl, rfl, r, rfl, fine⟩

theorem pollOf_ready (r : U32) :
    (pollOf r).Ready ↔ Mmc.DeviceStatus.readyForData.test r = true := by
  apply Iff.intro
  · intro given
    rcases given with ⟨r', same, ready⟩
    cases same
    exact ready
  · intro ready
    exact ⟨r, rfl, ready⟩

theorem not_pollsFine_nil : ¬PollsFine [] := by
  intro given
  rcases given with ⟨-, last, none, -⟩
  cases none

/-- While the card is busy, the later polls decide. -/
theorem pollsFine_stillBusy {r : U32} (still : StillBusy r) (polls : List Execution) :
    PollsFine (pollOf r :: polls) ↔ PollsFine polls := by
  cases polls with
  | nil =>
    rw [pollsFine_singleton, pollOf_ready, still.2]
    exact ⟨fun both => absurd both.2 Bool.false_ne_true, fun fine => absurd fine not_pollsFine_nil⟩
  | cons e polls =>
    rw [pollsFine_cons (List.cons_ne_nil e polls), pollOf_fine]
    exact and_iff_right still.1

/-- What the polls leave behind, given their end. -/
def PollsEnd (verdict : Verdict) (new : List Event) (c : Cmd) : Prop :=
  match verdict with
  | .ready => c.error = false ∧ PollsFine (executions new)
  | .silent => c.error = false ∧ ¬ PollsFine (executions new)
  | .failed => c.error = true

theorem PollsEnd.congr {verdict : Verdict} {new new' : List Event} {c : Cmd}
    (ends : PollsEnd verdict new c)
    (same : PollsFine (executions new') ↔ PollsFine (executions new)) :
    PollsEnd verdict new' c := by
  cases verdict with
  | ready => exact ⟨ends.1, same.mpr ends.2⟩
  | silent => exact ⟨ends.1, fun fine => ends.2 (same.mp fine)⟩
  | failed => exact ends

theorem Ended.fine {r : U32} {c : Cmd} (ended : Ended (.reply r) c) : c.error = false := by
  rw [Cmd.error, ended.1]
  rfl

/-- What one poll comes to. -/
inductive PollOutcome (slot : Slot) (d d' : Device Hw Irq) : Prop
  | failed (status : Status) (resp : Option U32) (answered : answer d.irqs = some (.failed, d'.irqs))
      (error : (d'.queue.cmds slot).error = true)
      (log : d'.log = .executed Mmc.cmd13SendStatus status resp :: d.log)
  | reply (r : U32) (answered : answer d.irqs = some (.reply r, d'.irqs))
      (fine : (d'.queue.cmds slot).error = false)
      (switch : (d'.queue.cmds slot).switchError = Mmc.DeviceStatus.switchError.test r)
      (status : (d'.queue.cmds slot).mmcStatus = .ok r)
      (log : d'.log = .executed Mmc.cmd13SendStatus .success (some r) :: d.log)

theorem poll_answer (slot : Slot) (d : Device Hw Irq) :
    wp (Device.cmdExec s.hwDrv info slot) (fun _ d' => PollOutcome slot d d')
      (fun _ d' => answer d.irqs = none ∧ d'.log = d.log)
      (d.setCmd slot ((d.queue.cmds slot).initArg Mmc.cmd13SendStatus (info.rca.setWidth 32 <<< 16))) := by
  have sent : Sent Mmc.cmd13SendStatus ((d.setCmd slot ((d.queue.cmds slot).initArg
      Mmc.cmd13SendStatus (info.rca.setWidth 32 <<< 16))).queue.cmds slot) := by
    rw [Device.queue_setCmd, CmdQueue.cmds_setCmd_self]
    exact ⟨rfl, by simp [syncCommands], rfl⟩
  have ready : ((d.setCmd slot ((d.queue.cmds slot).initArg Mmc.cmd13SendStatus
      (info.rca.setWidth 32 <<< 16))).queue.cmds slot).status = .readyForSubmit := by
    rw [Device.queue_setCmd, CmdQueue.cmds_setCmd_self]
    rfl
  apply (s.deviceExec_answer info sent ready).imp
  rintro _ d₁ ⟨a, resp, answered, ended, log, reply⟩
  cases a with
  | failed => exact .failed _ resp answered ended log
  | reply r =>
    cases reply r rfl
    have fine := ended.fine
    obtain ⟨success, hasResponse, response⟩ := ended
    rw [success] at log
    refine .reply r answered fine ?_ ?_ log
    · rw [Cmd.switchError, success, hasResponse, response]
      simp only [true_and, Bool.decide_eq_true]
    · rw [Cmd.mmcStatus, if_pos hasResponse, response]

/-- A poll with this response, in the log. -/
def pollEvent (r : U32) : Event := .executed Mmc.cmd13SendStatus .success (some r)

theorem onlyExecutes_poll (r : U32) : OnlyExecutes [pollEvent r] := List.forall_mem_singleton.mpr rfl

/-- The last poll says how the polls end. -/
theorem pollsEnd_last {r : U32} {c : Cmd} (fine : c.error = false)
    (last : ¬ StillBusy r) :
    PollsEnd (if Mmc.DeviceStatus.switchError.test r then .silent else .ready) [pollEvent r] c := by
  have polls : PollsFine (executions [pollEvent r]) ↔ Mmc.DeviceStatus.switchError.test r = false ∧
      Mmc.DeviceStatus.readyForData.test r = true := by
    show PollsFine [pollOf r] ↔ _
    rw [pollsFine_singleton, pollOf_fine, pollOf_ready]
  cases wrong : Mmc.DeviceStatus.switchError.test r with
  | true =>
    refine ⟨fine, fun given => ?_⟩
    rw [polls, wrong] at given
    exact Bool.false_ne_true given.1.symm
  | false =>
    refine ⟨fine, polls.mpr ⟨wrong, ?_⟩⟩
    rw [← Bool.not_eq_false]
    exact fun notReady => last ⟨wrong, notReady⟩

/-- While the card is busy, the later polls decide. -/
theorem PollsEnd.behind {verdict : Verdict} {new : List Event} {c : Cmd}
    (ends : PollsEnd verdict new c) {r : U32} (still : StillBusy r) :
    PollsEnd verdict (new ++ [pollEvent r]) c := by
  apply ends.congr
  rw [executions_append]
  exact pollsFine_stillBusy still _

/-- The polls end as the answers of the card say. -/
theorem pollSwitch_answer {slot : Slot} (n : Nat) {d : Device Hw Irq}
    (fine : (d.queue.cmds slot).error = false) :
    wp (Device.pollSwitch s.hwDrv info slot n)
      (fun _ d' => ∃ new, d'.log = new ++ d.log ∧ OnlyExecutes new ∧
        PollsEnd (polled n d.irqs) new (d'.queue.cmds slot))
      (fun _ d' => ∃ new, d'.log = new ++ d.log ∧ OnlyExecutes new ∧ polled n d.irqs = .failed)
      d := by
  induction n generalizing d with
  | zero =>
    exact ⟨[], rfl, fun _ member => absurd member List.not_mem_nil, fine, not_pollsFine_nil⟩
  | succ n ih =>
    rw [Device.pollSwitch, wp_bind, Device.wp_modifyCmd, wp_bind]
    apply (s.poll_answer info slot d).mono
    · intro _ d₁ outcome
      rw [wp_bind, wp_get, wp_ite]
      cases outcome with
      | failed status resp answered error log =>
        refine ⟨fun _ => ⟨[_], log, List.forall_mem_singleton.mpr rfl, ?_⟩, fun fine => ?_⟩
        · rw [polled, answered]
          exact error
        · rw [error, Bool.true_or] at fine
          exact absurd rfl fine
      | reply r answered fine₁ switch status log =>
        have next : polled (n + 1) d.irqs = if Mmc.DeviceStatus.switchError.test r then .silent
            else if Mmc.DeviceStatus.readyForData.test r then .ready else polled n d₁.irqs := by
          rw [polled, answered]
        rw [fine₁, Bool.false_or, switch, status, next]
        refine ⟨fun wrong => ?_, fun right => ?_⟩
        · have ends := pollsEnd_last fine₁ fun still : StillBusy r => absurd wrong (by rw [still.1]; decide)
          rw [if_pos wrong] at ends ⊢
          exact ⟨[pollEvent r], log, onlyExecutes_poll r, ends⟩
        · rw [if_neg right]
          show wp (if Mmc.DeviceStatus.readyForData.test r = true then _ else _) _ _ _
          rw [wp_ite]
          refine ⟨fun ready => ?_, fun notReady => ?_⟩
          · have ends := pollsEnd_last fine₁ fun still : StillBusy r => absurd ready (by rw [still.2]; decide)
            rw [if_neg right] at ends
            rw [if_pos ready]
            exact ⟨[pollEvent r], log, onlyExecutes_poll r, ends⟩
          · rw [if_neg notReady]
            have still : StillBusy r := ⟨Bool.eq_false_iff.mpr right, Bool.eq_false_iff.mpr notReady⟩
            have longer : ∀ {new log' : List Event}, log' = new ++ d₁.log → OnlyExecutes new →
                log' = (new ++ [pollEvent r]) ++ d.log ∧ OnlyExecutes (new ++ [pollEvent r]) := by
              intro new log' same only
              refine ⟨?_, List.forall_mem_append.mpr ⟨only, onlyExecutes_poll r⟩⟩
              rw [same, log, List.append_assoc]
              rfl
            apply (ih fine₁).mono
            · rintro _ d₂ ⟨new, log', only, ends⟩
              exact ⟨_, (longer log' only).1, (longer log' only).2, ends.behind still⟩
            · rintro _ d₂ ⟨new, log', only, failed⟩
              exact ⟨_, (longer log' only).1, (longer log' only).2, failed⟩
    · rintro _ d₁ ⟨none, log⟩
      refine ⟨[], log, fun _ member => absurd member List.not_mem_nil, ?_⟩
      rw [polled, none]

/-- How a flush ends: the answer to the switch, then the polls. -/
def flushEnd (irqs : List Irq) : Verdict :=
  match answer irqs with
  | some (.reply _, rest) => polled 50 rest
  | _ => .failed

theorem flushEnd_silent_iff (irqs : List Irq) : flushEnd irqs = .silent ↔ EndsSilently irqs := by
  rw [flushEnd]
  apply Iff.intro
  · intro silent
    split at silent
    · rename_i first rest reply
      obtain ⟨busy, last, rest', replies, few, all, outcome⟩ := (polled_silent_iff 49 rest).mp silent
      exact ⟨first, busy, last, rest', .cons reply replies, few, all, outcome⟩
    · cases silent
  · intro given
    rcases given with ⟨first, busy, last, rest, replies, few, all, outcome⟩
    cases replies with
    | cons reply later =>
      rw [reply]
      exact (polled_silent_iff 49 _).mpr ⟨busy, last, rest, later, few, all, outcome⟩

/-- What the switch leaves behind, given the end of the flush. -/
def SwitchEnd (verdict : Verdict) (new : List Event) (c : Cmd) : Prop :=
  match verdict with
  | .ready => c.error = false ∧ Durable new
  | .silent => c.error = false ∧ ¬ Durable new
  | .failed => c.error = true

/-- The switch as a whole ends as the answers of the card say. -/
theorem execMmcSwitch_answer (slot : Slot) (idx val : U8) (d : Device Hw Irq) :
    wp (Device.execMmcSwitch s.hwDrv info slot idx val)
      (fun _ d' => ∃ new, d'.log = new ++ d.log ∧ OnlyExecutes new ∧
        SwitchEnd (flushEnd d.irqs) new (d'.queue.cmds slot))
      (fun _ d' => ∃ new, d'.log = new ++ d.log ∧ OnlyExecutes new ∧ flushEnd d.irqs = .failed)
      d := by
  rw [Device.execMmcSwitch]
  simp only [wp_bind, Device.wp_modifyCmd, Device.queue_setCmd, Device.setCmd_setCmd,
    CmdQueue.cmds_setCmd_self]
  refine (s.deviceExec_answer info (?_ : Sent Mmc.cmd6Switch _) ?_).mono ?_ ?_
  · rw [Device.queue_setCmd, CmdQueue.cmds_setCmd_self]
    exact ⟨rfl, by simp [syncCommands], rfl⟩
  · rw [Device.queue_setCmd, CmdQueue.cmds_setCmd_self]
    rfl
  · intro _ d₁ post
    rcases post with ⟨a, resp, answered, ended, log, -⟩
    change answer d.irqs = some (a, d₁.irqs) at answered
    change d₁.log = _ :: d.log at log
    let e : Event := .executed Mmc.cmd6Switch (d₁.queue.cmds slot).status resp
    have only : OnlyExecutes [e] := List.forall_mem_singleton.mpr rfl
    rw [wp_get, wp_ite]
    cases a with
    | failed =>
      have error : (d₁.queue.cmds slot).error = true := ended
      refine ⟨fun success => ?_, fun _ => ⟨[e], log, only, ?_⟩⟩
      · rw [Cmd.error, success] at error
        exact absurd error (by decide)
      · rw [flushEnd, answered]
        exact error
    | reply r =>
      have success := ended.1
      have verdict : flushEnd d.irqs = polled 50 d₁.irqs := by rw [flushEnd, answered]
      have extended : ∀ {new log' : List Event}, log' = new ++ d₁.log →
          log' = (new ++ [e]) ++ d.log := by
        intro new log' same
        rw [same, log, List.append_assoc]
        rfl
      have durable : ∀ new, Durable (new ++ [e]) ↔ PollsFine (executions new) := by
        intro new
        rw [Durable, executions_append]
        apply Iff.intro
        · intro given
          rcases given with ⟨switch, polls, same, -, -, fine⟩
          cases same
          exact fine
        · intro fine
          exact ⟨_, _, rfl, rfl, success, fine⟩
      refine ⟨fun _ => ?_, fun other => absurd success other⟩
      refine (s.pollSwitch_answer info 50 ended.fine).mono ?_ ?_
      · intro _ d₂ post
        rcases post with ⟨new, log', only', ends⟩
        refine ⟨new ++ [e], extended log', List.forall_mem_append.mpr ⟨only', only⟩, ?_⟩
        rw [verdict]
        cases outcome : polled 50 d₁.irqs with
        | ready =>
          rw [outcome] at ends
          exact ⟨ends.1, (durable new).mpr ends.2⟩
        | silent =>
          rw [outcome] at ends
          exact ⟨ends.1, fun fine => ends.2 ((durable new).mp fine)⟩
        | failed =>
          rw [outcome] at ends
          exact ends
      · intro _ d₂ post
        rcases post with ⟨new, log', only', failed⟩
        exact ⟨new ++ [e], extended log', List.forall_mem_append.mpr ⟨only', only⟩,
          verdict.trans failed⟩
  · intro _ d₁ post
    rcases post with ⟨none, log⟩
    change answer d.irqs = _ at none
    refine ⟨[], log, fun _ member => absurd member List.not_mem_nil, ?_⟩
    rw [flushEnd, none]

/-! ## The flush -/

theorem onQueue_log {α : Type} (m : EStateM RuntimeError CmdQueue α) (d : Device Hw Irq) :
    wp (Device.onQueue m) (fun _ d' => d'.log = d.log) (fun _ d' => d'.log = d.log) d := by
  rw [Device.onQueue, wp_zoom, wp]
  cases m d.queue with
  | ok a q => rfl
  | error e q => rfl

theorem OnlyExecutes.not_flushed {new : List Event} (only : OnlyExecutes new) (cb : Callback) :
    .flushed cb L4.eok ∉ new := by
  intro member
  have executed := only _ member
  cases executed

/-- A report does not change what was executed. -/
theorem durable_flushed (cb : Callback) (new : List Event) :
    Durable (.flushed cb L4.eok :: new) ↔ Durable new := by
  have same : executions (.flushed cb L4.eok :: new) = executions new := by
    rw [← List.singleton_append, executions_append]
    exact List.append_nil _
  rw [Durable, Durable, same]

/-- The slot is released unless the switch failed. -/
theorem flushSlot_answer {d : Device Hw Irq} (settled : d.queue.Settled)
    (empty : d.queue.outstanding = []) (room : d.queue.isFull = false) :
    wp (Device.flushSlot s.hwDrv info d.queue.create)
      (fun _ d' => ∃ new, d'.log = new ++ d.log ∧ OnlyExecutes new ∧
        flushEnd d.irqs ≠ .failed ∧ (Durable new ↔ flushEnd d.irqs = .ready))
      (fun _ d' => Device.InSlot d.queue.create
          ({ d with queue := d.queue.created } : Device Hw Irq) d' ∧
        ∃ new, d'.log = new ++ d.log ∧ OnlyExecutes new ∧ flushEnd d.irqs = .failed)
      { d with queue := d.queue.created } := by
  rw [Device.flushSlot, wp_bind]
  have executed := s.execMmcSwitch_answer info d.queue.create Mmc.Ec32FlushCache.index
    (Mmc.Ec32FlushCache.flush.set 0 1) { d with queue := d.queue.created }
  have inSlot := Device.execMmcSwitch_spec s.hwDrv info d.queue.create Mmc.Ec32FlushCache.index
    (Mmc.Ec32FlushCache.flush.set 0 1) { d with queue := d.queue.created }
  refine (executed.and inSlot).mono ?_ (fun _ _ both => ⟨both.2, both.1⟩)
  intro _ d₂ post
  rcases post with ⟨⟨new, log, only, ends⟩, inSlot⟩
  change d₂.log = new ++ d.log at log
  change SwitchEnd (flushEnd d.irqs) new _ at ends
  rw [wp_bind, wp_get]
  cases error : (d₂.queue.cmds d.queue.create).error with
  | true =>
    have failed : flushEnd d.irqs = .failed := by
      cases verdict : flushEnd d.irqs with
      | ready =>
        rw [verdict] at ends
        exact absurd (error.symm.trans ends.1) (by decide)
      | silent =>
        rw [verdict] at ends
        exact absurd (error.symm.trans ends.1) (by decide)
      | failed => rfl
    rw [Cmd.checkError, if_pos error]
    exact ⟨inSlot, new, log, only, failed⟩
  | false =>
    have fine : ¬(d₂.queue.cmds d.queue.create).error = true := Bool.eq_false_iff.mp error
    rw [Cmd.checkError, if_neg fine]
    have verdict : flushEnd d.irqs ≠ .failed ∧ (Durable new ↔ flushEnd d.irqs = .ready) := by
      cases verdict : flushEnd d.irqs with
      | ready =>
        rw [verdict] at ends
        exact ⟨by decide, fun _ => rfl, fun _ => ends.2⟩
      | silent =>
        rw [verdict] at ends
        exact ⟨by decide, fun durable => absurd durable ends.2, fun absurd => by cases absurd⟩
      | failed =>
        rw [verdict] at ends
        exact absurd ends fine
    have retired := Device.retire_created settled room inSlot
    refine (retired.and (onQueue_log _ d₂)).mono ?_ ?_
    · intro _ d₃ post
      rcases post with ⟨-, same⟩
      exact ⟨new, same.trans log, only, verdict⟩
    · intro _ d₃ post
      rcases post with ⟨⟨others, -⟩, -⟩
      exact absurd (CmdQueue.pending_eq_nil.mpr empty) others

/-- A flush of an idle device is reported unless it failed; it was durable if the polls ended with
the card being ready. -/
theorem flush_answer (cache : info.hasCache = true) (cb : Callback) {d : Device Hw Irq}
    (settled : d.queue.Settled) (empty : d.queue.outstanding = []) :
    wp (Device.flush s.hwDrv info cb)
      (fun _ d' => ∃ new, d'.log = new ++ d.log ∧
        (.flushed cb L4.eok ∈ new ↔ flushEnd d.irqs ≠ .failed) ∧
        (flushEnd d.irqs ≠ .failed → (Durable new ↔ flushEnd d.irqs = .ready)))
      (fun _ _ => False) d := by
  have noShortcut : ¬(!info.hasCache) = true := by rw [cache]; decide
  have room : d.queue.isFull = false := by
    rw [Bool.eq_false_iff, ne_eq, CmdQueue.isFull_iff, empty]
    decide
  rw [Device.flush, if_neg noShortcut, wp_bind, Device.onQueue, wp_zoom]
  apply (CmdQueue.createCmd_spec settled).imp_ok
  intro slot q created
  rw [if_neg (Bool.eq_false_iff.mp room)] at created
  rcases created with ⟨rfl, rfl⟩
  show wp _ _ _ ({ d with queue := d.queue.created } : Device Hw Irq)
  simp only [wp_bind, wp_tryCatch, wp_pure, wp_ite, Device.emit, wp_modify]
  refine (s.flushSlot_answer info settled empty room).mono ?_ ?_
  · intro _ d₂ post
    rcases post with ⟨new, log, only, verdict, durable⟩
    refine ⟨fun _ => ⟨.flushed cb L4.eok :: new, congrArg _ log, ?_, fun _ => ?_⟩,
      fun other => absurd trivial other⟩
    · exact iff_of_true List.mem_cons_self verdict
    · exact (durable_flushed cb new).trans durable
  · intro _ d₂ post
    rcases post with ⟨inSlot, new, log, only, failed⟩
    have retired := Device.retire_created settled room inSlot
    refine (retired.and (onQueue_log _ d₂)).mono ?_ ?_
    · intro _ d₃ post
      rcases post with ⟨-, same⟩
      refine ⟨fun wrong => absurd wrong (by decide), fun _ => ⟨new, same.trans log, ?_, ?_⟩⟩
      · exact iff_of_false (only.not_flushed cb) (fun other => other failed)
      · exact fun other => absurd failed other
    · intro _ d₃ post
      rcases post with ⟨⟨others, -⟩, -⟩
      exact absurd (CmdQueue.pending_eq_nil.mpr empty) others

theorem reportsDurable_of_settled (cache : info.hasCache = true) (irqs : List Irq) (cb : Callback)
    {d : Device Hw Irq} (settled : d.queue.Settled) (empty : d.queue.outstanding = []) :
    s.ReportsDurable info irqs cb d ↔ ¬ EndsSilently irqs := by
  have spec := s.flush_answer info cache cb (d := { d with irqs := irqs }) settled empty
  obtain ⟨new, log, reported, durable⟩ :=
    after_of_wp (spec.mono (fun _ _ post => post) (fun _ _ absurd => absurd.elim))
  rw [← flushEnd_silent_iff]
  change (after (Device.flush s.hwDrv info cb) { d with irqs := irqs }).log = new ++ d.log at log
  change .flushed cb L4.eok ∈ new ↔ flushEnd irqs ≠ .failed at reported
  change flushEnd irqs ≠ .failed → (Durable new ↔ flushEnd irqs = .ready) at durable
  apply Iff.intro
  · rintro ⟨new', log', safe⟩ silent
    cases List.append_cancel_right (log.symm.trans log')
    have notFailed : flushEnd irqs ≠ .failed := by rw [silent]; decide
    have ready := (durable notFailed).mp (safe (reported.mpr notFailed))
    cases silent.symm.trans ready
  · intro notSilent
    refine ⟨new, log, fun report => ?_⟩
    have notFailed := reported.mp report
    refine (durable notFailed).mpr ?_
    cases verdict : flushEnd irqs with
    | ready => rfl
    | silent => exact absurd verdict notSilent
    | failed => exact absurd verdict notFailed

/-- Whenever the device is idle, a flush is reported only if it was durable, unless the polls end
silently. -/
theorem reportsDurable_iff (cache : info.hasCache = true) (ops : List (Device.Op Irq)) (h : Hw)
    (irqs : List Irq) (cb : Callback)
    (empty : (Runs.run (Device.step s.hwDrv info) ops (Device.start h)).queue.outstanding = []) :
    s.ReportsDurable info irqs cb (Runs.run (Device.step s.hwDrv info) ops (Device.start h)) ↔
      ¬ EndsSilently irqs :=
  s.reportsDurable_of_settled info cache irqs cb (Device.settled_run s.hwDrv info ops h) empty

/-- An interrupt with this status and this response. -/
def answering (is rsp0 : U32) : Irq where
  regs := fun r => if r = .intStatus then is else if r = .cmdRsp0 then rsp0 else 0

/-- Read one sector. -/
def readOne : Device.Op Irq :=
  .inout { sector := 0, first := ⟨0x1000, 0x1000, 1⟩, rest := [], cb := some 5, read := true }

/-- CMD23 and CMD18 complete, then the card flushes its cache and is ready. -/
theorem ready_reportsDurable :
    unbuffered.ReportsDurable { maxSeg := 64, hasCache := true }
      [answering 1 0, answering 1 0, answering 1 0x100] 7
      (Runs.run (Device.step unbuffered.hwDrv { maxSeg := 64, hasCache := true })
        [readOne, .irq (answering 1 0) [], .irq (answering 3 0) []] (Device.start {})) := by
  refine (unbuffered.reportsDurable_iff { maxSeg := 64, hasCache := true } rfl _ {} _ 7 ?_).mpr ?_
  · rfl
  · rw [← flushEnd_silent_iff]
    decide

/-- The card accepts CMD6 and then answers CMD13 with a switch error. -/
theorem switchError_reported :
    (after (Device.flush unbuffered.hwDrv { maxSeg := 64, hasCache := true } 7)
      ({ hw := {}, irqs := [answering 1 0, answering 1 0x80] } : Device Hw Irq)).log =
        [.flushed 7 L4.eok, .executed Mmc.cmd13SendStatus .success (some 0x80),
          .executed Mmc.cmd6Switch .success (some 0)] ∧
      ¬ unbuffered.ReportsDurable { maxSeg := 64, hasCache := true }
        [answering 1 0, answering 1 0x80] 7 (Device.start {}) := by
  refine ⟨by decide_cbv, ?_⟩
  rw [unbuffered.reportsDurable_of_settled _ rfl _ 7 (Device.settled_start {}) (by decide),
    ← flushEnd_silent_iff]
  decide

end Sdhci

end Emmc
