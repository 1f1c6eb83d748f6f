import Emmc.Device.Ledger

/-!
# Every accepted request is answered once, in order

* `Orderly`: the head of the queue is in flight and its outcomes so far are known (`Trace`); the
  other requests have not begun.
* `completion_run`: the ledger holds after every run in which no driver call throws.
-/

namespace Emmc

open Throwing

variable {H Irq : Type}

namespace Device

variable (drv : HwDrv H Irq) (info : DeviceInfo)

/-! ## A busy device -/

/-- A request that is answered with `-L4_EBUSY` leaves nothing behind but this answer. -/
def BusyUnchanged (req : Request) (d : Device H Irq) : Prop :=
  wp (inoutData drv info req)
    (fun code d' => code = -L4.ebusy →
      d' = { d with log := .returned none req.cb (-L4.ebusy) :: d.log })
    (fun _ _ => True) d

/-- Only a full queue is too busy for a request. -/
theorem busyUnchanged (req : Request) (d : Device H Irq) : BusyUnchanged drv info req d := by
  rw [BusyUnchanged, inoutData, wp_bind, onQueue, wp_zoom, CmdQueue.createCmd, wp_bind, wp_get,
    wp_ite]
  refine ⟨fun _ _ => rfl, fun _ => ?_⟩
  simp only [wp_bind, wp_set, wp_ite, wp_throw, wp_modify, wp_pure]
  refine ⟨fun _ => trivial, fun _ => ?_⟩
  simp only [emit, wp_bind, wp_tryCatch, wp_modify, wp_pure]
  have other : ∀ code : Int, code = L4.eok ∨ code = -L4.einval → code ≠ -L4.ebusy := by
    rintro code (rfl | rfl) <;> decide
  refine (wp_any (submitRequest drv info d.queue.create req) _).mono ?_ ?_
  · intro _ d' _ busy
    exact absurd busy (other _ (Or.inl rfl))
  · intro _ d' _
    simp only [cleanUp, wp_bind, wp_pure]
    refine (wp_any _ d').mono (fun _ d₁ _ => ?_) (fun _ _ _ => trivial)
    refine (wp_any _ d₁).mono (fun _ d₂ _ busy => ?_) (fun _ _ _ => trivial)
    exact absurd busy (other _ (Or.inr rfl))

/-! ## The invariant -/

/-- What is known of the commands of a request that came before the one in the slot. A CMD12
remembers the outcome of the command it follows. -/
inductive Trace (slot : Slot) (c : Cmd) (log : List Event) : Prop
  | transfer (word : c.cmd ∈ Mmc.transferCommands)
      (clean : ∀ status ∈ transfers slot log, status = .success)
  | stop (stop : c.isCmd12 = true) (unmarked : c.flags.inoutCmd12 = false)
      (ended : c.statusCmd12 = .success ∨ c.statusCmd12.toInt < -2) {older : List Status}
      (outcomes : transfers slot log = c.statusCmd12 :: older)
      (clean : ∀ status ∈ older, status = .success)

/-- The head in flight; or it ended without a callback to call and blocks the queue. -/
def Active (slot : Slot) (c : Cmd) (log : List Event) : Prop :=
  c.progress = true ∧ Trace slot c log ∨
    c.cbIo = none ∧ c.progress = false ∧ c.status ≠ .readyForSubmit

/-- The head waits for submission. -/
def Due (slot : Slot) (c : Cmd) (log : List Event) : Prop :=
  c.status = .readyForSubmit ∧ Trace slot c log

/-- A request that has not begun. -/
def Queued (entry : Slot × Cmd) (log : List Event) : Prop :=
  entry.2.status = .readyForSubmit ∧ entry.2.cmd ∈ Mmc.transferCommands ∧
    transfers entry.1 log = []

/-- The state of the queue, with its head as `Head` says. -/
structure Orderly (Head : Slot → Cmd → List Event → Prop) (v : View) : Prop where
  slots : (v.pending.map Prod.fst).Nodup
  inout : ∀ entry ∈ v.pending, entry.2.flags.inout = true
  head : ∀ slot c rest, v.pending = (slot, c) :: rest → Head slot c v.log
  queued : ∀ entry ∈ v.pending.tail, Queued entry v.log

theorem Trace.word {slot : Slot} {c : Cmd} {log : List Event} (trace : Trace slot c log) :
    c.cmd ∈ Mmc.inoutCommands := by
  cases trace with
  | transfer word => exact mem_inoutCommands word
  | stop stop =>
    rw [Cmd.isCmd12, decide_eq_true_eq] at stop
    rcases stop with word | word <;>
      simp [word, Mmc.inoutCommands]

theorem Trace.of_same {slot : Slot} {c c' : Cmd} {log log' : List Event}
    (trace : Trace slot c log) (same : c.SameRequest c')
    (outcomes : transfers slot log' = transfers slot log) : Trace slot c' log' := by
  cases trace with
  | transfer word clean =>
    exact .transfer (by rw [same.cmd]; exact word) (by rw [outcomes]; exact clean)
  | stop stop unmarked ended older clean =>
    refine .stop ?_ (same.inoutCmd12.trans unmarked) ?_ ?_ clean
    · rw [Cmd.isCmd12, same.cmd]
      exact stop
    · rw [same.statusCmd12]
      exact ended
    · rw [outcomes, same.statusCmd12]
      exact older

/-- A request that has not begun has no outcomes yet. -/
theorem Queued.due {slot : Slot} {c : Cmd} {log : List Event} (queued : Queued (slot, c) log) :
    Due slot c log := by
  rcases queued with ⟨ready, word, none⟩
  refine ⟨ready, .transfer word ?_⟩
  intro status member
  rw [show transfers slot log = [] from none] at member
  cases member

/-! ## The log grows -/

theorem Kick.suffix {v v' : View} (kick : Kick drv v v') : v.log <:+ v'.log := by
  cases kick with
  | idle => exact List.suffix_rfl
  | submit => exact List.suffix_cons _ _

theorem KickFails.suffix {v v' : View} (fails : KickFails drv v v') : v.log <:+ v'.log := by
  cases fails
  exact List.suffix_cons _ _

theorem Inout.suffix {req : Request} {v v' : View} {code : Int}
    (inout : Inout drv info req v code v') : v.log <:+ v'.log := by
  cases inout with
  | busy => exact List.suffix_cons _ _
  | accepted room fits fresh kick => exact (kick.suffix drv).trans (List.suffix_cons _ _)
  | oversized => exact List.suffix_cons _ _
  | refused empty fits fails => exact (fails.suffix drv).trans (List.suffix_cons _ _)

theorem InoutAll.suffix {reqs : List Request} {v v' : View}
    (calls : InoutAll drv info reqs v v') : v.log <:+ v'.log := by
  induction calls with
  | nil => exact List.suffix_rfl
  | cons head tail ih => exact (head.suffix drv info).trans ih

theorem InoutEscapes.suffix {req : Request} {v v' : View}
    (escapes : InoutEscapes drv info req v v') : v.log <:+ v'.log := by
  cases escapes with
  | oversized => exact List.suffix_rfl
  | refused room others fits fails => exact fails.suffix drv

theorem InoutAllEscapes.suffix {reqs : List Request} {v v' : View}
    (escapes : InoutAllEscapes drv info reqs v v') : v.log <:+ v'.log := by
  induction escapes with
  | here escapes => exact escapes.suffix drv info
  | later head tail ih => exact (head.suffix drv info).trans ih

theorem Resume.suffix {nested : List Request} {v v' : View}
    (resume : Resume drv info nested v v') : v.log <:+ v'.log := by
  cases resume with
  | next context more kick => exact kick.suffix drv
  | done context done calls kick =>
    exact (List.suffix_cons _ _).trans ((calls.suffix drv info).trans (kick.suffix drv))

theorem ResumeFails.suffix {nested : List Request} {v v' : View}
    (fails : ResumeFails drv info nested v v') : v.log <:+ v'.log := by
  cases fails with
  | noContext => exact List.suffix_rfl
  | next context more fails => exact fails.suffix drv
  | call context done escapes => exact (List.suffix_cons _ _).trans (escapes.suffix drv info)
  | done context done calls fails =>
    exact (List.suffix_cons _ _).trans ((calls.suffix drv info).trans (fails.suffix drv))

theorem noteEnd_suffix (slot : Slot) (c c' : Cmd) (log : List Event) :
    log <:+ noteEnd slot c c' log := by
  unfold noteEnd
  split
  · exact List.suffix_cons _ _
  · exact List.suffix_rfl

theorem Interrupt.suffix {irq : Irq} {nested : List Request} {v v' : View}
    (interrupt : Interrupt drv info irq nested v v') : v.log <:+ v'.log := by
  cases interrupt with
  | spurious => exact List.suffix_rfl
  | fault => exact List.suffix_cons _ _
  | running => exact List.suffix_rfl
  | inout handled ended inout resume =>
    exact (noteEnd_suffix _ _ _ _).trans (resume.suffix drv info)
  | inoutFails handled ended inout fails =>
    exact (noteEnd_suffix _ _ _ _).trans (fails.suffix drv info)
  | other handled ended other kick =>
    rcases kick with kick | fails
    · exact (noteEnd_suffix _ _ _ _).trans (kick.suffix drv)
    · exact (noteEnd_suffix _ _ _ _).trans (fails.suffix drv)

theorem KickFails.not_calm {v v' : View} (fails : KickFails drv v v') : ¬ Calm v'.log := by
  cases fails
  exact Emmc.not_calm

/-! ## Submitting the head -/

/-- Submitting the head of an orderly queue. The books do not change. -/
theorem orderly_of_kick {v v' : View} (orderly : Orderly Due v) (kick : Kick drv v v')
    {due : List (Slot × Callback)} (ledger : Ledger v.log due) :
    Orderly Active v' ∧ Ledger v'.log due ∧ callbacks v'.pending = callbacks v.pending := by
  cases kick with
  | idle notReady =>
    refine ⟨⟨orderly.slots, orderly.inout, ?_, orderly.queued⟩, ledger, rfl⟩
    intro slot c rest list
    exact absurd (orderly.head slot c rest list).1 (notReady slot c rest list)
  | @submit slot c c' rest masked log ready accepted same busy blockcnt =>
    refine ⟨⟨orderly.slots, ?_, ?_, orderly.queued⟩, ledger.other rfl rfl, ?_⟩
    · intro entry member
      rcases List.mem_cons.mp member with rfl | old
      · exact same.inout.trans (orderly.inout _ List.mem_cons_self)
      · exact orderly.inout entry (List.mem_cons_of_mem _ old)
    · intro slot c rest list
      cases list
      have trace := (orderly.head _ _ _ rfl).2
      refine Or.inl ⟨?_, trace.of_same same rfl⟩
      simp [Cmd.progress, busy]
    · rw [callbacks_cons, callbacks_cons, same.cbIo]

/-! ## Requests that join the queue -/

theorem firstCommand_queued (req : Request) (slot : Slot) (c : Cmd) (cb : Option Callback)
    (code : Int) (log : List Event) :
    Queued (slot, firstCommand drv info req c) (.returned (some slot) cb code :: log) :=
  ⟨(firstCommand_resumed drv info req c).1, (firstCommand_proceeds drv info req c).transfer,
    if_pos rfl⟩

/-- A call of `inoutData` behind a head that is not waiting: the request joins the queue and the
books, or finds the queue full. -/
theorem orderly_join {Head : Slot → Cmd → List Event → Prop} {req : Request} {v v' : View}
    {code : Int} {slot : Slot} {c : Cmd} {rest : List (Slot × Cmd)}
    (list : v.pending = (slot, c) :: rest) (notReady : c.status ≠ .readyForSubmit)
    (stable : ∀ log, transfers slot log = transfers slot v.log → Head slot c log)
    (orderly : Orderly Head v) (inout : Inout drv info req v code v') :
    ∃ rest', v'.pending = (slot, c) :: rest' ∧ Orderly Head v' ∧
      transfers slot v'.log = transfers slot v.log ∧
      ∀ due, Ledger v.log (due ++ callbacks rest) → Ledger v'.log (due ++ callbacks rest') := by
  cases inout with
  | busy full =>
    refine ⟨rest, list, ⟨orderly.slots, orderly.inout, ?_, orderly.queued⟩, rfl,
      fun due ledger => ledger.other rfl rfl⟩
    intro slot' c' rest' list'
    cases list.symm.trans list'
    exact stable _ rfl
  | @accepted w slot' c' room fits fresh kick =>
    rw [list] at kick
    cases kick with
    | submit ready => exact absurd ready notReady
    | idle =>
    have apart : ∀ entry ∈ v.pending, slot' ≠ entry.1 := by
      intro entry member same
      exact fresh (same ▸ List.mem_map_of_mem member)
    have other : ∀ entry ∈ v.pending, ∀ log,
        transfers entry.1 (.returned (some slot') req.cb L4.eok :: log) =
          transfers entry.1 log := by
      intro entry member log
      exact if_neg (apart entry member)
    have head : (slot, c) ∈ v.pending := by
      rw [list]
      exact List.mem_cons_self
    refine ⟨_, rfl, ⟨?_, ?_, ?_, ?_⟩, other _ head _, ?_⟩
    · have slots := orderly.slots
      rw [list] at slots fresh
      show ((((slot, c) :: rest) ++ [(slot', _)]).map Prod.fst).Nodup
      rw [List.map_append, List.map_singleton, List.nodup_append]
      refine ⟨slots, List.nodup_singleton _, ?_⟩
      intro x member y last same
      have taken : x = slot' := same.trans (List.mem_singleton.mp last)
      exact fresh (taken ▸ member)
    · intro entry member
      rcases List.mem_append.mp member with old | last
      · exact orderly.inout entry (by rw [list]; exact old)
      · rw [List.mem_singleton.mp last]
        exact (firstCommand_resumed drv info req c').2.2.2.1
    · intro slot₁ c₁ rest₁ list₁
      cases list₁
      exact stable _ (other _ head _)
    · intro entry member
      rcases List.mem_append.mp member with old | last
      · have within : entry ∈ v.pending := by
          rw [list]
          exact List.mem_cons_of_mem _ old
        have queued := orderly.queued entry (by rw [list]; exact old)
        exact ⟨queued.1, queued.2.1, (other entry within _).trans queued.2.2⟩
      · rw [List.mem_singleton.mp last]
        exact firstCommand_queued drv info req slot' c' _ _ _
    · intro due ledger
      have joined := ledger.accept slot' req.cb
      have context := (firstCommand_resumed drv info req c').2.2.2.2.2
      have mine : callbacks [(slot', firstCommand drv info req c')] =
          (req.cb.map (Prod.mk slot')).toList := by
        rw [callbacks_cons, context]
        exact List.append_nil _
      show Ledger _ (due ++ callbacks (rest ++ [(slot', firstCommand drv info req c')]))
      rw [callbacks_append, mine, ← List.append_assoc]
      exact joined
  | oversized empty large =>
    rw [empty] at list
    cases list
  | refused empty fits fails =>
    rw [empty] at list
    cases list

/-- The calls a callback makes. -/
theorem orderly_joinAll {nested : List Request} {v v' : View} {slot : Slot} {c : Cmd}
    {rest : List (Slot × Cmd)} (list : v.pending = (slot, c) :: rest)
    (notReady : c.status ≠ .readyForSubmit) (orderly : Orderly (fun _ _ _ => True) v)
    (calls : InoutAll drv info nested v v') :
    ∃ rest', v'.pending = (slot, c) :: rest' ∧ Orderly (fun _ _ _ => True) v' ∧
      (Ledger v.log (callbacks rest) → Ledger v'.log (callbacks rest')) := by
  induction calls generalizing rest with
  | nil => exact ⟨rest, list, orderly, fun ledger => ledger⟩
  | cons head tail ih =>
    obtain ⟨rest₁, list₁, orderly₁, -, books₁⟩ :=
      orderly_join drv info list notReady (fun _ _ => trivial) orderly head
    obtain ⟨rest₂, list₂, orderly₂, books₂⟩ := ih list₁ orderly₁
    exact ⟨rest₂, list₂, orderly₂, fun ledger => books₂ (books₁ [] ledger)⟩

theorem Active.not_ready {slot : Slot} {c : Cmd} {log : List Event} (active : Active slot c log) :
    c.status ≠ .readyForSubmit := by
  rcases active with ⟨busy, -⟩ | ⟨-, -, notReady⟩
  · intro ready
    simp [Cmd.progress, ready] at busy
  · exact notReady

theorem Active.of_transfers {slot : Slot} {c : Cmd} {log log' : List Event}
    (active : Active slot c log) (same : transfers slot log' = transfers slot log) :
    Active slot c log' := by
  rcases active with ⟨busy, trace⟩ | stuck
  · exact Or.inl ⟨busy, trace.of_same (Cmd.SameRequest.refl c) same⟩
  · exact Or.inr stuck

theorem orderly_inout {req : Request} {v v' : View} {code : Int} (orderly : Orderly Active v)
    (ledger : Ledger v.log (callbacks v.pending)) (fits : oversized drv info req = false)
    (inout : Inout drv info req v code v') (calm : Calm v'.log) :
    Orderly Active v' ∧ Ledger v'.log (callbacks v'.pending) := by
  cases list : v.pending with
  | cons head rest =>
    rcases head with ⟨slot, c⟩
    have active := orderly.head slot c rest list
    obtain ⟨rest', list', orderly', -, books⟩ := orderly_join drv info list active.not_ready
      (fun _ same => active.of_transfers same) orderly inout
    refine ⟨orderly', ?_⟩
    rw [list, callbacks_cons] at ledger
    rw [list', callbacks_cons]
    exact books _ ledger
  | nil =>
    cases inout with
    | busy full =>
      rw [list] at full
      cases full
    | @accepted w slot c room _ fresh kick =>
      rw [list, List.nil_append] at kick
      obtain ⟨ready, word, -⟩ := firstCommand_queued drv info req slot c req.cb L4.eok v.log
      have context := (firstCommand_resumed drv info req c).2.2.2.2.2
      cases kick with
      | idle notReady => exact absurd ready (notReady _ _ _ rfl)
      | @submit _ _ c' _ _ _ _ accepted same busy blockcnt =>
      have started : c'.progress = true := by simp [Cmd.progress, busy]
      have none : transfers slot (.returned (some slot) req.cb L4.eok ::
          .submitted slot (firstCommand drv info req c).issue :: v.log) = [] := if_pos rfl
      refine ⟨⟨List.nodup_singleton _, ?_, ?_, fun entry member => by cases member⟩, ?_⟩
      · intro entry member
        rw [List.mem_singleton.mp member]
        exact same.inout.trans (firstCommand_resumed drv info req c).2.2.2.1
      · intro slot₁ c₁ rest₁ list₁
        cases list₁
        refine Or.inl ⟨started, .transfer (by rw [same.cmd]; exact word) ?_⟩
        intro status member
        rw [none] at member
        cases member
      · rw [list] at ledger
        have submitted : Ledger (.submitted slot (firstCommand drv info req c).issue :: v.log) [] :=
          ledger.other rfl rfl
        rw [callbacks_cons, same.cbIo, context]
        show Ledger _ (_ ++ [])
        rw [List.append_nil]
        exact submitted.accept slot req.cb
    | oversized empty large => exact absurd (fits.symm.trans large) Bool.false_ne_true
    | refused empty _ fails =>
      exact absurd (calm.suffix (List.suffix_cons _ _)) (fails.not_calm drv)

/-! ## After a command ended -/

/-- What is known of the commands of a request when the one in the slot ended. -/
inductive Over (slot : Slot) (c : Cmd) (log : List Event) : Prop
  | transfer (word : c.cmd ∈ Mmc.transferCommands)
      (ended : c.status = .success ∨ c.status.toInt < -2) {older : List Status}
      (outcomes : transfers slot log = c.status :: older)
      (clean : ∀ status ∈ older, status = .success)
  | stop (stop : c.isCmd12 = true) (unmarked : c.flags.inoutCmd12 = false)
      (ended : c.statusCmd12 = .success ∨ c.statusCmd12.toInt < -2) {older : List Status}
      (outcomes : transfers slot log = c.statusCmd12 :: older)
      (clean : ∀ status ∈ older, status = .success)

/-- Unless CMD12 is still to come, the status that counts is the last outcome. -/
theorem Over.outcome {slot : Slot} {c : Cmd} {log : List Event} (closed : Over slot c log) :
    ∃ older, transfers slot log = (restored c).status :: older ∧
      (∀ status ∈ older, status = .success) ∧
      ((restored c).status = .success ∨ (restored c).status.toInt < -2) := by
  cases closed with
  | @transfer word ended older outcomes clean =>
    have same : restored c = c := by
      rw [restored, if_neg (by rw [isCmd12_of_transfer word]; decide)]
    rw [same]
    exact ⟨older, outcomes, clean, ended⟩
  | @stop stop unmarked ended older outcomes clean =>
    have back : (restored c).status = c.statusCmd12 := by
      rw [restored, if_pos stop]
    rw [back]
    exact ⟨older, outcomes, clean, ended⟩

/-- The code of the answer is the one the outcomes demand. -/
theorem Over.agrees {slot : Slot} {c : Cmd} {log : List Event} (closed : Over slot c log) :
    (if (restored c).error then -L4.eio else L4.eok) =
      if ∀ status ∈ transfers slot log, status = .success then L4.eok else -L4.eio := by
  obtain ⟨older, outcomes, clean, ended⟩ := closed.outcome
  rw [outcomes]
  rcases ended with success | failed
  · have all : ∀ status ∈ (restored c).status :: older, status = .success := by
      intro status member
      rcases List.mem_cons.mp member with rfl | old
      · exact success
      · exact clean status old
    have fine : ¬ (restored c).error = true := by simp [Cmd.error, success, Status.toInt]
    rw [if_neg fine, if_pos all]
  · have bad : (restored c).error = true :=
      Cmd.error_of_failed (by rw [Cmd.failed, decide_eq_true_eq]; exact failed)
    have notAll : ¬ ∀ status ∈ (restored c).status :: older, status = .success := by
      intro all
      rw [all _ List.mem_cons_self] at failed
      exact absurd failed (by decide)
    rw [if_pos bad, if_neg notAll]

/-- The next command of the request knows what came before it. -/
theorem Over.next {slot : Slot} {c : Cmd} {log : List Event} (closed : Over slot c log)
    (more : (inoutWork drv info c).2 = .moreWork) : Due slot (inoutWork drv info c).1 log := by
  refine ⟨(inoutWork_resumed drv info more).ready, ?_⟩
  by_cases stop : needsCmd12 drv c
  · rw [inoutWork_of_cmd12 drv info stop]
    cases closed with
    | @transfer word ended older outcomes clean =>
      exact .stop (stopCommand_isCmd12 c) rfl ended outcomes clean
    | stop cmd12 unmarked => exact absurd (stop.1.symm.trans unmarked) (by decide)
  · obtain ⟨fine, proceeds⟩ := inoutWork_proceeds drv info stop more
    obtain ⟨older, outcomes, clean, ended⟩ := closed.outcome
    refine .transfer proceeds.transfer ?_
    rw [outcomes]
    intro status member
    rcases List.mem_cons.mp member with rfl | old
    · rcases ended with success | failed
      · exact success
      · have bad : (restored c).error = true :=
          Cmd.error_of_failed (by rw [Cmd.failed, decide_eq_true_eq]; exact failed)
        exact absurd (fine.symm.trans bad) (by decide)
    · exact clean status old

/-- When the callback is due, the command is not waiting for submission. -/
theorem Over.not_ready {slot : Slot} {c : Cmd} {log : List Event} (closed : Over slot c log)
    {code : Int} {size : U64} (done : (inoutWork drv info c).2 = .workDone code size) :
    (inoutWork drv info c).1.status ≠ .readyForSubmit := by
  rw [(inoutWork_done drv info done).2.2.1]
  obtain ⟨-, -, -, ended⟩ := closed.outcome
  intro ready
  rw [ready] at ended
  rcases ended with success | failed
  · cases success
  · exact absurd failed (by decide)

/-- The queue behind a head that is gone: its new head has not begun. -/
theorem orderly_behind {slot : Slot} {c : Cmd} {rest : List (Slot × Cmd)} {masked : Bool}
    {log : List Event} (orderly : Orderly (fun _ _ _ => True) ⟨(slot, c) :: rest, masked, log⟩) :
    Orderly Due ⟨rest, masked, log⟩ := by
  have slots := orderly.slots
  rw [List.map_cons, List.nodup_cons] at slots
  refine ⟨slots.2, ?_, ?_, ?_⟩
  · intro entry member
    exact orderly.inout entry (List.mem_cons_of_mem _ member)
  · intro slot₁ c₁ rest₁ list
    cases list
    exact (orderly.queued _ List.mem_cons_self).due
  · intro entry member
    exact orderly.queued entry (List.mem_of_mem_tail member)

/-- Going on with the request at the head, after its command ended. -/
theorem orderly_resume {nested : List Request} {v v' : View} {slot : Slot} {c : Cmd}
    {rest : List (Slot × Cmd)} (list : v.pending = (slot, c) :: rest) (closed : Over slot c v.log)
    (orderly : Orderly (fun _ _ _ => True) v) (ledger : Ledger v.log (callbacks v.pending))
    (resume : Resume drv info nested v v') :
    Orderly Active v' ∧ Ledger v'.log (callbacks v'.pending) := by
  have kicked : ∀ {w w' : View}, Orderly Due w → Kick drv w w' →
      Ledger w.log (callbacks w.pending) →
      Orderly Active w' ∧ Ledger w'.log (callbacks w'.pending) := by
    intro w w' due kick books
    obtain ⟨active, books', same⟩ := orderly_of_kick drv due kick books
    exact ⟨active, by rw [same]; exact books'⟩
  cases resume with
  | @next slot c cb rest masked log v' context more kick =>
    cases list
    have resumed := inoutWork_resumed drv info more
    have due : Orderly Due ⟨(slot, (inoutWork drv info c).1) :: rest, masked, log⟩ := by
      refine ⟨orderly.slots, ?_, ?_, orderly.queued⟩
      · intro entry member
        rcases List.mem_cons.mp member with rfl | old
        · exact resumed.owner.inout.trans (orderly.inout _ List.mem_cons_self)
        · exact orderly.inout entry (List.mem_cons_of_mem _ old)
      · intro slot₁ c₁ rest₁ list₁
        cases list₁
        exact closed.next drv info more
    refine kicked due kick ?_
    rw [callbacks_cons, resumed.owner.cbIo]
    rw [callbacks_cons] at ledger
    exact ledger
  | @done slot c c' cb rest rest' masked masked' log log' code size v' context done calls kick =>
    cases list
    obtain ⟨-, owner, -, outcome⟩ := inoutWork_done drv info done
    have called : Orderly (fun _ _ _ => True) ⟨(slot, (inoutWork drv info c).1) :: rest, masked,
        .callback slot cb code size :: log⟩ := by
      refine ⟨orderly.slots, ?_, fun _ _ _ _ => trivial, orderly.queued⟩
      intro entry member
      rcases List.mem_cons.mp member with rfl | old
      · exact owner.inout.trans (orderly.inout _ List.mem_cons_self)
      · exact orderly.inout entry (List.mem_cons_of_mem _ old)
    rw [callbacks_cons, context] at ledger
    have answered : Ledger (.callback slot cb code size :: log) (callbacks rest) :=
      Ledger.answer ledger size (outcome.trans closed.agrees)
    obtain ⟨rest'', list', orderly', books⟩ :=
      orderly_joinAll drv info rfl (closed.not_ready drv info done) called calls
    cases list'
    exact kicked (orderly_behind orderly') kick (books answered)

/-! ## Interrupts -/

theorem transfers_noteEnd_of_ne {slot other : Slot} (apart : slot ≠ other) (c c' : Cmd)
    (log : List Event) : transfers other (noteEnd slot c c' log) = transfers other log := by
  unfold noteEnd
  split
  · exact if_neg fun both => apart both.1
  · rfl

/-- The end of a command in flight is noted with its status. -/
theorem noteEnd_ended {slot : Slot} {c c' : Cmd} {log : List Event} (busy : c.progress = true)
    (ended : c'.progress = false) :
    noteEnd slot c c' log = .ended slot c'.cmd c'.status (c'.resp 0) :: log := by
  rw [noteEnd, if_pos (by rw [busy, ended]; rfl)]

/-- The handler of the head leaves the queue and the books in order. -/
theorem orderly_handled {slot : Slot} {c c' : Cmd} {rest : List (Slot × Cmd)} {masked : Bool}
    {log : List Event} {Head : Slot → Cmd → List Event → Prop}
    (orderly : Orderly Head ⟨(slot, c) :: rest, masked, log⟩)
    (ledger : Ledger log (callbacks ((slot, c) :: rest))) (handled : Handled c c') :
    Orderly (fun _ _ _ => True) ⟨(slot, c') :: rest, true, noteEnd slot c c' log⟩ ∧
      Ledger (noteEnd slot c c' log) (callbacks ((slot, c') :: rest)) := by
  have slots := orderly.slots
  rw [List.map_cons, List.nodup_cons] at slots
  refine ⟨⟨orderly.slots, ?_, fun _ _ _ _ => trivial, ?_⟩, ?_⟩
  · intro entry member
    rcases List.mem_cons.mp member with rfl | old
    · exact handled.same.inout.trans (orderly.inout _ List.mem_cons_self)
    · exact orderly.inout entry (List.mem_cons_of_mem _ old)
  · intro entry member
    have queued := orderly.queued entry member
    have apart : slot ≠ entry.1 := by
      intro same
      have taken : entry.1 ∈ rest.map Prod.fst := List.mem_map.mpr ⟨entry, member, rfl⟩
      exact slots.1 (same ▸ taken)
    exact ⟨queued.1, queued.2.1, (transfers_noteEnd_of_ne apart c c' log).trans queued.2.2⟩
  · rw [callbacks_cons, handled.same.cbIo, ← callbacks_cons]
    unfold noteEnd
    split
    · exact ledger.other rfl rfl
    · exact ledger

/-- A command in flight that ended, with what came before it. -/
theorem over_of_ended {slot : Slot} {c c' : Cmd} {log : List Event} (trace : Trace slot c log)
    (busy : c.progress = true) (after : c.AfterIrq c') (ended : c'.progress = false) :
    Over slot c' (noteEnd slot c c' log) := by
  have outcome : c'.status = .success ∨ c'.status.toInt < -2 := by
    rcases after.started (Cmd.isTuning_of_inout trace.word) with running | success | failed
    · exact absurd (ended.symm.trans running) (by decide)
    · exact Or.inl success
    · rw [Cmd.failed, decide_eq_true_eq] at failed
      exact Or.inr failed
  rw [noteEnd_ended busy ended]
  cases trace with
  | transfer word clean =>
    have word' : c'.cmd ∈ Mmc.transferCommands := by rw [after.same.cmd]; exact word
    exact .transfer word' outcome (if_pos ⟨rfl, word'⟩) clean
  | @stop stop unmarked ended older outcomes clean =>
    have stop' : c'.isCmd12 = true := by rw [Cmd.isCmd12, after.same.cmd]; exact stop
    have other : ¬(slot = slot ∧ c'.cmd ∈ Mmc.transferCommands) := by
      intro both
      exact absurd (stop'.symm.trans (isCmd12_of_transfer both.2)) (by decide)
    refine .stop stop' (after.same.inoutCmd12.trans unmarked) ?_ ?_ clean
    · rw [after.same.statusCmd12]
      exact ended
    · rw [after.same.statusCmd12]
      exact (if_neg other).trans outcomes

theorem InoutAllEscapes.not_calm {nested : List Request} {v v' : View}
    (escapes : InoutAllEscapes drv info nested v v')
    (fits : ∀ req ∈ nested, oversized drv info req = false) : ¬ Calm v'.log := by
  induction escapes with
  | here escapes =>
    have fit := fits _ List.mem_cons_self
    cases escapes with
    | oversized room others large => exact absurd (fit.symm.trans large) (by decide)
    | refused room others _ fails => exact fails.not_calm drv
  | later head tail ih => exact ih fun req member => fits req (List.mem_cons_of_mem _ member)

theorem orderly_interrupt {irq : Irq} {nested : List Request} {v v' : View}
    (orderly : Orderly Active v) (ledger : Ledger v.log (callbacks v.pending))
    (fits : ∀ req ∈ nested, oversized drv info req = false)
    (interrupt : Interrupt drv info irq nested v v') (calm : Calm v'.log) :
    Orderly Active v' ∧ Ledger v'.log (callbacks v'.pending) := by
  cases interrupt with
  | spurious empty =>
    exact ⟨⟨orderly.slots, orderly.inout, orderly.head, orderly.queued⟩, ledger⟩
  | fault => exact absurd calm not_calm
  | @running slot c c' rest masked log handled running =>
    rcases orderly.head slot c rest rfl with ⟨busy, trace⟩ | ⟨-, idle, -⟩
    · have same := handled.same
      refine ⟨⟨orderly.slots, ?_, ?_, orderly.queued⟩, ?_⟩
      · intro entry member
        rcases List.mem_cons.mp member with rfl | old
        · exact same.inout.trans (orderly.inout _ List.mem_cons_self)
        · exact orderly.inout entry (List.mem_cons_of_mem _ old)
      · intro slot₁ c₁ rest₁ list₁
        cases list₁
        exact Or.inl ⟨running, trace.of_same same rfl⟩
      · rw [callbacks_cons] at ledger ⊢
        rw [same.cbIo]
        exact ledger
    · have status := (handled.idle idle).2.1
      rw [Cmd.progress, status] at running
      exact absurd (idle.symm.trans running) (by decide)
  | @inout slot c c' rest masked log v' handled ended inout resume =>
    obtain ⟨orderly', ledger'⟩ := orderly_handled orderly ledger handled
    rcases orderly.head slot c rest rfl with ⟨busy, trace⟩ | ⟨noContext, -, -⟩
    · exact orderly_resume drv info rfl (over_of_ended trace busy (handled.busy busy) ended)
        orderly' ledger' resume
    · -- a head without a callback never gets any further
      have none : c'.cbIo = none := handled.same.cbIo.trans noContext
      cases resume with
      | next context => exact absurd (none.symm.trans context) (by simp)
      | done context => exact absurd (none.symm.trans context) (by simp)
  | @inoutFails slot c c' rest masked log v' handled ended inout fails =>
    obtain ⟨orderly', ledger'⟩ := orderly_handled orderly ledger handled
    cases fails with
    | noContext none =>
      refine ⟨⟨orderly'.slots, orderly'.inout, ?_, orderly'.queued⟩, ledger'⟩
      intro slot₁ c₁ rest₁ list₁
      cases list₁
      refine Or.inr ⟨none, ended, ?_⟩
      rcases orderly.head slot c rest rfl with ⟨busy, trace⟩ | ⟨-, idle, notReady⟩
      · rcases (handled.busy busy).started (Cmd.isTuning_of_inout trace.word) with
          running | success | failed
        · exact absurd (ended.symm.trans running) (by decide)
        · rw [success]
          decide
        · exact Cmd.not_ready_of_failed failed
      · rw [(handled.idle idle).2.1]
        exact notReady
    | next context more fails => exact absurd calm (fails.not_calm drv)
    | call context done escapes => exact absurd calm (escapes.not_calm drv info fits)
    | done context done calls fails => exact absurd calm (fails.not_calm drv)
  | @other slot c c' rest masked log v' handled ended other =>
    have inout := handled.same.inout.trans (orderly.inout _ List.mem_cons_self)
    exact absurd (other.symm.trans inout) (by decide)

/-! ## Runs -/

/-- The operations of the server, with every segment within the advertised maximum. -/
def Fits : Op Irq → Prop
  | .inout req => oversized drv info req = false
  | .irq _ nested => ∀ req ∈ nested, oversized drv info req = false
  | .flush _ _ => False

theorem log_suffix_step {op : Op Irq} (fits : Fits drv info op) {d : Device H Irq}
    (settled : d.queue.Settled) : d.log <:+ (step drv info op d).log := by
  refine after_of_wp (P := fun d' : Device H Irq => d.log <:+ d'.log) ?_
  cases op with
  | inout req =>
    rw [exec, wp_callInout]
    exact (inoutData_spec drv info settled req).mono (fun _ _ post => post.2.suffix drv info)
      (fun _ _ post => post.2.suffix drv info)
  | irq irq nested =>
    exact (handleIrq_spec drv info irq nested settled).mono
      (fun _ _ post => post.2.suffix drv info) (fun _ _ absurd => absurd.elim)
  | flush irqs cb => exact fits.elim

theorem orderly_step {op : Op Irq} (fits : Fits drv info op) {d : Device H Irq}
    (settled : d.queue.Settled) (orderly : Orderly Active d.view)
    (ledger : Ledger d.log (callbacks d.queue.pending)) (calm : Calm (step drv info op d).log) :
    Orderly Active (step drv info op d).view ∧
      Ledger (step drv info op d).log (callbacks (step drv info op d).queue.pending) := by
  revert calm
  refine after_of_wp (P := fun d' : Device H Irq => Calm d'.log →
    Orderly Active d'.view ∧ Ledger d'.log (callbacks d'.queue.pending)) ?_
  cases op with
  | inout req =>
    rw [exec, wp_callInout]
    refine (inoutData_spec drv info settled req).mono
      (fun _ _ post calm => orderly_inout drv info orderly ledger fits post.2 calm) ?_
    intro _ d' post calm
    have escapes : InoutAllEscapes drv info [req] d.view d'.view := .here post.2
    refine absurd calm (escapes.not_calm drv info ?_)
    intro req' member
    rw [List.mem_singleton.mp member]
    exact fits
  | irq irq nested =>
    exact (handleIrq_spec drv info irq nested settled).mono
      (fun _ _ post calm => orderly_interrupt drv info orderly ledger fits post.2 calm)
      (fun _ _ absurd => absurd.elim)
  | flush irqs cb => exact fits.elim

/-- The books are right after every run in which no driver call throws. -/
theorem completion_run {ops : List (Op Irq)} (fits : ∀ op ∈ ops, Fits drv info op) (h : H)
    (calm : Calm (Runs.run (step drv info) ops (start h)).log) :
    Ledger (Runs.run (step drv info) ops (start h)).log
      (callbacks (Runs.run (step drv info) ops (start h)).queue.pending) := by
  have initial : Orderly Active (start h : Device H Irq).view ∧
      Ledger (start h : Device H Irq).log (callbacks (start h : Device H Irq).queue.pending) := by
    have empty : (start h : Device H Irq).queue.pending = [] := rfl
    refine ⟨⟨List.nodup_nil, ?_, ?_, ?_⟩, rfl, trivial⟩
    · intro entry member
      cases member
    · intro slot c rest list
      cases list
    · intro entry member
      cases member
  have invariant := Runs.run_invariant
    (I := fun d : Device H Irq => d.queue.Settled ∧ (Calm d.log →
      Orderly Active d.view ∧ Ledger d.log (callbacks d.queue.pending)))
    (P := fun op _ => Fits drv info op)
    (fun op d inv fits => ⟨settled_step drv info op inv.1, fun calm =>
      have before := inv.2 (calm.suffix (log_suffix_step drv info fits inv.1))
      orderly_step drv info fits inv.1 before.1 before.2 calm⟩)
    ⟨settled_start h, fun _ => initial⟩ (Runs.along_of_forall fits _)
  exact (invariant.2 calm).2

/-- Requests are completed once and in order: the requests for which a client got `L4_EOK` are the accepted
ones; these are those whose callback was called, in this order, followed by those that are outstanding; each
callback got the code that the CMD23 and data commands of its request demand, and an answer that the device
is busy changes nothing. -/
structure Completes (d : Device H Irq) : Prop where
  told : acceptedReplies d.replies = (acceptedRequests d.log).map Prod.snd
  inOrder : acceptedRequests d.log = calledRequests d.log ++ callbacks d.queue.pending
  codes : ∀ front slot cb code size earlier,
    d.log = front ++ .callback slot cb code size :: earlier →
    code = if ∀ status ∈ transfers slot earlier, status = .success then L4.eok else -L4.eio
  busy : ∀ req, BusyUnchanged drv info req d

theorem completes_of_ledger {d : Device H Irq} (replied : Replied d)
    (ledger : Ledger d.log (callbacks d.queue.pending)) : Completes drv info d where
  told := replied
  inOrder := ledger.balanced
  codes := fun _ _ _ _ _ _ split => ledger.reported.code split
  busy := fun req => busyUnchanged drv info req d

end Device

end Emmc
