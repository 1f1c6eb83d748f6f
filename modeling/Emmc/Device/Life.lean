import Emmc.Device.Slots

/-!
# The life of a request

A request by itself, away from queue, interrupts and exceptions: the commands it turned its slot into
one after the other, each as it was when it had ended. Whatever the device does, a callback ends such
a life.

* `Life req past c`: the commands `past` of `req` have ended, the last one first; `c` comes next.
* `Ends req past code size`: with the last of `past`, the callback is called.
* `Ends.code`: the callback gets the outcome of the commands other than CMD12.
* `Ends.rejected_iff`: the errors that the card reports in its responses do not reach the callback.
* `callbacks_end_lives`: in every run, a callback that is called for the first time ends the life of
  a request that was made.
-/

namespace Emmc

variable {H Irq : Type}

namespace Device

variable (drv : HwDrv H Irq) (info : DeviceInfo)

/-- The request has come to its command `c`. -/
inductive Life (req : Request) : List Cmd → Cmd → Prop
  | first (c : Cmd) : Life req [] (firstCommand drv info req c)
  | next {past : List Cmd} {c c' : Cmd} (life : Life req past c) (same : c.SameRequest c')
      (ended : c'.progress = false) (more : (inoutWork drv info c').2 = .moreWork) :
      Life req (c' :: past) (inoutWork drv info c').1

/-- The callback of the request is called with `code` and `size`. -/
inductive Ends (req : Request) : List Cmd → Int → U64 → Prop
  | done {past : List Cmd} {c c' : Cmd} {code : Int} {size : U64} (life : Life drv info req past c)
      (same : c.SameRequest c') (ended : c'.progress = false)
      (done : (inoutWork drv info c').2 = .workDone code size) : Ends req (c' :: past) code size

variable {drv info} {req : Request}

/-- All commands belong to the request. -/
theorem Life.owner {past : List Cmd} {c : Cmd} (life : Life drv info req past c) :
    c.cbIo = req.cb ∧ c.flags.inoutRead = req.read ∧ c.cmd ∈ Mmc.inoutCommands := by
  induction life with
  | first c =>
    obtain ⟨-, word, -, -, read, context⟩ := firstCommand_resumed drv info req c
    exact ⟨context, read, word⟩
  | @next past c c' life same ended more ih =>
    have resumed := inoutWork_resumed drv info more
    rcases ih with ⟨context, read, -⟩
    exact ⟨(resumed.owner.cbIo.trans same.cbIo).trans context,
      (resumed.owner.inoutRead.trans same.inoutRead).trans read, resumed.word⟩

/-! ## The outcome -/

/-- No command other than CMD12 ended with an error. -/
def Flawless (past : List Cmd) : Prop := ∀ p ∈ past, p.isCmd12 = false → p.error = false

/-- What the present command knows of those before it: a CMD12 remembers the status of the command
that it stops. -/
inductive Knows (past : List Cmd) (c : Cmd) : Prop
  | transfer (word : c.isCmd12 = false) (flawless : Flawless past)
  | stop (word : c.isCmd12 = true) (unmarked : c.flags.inoutCmd12 = false) {p : Cmd}
      {older : List Cmd} (list : past = p :: older) (stopped : p.isCmd12 = false)
      (remembered : c.statusCmd12 = p.status) (flawless : Flawless older)

theorem Knows.of_same {past : List Cmd} {c c' : Cmd} (knows : Knows past c)
    (same : c.SameRequest c') : Knows past c' := by
  have word : c'.isCmd12 = c.isCmd12 := by simp only [Cmd.isCmd12, same.cmd]
  cases knows with
  | transfer notStop flawless => exact .transfer (word.trans notStop) flawless
  | stop stop unmarked list stopped remembered flawless =>
    exact .stop (word.trans stop) (same.inoutCmd12.trans unmarked) list stopped
      (same.statusCmd12.trans remembered) flawless

theorem flawless_cons {p : Cmd} {past : List Cmd} (transfer : p.isCmd12 = false)
    (flawless : Flawless past) : Flawless (p :: past) ↔ p.error = false := by
  apply Iff.intro
  · intro all
    exact all p List.mem_cons_self transfer
  · intro good q member
    rcases List.mem_cons.mp member with rfl | older
    · exact fun _ => good
    · exact flawless q older

/-- CMD12 does not count. -/
theorem flawless_stop {c : Cmd} {past : List Cmd} (stop : c.isCmd12 = true) :
    Flawless (c :: past) ↔ Flawless past := by
  apply Iff.intro
  · intro all q member
    exact all q (List.mem_cons_of_mem _ member)
  · intro all q member
    rcases List.mem_cons.mp member with rfl | older
    · exact fun transfer => absurd (stop.symm.trans transfer) (by decide)
    · exact all q older

/-- Behind a command that CMD12 does not follow, the status that counts tells whether all commands
were flawless. -/
theorem Knows.restored {past : List Cmd} {c : Cmd} (knows : Knows past c) :
    (restored c).error = false ↔ Flawless (c :: past) := by
  cases knows with
  | transfer notStop flawless =>
    have same : Device.restored c = c := by
      rw [Device.restored, notStop]
      rfl
    rw [same, flawless_cons notStop flawless]
  | @stop stop unmarked p older list stopped remembered flawless =>
    subst list
    have status : (Device.restored c).status = p.status := by
      rw [Device.restored, if_pos stop]
      exact remembered
    rw [flawless_stop stop, flawless_cons stopped flawless]
    simp only [Cmd.error, status]

theorem Life.knows {past : List Cmd} {c : Cmd} (life : Life drv info req past c) :
    Knows past c := by
  induction life with
  | first c =>
    have transfer := (firstCommand_proceeds drv info req c).transfer
    exact .transfer (isCmd12_of_transfer transfer) (fun p member => absurd member List.not_mem_nil)
  | @next past c c' life same ended more ih =>
    have knows := ih.of_same same
    by_cases stop : needsCmd12 drv c'
    · rw [inoutWork_of_cmd12 drv info stop]
      cases knows with
      | transfer notStop flawless =>
        exact .stop (stopCommand_isCmd12 c') rfl rfl notStop rfl flawless
      | stop word unmarked =>
        exact absurd (unmarked.symm.trans stop.1) (by decide)
    · obtain ⟨good, proceeds⟩ := inoutWork_proceeds drv info stop more
      exact .transfer (isCmd12_of_transfer proceeds.transfer) (knows.restored.mp good)

/-- The callback gets the outcome of the CMD23 and data commands. -/
theorem Ends.code {past : List Cmd} {code : Int} {size : U64}
    (ends : Ends drv info req past code size) : code = L4.eok ↔ Flawless past := by
  cases ends with
  | @done past c c' code size life same ended done =>
    obtain ⟨-, -, -, outcome⟩ := inoutWork_done drv info done
    rw [← (life.knows.of_same same).restored, outcome]
    cases failed : (restored c').error with
    | true => simp only [if_true, L4.eio, L4.eok]; decide
    | false => simp only [Bool.false_eq_true, if_false]

/-! ## Errors that the card reports -/

variable (req) in
/-- A request never looks at the responses of its commands: a rejected command keeps the callback
from reporting a success if and only if there is none, or another command failed by itself. -/
theorem Ends.rejected_iff {past : List Cmd} {code : Int} {size : U64}
    (ends : Ends drv info req past code size) :
    ((∃ p ∈ past, p.Rejected) → code ≠ L4.eok) ↔
      (∀ p ∈ past, ¬ p.Rejected) ∨ ∃ p ∈ past, p.isCmd12 = false ∧ p.error = true := by
  have outcome := ends.code
  apply Iff.intro
  · intro reaches
    by_cases rejected : ∃ p ∈ past, p.Rejected
    · have flawed : ¬ Flawless past := fun flawless => reaches rejected (outcome.mpr flawless)
      simp only [Flawless, not_forall] at flawed
      rcases flawed with ⟨p, member, transfer, failed⟩
      exact Or.inr ⟨p, member, transfer, by simpa using failed⟩
    · exact Or.inl fun p member rejects => rejected ⟨p, member, rejects⟩
  · rintro (none | ⟨p, member, transfer, failed⟩) ⟨q, member', rejected⟩ success
    · exact none q member' rejected
    · have good := outcome.mp success p member transfer
      cases good.symm.trans failed

/-! ## Lives in the device -/

variable (drv info) in
/-- Each callback that was called ends the life of a request, or was called before. -/
def Explained (made : Request → Prop) : List Event → Prop
  | [] => True
  | .callback slot cb code size :: log =>
    ((∃ req past, made req ∧ req.cb = some cb ∧ Ends drv info req past code size) ∨
      ∃ code' size', .callback slot cb code' size' ∈ log) ∧ Explained made log
  | _ :: log => Explained made log

variable (drv info) in
/-- The command in the slot is that of a request, or its callback has been called. -/
def Living (made : Request → Prop) (slot : Slot) (log : List Event) (c : Cmd) : Prop :=
  (∃ req past c₀, made req ∧ Life drv info req past c₀ ∧ c₀.SameRequest c) ∨
    ∃ cb code size, c.cbIo = some cb ∧ .callback slot cb code size ∈ log

variable (drv info) in
theorem livingRule (made : Request → Prop) :
    InoutRule drv info made (Living drv info made) (Explained drv info made) where
  older := by
    intro slot log c living event
    rcases living with living | ⟨cb, code, size, context, called⟩
    · exact Or.inl living
    · exact Or.inr ⟨cb, code, size, context, List.mem_cons_of_mem _ called⟩
  driver := by
    intro slot log c c' living same
    rcases living with ⟨req, past, c₀, wanted, life, owner⟩ | ⟨cb, code, size, context, called⟩
    · exact Or.inl ⟨req, past, c₀, wanted, life, owner.trans same⟩
    · exact Or.inr ⟨cb, code, size, same.cbIo.trans context, called⟩
  entered := by
    intro slot log c req wanted
    exact Or.inl ⟨req, [], _, wanted, .first c, Cmd.SameRequest.refl _⟩
  continued := by
    intro slot log c cb living ended context more
    rcases living with ⟨req, past, c₀, wanted, life, same⟩ | ⟨cb', code, size, owner, called⟩
    · exact Or.inl ⟨req, c :: past, _, wanted, life.next same ended more, Cmd.SameRequest.refl _⟩
    · exact Or.inr ⟨cb', code, size,
        (inoutWork_resumed drv info more).owner.cbIo.trans owner, called⟩
  answered := by
    intro slot log c cb code size living ended context done explained
    have owner := (inoutWork_done drv info done).2.1.cbIo.trans context
    refine ⟨⟨?_, explained⟩, Or.inr ⟨cb, code, size, owner, List.mem_cons_self⟩⟩
    rcases living with ⟨req, past, c₀, wanted, life, same⟩ | ⟨cb', code', size', owner', called⟩
    · refine Or.inl ⟨req, c :: past, wanted, ?_, .done life same ended done⟩
      exact (life.owner.1.symm.trans same.cbIo.symm).trans context
    · cases owner'.symm.trans context
      exact Or.inr ⟨code', size', called⟩
  quiet := by
    intro event log quiet explained
    cases event with
    | callback => cases quiet
    | _ => exact explained

theorem Explained.split {made : Request → Prop} {log front earlier : List Event} {slot : Slot}
    {cb : Callback} {code : Int} {size : U64} (explained : Explained drv info made log)
    (split : log = front ++ .callback slot cb code size :: earlier) :
    (∃ req past, made req ∧ req.cb = some cb ∧ Ends drv info req past code size) ∨
      ∃ code' size', .callback slot cb code' size' ∈ earlier := by
  subst split
  induction front with
  | nil => exact explained.1
  | cons event front ih =>
    refine ih ?_
    cases event with
    | callback => exact explained.2
    | _ => exact explained

/-- In every run, whatever throws, a callback that was not called before ends the life of one of the
requests made. -/
theorem callbacks_end_lives {made : Request → Prop} {ops : List (Op Irq)}
    (wanted : ∀ op ∈ ops, ∀ req ∈ op.requests, made req) (h : H) {front earlier : List Event}
    {slot : Slot} {cb : Callback} {code : Int} {size : U64}
    (split : (Runs.run (step drv info) ops (start h)).log =
      front ++ .callback slot cb code size :: earlier)
    (new : ∀ code' size', Event.callback slot cb code' size' ∉ earlier) :
    ∃ req past, made req ∧ req.cb = some cb ∧ Ends drv info req past code size := by
  rcases (inout_run (livingRule drv info made) wanted h trivial).log.split split with
    life | ⟨code', size', called⟩
  · exact life
  · exact absurd called (new code' size')

end Device

end Emmc
