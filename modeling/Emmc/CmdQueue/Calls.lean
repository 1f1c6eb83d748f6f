import Emmc.CmdQueue
import Emmc.Lib.Runs

/-!
# Calls of the command queue

The queue by itself, driven by `create`, `cmd_work_done` and `cmd_destruct` in any order and with
any command of the queue. A call that throws leaves the state it had reached.

* `Fifo` is the queue as its clients know it: the commands they created and did not mark done, and
  those they marked done and did not destruct. It records the calls and their results only.
* `Ring` ties the three indices to it: they cut the ring into the free slots, the slots that wait and
  the slots that are done. `bounded_fifo` is what the clients get from it as long as they destruct in
  the order in which they marked done.
* `harmless_iff` tells for an arbitrary call whether a refusal leaves the queue as it was: `create`
  moves on before it looks at the slot, and `cmd_destruct` clears the mark of the slot before it looks
  at the indices.
-/

namespace Emmc

open Throwing

namespace CmdQueue

inductive Call
  | create
  | workDone (slot : Slot)
  | destruct (slot : Slot)
deriving DecidableEq

/-- A call with what it returns: a slot or no slot for `create`, nothing otherwise. -/
def perform : Call → EStateM RuntimeError CmdQueue (Option Slot)
  | .create => createCmd
  | .workDone slot => do
    cmdWorkDone slot
    return none
  | .destruct slot => do
    cmdDestruct slot
    return none

/-- The loop of `num_work()`, as far as `fuel` steps go. -/
def countWork (q : CmdQueue) : Nat → Slot → Nat → Option Nat
  | 0, _, _ => none
  | fuel + 1, w, cnt => if w = q.create then some cnt else q.countWork fuel (w + 1) (cnt + 1)

def numWork (q : CmdQueue) (fuel : Nat) : Option Nat := q.countWork fuel q.working 0

theorem countWork_eq (q : CmdQueue) {fuel : Nat} {w : Slot} (enough : distance w q.create < fuel)
    (cnt : Nat) : q.countWork fuel w cnt = some (cnt + distance w q.create) := by
  induction fuel generalizing w cnt with
  | zero => exact absurd enough (Nat.not_lt_zero _)
  | succ fuel ih =>
    rw [countWork]
    by_cases here : w = q.create
    · rw [if_pos here, here, distance_self, Nat.add_zero]
    · have closer := distance_succ_left here
      rw [if_neg here, ih (by omega), closer, Nat.add_assoc, Nat.add_comm 1]

/-! ## What a call does -/

theorem get_ok (q : CmdQueue) : (get : EStateM RuntimeError CmdQueue CmdQueue) q = .ok q q := rfl

/-- `create` moves on before it looks at the mark of the slot. -/
theorem perform_create (q : CmdQueue) :
    perform .create q =
      if q.isFull = true then .ok none q
      else if (q.cmds q.create).flags.enqueued = true then
        .error ⟨-L4.einval, "Command queue entry not destroyed"⟩ { q with create := q.create + 1 }
      else .ok (some q.create) q.created := by
  show createCmd q = _
  unfold createCmd
  rw [bind_of_ok (get_ok q)]
  by_cases full : q.isFull = true
  · rw [if_pos full, if_pos full]
    rfl
  · rw [if_neg full, if_neg full]
    show (if (q.cmds q.create).flags.enqueued = true then
        (throw ⟨-L4.einval, "Command queue entry not destroyed"⟩ :
          EStateM RuntimeError CmdQueue (Option Slot))
      else _) { q with create := q.create + 1 } = _
    by_cases taken : (q.cmds q.create).flags.enqueued = true
    · rw [if_pos taken, if_pos taken]
      rfl
    · rw [if_neg taken, if_neg taken]
      rfl

theorem perform_workDone (slot : Slot) (q : CmdQueue) :
    perform (.workDone slot) q =
      if q.working? = some slot then .ok none { q with working := q.working + 1 }
      else .error ⟨-L4.einval, "Queue disorder (working != cmd)."⟩ q := by
  by_cases head : q.working? = some slot
  · rw [if_pos head]
    have run : cmdWorkDone slot q = .ok () { q with working := q.working + 1 } := by
      unfold cmdWorkDone
      rw [bind_of_ok (get_ok q), if_neg (not_not.mpr head)]
      rfl
    exact bind_of_ok run _
  · rw [if_neg head]
    have run : cmdWorkDone slot q = .error ⟨-L4.einval, "Queue disorder (working != cmd)."⟩ q := by
      unfold cmdWorkDone
      rw [bind_of_ok (get_ok q), if_pos head]
      rfl
    exact bind_of_error run _

/-- The queue with the mark of a slot cleared. -/
def unmarked (q : CmdQueue) (slot : Slot) : CmdQueue :=
  q.setCmd slot { q.cmds slot with flags := { (q.cmds slot).flags with enqueued := false } }

/-- `cmd_destruct` clears the mark of the slot before it looks at the indices. -/
theorem perform_destruct (slot : Slot) (q : CmdQueue) :
    perform (.destruct slot) q =
      if (q.cmds slot).flags.enqueued = true then
        if q.destruct = q.working then
          .error ⟨-L4.einval, "Queue disorder (destruct == working)."⟩ (q.unmarked slot)
        else .ok none { q.unmarked slot with destruct := q.destruct + 1 }
      else .error ⟨-L4.einval, "Command queue entry was not created."⟩ q := by
  by_cases taken : (q.cmds slot).flags.enqueued = true
  · rw [if_pos taken]
    have present : ¬(!(q.cmds slot).flags.enqueued) = true := by rw [taken]; decide
    by_cases nothing : q.destruct = q.working
    · rw [if_pos nothing]
      have run : cmdDestruct slot q =
          .error ⟨-L4.einval, "Queue disorder (destruct == working)."⟩ (q.unmarked slot) := by
        unfold cmdDestruct
        rw [bind_of_ok (get_ok q), if_neg present]
        show (if q.destruct = q.working then
            (throw ⟨-L4.einval, "Queue disorder (destruct == working)."⟩ :
              EStateM RuntimeError CmdQueue Unit)
          else _) (q.unmarked slot) = _
        rw [if_pos nothing]
        rfl
      exact bind_of_error run _
    · rw [if_neg nothing]
      have run : cmdDestruct slot q =
          .ok () { q.unmarked slot with destruct := q.destruct + 1 } := by
        unfold cmdDestruct
        rw [bind_of_ok (get_ok q), if_neg present]
        show (if q.destruct = q.working then
            (throw ⟨-L4.einval, "Queue disorder (destruct == working)."⟩ :
              EStateM RuntimeError CmdQueue Unit)
          else _) (q.unmarked slot) = _
        rw [if_neg nothing]
        rfl
      exact bind_of_ok run _
  · rw [if_neg taken]
    have run : cmdDestruct slot q =
        .error ⟨-L4.einval, "Command queue entry was not created."⟩ q := by
      unfold cmdDestruct
      rw [bind_of_ok (get_ok q), if_pos (by simpa using taken)]
      rfl
    exact bind_of_error run _

/-! ## The queue as its clients know it -/

structure Fifo where
  /-- Created and not marked done, in the order of their creation. -/
  waiting : List Slot := []
  /-- Marked done and not destructed, in the order in which they were marked. -/
  done : List Slot := []

namespace Fifo

def outstanding (f : Fifo) : List Slot := f.done ++ f.waiting

/-- The record of a call that returned. -/
def record (f : Fifo) : Call → Option Slot → Fifo
  | .create, some slot => { f with waiting := f.waiting ++ [slot] }
  | .create, none => f
  | .workDone slot, _ => { waiting := f.waiting.erase slot, done := f.done ++ [slot] }
  | .destruct slot, _ => { f with done := f.done.erase slot }

end Fifo

/-- The queue and the record of its calls. -/
abbrev Recorded := CmdQueue × Fifo

def observe (c : Call) (s : Recorded) : Recorded :=
  match perform c s.1 with
  | .ok result q => (q, s.2.record c result)
  | .error _ q => (q, s.2)

/-- The client marks the command done that the controller works on, and destructs in the order in
which it marked done. -/
def InOrder : Call → Recorded → Prop
  | .create, _ => True
  | .workDone slot, s => s.1.working? = some slot
  | .destruct slot, s => s.2.done.head? = some slot

/-- What the queue tells about its contents. -/
structure Follows (s : Recorded) : Prop where
  working : s.1.working? = s.2.waiting.head?
  numWork : ∀ fuel, entries ≤ fuel → s.1.numWork fuel = some s.2.waiting.length
  enqueued : ∀ slot, (s.1.cmds slot).flags.enqueued = true ↔ slot ∈ s.2.outstanding

/-- The call returns; a slot is refused exactly when all but one are outstanding, and the slot given
out is not outstanding. -/
def Answers (c : Call) (s : Recorded) : Prop :=
  ∃ result q, perform c s.1 = .ok result q ∧
    (c = .create → (result = none ↔ s.2.outstanding.length = entries - 1) ∧
      ∀ slot ∈ result, slot ∉ s.2.outstanding)

/-! ## The regions of the ring -/

theorem slotsFrom_add (slot : Slot) (m n : Nat) :
    slotsFrom slot (m + n) = slotsFrom slot m ++ slotsFrom (slot + Fin.ofNat entries m) n := by
  induction n with
  | zero => simp [slotsFrom]
  | succ n ih =>
    have index : slot + Fin.ofNat entries m + Fin.ofNat entries n =
        slot + Fin.ofNat entries (m + n) := by
      apply Fin.ext
      simp only [Fin.val_add, Fin.val_ofNat, entries]
      omega
    rw [← Nat.add_assoc, slotsFrom_succ, ih, slotsFrom_succ, index, List.append_assoc]

/-- The indices cut the ring into the commands that are done, those that wait, and free slots. -/
structure Ring (s : Recorded) : Prop where
  done : s.2.done = slotsFrom s.1.destruct (distance s.1.destruct s.1.working)
  waiting : s.2.waiting = s.1.waiting
  cut : distance s.1.destruct s.1.create =
    distance s.1.destruct s.1.working + distance s.1.working s.1.create
  enqueued : ∀ slot, (s.1.cmds slot).flags.enqueued = true ↔ slot ∈ s.2.outstanding

theorem ring_start : Ring ({}, {}) := by
  refine ⟨rfl, rfl, rfl, fun slot => ?_⟩
  exact iff_of_false Bool.false_ne_true List.not_mem_nil

section Regions

variable {s : Recorded} (ring : Ring s)
include ring

theorem Ring.outstanding : s.2.outstanding = s.1.outstanding := by
  rw [Fifo.outstanding, ring.done, ring.waiting, CmdQueue.waiting, CmdQueue.outstanding, ring.cut,
    slotsFrom_add, add_distance]

theorem Ring.follows : Follows s where
  working := by
    rw [ring.waiting, CmdQueue.waiting, working?]
    by_cases none : s.1.working = s.1.create
    · rw [if_pos none, distance_eq_zero.mpr none]
      rfl
    · rw [if_neg none, distance_succ_left none]
      rfl
  numWork := by
    intro fuel enough
    have less := distance_lt s.1.working s.1.create
    rw [numWork, countWork_eq _ (by omega), Nat.zero_add, ring.waiting, CmdQueue.waiting,
      length_slotsFrom]
  enqueued := ring.enqueued

/-- The slot that `create` would take is free. -/
theorem Ring.free : (s.1.cmds s.1.create).flags.enqueued = false := by
  have absent : s.1.create ∉ s.2.outstanding := by
    rw [ring.outstanding]
    exact s.1.create_notMem_outstanding
  simpa using (ring.enqueued s.1.create).not.mpr absent

/-- Behind a queue that is not full there is room in the waiting region as well. -/
theorem Ring.room (room : s.1.create + 1 ≠ s.1.destruct) : s.1.create + 1 ≠ s.1.working := by
  intro caught
  have most := distance_lt s.1.destruct s.1.create
  have cut := ring.cut
  have turn : distance s.1.working s.1.create = entries - 1 :=
    (by unfold distance; decide : ∀ c w : Slot, c + 1 = w → distance w c = entries - 1) _ _ caught
  have nothingDone : s.1.destruct = s.1.working := distance_eq_zero.mp (by omega)
  exact room (caught.trans nothingDone.symm)

/-- A command that waits is not behind the one destructed last. -/
theorem Ring.apart (waits : s.1.working ≠ s.1.create) : s.1.working + 1 ≠ s.1.destruct := by
  intro caught
  have turn : distance s.1.destruct s.1.working = entries - 1 :=
    (by unfold distance; decide : ∀ w d : Slot, w + 1 = d → distance d w = entries - 1) _ _ caught
  have most := distance_lt s.1.destruct s.1.create
  have some : distance s.1.working s.1.create ≠ 0 := fun none => waits (distance_eq_zero.mp none)
  have cut := ring.cut
  omega

end Regions

/-! ## The calls in order -/

section Steps

variable {q : CmdQueue} {f : Fifo} (ring : Ring (q, f))
include ring

/-- A full queue refuses; otherwise the next free slot is taken. -/
theorem Ring.create :
    perform .create q =
      if q.isFull = true then .ok none q else .ok (some q.create) q.created := by
  have notTaken : ¬ (q.cmds q.create).flags.enqueued = true := by
    rw [ring.free]
    exact Bool.false_ne_true
  rw [perform_create, if_neg notTaken]

theorem Ring.created (room : q.isFull = false) :
    Ring (q.created, f.record .create (some q.create)) := by
  have behind : q.create + 1 ≠ q.destruct := by simpa [isFull] using room
  have one := distance_succ_right behind
  have one' := distance_succ_right (ring.room behind)
  refine ⟨ring.done, ?_, ?_, fun slot => ?_⟩
  · have more : q.created.waiting = q.waiting ++ [q.create] := by
      show slotsFrom q.working (distance q.working (q.create + 1)) = _
      rw [one', slotsFrom_succ, add_distance]
      rfl
    rw [more]
    exact congrArg (· ++ [q.create]) ring.waiting
  · show distance q.destruct (q.create + 1) = distance q.destruct q.working + _
    show _ = distance q.destruct q.working + distance q.working (q.create + 1)
    rw [one, one', ring.cut, Nat.add_assoc]
  · have list : (f.record .create (some q.create)).outstanding = f.outstanding ++ [q.create] :=
      (List.append_assoc _ _ _).symm
    rw [list, List.mem_append, List.mem_singleton]
    by_cases same : slot = q.create
    · simp [same, CmdQueue.created]
    · have frame : q.created.cmds slot = q.cmds slot := cmds_setCmd_of_ne _ same _
      rw [frame, ring.enqueued slot]
      simp [same]

/-- The waiting region begins with the command the controller works on. -/
theorem Ring.waiting_cons {slot : Slot} (head : q.working? = some slot) :
    q.working ≠ q.create ∧ slot = q.working ∧
      f.waiting = slot :: slotsFrom (q.working + 1) (distance (q.working + 1) q.create) := by
  have waits : q.working ≠ q.create := by
    intro none
    rw [working?, if_pos none] at head
    cases head
  have same : slot = q.working := by
    rw [working?, if_neg waits] at head
    exact (Option.some.inj head).symm
  refine ⟨waits, same, ?_⟩
  rw [ring.waiting, CmdQueue.waiting, distance_succ_left waits, slotsFrom, same]

theorem Ring.workDone {slot : Slot} (head : q.working? = some slot) :
    perform (.workDone slot) q = .ok none { q with working := q.working + 1 } ∧
      Ring ({ q with working := q.working + 1 }, f.record (.workDone slot) none) := by
  obtain ⟨waits, rfl, list⟩ := ring.waiting_cons head
  have one := distance_succ_right (ring.apart waits)
  have cut := ring.cut
  apply And.intro
  · rw [perform_workDone, if_pos head]
  · have rest : f.waiting.erase q.working =
        slotsFrom (q.working + 1) (distance (q.working + 1) q.create) := by
      rw [list, List.erase_cons_head]
    refine ⟨?_, rest, ?_, fun other => ?_⟩
    · show f.done ++ [q.working] = slotsFrom q.destruct (distance q.destruct (q.working + 1))
      rw [one, slotsFrom_succ, add_distance]
      exact congrArg (· ++ [q.working]) ring.done
    · show distance q.destruct q.create =
        distance q.destruct (q.working + 1) + distance (q.working + 1) q.create
      have shorter := distance_succ_left waits
      simp only at cut one
      omega
    · rw [show (q.cmds other).flags.enqueued = true ↔ _ from ring.enqueued other]
      show other ∈ f.done ++ f.waiting ↔ other ∈ f.done ++ [q.working] ++ f.waiting.erase q.working
      rw [rest, list, List.append_assoc]
      rfl

/-- The region that is done begins with the command to be destructed. -/
theorem Ring.done_cons {slot : Slot} (head : f.done.head? = some slot) :
    q.destruct ≠ q.working ∧ slot = q.destruct ∧
      f.done = slot :: slotsFrom (q.destruct + 1) (distance (q.destruct + 1) q.working) := by
  have list : f.done = slotsFrom q.destruct (distance q.destruct q.working) := ring.done
  have some : q.destruct ≠ q.working := by
    intro none
    rw [list, distance_eq_zero.mpr none] at head
    cases head
  rw [distance_succ_left some, slotsFrom] at list
  have same : slot = q.destruct := by
    rw [list] at head
    exact (Option.some.inj head).symm
  exact ⟨some, same, by rw [list, same]⟩

/-- The queue after the oldest command that is done was destructed. -/
theorem Ring.destruct {slot : Slot} (head : f.done.head? = some slot) :
    ∃ q', perform (.destruct slot) q = .ok none q' ∧
      Ring (q', f.record (.destruct slot) none) := by
  obtain ⟨some, rfl, list⟩ := ring.done_cons head
  have member : q.destruct ∈ f.outstanding := by
    rw [Fifo.outstanding, list]
    exact List.mem_cons_self
  have enqueued : (q.cmds q.destruct).flags.enqueued = true := (ring.enqueued _).mpr member
  have nodup := q.nodup_outstanding
  rw [← ring.outstanding] at nodup
  have parts : f.outstanding = q.destruct ::
      (slotsFrom (q.destruct + 1) (distance (q.destruct + 1) q.working) ++ f.waiting) := by
    rw [Fifo.outstanding, list]
    rfl
  rw [parts, List.nodup_cons] at nodup
  have cut := ring.cut
  refine ⟨{ q.unmarked q.destruct with destruct := q.destruct + 1 }, ?_, ?_, ring.waiting, ?_,
    fun other => ?_⟩
  · rw [perform_destruct, if_pos enqueued, if_neg some]
  · show f.done.erase q.destruct =
      slotsFrom (q.destruct + 1) (distance (q.destruct + 1) q.working)
    rw [list, List.erase_cons_head]
  · show distance (q.destruct + 1) q.create =
      distance (q.destruct + 1) q.working + distance q.working q.create
    have shorter := distance_succ_left some
    simp only at cut
    have used : q.destruct ≠ q.create := by
      intro none
      have zero := distance_eq_zero.mpr none
      omega
    have shorter' := distance_succ_left used
    omega
  · have list' : (f.record (.destruct q.destruct) none).outstanding =
        slotsFrom (q.destruct + 1) (distance (q.destruct + 1) q.working) ++ f.waiting := by
      show f.done.erase q.destruct ++ f.waiting = _
      rw [list, List.erase_cons_head]
    rw [list']
    by_cases same : other = q.destruct
    · subst same
      show ((q.unmarked q.destruct).cmds q.destruct).flags.enqueued = true ↔ _
      rw [unmarked, cmds_setCmd_self]
      exact iff_of_false Bool.false_ne_true nodup.1
    · show ((q.unmarked q.destruct).cmds other).flags.enqueued = true ↔ _
      rw [unmarked, cmds_setCmd_of_ne _ same]
      rw [show (q.cmds other).flags.enqueued = true ↔ _ from ring.enqueued other, parts]
      simp [same]

end Steps

/-! ## Runs of calls in order -/

theorem ring_observe (c : Call) (s : Recorded) (ring : Ring s) (inOrder : InOrder c s) :
    Ring (observe c s) := by
  rcases s with ⟨q, f⟩
  cases c with
  | create =>
    have outcome := ring.create
    by_cases full : q.isFull = true
    · rw [if_pos full] at outcome
      simp only [observe, outcome]
      exact ring
    · rw [if_neg full] at outcome
      simp only [observe, outcome]
      exact ring.created (by simpa using full)
  | workDone slot =>
    obtain ⟨outcome, next⟩ := ring.workDone inOrder
    simp only [observe, outcome]
    exact next
  | destruct slot =>
    obtain ⟨q', outcome, next⟩ := ring.destruct inOrder
    simp only [observe, outcome]
    exact next

theorem Ring.answers {c : Call} {s : Recorded} (ring : Ring s) (inOrder : InOrder c s) :
    Answers c s := by
  rcases s with ⟨q, f⟩
  cases c with
  | create =>
    have outcome := ring.create
    have length : q.isFull = true ↔ f.outstanding.length = entries - 1 := by
      rw [isFull_iff, ← ring.outstanding]
    by_cases full : q.isFull = true
    · rw [if_pos full] at outcome
      refine ⟨none, q, outcome, fun _ => ⟨iff_of_true rfl (length.mp full), ?_⟩⟩
      exact fun slot member => by cases member
    · rw [if_neg full] at outcome
      refine ⟨some q.create, q.created, outcome, fun _ => ⟨?_, ?_⟩⟩
      · exact iff_of_false (fun none => by cases none) (fun most => full (length.mpr most))
      · intro slot member
        cases member
        rw [ring.outstanding]
        exact q.create_notMem_outstanding
  | workDone slot =>
    obtain ⟨outcome, -⟩ := ring.workDone inOrder
    exact ⟨none, _, outcome, fun other => by cases other⟩
  | destruct slot =>
    obtain ⟨q', outcome, -⟩ := ring.destruct inOrder
    exact ⟨none, _, outcome, fun other => by cases other⟩

/-- As long as the commands are destructed in the order in which they were marked done, the queue
is a bounded FIFO, however often the indices wrap around. -/
theorem bounded_fifo {calls : List Call}
    (inOrder : Runs.Along observe InOrder calls ({}, {})) :
    Follows (Runs.run observe calls ({}, {})) ∧
      ∀ c, InOrder c (Runs.run observe calls ({}, {})) →
        Answers c (Runs.run observe calls ({}, {})) := by
  have ring := Runs.run_invariant ring_observe ring_start inOrder
  exact ⟨ring.follows, fun c legal => ring.answers legal⟩

/-- Two commands, the first one marked done and destructed. -/
theorem bounded_fifo_two :
    Runs.Along observe InOrder [.create, .create, .workDone 0, .destruct 0] ({}, {}) ∧
      Follows (Runs.run observe [.create, .create, .workDone 0, .destruct 0] ({}, {})) := by
  have inOrder : Runs.Along observe InOrder [.create, .create, .workDone 0, .destruct 0] ({}, {}) :=
    ⟨trivial, trivial, rfl, rfl, trivial⟩
  exact ⟨inOrder, (bounded_fifo inOrder).1⟩

/-! ## Refused calls -/

/-- The indices and the marks are the same. -/
structure Unchanged (q q' : CmdQueue) : Prop where
  create : q'.create = q.create
  working : q'.working = q.working
  destruct : q'.destruct = q.destruct
  enqueued : ∀ slot, (q'.cmds slot).flags.enqueued = (q.cmds slot).flags.enqueued

theorem Unchanged.refl (q : CmdQueue) : Unchanged q q := ⟨rfl, rfl, rfl, fun _ => rfl⟩

/-- If the call throws, it changes nothing. -/
def Harmless (c : Call) (q : CmdQueue) : Prop :=
  ∀ e q', perform c q = .error e q' → Unchanged q q'

/-- The call passes its first check and then fails the second one: `create` on a queue with room whose
next slot is still marked, and `cmd_destruct` of a marked command while none is done. -/
def HalfDone : Call → CmdQueue → Prop
  | .create, q => q.isFull = false ∧ (q.cmds q.create).flags.enqueued = true
  | .workDone _, _ => False
  | .destruct slot, q => (q.cmds slot).flags.enqueued = true ∧ q.destruct = q.working

theorem harmless_create_iff (q : CmdQueue) : Harmless .create q ↔ ¬ HalfDone .create q := by
  rw [Harmless, perform_create]
  apply Iff.intro
  · intro harmless post
    rcases post with ⟨room, taken⟩
    have notFull : ¬ q.isFull = true := by rw [room]; exact Bool.false_ne_true
    rw [if_neg notFull, if_pos taken] at harmless
    have moved : q.create + 1 = q.create := (harmless _ _ rfl).create
    exact (by decide : ∀ slot : Slot, slot + 1 ≠ slot) q.create moved
  · intro whole e q' thrown
    by_cases full : q.isFull = true
    · rw [if_pos full] at thrown
      cases thrown
    · rw [if_neg full] at thrown
      by_cases taken : (q.cmds q.create).flags.enqueued = true
      · exact absurd ⟨by simpa using full, taken⟩ whole
      · rw [if_neg taken] at thrown
        cases thrown

theorem harmless_workDone (slot : Slot) (q : CmdQueue) : Harmless (.workDone slot) q := by
  intro e q' thrown
  rw [perform_workDone] at thrown
  by_cases head : q.working? = some slot
  · rw [if_pos head] at thrown
    cases thrown
  · rw [if_neg head] at thrown
    cases thrown
    exact Unchanged.refl q

theorem harmless_destruct_iff (slot : Slot) (q : CmdQueue) :
    Harmless (.destruct slot) q ↔ ¬ HalfDone (.destruct slot) q := by
  rw [Harmless, perform_destruct]
  apply Iff.intro
  · intro harmless post
    rcases post with ⟨taken, nothing⟩
    rw [if_pos taken, if_pos nothing] at harmless
    have mark := (harmless _ _ rfl).enqueued slot
    rw [unmarked, cmds_setCmd_self, taken] at mark
    cases mark
  · intro whole e q' thrown
    by_cases taken : (q.cmds slot).flags.enqueued = true
    · have some : ¬ q.destruct = q.working := fun nothing => whole ⟨taken, nothing⟩
      rw [if_pos taken, if_neg some] at thrown
      cases thrown
    · rw [if_neg taken] at thrown
      cases thrown
      exact Unchanged.refl q

/-- One call of a run; an exception leaves the state it had reached. -/
def step (c : Call) (q : CmdQueue) : CmdQueue := after (perform c) q

/-- In every state reached by calls of any kind, a call that is refused changes nothing if and only if
it is not refused half-way. -/
theorem harmless_iff (calls : List Call) (c : Call) :
    Harmless c (Runs.run step calls {}) ↔ ¬ HalfDone c (Runs.run step calls {}) := by
  cases c with
  | create => exact harmless_create_iff _
  | workDone slot => exact iff_of_true (harmless_workDone slot _) not_false
  | destruct slot => exact harmless_destruct_iff slot _

set_option maxRecDepth 4000 in
/-- A command that is destructed before it is marked done loses its mark although the call throws;
and where slots were freed out of order, `create` skips one without taking it. -/
theorem refused_halfway :
    ¬ Harmless (.destruct 0) (Runs.run step [.create] {}) ∧
      ¬ Harmless .create (Runs.run step
        (List.replicate 3 .create ++ [.workDone 0, .workDone 1, .destruct 1, .workDone 2,
          .destruct 2] ++ List.replicate 29 .create) {}) := by
  apply And.intro
  · rw [harmless_destruct_iff, not_not]
    exact ⟨rfl, rfl⟩
  · rw [harmless_create_iff, not_not]
    exact ⟨rfl, rfl⟩

end CmdQueue

end Emmc
