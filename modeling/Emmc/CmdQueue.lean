import Mathlib.Data.Fin.Basic
import Mathlib.Tactic.Cases
import Emmc.Lib.Throwing
import Emmc.Cmd

/-!
# The command queue

`CmdQueue` is the ring of command slots. Three indices walk it in the same direction: `create`
takes the next free slot, `working` names the slot the controller works on, and `destruct` names
the slot that is freed next. Equality of two indices means that the region between them is empty;
`create` never catches up with `destruct` from behind.

* `outstanding` lists the slots created and not destructed, `waiting` those created and not marked
  done; both are stretches of the ring (`slotsFrom`).
* `Settled` is the state in which the device leaves the queue between two operations: no command
  is marked done and not destructed, and exactly the outstanding slots are marked `enqueued`.
* `create_spec` and `retire_spec` say what the operations do to a settled queue.
-/

namespace Emmc

open Throwing

/-- Number of slots. -/
abbrev entries : Nat := 32

instance neZero_entries : NeZero entries := ⟨by decide⟩

abbrev Slot := Fin entries

/-- The queue. Slot numbers are taken modulo `entries`, so that `i + 1` wraps around. -/
structure CmdQueue where
  cmds : Slot → Cmd := fun _ => {}
  create : Slot := 0
  working : Slot := 0
  destruct : Slot := 0

namespace CmdQueue

/-- Replace the command in a slot. -/
def setCmd (q : CmdQueue) (slot : Slot) (c : Cmd) : CmdQueue :=
  { q with cmds := Function.update q.cmds slot c }

def isFull (q : CmdQueue) : Bool := q.create + 1 = q.destruct

/-- The slot the controller works on. -/
def working? (q : CmdQueue) : Option Slot :=
  if q.working = q.create then none else some q.working

/-- Take the next free slot. -/
def createCmd : EStateM RuntimeError CmdQueue (Option Slot) := do
  let q ← get
  if q.isFull then
    return none
  else
    let slot := q.create
    set { q with create := q.create + 1 }
    if (q.cmds slot).flags.enqueued then
      throw ⟨-L4.einval, "Command queue entry not destroyed"⟩
    else
      let c := q.cmds slot
      modify (·.setCmd slot
        { c with flags := { c.flags with enqueued := true }, status := .uninitialized })
      return some slot

/-- Mark the command the controller works on as done. -/
def cmdWorkDone (slot : Slot) : EStateM RuntimeError CmdQueue Unit := do
  let q ← get
  if q.working? ≠ some slot then
    throw ⟨-L4.einval, "Queue disorder (working != cmd)."⟩
  else
    set { q with working := q.working + 1 }

/-- Free the slot of a command that is marked done. -/
def cmdDestruct (slot : Slot) : EStateM RuntimeError CmdQueue Unit := do
  let q ← get
  if !(q.cmds slot).flags.enqueued then
    throw ⟨-L4.einval, "Command queue entry was not created."⟩
  else
    let c := q.cmds slot
    modify (·.setCmd slot { c with flags := { c.flags with enqueued := false } })
    if q.destruct = q.working then
      throw ⟨-L4.einval, "Queue disorder (destruct == working)."⟩
    else
      modify fun q => { q with destruct := q.destruct + 1 }

/-- `Cmd::destruct`: free the slot and invalidate the command. -/
def destructCmd (slot : Slot) : EStateM RuntimeError CmdQueue Unit := do
  cmdDestruct slot
  modify fun q => q.setCmd slot (q.cmds slot).invalidate

/-- `Cmd::work_done` and `Cmd::destruct` in a row. -/
def retire (slot : Slot) : EStateM RuntimeError CmdQueue Unit := do
  cmdWorkDone slot
  destructCmd slot

/-! ## Stretches of the ring -/

/-- `n` consecutive slots, starting with `slot`. -/
def slotsFrom (slot : Slot) : Nat → List Slot
  | 0 => []
  | n + 1 => slot :: slotsFrom (slot + 1) n

/-- Distance from one slot to another in the direction of the ring. -/
def distance (fromSlot toSlot : Slot) : Nat := (toSlot - fromSlot).val

/-- The slots created and not destructed, oldest first. -/
def outstanding (q : CmdQueue) : List Slot :=
  slotsFrom q.destruct (distance q.destruct q.create)

/-- The slots created and not marked done, oldest first. -/
def waiting (q : CmdQueue) : List Slot :=
  slotsFrom q.working (distance q.working q.create)

@[simp] theorem distance_self (slot : Slot) : distance slot slot = 0 := by
  simp [distance]

/-- Equal indices mean an empty stretch, never a full turn: `create` does not catch up. -/
theorem distance_eq_zero {a b : Slot} : distance a b = 0 ↔ a = b := by
  revert a b
  unfold distance
  decide

/-- The stretch grows at its end, unless that closes the ring. -/
theorem distance_succ_right {a b : Slot} (room : b + 1 ≠ a) :
    distance a (b + 1) = distance a b + 1 := by
  revert a b
  unfold distance
  decide

/-- A stretch that is not empty shrinks at its beginning. -/
theorem distance_succ_left {a b : Slot} (apart : a ≠ b) :
    distance a b = distance (a + 1) b + 1 := by
  revert a b
  unfold distance
  decide

/-- The distance leads from one slot to the other. -/
theorem add_distance (a b : Slot) : a + Fin.ofNat entries (distance a b) = b := by
  revert a b
  unfold distance
  decide

@[simp] theorem length_slotsFrom (slot : Slot) (n : Nat) : (slotsFrom slot n).length = n := by
  induction n generalizing slot with
  | zero => rfl
  | succ n ih => rw [slotsFrom, List.length_cons, ih]

/-- A longer stretch has one more slot at its end. -/
theorem slotsFrom_succ (slot : Slot) (n : Nat) :
    slotsFrom slot (n + 1) = slotsFrom slot n ++ [slot + Fin.ofNat entries n] := by
  induction n generalizing slot with
  | zero => simp [slotsFrom]
  | succ n ih =>
    have shift : slot + 1 + Fin.ofNat entries n = slot + Fin.ofNat entries (n + 1) := by
      apply Fin.ext
      simp only [Fin.val_add, Fin.val_one, Fin.val_ofNat, entries]
      omega
    rw [slotsFrom, ih, shift, slotsFrom, List.cons_append]

/-- The slots of a stretch are those that lie less than its length ahead of the first one. -/
theorem mem_slotsFrom {slot x : Slot} {n : Nat} :
    x ∈ slotsFrom slot n ↔ ∃ i < n, x = slot + Fin.ofNat entries i := by
  induction n with
  | zero => simp [slotsFrom]
  | succ n ih =>
    rw [slotsFrom_succ, List.mem_append, ih, List.mem_singleton]
    apply Iff.intro
    · intro given
      rcases given with ⟨i, bound, rfl⟩ | rfl
      · exact ⟨i, by omega, rfl⟩
      · exact ⟨n, by omega, rfl⟩
    · intro given
      rcases given with ⟨i, bound, rfl⟩
      rcases Nat.lt_succ_iff_lt_or_eq.mp bound with less | rfl
      · exact Or.inl ⟨i, less, rfl⟩
      · exact Or.inr rfl

/-- Fewer than a full turn of slots are pairwise different. -/
theorem nodup_slotsFrom (slot : Slot) {n : Nat} (bound : n ≤ entries) :
    (slotsFrom slot n).Nodup := by
  induction n with
  | zero => simp [slotsFrom]
  | succ n ih =>
    rw [slotsFrom_succ, List.nodup_append]
    refine ⟨ih (by omega), List.nodup_singleton _, ?_⟩
    rintro x member y last rfl
    obtain ⟨i, less, rfl⟩ := mem_slotsFrom.mp member
    have same := List.mem_singleton.mp last
    have index : Fin.ofNat entries i = Fin.ofNat entries n := add_left_cancel same
    have value := congrArg Fin.val index
    simp only [Fin.val_ofNat] at value
    rw [Nat.mod_eq_of_lt (by omega), Nat.mod_eq_of_lt (by omega)] at value
    omega

/-- A stretch is always shorter than a full turn. -/
theorem distance_lt (a b : Slot) : distance a b < entries := (b - a).isLt

/-- No slot is outstanding twice. -/
theorem nodup_outstanding (q : CmdQueue) : q.outstanding.Nodup :=
  nodup_slotsFrom _ (Nat.le_of_lt (distance_lt _ _))

/-- The number of outstanding commands is the distance of the two indices. -/
theorem length_outstanding (q : CmdQueue) :
    q.outstanding.length = distance q.destruct q.create :=
  length_slotsFrom _ _

/-- The queue is full exactly when all slots but one are outstanding. -/
theorem isFull_iff (q : CmdQueue) : q.isFull = true ↔ q.outstanding.length = entries - 1 := by
  rw [length_outstanding]
  have table : ∀ c d : Slot, decide (c + 1 = d) = true ↔ distance d c = entries - 1 := by
    unfold distance
    decide
  exact table q.create q.destruct

/-- The slot that is handed out next is free. -/
theorem create_notMem_outstanding (q : CmdQueue) : q.create ∉ q.outstanding := by
  intro member
  obtain ⟨i, less, same⟩ := mem_slotsFrom.mp member
  have whole := add_distance q.destruct q.create
  have index : Fin.ofNat entries i = Fin.ofNat entries (distance q.destruct q.create) :=
    add_left_cancel (same.symm.trans whole.symm)
  have value := congrArg Fin.val index
  have bound := distance_lt q.destruct q.create
  simp only [Fin.val_ofNat] at value
  rw [Nat.mod_eq_of_lt (by omega), Nat.mod_eq_of_lt bound] at value
  omega

/-! ## Settled queues -/

/-- The state of the queue between two operations of the device. -/
structure Settled (q : CmdQueue) : Prop where
  nothingDone : q.working = q.destruct
  enqueued : ∀ slot, (q.cmds slot).flags.enqueued = true ↔ slot ∈ q.outstanding

/-- The contents of the slots do not matter to the indices. -/
@[simp] theorem outstanding_setCmd (q : CmdQueue) (slot : Slot) (c : Cmd) :
    (q.setCmd slot c).outstanding = q.outstanding := rfl

@[simp] theorem cmds_setCmd_self (q : CmdQueue) (slot : Slot) (c : Cmd) :
    (q.setCmd slot c).cmds slot = c := by
  simp [setCmd]

/-- Only the slot that is written changes. -/
theorem cmds_setCmd_of_ne (q : CmdQueue) {slot other : Slot} (apart : other ≠ slot) (c : Cmd) :
    (q.setCmd slot c).cmds other = q.cmds other := by
  simp [setCmd, apart]

@[simp] theorem setCmd_setCmd (q : CmdQueue) (slot : Slot) (c c' : Cmd) :
    (q.setCmd slot c).setCmd slot c' = q.setCmd slot c' := by
  simp [setCmd]

/-- Rewriting a command keeps the queue settled when its `enqueued` flag stays. -/
theorem Settled.setCmd {q : CmdQueue} (settled : q.Settled) {slot : Slot} {c : Cmd}
    (flag : c.flags.enqueued = (q.cmds slot).flags.enqueued) : (q.setCmd slot c).Settled := by
  refine ⟨settled.nothingDone, fun other => ?_⟩
  rw [outstanding_setCmd, ← settled.enqueued other]
  by_cases same : other = slot
  · rw [same, cmds_setCmd_self, flag]
  · rw [cmds_setCmd_of_ne q same]

/-- In a settled queue the controller works on the oldest outstanding command. -/
theorem Settled.working?_eq {q : CmdQueue} (settled : q.Settled) :
    q.working? = q.outstanding.head? := by
  unfold working? outstanding
  rw [settled.nothingDone]
  by_cases empty : q.destruct = q.create
  · rw [if_pos empty, distance_eq_zero.mpr empty]
    rfl
  · rw [if_neg empty, distance_succ_left empty]
    rfl

/-- The controller has nothing to work on exactly when nothing is outstanding. -/
theorem Settled.working?_eq_none {q : CmdQueue} (settled : q.Settled) :
    q.working? = none ↔ q.outstanding = [] := by
  rw [settled.working?_eq, List.head?_eq_none_iff]

/-- And otherwise it works on the command that was created first. -/
theorem Settled.working?_eq_some {q : CmdQueue} (settled : q.Settled) {slot : Slot} :
    q.working? = some slot ↔ ∃ rest, q.outstanding = slot :: rest := by
  rw [settled.working?_eq, List.head?_eq_some_iff]

/-- The command that the controller works on is marked as enqueued, so `work_done()` accepts it. -/
theorem Settled.enqueued_head {q : CmdQueue} (settled : q.Settled) {slot : Slot}
    (head : q.working? = some slot) : (q.cmds slot).flags.enqueued = true := by
  obtain ⟨rest, list⟩ := settled.working?_eq_some.mp head
  exact (settled.enqueued slot).mpr (by rw [list]; exact List.mem_cons_self)

/-! ## What the operations do to a settled queue -/

/-- The queue after `createCmd` took the slot `q.create`. -/
def created (q : CmdQueue) : CmdQueue :=
  let c := q.cmds q.create
  { q with create := q.create + 1 }.setCmd q.create
    { c with flags := { c.flags with enqueued := true }, status := .uninitialized }

/-- A new command is the last one to be served. -/
theorem outstanding_created {q : CmdQueue} (room : q.isFull = false) :
    q.created.outstanding = q.outstanding ++ [q.create] := by
  have apart : q.create + 1 ≠ q.destruct := by simpa [isFull] using room
  show slotsFrom q.destruct (distance q.destruct (q.create + 1)) = _
  rw [distance_succ_right apart, slotsFrom_succ, add_distance]
  rfl

/-- `create()` keeps the queue settled: the new slot is marked as it joins the stretch. -/
theorem Settled.created {q : CmdQueue} (settled : q.Settled) (room : q.isFull = false) :
    q.created.Settled := by
  refine ⟨settled.nothingDone, fun slot => ?_⟩
  rw [outstanding_created room, List.mem_append, List.mem_singleton]
  by_cases same : slot = q.create
  · simp [same, CmdQueue.created]
  · have frame : q.created.cmds slot = q.cmds slot := cmds_setCmd_of_ne _ same _
    rw [frame, settled.enqueued slot]
    simp [same]

/-- A full queue refuses; otherwise the next free slot becomes the youngest outstanding one. -/
theorem createCmd_spec {q : CmdQueue} (settled : q.Settled) :
    wp createCmd
      (fun slot q' =>
        if q.isFull then slot = none ∧ q' = q else slot = some q.create ∧ q' = q.created)
      (fun _ _ => False) q := by
  have free : (q.cmds q.create).flags.enqueued = false := by
    have := (settled.enqueued q.create).not.mpr q.create_notMem_outstanding
    simpa using this
  unfold createCmd
  by_cases full : q.isFull = true
  · simp [full]
  · simp [full, free, CmdQueue.created]

/-- The queue after the command in `slot` was marked done and destructed. -/
def retired (q : CmdQueue) (slot : Slot) : CmdQueue :=
  let c := q.cmds slot
  { q with working := q.working + 1, destruct := q.destruct + 1 }.setCmd slot
    ({ c with flags := { c.flags with enqueued := false } } : Cmd).invalidate

/-- The command at the head leaves, and the others stay in their order. -/
theorem outstanding_retired {q : CmdQueue} (slot : Slot) {rest : List Slot}
    (list : q.outstanding = slot :: rest) : (q.retired slot).outstanding = rest := by
  have apart : q.destruct ≠ q.create := by
    intro same
    rw [outstanding, distance_eq_zero.mpr same] at list
    cases list
  rw [outstanding, distance_succ_left apart, slotsFrom] at list
  exact (List.cons.inj list).2

/-- The commands in the other slots are not touched. -/
theorem cmds_retired_of_ne (q : CmdQueue) {slot other : Slot} (apart : other ≠ slot) :
    (q.retired slot).cmds other = q.cmds other :=
  cmds_setCmd_of_ne _ apart _

/-- Marking done and destructing together move both indices past the head. -/
theorem Settled.retired {q : CmdQueue} (settled : q.Settled) {slot : Slot}
    (head : q.working? = some slot) : (q.retired slot).Settled := by
  obtain ⟨rest, list⟩ := settled.working?_eq_some.mp head
  have nodup := q.nodup_outstanding
  rw [list, List.nodup_cons] at nodup
  refine ⟨?_, fun other => ?_⟩
  · show q.working + 1 = q.destruct + 1
    rw [settled.nothingDone]
  · rw [outstanding_retired slot list]
    by_cases same : other = slot
    · subst same
      simp [CmdQueue.retired, Cmd.invalidate, Flags.reset, nodup.1]
    · rw [cmds_retired_of_ne q same, settled.enqueued other, list]
      simp [same]

/-- The command at the head of a settled queue can always be retired. -/
theorem retire_spec {q : CmdQueue} (settled : q.Settled) {slot : Slot}
    (head : q.working? = some slot) :
    wp (retire slot) (fun _ q' => q' = q.retired slot) (fun _ _ => False) q := by
  have enqueued := settled.enqueued_head head
  have moved : q.destruct ≠ q.working + 1 := by
    rw [settled.nothingDone]
    exact (by decide : ∀ s : Slot, s ≠ s + 1) q.destruct
  unfold retire cmdWorkDone destructCmd cmdDestruct
  simp [head, enqueued, CmdQueue.retired, setCmd, moved]

/-- Only the command the controller works on can be marked done: for any other one `work_done()`
throws and nothing changes. -/
theorem retire_of_not_working {q : CmdQueue} {slot : Slot} (other : q.working? ≠ some slot) :
    wp (retire slot) (fun _ _ => False) (fun _ q' => q' = q) q := by
  unfold retire cmdWorkDone
  simp [other]

/-! ## The queue as a list

What the device relies on is the list of outstanding slots with their commands: creating appends
to it, the controller works on its head, retiring removes the head. -/

/-- The outstanding slots with their commands, oldest first. -/
def pending (q : CmdQueue) : List (Slot × Cmd) := q.outstanding.map fun slot => (slot, q.cmds slot)

theorem length_pending (q : CmdQueue) : q.pending.length = q.outstanding.length :=
  List.length_map _

/-- The commands in the list are those of the outstanding slots. -/
theorem slots_pending (q : CmdQueue) : q.pending.map Prod.fst = q.outstanding := by
  simp [pending, Function.comp_def]

/-- `is_full()` can be told from the length of the list: one slot is never used. -/
theorem isFull_iff_pending (q : CmdQueue) :
    q.isFull = true ↔ q.pending.length = entries - 1 := by
  rw [length_pending, isFull_iff]

theorem pending_eq_nil {q : CmdQueue} : q.pending = [] ↔ q.outstanding = [] := List.map_eq_nil_iff

/-- The head of the list names its slot and its contents. -/
theorem outstanding_of_pending {q : CmdQueue} {slot : Slot} {c : Cmd} {rest : List (Slot × Cmd)}
    (list : q.pending = (slot, c) :: rest) :
    q.outstanding = slot :: rest.map Prod.fst ∧ q.cmds slot = c := by
  have slots := q.slots_pending
  rw [list] at slots
  refine ⟨slots.symm, ?_⟩
  have head := congrArg List.head? list
  rw [pending, ← slots] at head
  exact congrArg Prod.snd (Option.some.inj head)

/-- The head of the list is what the controller works on. -/
theorem Settled.head_of_pending {q : CmdQueue} (settled : q.Settled) {slot : Slot} {c : Cmd}
    {rest : List (Slot × Cmd)} (list : q.pending = (slot, c) :: rest) :
    q.working? = some slot ∧ q.cmds slot = c := by
  obtain ⟨slots, cmd⟩ := outstanding_of_pending list
  exact ⟨settled.working?_eq_some.mpr ⟨_, slots⟩, cmd⟩

theorem Settled.working?_of_pending_nil {q : CmdQueue} (settled : q.Settled)
    (empty : q.pending = []) : q.working? = none :=
  settled.working?_eq_none.mpr (pending_eq_nil.mp empty)

/-- Writing the slot at the head changes the head of the list only: no slot occurs twice. -/
theorem pending_setCmd_head {q : CmdQueue} {slot : Slot} {c : Cmd} {rest : List (Slot × Cmd)}
    (list : q.pending = (slot, c) :: rest) (c' : Cmd) :
    (q.setCmd slot c').pending = (slot, c') :: rest := by
  obtain ⟨slots, -⟩ := outstanding_of_pending list
  have nodup := q.nodup_outstanding
  rw [slots, List.nodup_cons] at nodup
  rw [pending, outstanding_setCmd, slots, List.map_cons, cmds_setCmd_self]
  refine congrArg (List.cons _) ?_
  have tail : (rest.map Prod.fst).map (fun other => (other, q.cmds other)) = rest := by
    rw [pending, slots, List.map_cons] at list
    exact (List.cons.inj list).2
  refine Eq.trans (List.map_congr_left fun other member => ?_) tail
  have apart : other ≠ slot := by
    intro same
    exact nodup.1 (same ▸ member)
  rw [cmds_setCmd_of_ne q apart]

/-- On the list, `create()` appends. -/
theorem pending_created {q : CmdQueue} (room : q.isFull = false) (c : Cmd) :
    (q.created.setCmd q.create c).pending = q.pending ++ [(q.create, c)] := by
  rw [pending, outstanding_setCmd, outstanding_created room, List.map_append, List.map_singleton,
    cmds_setCmd_self]
  refine congrArg (· ++ _) (List.map_congr_left fun other member => ?_)
  have apart : other ≠ q.create := by
    intro same
    exact q.create_notMem_outstanding (same ▸ member)
  rw [cmds_setCmd_of_ne _ apart]
  exact congrArg (Prod.mk other) (cmds_setCmd_of_ne _ apart _)

/-- And retiring drops the head. -/
theorem pending_retired {q : CmdQueue} {slot : Slot} {c : Cmd} {rest : List (Slot × Cmd)}
    (list : q.pending = (slot, c) :: rest) : (q.retired slot).pending = rest := by
  obtain ⟨slots, -⟩ := outstanding_of_pending list
  have nodup := q.nodup_outstanding
  rw [slots, List.nodup_cons] at nodup
  have tail : (rest.map Prod.fst).map (fun other => (other, q.cmds other)) = rest := by
    rw [pending, slots, List.map_cons] at list
    exact (List.cons.inj list).2
  rw [pending, outstanding_retired slot slots]
  refine Eq.trans (List.map_congr_left fun other member => ?_) tail
  have apart : other ≠ slot := by
    intro same
    exact nodup.1 (same ▸ member)
  rw [cmds_retired_of_ne q apart]

/-- An operation left the outstanding commands alone, in their order, lets the controller go on with
the same one, and did not keep the slot it could have taken. -/
structure SameOutstanding (q q' : CmdQueue) : Prop where
  pending : q'.pending = q.pending
  working : q'.working? = q.working?
  free : (q'.cmds q.create).flags.enqueued = false

/-- Settled queues with the same list agree on everything that a later operation reads. -/
theorem Settled.sameOutstanding {q q' : CmdQueue} (settled : q.Settled) (settled' : q'.Settled)
    (list : q'.pending = q.pending) : SameOutstanding q q' := by
  have slots : q'.outstanding = q.outstanding := by
    rw [← slots_pending, ← slots_pending, list]
  refine ⟨list, ?_, ?_⟩
  · rw [settled'.working?_eq, settled.working?_eq, slots]
  · have absent : ¬(q'.cmds q.create).flags.enqueued = true := by
      rw [settled'.enqueued, slots]
      exact q.create_notMem_outstanding
    simpa using absent

end CmdQueue

end Emmc
