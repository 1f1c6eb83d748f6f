import Mathlib.Data.BitVec
import Mathlib.Data.List.Basic
import Emmc.Lib.Runs

/-!
# Device discovery

`device_discovery` starts one scan for each device it finds.  A scan runs on its own: the thread that
initializes the device, the errand that joins it, the scan for partitions.  The counter
`devicesInScan` is incremented for the loop and for each device, and decremented by
`deviceScanFinished`; whoever decrements it to zero ends the scan and registers the service.

* `Counted`: the counter is the number of those who have not decremented it (`counted_step`).
* `registered_iff`: in every state the service is registered as it should be, unless all scans have
  ended and one of them has failed.
-/

namespace Emmc

namespace Discovery

/-- The scan of one device. -/
inductive Scan
  | initializing
  | scheduled (failed : Bool)
  | partitions
  | ended (failed : Bool)
deriving DecidableEq, Repr

structure State where
  devicesInScan : BitVec 32 := 0
  loop : Bool := true
  scans : List Scan := []
  scanInProgress : Bool := true
  /-- The calls of `Blk_mgr::scan_finished()`. -/
  finished : Nat := 0
  /-- The calls that register "svr". -/
  registered : Nat := 0

inductive Op
  /-- A suitable device is found; `free`: it has a free command. -/
  | found (free : Bool)
  | loopEnded
  /-- The initialization thread of the device `i` has ended. -/
  | initialized (i : Nat) (failed : Bool)
  | errand (i : Nat)
  /-- The partitions of the device `i` are known. -/
  | scanned (i : Nat)
deriving DecidableEq, Repr

/-- Before the loop. -/
def start : State := { devicesInScan := 0 + 1 }

def deviceScanFinished (s : State) : State :=
  let s := { s with devicesInScan := s.devicesInScan - 1 }
  if s.devicesInScan > 0 then s
  else
    { s with
      scanInProgress := false, finished := s.finished + 1, registered := s.registered + 1 }

/-- Without a command the function returns, and nobody calls the callback. -/
def startDeviceScan (free : Bool) : Scan :=
  if free then .initializing else .ended true

/-- The callback is called only if the initialization has not failed. -/
def runErrand (failed : Bool) : Scan :=
  if !failed then .partitions else .ended true

def step : Op → State → State
  | .found free, s =>
    if s.loop then
      { s with
        devicesInScan := s.devicesInScan + 1
        scans := s.scans ++ [startDeviceScan free] }
    else s
  | .loopEnded, s => if s.loop then deviceScanFinished { s with loop := false } else s
  | .initialized i failed, s =>
    if s.scans[i]? = some .initializing then
      { s with scans := s.scans.set i (.scheduled failed) }
    else s
  | .errand i, s =>
    match s.scans[i]? with
    | some (.scheduled failed) => { s with scans := s.scans.set i (runErrand failed) }
    | _ => s
  | .scanned i, s =>
    if s.scans[i]? = some .partitions then
      deviceScanFinished { s with scans := s.scans.set i (.ended false) }
    else s

/-! ## Who has not decremented the counter -/

/-- The scans that have not called back. -/
def waiting (scans : List Scan) : Nat := scans.countP (· ≠ .ended false)

/-- The number of those who have not decremented the counter. -/
def State.pending (s : State) : Nat := s.loop.toNat + waiting s.scans

/-- The counter is right, and the service was registered when it became zero. -/
structure Counted (s : State) : Prop where
  counter : s.devicesInScan = BitVec.ofNat 32 s.pending
  bounded : s.pending ≤ 2 ^ 32
  finished : s.finished = if s.pending = 0 then 1 else 0
  registered : s.registered = s.finished

theorem counted_start : Counted start where
  counter := rfl
  bounded := by decide
  finished := rfl
  registered := rfl

theorem waiting_append (scans : List Scan) {scan : Scan} (silent : scan ≠ .ended false) :
    waiting (scans ++ [scan]) = waiting scans + 1 := by
  rw [waiting, waiting, List.countP_append, List.countP_singleton, decide_eq_true silent,
    if_pos rfl]

/-- Writing the `i`-th scan. -/
theorem waiting_set {scans : List Scan} {i : Nat} {old : Scan} (there : scans[i]? = some old)
    (new : Scan) :
    waiting (scans.set i new) + (if old = .ended false then 0 else 1) =
      waiting scans + (if new = .ended false then 0 else 1) := by
  induction scans generalizing i with
  | nil => cases there
  | cons scan scans ih =>
    cases i with
    | zero =>
      cases there
      rw [List.set_cons_zero, waiting, waiting, List.countP_cons, List.countP_cons]
      have count : ∀ scan : Scan, (if decide (scan ≠ .ended false) = true then 1 else 0) =
          if scan = .ended false then 0 else 1 := by
        intro scan
        by_cases done : scan = .ended false
        · rw [decide_eq_false (fun h => h done), if_pos done, if_neg Bool.false_ne_true]
        · rw [decide_eq_true done, if_neg done, if_pos rfl]
      rw [count, count]
      omega
    | succ i =>
      rw [List.getElem?_cons_succ] at there
      have rest := ih there
      rw [List.set_cons_succ, waiting, waiting, List.countP_cons, List.countP_cons]
      rw [waiting, waiting] at rest
      omega

/-- One of those who have not decremented the counter does so. -/
theorem counted_finished {s : State} {n : Nat} (counter : s.devicesInScan = BitVec.ofNat 32 (n + 1))
    (bounded : n + 1 ≤ 2 ^ 32) (pending : s.pending = n) (silent : s.finished = 0)
    (registered : s.registered = 0) : Counted (deviceScanFinished s) := by
  have next : s.devicesInScan - 1 = BitVec.ofNat 32 n := by
    rw [counter]
    apply BitVec.eq_of_toNat_eq
    rw [BitVec.toNat_sub, BitVec.toNat_ofNat, BitVec.toNat_ofNat]
    have one : (1 : BitVec 32).toNat = 1 := rfl
    rw [one]
    omega
  have zero : (0 : BitVec 32) < BitVec.ofNat 32 n ↔ n ≠ 0 := by
    rw [BitVec.lt_def, BitVec.toNat_ofNat, Nat.mod_eq_of_lt bounded]
    exact Nat.pos_iff_ne_zero
  rw [deviceScanFinished, next]
  by_cases last : n = 0
  · rw [if_neg (fun more => zero.mp more last)]
    constructor
    · rw [last]
      exact congrArg (BitVec.ofNat 32) (pending.trans last).symm
    · exact Nat.le_trans (Nat.le_of_eq (pending.trans last)) (Nat.zero_le _)
    · exact (congrArg (· + 1) silent).trans (if_pos (pending.trans last)).symm
    · exact congrArg (· + 1) (registered.trans silent.symm)
  · rw [if_pos (zero.mpr last)]
    constructor
    · exact congrArg (BitVec.ofNat 32) pending.symm
    · exact Nat.le_trans (Nat.le_of_eq pending) (Nat.le_of_succ_le bounded)
    · exact silent.trans (if_neg (fun h => last (pending.symm.trans h))).symm
    · exact registered.trans silent.symm

/-! ## Runs -/

/-- Not more than 2^32 have yet to decrement the counter. -/
def Op.Few : Op → State → Prop
  | .found _, s => s.pending < 2 ^ 32
  | _, _ => True

/-- A state in which a scan is replaced by another one that has not called back either. -/
theorem Counted.replace {s : State} (c : Counted s) {i : Nat} {old new : Scan}
    (there : s.scans[i]? = some old) (before : old ≠ .ended false) (after : new ≠ .ended false) :
    Counted { s with scans := s.scans.set i new } := by
  have same := waiting_set there new
  rw [if_neg before, if_neg after] at same
  have pending : ({ s with scans := s.scans.set i new } : State).pending = s.pending :=
    congrArg (s.loop.toNat + ·) (Nat.add_right_cancel same)
  constructor
  · rw [pending]
    exact c.counter
  · rw [pending]
    exact c.bounded
  · rw [pending]
    exact c.finished
  · exact c.registered

instance : ∀ (op : Op) (s : State), Decidable (op.Few s)
  | .found _, s => inferInstanceAs (Decidable (s.pending < 2 ^ 32))
  | .loopEnded, _ | .initialized _ _, _ | .errand _, _ | .scanned _, _ =>
    inferInstanceAs (Decidable True)

/-- One who has not decremented the counter does so, and leaves `t` behind. -/
theorem Counted.finish {s t : State} (c : Counted s) (pending : s.pending = t.pending + 1)
    (counter : t.devicesInScan = s.devicesInScan) (finished : t.finished = s.finished)
    (registered : t.registered = s.registered) : Counted (deviceScanFinished t) := by
  have silent := c.finished
  rw [if_neg (fun h => Nat.succ_ne_zero _ (pending.symm.trans h))] at silent
  have bounded := c.bounded
  rw [pending] at bounded
  exact counted_finished (counter.trans (c.counter.trans (by rw [pending]))) bounded rfl
    (finished.trans silent) (registered.trans (c.registered.trans silent))

theorem counted_step (op : Op) (s : State) (c : Counted s) (few : op.Few s) :
    Counted (step op s) := by
  cases op with
  | found free =>
    rw [step]
    by_cases loop : s.loop = true
    · rw [if_pos loop]
      have silent : startDeviceScan free ≠ .ended false := by
        cases free
        · exact fun h => by cases h
        · exact fun h => by cases h
      have pending : s.loop.toNat + waiting (s.scans ++ [startDeviceScan free]) = s.pending + 1 := by
        rw [waiting_append _ silent]
        exact (Nat.add_assoc _ _ _).symm
      have busy : s.pending ≠ 0 := by
        rw [State.pending, loop]
        exact Nat.ne_of_gt (Nat.add_pos_left Nat.one_pos _)
      constructor
      · rw [State.pending, pending, c.counter]
        exact (BitVec.ofNat_add _ _).symm
      · rw [State.pending, pending]
        exact few
      · rw [State.pending, pending, if_neg (Nat.succ_ne_zero _)]
        exact c.finished.trans (if_neg busy)
      · exact c.registered
    · rw [if_neg loop]
      exact c
  | loopEnded =>
    rw [step]
    by_cases loop : s.loop = true
    · rw [if_pos loop]
      refine c.finish ?_ rfl rfl rfl
      rw [State.pending, State.pending, loop]
      exact Nat.add_comm 1 _ |>.trans (by rw [Bool.toNat_false, Nat.zero_add])
    · rw [if_neg loop]
      exact c
  | initialized i failed =>
    rw [step]
    by_cases there : s.scans[i]? = some .initializing
    · rw [if_pos there]
      exact c.replace there (fun h => by cases h) (fun h => by cases h)
    · rw [if_neg there]
      exact c
  | errand i =>
    rw [step]
    split
    · rename_i failed there
      refine c.replace there (fun h => by cases h) ?_
      cases failed
      · exact fun h => by cases h
      · exact fun h => by cases h
    · exact c
  | scanned i =>
    rw [step]
    by_cases there : s.scans[i]? = some .partitions
    · rw [if_pos there]
      refine c.finish ?_ rfl rfl rfl
      have one : waiting (s.scans.set i (.ended false)) + 1 = waiting s.scans :=
        waiting_set there (.ended false)
      rw [State.pending, State.pending, ← one]
      exact (Nat.add_assoc _ _ _).symm
    · rw [if_neg there]
      exact c

def Scan.hasEnded : Scan → Bool
  | .ended _ => true
  | _ => false

/-- The loop and all scans have ended. -/
def State.Done (s : State) : Prop := s.loop = false ∧ ∀ scan ∈ s.scans, scan.hasEnded = true

instance (s : State) : Decidable s.Done := inferInstanceAs (Decidable (_ ∧ _))

/-- The scan is finished and the service registered once when everything has ended, and not
before. -/
def State.Registered (s : State) : Prop :=
  (s.Done → s.finished = 1 ∧ s.registered = 1) ∧ (¬ s.Done → s.finished = 0 ∧ s.registered = 0)

theorem pending_zero_iff (s : State) :
    s.pending = 0 ↔ s.loop = false ∧ ∀ scan ∈ s.scans, scan = .ended false := by
  rw [State.pending, Nat.add_eq_zero_iff, waiting, List.countP_eq_zero]
  apply Iff.intro
  · intro zero
    rcases zero with ⟨loop, scans⟩
    apply And.intro
    · cases running : s.loop with
      | false => rfl
      | true => rw [running] at loop; cases loop
    · intro scan member
      by_contra silent
      exact scans scan member (decide_eq_true silent)
  · intro ended
    rcases ended with ⟨loop, scans⟩
    apply And.intro
    · rw [loop]
      rfl
    · intro scan member silent
      exact of_decide_eq_true silent (scans scan member)

/-- In every run in which not more than 2^32 have yet to decrement the counter, the service is
registered as it should be if and only if no scan has failed or not all of them have ended. -/
theorem registered_iff {ops : List Op} (few : Runs.Along step Op.Few ops start) :
    (Runs.run step ops start).Registered ↔
      ((Runs.run step ops start).Done → .ended true ∉ (Runs.run step ops start).scans) := by
  have c := Runs.run_invariant counted_step counted_start few
  generalize Runs.run step ops start = s at c
  have finished := c.finished
  rw [State.Registered, c.registered]
  apply Iff.intro
  · intro registered done failed
    have once := (registered.1 done).1
    rw [finished] at once
    by_cases zero : s.pending = 0
    · cases ((pending_zero_iff s).mp zero).2 _ failed
    · rw [if_neg zero] at once
      cases once
  · intro flawless
    apply And.intro
    · intro done
      have zero : s.pending = 0 := by
        rw [pending_zero_iff]
        refine ⟨done.1, ?_⟩
        intro scan member
        have ended := done.2 scan member
        cases scan with
        | ended failed =>
          cases failed with
          | false => rfl
          | true => exact absurd member (flawless done)
        | initializing | scheduled failed | partitions => cases ended
      rw [finished, if_pos zero]
      exact ⟨rfl, rfl⟩
    · intro early
      have busy : s.pending ≠ 0 := by
        intro zero
        obtain ⟨loop, scans⟩ := (pending_zero_iff s).mp zero
        exact early ⟨loop, fun scan member => congrArg Scan.hasEnded (scans scan member)⟩
      rw [finished, if_neg busy]
      exact ⟨rfl, rfl⟩

/-- Two devices are found, and the scan of the first one ends before the loop does; the last `found` comes
behind the loop and is ignored. -/
def scanning : List Op :=
  [.found true, .found true, .initialized 0 false, .errand 0, .scanned 0, .loopEnded, .found true,
    .initialized 1 false, .errand 1, .scanned 1]

theorem two_devices_registered : (Runs.run step scanning start).Registered := by
  rw [registered_iff (by decide)]
  decide

/-- Two devices are found, and the second one cannot be initialized. -/
def failing : List Op :=
  [.found true, .found true, .loopEnded, .initialized 0 false, .errand 0, .initialized 1 true,
    .scanned 0, .errand 1]

/-- The service is never registered. -/
theorem failing_blocks : ¬ (Runs.run step failing start).Registered := by
  intro registered
  have done : (Runs.run step failing start).Done := by decide
  have never : (Runs.run step failing start).finished = 0 := by decide
  rw [(registered.1 done).1] at never
  cases never

end Discovery

end Emmc
