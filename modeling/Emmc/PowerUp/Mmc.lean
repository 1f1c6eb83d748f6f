import Mathlib.Data.Finset.Card
import Emmc.Lib.Retry
import Emmc.PowerUp

/-!
# The mode of an eMMC device

`power_up_mmc` starts with the fastest mode that the device supports and that is not disabled, and tries
the next slower one when that fails. The bits of the mode under test are removed by the first statement
of the next iteration.

* `mmcModeRound`: one iteration. It goes on, leaves the loop with the mode it selected, or throws.
* `Tried`: what was programmed last, and at which step each iteration failed.
* `mmcModeRound_spec`: everything one iteration can do.
-/

namespace Emmc

open Throwing

namespace Mmc

/-! ## Extended CSD registers -/

namespace Ec183BusWidth

def index : U8 := 183
def busModeSelect : Bitfield 8 := { lsb := 0, msb := 3 }
def enhancedStrobe : Bitfield 8 := .bit 7

def w8bitSdr : U8 := 2
def w8bitDdr : U8 := 6

end Ec183BusWidth

namespace Ec185HsTiming

def index : U8 := 185
def timingInterface : Bitfield 8 := { lsb := 0, msb := 3 }

def backwardCompat : U8 := 0
def hs : U8 := 1
def hs200 : U8 := 2
def hs400 : U8 := 3

end Ec185HsTiming

namespace Ec196DeviceType

def hs400Ddr12 : Bitfield 8 := .bit 7
def hs400Ddr18 : Bitfield 8 := .bit 6
def hs200Sdr12 : Bitfield 8 := .bit 5
def hs200Sdr18 : Bitfield 8 := .bit 4
def hs52Ddr12 : Bitfield 8 := .bit 3
def hs52Ddr18 : Bitfield 8 := .bit 2
def hs52 : Bitfield 8 := .bit 1
def hs26 : Bitfield 8 := .bit 0

def disable12 (raw : U8) : U8 := hs400Ddr12.set (hs200Sdr12.set (hs52Ddr12.set raw 0) 0) 0

end Ec196DeviceType

end Mmc

namespace PowerUp

open Mmc

/-- The modes at 1.8 V. -/
inductive Mode
  | hs400
  | hs200
  | hs52Ddr
  | hs52
  | hs26
deriving DecidableEq, Repr

/-- What a timing is set with: EXT_CSD[185] of the card, timing and clock of the controller. -/
structure Programming where
  hsTiming : U8
  mmcTiming : Mmc.Timing
  freq : U32
deriving DecidableEq, Repr

namespace Mode

def bit : Mode → Bitfield 8
  | hs400 => Ec196DeviceType.hs400Ddr18
  | hs200 => Ec196DeviceType.hs200Sdr18
  | hs52Ddr => Ec196DeviceType.hs52Ddr18
  | hs52 => Ec196DeviceType.hs52
  | hs26 => Ec196DeviceType.hs26

def programming : Mode → Programming
  | hs400 => ⟨Ec185HsTiming.hs400, .mmcHs400, 200 * mHz⟩
  | hs200 => ⟨Ec185HsTiming.hs200, .mmcHs200, 200 * mHz⟩
  | hs52Ddr => ⟨Ec185HsTiming.hs, .mmcDdr52, 52 * mHz⟩
  | hs52 => ⟨Ec185HsTiming.hs, .hs, 52 * mHz⟩
  | hs26 => ⟨Ec185HsTiming.backwardCompat, .hs, 26 * mHz⟩

def busWidth : Mode → U8
  | hs400 => Ec183BusWidth.w8bitDdr
  | hs200 => Ec183BusWidth.w8bitSdr
  | hs52Ddr => Ec183BusWidth.w8bitDdr
  | hs52 => Ec183BusWidth.w8bitSdr
  | hs26 => Ec183BusWidth.w8bitSdr

/-- `device_type_test` of an iteration that selects the mode. -/
def test : Mode → U8
  | hs200 => Ec196DeviceType.hs200Sdr18.put (Ec196DeviceType.hs400Ddr18.put 0 true) true
  | mode => mode.bit.put 0 true

end Mode

/-- Where an iteration can fail: with the mode it selected, or on the way from there to HS400. -/
inductive Step
  | busWidth
  | timing
  | tuning
  | hs400Base
  | hs400BusWidth
  | hs400Timing
deriving DecidableEq, Repr

/-- The mode that was selected has failed itself. -/
def Step.own : Step → Bool
  | busWidth => true
  | timing => true
  | tuning => true
  | hs400Base => false
  | hs400BusWidth => false
  | hs400Timing => false

structure Tried where
  /-- What card and controller were programmed with last. -/
  programmed : Option Programming := none
  /-- The iterations that failed, the last one first. -/
  failed : List (Mode × Step) := []
  /-- "Cannot initialize timing" was thrown. -/
  gaveUp : Bool := false

/-- `_device_type_restricted` and `device_type_test` at the beginning of an iteration. -/
structure Modes where
  restricted : U8
  test : U8 := 0

/-- The modes an iteration chooses from. -/
def Modes.allowed (m : Modes) : U8 := m.restricted &&& ~~~m.test

/-- The fastest possible mode. -/
def select (restricted : U8) : Option Mode :=
  if Ec196DeviceType.hs200Sdr18.test restricted then some .hs200
  else if Ec196DeviceType.hs52Ddr18.test restricted then some .hs52Ddr
  else if Ec196DeviceType.hs52.test restricted then some .hs52
  else if Ec196DeviceType.hs26.test restricted then some .hs26
  else none

variable {σ : Type} (host : Host σ) (rca : U16)

def mmcSetBusWidth (width : U8) (strobe : Bool) : PowerUpM σ Tried Unit := do
  let bw := Ec183BusWidth.enhancedStrobe.put (Ec183BusWidth.busModeSelect.set 0 width) strobe
  execMmcSwitch host rca Ec183BusWidth.index bw
  let c := (← get).cmd
  -- A switch error is reported, but does not fail the command.
  if !c.error && !c.switchError then
    onHw (host.setBusWidth .width8bit)

def fail : PowerUpM σ Tried Unit := modifyCmd fun c => { c with status := .error }

def mmcSetTiming (p : Programming) (strobe : Bool) : PowerUpM σ Tried Unit := do
  execMmcSwitch host rca Ec185HsTiming.index (Ec185HsTiming.timingInterface.set 0 p.hsTiming)
  let c := (← get).cmd
  if c.error || c.switchError then
    fail
  else
    onHw (host.setClockAndTiming p.freq p.mmcTiming strobe)
    note fun t => { t with programmed := some p }
    modifyCmd (·.initArg Mmc.cmd13SendStatus (rca.setWidth 32 <<< 16))
    cmdExec host
    let c := (← get).cmd
    if c.error || c.switchError then
      fail
    else
      initData host Mmc.cmd8SendExtCsd 0 512 0
      cmdExec host
      if (← get).cmd.error then
        fail
      else if Ec185HsTiming.timingInterface.get (host.ioBuf (← get).hw 185) ≠ p.hsTiming then
        fail

/-- Set the timing of the mode that was selected; the result is the step that failed. -/
def programMode (mode : Mode) : PowerUpM σ Tried (Option Step) := do
  mmcSetTiming host rca mode.programming false
  if (← get).cmd.error then
    return some .timing
  else if Ec196DeviceType.hs200Sdr18.test mode.test then
    if ← tune host Mmc.cmd21SendTuningBlock Mmc.maxTuningLoops then return none
    else return some .tuning
  else
    return none

/-- The way to HS400; the result is the step that failed. -/
def switchHs400 (enhStrobe : Bool) : PowerUpM σ Tried (Option Step) := do
  mmcSetTiming host rca ⟨Ec185HsTiming.hs, .hs, 52 * mHz⟩ false
  if (← get).cmd.error then
    return some .hs400Base
  else
    mmcSetBusWidth host rca Ec183BusWidth.w8bitDdr enhStrobe
    if (← get).cmd.error then
      return some .hs400BusWidth
    else
      mmcSetTiming host rca ⟨Ec185HsTiming.hs400, .mmcHs400, 200 * mHz⟩ enhStrobe
      if (← get).cmd.error then return some .hs400Timing
      else return none

/-- `continue` with `device_type_test`. -/
def tryNext (mode : Mode) (step : Step) (next : Modes) : PowerUpM σ Tried (Modes ⊕ U8) := do
  note fun t => { t with failed := (mode, step) :: t.failed }
  return .inl next

/-- The end of an iteration, once the mode that was selected works: HS400, if that is allowed. -/
def finishMode (enhStrobe : Bool) (restricted : U8) (mode : Mode) :
    PowerUpM σ Tried (Modes ⊕ U8) := do
  if Ec196DeviceType.hs400Ddr18.test restricted then
    let test := Ec196DeviceType.hs200Sdr18.put mode.test false
    match ← switchHs400 host rca enhStrobe with
    | some step => tryNext mode step ⟨restricted, test⟩
    | none => return .inr test
  else
    return .inr mode.test

/-- An iteration with the mode that was selected. -/
def tryMode (enhStrobe : Bool) (restricted : U8) (mode : Mode) : PowerUpM σ Tried (Modes ⊕ U8) := do
  onHw (host.setVoltage .v180)
  onHw (host.delay voltageDelayMs)
  mmcSetBusWidth host rca mode.busWidth false
  if (← get).cmd.error then
    tryNext mode .busWidth ⟨restricted, mode.test⟩
  -- For HS400 with enhanced strobe, don't switch to HS200 first.
  else if !Ec196DeviceType.hs400Ddr18.test restricted || !enhStrobe then
    match ← programMode host rca mode with
    | some step => tryNext mode step ⟨restricted, mode.test⟩
    | none => finishMode host rca enhStrobe restricted mode
  else
    finishMode host rca enhStrobe restricted mode

/-- One iteration of the mode loop, which is left with `_device_type_selected`. -/
def mmcModeRound (enhStrobe : Bool) (m : Modes) : PowerUpM σ Tried (Modes ⊕ U8) := do
  match select m.allowed with
  | none =>
    note fun t => { t with gaveUp := true }
    throw ⟨-L4.einval, "Cannot initialize timing"⟩
  | some mode => tryMode host rca enhStrobe m.allowed mode

/-- `_device_type_restricted` before the mode loop. -/
def mmcRestricted (reported disabled : U8) : U8 :=
  Ec196DeviceType.disable12 (reported &&& ~~~disabled)

/-- The mode loop of `power_up_mmc`, left to itself for a number of iterations. -/
def mmcModeLoop (reported disabled : U8) (enhStrobe : Bool) (rounds : Nat) :
    PowerUpM σ Tried (Option U8) :=
  retry (mmcModeRound host rca enhStrobe) rounds { restricted := mmcRestricted reported disabled }

/-! ## What an iteration can do -/

/-- At most something was programmed in between. -/
structure SameFailures (t t' : Tried) : Prop where
  failed : t'.failed = t.failed
  gaveUp : t'.gaveUp = t.gaveUp

/-- A trace that stays as it is has no new failures. -/
theorem SameFailures.of_eq {t t' : Tried} (same : t' = t) : SameFailures t t' :=
  ⟨congrArg Tried.failed same, congrArg Tried.gaveUp same⟩

/-- Two parts without new failures have none together. -/
theorem SameFailures.trans {t t' t'' : Tried} (first : SameFailures t t')
    (second : SameFailures t' t'') : SameFailures t t'' :=
  ⟨second.failed.trans first.failed, second.gaveUp.trans first.gaveUp⟩

theorem silent_fail : Silent (fail : PowerUpM σ Tried Unit) := silent_modifyCmd _

/-- The bus width is not part of the trace. -/
theorem silent_mmcSetBusWidth (width : U8) (strobe : Bool) :
    Silent (mmcSetBusWidth host rca width strobe) := by
  apply (silent_execMmcSwitch host rca _ _).bind
  intro _
  apply Relates.get_bind
  intro s
  exact Relates.ite (silent_onHw _) (Relates.pure ())

/-- The part of `mmcSetTiming` behind the note of what was programmed. -/
def verifyTiming (p : Programming) : PowerUpM σ Tried Unit := do
  modifyCmd (·.initArg Mmc.cmd13SendStatus (rca.setWidth 32 <<< 16))
  cmdExec host
  let c := (← get).cmd
  if c.error || c.switchError then
    fail
  else
    initData host Mmc.cmd8SendExtCsd 0 512 0
    cmdExec host
    if (← get).cmd.error then
      fail
    else if Ec185HsTiming.timingInterface.get (host.ioBuf (← get).hw 185) ≠ p.hsTiming then
      fail

/-- Nor is the check of the timing. -/
theorem silent_verifyTiming (p : Programming) : Silent (verifyTiming host rca p) := by
  apply (silent_modifyCmd _).bind
  intro _
  apply (silent_cmdExec host).bind
  intro _
  apply Relates.get_bind
  intro s
  apply Relates.ite silent_fail
  apply (silent_initData host _ _ _ _).bind
  intro _
  apply (silent_cmdExec host).bind
  intro _
  apply Relates.get_bind
  intro s'
  apply Relates.ite silent_fail
  apply Relates.get_bind
  intro s''
  exact Relates.ite silent_fail (Relates.pure ())

/-- The switch and what comes behind it, which is where the trace is written. -/
theorem mmcSetTiming_eq (p : Programming) (strobe : Bool) :
    mmcSetTiming host rca p strobe = (do
      execMmcSwitch host rca Ec185HsTiming.index (Ec185HsTiming.timingInterface.set 0 p.hsTiming)
      let c := (← get).cmd
      if c.error || c.switchError then
        fail
      else
        onHw (host.setClockAndTiming p.freq p.mmcTiming strobe)
        note fun t => { t with programmed := some p }
        verifyTiming host rca p) := rfl

/-- A failure marks the command, and the caller looks at the mark. -/
theorem fail_error (s : PowerUp σ Tried) :
    wp (fail : PowerUpM σ Tried Unit) (fun _ s' => s'.cmd.error = true ∧ s'.trace = s.trace)
      (fun _ _ => False) s :=
  ⟨rfl, rfl⟩

/-- Unless the command fails, the timing is what was programmed last. -/
theorem mmcSetTiming_spec (p : Programming) (strobe : Bool) (s : PowerUp σ Tried) :
    wp (mmcSetTiming host rca p strobe)
      (fun _ s' => SameFailures s.trace s'.trace ∧
        (s'.cmd.error = false → s'.trace.programmed = some p))
      (fun _ s' => SameFailures s.trace s'.trace) s := by
  rw [mmcSetTiming_eq, wp_bind]
  apply (silent_execMmcSwitch host rca _ _).keep
  · intro _ s₁ same₁
    rw [wp_bind, wp_get, wp_ite]
    apply And.intro
    · intro _
      apply (fail_error s₁).mono
      · intro _ s₂ failed
        apply And.intro (SameFailures.of_eq (failed.2.trans same₁))
        exact fun fine => absurd (failed.1.symm.trans fine) Bool.false_ne_true.symm
      · exact fun _ _ absurd => absurd.elim
    · intro _
      rw [wp_bind]
      apply (silent_onHw _).keep
      · intro _ s₂ same₂
        rw [wp_bind]
        apply (silent_verifyTiming host rca p).keep
        · intro _ s₃ same₃
          rw [same₃]
          exact ⟨SameFailures.trans (SameFailures.of_eq (same₂.trans same₁)) ⟨rfl, rfl⟩,
            fun _ => rfl⟩
        · intro _ s₃ same₃
          rw [same₃]
          exact SameFailures.trans (SameFailures.of_eq (same₂.trans same₁)) ⟨rfl, rfl⟩
      · intro _ s₂ same₂
        exact SameFailures.of_eq (same₂.trans same₁)
  · intro _ s₁ same₁
    exact SameFailures.of_eq same₁

/-- A sequence of steps that was started with trace `t`: the step that failed is of the given kind, or
everything went well and `p` was programmed last. -/
structure Went (t : Tried) (own : Bool) (p : Programming) (r : Option Step) (s' : PowerUp σ Tried) :
    Prop where
  same : SameFailures t s'.trace
  kind : ∀ step, r = some step → step.own = own
  well : r = none → s'.trace.programmed = some p

/-- A step that fails is on the mode's own account or on that of HS400. -/
theorem Went.failure {t : Tried} {own : Bool} {p : Programming} {step : Step} {s' : PowerUp σ Tried}
    (same : SameFailures t s'.trace) (kind : step.own = own) : Went t own p (some step) s' where
  same := same
  kind := by
    intro other failed
    rw [← Option.some.inj failed]
    exact kind
  well := fun absurd => (Option.some_ne_none step absurd).elim

/-- A step that succeeds has programmed the timing. -/
theorem Went.success {t : Tried} {own : Bool} {p : Programming} {s' : PowerUp σ Tried}
    (same : SameFailures t s'.trace) (well : s'.trace.programmed = some p) : Went t own p none s' where
  same := same
  kind := fun step absurd => (Option.some_ne_none step absurd.symm).elim
  well := fun _ => well

/-- What fails on the way to a mode is its own failure. -/
theorem programMode_spec (mode : Mode) (s : PowerUp σ Tried) :
    wp (programMode host rca mode) (fun r s' => Went s.trace true mode.programming r s')
      (fun _ s' => SameFailures s.trace s'.trace) s := by
  unfold programMode
  apply (mmcSetTiming_spec host rca mode.programming false s).bind
  intro _ s₁ set
  rw [wp_bind, wp_get, wp_ite]
  apply And.intro
  · exact fun _ => Went.failure set.1 rfl
  · intro fine
    have programmed := set.2 (Bool.eq_false_iff.mpr fine)
    rw [wp_ite]
    apply And.intro
    · intro _
      rw [wp_bind]
      apply (silent_tune host _ _).keep
      · intro success s₂ same
        rw [wp_ite]
        have went : SameFailures s.trace s₂.trace := set.1.trans (SameFailures.of_eq same)
        apply And.intro
        · intro _
          apply Went.success went
          rw [same]
          exact programmed
        · exact fun _ => Went.failure went rfl
      · exact fun _ s₂ same => set.1.trans (SameFailures.of_eq same)
    · exact fun _ => Went.success set.1 programmed

/-- What fails on the way to HS400 is the failure of HS400. -/
theorem switchHs400_spec (enhStrobe : Bool) (s : PowerUp σ Tried) :
    wp (switchHs400 host rca enhStrobe)
      (fun r s' => Went s.trace false Mode.hs400.programming r s')
      (fun _ s' => SameFailures s.trace s'.trace) s := by
  unfold switchHs400
  apply (mmcSetTiming_spec host rca _ false s).bind
  intro _ s₁ base
  rw [wp_bind, wp_get, wp_ite]
  apply And.intro
  · exact fun _ => Went.failure base.1 rfl
  · intro _
    rw [wp_bind]
    apply (silent_mmcSetBusWidth host rca _ enhStrobe).keep
    · intro _ s₂ same
      have same₂ : SameFailures s.trace s₂.trace := base.1.trans (SameFailures.of_eq same)
      rw [wp_bind, wp_get, wp_ite]
      apply And.intro
      · exact fun _ => Went.failure same₂ rfl
      · intro _
        rw [wp_bind]
        apply (mmcSetTiming_spec host rca _ enhStrobe s₂).mono
        · intro _ s₃ set
          rw [wp_bind, wp_get, wp_ite]
          apply And.intro
          · exact fun _ => Went.failure (same₂.trans set.1) rfl
          · intro fine
            exact Went.success (same₂.trans set.1) (set.2 (Bool.eq_false_iff.mpr fine))
        · exact fun _ s₃ same₃ => same₂.trans same₃
    · exact fun _ s₂ same => base.1.trans (SameFailures.of_eq same)

/-- `device_type_test` when an iteration fails at a step. -/
inductive Blamed (restricted : U8) (mode : Mode) (step : Step) : U8 → Prop
  | own (own : step.own = true) : Blamed restricted mode step mode.test
  | hs400 (other : step.own = false) (allowed : Mode.hs400.bit.test restricted = true) :
    Blamed restricted mode step (Mode.hs200.bit.put mode.test false)

/-- `_device_type_selected` and what was programmed last when an iteration succeeds. -/
inductive Selected (restricted : U8) (mode : Mode) : U8 → Programming → Prop
  | own (other : Mode.hs400.bit.test restricted = false) :
    Selected restricted mode mode.test mode.programming
  | hs400 (allowed : Mode.hs400.bit.test restricted = true) :
    Selected restricted mode (Mode.hs200.bit.put mode.test false) Mode.hs400.programming

/-- How an iteration goes on or leaves the loop. -/
def RoundOutcome (m : Modes) (t : Tried) (r : Modes ⊕ U8) (t' : Tried) : Prop :=
  ∃ mode, select m.allowed = some mode ∧ t'.gaveUp = t.gaveUp ∧
    match r with
    | .inl m' => ∃ step, t'.failed = (mode, step) :: t.failed ∧ m'.restricted = m.allowed ∧
        Blamed m.allowed mode step m'.test
    | .inr selected => t'.failed = t.failed ∧
        ∃ p, t'.programmed = some p ∧ Selected m.allowed mode selected p

/-- How an iteration throws: there is no mode to try, or a command or driver function threw. -/
def RoundThrows (m : Modes) (t t' : Tried) : Prop :=
  t'.failed = t.failed ∧ (t'.gaveUp = t.gaveUp ∨ select m.allowed = none ∧ t'.gaveUp = true)

/-- The bits of the blamed mode are taken out of the mask, and the next iteration does without it. -/
theorem tryNext_outcome {m : Modes} {t : Tried} {mode : Mode} (chosen : select m.allowed = some mode)
    {step : Step} {test : U8} (blamed : Blamed m.allowed mode step test) {s : PowerUp σ Tried}
    (same : SameFailures t s.trace) :
    wp (tryNext mode step ⟨m.allowed, test⟩) (fun r s' => RoundOutcome m t r s'.trace)
      (fun _ s' => RoundThrows m t s'.trace) s := by
  refine ⟨mode, chosen, same.gaveUp, step, ?_, rfl, blamed⟩
  show (mode, step) :: s.trace.failed = _
  rw [same.failed]

/-- An exception in the middle of an iteration adds no failure. -/
theorem SameFailures.throws {m : Modes} {t t' : Tried} (same : SameFailures t t') :
    RoundThrows m t t' :=
  ⟨same.failed, Or.inl same.gaveUp⟩

/-- Behind a mode that works, the iteration ends there or goes on to HS400. -/
theorem finishMode_spec (enhStrobe : Bool) {m : Modes} {mode : Mode}
    (chosen : select m.allowed = some mode) {t : Tried} {s : PowerUp σ Tried}
    (same : SameFailures t s.trace)
    (works : Mode.hs400.bit.test m.allowed = false → s.trace.programmed = some mode.programming) :
    wp (finishMode host rca enhStrobe m.allowed mode) (fun r s' => RoundOutcome m t r s'.trace)
      (fun _ s' => RoundThrows m t s'.trace) s := by
  unfold finishMode
  rw [wp_ite]
  apply And.intro
  · intro allowed
    rw [wp_bind]
    apply (switchHs400_spec host rca enhStrobe s).mono
    · intro r s' went
      cases r with
      | some step =>
        exact tryNext_outcome chosen (Blamed.hs400 (went.kind step rfl) allowed)
          (same.trans went.same)
      | none =>
        exact ⟨mode, chosen, went.same.gaveUp.trans same.gaveUp, went.same.failed.trans same.failed,
          _, went.well rfl, Selected.hs400 allowed⟩
    · exact fun _ s' same' => (same.trans same').throws
  · intro other
    have other := Bool.eq_false_iff.mpr other
    exact ⟨mode, chosen, same.gaveUp, same.failed, _, works other, Selected.own other⟩

/-- The bus width, the mode and HS400, each with its own failure. -/
theorem tryMode_spec (enhStrobe : Bool) {m : Modes} {mode : Mode}
    (chosen : select m.allowed = some mode) (s : PowerUp σ Tried) :
    wp (tryMode host rca enhStrobe m.allowed mode) (fun r s' => RoundOutcome m s.trace r s'.trace)
      (fun _ s' => RoundThrows m s.trace s'.trace) s := by
  unfold tryMode
  rw [wp_bind]
  apply (silent_onHw _).keep
  · intro _ s₁ same₁
    rw [wp_bind]
    apply (silent_onHw _).keep
    · intro _ s₂ same₂
      rw [wp_bind]
      apply (silent_mmcSetBusWidth host rca _ _).keep
      · intro _ s₃ same₃
        have same : SameFailures s.trace s₃.trace :=
          SameFailures.of_eq (same₃.trans (same₂.trans same₁))
        rw [wp_bind, wp_get, wp_ite, wp_ite]
        apply And.intro
        · exact fun _ => tryNext_outcome chosen (Blamed.own rfl) same
        · intro _
          apply And.intro
          · intro _
            rw [wp_bind]
            apply (programMode_spec host rca mode s₃).mono
            · intro r s₄ went
              cases r with
              | some step =>
                exact tryNext_outcome chosen (Blamed.own (went.kind step rfl)) (same.trans went.same)
              | none =>
                exact finishMode_spec host rca enhStrobe chosen (same.trans went.same)
                  fun _ => went.well rfl
            · exact fun _ s₄ same₄ => (same.trans same₄).throws
          · intro skipped
            apply finishMode_spec host rca enhStrobe chosen same
            intro other
            have taken : (!Ec196DeviceType.hs400Ddr18.test m.allowed || !enhStrobe) = true :=
              congrArg (fun b => !b || !enhStrobe) other
            exact absurd taken skipped
      · exact fun _ s₃ same₃ => (SameFailures.of_eq (same₃.trans (same₂.trans same₁))).throws
    · exact fun _ s₂ same₂ => (SameFailures.of_eq (same₂.trans same₁)).throws
  · exact fun _ s₁ same₁ => (SameFailures.of_eq same₁).throws

/-- All that an iteration can do: it is left with a mode, it goes on with fewer modes, or it throws. -/
theorem mmcModeRound_spec (enhStrobe : Bool) (m : Modes) (s : PowerUp σ Tried) :
    wp (mmcModeRound host rca enhStrobe m) (fun r s' => RoundOutcome m s.trace r s'.trace)
      (fun _ s' => RoundThrows m s.trace s'.trace) s := by
  unfold mmcModeRound
  cases chosen : select m.allowed with
  | none => exact ⟨rfl, Or.inr ⟨chosen, rfl⟩⟩
  | some mode => exact tryMode_spec host rca enhStrobe chosen s

/-! ## Modes -/

/-- The modes an iteration can choose from. -/
def Modes.candidates (m : Modes) : Finset Mode :=
  ({.hs400, .hs200, .hs52Ddr, .hs52, .hs26} : Finset Mode).filter fun mode =>
    mode.bit.test m.allowed = true

/-- The candidates are the modes in the mask. -/
theorem Modes.mem_candidates {m : Modes} {mode : Mode} :
    mode ∈ m.candidates ↔ mode.bit.test m.allowed = true := by
  unfold candidates
  rw [Finset.mem_filter]
  apply and_iff_right
  cases mode <;> decide

/-- There are five of them. -/
theorem Modes.card_candidates (m : Modes) : m.candidates.card ≤ 5 :=
  Finset.card_filter_le _ _

/-- Only an iteration that selects HS200 has another mode under test. -/
theorem test_bit (mode other : Mode) :
    other.bit.test mode.test = decide (other = mode ∨ mode = .hs200 ∧ other = .hs400) := by
  cases mode <;> cases other <;> rfl

/-- The mask is left with HS400 only, or with the mode that was selected. -/
theorem test_bit_hs400 (mode other : Mode) :
    other.bit.test (Mode.hs200.bit.put mode.test false) =
      decide (other = if mode = .hs200 then .hs400 else mode) := by
  cases mode <;> cases other <;> rfl

/-- What is selected is in the mask, and HS400 is never selected by itself. -/
theorem select_some {restricted : U8} {mode : Mode} (chosen : select restricted = some mode) :
    mode.bit.test restricted = true ∧ mode ≠ .hs400 := by
  unfold select at chosen
  split at chosen
  · cases chosen
    exact ⟨by assumption, by decide⟩
  split at chosen
  · cases chosen
    exact ⟨by assumption, by decide⟩
  split at chosen
  · cases chosen
    exact ⟨by assumption, by decide⟩
  split at chosen
  · cases chosen
    exact ⟨by assumption, by decide⟩
  · cases chosen

/-- HS200 comes first. -/
theorem select_hs200 {restricted : U8} (allowed : Mode.hs200.bit.test restricted = true) :
    select restricted = some .hs200 :=
  if_pos allowed

/-- Where nothing can be selected, at most HS400 is left. -/
theorem select_none {restricted : U8} (none : select restricted = none) {mode : Mode}
    (other : mode ≠ .hs400) : mode.bit.test restricted = false := by
  unfold select at none
  split at none
  · cases none
  split at none
  · cases none
  split at none
  · cases none
  split at none
  · cases none
  rename_i hs200 hs52Ddr hs52 hs26
  cases mode with
  | hs400 => exact absurd rfl other
  | hs200 => exact Bool.eq_false_iff.mpr hs200
  | hs52Ddr => exact Bool.eq_false_iff.mpr hs52Ddr
  | hs52 => exact Bool.eq_false_iff.mpr hs52
  | hs26 => exact Bool.eq_false_iff.mpr hs26

/-- The modes the next iteration chooses from. -/
theorem test_next {m m' : Modes} (next : m'.restricted = m.allowed) (mode : Mode) :
    mode.bit.test m'.allowed = (mode.bit.test m.allowed && !mode.bit.test m'.test) := by
  show mode.bit.test (m'.restricted &&& ~~~m'.test) = _
  rw [Bitfield.test_and, Bitfield.test_not, next]

/-- The mode that is blamed for the failure was allowed. -/
theorem Blamed.removes {restricted : U8} {mode : Mode} {step : Step} {test : U8}
    (chosen : select restricted = some mode) (blamed : Blamed restricted mode step test) :
    ∃ other : Mode, other.bit.test restricted = true ∧ other.bit.test test = true := by
  have allowed := (select_some chosen).1
  cases blamed with
  | own _ => exact ⟨mode, allowed, by rw [test_bit, decide_eq_true (Or.inl rfl)]⟩
  | hs400 _ hs400 =>
    rcases Classical.em (mode = .hs200) with same | other
    · exact ⟨.hs400, hs400, by rw [test_bit_hs400, if_pos same, decide_eq_true rfl]⟩
    · exact ⟨mode, allowed, by rw [test_bit_hs400, if_neg other, decide_eq_true rfl]⟩

/-! ## Termination -/

/-- With each `continue` there is a mode less to choose from. -/
theorem candidates_shrink {m m' : Modes} {t t' : Tried} (outcome : RoundOutcome m t (.inl m') t') :
    m'.candidates ⊂ m.candidates := by
  rcases outcome with ⟨mode, chosen, -, step, -, next, blamed⟩
  obtain ⟨other, allowed, removed⟩ := blamed.removes chosen
  apply Finset.ssubset_iff_of_subset _ |>.mpr
  · refine ⟨other, Modes.mem_candidates.mpr allowed, ?_⟩
    rw [Modes.mem_candidates, test_next next, removed, Bool.not_true, Bool.and_false]
    exact Bool.false_ne_true
  · intro kept member
    rw [Modes.mem_candidates, test_next next] at member
    exact Modes.mem_candidates.mpr (Bool.and_eq_true_iff.mp member).1

/-- Whatever is kept by each `continue` carries through the loop, which ends. -/
theorem mmc_shrinks (enhStrobe : Bool) (inv : Modes → Tried → Prop) (Q : U8 → Tried → Prop)
    (E : Tried → Prop)
    (kept : ∀ {m m' t t'}, inv m t → RoundOutcome m t (.inl m') t' → inv m' t')
    (left : ∀ {m selected t t'}, inv m t → RoundOutcome m t (.inr selected) t' → Q selected t')
    (thrown : ∀ {m t t'}, inv m t → RoundThrows m t t' → E t') :
    Shrinks (mmcModeRound host rca enhStrobe) (fun m => m.candidates.card)
      (fun m s => inv m s.trace) (fun selected s => Q selected s.trace) (fun _ s => E s.trace) := by
  intro m s here
  apply (mmcModeRound_spec host rca enhStrobe m s).mono
  · intro r s' outcome
    cases r with
    | inl m' => exact ⟨Finset.card_lt_card (candidates_shrink outcome), kept here outcome⟩
    | inr selected => exact left here outcome
  · exact fun _ s' outcome => thrown here outcome

end PowerUp

end Emmc
