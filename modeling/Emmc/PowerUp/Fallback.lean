import Emmc.PowerUp.Mmc

/-!
# From one eMMC mode to the next

Which modes are left depends on the iterations that failed and on what they are blamed on: HS200 is
removed together with HS400, but a failure on the way from HS200 to HS400 is that of HS400. HS400 is
also tried when another mode was selected; a failure is then that of this mode.

* `History`: the modes that are left are the allowed ones no failure is blamed on.
* `obedient`: a card that takes every command, except that it may refuse HS400.
* `fallback_complete_iff`: when the loop gives up only after each slower mode has failed itself.
* `recorded_iff`: when the mode that is recorded is the one that was programmed.
-/

namespace Emmc

open Throwing

namespace PowerUp

open Mmc

variable {reported disabled : U8}

/-- The device supports the mode, and it is not disabled. -/
def Mode.Allowed (reported disabled : U8) (mode : Mode) : Prop :=
  mode.bit.test reported = true ∧ mode.bit.test disabled = false

/-- Modes at 1.2 V are other bits. -/
theorem test_disable12 (mode : Mode) (raw : U8) :
    mode.bit.test (Ec196DeviceType.disable12 raw) = mode.bit.test raw := by
  have hs400 : mode.bit.Disjoint Ec196DeviceType.hs400Ddr12 := by
    cases mode <;> decide
  have hs200 : mode.bit.Disjoint Ec196DeviceType.hs200Sdr12 := by
    cases mode <;> decide
  have hs52Ddr : mode.bit.Disjoint Ec196DeviceType.hs52Ddr12 := by
    cases mode <;> decide
  unfold Ec196DeviceType.disable12
  rw [Bitfield.test_set_of_disjoint hs400, Bitfield.test_set_of_disjoint hs200,
    Bitfield.test_set_of_disjoint hs52Ddr]

/-- The loop starts with the modes that are reported and not disabled. -/
theorem test_first (mode : Mode) :
    mode.bit.test (Modes.allowed { restricted := mmcRestricted reported disabled }) = true ↔
      mode.Allowed reported disabled := by
  have zero : mode.bit.test (0 : U8) = false := by
    cases mode <;> decide
  unfold Modes.allowed mmcRestricted Mode.Allowed
  rw [Bitfield.test_and, Bitfield.test_not, zero, Bool.not_false, Bool.and_true, test_disable12,
    Bitfield.test_and, Bitfield.test_not, Bool.and_eq_true_iff, Bool.not_eq_true']

/-! ## What a failure is blamed on -/

/-- The mode is removed when an iteration with `entry.1` fails at the step `entry.2`. -/
def blames (entry : Mode × Step) (mode : Mode) : Bool :=
  mode.bit.test (if entry.2.own then entry.1.test else Mode.hs200.bit.put entry.1.test false)

/-- The bits that are taken out are those of the modes that the failure is blamed on. -/
theorem Blamed.test_eq {restricted : U8} {selected : Mode} {step : Step} {test : U8}
    (blamed : Blamed restricted selected step test) (mode : Mode) :
    mode.bit.test test = blames (selected, step) mode := by
  unfold blames
  cases blamed with
  | own own => rw [if_pos own]
  | hs400 other _ => rw [if_neg (Bool.eq_false_iff.mp other)]

/-- HS200 is blamed for its own failures, not for those of HS400 behind it. -/
theorem blames_hs200 (entry : Mode × Step) :
    blames entry .hs200 = true ↔ entry.1 = .hs200 ∧ entry.2.own = true := by
  rcases entry with ⟨selected, step⟩
  cases selected <;> cases step <;> decide

/-- No iteration selects HS400. -/
theorem blames_hs400 (entry : Mode × Step) (selected : entry.1 ≠ .hs400) :
    blames entry .hs400 = true ↔ entry.1 = .hs200 := by
  rcases entry with ⟨mode, step⟩
  cases mode <;> cases step <;> first | decide | exact absurd rfl selected

def slowerModes : List Mode := [.hs52Ddr, .hs52, .hs26]

theorem slower_other : ∀ mode ∈ slowerModes, mode ≠ .hs400 ∧ mode ≠ .hs200 := by decide

/-- A slower mode is blamed for both: for a failure of HS400 behind it, only the bit of HS200 is spared. -/
theorem blames_slower {mode : Mode} (slower : mode ∈ slowerModes) (entry : Mode × Step) :
    blames entry mode = true ↔ entry.1 = mode := by
  rcases entry with ⟨selected, step⟩
  simp only [slowerModes, List.mem_cons, List.not_mem_nil, or_false] at slower
  rcases slower with rfl | rfl | rfl <;> cases selected <;> cases step <;> decide

/-- The modes that are left are the allowed ones no failure is blamed on. -/
structure History (reported disabled : U8) (m : Modes) (t : Tried) : Prop where
  left : ∀ mode : Mode, mode.bit.test m.allowed = true ↔
    mode.Allowed reported disabled ∧ ∀ entry ∈ t.failed, blames entry mode = false
  selectable : ∀ entry ∈ t.failed, entry.1 ≠ .hs400
  quiet : t.gaveUp = false

/-- Before the first iteration nothing has failed. -/
theorem history_first :
    History reported disabled { restricted := mmcRestricted reported disabled } {} where
  left := by
    intro mode
    rw [test_first]
    exact (and_iff_left fun entry absurd => (List.not_mem_nil absurd).elim).symm
  selectable := fun entry absurd => (List.not_mem_nil absurd).elim
  quiet := rfl

/-- Each failure takes the modes that are blamed out of the mask. -/
theorem History.next {m m' : Modes} {t t' : Tried} (history : History reported disabled m t)
    (outcome : RoundOutcome m t (.inl m') t') : History reported disabled m' t' := by
  rcases outcome with ⟨selected, chosen, gaveUp, step, failed, next, blamed⟩
  constructor
  · intro mode
    rw [test_next next, Bool.and_eq_true_iff, history.left, blamed.test_eq, failed,
      List.forall_mem_cons, Bool.not_eq_true']
    exact and_assoc.trans (and_congr_right fun _ => and_comm)
  · rw [failed, List.forall_mem_cons]
    exact ⟨(select_some chosen).2, history.selectable⟩
  · rw [gaveUp]
    exact history.quiet

/-- HS200 is left: it is allowed, and has not failed itself. -/
def Hs200Left (reported disabled : U8) (t : Tried) : Prop :=
  Mode.hs200.Allowed reported disabled ∧ ∀ step, (Mode.hs200, step) ∈ t.failed → step.own = false

/-- HS400 is left: it is allowed, and no iteration that selected HS200 has failed. -/
def Hs400Left (reported disabled : U8) (t : Tried) : Prop :=
  Mode.hs400.Allowed reported disabled ∧ ∀ step, (Mode.hs200, step) ∉ t.failed

/-- So the mask says whether HS200 is left. -/
theorem History.hs200Left {m : Modes} {t : Tried} (history : History reported disabled m t) :
    Mode.hs200.bit.test m.allowed = true ↔ Hs200Left reported disabled t := by
  rw [history.left]
  apply and_congr_right
  intro _
  apply Iff.intro
  · intro clear step member
    apply Bool.eq_false_iff.mpr
    intro own
    have blamed := (blames_hs200 (.hs200, step)).mpr ⟨rfl, own⟩
    exact Bool.false_ne_true ((clear _ member).symm.trans blamed)
  · intro clear entry member
    apply Bool.eq_false_iff.mpr
    intro blamed
    rcases entry with ⟨selected, step⟩
    obtain ⟨same, own⟩ := (blames_hs200 (selected, step)).mp blamed
    cases same
    exact Bool.false_ne_true ((clear step member).symm.trans own)

/-- And whether HS400 is. -/
theorem History.hs400Left {m : Modes} {t : Tried} (history : History reported disabled m t) :
    Mode.hs400.bit.test m.allowed = true ↔ Hs400Left reported disabled t := by
  rw [history.left]
  apply and_congr_right
  intro _
  apply Iff.intro
  · intro clear step member
    have other : Mode.hs200 ≠ .hs400 := by decide
    have blamed := (blames_hs400 (.hs200, step) other).mpr rfl
    exact Bool.false_ne_true ((clear _ member).symm.trans blamed)
  · intro clear entry member
    apply Bool.eq_false_iff.mpr
    intro blamed
    rcases entry with ⟨selected, step⟩
    have same : selected = .hs200 :=
      (blames_hs400 (selected, step) (history.selectable _ member)).mp blamed
    cases same
    exact clear step member

/-! ## A card that may refuse HS400 -/

/-- The switch to HS400. -/
def toHs400 (idx val : U8) : Prop := idx = Ec185HsTiming.index ∧ val = Ec185HsTiming.hs400

instance (idx val : U8) : Decidable (toHs400 idx val) := inferInstanceAs (Decidable (_ ∧ _))

def switchIndex (c : Cmd) : U8 := (ArgCmd6Switch.index.get c.arg).setWidth 8

def switchValue (c : Cmd) : U8 := (ArgCmd6Switch.value.get c.arg).setWidth 8

/-- The command with its response, and EXT_CSD[185] after it. -/
def respond (refuse : Bool) (c : Cmd) (timing : U8) : Cmd × U8 :=
  if c.cmd = cmd6Switch then
    if refuse = true ∧ toHs400 (switchIndex c) (switchValue c) then
      ({ c with status := .cmdError }, timing)
    else
      (answered c, if switchIndex c = Ec185HsTiming.index then switchValue c else timing)
  else
    (answered c, timing)

/-- A card that carries out every command, except that it may refuse HS400. Its state is EXT_CSD[185]. -/
def obedient (refuse : Bool) : Host U8 where
  suppUhsTimings := fun _ => true
  suppPowerLimit := fun _ => false
  needsTuningSdr50 := false
  ioPhys := 0x1000
  ioVirt := 0x1000
  ioBuf := fun timing i => if i = 185 then timing else 0
  cmdExec := modify fun s => respond refuse s.1 s.2
  setBusWidth := fun _ => pure ()
  setClockAndTiming := fun _ _ _ => pure ()
  setVoltage := fun _ => pure ()
  delay := fun _ => pure ()
  tuningFinished := pure (some true)
  resetTuning := pure ()
  enableAutoTuning := pure ()
  cardBusy := pure false

theorem answered_error (c : Cmd) : (answered c).error = false := rfl

/-- The card of the run on fixed inputs answers without a switch error. -/
theorem answered_switchError (c : Cmd) : (answered c).switchError = false := by
  have clear : DeviceStatus.switchError.test (0x900 : U32) = false := by decide
  apply decide_eq_false
  intro failed
  exact Bool.false_ne_true (clear.symm.trans failed.2.2)

theorem answered_mmcStatus (c : Cmd) : (answered c).mmcStatus = .ok 0x900 := rfl

theorem answered_ready : DeviceStatus.readyForData.test (0x900 : U32) = true := by decide

/-- The argument of CMD6 that writes a byte of EXT_CSD. -/
def switchArg (idx val : U8) : U32 :=
  ArgCmd6Switch.cmdset.set (ArgCmd6Switch.value.set (ArgCmd6Switch.index.set
    (ArgCmd6Switch.access.set 0 ArgCmd6Switch.writeByte) (idx.setWidth 32)) (val.setWidth 32)) 0

/-- A byte that is put into a field of eight bits is read back. -/
theorem get_byte {f : Bitfield 32} (width : f.width = 8) (raw : U32) (v : U8) :
    (f.get (f.set raw (v.setWidth 32))).setWidth 8 = v := by
  have fits : (v.setWidth 32).toNat < 2 ^ f.width := by
    rw [width, BitVec.toNat_setWidth_of_le (by decide)]
    exact v.isLt
  rw [(Bitfield.get_set_eq_iff f raw _).mpr fits, BitVec.setWidth_setWidth_of_le _ (by decide),
    BitVec.setWidth_eq]

/-- The register that a switch is about can be read from its argument. -/
theorem index_switchArg (idx val : U8) :
    (ArgCmd6Switch.index.get (switchArg idx val)).setWidth 8 = idx := by
  have cmdset : ArgCmd6Switch.index.Disjoint ArgCmd6Switch.cmdset := by decide
  have value : ArgCmd6Switch.index.Disjoint ArgCmd6Switch.value := by decide
  unfold switchArg
  rw [Bitfield.get_set_of_disjoint cmdset, Bitfield.get_set_of_disjoint value]
  exact get_byte rfl _ _

/-- And so can the value. -/
theorem value_switchArg (idx val : U8) :
    (ArgCmd6Switch.value.get (switchArg idx val)).setWidth 8 = val := by
  have cmdset : ArgCmd6Switch.value.Disjoint ArgCmd6Switch.cmdset := by decide
  unfold switchArg
  rw [Bitfield.get_set_of_disjoint cmdset]
  exact get_byte rfl _ _

section Obedient

variable {refuse : Bool} {rca : U16} {τ : Type} {s : PowerUp U8 τ}

/-- Commands other than CMD6 leave the timing of the card alone. -/
theorem respond_other {c : Cmd} (other : c.cmd ≠ cmd6Switch) (timing : U8) :
    respond refuse c timing = (answered c, timing) :=
  if_neg other

/-- The card refuses the switch to HS400, if it refuses anything. -/
theorem respond_switch {c : Cmd} {idx val : U8} (cmd : c.cmd = cmd6Switch)
    (arg : c.arg = switchArg idx val) (timing : U8) :
    respond refuse c timing = if refuse = true ∧ toHs400 idx val then
      ({ c with status := .cmdError }, timing)
    else (answered c, if idx = Ec185HsTiming.index then val else timing) := by
  unfold respond switchIndex switchValue
  rw [if_pos cmd, arg, index_switchArg, value_switchArg]

/-- Executing a command with this card is its response. -/
theorem wp_cmdExec_obedient {Q : Unit → PowerUp U8 τ → Prop} {E : RuntimeError → PowerUp U8 τ → Prop} :
    wp (cmdExec (obedient refuse)) Q E s ↔
      Q () { s with cmd := (respond refuse s.cmd s.hw).1, hw := (respond refuse s.cmd s.hw).2 } :=
  Iff.rfl

/-- The first poll ends a switch. -/
theorem pollSwitch_obedient (polls : Nat) :
    wp (pollSwitch (obedient refuse) rca (polls + 1))
      (fun _ s' => s'.cmd.error = false ∧ s'.cmd.switchError = false ∧ s'.hw = s.hw ∧
        s'.trace = s.trace) (fun _ _ => False) s := by
  have other : cmd13SendStatus ≠ cmd6Switch := by decide
  unfold pollSwitch
  rw [wp_bind, wp_modifyCmd, wp_bind, wp_cmdExec_obedient, respond_other other, wp_bind, wp_get]
  simp only [answered_error, answered_switchError, answered_mmcStatus, answered_ready, Bool.or_self,
    Bool.false_eq_true, if_false, if_true]
  exact ⟨answered_error _, answered_switchError _, rfl, rfl⟩

theorem execMmcSwitch_eq {σ τ : Type} (host : Host σ) (rca : U16) (idx val : U8) :
    (execMmcSwitch host rca idx val : PowerUpM σ τ Unit) = (do
      modifyCmd (·.initArg cmd6Switch (switchArg idx val))
      modifyCmd (·.markStatusAfterSwitch)
      cmdExec host
      if (← get).cmd.status = .success then
        pollSwitch host rca 50) := rfl

/-- How a switch ends: with an error when it is refused, else the byte is written. -/
def Switched (refuse : Bool) (idx val : U8) (s s' : PowerUp U8 τ) : Prop :=
  s'.trace = s.trace ∧
    if refuse = true ∧ toHs400 idx val then s'.cmd.error = true
    else s'.cmd.error = false ∧ s'.cmd.switchError = false ∧
      s'.hw = if idx = Ec185HsTiming.index then val else s.hw

/-- A switch either is refused, or changes the register that it is about. -/
theorem execMmcSwitch_obedient (idx val : U8) :
    wp (execMmcSwitch (obedient refuse) rca idx val) (fun _ s' => Switched refuse idx val s s')
      (fun _ _ => False) s := by
  rw [execMmcSwitch_eq, wp_bind, wp_modifyCmd, wp_bind, wp_modifyCmd, wp_bind,
    wp_cmdExec_obedient, wp_bind, wp_get, wp_ite, wp_pure]
  generalize command : (s.cmd.initArg cmd6Switch (switchArg idx val)).markStatusAfterSwitch = c
  have response : respond refuse c s.hw = _ :=
    respond_switch (by rw [← command]; rfl) (by rw [← command]; rfl) s.hw
  simp only [response]
  unfold Switched
  by_cases refused : refuse = true ∧ toHs400 idx val
  · simp only [if_pos refused]
    exact ⟨fun absurd => Status.noConfusion absurd, fun _ => ⟨trivial, rfl⟩⟩
  · simp only [if_neg refused]
    apply And.intro
    · intro _
      apply pollSwitch_obedient 49 |>.mono
      · intro _ s' polled
        exact ⟨polled.2.2.2, polled.1, polled.2.1, polled.2.2.1⟩
      · exact fun _ _ absurd => absurd.elim
    · exact fun failed => absurd rfl failed

/-- The bus width is never refused. -/
theorem mmcSetBusWidth_obedient (width : U8) (strobe : Bool) {s : PowerUp U8 Tried} :
    wp (mmcSetBusWidth (obedient refuse) rca width strobe)
      (fun _ s' => s'.cmd.error = false ∧ s'.trace = s.trace) (fun _ _ => False) s := by
  unfold mmcSetBusWidth
  apply execMmcSwitch_obedient _ _ |>.bind_ok
  intro _ s₁ switched
  have other : Ec183BusWidth.index ≠ Ec185HsTiming.index := by decide
  unfold Switched at switched
  rw [if_neg fun refused => other refused.2.1] at switched
  rw [wp_bind, wp_get, wp_ite]
  exact ⟨fun _ => ⟨switched.2.1, switched.1⟩, fun _ => ⟨switched.2.1, switched.1⟩⟩

/-- A timing that was switched to is found in the extended CSD. -/
theorem verifyTiming_obedient (p : Programming) {s : PowerUp U8 Tried}
    (same : Ec185HsTiming.timingInterface.get s.hw = p.hsTiming) :
    wp (verifyTiming (obedient refuse) rca p)
      (fun _ s' => s'.cmd.error = false ∧ s'.trace = s.trace) (fun _ _ => False) s := by
  have status : cmd13SendStatus ≠ cmd6Switch := by decide
  have extCsd : cmd8SendExtCsd ≠ cmd6Switch := by decide
  unfold verifyTiming
  rw [wp_bind, wp_modifyCmd, wp_bind, wp_cmdExec_obedient, respond_other status, wp_bind, wp_get]
  simp only [answered_error, answered_switchError, Bool.or_self, Bool.false_eq_true, if_false]
  apply (initData_spec (obedient refuse) _ _ _ _ _).bind_ok
  intro _ s₁ ready
  have other : s₁.cmd.cmd ≠ cmd6Switch := by
    rw [ready.1]
    exact extCsd
  rw [wp_bind, wp_cmdExec_obedient, respond_other other, wp_bind, wp_get]
  simp only [answered_error, Bool.false_eq_true, if_false]
  rw [wp_bind, wp_get, wp_ite, wp_pure]
  apply And.intro
  · intro differs
    exact absurd ((congrArg _ ready.2.1).trans same) differs
  · exact fun _ => ⟨answered_error _, ready.2.2⟩

/-- Of all timings, only that of HS400 is refused. -/
theorem toHs400_timing {timing : U8} (fits : timing.toNat < 2 ^ 4) :
    toHs400 Ec185HsTiming.index (Ec185HsTiming.timingInterface.set 0 timing) ↔
      timing = Ec185HsTiming.hs400 := by
  have back := (Bitfield.get_set_eq_iff Ec185HsTiming.timingInterface 0 timing).mpr fits
  have self : Ec185HsTiming.timingInterface.set 0 Ec185HsTiming.hs400 = Ec185HsTiming.hs400 := by decide
  have read : Ec185HsTiming.timingInterface.get Ec185HsTiming.hs400 = Ec185HsTiming.hs400 := by decide
  apply Iff.intro
  · intro switch
    rw [switch.2, read] at back
    exact back.symm
  · intro same
    rw [same]
    exact ⟨rfl, self⟩

/-- Unless it is refused, the timing is set, and read back. -/
theorem mmcSetTiming_obedient (p : Programming) (strobe : Bool) {s : PowerUp U8 Tried}
    (fits : p.hsTiming.toNat < 2 ^ 4) :
    wp (mmcSetTiming (obedient refuse) rca p strobe)
      (fun _ s' => SameFailures s.trace s'.trace ∧
        s'.cmd.error = decide (refuse = true ∧ p.hsTiming = Ec185HsTiming.hs400))
      (fun _ _ => False) s := by
  have back := (Bitfield.get_set_eq_iff Ec185HsTiming.timingInterface 0 p.hsTiming).mpr fits
  have switch := toHs400_timing fits
  rw [mmcSetTiming_eq]
  generalize Ec185HsTiming.timingInterface.set 0 p.hsTiming = val at back switch ⊢
  apply execMmcSwitch_obedient _ _ |>.bind_ok
  intro _ s₁ switched
  unfold Switched at switched
  rw [wp_bind, wp_get, wp_ite]
  by_cases refused : refuse = true ∧ toHs400 Ec185HsTiming.index val
  · rw [if_pos refused] at switched
    rw [switched.2, Bool.true_or, decide_eq_true ⟨refused.1, switch.mp refused.2⟩]
    exact ⟨fun _ => ⟨SameFailures.of_eq switched.1, rfl⟩, fun absurd => (absurd rfl).elim⟩
  · rw [if_neg refused, if_pos rfl] at switched
    rw [switched.2.1, switched.2.2.1,
      decide_eq_false fun both => refused ⟨both.1, switch.mpr both.2⟩]
    apply And.intro (fun absurd => (Bool.false_ne_true absurd).elim)
    intro _
    rw [wp_bind]
    show wp (_ >>= _) _ _ s₁
    rw [wp_bind]
    apply verifyTiming_obedient p _ |>.mono
    · intro _ s₂ verified
      have failed : s₁.trace.failed = s.trace.failed := congrArg Tried.failed switched.1
      have gaveUp : s₁.trace.gaveUp = s.trace.gaveUp := congrArg Tried.gaveUp switched.1
      rw [verified.2]
      exact ⟨⟨failed, gaveUp⟩, verified.1⟩
    · exact fun _ _ absurd => absurd.elim
    · show Ec185HsTiming.timingInterface.get s₁.hw = p.hsTiming
      rw [switched.2.2.2]
      exact back

/-- The timings of all modes fit their field. -/
theorem timing_fits (mode : Mode) : mode.programming.hsTiming.toNat < 2 ^ 4 := by
  cases mode <;> decide

/-- The first tuning block succeeds. -/
theorem tune_obedient (loops : Nat) {s : PowerUp U8 Tried} :
    wp (tune (obedient refuse) cmd21SendTuningBlock (loops + 1))
      (fun success s' => success = true ∧ s'.trace = s.trace) (fun _ _ => False) s := by
  have other : cmd21SendTuningBlock ≠ cmd6Switch := by decide
  unfold tune
  rw [wp_bind, wp_modifyCmd, wp_bind, wp_cmdExec_obedient, respond_other other, wp_bind, wp_get]
  exact ⟨rfl, rfl⟩

/-- The mode that is selected works. -/
theorem programMode_obedient (mode : Mode) (selected : mode ≠ .hs400) {s : PowerUp U8 Tried} :
    wp (programMode (obedient refuse) rca mode)
      (fun r s' => r = none ∧ SameFailures s.trace s'.trace) (fun _ _ => False) s := by
  have plain : ¬ (refuse = true ∧ mode.programming.hsTiming = Ec185HsTiming.hs400) := by
    cases mode with
    | hs400 => exact absurd rfl selected
    | _ => exact fun both => absurd both.2 (by decide)
  unfold programMode
  apply mmcSetTiming_obedient _ _ (timing_fits mode) |>.bind_ok
  intro _ s₁ set
  rw [wp_bind, wp_get, set.2, decide_eq_false plain, wp_ite]
  apply And.intro (fun absurd => (Bool.false_ne_true absurd).elim)
  intro _
  rw [wp_ite]
  apply And.intro
  · intro _
    apply tune_obedient 39 |>.bind_ok
    intro success s₂ tuned
    rw [tuned.1]
    exact ⟨rfl, set.1.trans (SameFailures.of_eq tuned.2)⟩
  · exact fun _ => ⟨rfl, set.1⟩

/-- HS400 works unless it is refused. -/
theorem switchHs400_obedient (enhStrobe : Bool) {s : PowerUp U8 Tried} :
    wp (switchHs400 (obedient refuse) rca enhStrobe)
      (fun r s' => r = (if refuse then some .hs400Timing else none) ∧ SameFailures s.trace s'.trace)
      (fun _ _ => False) s := by
  unfold switchHs400
  apply mmcSetTiming_obedient ⟨Ec185HsTiming.hs, .hs, 52 * mHz⟩ _ (timing_fits .hs52) |>.bind_ok
  intro _ s₁ base
  have plain : ¬ (refuse = true ∧ Ec185HsTiming.hs = Ec185HsTiming.hs400) :=
    fun both => absurd both.2 (by decide)
  rw [wp_bind, wp_get, base.2, decide_eq_false plain, wp_ite]
  apply And.intro (fun absurd => (Bool.false_ne_true absurd).elim)
  intro _
  apply mmcSetBusWidth_obedient _ _ |>.bind_ok
  intro _ s₂ width
  rw [wp_bind, wp_get, width.1, wp_ite]
  apply And.intro (fun absurd => (Bool.false_ne_true absurd).elim)
  intro _
  apply mmcSetTiming_obedient Mode.hs400.programming _ (timing_fits .hs400) |>.bind_ok
  intro _ s₃ set
  have same := base.1.trans ((SameFailures.of_eq width.2).trans set.1)
  rw [wp_bind, wp_get, set.2, wp_ite]
  cases refuse with
  | true => exact ⟨fun _ => ⟨rfl, same⟩, fun absurd => (absurd rfl).elim⟩
  | false => exact ⟨fun absurd => (Bool.false_ne_true absurd).elim, fun _ => ⟨rfl, same⟩⟩

/-- What becomes of an iteration: it fails at HS400, if that is allowed and refused. -/
inductive Obeyed (refuse : Bool) (restricted : U8) (mode : Mode) (t : Tried) :
    Modes ⊕ U8 → Tried → Prop
  | refused {t' : Tried} (allowed : Mode.hs400.bit.test restricted = true) (refuses : refuse = true)
    (failed : t'.failed = (mode, .hs400Timing) :: t.failed) (gaveUp : t'.gaveUp = t.gaveUp) :
    Obeyed refuse restricted mode t (.inl ⟨restricted, Mode.hs200.bit.put mode.test false⟩) t'
  | hs400 {t' : Tried} (allowed : Mode.hs400.bit.test restricted = true) (obeys : refuse = false)
    (same : SameFailures t t') :
    Obeyed refuse restricted mode t (.inr (Mode.hs200.bit.put mode.test false)) t'
  | own {t' : Tried} (other : Mode.hs400.bit.test restricted = false) (same : SameFailures t t') :
    Obeyed refuse restricted mode t (.inr mode.test) t'

/-- HS400 is reached or refused, as the card will have it. -/
theorem finishMode_obedient (enhStrobe : Bool) (restricted : U8) (mode : Mode)
    {t : Tried} {s : PowerUp U8 Tried} (same : SameFailures t s.trace) :
    wp (finishMode (obedient refuse) rca enhStrobe restricted mode)
      (fun r s' => Obeyed refuse restricted mode t r s'.trace) (fun _ _ => False) s := by
  unfold finishMode
  rw [wp_ite]
  apply And.intro
  · intro allowed
    apply switchHs400_obedient enhStrobe |>.bind_ok
    intro r s₁ went
    have same₁ := same.trans went.2
    rw [went.1]
    cases refuse with
    | true => exact Obeyed.refused allowed rfl (congrArg _ same₁.failed) same₁.gaveUp
    | false => exact Obeyed.hs400 allowed rfl same₁
  · exact fun other => Obeyed.own (Bool.eq_false_iff.mpr other) same

/-- Any mode other than HS400 is reached. -/
theorem tryMode_obedient (enhStrobe : Bool) (restricted : U8) (mode : Mode) (selected : mode ≠ .hs400)
    (s : PowerUp U8 Tried) :
    wp (tryMode (obedient refuse) rca enhStrobe restricted mode)
      (fun r s' => Obeyed refuse restricted mode s.trace r s'.trace) (fun _ _ => False) s := by
  unfold tryMode
  rw [wp_bind]
  show wp (_ >>= _) _ _ s
  rw [wp_bind]
  show wp (_ >>= _) _ _ s
  apply mmcSetBusWidth_obedient _ _ |>.bind_ok
  intro _ s₁ width
  have same := SameFailures.of_eq width.2
  rw [wp_bind, wp_get, width.1, wp_ite, wp_ite]
  apply And.intro (fun absurd => (Bool.false_ne_true absurd).elim)
  intro _
  apply And.intro
  · intro _
    apply programMode_obedient mode selected |>.bind_ok
    intro r s₂ went
    rw [went.1]
    exact finishMode_obedient enhStrobe restricted mode (same.trans went.2)
  · exact fun _ => finishMode_obedient enhStrobe restricted mode same

/-- With a mode to try, no iteration throws. -/
theorem mmcModeRound_obedient (enhStrobe : Bool) {m : Modes} {mode : Mode}
    (chosen : select m.allowed = some mode) (s : PowerUp U8 Tried) :
    wp (mmcModeRound (obedient refuse) rca enhStrobe m)
      (fun r s' => Obeyed refuse m.allowed mode s.trace r s'.trace) (fun _ _ => False) s := by
  unfold mmcModeRound
  rw [chosen]
  exact tryMode_obedient enhStrobe m.allowed mode (select_some chosen).2 s

end Obedient

/-! ## Falling back -/

variable {σ : Type}

/-- Without a candidate the loop gives up. -/
theorem mmcModeRound_none (host : Host σ) (rca : U16) (enhStrobe : Bool) {m : Modes}
    (none : select m.allowed = none) (s : PowerUp σ Tried) :
    wp (mmcModeRound host rca enhStrobe m) (fun _ _ => False)
      (fun _ s' => s'.trace.gaveUp = true ∧ s'.trace.failed = s.trace.failed) s := by
  unfold mmcModeRound
  rw [none]
  exact ⟨rfl, rfl⟩

/-- "Cannot initialize timing" is thrown after each slower mode that is allowed was programmed itself
and has failed. -/
def FallsBack (reported disabled : U8) (t : Tried) : Prop :=
  t.gaveUp = true → ∀ mode ∈ slowerModes, mode.Allowed reported disabled →
    ∃ step, step.own = true ∧ (mode, step) ∈ t.failed

/-- Only HS200 fails on the way to HS400. -/
def Paired (t : Tried) : Prop := ∀ entry ∈ t.failed, entry.2.own = false → entry.1 = .hs200

/-- If HS400 has only failed behind HS200, this stays so while HS200 is allowed wherever HS400 is. -/
theorem Paired.next {m m' : Modes} {t t' : Tried} (history : History reported disabled m t)
    (together : ¬ Mode.hs400.Allowed reported disabled ∨ Mode.hs200.Allowed reported disabled)
    (paired : Paired t) (outcome : RoundOutcome m t (.inl m') t') : Paired t' := by
  rcases outcome with ⟨selected, chosen, -, step, failed, -, blamed⟩
  unfold Paired
  rw [failed, List.forall_mem_cons]
  apply And.intro _ paired
  intro other
  generalize m'.test = test at blamed
  cases blamed with
  | own own => exact absurd (other.symm.trans own) Bool.false_ne_true
  | hs400 _ allowed =>
    -- HS400 is left, so HS200 is left as well and was selected
    have hs400 := history.hs400Left.mp allowed
    have hs200 : Hs200Left reported disabled t :=
      ⟨together.resolve_left (not_not_intro hs400.1), fun step member => absurd member (hs400.2 step)⟩
    have first := select_hs200 (history.hs200Left.mpr hs200)
    exact Option.some.inj (chosen.symm.trans first)

/-- Giving up then means that every slower mode that is allowed has failed by itself. -/
theorem History.gaveUp {m : Modes} {t t' : Tried} (history : History reported disabled m t)
    (paired : Paired t) (thrown : RoundThrows m t t') : FallsBack reported disabled t' := by
  intro gaveUp mode slower allowed
  rcases thrown with ⟨failed, quiet | ⟨none, -⟩⟩
  · exact absurd ((history.quiet.symm.trans quiet.symm).trans gaveUp) Bool.false_ne_true
  · have other := slower_other mode slower
    have gone := select_none none other.1
    rw [failed]
    apply Classical.byContradiction
    intro missing
    have left : ∀ entry ∈ t.failed, blames entry mode = false := by
      intro entry member
      apply Bool.eq_false_iff.mpr
      intro blamed
      rcases entry with ⟨selected, step⟩
      have same : selected = mode := (blames_slower slower (selected, step)).mp blamed
      rw [same] at member
      cases own : step.own with
      | true => exact missing ⟨step, own, member⟩
      | false => exact other.2 (paired _ member own)
    exact Bool.false_ne_true (gone.symm.trans ((history.left mode).mpr ⟨allowed, left⟩))

/-- In every run of the mode loop. -/
def AlwaysFallsBack (reported disabled : U8) (enhStrobe : Bool) : Prop :=
  ∀ {σ : Type} (host : Host σ) (rca : U16) (cmd : Cmd) (hw : σ) (rounds : Nat),
    wp (mmcModeLoop host rca reported disabled enhStrobe rounds)
      (fun _ s => FallsBack reported disabled s.trace) (fun _ s => FallsBack reported disabled s.trace)
      { cmd, hw, trace := {} }

/-- Only a mask with HS400 and without HS200 can go wrong. -/
theorem alwaysFallsBack_of_together {enhStrobe : Bool}
    (together : ¬ Mode.hs400.Allowed reported disabled ∨ Mode.hs200.Allowed reported disabled) :
    AlwaysFallsBack reported disabled enhStrobe := by
  intro σ host rca cmd hw rounds
  have quiet : ∀ {t : Tried}, t.gaveUp = false → FallsBack reported disabled t :=
    fun quiet gaveUp => absurd (quiet.symm.trans gaveUp) Bool.false_ne_true
  have shrinks := mmc_shrinks host rca enhStrobe
    (fun m t => History reported disabled m t ∧ Paired t)
    (fun _ t => FallsBack reported disabled t) (fun t => FallsBack reported disabled t)
    (fun here outcome => ⟨here.1.next outcome, here.2.next here.1 together outcome⟩)
    (fun here outcome => quiet (outcome.choose_spec.2.1.trans here.1.quiet))
    (fun here thrown => here.1.gaveUp here.2 thrown)
  have paired : Paired {} := fun entry absurd => (List.not_mem_nil absurd).elim
  apply (retry_keeps shrinks ⟨history_first, paired⟩).mono
  · intro r s outcome
    cases r with
    | none =>
      rcases outcome with ⟨m, here, -⟩
      exact quiet here.quiet
    | some selected => exact outcome
  · exact fun _ _ thrown => thrown

/-- A card that refuses HS400 while another mode is selected: no mode fails itself. -/
theorem refusal_wastes {enhStrobe : Bool} (hs400 : Mode.hs400.Allowed reported disabled)
    (noHs200 : ¬ Mode.hs200.Allowed reported disabled) :
    wp (mmcModeLoop (obedient true) 1 reported disabled enhStrobe 6) (fun _ _ => False)
      (fun _ s => s.trace.gaveUp = true ∧ ∀ entry ∈ s.trace.failed, entry.2.own = false)
      { cmd := {}, hw := 0, trace := {} } := by
  have shrinks : Shrinks (mmcModeRound (obedient true) 1 enhStrobe) (fun m => m.candidates.card)
      (fun m s => History reported disabled m s.trace ∧
        ∀ entry ∈ s.trace.failed, entry.2.own = false ∧ entry.1 ≠ .hs200)
      (fun _ _ => False)
      (fun _ s => s.trace.gaveUp = true ∧ ∀ entry ∈ s.trace.failed, entry.2.own = false) := by
    intro m s here
    have left : Hs400Left reported disabled s.trace :=
      ⟨hs400, fun step member => (here.2 _ member).2 rfl⟩
    have allowed := here.1.hs400Left.mpr left
    cases chosen : select m.allowed with
    | none =>
      apply (mmcModeRound_none (obedient true) 1 enhStrobe chosen s).mono
      · exact fun _ _ absurd => absurd.elim
      · intro _ s' gaveUp
        apply And.intro gaveUp.1
        rw [gaveUp.2]
        exact fun entry member => (here.2 entry member).1
    | some mode =>
      have other : mode ≠ .hs200 := by
        intro same
        have bit := (select_some chosen).1
        rw [same] at bit
        exact noHs200 (here.1.hs200Left.mp bit).1
      apply ((mmcModeRound_spec (obedient true) 1 enhStrobe m s).and
        (mmcModeRound_obedient enhStrobe chosen s)).mono
      · intro r s' both
        rcases both with ⟨outcome, obeyed⟩
        cases obeyed with
        | refused _ _ failed _ =>
          refine ⟨Finset.card_lt_card (candidates_shrink outcome), here.1.next outcome, ?_⟩
          rw [failed, List.forall_mem_cons]
          exact ⟨⟨rfl, other⟩, here.2⟩
        | hs400 _ obeys _ => cases obeys
        | own off _ => exact absurd (off.symm.trans allowed) Bool.false_ne_true
      · exact fun _ _ both => both.2.elim
  apply (retry_rule shrinks (Nat.lt_succ_of_le (Modes.card_candidates _)) ⟨history_first, _⟩).mono
  · intro r s left
    exact left.choose_spec.2
  · exact fun _ _ thrown => thrown
  · exact fun entry absurd => (List.not_mem_nil absurd).elim

/-- Whatever device, card and controller do, the loop gives up only after each slower mode that is
allowed has failed itself, if and only if HS400 is not allowed, or HS200 is, or no slower mode is. -/
theorem fallback_complete_iff (reported disabled : U8) (enhStrobe : Bool) :
    AlwaysFallsBack reported disabled enhStrobe ↔
      ¬ Mode.hs400.Allowed reported disabled ∨ Mode.hs200.Allowed reported disabled ∨
        ∀ mode ∈ slowerModes, ¬ mode.Allowed reported disabled := by
  apply Iff.intro
  · intro always
    apply Classical.byContradiction
    intro neither
    obtain ⟨hs400, rest⟩ := not_or.mp neither
    obtain ⟨noHs200, some⟩ := not_or.mp rest
    apply some
    intro mode slower allowed
    apply wp_false
    apply ((always (obedient true) 1 {} 0 6).and
      (refusal_wastes (not_not.mp hs400) noHs200)).mono
    · exact fun _ _ both => both.2
    · intro _ s both
      rcases both with ⟨fallsBack, gaveUp, others⟩
      obtain ⟨step, own, failed⟩ := fallsBack gaveUp mode slower allowed
      exact Bool.false_ne_true ((others _ failed).symm.trans own)
  · intro condition
    rcases or_assoc.mpr condition with together | noSlower
    · exact alwaysFallsBack_of_together together
    · intro σ host rca cmd hw rounds
      have vacuous : ∀ t : Tried, FallsBack reported disabled t :=
        fun t _ mode slower allowed => absurd allowed (noSlower mode slower)
      exact (wp_any _ _).mono (fun _ s _ => vacuous s.trace) (fun _ s _ => vacuous s.trace)

/-- The property of all runs, for one of them. -/
theorem AlwaysFallsBack.after_run {enhStrobe : Bool}
    (always : AlwaysFallsBack reported disabled enhStrobe) (host : Host σ) (rca : U16) (cmd : Cmd) (hw : σ)
    (rounds : Nat) :
    FallsBack reported disabled (after (mmcModeLoop host rca reported disabled enhStrobe rounds)
      { cmd, hw, trace := {} }).trace := by
  have kept := always host rca cmd hw rounds
  generalize mmcModeLoop host rca reported disabled enhStrobe rounds = loop at kept
  unfold wp at kept
  unfold after
  cases run : loop { cmd, hw, trace := {} } with
  | ok r s =>
    rw [run] at kept
    exact kept
  | error e s =>
    rw [run] at kept
    exact kept

/-- What is tried when the device supports all modes, HS200 is disabled, and HS400 fails. -/
def wasted : Tried :=
  (after (mmcModeLoop (obedient true) 1 0x57 0x30 false 6) { cmd := {}, hw := 0, trace := {} }).trace

/-- With HS400 and without HS200, the refusal of HS400 takes three modes with it that work. -/
theorem hs52_wasted :
    wasted.gaveUp = true ∧
      wasted.failed = [(.hs26, .hs400Timing), (.hs52, .hs400Timing), (.hs52Ddr, .hs400Timing)] ∧
      ¬ FallsBack 0x57 0x30 wasted ∧ ¬ AlwaysFallsBack 0x57 0x30 false := by
  have gaveUp : wasted.gaveUp = true := by decide +kernel
  have failed : wasted.failed =
      [(.hs26, .hs400Timing), (.hs52, .hs400Timing), (.hs52Ddr, .hs400Timing)] := by decide +kernel
  have allowed : Mode.hs52.Allowed 0x57 0x30 := ⟨by decide, by decide⟩
  have lost : ¬ FallsBack 0x57 0x30 wasted := by
    generalize wasted = t at gaveUp failed
    intro fallsBack
    obtain ⟨step, own, member⟩ := fallsBack gaveUp .hs52 (by decide) allowed
    rw [failed] at member
    have step : step = .hs400Timing := by
      simpa using member
    rw [step] at own
    cases own
  exact ⟨gaveUp, failed, lost, fun always => lost (always.after_run (obedient true) 1 {} 0 6)⟩

/-! ## The mode that is recorded -/

/-- Exactly one bit is set; it is that of the mode that was programmed last, which is allowed. -/
def Recorded (reported disabled selected : U8) (t : Tried) : Prop :=
  ∃ mode : Mode, selected = mode.bit.put 0 true ∧ t.programmed = some mode.programming ∧
    mode.Allowed reported disabled

/-- The modes have different bits. -/
theorem bit_inj {mode other : Mode} (same : mode.bit.put 0 true = other.bit.put 0 true) :
    mode = other := by
  revert same
  cases mode <;> cases other <;> decide

/-- Modes other than HS200 are taken out with a single bit. -/
theorem test_other {mode : Mode} (other : mode ≠ .hs200) : mode.test = mode.bit.put 0 true := by
  cases mode with
  | hs200 => exact absurd rfl other
  | _ => rfl

/-- In what is recorded, their bit is the only one. -/
theorem put_other {mode : Mode} (other : mode ≠ .hs200) :
    Mode.hs200.bit.put mode.test false = mode.bit.put 0 true := by
  cases mode with
  | hs200 => exact absurd rfl other
  | _ => decide

/-- HS400 has a timing of its own. -/
theorem programming_hs400 {mode : Mode} (other : mode ≠ .hs400) :
    mode.programming ≠ Mode.hs400.programming := by
  cases mode with
  | hs400 => exact absurd rfl other
  | _ => decide

/-- An iteration that succeeds records the mode it has programmed if both HS200 and HS400 are left, or
neither of them. -/
theorem History.recorded_round {m : Modes} {t t' : Tried} {selected : U8}
    (history : History reported disabled m t) (outcome : RoundOutcome m t (.inr selected) t') :
    Recorded reported disabled selected t' ↔
      (Hs200Left reported disabled t' ↔ Hs400Left reported disabled t') := by
  rcases outcome with ⟨mode, chosen, -, failed, p, programmed, selected⟩
  have same : (Hs200Left reported disabled t' ↔ Hs400Left reported disabled t') ↔
      (Mode.hs200.bit.test m.allowed = true ↔ Mode.hs400.bit.test m.allowed = true) := by
    rw [history.hs200Left, history.hs400Left]
    unfold Hs200Left Hs400Left
    rw [failed]
  have allowed : ∀ {mode : Mode}, mode.bit.test m.allowed = true → mode.Allowed reported disabled :=
    fun bit => ((history.left _).mp bit).1
  obtain ⟨bit, notHs400⟩ := select_some chosen
  rw [same]
  rcases Classical.em (mode = .hs200) with hs200 | other
  · rw [hs200] at bit selected
    cases selected with
    | own off =>
      apply iff_of_false
      · intro recorded
        rcases recorded with ⟨mode', single, -⟩
        revert single
        cases mode' <;> decide
      · exact fun both => Bool.false_ne_true (off.symm.trans (both.mp bit))
    | hs400 on => exact iff_of_true ⟨.hs400, by decide, programmed, allowed on⟩ (iff_of_true bit on)
  · have noHs200 : ¬ Mode.hs200.bit.test m.allowed = true := by
      intro hs200
      exact other (Option.some.inj (chosen.symm.trans (select_hs200 hs200)))
    cases selected with
    | own off =>
      exact iff_of_true ⟨mode, test_other other, programmed, allowed bit⟩
        (iff_of_false noHs200 (Bool.eq_false_iff.mp off))
    | hs400 on =>
      apply iff_of_false
      · intro recorded
        rcases recorded with ⟨mode', single, programmed', -⟩
        rw [put_other other] at single
        cases bit_inj single
        exact programming_hs400 notHs400 (Option.some.inj (programmed'.symm.trans programmed))
      · exact fun both => noHs200 (both.mpr on)

/-- The mode loop, if it is left with a mode, records the right one. -/
def AlwaysRecorded (reported disabled : U8) (enhStrobe : Bool) : Prop :=
  ∀ {σ : Type} (host : Host σ) (rca : U16) (cmd : Cmd) (hw : σ) (rounds : Nat),
    wp (mmcModeLoop host rca reported disabled enhStrobe rounds)
      (fun r s => ∀ selected, r = some selected → Recorded reported disabled selected s.trace)
      (fun _ _ => True) { cmd, hw, trace := {} }

/-- For each run: the recorded mode is the one that was programmed exactly when HS200 and HS400 are left
together or not at all. -/
theorem recorded_run (enhStrobe : Bool) (host : Host σ) (rca : U16) (cmd : Cmd) (hw : σ)
    (rounds : Nat) :
    wp (mmcModeLoop host rca reported disabled enhStrobe rounds)
      (fun r s => ∀ selected, r = some selected →
        (Recorded reported disabled selected s.trace ↔
          (Hs200Left reported disabled s.trace ↔ Hs400Left reported disabled s.trace)))
      (fun _ _ => True) { cmd, hw, trace := {} } := by
  have shrinks := mmc_shrinks host rca enhStrobe (History reported disabled)
    (fun selected t => Recorded reported disabled selected t ↔
      (Hs200Left reported disabled t ↔ Hs400Left reported disabled t))
    (fun _ => True) (fun here outcome => here.next outcome)
    (fun here outcome => here.recorded_round outcome) (fun _ _ => trivial)
  apply (retry_keeps shrinks history_first).mono
  · intro r s outcome selected left
    rw [left] at outcome
    exact outcome
  · exact fun _ _ _ => trivial

/-- A mode that is neither HS200 nor HS400 is recorded. -/
theorem alwaysRecorded_of_slower {enhStrobe : Bool} (noHs200 : ¬ Mode.hs200.Allowed reported disabled)
    (rest : ¬ Mode.hs400.Allowed reported disabled ∨
      ∀ mode ∈ slowerModes, ¬ mode.Allowed reported disabled) :
    AlwaysRecorded reported disabled enhStrobe := by
  intro σ host rca cmd hw rounds
  have shrinks := mmc_shrinks host rca enhStrobe (History reported disabled)
    (fun selected t => Recorded reported disabled selected t) (fun _ => True)
    (fun here outcome => here.next outcome)
    (by
      intro m selected t t' here outcome
      rw [here.recorded_round outcome]
      rcases outcome with ⟨mode, chosen, -⟩
      obtain ⟨bit, notHs400⟩ := select_some chosen
      have allowed := ((here.left mode).mp bit).1
      apply iff_of_false (fun left => noHs200 left.1)
      intro left
      rcases rest with noHs400 | noSlower
      · exact noHs400 left.1
      · -- some mode was selected
        have slower : mode ∈ slowerModes := by
          cases mode with
          | hs400 => exact absurd rfl notHs400
          | hs200 => exact absurd allowed noHs200
          | _ => decide
        exact noSlower mode slower allowed)
    (fun _ _ => trivial)
  apply (retry_keeps shrinks history_first).mono
  · intro r s outcome selected left
    rw [left] at outcome
    exact outcome
  · exact fun _ _ _ => trivial

/-- HS200 is recorded together with HS400. -/
theorem hs200_misrecorded {enhStrobe : Bool} (hs200 : Mode.hs200.Allowed reported disabled) :
    wp (mmcModeLoop (obedient true) 1 reported disabled enhStrobe 6)
      (fun r s => ∃ selected, r = some selected ∧ ¬ Recorded reported disabled selected s.trace)
      (fun _ _ => False) { cmd := {}, hw := 0, trace := {} } := by
  have shrinks : Shrinks (mmcModeRound (obedient true) 1 enhStrobe) (fun m => m.candidates.card)
      (fun m s => History reported disabled m s.trace ∧ Mode.hs200.bit.test m.allowed = true)
      (fun selected s => ¬ Recorded reported disabled selected s.trace) (fun _ _ => False) := by
    intro m s here
    have chosen := select_hs200 here.2
    apply ((mmcModeRound_spec (obedient true) 1 enhStrobe m s).and
      (mmcModeRound_obedient enhStrobe chosen s)).mono
    · intro r s' both
      rcases both with ⟨outcome, obeyed⟩
      cases obeyed with
      | refused _ _ failed _ =>
        refine ⟨Finset.card_lt_card (candidates_shrink outcome), here.1.next outcome, ?_⟩
        rw [test_next rfl, here.2]
        show (true && !Mode.hs200.bit.test (Mode.hs200.bit.put Mode.hs200.test false)) = true
        rw [test_bit_hs400]
        rfl
      | hs400 _ obeys _ => cases obeys
      | own off same =>
        intro recorded
        have both := (here.1.recorded_round outcome).mp recorded
        unfold Hs200Left Hs400Left at both
        rw [same.failed] at both
        have hs400 := here.1.hs400Left.mpr (both.mp (here.1.hs200Left.mp here.2))
        exact Bool.false_ne_true (off.symm.trans hs400)
    · exact fun _ _ both => both.2.elim
  apply retry_rule shrinks (Nat.lt_succ_of_le (Modes.card_candidates _))
  exact ⟨history_first, (test_first .hs200).mpr hs200⟩

/-- HS400 is programmed, but the slower mode it was tried with is recorded. -/
theorem hs400_misrecorded {enhStrobe : Bool} (noHs200 : ¬ Mode.hs200.Allowed reported disabled)
    (hs400 : Mode.hs400.Allowed reported disabled) {mode : Mode} (slower : mode ∈ slowerModes)
    (allowed : mode.Allowed reported disabled) :
    wp (mmcModeLoop (obedient false) 1 reported disabled enhStrobe 6)
      (fun r s => ∃ selected, r = some selected ∧ ¬ Recorded reported disabled selected s.trace)
      (fun _ _ => False) { cmd := {}, hw := 0, trace := {} } := by
  have shrinks : Shrinks (mmcModeRound (obedient false) 1 enhStrobe) (fun m => m.candidates.card)
      (fun m s => History reported disabled m s.trace ∧ Mode.hs400.bit.test m.allowed = true ∧
        mode.bit.test m.allowed = true)
      (fun selected s => ¬ Recorded reported disabled selected s.trace) (fun _ _ => False) := by
    intro m s here
    cases chosen : select m.allowed with
    | none =>
      have gone := select_none chosen (slower_other mode slower).1
      exact absurd (gone.symm.trans here.2.2) Bool.false_ne_true
    | some selected =>
      apply ((mmcModeRound_spec (obedient false) 1 enhStrobe m s).and
        (mmcModeRound_obedient enhStrobe chosen s)).mono
      · intro r s' both
        rcases both with ⟨outcome, obeyed⟩
        cases obeyed with
        | refused _ refuses _ _ => cases refuses
        | own off _ => exact absurd (off.symm.trans here.2.1) Bool.false_ne_true
        | hs400 _ _ same =>
          intro recorded
          have both := (here.1.recorded_round outcome).mp recorded
          unfold Hs200Left Hs400Left at both
          rw [same.failed] at both
          exact noHs200 (both.mpr (here.1.hs400Left.mp here.2.1)).1
      · exact fun _ _ both => both.2.elim
  apply retry_rule shrinks (Nat.lt_succ_of_le (Modes.card_candidates _))
  exact ⟨history_first, (test_first .hs400).mpr hs400, (test_first mode).mpr allowed⟩

/-- A run that ends with a mode records the one it has programmed if and only if HS200 and HS400 are
both left, or neither is. So it is with all runs of a device if and only if HS200 is not allowed, and
HS400 is not either or no slower mode is. -/
theorem recorded_iff (reported disabled : U8) (enhStrobe : Bool) :
    (∀ {σ : Type} (host : Host σ) (rca : U16) (cmd : Cmd) (hw : σ) (rounds : Nat),
      wp (mmcModeLoop host rca reported disabled enhStrobe rounds)
        (fun r s => ∀ selected, r = some selected →
          (Recorded reported disabled selected s.trace ↔
            (Hs200Left reported disabled s.trace ↔ Hs400Left reported disabled s.trace)))
        (fun _ _ => True) { cmd, hw, trace := {} }) ∧
    (AlwaysRecorded reported disabled enhStrobe ↔
      ¬ Mode.hs200.Allowed reported disabled ∧
        (¬ Mode.hs400.Allowed reported disabled ∨
          ∀ mode ∈ slowerModes, ¬ mode.Allowed reported disabled)) := by
  apply And.intro
  · intro σ host rca cmd hw rounds
    exact recorded_run enhStrobe host rca cmd hw rounds
  apply Iff.intro
  · intro always
    have clash : ∀ (refuse : Bool), wp (mmcModeLoop (obedient refuse) 1 reported disabled enhStrobe 6)
        (fun r s => ∃ selected, r = some selected ∧ ¬ Recorded reported disabled selected s.trace)
        (fun _ _ => False) { cmd := {}, hw := 0, trace := {} } → False := by
      intro refuse wrong
      apply wp_false
      apply ((always (obedient refuse) 1 {} 0 6).and wrong).mono
      · intro r s both
        obtain ⟨selected, left, misrecorded⟩ := both.2
        exact misrecorded (both.1 selected left)
      · exact fun _ _ both => both.2
    have noHs200 : ¬ Mode.hs200.Allowed reported disabled :=
      fun hs200 => clash true (hs200_misrecorded hs200)
    apply And.intro noHs200
    apply Classical.byContradiction
    intro neither
    obtain ⟨hs400, some⟩ := not_or.mp neither
    apply some
    intro mode slower allowed
    exact clash false (hs400_misrecorded noHs200 (not_not.mp hs400) slower allowed)
  · exact fun condition => alwaysRecorded_of_slower condition.1 condition.2

/-- The property of all runs, for one of them. -/
theorem AlwaysRecorded.after_run {enhStrobe : Bool}
    (always : AlwaysRecorded reported disabled enhStrobe) (host : Host σ) (rca : U16) {cmd : Cmd}
    {hw : σ} {rounds : Nat} {selected : U8}
    (left : (mmcModeLoop host rca reported disabled enhStrobe rounds).run'
      { cmd, hw, trace := {} } = some (some selected)) :
    Recorded reported disabled selected (after (mmcModeLoop host rca reported disabled enhStrobe rounds)
      { cmd, hw, trace := {} }).trace := by
  have kept := always host rca cmd hw rounds
  generalize mmcModeLoop host rca reported disabled enhStrobe rounds = loop at kept left
  unfold wp at kept
  unfold EStateM.run' EStateM.run at left
  unfold after
  cases run : loop { cmd, hw, trace := {} } with
  | ok r s =>
    rw [run] at kept left
    exact kept selected (Option.some.inj left)
  | error e s =>
    rw [run] at left
    cases left

/-- The mode loop of a device without HS400 that carries out every command. -/
def withoutHs400 : PowerUpM U8 Tried (Option U8) := mmcModeLoop (obedient false) 1 0x17 0 false 6

/-- HS200 is programmed, and recorded together with HS400. -/
theorem hs200_recorded_twice :
    withoutHs400.run' { cmd := {}, hw := 0, trace := {} } = some (some 0x50) ∧
      (after withoutHs400 { cmd := {}, hw := 0, trace := {} }).trace.programmed =
        some Mode.hs200.programming ∧
      ¬ Recorded 0x17 0 0x50 (after withoutHs400 { cmd := {}, hw := 0, trace := {} }).trace ∧
      ¬ AlwaysRecorded 0x17 0 false := by
  have left : withoutHs400.run' { cmd := {}, hw := 0, trace := {} } = some (some 0x50) := by
    decide +kernel
  have wrong : ∀ t : Tried, ¬ Recorded 0x17 0 0x50 t := by
    intro t recorded
    rcases recorded with ⟨mode, single, -⟩
    revert single
    cases mode <;> decide
  refine ⟨left, by decide +kernel, wrong _, fun always => wrong _ (always.after_run _ 1 left)⟩

end PowerUp

end Emmc
