import Emmc.Sdhci.Setup

/-!
# The calls that set up the bus

Each call changes what it is about and nothing else of what the registers say about the bus, although the
fields share registers. `setClockAndTiming_spec` is the long one; the uSDHC writes the mode bits it has
read before `reset_tuning`, so that automatic tuning is on afterwards if it was on before.
-/

namespace Emmc

open Throwing Search

namespace Sdhci

variable (type : SdhciType)

/-! ## Width, voltage, tuning -/

/-- The field of a uSDHC has a value for each width. -/
theorem busWidth_setBusWidth (raw : U32) (width : Mmc.BusWidth) :
    RegProtCtrl.busWidth (RegProtCtrl.setBusWidth raw width) = some width := by
  have written : RegProtCtrl.dtw.get (RegProtCtrl.setBusWidth raw width) = RegProtCtrl.dtwOf width :=
    (Bitfield.get_set_eq_iff _ _ _).mpr (by cases width <;> decide)
  unfold RegProtCtrl.busWidth
  rw [written]
  cases width <;> rfl

/-- The two bits of an SDHCI controller encode the three widths. -/
theorem hostWidth_setBusWidth (raw : U32) (width : Mmc.BusWidth) :
    RegHostCtrl.busWidth (RegHostCtrl.setBusWidth raw width) = width := by
  cases width <;>
    simp [RegHostCtrl.busWidth, RegHostCtrl.setBusWidth,
      Bitfield.test_put_of_disjoint (f := RegHostCtrl.bbit8) (g := RegHostCtrl.bbit4) (by decide)]

/-- The bit for high speed, in the same register, stays. -/
theorem hispd_setBusWidth (raw : U32) (width : Mmc.BusWidth) :
    RegHostCtrl.hispd.test (RegHostCtrl.setBusWidth raw width) = RegHostCtrl.hispd.test raw := by
  cases width <;>
    simp [RegHostCtrl.setBusWidth,
      Bitfield.test_put_of_disjoint (f := RegHostCtrl.hispd) (g := RegHostCtrl.bbit4) (by decide),
      Bitfield.test_put_of_disjoint (f := RegHostCtrl.hispd) (g := RegHostCtrl.bbit8) (by decide)]

/-- The width that is asked for is the width that is shown, and nothing else changes. -/
theorem setBusWidth_spec (width : Mmc.BusWidth) (b : Bus) :
    wp (setBusWidth type width) (fun _ b' => b'.shown type = { b.shown type with width := some width })
      (fun _ _ => False) b := by
  unfold setBusWidth
  cases type with
  | usdhc => simp [Bus.shown, Bus.width, Bus.v18, Bus.speed, Bus.running, Bus.autoTune, busWidth_setBusWidth]
  | bcm2711 =>
    simp [Bus.shown, Bus.width, Bus.v18, Bus.speed, Bus.running, Bus.autoTune, hostWidth_setBusWidth,
      hispd_setBusWidth]
  | plain =>
    simp [Bus.shown, Bus.width, Bus.v18, Bus.speed, Bus.running, Bus.autoTune, hostWidth_setBusWidth]

/-- The supply of the card has its own fields. -/
theorem hostCtrl_power (raw level : U32) (power : Bool) :
    let powered := RegHostCtrl.busPower.put
      (RegHostCtrl.busPower.put (RegHostCtrl.voltageSel.set raw level) false) power
    RegHostCtrl.busWidth powered = RegHostCtrl.busWidth raw ∧
      RegHostCtrl.hispd.test powered = RegHostCtrl.hispd.test raw := by
  simp (disch := decide) [RegHostCtrl.busWidth, Bitfield.test_put_of_disjoint,
    Bitfield.test_set_of_disjoint]

/-- Only the voltage of the signals has changed, if anything. -/
def VoltageOnly (b b' : Bus) : Prop :=
  b'.shown type = { b.shown type with v18 := (b'.shown type).v18 }

/-- What is shown of the voltage depends on the controller; 1.2 V is refused with a message and changes
nothing. -/
theorem setVoltage_spec (voltage : Mmc.Voltage) (p : Polls) (b : Bus) :
    wp (setVoltage type voltage p)
      (fun _ b' => b'.shown type =
        if voltage = .v120 then b.shown type else { b.shown type with v18 := signal18 type voltage })
      (fun _ b' => voltage ≠ .v120 ∧ VoltageOnly type b b') b := by
  unfold setVoltage
  rw [wp_ite]
  refine ⟨fun invalid => ?_, fun valid => ?_⟩
  · have low : voltage = .v120 := by
      cases voltage with
      | v120 => rfl
      | v180 => exact absurd rfl invalid.2
      | v330 => exact absurd rfl invalid.1
    rw [wp_pure, if_pos low]
  have high : voltage ≠ .v120 := by
    rintro rfl
    exact valid (by decide)
  have same : decide (voltage ≠ .v330) = decide (voltage = .v180) := by
    cases voltage with
    | v120 => exact absurd rfl high
    | v180 => rfl
    | v330 => rfl
  rw [same, if_neg high]
  cases type with
  | plain => rfl
  | usdhc =>
    simp (disch := decide) [Bus.shown, Bus.width, Bus.v18, Bus.speed, Bus.running, Bus.autoTune, signal18,
      Bitfield.test_put_of_disjoint]
  | bcm2711 =>
    unfold setVoltage18
    cases p.mailbox with
    | error e => exact ⟨high, rfl⟩
    | ok _ =>
      have power := hostCtrl_power (b.regs .hostCtrl)
        (if voltage = .v330 then RegHostCtrl.voltage33 else RegHostCtrl.voltage18) true
      simp (disch := decide) [Bus.shown, Bus.width, Bus.v18, Bus.speed, Bus.running, Bus.autoTune,
        signal18, wp_await, VoltageOnly, high, Bus.sys_setSys_self, Bus.sys_setSys_of_ne, power,
        Bitfield.get_put_of_disjoint]

/-- On both exits. -/
theorem resetTuning_spec (p : Polls) (b : Bus) :
    wp (resetTuning type p) (fun _ b' => b'.shown type = { b.shown type with autoTune := false })
      (fun _ b' => b'.shown type = { b.shown type with autoTune := false }) b := by
  unfold resetTuning
  cases type with
  | plain => rfl
  | bcm2711 => rfl
  | usdhc =>
    simp (disch := decide) [Bus.shown, Bus.width, Bus.v18, Bus.speed, Bus.running, Bus.autoTune, wp_await,
      Bus.sys_setSys_self, Bus.sys_setSys_of_ne, Bitfield.test_put_of_disjoint]

/-- Only a uSDHC tunes by itself. -/
theorem enableAutoTuning_spec (b : Bus) :
    wp (enableAutoTuning type)
      (fun _ b' => b'.shown type = { b.shown type with autoTune := decide (type = .usdhc) })
      (fun _ _ => False) b := by
  unfold enableAutoTuning
  cases type with
  | plain => rfl
  | bcm2711 => rfl
  | usdhc =>
    simp (disch := decide) [Bus.shown, Bus.width, Bus.v18, Bus.speed, Bus.running, Bus.autoTune,
      Bus.sys_setSys_self, Bus.sys_setSys_of_ne, Bitfield.test_put_of_disjoint]

/-! ## The clock -/

/-- The clock of the card is not gated in `Sys_ctrl`. -/
def sdcenOn (regs : Regs → U32) : Bool := RegSysCtrl.sdcen.test (regs .sysCtrl)

/-- `Sys_ctrl` is all that was written. -/
def SysCtrlOnly (regs regs' : Regs → U32) : Prop := ∀ r, r ≠ .sysCtrl → regs' r = regs r

/-- The clock runs again when its divider was written. -/
theorem sdcen_usdhcEnabled (sc preDiv div : U32) :
    RegSysCtrl.sdcen.test (usdhcEnabled sc preDiv div) = true := by
  simp (disch := decide) [usdhcEnabled, Bitfield.test_set_of_disjoint]

/-- The divider of a uSDHC is written without a poll that could fail. -/
theorem programUsdhc_spec (preDiv div : U32) (t : Clocked) :
    wp (programUsdhc preDiv div)
      (fun _ t' => SysCtrlOnly t.hw.regs t'.hw.regs ∧ sdcenOn t'.hw.regs = true) (fun _ _ => False) t := by
  refine ⟨fun r other => ?_, ?_⟩
  · show Function.update (Function.update t.hw.regs .sysCtrl _) .sysCtrl _ r = _
    rw [Function.update_of_ne other, Function.update_of_ne other]
  · exact sdcen_usdhcEnabled _ _ _

/-- The divider of version 3.00 waits for a stable clock, and throws when it does not come. -/
theorem programBase10_spec (freq div : U32) (stable : Bool) (t : Clocked) :
    wp (programBase10 freq div stable)
      (fun _ t' => SysCtrlOnly t.hw.regs t'.hw.regs ∧ sdcenOn t'.hw.regs = true)
      (fun _ t' => SysCtrlOnly t.hw.regs t'.hw.regs) t := by
  cases stable with
  | true =>
    refine ⟨fun r other => ?_, Bitfield.test_put_self _ _ _⟩
    show Function.update (Function.update (Function.update t.hw.regs .sysCtrl _) .sysCtrl _) .sysCtrl _ r = _
    rw [Function.update_of_ne other, Function.update_of_ne other, Function.update_of_ne other]
  | false =>
    intro r other
    show Function.update (Function.update t.hw.regs .sysCtrl _) .sysCtrl _ r = _
    rw [Function.update_of_ne other, Function.update_of_ne other]

/-- Only the version 3.00 controller stops the clock when the frequency is zero. -/
theorem setClock_gate {hostClock freq : U32} {ddrActive stable : Bool} {m : ClockM Unit}
    (found : setClock type hostClock freq ddrActive stable = some m) (t : Clocked) :
    wp m
      (fun _ t' => SysCtrlOnly t.hw.regs t'.hw.regs ∧
        sdcenOn t'.hw.regs = (decide (freq ≠ 0) || decide (type ≠ .bcm2711)))
      (fun _ t' => SysCtrlOnly t.hw.regs t'.hw.regs) t := by
  have usdhc : setClockUsdhc hostClock freq ddrActive = some m →
      wp m (fun _ t' => SysCtrlOnly t.hw.regs t'.hw.regs ∧ sdcenOn t'.hw.regs = true)
        (fun _ t' => SysCtrlOnly t.hw.regs t'.hw.regs) t := by
    intro found
    obtain ⟨⟨preDiv, div⟩, -, same⟩ := Option.bind_eq_some_iff.mp found
    change some (programUsdhc preDiv div) = some m at same
    cases same
    exact (programUsdhc_spec preDiv div t).imp_ok fun _ _ post => post
  cases type with
  | plain => simpa using usdhc found
  | usdhc => simpa using usdhc found
  | bcm2711 =>
    unfold setClock setClockBase10 at found
    simp only at found
    split at found
    · rename_i stopped
      cases found
      refine ⟨fun r other => ?_, ?_⟩
      · show Function.update t.hw.regs .sysCtrl _ r = _
        rw [Function.update_of_ne other]
      · simp only [stopped, ne_eq, not_true_eq_false, decide_false, Bool.or_self]
        exact BitVec.getLsbD_zero
    · rename_i running
      obtain ⟨div, -, same⟩ := Option.bind_eq_some_iff.mp found
      change some (programBase10 freq div stable) = some m at same
      cases same
      have on : decide (freq ≠ 0) = true := decide_eq_true running
      rw [on, Bool.true_or]
      exact programBase10_spec freq div stable t

/-- What the divider is to be. -/
def Best (hostClock freq : U32) (ddrActive : Bool) (divider : U32) : Prop :=
  LeastOrLast (Slow hostClock freq) (candidates type ddrActive) divider.toNat

/-- The registers of `set_clock`, which writes `Sys_ctrl`. -/
structure ClockSet (b b' : Bus) : Prop where
  regs : b'.regs = b.regs
  ddrActive : b'.ddrActive = b.ddrActive
  sys : SysCtrlOnly b.sys b'.sys

/-- The divider is the best one for the frequency, by the search of `set_clock`; a frequency of zero stops
the clock of a bcm2711. -/
theorem setClockNow_spec (hostClock freq : U32) (p : Polls) (b : Bus) :
    wp (setClockNow type hostClock freq p)
      (fun _ b' => ClockSet b b' ∧
        (freq ≠ 0 → Best type hostClock freq b.ddrActive (divider type b'.ddrActive (b'.sys .sysCtrl))) ∧
        sdcenOn b'.sys = (decide (freq ≠ 0) || decide (type ≠ .bcm2711)))
      (fun _ b' => ClockSet b b') b := by
  have isSome := setClock_isSome type hostClock freq b.ddrActive p.stable
  obtain ⟨m, found⟩ := Option.isSome_iff_exists.mp isSome
  have same : (setClock type hostClock freq b.ddrActive p.stable).get isSome = m :=
    Option.get_of_eq_some isSome found
  have best : wp m
      (fun _ t' => freq ≠ 0 → Best type hostClock freq b.ddrActive
        (divider type b.ddrActive (t'.hw.regs .sysCtrl))) (fun _ _ => True) b.clocked := by
    by_cases stopped : freq = 0
    · exact (wp_any m _).imp fun _ _ _ running => absurd stopped running
    · obtain ⟨m', found', spec⟩ := setClock_spec type hostClock stopped b.ddrActive p.stable
      rw [found] at found'
      cases found'
      exact (spec b.clocked).mono (fun _ _ best _ => best) fun _ _ _ => trivial
  unfold setClockNow onClock
  rw [wp_bind, wp_get, wp_zoom, same]
  exact (best.and (setClock_gate type found b.clocked)).mono
    (fun _ _ post => ⟨⟨rfl, rfl, post.2.1⟩, post.1, post.2.2⟩) (fun _ _ post => ⟨rfl, rfl, post.2⟩)

/-! ## The timing -/

/-- Only a uSDHC gates its clock. -/
theorem clockDisable_spec (p : Polls) (b : Bus) :
    wp (clockDisable type p)
      (fun _ b' => b'.shown type =
        { b.shown type with running := (b.shown type).running && decide (type ≠ .usdhc) })
      (fun _ b' => b'.shown type =
        { b.shown type with running := (b.shown type).running && decide (type ≠ .usdhc) }) b := by
  unfold clockDisable
  cases type with
  | plain => simp [Bus.shown]
  | bcm2711 => simp [Bus.shown]
  | usdhc =>
    simp (disch := decide) [Bus.shown, Bus.width, Bus.v18, Bus.speed, Bus.running, Bus.autoTune, wp_await,
      Bitfield.test_put_of_disjoint]

/-- The speed of a bcm2711 is a single field. -/
theorem setTimingBcm2711_spec (timing : Mmc.Timing) (strobe : Bool) (b : Bus) :
    wp (setTimingBcm2711 timing)
      (fun _ b' => b'.shown .bcm2711 = { b.shown .bcm2711 with speed := speedOf .bcm2711 timing strobe })
      (fun _ _ => False) b := by
  have written : ∀ raw, RegHostCtrl2.uhsmode.get (RegHostCtrl2.uhsmode.set raw (uhsmodeOf timing)) =
      uhsmodeOf timing :=
    fun raw => (Bitfield.get_set_eq_iff _ _ _).mpr (by cases timing <;> decide)
  unfold setTimingBcm2711
  simp (disch := decide) [Bus.shown, Bus.width, Bus.v18, Bus.speed, Bus.running, Bus.autoTune, speedOf,
    written, Bus.sys_setSys_self, Bus.sys_setSys_of_ne, RegHostCtrl.busWidth, Bitfield.test_put_of_disjoint,
    Bitfield.test_set_of_disjoint]

/-- Width and voltage are not touched. -/
structure Leaves (b b' : Bus) : Prop where
  width : b'.width type = b.width type
  v18 : b'.v18 type = b.v18 type

variable {type} in
/-- Two calls that leave width and voltage alone leave them alone together. -/
theorem Leaves.trans {b b' b'' : Bus} (first : Leaves type b b') (second : Leaves type b' b'') :
    Leaves type b b'' :=
  ⟨second.width.trans first.width, second.v18.trans first.v18⟩

variable {type} in
/-- What is shown decides. -/
theorem Leaves.of_shown {b b' : Bus} (width : (b'.shown type).width = (b.shown type).width)
    (v18 : (b'.shown type).v18 = (b.shown type).v18) : Leaves type b b' :=
  ⟨width, v18⟩

/-- For each timing, the bits that make up a speed are all written. -/
theorem setTimingUsdhc_spec (timing : Mmc.Timing) (strobe : Bool) (p : Polls) (b : Bus) :
    wp (setTimingUsdhc timing strobe p)
      (fun _ b' => b'.shown .usdhc = { b.shown .usdhc with speed := speedOf .usdhc timing strobe } ∧
        sdcenOn b'.sys = sdcenOn b.sys)
      (fun _ b' => Leaves .usdhc b b') b := by
  unfold setTimingUsdhc
  cases timing with
  | mmcHs400 =>
    unfold setStrobeDll
    cases strobe <;>
      simp (disch := decide) [Bus.shown, Bus.width, Bus.v18, Bus.speed, Bus.running, Bus.autoTune, wp_await,
        speedOf, ddrTiming, assign, sdcenOn, Bus.sys_setSys_self, Bus.sys_setSys_of_ne,
        Bitfield.test_put_of_disjoint] <;>
      intro _ <;> exact ⟨rfl, rfl⟩
  | legacy =>
    unfold resetTuning
    simp (disch := decide) [Bus.shown, Bus.width, Bus.v18, Bus.speed, Bus.running, Bus.autoTune, wp_await,
      speedOf, ddrTiming, assign, sdcenOn, Bus.sys_setSys_self, Bus.sys_setSys_of_ne,
      Bitfield.test_put_of_disjoint]
    intro _
    exact ⟨rfl, rfl⟩
  | _ =>
    simp (disch := decide) [Bus.shown, Bus.width, Bus.v18, Bus.speed, Bus.running, Bus.autoTune,
      speedOf, ddrTiming, assign, sdcenOn, Bus.sys_setSys_self, Bus.sys_setSys_of_ne,
      Bitfield.test_put_of_disjoint]

/-- Behind the change of the timing, the clock runs as the system register says. -/
theorem clockEnable_spec (p : Polls) (b : Bus) :
    wp (clockEnable type p)
      (fun _ b' => b'.shown type = { b.shown type with
        running := if type = .usdhc then sdcenOn b.sys else (b.shown type).running })
      (fun _ b' => Leaves type b b') b := by
  unfold clockEnable
  cases type with
  | plain => simp
  | bcm2711 => simp
  | usdhc =>
    simp (disch := decide) [Bus.shown, Bus.width, Bus.v18, Bus.speed, Bus.running, Bus.autoTune, wp_await,
      sdcenOn, Bitfield.test_put_of_disjoint]
    intro _
    constructor <;> simp (disch := decide) [Bus.width, Bus.v18, Bitfield.test_put_of_disjoint]

variable {type} in
/-- Setting the divider changes nothing that is shown but the clock. -/
theorem ClockSet.shown {b b' : Bus} (set : ClockSet b b') :
    b'.shown type = { b.shown type with
      divider := divider type b'.ddrActive (b'.sys .sysCtrl)
      running := b'.running type } := by
  have mixCtrl := set.sys .mixCtrl (by decide)
  have hostCtrl2 := set.sys .hostCtrl2 (by decide)
  unfold Bus.shown Bus.width Bus.v18 Bus.speed Bus.autoTune
  rw [set.regs, set.ddrActive, mixCtrl, hostCtrl2]

/-- Told the timing before the clock is set. -/
theorem told_spec (timing : Mmc.Timing) (strobe : Bool) (b : Bus) :
    wp (if type = .bcm2711 then setTimingBcm2711 timing else return ())
      (fun _ b' => b'.shown type = { b.shown type with
        speed := if type = .bcm2711 then speedOf type timing strobe else (b.shown type).speed })
      (fun _ _ => False) b := by
  cases type with
  | plain => exact rfl
  | usdhc => exact rfl
  | bcm2711 => exact setTimingBcm2711_spec timing strobe b

variable {type} in
/-- Only the uSDHC has another gate. -/
theorem running_eq (notUsdhc : type ≠ .usdhc) (b : Bus) : (b.shown type).running = sdcenOn b.sys := by
  simp [Bus.shown, Bus.running, sdcenOn, notUsdhc]

/-- What is left of `set_clock_and_timing` when the clock is set and is not to be off. -/
theorem switched_spec (timing : Mmc.Timing) (strobe : Bool) (p : Polls) (b : Bus)
    (speed : type ≠ .usdhc → (b.shown type).speed = speedOf type timing strobe) :
    wp (do
        (if type = .usdhc then setTimingUsdhc timing strobe p else return ())
        clockEnable type p)
      (fun _ b' => b'.shown type =
        { b.shown type with speed := speedOf type timing strobe, running := sdcenOn b.sys })
      (fun _ b' => Leaves type b b') b := by
  have other : type ≠ .usdhc → wp (clockEnable type p)
      (fun _ b' => b'.shown type =
        { b.shown type with speed := speedOf type timing strobe, running := sdcenOn b.sys })
      (fun _ b' => Leaves type b b') b := by
    intro notUsdhc
    apply (clockEnable_spec type p b).imp
    intro _ b' same
    rw [same, if_neg notUsdhc, running_eq notUsdhc, ← speed notUsdhc]
  cases type with
  | plain => exact other (by decide)
  | bcm2711 => exact other (by decide)
  | usdhc =>
    rw [if_pos rfl, wp_bind]
    apply (setTimingUsdhc_spec timing strobe p b).imp
    intro _ b₁ post
    obtain ⟨same, gate⟩ := post
    have leaves : Leaves .usdhc b b₁ := .of_shown (by rw [same]) (by rw [same])
    apply (clockEnable_spec .usdhc p b₁).mono
    · intro _ b₂ enabled
      rw [enabled, if_pos rfl, same, gate]
    · exact fun _ _ enabled => leaves.trans enabled

/-- What `set_clock_and_timing` leaves behind, unless it only stops the clock. The divider is the best one
for the frequency. -/
structure Timed (hostClock freq : U32) (timing : Mmc.Timing) (strobe : Bool) (s s' : Shown) : Prop where
  width : s'.width = s.width
  v18 : s'.v18 = s.v18
  autoTune : s'.autoTune = s.autoTune
  speed : s'.speed = speedOf type timing strobe
  ddrActive : s'.ddrActive = ddrTiming timing
  divider : freq ≠ 0 → Best type hostClock freq (ddrTiming timing) s'.divider
  running : s'.running = (decide (freq ≠ 0) || decide (type = .plain))

/-- The three parts one behind the other: the gate, the timing, and the clock at the end. A uSDHC with
frequency zero stops behind the gate. -/
theorem setClockAndTiming_spec (hostClock freq : U32) (timing : Mmc.Timing) (strobe : Bool) (p : Polls)
    (b : Bus) :
    wp (setClockAndTiming type hostClock freq timing strobe p)
      (fun _ b' =>
        if freq = 0 ∧ type = .usdhc then b'.shown type = { b.shown type with running := false }
        else Timed type hostClock freq timing strobe (b.shown type) (b'.shown type))
      (fun _ b' => Leaves type b b') b := by
  unfold setClockAndTiming
  rw [wp_bind]
  apply (clockDisable_spec type p b).mono
  · intro _ b₁ disabled
    have leaves₁ : Leaves type b b₁ := .of_shown (by rw [disabled]) (by rw [disabled])
    rw [wp_ite]
    refine ⟨fun off => ?_, fun on => ?_⟩
    · rw [wp_pure, if_pos off, disabled, off.2]
      simp
    rw [wp_bind, wp_modify, wp_bind]
    apply (told_spec type timing strobe _).imp_ok
    intro _ b₂ told
    have leaves₂ : Leaves type b b₂ := leaves₁.trans (.of_shown (by rw [told]; rfl) (by rw [told]; rfl))
    have speed : type ≠ .usdhc → (b₂.shown type).speed = speedOf type timing strobe := by
      intro notUsdhc
      rw [told]
      cases type with
      | plain => rfl
      | usdhc => exact absurd rfl notUsdhc
      | bcm2711 => rfl
    rw [wp_bind]
    apply (setClockNow_spec type hostClock freq p b₂).mono
    · intro _ b₃ post
      obtain ⟨set, best, gate⟩ := post
      have leaves₃ : Leaves type b b₃ := leaves₂.trans (.of_shown (by rw [set.shown]) (by rw [set.shown]))
      have ddrActive : b₂.ddrActive = ddrTiming timing := congrArg Shown.ddrActive told
      have autoTune : (b₃.shown type).autoTune = (b.shown type).autoTune := by
        have before : b₁.autoTune type = b.autoTune type := congrArg Shown.autoTune disabled
        rw [set.shown, told]
        exact before
      rw [ddrActive] at best
      rw [wp_ite]
      refine ⟨fun stopped => ?_, fun running => ?_⟩
      · have notUsdhc : type ≠ .usdhc := fun usdhc => on ⟨stopped, usdhc⟩
        rw [wp_pure, if_neg on]
        refine ⟨leaves₃.width, leaves₃.v18, autoTune, ?_, set.ddrActive.trans ddrActive, best, ?_⟩
        · rw [set.shown]
          exact speed notUsdhc
        · rw [running_eq notUsdhc, gate, stopped]
          cases type with
          | plain => rfl
          | usdhc => exact absurd rfl notUsdhc
          | bcm2711 => rfl
      · have speed₃ : type ≠ .usdhc → (b₃.shown type).speed = speedOf type timing strobe := by
          intro notUsdhc
          rw [set.shown]
          exact speed notUsdhc
        apply (switched_spec type timing strobe p b₃ speed₃).mono
        · intro _ b₄ switched
          rw [if_neg on, switched]
          refine ⟨leaves₃.width, leaves₃.v18, autoTune, rfl, set.ddrActive.trans ddrActive, best, ?_⟩
          rw [gate, decide_eq_true running]
          rfl
        · exact fun _ _ leaves => leaves₃.trans leaves
    · exact fun _ b₃ set => leaves₂.trans (.of_shown (by rw [set.shown]) (by rw [set.shown]))
  · exact fun _ b₁ disabled => .of_shown (by rw [disabled]) (by rw [disabled])

end Sdhci

end Emmc
