import Emmc.Lib.Runs
import Emmc.Sdhci.BusCalls
import Emmc.Sdhci.Kept

/-!
# The settings of the bus

`Settings` is what the device has asked for: for each setting the last call that was about it, or nothing
where that call did not return. The registers say so in every run (`settings_shown`), whatever commands
and interrupts come in between: no call undoes what another one has set.

Two things are not what one may expect. A call of `set_clock_and_timing` that returns leaves automatic
tuning as it was, although it resets tuning for the legacy timing; what a call that throws has set of
timing, clock and tuning is left open. And without a 3.00 or a uSDHC controller, a frequency of zero does
not stop the clock.

An interrupt finds the registers changed, but not in the bits that only the driver sets (`Irq.sparing`).
-/

namespace Emmc

open Throwing

namespace Sdhci

/-! ## Commands and interrupts -/

/-- The interrupt of a controller that leaves the bits of the driver alone. -/
def Irq.sparing (irq : Irq) (h : Hw) : Irq :=
  { irq with regs := fun r => irq.regs r &&& touched false r ||| h.regs r &&& ~~~touched false r }

/-- The interrupt status and the bits that the controller owns may change; what is kept is what the driver
has written. -/
theorem kept_present (irq : Irq) (h : Hw) : (present (irq.sparing h) h).kept false = h.kept false := by
  funext r
  show (irq.regs r &&& touched false r ||| h.regs r &&& ~~~touched false r) &&& ~~~touched false r =
    h.regs r &&& ~~~touched false r
  apply BitVec.eq_of_getLsbD_eq
  intro i bound
  simp only [BitVec.getLsbD_and, BitVec.getLsbD_or, BitVec.getLsbD_not, decide_eq_true bound, Bool.true_and]
  cases (touched false r).getLsbD i <;> simp

/-- What is kept of a command is kept of a tuning command. -/
theorem kept_tuning {h h' : Hw} (same : h'.kept false = h.kept false) : h'.kept true = h.kept true := by
  have less : ∀ r, ~~~touched false r &&& ~~~touched true r = ~~~touched true r := by
    intro r
    cases r with
    | mixCtrl => decide
    | _ => exact BitVec.and_self
  funext r
  have here : h'.regs r &&& ~~~touched false r = h.regs r &&& ~~~touched false r := congrFun same r
  unfold Hw.kept
  rw [← less, ← BitVec.and_assoc, here, BitVec.and_assoc]

variable {type : SdhciType} {b b' : Bus}

/-- The registers of the bus are the same, and so are the bits that commands leave alone. -/
structure Unmoved (tuning : Bool) (b b' : Bus) : Prop where
  regs : b'.regs = b.regs
  ddrActive : b'.ddrActive = b.ddrActive
  sys : b'.clocked.hw.kept tuning = b.clocked.hw.kept tuning

/-- The divider lies in bits that no command touches. -/
theorem divider_congr (ddrActive : Bool) {sc sc' : U32}
    (same : sc' &&& ~~~touched true .sysCtrl = sc &&& ~~~touched true .sysCtrl) :
    divider type ddrActive sc' = divider type ddrActive sc := by
  have sdclkfs := Bitfield.get_congr (f := RegSysCtrl.sdclkfs) (by decide) same
  have dvs := Bitfield.get_congr (f := RegSysCtrl.dvs) (by decide) same
  have clkFreq8 := Bitfield.get_congr (f := RegSysCtrl.clkFreq8) (by decide) same
  have clkFreqMs2 := Bitfield.get_congr (f := RegSysCtrl.clkFreqMs2) (by decide) same
  unfold divider baseDivider RegSysCtrl.clockBaseDivider10 clockDivider RegSysCtrl.clockDividerSdr
    RegSysCtrl.clockDividerDdr
  rw [sdclkfs, dvs, clkFreq8, clkFreqMs2]

/-- A command of tuning may change the bit for automatic tuning; everything else that the registers say
stays. -/
theorem Unmoved.shown (unmoved : Unmoved true b b') :
    b'.shown type = { b.shown type with autoTune := b'.autoTune type } := by
  have mixCtrl : b'.sys .mixCtrl &&& ~~~touched true .mixCtrl = b.sys .mixCtrl &&& ~~~touched true .mixCtrl :=
    congrFun unmoved.sys .mixCtrl
  have hostCtrl2 : b'.sys .hostCtrl2 &&& ~~~touched true .hostCtrl2 =
      b.sys .hostCtrl2 &&& ~~~touched true .hostCtrl2 := congrFun unmoved.sys .hostCtrl2
  have sysCtrl : b'.sys .sysCtrl &&& ~~~touched true .sysCtrl = b.sys .sysCtrl &&& ~~~touched true .sysCtrl :=
    congrFun unmoved.sys .sysCtrl
  have speed : b'.speed type = b.speed type := by
    unfold Bus.speed
    dsimp only
    rw [unmoved.regs, Bitfield.test_congr (f := RegMixCtrl.ddrEn) (by decide) mixCtrl,
      Bitfield.test_congr (f := RegMixCtrl.hs400Mo) (by decide) mixCtrl,
      Bitfield.test_congr (f := RegMixCtrl.enHs400Mo) (by decide) mixCtrl,
      Bitfield.get_congr (f := RegHostCtrl2.uhsmode) (by decide) hostCtrl2]
  unfold Bus.shown Bus.width Bus.v18 Bus.running
  rw [speed, unmoved.regs, unmoved.ddrActive, divider_congr _ sysCtrl,
    Bitfield.test_congr (f := RegHostCtrl2.v18) (by decide) hostCtrl2,
    Bitfield.test_congr (f := RegSysCtrl.sdcen) (by decide) sysCtrl]

/-- What leaves more bits alone leaves fewer alone. -/
theorem Unmoved.tuning (unmoved : Unmoved false b b') : Unmoved true b b' :=
  ⟨unmoved.regs, unmoved.ddrActive, kept_tuning unmoved.sys⟩

/-- Any other command changes nothing of what the registers say. -/
theorem Unmoved.same (unmoved : Unmoved false b b') : b'.shown type = b.shown type := by
  have mixCtrl : b'.sys .mixCtrl &&& ~~~touched false .mixCtrl =
      b.sys .mixCtrl &&& ~~~touched false .mixCtrl := congrFun unmoved.sys .mixCtrl
  have autoTune : b'.autoTune type = b.autoTune type := by
    unfold Bus.autoTune
    rw [Bitfield.test_congr (f := RegMixCtrl.autoTuneEn) (by decide) mixCtrl]
  rw [unmoved.tuning.shown, autoTune]
  rfl

/-! ## A driver that is used -/

/-- What is done with the bus: the calls that set it up, commands, and interrupts for a command. -/
inductive BusOp
  | setBusWidth (width : Mmc.BusWidth)
  | setVoltage (voltage : Mmc.Voltage) (p : Polls)
  | setClockAndTiming (freq : U32) (timing : Mmc.Timing) (strobe : Bool) (p : Polls)
  | resetTuning (p : Polls)
  | enableAutoTuning
  | cmdSubmit (c : Cmd)
  | handleIrq (c : Cmd) (irq : Irq)

/-- A driver function for a command. -/
def onCmd (c : Cmd) (m : Action Hw Unit) : BusM Unit :=
  zoom (fun b => (c, b.clocked.hw)) (fun t b => { b with clocked := { b.clocked with hw := t.2 } }) m

def BusOp.run (s : Sdhci) (hostClock : U32) : BusOp → BusM Unit
  | setBusWidth width => Sdhci.setBusWidth s.type width
  | setVoltage voltage p => Sdhci.setVoltage s.type voltage p
  | setClockAndTiming freq timing strobe p => Sdhci.setClockAndTiming s.type hostClock freq timing strobe p
  | resetTuning p => Sdhci.resetTuning s.type p
  | enableAutoTuning => Sdhci.enableAutoTuning s.type
  | cmdSubmit c => onCmd c s.cmdSubmit
  | handleIrq c irq => do
    modify fun b => { b with
      clocked := { b.clocked with hw := present (irq.sparing b.clocked.hw) b.clocked.hw } }
    onCmd c s.hwOps.handleIrq

/-- What was asked for. `none` where nothing was, or where the call has thrown. -/
structure Settings where
  width : Option Mmc.BusWidth := none
  voltage : Option Mmc.Voltage := none
  timing : Option (Mmc.Timing × Bool) := none
  freq : Option U32 := none
  autoTune : Option Bool := none

/-- What an operation asks for, and whether it has returned. -/
def Settings.next (type : SdhciType) (returned : Bool) (g : Settings) : BusOp → Settings
  | .setBusWidth width => { g with width := if returned then some width else none }
  | .setVoltage voltage _ =>
    -- A voltage of 1.2 V is refused with a message.
    if voltage = .v120 then g else { g with voltage := if returned then some voltage else none }
  | .setClockAndTiming freq timing strobe _ =>
    if !returned then { g with timing := none, freq := none, autoTune := none }
    else if freq = 0 ∧ type = .usdhc then { g with freq := some 0 }
    else { g with timing := some (timing, strobe), freq := some freq }
  | .resetTuning _ => { g with autoTune := some false }
  | .enableAutoTuning => { g with autoTune := some (type = .usdhc) }
  | .cmdSubmit c =>
    if c.isTuning then { g with autoTune := if returned && type = .usdhc then some true else none } else g
  | .handleIrq .. => g

/-- The registers say what was asked for. -/
structure Shows (type : SdhciType) (hostClock : U32) (g : Settings) (s : Shown) : Prop where
  width : ∀ width, g.width = some width → s.width = some width
  voltage : ∀ voltage, g.voltage = some voltage → s.v18 = signal18 type voltage
  speed : ∀ timing strobe, g.timing = some (timing, strobe) → s.speed = speedOf type timing strobe
  ddrActive : ∀ timing strobe, g.timing = some (timing, strobe) → s.ddrActive = ddrTiming timing
  divider : ∀ freq, g.freq = some freq → freq ≠ 0 → Best type hostClock freq s.ddrActive s.divider
  running : ∀ freq, g.freq = some freq → s.running = (decide (freq ≠ 0) || decide (type = .plain))
  autoTune : ∀ on, g.autoTune = some on → s.autoTune = on

/-- A controller and what was asked of it. -/
structure Driven where
  bus : Bus
  settings : Settings := {}

def Driven.step (s : Sdhci) (hostClock : U32) (op : BusOp) (d : Driven) : Driven :=
  match op.run s hostClock d.bus with
  | .ok _ b => { bus := b, settings := d.settings.next s.type true op }
  | .error _ b => { bus := b, settings := d.settings.next s.type false op }

/-! ## One operation -/

section Step

variable {s : Sdhci} {hostClock : U32} {g : Settings}

/-- An operation keeps the agreement on both exits. -/
def Agrees (s : Sdhci) (hostClock : U32) (g : Settings) (op : BusOp) (b : Bus) : Prop :=
  wp (op.run s hostClock)
    (fun _ b' => Shows s.type hostClock (g.next s.type true op) (b'.shown s.type))
    (fun _ b' => Shows s.type hostClock (g.next s.type false op) (b'.shown s.type)) b

/-- The field that is written is the field that is read. -/
theorem agrees_setBusWidth (width : Mmc.BusWidth) (agreed : Shows s.type hostClock g (b.shown s.type)) :
    Agrees s hostClock g (.setBusWidth width) b := by
  apply (setBusWidth_spec s.type width b).imp_ok
  intro _ b' same
  rw [same]
  exact { agreed with width := fun _ here => here }

/-- The firmware or the regulator of the card can refuse; what was signalled by then is left open. -/
theorem agrees_setVoltage (voltage : Mmc.Voltage) (p : Polls)
    (agreed : Shows s.type hostClock g (b.shown s.type)) :
    Agrees s hostClock g (.setVoltage voltage p) b := by
  apply (setVoltage_spec s.type voltage p b).mono
  · intro _ b' same
    rw [same]
    dsimp only [Settings.next]
    by_cases low : voltage = .v120
    · rw [if_pos low, if_pos low]
      exact agreed
    · rw [if_neg low, if_neg low]
      exact { agreed with voltage := fun _ here => by cases here; rfl }
  · intro _ b' post
    obtain ⟨high, only⟩ := post
    dsimp only [Settings.next]
    rw [if_neg high, only]
    exact { agreed with voltage := fun _ absurd => by cases absurd }

/-- Tuning is all that was asked for. -/
theorem Shows.autoTuned {s : Shown} (agreed : Shows type hostClock g s) (on : Bool) :
    Shows type hostClock { g with autoTune := some on } { s with autoTune := on } :=
  { agreed with autoTune := fun _ here => by cases here; rfl }

/-- Automatic tuning is switched off before the poll that can come too late, so it is off on both exits. -/
theorem agrees_resetTuning (p : Polls) (agreed : Shows s.type hostClock g (b.shown s.type)) :
    Agrees s hostClock g (.resetTuning p) b :=
  (resetTuning_spec s.type p b).mono (fun _ b' same => by rw [same]; exact agreed.autoTuned false)
    fun _ b' same => by rw [same]; exact agreed.autoTuned false

theorem agrees_enableAutoTuning (agreed : Shows s.type hostClock g (b.shown s.type)) :
    Agrees s hostClock g .enableAutoTuning b :=
  (enableAutoTuning_spec s.type b).imp_ok fun _ b' same => by rw [same]; exact agreed.autoTuned _

/-- Clock, divider and speed are shown by a call that returns. A call that throws has stopped half way, and
all that it may have touched is left open. -/
theorem agrees_setClockAndTiming (freq : U32) (timing : Mmc.Timing) (strobe : Bool) (p : Polls)
    (agreed : Shows s.type hostClock g (b.shown s.type)) :
    Agrees s hostClock g (.setClockAndTiming freq timing strobe p) b := by
  apply (setClockAndTiming_spec s.type hostClock freq timing strobe p b).mono
  · intro _ b' post
    dsimp only [Settings.next]
    rw [if_neg (by decide)]
    by_cases off : freq = 0 ∧ s.type = .usdhc
    · rw [if_pos off] at post ⊢
      rw [post]
      refine { agreed with divider := ?_, running := ?_ }
      · intro freq here running
        cases here
        exact absurd rfl running
      · intro freq here
        cases here
        rw [off.2]
        rfl
    · rw [if_neg off] at post ⊢
      constructor
      · exact fun width here => post.width.trans (agreed.width width here)
      · exact fun voltage here => post.v18.trans (agreed.voltage voltage here)
      · intro timing strobe here
        cases here
        exact post.speed
      · intro timing strobe here
        cases here
        exact post.ddrActive
      · intro freq here running
        cases here
        rw [post.ddrActive]
        exact post.divider running
      · intro freq here
        cases here
        exact post.running
      · exact fun on here => post.autoTune.trans (agreed.autoTune on here)
  · intro _ b' leaves
    dsimp only [Settings.next]
    rw [if_pos (by decide)]
    constructor
    · exact fun width here => leaves.width.trans (agreed.width width here)
    · exact fun voltage here => leaves.v18.trans (agreed.voltage voltage here)
    all_goals intros; contradiction

/-- A submission writes the registers of the command, with or without a refusal. -/
theorem agrees_cmdSubmit (c : Cmd) (agreed : Shows s.type hostClock g (b.shown s.type)) :
    Agrees s hostClock g (.cmdSubmit c) b := by
  unfold Agrees BusOp.run onCmd
  rw [wp_zoom]
  dsimp only [Settings.next]
  have spec := s.cmdSubmit_kept c b.clocked.hw
  cases tuning : c.isTuning with
  | false =>
    rw [tuning] at spec
    have same : ∀ t : Cmd × Hw, t.2.kept false = b.clocked.hw.kept false →
        Bus.shown s.type { b with clocked := { b.clocked with hw := t.2 } } = b.shown s.type :=
      fun t kept => Unmoved.same ⟨rfl, rfl, kept⟩
    apply spec.mono
    · intro _ t post
      rw [if_neg (by decide), same t post.1]
      exact agreed
    · intro _ t kept
      rw [if_neg (by decide), same t kept]
      exact agreed
  | true =>
    rw [tuning] at spec
    have unmoved : ∀ t : Cmd × Hw, t.2.kept true = b.clocked.hw.kept true →
        Unmoved true b { b with clocked := { b.clocked with hw := t.2 } } := fun t kept => ⟨rfl, rfl, kept⟩
    apply spec.mono
    · intro _ t post
      rw [if_pos rfl, (unmoved t post.1).shown]
      refine { agreed with autoTune := fun on here => ?_ }
      by_cases usdhc : s.type = .usdhc
      · simp only [usdhc, decide_true, Bool.and_self, if_true, Option.some.injEq] at here
        rw [← here]
        unfold Bus.autoTune
        rw [decide_eq_true usdhc, Bool.true_and]
        exact post.2 usdhc tuning
      · simp [usdhc] at here
    · intro _ t kept
      rw [if_pos rfl, (unmoved t kept).shown]
      exact { agreed with autoTune := fun on absurd => by simp at absurd }

/-- So does the handler of interrupts. -/
theorem agrees_handleIrq (c : Cmd) (irq : Irq) (agreed : Shows s.type hostClock g (b.shown s.type)) :
    Agrees s hostClock g (.handleIrq c irq) b := by
  unfold Agrees BusOp.run onCmd
  rw [wp_bind, wp_modify, wp_zoom]
  have same : ∀ t : Cmd × Hw,
      view false t = view false (c, present (irq.sparing b.clocked.hw) b.clocked.hw) →
      Shows s.type hostClock g
        (Bus.shown s.type { b with clocked := { b.clocked with hw := t.2 } }) := by
    intro t spared
    have kept : t.2.kept false = b.clocked.hw.kept false :=
      (congrArg Prod.snd spared).trans (kept_present irq b.clocked.hw)
    have unmoved : Unmoved false b { b with clocked := { b.clocked with hw := t.2 } } := ⟨rfl, rfl, kept⟩
    rw [unmoved.same]
    exact agreed
  exact (s.spares_handleIrq _).mono (fun _ t spared => same t spared) fun _ t spared => same t spared

/-- One case for each operation, on both of its exits. -/
theorem agrees (op : BusOp) (agreed : Shows s.type hostClock g (b.shown s.type)) :
    Agrees s hostClock g op b := by
  cases op with
  | setBusWidth width => exact agrees_setBusWidth width agreed
  | setVoltage voltage p => exact agrees_setVoltage voltage p agreed
  | setClockAndTiming freq timing strobe p => exact agrees_setClockAndTiming freq timing strobe p agreed
  | resetTuning p => exact agrees_resetTuning p agreed
  | enableAutoTuning => exact agrees_enableAutoTuning agreed
  | cmdSubmit c => exact agrees_cmdSubmit c agreed
  | handleIrq c irq => exact agrees_handleIrq c irq agreed

end Step

/-- The invariant of a driver that is used. -/
def Driven.Shows (s : Sdhci) (hostClock : U32) (d : Driven) : Prop :=
  Sdhci.Shows s.type hostClock d.settings (d.bus.shown s.type)

theorem Driven.shows_step (s : Sdhci) (hostClock : U32) (op : BusOp) {d : Driven}
    (agreed : d.Shows s hostClock) : (d.step s hostClock op).Shows s hostClock := by
  have agrees := Sdhci.agrees op agreed
  unfold Driven.step
  unfold Agrees wp at agrees
  cases outcome : op.run s hostClock d.bus with
  | ok _ b => rw [outcome] at agrees; exact agrees
  | error _ b => rw [outcome] at agrees; exact agrees

/-- In every run, whatever the registers were at the beginning, they say what was asked for: the width, the
voltage, the timing, the clock and the tuning of the last calls that were about them. -/
theorem settings_shown (s : Sdhci) (hostClock : U32) (ops : List BusOp) (b : Bus) :
    (Runs.run (Driven.step s hostClock) ops { bus := b }).Shows s hostClock := by
  have nothing : Driven.Shows s hostClock { bus := b } := by
    constructor <;> (intros; contradiction)
  exact Runs.run_invariant (P := fun _ _ => True) (fun op _ here _ => Driven.shows_step s hostClock op here)
    nothing (Runs.along_of_forall (fun _ _ => trivial) _)

end Sdhci

end Emmc
