import Emmc.PowerUp.Mmc

/-!
# The mode of an SD card

`power_up_sd` asks the card which access modes it knows (CMD6, check function) and tries the fastest one
that card and controller support and that is not disabled. When tuning fails, the mode is disabled and the
next slower one is tried. The status block of the check function is copied to `sf`; those of the set
functions are only left in the I/O buffer.

* `sdModeRound`: one iteration of the mode loop.
* `sdNegotiate`: from the check function to the end of `power_up_sd`.
* `SdEvent`: the status blocks that the card returned, and what came of them.
* `Going`, `Ended`: the traces of a negotiation.
-/

namespace Emmc

open Throwing

namespace Mmc

/-! ## CMD6 of SD cards -/

namespace ArgCmd6SwitchFunc

def mode : Bitfield 32 := .bit 31
def grp6 : Bitfield 32 := { lsb := 20, msb := 23 }
def grp5 : Bitfield 32 := { lsb := 16, msb := 19 }
def grp4PowerLimit : Bitfield 32 := { lsb := 12, msb := 15 }
def grp3DriveStrength : Bitfield 32 := { lsb := 8, msb := 11 }
def grp2CmdSystem : Bitfield 32 := { lsb := 4, msb := 7 }
def grp1AccMode : Bitfield 32 := { lsb := 0, msb := 3 }

def checkFunction : U32 := 0
def setFunction : U32 := 1

def dontChange : U32 := 0xf

def grp4Default : U32 := 0x0
def grp4_144w : U32 := 0x1
def grp4_216w : U32 := 0x2
def grp4_288w : U32 := 0x3
def grp4_180w : U32 := 0x4

def grp1Sdr12 : U32 := 0x0
def grp1Sdr25 : U32 := 0x1
def grp1Sdr50 : U32 := 0x2
def grp1Sdr104 : U32 := 0x3
def grp1Ddr50 : U32 := 0x4

/-- The argument after `reset`. -/
def reset : U32 :=
  let raw := grp1AccMode.set 0 dontChange
  let raw := grp2CmdSystem.set raw dontChange
  let raw := grp3DriveStrength.set raw dontChange
  let raw := grp4PowerLimit.set raw dontChange
  let raw := grp5.set raw dontChange
  let raw := grp6.set raw dontChange
  mode.set raw checkFunction

end ArgCmd6SwitchFunc

namespace ArgAcmd6SdSetBusWidth

def busWidth : Bitfield 32 := { lsb := 0, msb := 1 }

def busWidth4bit : U32 := 2

end ArgAcmd6SdSetBusWidth

/-- The words of a CMD6 status block that are looked at. -/
structure RegSwitchFunc where
  raw11 : U32
  raw12 : U32
  raw14 : U32
deriving DecidableEq, Repr

namespace RegSwitchFunc

/-- The word `i` of the block, whose 64 bytes are put in reverse order. -/
def word (bytes : Nat → U8) (i : Nat) : U32 :=
  let byte (k : Nat) : U32 := (bytes (63 - (4 * i + k))).setWidth 32
  byte 0 ||| byte 1 <<< 8 ||| byte 2 <<< 16 ||| byte 3 <<< 24

def ofBytes (bytes : Nat → U8) : RegSwitchFunc :=
  { raw11 := word bytes 11, raw12 := word bytes 12, raw14 := word bytes 14 }

variable (sf : RegSwitchFunc)

def funSelGrp1Field : Bitfield 32 := { lsb := 24, msb := 27 }
def funSelGrp4Field : Bitfield 32 := { lsb := 4, msb := 7 }

def funSelGrp1 : U32 := funSelGrp1Field.get sf.raw11
def funSelGrp4 : U32 := funSelGrp4Field.get sf.raw12

def accModeSdr12 : Bool := (.bit 16 : Bitfield 32).test sf.raw12
def accModeSdr25 : Bool := (.bit 17 : Bitfield 32).test sf.raw12
def accModeSdr50 : Bool := (.bit 18 : Bitfield 32).test sf.raw12
def accModeSdr104 : Bool := (.bit 19 : Bitfield 32).test sf.raw12
def accModeDdr50 : Bool := (.bit 20 : Bitfield 32).test sf.raw12

def powerLimit144w : Bool := (.bit 1 : Bitfield 32).test sf.raw14
def powerLimit216w : Bool := (.bit 2 : Bitfield 32).test sf.raw14
def powerLimit288w : Bool := (.bit 3 : Bitfield 32).test sf.raw14
def powerLimit180w : Bool := (.bit 4 : Bitfield 32).test sf.raw14

def invalidFunction : U32 := 0xf

end RegSwitchFunc

end Mmc

namespace PowerUp

open Mmc

/-- The modes the loop chooses from; `hs` when there is no other one. -/
inductive SdMode
  | sdr104
  | ddr50
  | sdr50
  | sdr25
  | sdr12
  | hs
deriving DecidableEq, Repr

namespace SdMode

def timing : SdMode → Timing
  | sdr104 => .uhsSdr104
  | ddr50 => .uhsDdr50
  | sdr50 => .uhsSdr50
  | sdr25 => .uhsSdr25
  | sdr12 => .uhsSdr12
  | hs => .hs

def accMode : SdMode → U32
  | sdr104 => ArgCmd6SwitchFunc.grp1Sdr104
  | ddr50 => ArgCmd6SwitchFunc.grp1Ddr50
  | sdr50 => ArgCmd6SwitchFunc.grp1Sdr50
  | sdr25 => ArgCmd6SwitchFunc.grp1Sdr25
  | sdr12 => ArgCmd6SwitchFunc.grp1Sdr12
  | hs => ArgCmd6SwitchFunc.grp1Sdr12

def freq : SdMode → U32
  | sdr104 => 208 * mHz
  | ddr50 => 50 * mHz
  | sdr50 => 100 * mHz
  | sdr25 => 50 * mHz
  | sdr12 => 25 * mHz
  | hs => 25 * mHz

/-- Modes that need signals of 1.8 V. -/
def needsV18 : SdMode → Bool
  | sdr104 => true
  | ddr50 => true
  | sdr50 => true
  | sdr25 => false
  | sdr12 => false
  | hs => false

/-- The card knows the access mode. -/
def supported (sf : RegSwitchFunc) : SdMode → Bool
  | sdr104 => sf.accModeSdr104
  | ddr50 => sf.accModeDdr50
  | sdr50 => sf.accModeSdr50
  | sdr25 => sf.accModeSdr25
  | sdr12 => sf.accModeSdr12
  | hs => true

end SdMode

inductive SdEvent
  /-- The check function was executed, with this status block. -/
  | checked (status : RegSwitchFunc)
  /-- The power limit was set, with this status block. -/
  | powerSet (status : RegSwitchFunc)
  /-- "Invalid function trying to set power" was thrown. -/
  | powerRejected
  /-- The access mode was set, with this status block. -/
  | modeSet (status : RegSwitchFunc)
  /-- "Invalid function trying to set mode" was thrown. -/
  | modeRejected
  /-- The controller was set to the timing of the mode. -/
  | timingSet (freq : U32) (timing : Timing)
deriving DecidableEq, Repr

abbrev SdM (σ : Type) := PowerUpM σ (List SdEvent)

variable {σ : Type} (host : Host σ) (rca : U16) (v18 hasBus4bit : Bool) (sf : RegSwitchFunc)

/-- The condition of the branch that selects the mode. -/
def sdAllowed (disable : U32) (mode : SdMode) : Bool :=
  (!mode.needsV18 || v18) && host.suppUhsTimings mode.timing && mode.supported sf &&
    disable &&& mode.timing.bits = 0

def sdSelect (disable : U32) : SdMode :=
  if sdAllowed host v18 sf disable .sdr104 then .sdr104
  else if sdAllowed host v18 sf disable .ddr50 then .ddr50
  else if sdAllowed host v18 sf disable .sdr50 then .sdr50
  else if sdAllowed host v18 sf disable .sdr25 then .sdr25
  else if sdAllowed host v18 sf disable .sdr12 then .sdr12
  else .hs

/-- `a6_power` -/
def sdPowerLimit : U32 :=
  if host.suppPowerLimit .power288w && sf.powerLimit288w then ArgCmd6SwitchFunc.grp4_288w
  else if host.suppPowerLimit .power216w && sf.powerLimit216w then ArgCmd6SwitchFunc.grp4_216w
  else if host.suppPowerLimit .power180w && sf.powerLimit180w then ArgCmd6SwitchFunc.grp4_180w
  else if host.suppPowerLimit .power144w && sf.powerLimit144w then ArgCmd6SwitchFunc.grp4_144w
  else ArgCmd6SwitchFunc.grp4Default

/-- The mode needs tuning: SDR50 only if the controller demands it. -/
def SdMode.needsTuning : SdMode → Bool
  | sdr104 => true
  | ddr50 => true
  | sdr50 => host.needsTuningSdr50
  | _ => false

/-- CMD6 with the I/O buffer; the result is the status block. -/
def switchFunc (arg : U32) (text : String) : SdM σ RegSwitchFunc := do
  initData host cmd6SwitchFunc arg 64 host.ioVirt
  cmdExec host
  checkError text
  return RegSwitchFunc.ofBytes (host.ioBuf (← get).hw)

/-- Bus width, also for HS. -/
def sdSetBusWidth : SdM σ Unit := do
  if hasBus4bit then
    mmcAppCmd host rca acmd6SetBusWidth
      (ArgAcmd6SdSetBusWidth.busWidth.set 0 ArgAcmd6SdSetBusWidth.busWidth4bit)
    checkError "ACMD6: SET_BUS_WIDTH"
    onHw (host.setBusWidth .width4bit)

/-- Allowed power consumption. What is tested is the status block of the check function. -/
def sdSetPower (mode : SdMode) : SdM σ Unit := do
  if mode ≠ .hs ∧ sdPowerLimit host sf ≠ ArgCmd6SwitchFunc.grp4Default then
    let a6 := ArgCmd6SwitchFunc.grp4PowerLimit.set ArgCmd6SwitchFunc.reset (sdPowerLimit host sf)
    let a6 := ArgCmd6SwitchFunc.mode.set a6 ArgCmd6SwitchFunc.setFunction
    let status ← switchFunc host a6 "CMD6: SWITCH_FUCN/SET_POWER"
    note (.powerSet status :: ·)
    if sf.funSelGrp4 = RegSwitchFunc.invalidFunction then
      note (.powerRejected :: ·)
      throw ⟨-L4.einval, "Invalid function trying to set power"⟩

/-- Set the access mode of the card, then the timing of the controller. What is tested is the status
block of the check function. -/
def sdSetMode (mode : SdMode) : SdM σ Unit := do
  let a6 := ArgCmd6SwitchFunc.grp1AccMode.set ArgCmd6SwitchFunc.reset mode.accMode
  let a6 := ArgCmd6SwitchFunc.mode.set a6 ArgCmd6SwitchFunc.setFunction
  let status ← switchFunc host a6 "CMD6: SWITCH_FUNC/SET_MODE"
  note (.modeSet status :: ·)
  if sf.funSelGrp1 = RegSwitchFunc.invalidFunction then
    note (.modeRejected :: ·)
    throw ⟨-L4.einval, "Invalid function trying to set mode"⟩
  note (.timingSet mode.freq mode.timing :: ·)
  onHw (host.setClockAndTiming mode.freq mode.timing false)

/-- One iteration of the mode loop: it goes on with another `_device_type_disable.sd`, or leaves the loop
with `_sd_timing`. -/
def sdModeRound (disable : U32) : SdM σ (U32 ⊕ Timing) := do
  let mode := sdSelect host v18 sf disable
  sdSetBusWidth host rca hasBus4bit
  sdSetPower host sf mode
  sdSetMode host sf mode
  if mode.needsTuning host then
    onHw host.resetTuning
    if ← tune host cmd19SendTuningBlock maxTuningLoops then
      onHw host.enableAutoTuning
      return .inr mode.timing
    else
      onHw (host.setClockAndTiming (400 * kHz) .legacy false)
      return .inl (disable ||| mode.timing.bits)
  else
    return .inr mode.timing

/-- The card is apparently already in 1.8 V mode. -/
def sdSwitchVoltage : SdM σ Unit := do
  onHw (host.delay 2)
  onHw (host.setClockAndTiming 0 .legacy false)
  onHw (host.setVoltage .v180)
  onHw (host.delay 5)
  onHw (host.setClockAndTiming (400 * kHz) .uhsSdr12 false)
  onHw (host.delay 5)
  if ← onHw host.cardBusy then
    throw ⟨-L4.einval, "Still busy after set voltage"⟩
  onHw (host.delay 5)

/-- `power_up_sd` from the check function on, the mode loop left to itself for a number of iterations. -/
def sdNegotiate (disable : U32) (rounds : Nat) : SdM σ (Option Timing) := do
  let a6 := ArgCmd6SwitchFunc.grp1AccMode.set ArgCmd6SwitchFunc.reset ArgCmd6SwitchFunc.grp1Sdr12
  let a6 := ArgCmd6SwitchFunc.mode.set a6 ArgCmd6SwitchFunc.checkFunction
  let sf ← switchFunc host a6 "CMD6: SWITCH_FUNC/GET"
  note (.checked sf :: ·)
  if !v18 && (sf.accModeSdr104 || sf.accModeDdr50 || sf.accModeSdr50) then
    sdSwitchVoltage host
    retry (sdModeRound host rca true hasBus4bit sf) rounds disable
  else
    retry (sdModeRound host rca v18 hasBus4bit sf) rounds disable

/-! ## Traces -/

/-- The trace of a negotiation that goes on, the last event first. -/
inductive Going (sf : RegSwitchFunc) : List SdEvent → Prop
  | checked : Going sf [.checked sf]
  | power {t : List SdEvent} (status : RegSwitchFunc) (going : Going sf t)
    (valid : sf.funSelGrp4 ≠ RegSwitchFunc.invalidFunction) : Going sf (.powerSet status :: t)
  | mode {t : List SdEvent} (status : RegSwitchFunc) (freq : U32) (timing : Timing)
    (going : Going sf t) (valid : sf.funSelGrp1 ≠ RegSwitchFunc.invalidFunction) :
    Going sf (.timingSet freq timing :: .modeSet status :: t)

/-- The trace of a negotiation that threw. -/
inductive Ended (sf : RegSwitchFunc) : List SdEvent → Prop
  | going {t : List SdEvent} (going : Going sf t) : Ended sf t
  | power {t : List SdEvent} (status : RegSwitchFunc) (going : Going sf t)
    (invalid : sf.funSelGrp4 = RegSwitchFunc.invalidFunction) :
    Ended sf (.powerRejected :: .powerSet status :: t)
  | mode {t : List SdEvent} (status : RegSwitchFunc) (going : Going sf t)
    (invalid : sf.funSelGrp1 = RegSwitchFunc.invalidFunction) :
    Ended sf (.modeRejected :: .modeSet status :: t)

theorem silent_switchFunc (arg : U32) (text : String) : Silent (switchFunc host arg text) := by
  apply (silent_initData host _ _ _ _).bind
  intro _
  apply (silent_cmdExec host).bind
  intro _
  apply (silent_checkError _).bind
  intro _
  exact Relates.get_bind fun _ => Relates.pure _

theorem silent_sdSetBusWidth : Silent (sdSetBusWidth host rca hasBus4bit) := by
  apply Relates.ite _ (Relates.pure ())
  apply (silent_mmcAppCmd host rca _ _).bind
  intro _
  apply (silent_checkError _).bind
  intro _
  exact silent_onHw _

theorem silent_sdSwitchVoltage : Silent (sdSwitchVoltage host) := by
  apply (silent_onHw _).bind
  intro _
  apply (silent_onHw _).bind
  intro _
  apply (silent_onHw _).bind
  intro _
  apply (silent_onHw _).bind
  intro _
  apply (silent_onHw _).bind
  intro _
  apply (silent_onHw _).bind
  intro _
  apply (silent_onHw _).bind
  intro _
  exact Relates.ite ((Relates.throw _).bind fun _ => silent_onHw _) (silent_onHw _)

/-- A computation that does not write to the trace of a negotiation. -/
theorem Silent.going {α : Type} {m : SdM σ α} (silent : Silent m) {s : PowerUp σ (List SdEvent)}
    (going : Going sf s.trace) :
    wp m (fun _ s' => Going sf s'.trace) (fun _ s' => Ended sf s'.trace) s := by
  apply silent.keep
  · intro _ s' same
    rw [same]
    exact going
  · intro _ s' same
    rw [same]
    exact Ended.going going

/-- Whether the power limit counts as refused is looked up in the status of the check, not in that of the
switch. -/
theorem sdSetPower_spec (mode : SdMode) {s : PowerUp σ (List SdEvent)} (going : Going sf s.trace) :
    wp (sdSetPower host sf mode) (fun _ s' => Going sf s'.trace) (fun _ s' => Ended sf s'.trace) s := by
  unfold sdSetPower
  rw [wp_ite]
  apply And.intro
  · intro _
    apply ((silent_switchFunc host _ _).going sf going).bind
    intro status s₁ going₁
    rw [wp_bind, wp_note, wp_ite]
    apply And.intro
    · exact fun invalid => Ended.power status going₁ invalid
    · exact fun valid => Going.power status going₁ valid
  · exact fun _ => going

/-- The same for the mode. -/
theorem sdSetMode_spec (mode : SdMode) {s : PowerUp σ (List SdEvent)} (going : Going sf s.trace) :
    wp (sdSetMode host sf mode) (fun _ s' => Going sf s'.trace) (fun _ s' => Ended sf s'.trace) s := by
  unfold sdSetMode
  apply ((silent_switchFunc host _ _).going sf going).bind
  intro status s₁ going₁
  simp only [wp_bind, wp_note, wp_ite, wp_throw]
  apply And.intro
  · exact fun invalid => Ended.mode status going₁ invalid
  · intro valid
    exact (silent_onHw _).going sf (Going.mode status mode.freq mode.timing going₁ valid)

/-- An iteration that goes on has been refused nothing. -/
theorem sdModeRound_spec (disable : U32) {s : PowerUp σ (List SdEvent)} (going : Going sf s.trace) :
    wp (sdModeRound host rca v18 hasBus4bit sf disable) (fun _ s' => Going sf s'.trace)
      (fun _ s' => Ended sf s'.trace) s := by
  unfold sdModeRound
  generalize sdSelect host v18 sf disable = mode
  simp only []
  apply ((silent_sdSetBusWidth host rca hasBus4bit).going sf going).bind
  intro _ s₁ going₁
  apply (sdSetPower_spec host sf mode going₁).bind
  intro _ s₂ going₂
  apply (sdSetMode_spec host sf mode going₂).bind
  intro _ s₃ going₃
  apply Silent.going sf _ going₃
  apply Relates.ite _ (Relates.pure _)
  apply (silent_onHw _).bind
  intro _
  apply (silent_tune host _ _).bind
  intro success
  apply Relates.ite
  · exact (silent_onHw _).bind fun _ => Relates.pure _
  · exact (silent_onHw _).bind fun _ => Relates.pure _

/-- An iteration goes on after tuning for the mode that was selected has failed. -/
theorem sdModeRound_continues (disable : U32) (s : PowerUp σ (List SdEvent)) :
    wp (sdModeRound host rca v18 hasBus4bit sf disable)
      (fun r _ => ∀ disable', r = .inl disable' →
        (sdSelect host v18 sf disable).needsTuning host = true ∧
          disable' = disable ||| (sdSelect host v18 sf disable).timing.bits)
      (fun _ _ => True) s := by
  unfold sdModeRound
  generalize sdSelect host v18 sf disable = mode
  apply wp_second
  intro _ s₁
  apply wp_second
  intro _ s₂
  apply wp_second
  intro _ s₃
  rw [wp_ite]
  apply And.intro
  · intro tuned
    apply wp_second
    intro _ s₄
    apply wp_second
    intro success s₅
    rw [wp_ite]
    apply And.intro
    · intro _
      apply wp_second
      exact fun _ _ _ absurd => nomatch absurd
    · intro _
      apply wp_second
      exact fun _ _ disable' next => ⟨tuned, (Sum.inl.inj next).symm⟩
  · exact fun _ _ absurd => nomatch absurd

/-! ## Termination -/

/-- The modes an iteration can choose from. -/
def sdCandidates (disable : U32) : Finset SdMode :=
  ({.sdr104, .ddr50, .sdr50, .sdr25, .sdr12} : Finset SdMode).filter fun mode =>
    sdAllowed host v18 sf disable mode = true

/-- The candidates are the modes that can be selected by their own right: HS is what remains. -/
theorem mem_sdCandidates {disable : U32} {mode : SdMode} :
    mode ∈ sdCandidates host v18 sf disable ↔ mode ≠ .hs ∧ sdAllowed host v18 sf disable mode = true := by
  unfold sdCandidates
  rw [Finset.mem_filter]
  apply and_congr_left'
  cases mode <;> decide

/-- There are five modes besides HS. -/
theorem card_sdCandidates (disable : U32) : (sdCandidates host v18 sf disable).card ≤ 5 :=
  Finset.card_filter_le _ _

/-- What is selected is allowed, unless it is HS. -/
theorem sdSelect_allowed {disable : U32} (other : sdSelect host v18 sf disable ≠ .hs) :
    sdAllowed host v18 sf disable (sdSelect host v18 sf disable) = true := by
  unfold sdSelect at other ⊢
  split
  · assumption
  split
  · assumption
  split
  · assumption
  split
  · assumption
  split
  · assumption
  · rename_i sdr104 ddr50 sdr50 sdr25 sdr12
    rw [if_neg sdr104, if_neg ddr50, if_neg sdr50, if_neg sdr25, if_neg sdr12] at other
    exact absurd rfl other

/-- Disabling more allows less. -/
theorem sdAllowed_of_or {disable more : U32} {mode : SdMode}
    (allowed : sdAllowed host v18 sf (disable ||| more) mode = true) :
    sdAllowed host v18 sf disable mode = true := by
  unfold sdAllowed at allowed ⊢
  rw [Bool.and_eq_true_iff, decide_eq_true_iff] at allowed ⊢
  have none := allowed.2
  rw [BitVec.and_or_distrib_right] at none
  exact ⟨allowed.1, (BitVec.or_eq_zero_iff.mp none).1⟩

/-- A mode that was disabled is not allowed any more. -/
theorem sdAllowed_disabled {disable : U32} {mode : SdMode} (other : mode ≠ .hs) :
    sdAllowed host v18 sf (disable ||| mode.timing.bits) mode = false := by
  have nonzero : mode.timing.bits ≠ 0 := by
    cases mode <;> decide
  have some : ¬ (disable ||| mode.timing.bits) &&& mode.timing.bits = 0 := by
    intro none
    rw [BitVec.and_or_distrib_right, BitVec.and_self] at none
    exact nonzero (BitVec.or_eq_zero_iff.mp none).2
  unfold sdAllowed
  rw [decide_eq_false some, Bool.and_false]

/-- Only modes besides HS are tuned, and only a failed tuning goes on. -/
theorem needsTuning_other {mode : SdMode} (tuned : mode.needsTuning host = true) : mode ≠ .hs := by
  intro same
  rw [same] at tuned
  cases tuned

/-- With each `continue` there is a mode less to choose from. -/
theorem sdCandidates_shrink {disable : U32}
    (tuned : (sdSelect host v18 sf disable).needsTuning host = true) :
    sdCandidates host v18 sf (disable ||| (sdSelect host v18 sf disable).timing.bits) ⊂
      sdCandidates host v18 sf disable := by
  have other := needsTuning_other host tuned
  have allowed := sdSelect_allowed host v18 sf other
  apply Finset.ssubset_iff_of_subset _ |>.mpr
  · refine ⟨sdSelect host v18 sf disable, (mem_sdCandidates host v18 sf).mpr ⟨other, allowed⟩, ?_⟩
    rw [mem_sdCandidates, sdAllowed_disabled host v18 sf other]
    exact fun absurd => Bool.false_ne_true absurd.2
  · intro mode member
    rw [mem_sdCandidates] at member ⊢
    exact ⟨member.1, sdAllowed_of_or host v18 sf member.2⟩

/-- An iteration that goes on disables the mode that it has tried, and so has one candidate less. -/
theorem sdModeRound_shrinks (disable : U32) (s : PowerUp σ (List SdEvent)) :
    wp (sdModeRound host rca v18 hasBus4bit sf disable)
      (fun r _ => ∀ disable', r = .inl disable' →
        sdCandidates host v18 sf disable' ⊂ sdCandidates host v18 sf disable)
      (fun _ _ => True) s := by
  apply (sdModeRound_continues host rca v18 hasBus4bit sf disable s).mono
  · intro r s' continues disable' next
    obtain ⟨tuned, same⟩ := continues disable' next
    rw [same]
    exact sdCandidates_shrink host v18 sf tuned
  · exact fun _ _ _ => trivial

/-- Whatever an iteration keeps carries through the loop, which ends. -/
theorem sd_shrinks {inv : PowerUp σ (List SdEvent) → Prop}
    {thrown : RuntimeError → PowerUp σ (List SdEvent) → Prop}
    (round : ∀ disable s, inv s →
      wp (sdModeRound host rca v18 hasBus4bit sf disable) (fun _ s' => inv s') thrown s) :
    Shrinks (sdModeRound host rca v18 hasBus4bit sf) (fun d => (sdCandidates host v18 sf d).card)
      (fun _ s => inv s) (fun _ s => inv s) thrown := by
  intro disable s here
  apply ((round disable s here).and (sdModeRound_shrinks host rca v18 hasBus4bit sf disable s)).mono
  · intro r s' both
    cases r with
    | inl disable' => exact ⟨Finset.card_lt_card (both.2 disable' rfl), both.1⟩
    | inr timing => exact both.1
  · exact fun _ _ both => both.1

/-- The loop therefore ends, whatever the card answers. -/
theorem sd_ends :
    Shrinks (sdModeRound host rca v18 hasBus4bit sf) (fun d => (sdCandidates host v18 sf d).card)
      (fun _ _ => True) (fun _ _ => True) (fun _ _ => True) :=
  sd_shrinks host rca v18 hasBus4bit sf fun _ s _ => wp_any _ s

/-- For the same reason the mode loop of an eMMC device ends. -/
theorem mmc_ends (enhStrobe : Bool) :
    Shrinks (mmcModeRound host rca enhStrobe) (fun m => m.candidates.card)
      (fun _ _ => True) (fun _ _ => True) (fun _ _ => True) :=
  mmc_shrinks host rca enhStrobe (fun _ _ => True) (fun _ _ => True) (fun _ => True)
    (fun _ _ => trivial) (fun _ _ => trivial) (fun _ _ => trivial)

theorem mmcModeRound_shrinks (enhStrobe : Bool) (m : Modes) (s : PowerUp σ Tried) :
    wp (mmcModeRound host rca enhStrobe m)
      (fun r _ => ∀ m', r = .inl m' → m'.candidates ⊂ m.candidates) (fun _ _ => True) s := by
  apply (mmcModeRound_spec host rca enhStrobe m s).mono
  · intro r s' outcome m' next
    rw [next] at outcome
    exact candidates_shrink outcome
  · exact fun _ _ _ => trivial

/-- More than six iterations change nothing. -/
theorem sd_rounds (disable : U32) (more : Nat) :
    retry (sdModeRound host rca v18 hasBus4bit sf) (more + 6) disable =
      retry (sdModeRound host rca v18 hasBus4bit sf) 6 disable := by
  funext s
  exact retry_enough (sd_ends host rca v18 hasBus4bit sf)
    (Nat.lt_succ_of_le (card_sdCandidates host v18 sf disable)) (Nat.le_add_left 6 more) trivial

/-- Six rounds are enough: with more of them the loop does the same. -/
theorem mmc_rounds (reported disabled : U8) (enhStrobe : Bool) (more : Nat) :
    mmcModeLoop host rca reported disabled enhStrobe (more + 6) =
      mmcModeLoop host rca reported disabled enhStrobe 6 := by
  funext s
  exact retry_enough (mmc_ends host rca enhStrobe)
    (Nat.lt_succ_of_le (Modes.card_candidates _)) (Nat.le_add_left 6 more) trivial

/-- And so they are for SD cards. -/
theorem sdNegotiate_rounds (disable : U32) (more : Nat) :
    sdNegotiate host rca v18 hasBus4bit disable (more + 6) =
      sdNegotiate host rca v18 hasBus4bit disable 6 := by
  unfold sdNegotiate
  simp only [sd_rounds]

/-- The loop is left by a result or by an exception, never by running out of rounds. -/
theorem mmcModeLoop_left (reported disabled : U8) (enhStrobe : Bool) (s : PowerUp σ Tried) :
    wp (mmcModeLoop host rca reported disabled enhStrobe 6) (fun r _ => r.isSome = true)
      (fun _ _ => True) s := by
  apply (retry_rule (mmc_ends host rca enhStrobe)
    (Nat.lt_succ_of_le (Modes.card_candidates _)) trivial).mono
  · intro r s' left
    rcases left with ⟨selected, same, -⟩
    rw [same]
    rfl
  · exact fun _ _ _ => trivial

/-- The same for SD cards. -/
theorem sdNegotiate_left (disable : U32) (s : PowerUp σ (List SdEvent)) :
    wp (sdNegotiate host rca v18 hasBus4bit disable 6) (fun r _ => r.isSome = true)
      (fun _ _ => True) s := by
  have loop : ∀ (v18 : Bool) (sf : RegSwitchFunc) (s : PowerUp σ (List SdEvent)),
      wp (retry (sdModeRound host rca v18 hasBus4bit sf) 6 disable) (fun r _ => r.isSome = true)
        (fun _ _ => True) s := by
    intro v18 sf s
    apply (retry_rule (sd_ends host rca v18 hasBus4bit sf)
      (Nat.lt_succ_of_le (card_sdCandidates host v18 sf disable)) trivial).mono
    · intro r s' left
      rcases left with ⟨timing, same, -⟩
      rw [same]
      rfl
    · exact fun _ _ _ => trivial
  unfold sdNegotiate
  apply wp_second
  intro sf s₁
  apply wp_second
  intro _ s₂
  rw [wp_ite]
  apply And.intro
  · intro _
    apply wp_second
    exact fun _ s₃ => loop true sf s₃
  · exact fun _ => loop v18 sf s₂

/-- Each iteration of a mode loop that goes on leaves fewer modes to the next one. The loops are left
within six iterations, or throw, and it makes no difference how many more they are allowed. -/
theorem mode_loops_end :
    (∀ (enhStrobe : Bool) (m : Modes) (s : PowerUp σ Tried),
      wp (mmcModeRound host rca enhStrobe m)
        (fun r _ => ∀ m', r = .inl m' → m'.candidates ⊂ m.candidates) (fun _ _ => True) s) ∧
    (∀ (v18 hasBus4bit : Bool) (sf : RegSwitchFunc) (disable : U32) (s : PowerUp σ (List SdEvent)),
      wp (sdModeRound host rca v18 hasBus4bit sf disable)
        (fun r _ => ∀ disable', r = .inl disable' →
          sdCandidates host v18 sf disable' ⊂ sdCandidates host v18 sf disable)
        (fun _ _ => True) s) ∧
    (∀ (reported disabled : U8) (enhStrobe : Bool),
      (∀ s, wp (mmcModeLoop host rca reported disabled enhStrobe 6) (fun r _ => r.isSome = true)
        (fun _ _ => True) s) ∧
      ∀ more, mmcModeLoop host rca reported disabled enhStrobe (more + 6) =
        mmcModeLoop host rca reported disabled enhStrobe 6) ∧
    (∀ (v18 hasBus4bit : Bool) (disable : U32),
      (∀ s, wp (sdNegotiate host rca v18 hasBus4bit disable 6) (fun r _ => r.isSome = true)
        (fun _ _ => True) s) ∧
      ∀ more, sdNegotiate host rca v18 hasBus4bit disable (more + 6) =
        sdNegotiate host rca v18 hasBus4bit disable 6) := by
  apply And.intro
  · exact mmcModeRound_shrinks host rca
  apply And.intro
  · exact sdModeRound_shrinks host rca
  apply And.intro
  · intro reported disabled enhStrobe
    exact ⟨mmcModeLoop_left host rca reported disabled enhStrobe,
      mmc_rounds host rca reported disabled enhStrobe⟩
  · intro v18 hasBus4bit disable
    exact ⟨sdNegotiate_left host rca v18 hasBus4bit disable,
      sdNegotiate_rounds host rca v18 hasBus4bit disable⟩

end PowerUp

end Emmc
