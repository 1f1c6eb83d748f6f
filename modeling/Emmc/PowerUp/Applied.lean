import Emmc.PowerUp.Sd

/-!
# What an SD card has accepted

A set function reports in its own status block whether the card has carried it out. `power_up_sd` tests
the block of the check function again instead, which it has copied to `sf`.

* `TimingsAccepted`, `PowerRejected`: what a trace should look like.
* `Consistent`: the blocks of the set functions say the same as that of the check function.
* `applied_iff`: when the trace of a negotiation looks as it should.
-/

namespace Emmc

open Throwing

namespace PowerUp

open Mmc

variable {σ : Type} {sf : RegSwitchFunc}

theorem Going.powers {t : List SdEvent} (going : Going sf t) {status : RegSwitchFunc}
    (member : .powerSet status ∈ t) : sf.funSelGrp4 ≠ RegSwitchFunc.invalidFunction := by
  induction going with
  | checked => simp at member
  | power status' going valid ih => exact valid
  | mode status' freq timing going valid ih =>
    apply ih
    simpa using member

theorem Going.modes {t : List SdEvent} (going : Going sf t) {status : RegSwitchFunc}
    (member : .modeSet status ∈ t) : sf.funSelGrp1 ≠ RegSwitchFunc.invalidFunction := by
  induction going with
  | checked => simp at member
  | power status' going valid ih =>
    apply ih
    simpa using member
  | mode status' freq timing going valid ih => exact valid

theorem Going.checks {t : List SdEvent} (going : Going sf t) {status : RegSwitchFunc} :
    .checked status ∈ t ↔ status = sf := by
  induction going with
  | checked => simp
  | power status' going valid ih => simpa using ih
  | mode status' freq timing going valid ih => simpa using ih

theorem Going.not_rejected {t : List SdEvent} (going : Going sf t) : .powerRejected ∉ t := by
  induction going with
  | checked => simp
  | power status' going valid ih => simpa using ih
  | mode status' freq timing going valid ih => simpa using ih

/-- Whatever timing is set, the access mode was set just before. -/
theorem Going.before_timing {t : List SdEvent} (going : Going sf t) {front rest : List SdEvent}
    {freq : U32} {timing : Timing} (split : t = front ++ .timingSet freq timing :: rest) :
    ∃ status earlier, rest = .modeSet status :: earlier ∧ .modeSet status ∈ t := by
  induction going generalizing front with
  | checked =>
    cases front with
    | nil => cases split
    | cons event front => simp at split
  | power status going valid ih =>
    cases front with
    | nil => cases split
    | cons event front =>
      obtain ⟨status', earlier, before, member⟩ := ih (List.cons.inj split).2
      exact ⟨status', earlier, before, List.mem_cons_of_mem _ member⟩
  | @mode t status freq' timing' going valid ih =>
    cases front with
    | nil =>
      have rest : SdEvent.modeSet status :: t = rest := (List.cons.inj split).2
      exact ⟨status, t, rest.symm, List.mem_cons_of_mem _ List.mem_cons_self⟩
    | cons event front =>
      have later := (List.cons.inj split).2
      cases front with
      | nil => cases later
      | cons event' front =>
        obtain ⟨status', earlier, before, member⟩ := ih (List.cons.inj later).2
        exact ⟨status', earlier, before, List.mem_cons_of_mem _ (List.mem_cons_of_mem _ member)⟩

/-- Once the access mode was set, the timing is. -/
theorem Going.timing_behind {t : List SdEvent} (going : Going sf t) {status : RegSwitchFunc}
    (member : .modeSet status ∈ t) :
    ∃ front freq timing earlier, t = front ++ .timingSet freq timing :: .modeSet status :: earlier := by
  induction going with
  | checked => simp at member
  | power status' going valid ih =>
    have older := List.mem_of_ne_of_mem (fun same => SdEvent.noConfusion same) member
    obtain ⟨front, freq, timing, earlier, split⟩ := ih older
    exact ⟨.powerSet status' :: front, freq, timing, earlier, congrArg _ split⟩
  | @mode t status' freq' timing' going valid ih =>
    have either : status = status' ∨ .modeSet status ∈ t := by
      simpa using member
    rcases either with same | older
    · rw [same]
      exact ⟨[], freq', timing', t, rfl⟩
    · obtain ⟨front, freq, timing, earlier, split⟩ := ih older
      exact ⟨.timingSet freq' timing' :: .modeSet status' :: front, freq, timing, earlier,
        congrArg (fun t => SdEvent.timingSet freq' timing' :: .modeSet status' :: t) split⟩

/-- The controller is set to a timing only if the status block of the very command that set the access
mode reports a valid function. -/
def TimingsAccepted (t : List SdEvent) : Prop :=
  ∀ front freq timing rest, t = front ++ .timingSet freq timing :: rest →
    ∃ status earlier, rest = .modeSet status :: earlier ∧
      status.funSelGrp1 ≠ RegSwitchFunc.invalidFunction

/-- A power limit whose own status block reports an invalid function is rejected, which ends the
negotiation. -/
def PowerRejected (threw : Bool) (t : List SdEvent) : Prop :=
  ∀ front status rest, t = front ++ .powerSet status :: rest →
    status.funSelGrp4 = RegSwitchFunc.invalidFunction → threw = true ∧ front = [.powerRejected]

/-- The status blocks of the set functions report no invalid function, unless that of the check function
does. -/
def Consistent (t : List SdEvent) : Prop :=
  ∀ sf, .checked sf ∈ t →
    (sf.funSelGrp1 ≠ RegSwitchFunc.invalidFunction → ∀ status, .modeSet status ∈ t →
      status.funSelGrp1 ≠ RegSwitchFunc.invalidFunction) ∧
    (sf.funSelGrp4 ≠ RegSwitchFunc.invalidFunction → ∀ status, .powerSet status ∈ t →
      status.funSelGrp4 ≠ RegSwitchFunc.invalidFunction)

def ModesValid (t : List SdEvent) : Prop :=
  ∀ status, .modeSet status ∈ t → status.funSelGrp1 ≠ RegSwitchFunc.invalidFunction

def PowersValid (t : List SdEvent) : Prop :=
  ∀ status, .powerSet status ∈ t → status.funSelGrp4 ≠ RegSwitchFunc.invalidFunction

theorem Going.timings_iff {t : List SdEvent} (going : Going sf t) :
    TimingsAccepted t ↔ ModesValid t := by
  apply Iff.intro
  · intro accepted status member
    obtain ⟨front, freq, timing, earlier, split⟩ := going.timing_behind member
    obtain ⟨status', earlier', same, valid⟩ := accepted front freq timing _ split
    cases same
    exact valid
  · intro valid front freq timing rest split
    obtain ⟨status, earlier, before, member⟩ := going.before_timing split
    exact ⟨status, earlier, before, valid status member⟩

theorem Going.powers_iff {t : List SdEvent} (going : Going sf t) (threw : Bool) :
    PowerRejected threw t ↔ PowersValid t := by
  apply Iff.intro
  · intro rejected status member invalid
    obtain ⟨front, rest, split⟩ := List.append_of_mem member
    have front := (rejected front status rest split invalid).2
    apply going.not_rejected
    rw [split, front]
    exact List.mem_cons_self
  · intro valid front status rest split invalid
    have member : .powerSet status ∈ t := by
      rw [split]
      exact List.mem_append_right _ List.mem_cons_self
    exact absurd invalid (valid status member)

theorem consistent_iff {t : List SdEvent} (checks : ∀ {status}, .checked status ∈ t ↔ status = sf) :
    Consistent t ↔
      (sf.funSelGrp1 ≠ RegSwitchFunc.invalidFunction → ModesValid t) ∧
        (sf.funSelGrp4 ≠ RegSwitchFunc.invalidFunction → PowersValid t) := by
  apply Iff.intro
  · exact fun consistent => consistent sf (checks.mpr rfl)
  · intro valid sf' member
    rw [checks.mp member]
    exact valid

/-- Without a valid group 1, no access mode was accepted. -/
theorem Going.modes_iff {t : List SdEvent} (going : Going sf t) :
    (sf.funSelGrp1 ≠ RegSwitchFunc.invalidFunction → ModesValid t) ↔ ModesValid t :=
  ⟨fun valid status member => valid (going.modes member) status member, fun valid _ => valid⟩

theorem Going.limits_iff {t : List SdEvent} (going : Going sf t) :
    (sf.funSelGrp4 ≠ RegSwitchFunc.invalidFunction → PowersValid t) ↔ PowersValid t :=
  ⟨fun valid status member => valid (going.powers member) status member, fun valid _ => valid⟩

theorem Going.sound_iff {t : List SdEvent} (going : Going sf t) (threw : Bool) :
    TimingsAccepted t ∧ PowerRejected threw t ↔ Consistent t := by
  rw [going.timings_iff, going.powers_iff, consistent_iff going.checks, going.modes_iff,
    going.limits_iff]

/-- The last two events say nothing about timings. -/
theorem timings_cons {first second : SdEvent} (other : ∀ freq timing, first ≠ .timingSet freq timing)
    (other' : ∀ freq timing, second ≠ .timingSet freq timing) (t : List SdEvent) :
    TimingsAccepted (first :: second :: t) ↔ TimingsAccepted t := by
  apply Iff.intro
  · intro accepted front freq timing rest split
    exact accepted (first :: second :: front) freq timing rest
      (congrArg (fun t => first :: second :: t) split)
  · intro accepted front freq timing rest split
    cases front with
    | nil => exact absurd (List.cons.inj split).1 (other freq timing)
    | cons event front =>
      have later := (List.cons.inj split).2
      cases front with
      | nil => exact absurd (List.cons.inj later).1 (other' freq timing)
      | cons event' front => exact accepted front freq timing rest (List.cons.inj later).2

/-- The power limit was rejected, which ended the negotiation. -/
theorem rejected_last {t : List SdEvent} (none : ∀ {status}, .powerSet status ∉ t)
    (status : RegSwitchFunc) : PowerRejected true (.powerRejected :: .powerSet status :: t) := by
  intro front status' rest split _
  apply And.intro rfl
  cases front with
  | nil => cases split
  | cons event front =>
    obtain ⟨same, later⟩ := List.cons.inj split
    cases front with
    | nil => rw [← same]
    | cons event' front =>
      have member : .powerSet status' ∈ t := by
        rw [(List.cons.inj later).2]
        exact List.mem_append_right _ List.mem_cons_self
      exact absurd member none

/-- The power limits before the rejected access mode. -/
theorem powers_before {t : List SdEvent} (status : RegSwitchFunc) :
    PowerRejected true (.modeRejected :: .modeSet status :: t) ↔ PowersValid t := by
  apply Iff.intro
  · intro rejected status' member invalid
    obtain ⟨front, rest, split⟩ := List.append_of_mem member
    have whole := congrArg (fun t => SdEvent.modeRejected :: .modeSet status :: t) split
    have front := (rejected (.modeRejected :: .modeSet status :: front) status' rest whole invalid).2
    cases front
  · intro valid front status' rest split invalid
    have member : .powerSet status' ∈ t := by
      have anywhere : SdEvent.powerSet status' ∈ .modeRejected :: .modeSet status :: t := by
        rw [split]
        exact List.mem_append_right _ List.mem_cons_self
      simpa using anywhere
    exact absurd invalid (valid status' member)

theorem Ended.sound_iff {t : List SdEvent} (ended : Ended sf t) :
    TimingsAccepted t ∧ PowerRejected true t ↔ Consistent t := by
  cases ended with
  | going going => exact going.sound_iff true
  | @power t status going invalid =>
    have none : ∀ {status}, .powerSet status ∉ t := fun member => going.powers member invalid
    have checks : ∀ {status'}, .checked status' ∈ SdEvent.powerRejected :: .powerSet status :: t ↔
        status' = sf := by
      intro status'
      simpa using going.checks
    have modes : ModesValid (.powerRejected :: .powerSet status :: t) ↔ ModesValid t := by
      unfold ModesValid
      simp only [List.mem_cons, reduceCtorEq, false_or]
    rw [timings_cons (by intro _ _ same; cases same) (by intro _ _ same; cases same), going.timings_iff,
      and_iff_left (rejected_last none status), consistent_iff checks, modes, going.modes_iff]
    exact (and_iff_left fun valid => absurd invalid valid).symm
  | @mode t status going invalid =>
    have checks : ∀ {status'}, .checked status' ∈ SdEvent.modeRejected :: .modeSet status :: t ↔
        status' = sf := by
      intro status'
      simpa using going.checks
    have powers : PowersValid (.modeRejected :: .modeSet status :: t) ↔ PowersValid t := by
      unfold PowersValid
      simp only [List.mem_cons, reduceCtorEq, false_or]
    have accepted : ModesValid t := fun status member => absurd invalid (going.modes member)
    rw [timings_cons (by intro _ _ same; cases same) (by intro _ _ same; cases same), going.timings_iff,
      powers_before, consistent_iff checks, powers, going.limits_iff]
    exact and_congr_left' (iff_of_true accepted fun valid => absurd invalid valid)

/-! ## Negotiations -/

variable (host : Host σ) (rca : U16) (v18 hasBus4bit : Bool)

/-- The mode loop, whatever is returned by the check function. -/
theorem sdLoop_sound (disable : U32) (rounds : Nat) {s : PowerUp σ (List SdEvent)}
    (going : Going sf s.trace) :
    wp (retry (sdModeRound host rca v18 hasBus4bit sf) rounds disable)
      (fun _ s' => Going sf s'.trace) (fun _ s' => Ended sf s'.trace) s := by
  have shrinks := sd_shrinks host rca v18 hasBus4bit sf
    fun disable s going => sdModeRound_spec host rca v18 hasBus4bit sf disable going
  apply (retry_keeps shrinks going).mono
  · intro r s' left
    cases r with
    | none =>
      rcases left with ⟨disable', going'⟩
      exact going'
    | some timing => exact left
  · exact fun _ _ ended => ended

theorem sdNegotiate_sound (disable : U32) (rounds : Nat) {s : PowerUp σ (List SdEvent)}
    (start : s.trace = []) :
    wp (sdNegotiate host rca v18 hasBus4bit disable rounds) (fun _ s' => ∃ sf, Going sf s'.trace)
      (fun _ s' => s'.trace = [] ∨ ∃ sf, Ended sf s'.trace) s := by
  have loop : ∀ (v18 : Bool) (sf : RegSwitchFunc) (s : PowerUp σ (List SdEvent)),
      Going sf s.trace → wp (retry (sdModeRound host rca v18 hasBus4bit sf) rounds disable)
        (fun _ s' => ∃ sf, Going sf s'.trace) (fun _ s' => s'.trace = [] ∨ ∃ sf, Ended sf s'.trace)
        s := by
    intro v18 sf s going
    apply (sdLoop_sound host rca v18 hasBus4bit disable rounds going).mono
    · exact fun _ _ going => ⟨sf, going⟩
    · exact fun _ _ ended => Or.inr ⟨sf, ended⟩
  unfold sdNegotiate
  rw [wp_bind]
  apply (silent_switchFunc host _ _).keep
  · intro sf s₁ same
    rw [wp_bind, wp_note]
    have going : Going sf (.checked sf :: s₁.trace) := by
      rw [same, start]
      exact Going.checked
    rw [wp_ite]
    apply And.intro
    · intro _
      rw [wp_bind]
      apply ((silent_sdSwitchVoltage host).going sf going).mono
      · exact fun _ s₂ going₂ => loop true sf s₂ going₂
      · exact fun _ _ ended => Or.inr ⟨sf, ended⟩
    · exact fun _ => loop v18 sf _ going
  · exact fun _ s₁ same => Or.inl (same.trans start)

theorem sound_nil (threw : Bool) :
    TimingsAccepted [] ∧ PowerRejected threw [] ↔ Consistent [] := by
  apply iff_of_true
  · apply And.intro
    · intro front freq timing rest split
      exact absurd split (List.append_ne_nil_of_right_ne_nil _ (List.cons_ne_nil _ _)).symm
    · intro front status rest split
      exact absurd split (List.append_ne_nil_of_right_ne_nil _ (List.cons_ne_nil _ _)).symm
  · exact fun sf member => absurd member List.not_mem_nil

/-- In a negotiation, no function is applied that the card has rejected, if and only if the status blocks
of the set functions report no invalid function where that of the check function does not. -/
theorem applied_iff (disable : U32) (rounds : Nat) (cmd : Cmd) (hw : σ) :
    wp (sdNegotiate host rca v18 hasBus4bit disable rounds)
      (fun _ s => TimingsAccepted s.trace ∧ PowerRejected false s.trace ↔ Consistent s.trace)
      (fun _ s => TimingsAccepted s.trace ∧ PowerRejected true s.trace ↔ Consistent s.trace)
      { cmd, hw, trace := [] } := by
  apply (sdNegotiate_sound host rca v18 hasBus4bit disable rounds rfl).mono
  · intro _ s sound
    rcases sound with ⟨sf, going⟩
    exact going.sound_iff false
  · intro _ s sound
    rcases sound with nothing | ⟨sf, ended⟩
    · rw [nothing]
      exact sound_nil true
    · exact ended.sound_iff

/-- Status blocks of a card that knows SDR25 and 1.44 W, but rejects both when they are set. -/
def rejectingBlock (executed : Nat) (i : Nat) : U8 :=
  if i = 7 ∨ i = 13 then 0x02
  else if executed ≤ 1 then 0
  else if i = 15 then 0xf0
  else if i = 16 then 0x0f
  else 0

/-- A card that takes every command. Its state is the number of switch functions executed. -/
def rejecting : Host Nat where
  suppUhsTimings := fun _ => true
  suppPowerLimit := fun _ => true
  needsTuningSdr50 := false
  ioPhys := 0x1000
  ioVirt := 0x1000
  ioBuf := rejectingBlock
  cmdExec := modify fun s => (answered s.1, if s.1.cmd = cmd6SwitchFunc then s.2 + 1 else s.2)
  setBusWidth := fun _ => pure ()
  setClockAndTiming := fun _ _ _ => pure ()
  setVoltage := fun _ => pure ()
  delay := fun _ => pure ()
  tuningFinished := pure (some true)
  resetTuning := pure ()
  enableAutoTuning := pure ()
  cardBusy := pure false

/-- The status block of the check function, and those of the set functions. -/
def checkedStatus : RegSwitchFunc := { raw11 := 0, raw12 := 0x00020000, raw14 := 0x02 }
def rejectedStatus : RegSwitchFunc := { raw11 := 0x0f000000, raw12 := 0x000200f0, raw14 := 0x02 }

def rejectedSwitch : PowerUpM Nat (List SdEvent) (Option Timing) :=
  sdNegotiate rejecting 1 false true 0 6

/-- Power limit and access mode are rejected, but the controller is set to SDR25. -/
theorem rejected_applied :
    rejectedSwitch.run' { cmd := {}, hw := 0, trace := [] } = some (some .uhsSdr25) ∧
      (after rejectedSwitch { cmd := {}, hw := 0, trace := [] }).trace =
        [.timingSet (50 * mHz) .uhsSdr25, .modeSet rejectedStatus, .powerSet rejectedStatus,
          .checked checkedStatus] ∧
      ¬ TimingsAccepted (after rejectedSwitch { cmd := {}, hw := 0, trace := [] }).trace ∧
      ¬ PowerRejected false (after rejectedSwitch { cmd := {}, hw := 0, trace := [] }).trace := by
  have trace : (after rejectedSwitch { cmd := {}, hw := 0, trace := [] }).trace =
      [.timingSet (50 * mHz) .uhsSdr25, .modeSet rejectedStatus, .powerSet rejectedStatus,
        .checked checkedStatus] := by decide +kernel
  rw [trace]
  refine ⟨by decide +kernel, rfl, ?_, ?_⟩
  · intro accepted
    obtain ⟨status, earlier, same, valid⟩ := accepted [] _ _ _ rfl
    rw [← (SdEvent.modeSet.inj (List.cons.inj same).1)] at valid
    exact valid (by decide)
  · intro rejected
    have last := rejected [.timingSet (50 * mHz) .uhsSdr25, .modeSet rejectedStatus] rejectedStatus _
      rfl (by decide)
    exact absurd last.1 Bool.false_ne_true

end PowerUp

end Emmc
