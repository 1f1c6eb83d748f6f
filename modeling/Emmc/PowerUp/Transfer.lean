import Emmc.PowerUp.Identify

/-!
# The transfer state, call by call

Once the card is in the transfer state it stays there: `Stays` is what registers, switches, tuning and the
two mode loops have in common. A mode is remembered (`InMode`) from the CMD6 that selects it to the call
that sets the clock.
-/

namespace Emmc

open Throwing

namespace PowerUp

open Mmc

/-- The card is in the transfer state, and the clock runs. -/
structure Transfer (rca : U16) (v18 : Prop) (v : View) : Prop where
  card : v.card = .tran rca
  quiet : v.app = false
  running : v.freq ≠ 0
  powered : v18 → v.voltage = some .v180

variable {σ τ α β : Type}

def InTransfer (rca : U16) (v18 : Prop) (s : PowerUp (σ × List Call) τ) : Prop :=
  ∃ v, Seen v s ∧ Transfer rca v18 v

/-- The last CMD6 selected the mode. -/
def InMode (rca : U16) (v18 : Prop) (mode : ModeSwitch) (s : PowerUp (σ × List Call) τ) : Prop :=
  ∃ v, Seen v s ∧ Transfer rca v18 v ∧ v.mode = some mode

/-- The card stays in the transfer state. -/
abbrev Stays (rca : U16) (v18 : Prop) (m : PowerUpM (σ × List Call) τ α) : Prop :=
  Carries (InTransfer rca v18) Fine m

variable {rca : U16} {v18 : Prop}

theorem InTransfer.fine {s : PowerUp (σ × List Call) τ} (here : InTransfer rca v18 s) : Fine s := by
  obtain ⟨v, seen, -⟩ := here
  exact seen.fine

/-- With a mode or without one, the card is in its transfer state. -/
theorem InMode.stays {s : PowerUp (σ × List Call) τ} {mode : ModeSwitch}
    (here : InMode rca v18 mode s) : InTransfer rca v18 s := by
  obtain ⟨v, seen, transfer, -⟩ := here
  exact ⟨v, seen, transfer⟩

/-- A part that stays leads from the transfer state back to it. -/
theorem Stays.leads {m : PowerUpM (σ × List Call) τ α} (stays : Stays rca v18 m)
    {s : PowerUp (σ × List Call) τ} (here : InTransfer rca v18 s) :
    Leads m (fun _ s' => InTransfer rca v18 s') s :=
  stays s here

theorem Stays.of_leads {m : PowerUpM (σ × List Call) τ α}
    (leads : ∀ s, InTransfer rca v18 s → Leads m (fun _ s' => InTransfer rca v18 s') s) :
    Stays rca v18 m :=
  leads

/-- An exception leaves the log as it is. -/
theorem stays_throw (e : RuntimeError) : Stays rca v18 (throw e : PowerUpM (σ × List Call) τ α) :=
  .throw (fun _ => InTransfer.fine) e

/-- Nothing is sent by preparing a command. -/
theorem stays_modifyCmd (f : Cmd → Cmd) :
    Stays rca v18 (modifyCmd f : PowerUpM (σ × List Call) τ Unit) :=
  fun _ here => here

theorem stays_note (f : τ → τ) : Stays rca v18 (note f : PowerUpM (σ × List Call) τ Unit) :=
  fun _ here => here

/-- Nor by a call that is not recorded. -/
theorem stays_unrecorded {m : EStateM RuntimeError σ α} :
    Stays rca v18 (onHw (unrecorded m) : PowerUpM (σ × List Call) τ α) := by
  intro s here
  obtain ⟨v, seen, transfer⟩ := here
  exact (leads_unrecorded seen).imp fun _ _ post => ⟨v, post.1, transfer⟩

theorem stays_checkError (text : String) :
    Stays rca v18 (checkError text : PowerUpM (σ × List Call) τ Unit) := by
  intro s here
  obtain ⟨v, seen, transfer⟩ := here
  apply (leads_checkError seen).imp
  intro _ s' checked
  rw [checked.1]
  exact ⟨v, seen, transfer⟩

/-! ## Commands -/

/-- A command for a card in the transfer state. -/
structure Transferred (rca : U16) (word arg : U32) : Prop where
  known : word ∈ (CardState.tran rca).commands
  other : word ≠ cmd55AppCmd
  address : word ∈ CardState.addressed → arg = rca.setWidth 32 <<< 16

/-- A command that the card knows in its transfer state and that has no address may be sent to it. -/
theorem Transferred.unaddressed {word arg : U32} (known : word ∈ (CardState.tran rca).commands)
    (other : word ∉ CardState.addressed) : Transferred rca word arg := by
  refine ⟨known, ?_, fun member => absurd member other⟩
  rintro rfl
  exact other (by simp [CardState.addressed])

/-- CMD13 carries the address of the card. -/
theorem sendStatus_transferred (rca : U16) :
    Transferred rca cmd13SendStatus (rca.setWidth 32 <<< 16) :=
  ⟨by simp [CardState.commands], by decide, fun _ => rfl⟩

/-- None of these commands takes the card out of the transfer state. -/
theorem Transferred.next {word arg : U32} (command : Transferred rca word arg) (ended : Cmd) :
    (CardState.tran rca).next ⟨word, arg, false⟩ ended = .tran rca := by
  have known := command.known
  have noIdle : word ≠ cmd0GoIdleState := by
    rintro rfl
    simp [CardState.commands] at known
    revert known
    decide
  have noStart : word ≠ cmd1SendOpCond := by
    rintro rfl
    simp [CardState.commands] at known
    revert known
    decide
  simp [CardState.next, noIdle, noStart]

variable (drv : Driver σ)

/-- A command leaves the card in its transfer state. The mode changes with a CMD6 that does not fail. -/
theorem transfer_cmdExec {v : View} {s : PowerUp (σ × List Call) τ} (seen : Seen v s)
    (transfer : Transfer rca v18 v) (command : Transferred rca s.cmd.cmd s.cmd.arg)
    (noApp : s.cmd.flags.appCmd = false) :
    Leads (cmdExec drv.spied.toHost)
      (fun _ s' => ∃ v', Seen v' s' ∧ Transfer rca v18 v' ∧ v'.mode =
        if s'.cmd.error then v.mode
        else View.modeNext ⟨s.cmd.cmd, s.cmd.arg, false⟩ s'.cmd v.mode) s := by
  have same : sent s.cmd = ⟨s.cmd.cmd, s.cmd.arg, false⟩ := by simp [sent, noApp]
  apply (leads_cmdExec drv seen ?_).imp
  · intro _ s' executed
    rw [same] at executed
    refine ⟨_, executed.seen, ?_, ?_⟩
    · unfold View.executed
      split
      · exact ⟨transfer.card, rfl, transfer.running, transfer.powered⟩
      · refine ⟨?_, ?_, transfer.running, transfer.powered⟩
        · rw [transfer.card]
          exact command.next _
        · exact decide_eq_false command.other
    · unfold View.executed
      split <;> rfl
  · intro ended ioBuf
    rw [same]
    refine ⟨⟨transfer.quiet.symm, ?_, ?_⟩, transfer.running, ?_⟩
    · rw [transfer.quiet, transfer.card]
      exact command.known
    · rw [transfer.card]
      exact command.address
    · exact fun before => absurd transfer.card (before rca)

/-- A command with argument stays in the transfer state. -/
theorem stays_exec {word arg : U32} (command : Transferred rca word arg) :
    Stays rca v18 (exec drv.spied.toHost word arg : PowerUpM (σ × List Call) τ Unit) := by
  intro s here
  obtain ⟨v, seen, transfer⟩ := here
  apply (transfer_cmdExec drv (s := { s with cmd := s.cmd.initArg word arg }) seen transfer command
    rfl).imp
  intro _ s' post
  obtain ⟨v', seen', transfer', -⟩ := post
  exact ⟨v', seen', transfer'⟩

/-- A command with data, prepared and sent. -/
theorem stays_execData {word arg : U32} (blocksize : U32) (virt : U64)
    (command : Transferred rca word arg) :
    Stays rca v18
      (execData drv.spied.toHost word arg blocksize virt : PowerUpM (σ × List Call) τ Unit) := by
  intro s here
  obtain ⟨v, seen, transfer⟩ := here
  apply (leads_initData seen).bind
  intro _ s₁ prepared
  have same := prepared.2.1
  simp only [sent, Sent.mk.injEq] at same
  rw [← same.1, ← same.2.1] at command
  apply (transfer_cmdExec drv prepared.1 transfer command same.2.2).imp
  intro _ s' post
  obtain ⟨v', seen', transfer', -⟩ := post
  exact ⟨v', seen', transfer'⟩

/-- An application command; `send` is what follows CMD55. -/
theorem Stays.of_app {m : PowerUpM (σ × List Call) τ Unit} {word arg : U32}
    (known : word ∈ (CardState.tran rca).appCommands)
    (sends : ∀ {v s}, Seen v s → Listens rca v → word ∈ v.card.appCommands →
      Leads m (fun _ s' => AppExecuted v ⟨word, arg, true⟩ s.trace s') s) : Stays rca v18 m := by
  intro s here
  obtain ⟨v, seen, transfer⟩ := here
  have listens : Listens rca v :=
    ⟨transfer.quiet, by simp [transfer.card, CardState.commands], by rw [transfer.card]; rfl,
      transfer.running, fun before => absurd transfer.card (before rca)⟩
  apply (sends seen listens (by rw [transfer.card]; exact known)).imp
  intro _ s' executed
  obtain ⟨mode, seen'⟩ := executed.seen
  have stays : (if s'.cmd.error then v.card else v.card.next ⟨word, arg, true⟩ s'.cmd) =
      .tran rca := by
    have other : word ≠ acmd41SdAppOpCond := by
      rintro rfl
      simp [CardState.appCommands] at known
      revert known
      decide
    simp [transfer.card, CardState.next, other]
  exact ⟨_, seen', stays, transfer.quiet, transfer.running, transfer.powered⟩

/-- CMD55 carries the address of the card as well, and the application command follows only when it was
heard. -/
theorem stays_mmcAppCmd {word arg : U32} (known : word ∈ (CardState.tran rca).appCommands)
    (other : word ∉ cmd55AppCmd :: CardState.addressed) :
    Stays rca v18 (mmcAppCmd drv.spied.toHost rca word arg : PowerUpM (σ × List Call) τ Unit) :=
  .of_app known fun seen listens known => leads_mmcAppCmd drv seen listens known other

/-- The same with data. -/
theorem stays_mmcAppCmdData {word arg datalen : U32} (known : word ∈ (CardState.tran rca).appCommands)
    (other : word ∉ cmd55AppCmd :: CardState.addressed) :
    Stays rca v18
      (mmcAppCmdData drv.spied.toHost rca word arg datalen : PowerUpM (σ × List Call) τ Unit) :=
  .of_app known fun seen listens known => leads_mmcAppCmdData drv seen listens known other

/-! ## Switches -/

/-- Unless an error was reported, the mode is still selected. -/
def Kept (rca : U16) (v18 : Prop) (mode : ModeSwitch) (s : PowerUp (σ × List Call) τ) : Prop :=
  InTransfer rca v18 s ∧
    (s.cmd.error = false → s.cmd.switchError = false → InMode rca v18 mode s)

/-- The mode of a switch is kept as long as nothing contradicts it. -/
theorem InMode.kept {s : PowerUp (σ × List Call) τ} {mode : ModeSwitch}
    (here : InMode rca v18 mode s) : Kept rca v18 mode s :=
  ⟨here.stays, fun _ _ => here⟩

/-- A status without a switch error confirms the mode. -/
theorem View.modeNext_status (arg : U32) {ended : Cmd} (fine : ended.switchError = false)
    (mode : Option ModeSwitch) :
    View.modeNext ⟨cmd13SendStatus, arg, false⟩ ended mode = mode := by
  have noIdle : cmd13SendStatus ≠ cmd0GoIdleState := by decide
  have noSwitch : ¬(cmd13SendStatus = cmd6Switch ∨ cmd13SendStatus = cmd6SwitchFunc) := by decide
  simp only [View.modeNext, noIdle, noSwitch, fine, if_false, Bool.false_eq_true]

/-- CMD13 leaves the mode alone, unless it reports a switch error. -/
theorem leads_sendStatus {mode : ModeSwitch} {s : PowerUp (σ × List Call) τ}
    (here : InMode rca v18 mode s) :
    Leads (exec drv.spied.toHost cmd13SendStatus (rca.setWidth 32 <<< 16))
      (fun _ s' => Kept rca v18 mode s') s := by
  obtain ⟨v, seen, transfer, selected⟩ := here
  apply (transfer_cmdExec drv
    (s := { s with cmd := s.cmd.initArg cmd13SendStatus (rca.setWidth 32 <<< 16) }) seen transfer
    (sendStatus_transferred rca) rfl).imp
  intro _ s' post
  obtain ⟨v', seen', transfer', next⟩ := post
  refine ⟨⟨v', seen', transfer'⟩, fun ok fine => ⟨v', seen', transfer', ?_⟩⟩
  rw [ok, if_neg Bool.false_ne_true] at next
  rw [next, ← selected]
  exact View.modeNext_status _ fine _

/-- The polls end with the mode of the switch, or with an error in the command that shows it. -/
theorem pollSwitch_leads {mode : ModeSwitch} (polls : Nat) :
    ∀ {s : PowerUp (σ × List Call) τ}, InMode rca v18 mode s →
      Leads (pollSwitch drv.spied.toHost rca polls) (fun _ s' => Kept rca v18 mode s') s := by
  induction polls with
  | zero => exact fun here => here.kept
  | succ polls ih =>
    intro s here
    unfold pollSwitch
    have polled := leads_sendStatus drv here
    rw [exec, leads_bind, leads_modifyCmd] at polled
    rw [leads_bind, leads_modifyCmd]
    apply polled.bind
    intro _ s₁ kept
    rw [leads_bind, leads_get]
    apply leads_ite
    · exact fun _ => kept
    · intro well
      rw [Bool.not_eq_true, Bool.or_eq_false_iff] at well
      have mode₁ := kept.2 well.1 well.2
      cases s₁.cmd.mmcStatus with
      | error e => exact leads_throw kept.1.fine
      | ok status =>
        apply leads_ite
        · exact fun _ => kept
        · intro _
          obtain ⟨v, seen, transfer, selected⟩ := mode₁
          apply (leads_delay drv seen).bind
          exact fun _ s₂ delayed => ih ⟨v, delayed.1, transfer, selected⟩

/-- A byte of the extended CSD is written. -/
theorem execMmcSwitch_leads (idx val : U8) {s : PowerUp (σ × List Call) τ}
    (here : InTransfer rca v18 s) :
    Leads (execMmcSwitch drv.spied.toHost rca idx val)
      (fun _ s' => Kept rca v18 (cmd6Switch, switchArg idx val) s') s := by
  obtain ⟨v, seen, transfer⟩ := here
  have command : Transferred rca cmd6Switch (switchArg idx val) :=
    .unaddressed (by simp [CardState.commands]) (by decide)
  unfold execMmcSwitch
  rw [leads_bind, leads_modifyCmd, leads_bind, leads_modifyCmd]
  apply (transfer_cmdExec drv (s := { s with cmd := (s.cmd.initArg _ _).markStatusAfterSwitch }) seen
    transfer command rfl).bind
  intro _ s₁ post
  obtain ⟨v', seen', transfer', next⟩ := post
  rw [leads_bind, leads_get]
  have selected : s₁.cmd.error = false → InMode rca v18 (cmd6Switch, switchArg idx val) s₁ := by
    intro ok
    refine ⟨v', seen', transfer', ?_⟩
    rw [next, if_neg (by rw [ok]; exact Bool.false_ne_true)]
    rfl
  apply leads_ite
  · intro success
    apply pollSwitch_leads drv 50
    apply selected
    simp [Cmd.error, success, Status.toInt]
  · exact fun _ => ⟨⟨v', seen', transfer'⟩, fun ok _ => selected ok⟩

/-- Both outcomes of a switch leave the card in its transfer state. -/
theorem stays_execMmcSwitch (idx val : U8) :
    Stays rca v18 (execMmcSwitch drv.spied.toHost rca idx val : PowerUpM (σ × List Call) τ Unit) :=
  fun _ here => (execMmcSwitch_leads drv idx val here).imp fun _ _ kept => kept.1

/-! ## Clock, voltage and tuning -/

/-- A bus width is neither a command nor a clock. -/
theorem stays_busWidth (width : BusWidth) :
    Stays rca v18 (onHw (drv.spied.setBusWidth width) : PowerUpM (σ × List Call) τ Unit) := by
  intro s here
  obtain ⟨v, seen, transfer⟩ := here
  exact (leads_busWidth drv seen).imp fun _ _ post => ⟨v, post.1, transfer⟩

/-- A slow clock that does not stop. -/
theorem stays_slowClock {freq : U32} {timing : Timing} {strobe : Bool} (slow : freq ≤ 400 * kHz)
    (low : needsV18 timing = false) (running : freq ≠ 0) :
    Stays rca v18
      (onHw (drv.spied.setClockAndTiming freq timing strobe) : PowerUpM (σ × List Call) τ Unit) := by
  intro s here
  obtain ⟨v, seen, transfer⟩ := here
  apply (leads_clock drv seen (slow_permitted slow low _ _)).imp
  exact fun _ _ post => ⟨_, post.1, transfer.card, transfer.quiet, running, transfer.powered⟩

/-- The clock of the mode that was selected. -/
theorem leads_modeClock {mode : ModeSwitch} {freq : U32} {timing : Timing} {strobe : Bool}
    {s : PowerUp (σ × List Call) τ} (here : InMode rca v18 mode s) (selects : Selects mode freq timing)
    (running : freq ≠ 0) (powered : needsV18 timing = true → v18) :
    Leads (onHw (drv.spied.setClockAndTiming freq timing strobe))
      (fun _ s' => InTransfer rca v18 s') s := by
  obtain ⟨v, seen, transfer, selected⟩ := here
  apply (leads_clock drv seen
    ⟨Or.inr ⟨mode, selected, selects⟩, fun fast => transfer.powered (powered fast)⟩).imp
  exact fun _ _ post => ⟨_, post.1, transfer.card, transfer.quiet, running, transfer.powered⟩

/-- With 1.8 V more timings are permitted, not fewer. -/
theorem InTransfer.of_v18 {s : PowerUp (σ × List Call) τ} (here : InTransfer rca True s) :
    InTransfer rca v18 s := by
  obtain ⟨v, seen, transfer⟩ := here
  exact ⟨v, seen, transfer.card, transfer.quiet, transfer.running, fun _ => transfer.powered trivial⟩

/-- Lowering the voltage is permitted at any time. -/
theorem leads_voltage180 {s : PowerUp (σ × List Call) τ} (here : InTransfer rca v18 s) :
    Leads (onHw (drv.spied.setVoltage .v180)) (fun _ s' => InTransfer rca True s') s := by
  obtain ⟨v, seen, transfer⟩ := here
  apply (leads_voltage drv seen (Or.inl rfl)).imp
  exact fun _ _ post => ⟨_, post.1, transfer.card, transfer.quiet, transfer.running, fun _ => rfl⟩

/-- Tuning blocks have no address, and the number of them does not matter. -/
theorem stays_tune {word : U32} (command : Transferred rca word 0) (loops : Nat) :
    Stays rca v18 (tune drv.spied.toHost word loops : PowerUpM (σ × List Call) τ Bool) := by
  induction loops with
  | zero => exact Carries.pure false
  | succ loops ih =>
    apply Stays.of_leads
    intro s here
    unfold tune
    have sent := (stays_exec drv command).leads here
    rw [exec, leads_bind, leads_modifyCmd] at sent
    rw [leads_bind, leads_modifyCmd]
    apply sent.bind
    intro _ s₁ here₁
    rw [leads_bind, leads_get]
    cases s₁.cmd.status with
    | success =>
      apply (stays_unrecorded s₁ here₁).bind
      intro finished s₂ here₂
      cases finished with
      | some success => exact here₂
      | none => exact ih s₂ here₂
    | cmdTimeout => exact here₁
    | _ => exact ih s₁ here₁

/-! ## The mode of an eMMC device -/

/-- The bus width is a switch of the card and a call of the controller. -/
theorem stays_mmcSetBusWidth (width : U8) (strobe : Bool) :
    Stays rca v18 (mmcSetBusWidth drv.spied.toHost rca width strobe) := by
  apply (stays_execMmcSwitch drv _ _).bind
  intro _
  apply Carries.get_bind
  intro s _
  exact Carries.ite (stays_busWidth drv _) (Carries.pure ())

theorem stays_fail : Stays rca v18 (fail : PowerUpM (σ × List Call) Tried Unit) := stays_modifyCmd _

theorem extCsd_transferred : Transferred rca cmd8SendExtCsd 0 :=
  .unaddressed (by simp [CardState.commands]) (by decide)

/-- CMD13 and CMD8 are permitted in the transfer state. -/
theorem stays_verifyTiming (p : Programming) :
    Stays rca v18 (verifyTiming drv.spied.toHost rca p) := by
  apply Stays.of_leads
  intro s here
  unfold verifyTiming
  have asked := (stays_exec drv (sendStatus_transferred rca)).leads here
  rw [exec, leads_bind, leads_modifyCmd] at asked
  rw [leads_bind, leads_modifyCmd]
  apply asked.bind
  intro _ s₁ here₁
  rw [leads_bind, leads_get]
  apply leads_ite
  · exact fun _ => stays_fail s₁ here₁
  intro _
  have read := (stays_execData drv 512 0 extCsd_transferred).leads here₁
  rw [execData, leads_bind] at read
  apply read.bind
  intro _ s₂ read₂
  apply read₂.bind
  intro _ s₃ here₃
  rw [leads_bind, leads_get]
  apply leads_ite
  · exact fun _ => stays_fail s₃ here₃
  · intro _
    rw [leads_bind, leads_get]
    exact leads_ite (fun _ => stays_fail s₃ here₃) (fun _ => here₃)

/-- The clock is only set when the device has accepted the timing. -/
theorem stays_mmcSetTiming (mode : Mode) (strobe : Bool) :
    Stays rca True (mmcSetTiming drv.spied.toHost rca mode.programming strobe) := by
  apply Stays.of_leads
  intro s here
  rw [mmcSetTiming_eq, leads_bind]
  apply (execMmcSwitch_leads drv _ _ here).imp
  intro _ s₁ kept
  rw [leads_bind, leads_get]
  apply leads_ite
  · exact fun _ => stays_fail s₁ kept.1
  intro well
  rw [Bool.not_eq_true, Bool.or_eq_false_iff] at well
  have running : mode.programming.freq ≠ 0 := by cases mode <;> decide
  apply (leads_modeClock drv (kept.2 well.1 well.2) (.mmc mode) running (fun _ => trivial)).bind
  intro _ s₂ here₂
  rw [leads_bind]
  apply leads_note.imp
  intro _ s₃ noted
  apply stays_verifyTiming drv
  obtain ⟨v, seen, transfer⟩ := here₂
  exact ⟨v, by unfold Seen; rw [noted.hw]; exact seen, transfer⟩

/-- A mode needs 1.8 V, which its iteration has set before. -/
theorem stays_programMode (mode : Mode) :
    Stays rca True (programMode drv.spied.toHost rca mode) := by
  have block : Transferred rca cmd21SendTuningBlock 0 :=
    .unaddressed (by simp [CardState.commands]) (by decide)
  apply (stays_mmcSetTiming drv mode false).bind
  intro _
  apply Carries.get_bind
  intro s _
  apply Carries.ite (Carries.pure _)
  apply Carries.ite _ (Carries.pure _)
  apply (stays_tune drv block _).bind
  exact fun success => Carries.ite (Carries.pure _) (Carries.pure _)

/-- HS timing comes before HS400 timing, each with the clock that goes with its own switch. -/
theorem stays_switchHs400 (enhStrobe : Bool) :
    Stays rca True (switchHs400 drv.spied.toHost rca enhStrobe) := by
  apply (stays_mmcSetTiming drv .hs52 false).bind
  intro _
  apply Carries.get_bind
  intro s _
  apply Carries.ite (Carries.pure _)
  apply (stays_mmcSetBusWidth drv _ enhStrobe).bind
  intro _
  apply Carries.get_bind
  intro s _
  apply Carries.ite (Carries.pure _)
  apply (stays_mmcSetTiming drv .hs400 enhStrobe).bind
  intro _
  apply Carries.get_bind
  intro s _
  exact Carries.ite (Carries.pure _) (Carries.pure _)

theorem stays_tryNext (mode : Mode) (step : Step) (next : Modes) :
    Stays rca v18 (tryNext mode step next : PowerUpM (σ × List Call) Tried (Modes ⊕ U8)) :=
  (stays_note _).bind fun _ => Carries.pure _

/-- The way to HS400 is one of the ends of an iteration. -/
theorem stays_finishMode (enhStrobe : Bool) (restricted : U8) (mode : Mode) :
    Stays rca True (finishMode drv.spied.toHost rca enhStrobe restricted mode) := by
  apply Carries.ite _ (Carries.pure _)
  apply (stays_switchHs400 drv enhStrobe).bind
  intro r
  cases r with
  | some step => exact stays_tryNext mode step _
  | none => exact Carries.pure _

/-- Each iteration sets 1.8 V, so it may start without. -/
theorem stays_tryMode (enhStrobe : Bool) (restricted : U8) (mode : Mode) :
    Stays rca v18 (tryMode drv.spied.toHost rca enhStrobe restricted mode) := by
  intro s here
  apply (leads_voltage180 drv here).bind
  intro _ s₁ here₁
  apply Leads.imp _ fun _ _ here => InTransfer.of_v18 here
  revert s₁
  apply stays_unrecorded.bind
  intro _
  apply (stays_mmcSetBusWidth drv _ _).bind
  intro _
  apply Carries.get_bind
  intro s _
  apply Carries.ite (stays_tryNext mode _ _)
  apply Carries.ite _ (stays_finishMode drv enhStrobe restricted mode)
  apply (stays_programMode drv mode).bind
  intro r
  cases r with
  | some step => exact stays_tryNext mode step _
  | none => exact stays_finishMode drv enhStrobe restricted mode

/-- By induction on the number of rounds. -/
theorem stays_mmcModeLoop (reported disabled : U8) (enhStrobe : Bool) (rounds : Nat) :
    Stays rca v18 (mmcModeLoop drv.spied.toHost rca reported disabled enhStrobe rounds) := by
  apply Carries.retry
  intro m
  unfold mmcModeRound
  cases select m.allowed with
  | none => exact (stays_note _).bind fun _ => stays_throw _
  | some mode => exact stays_tryMode drv enhStrobe m.allowed mode

/-! ## The mode of an SD card -/

/-- CMD6 that the card has accepted. -/
theorem switchFunc_leads (arg : U32) (text : String) {s : PowerUp (σ × List Call) (List SdEvent)}
    (here : InTransfer rca v18 s) :
    Leads (switchFunc drv.spied.toHost arg text)
      (fun _ s' => InMode rca v18 (cmd6SwitchFunc, arg) s') s := by
  obtain ⟨v, seen, transfer⟩ := here
  have command : Transferred rca cmd6SwitchFunc arg :=
    .unaddressed (by simp [CardState.commands]) (by decide)
  apply (leads_initData seen).bind
  intro _ s₁ prepared
  have same := prepared.2.1
  simp only [sent, Sent.mk.injEq] at same
  rw [← same.1, ← same.2.1] at command
  apply (transfer_cmdExec drv prepared.1 transfer command same.2.2).bind
  intro _ s₂ post
  obtain ⟨v', seen', transfer', next⟩ := post
  apply (leads_checkError seen').bind
  intro _ s₃ checked
  rw [checked.1]
  refine ⟨v', seen', transfer', ?_⟩
  rw [next, if_neg (by rw [checked.2]; exact Bool.false_ne_true), same.1, same.2.1]
  rfl

/-- CMD6 of an SD card has no address. -/
theorem stays_switchFunc (arg : U32) (text : String) :
    Stays rca v18 (switchFunc drv.spied.toHost arg text) :=
  fun _ here => (switchFunc_leads drv arg text here).imp fun _ _ mode => mode.stays

/-- ACMD6 is an application command of the transfer state. -/
theorem stays_sdSetBusWidth (hasBus4bit : Bool) :
    Stays rca v18 (sdSetBusWidth drv.spied.toHost rca hasBus4bit) := by
  apply Carries.ite _ (Carries.pure ())
  apply (stays_mmcAppCmd drv (by simp [CardState.appCommands]) (by decide)).bind
  intro _
  exact (stays_checkError _).bind fun _ => stays_busWidth drv _

/-- The power limit is a CMD6 that selects no timing. -/
theorem stays_sdSetPower (sf : RegSwitchFunc) (mode : SdMode) :
    Stays rca v18 (sdSetPower drv.spied.toHost sf mode) := by
  apply Carries.ite _ (Carries.pure ())
  apply (stays_switchFunc drv _ _).bind
  intro status
  apply (stays_note _).bind
  intro _
  apply Carries.ite _ (Carries.pure ())
  exact (stays_note _).bind fun _ => stays_throw _

/-- The clock is only set when the card has accepted CMD6. -/
theorem stays_sdSetMode (sf : RegSwitchFunc) (mode : SdMode) (powered : mode.needsV18 = true → v18) :
    Stays rca v18 (sdSetMode drv.spied.toHost sf mode) := by
  intro s here
  have running : mode.freq ≠ 0 := by cases mode <;> decide
  unfold sdSetMode
  apply (switchFunc_leads drv _ _ here).bind
  intro status s₁ selected
  apply leads_note.bind
  intro _ s₂ noted
  have selected₂ : InMode rca v18 mode.switch s₂ := by
    obtain ⟨v, seen, transfer⟩ := selected
    exact ⟨v, by unfold Seen; rw [noted.hw]; exact seen, transfer⟩
  apply leads_ite
  · intro _
    apply leads_note.bind
    intro _ s₃ noted'
    have fine : Fine s₃ := by
      unfold Fine
      rw [noted'.hw]
      exact selected₂.stays.fine
    exact leads_throw_bind fine
  intro _
  apply leads_note.bind
  intro _ s₃ noted'
  have selected₃ : InMode rca v18 mode.switch s₃ := by
    obtain ⟨v, seen, transfer⟩ := selected₂
    exact ⟨v, by unfold Seen; rw [noted'.hw]; exact seen, transfer⟩
  apply leads_modeClock drv selected₃ (.sd mode) running
  intro fast
  apply powered
  cases mode <;> first | rfl | exact fast

/-- The mode that was selected is allowed at the present voltage. -/
theorem sdSelect_powered (host : Host σ) (powered : Bool) (sf : RegSwitchFunc) (disable : U32)
    (fast : (sdSelect host powered sf disable).needsV18 = true) : powered = true := by
  have other : sdSelect host powered sf disable ≠ .hs := by
    intro same
    rw [same] at fast
    cases fast
  have allowed := sdSelect_allowed host powered sf other
  unfold sdAllowed at allowed
  rw [fast] at allowed
  simp only [Bool.not_true, Bool.false_or, Bool.and_eq_true] at allowed
  exact allowed.1.1.1

/-- The clock is set behind the CMD6 for its mode, and 1.8 V are there when an UHS mode needs them. -/
theorem stays_sdModeRound (powered hasBus4bit : Bool) (sf : RegSwitchFunc) (disable : U32) :
    Stays rca (powered = true)
      (sdModeRound drv.spied.toHost rca powered hasBus4bit sf disable) := by
  have block : Transferred rca cmd19SendTuningBlock 0 :=
    .unaddressed (by simp [CardState.commands]) (by decide)
  have allowed := sdSelect_powered drv.spied.toHost powered sf disable
  unfold sdModeRound
  generalize sdSelect drv.spied.toHost powered sf disable = mode at allowed
  apply (stays_sdSetBusWidth drv hasBus4bit).bind
  intro _
  apply (stays_sdSetPower drv sf mode).bind
  intro _
  apply (stays_sdSetMode drv sf mode allowed).bind
  intro _
  apply Carries.ite _ (Carries.pure _)
  apply stays_unrecorded.bind
  intro _
  apply (stays_tune drv block _).bind
  intro success
  apply Carries.ite
  · exact stays_unrecorded.bind fun _ => Carries.pure _
  · exact (stays_slowClock drv (by decide) rfl clocked).bind fun _ => Carries.pure _

/-- The voltage is lowered with the clock stopped, and the clock comes back slow. -/
theorem sdSwitchVoltage_leads {s : PowerUp (σ × List Call) (List SdEvent)}
    (here : InTransfer rca v18 s) :
    Leads (sdSwitchVoltage drv.spied.toHost) (fun _ s' => InTransfer rca True s') s := by
  obtain ⟨v, seen, transfer⟩ := here
  apply (leads_delay drv seen).bind
  intro _ s₁ waited
  apply (leads_clock drv waited.1 (slow_permitted (by decide) rfl _ _)).bind
  intro _ s₂ stopped
  apply (leads_voltage drv stopped.1 (Or.inl rfl)).bind
  intro _ s₃ powered
  apply (leads_delay drv powered.1).bind
  intro _ s₄ waited'
  apply (leads_clock drv waited'.1 (slow_permitted (by decide) rfl _ _)).bind
  intro _ s₅ running
  have here₅ : InTransfer rca True s₅ :=
    ⟨_, running.1, transfer.card, transfer.quiet, clocked, fun _ => rfl⟩
  have waiting : Stays rca True (do
      onHw (drv.spied.delay 5)
      if ← onHw drv.spied.cardBusy then
        throw ⟨-L4.einval, "Still busy after set voltage"⟩
      onHw (drv.spied.delay 5) : PowerUpM (σ × List Call) (List SdEvent) Unit) := by
    apply stays_unrecorded.bind
    intro _
    apply stays_unrecorded.bind
    intro busy
    exact Carries.ite ((stays_throw _).bind fun _ => stays_unrecorded) stays_unrecorded
  exact waiting s₅ here₅

/-- When the modes need 1.8 V that the identification has not switched to, the negotiation does so first. -/
theorem stays_sdNegotiate (powered hasBus4bit : Bool) (disable : U32) (rounds : Nat) :
    Stays rca (powered = true)
      (sdNegotiate drv.spied.toHost rca powered hasBus4bit disable rounds) := by
  apply (stays_switchFunc drv _ _).bind
  intro sf
  apply (stays_note _).bind
  intro _
  apply Carries.ite
  · intro s here
    apply (sdSwitchVoltage_leads drv here).bind
    intro _ s₁ here₁
    have loop : Stays rca (true = true)
        (retry (sdModeRound drv.spied.toHost rca true hasBus4bit sf) rounds disable) :=
      Carries.retry (stays_sdModeRound drv true hasBus4bit sf) rounds disable
    apply (loop s₁ here₁.of_v18).imp
    intro _ s₂ here₂
    obtain ⟨v, seen, transfer⟩ := here₂
    exact ⟨v, seen, transfer.card, transfer.quiet, transfer.running, fun _ => transfer.powered rfl⟩
  · exact Carries.retry (stays_sdModeRound drv powered hasBus4bit sf) rounds disable

end PowerUp

end Emmc
