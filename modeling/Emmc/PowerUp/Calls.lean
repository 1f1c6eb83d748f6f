import Emmc.Lib.Watch
import Emmc.PowerUp.Fallback
import Emmc.PowerUp.Scan

/-!
# What the initialisation asks of controller and card

A `spied` driver records the commands and the calls that set up the bus. `View` is what a host that
follows the specification of the card may conclude from them: the state of the card (an abstract card,
not taken from the source), the clock, the voltage, and the mode the card was switched to last.

* `View.next`: what a call makes of the view. A command that ended with an error left the card as it was.
* `InOrder`, `Clocked`, `Powered`: what is permitted; `watch` watches all three.
* `Leads`: what a computation with a spied driver reaches; every call before that was permitted.
* `leads_cmdExec`, `leads_call` and the others: one call at a time.

An address of zero is taken like any other.
-/

namespace Emmc

open Throwing

namespace PowerUp

open Mmc

/-- A command on its way to the card. -/
structure Sent where
  word : U32
  arg : U32
  app : Bool
deriving DecidableEq, Repr

def sent (c : Cmd) : Sent := { word := c.cmd, arg := c.arg, app := c.flags.appCmd }

inductive Call
  /-- A command, how it ended, and the I/O buffer behind it. -/
  | command (sent : Sent) (ended : Cmd) (ioBuf : Nat → U8)
  | busWidth (width : BusWidth)
  | clock (freq : U32) (timing : Timing) (strobe : Bool)
  | voltage (voltage : Voltage)

/-! ## The card -/

/-- The states of a card up to the transfer state; `sd` when it was started by ACMD41. -/
inductive CardState
  | off
  | idle
  | ready (sd : Bool)
  | ident (sd : Bool)
  | stby (rca : U16)
  | tran (rca : U16)
deriving DecidableEq, Repr

namespace CardState

/-- The commands that the card carries out. -/
def commands : CardState → List U32
  | off => [cmd0GoIdleState, cmd52IoRwDirect]
  | idle => [cmd0GoIdleState, cmd1SendOpCond, cmd8SendIfCond, cmd55AppCmd]
  | ready _ => [cmd0GoIdleState, cmd2AllSendCid, cmd11VoltageSwitch]
  | ident _ => [cmd3SetRelativeAddr]
  | stby _ => [cmd7SelectCard, cmd9SendCsd]
  | tran _ => [cmd6Switch, cmd6SwitchFunc, cmd8SendExtCsd, cmd13SendStatus, cmd16SetBlocklen,
      cmd19SendTuningBlock, cmd21SendTuningBlock, cmd55AppCmd]

/-- The application commands that the card carries out. -/
def appCommands : CardState → List U32
  | idle => [acmd41SdAppOpCond]
  | tran _ => [acmd6SetBusWidth, acmd13SdStatus, acmd51SendScr]
  | _ => []

/-- The address the card answers to. -/
def rca : CardState → U16
  | stby rca => rca
  | tran rca => rca
  | _ => 0

/-- The commands whose argument is the address of the card. -/
def addressed : List U32 := [cmd7SelectCard, cmd9SendCsd, cmd13SendStatus, cmd55AppCmd]

/-- The operating conditions were asked for, and the card is not busy. An argument of zero is only an
inquiry. -/
def started (sent : Sent) (ended : Cmd) : Bool :=
  sent.arg ≠ 0 && RegOcr.notBusy.test (ended.resp 0)

/-- A command that the card has carried out. An SD card chooses its address, an eMMC device is given
one. -/
def next (sent : Sent) (ended : Cmd) (card : CardState) : CardState :=
  if sent.app then
    if sent.word = acmd41SdAppOpCond ∧ started sent ended then ready true else card
  else if sent.word = cmd0GoIdleState then idle
  else if sent.word = cmd1SendOpCond then if started sent ended then ready false else card
  else
    match card with
    | ready sd => if sent.word = cmd2AllSendCid then ident sd else card
    | ident sd =>
      if sent.word = cmd3SetRelativeAddr then
        stby (((if sd then ended.resp 0 else sent.arg) >>> 16).setWidth 16)
      else card
    | stby rca => if sent.word = cmd7SelectCard then tran rca else card
    | _ => card

end CardState

/-! ## Modes -/

/-- The argument of CMD6 that sets the access mode of an SD card. -/
def accModeArg (mode : SdMode) : U32 :=
  ArgCmd6SwitchFunc.mode.set (ArgCmd6SwitchFunc.grp1AccMode.set ArgCmd6SwitchFunc.reset mode.accMode)
    ArgCmd6SwitchFunc.setFunction

/-- The command word and the argument of CMD6 that switch the card to a mode. -/
abbrev ModeSwitch := U32 × U32

def Mode.switch (mode : Mode) : ModeSwitch :=
  (cmd6Switch, switchArg Ec185HsTiming.index
    (Ec185HsTiming.timingInterface.set 0 mode.programming.hsTiming))

def SdMode.switch (mode : SdMode) : ModeSwitch := (cmd6SwitchFunc, accModeArg mode)

/-- The controller settings that belong to a mode of the card. -/
inductive Selects : ModeSwitch → U32 → Timing → Prop
  | mmc (mode : Mode) : Selects mode.switch mode.programming.freq mode.programming.mmcTiming
  | sd (mode : SdMode) : Selects mode.switch mode.freq mode.timing

/-! ## The view -/

structure View where
  card : CardState
  /-- CMD55 was accepted, an application command has to follow. -/
  app : Bool
  freq : U32
  voltage : Option Voltage
  /-- The last CMD6 that the card accepted and has not reported as a switch error. -/
  mode : Option ModeSwitch

namespace View

def modeNext (sent : Sent) (ended : Cmd) (mode : Option ModeSwitch) : Option ModeSwitch :=
  if sent.word = cmd0GoIdleState then none
  else if sent.word = cmd6Switch ∨ sent.word = cmd6SwitchFunc then some (sent.word, sent.arg)
  else if ended.switchError then none
  else mode

def executed (sent : Sent) (ended : Cmd) (v : View) : View :=
  if ended.error then
    { v with app := false }
  else
    { v with
      card := v.card.next sent ended
      app := sent.word = cmd55AppCmd
      mode := modeNext sent ended v.mode }

def next : Call → View → View
  | .command sent ended _, v => v.executed sent ended
  | .busWidth _, v => v
  | .clock freq _ _, v => { v with freq := freq }
  | .voltage voltage, v => { v with voltage := some voltage }

end View

/-- The card carries out the command in its present state. Application commands follow CMD55, and only
they do. -/
def InOrder (call : Call) (v : View) : Prop :=
  match call with
  | .command sent _ _ =>
    sent.app = v.app ∧
      sent.word ∈ (if v.app then v.card.appCommands else v.card.commands) ∧
      (sent.word ∈ CardState.addressed → sent.arg = v.card.rca.setWidth 32 <<< 16)
  | _ => True

/-- Before the transfer state the clock runs at 400 kHz, and there is no command without clock. It only
runs faster in the mode to which the card was switched last. -/
def Clocked (call : Call) (v : View) : Prop :=
  match call with
  | .command _ _ _ => v.freq ≠ 0 ∧ ((∀ rca, v.card ≠ .tran rca) → v.freq = 400 * kHz)
  | .clock freq timing _ => freq ≤ 400 * kHz ∨ ∃ mode, v.mode = some mode ∧ Selects mode freq timing
  | _ => True

/-- The timings that need signals of 1.8 V. -/
def needsV18 : Timing → Bool
  | .uhsSdr50 | .uhsSdr104 | .uhsDdr50 | .mmcDdr52 | .mmcHs200 | .mmcHs400 => true
  | .legacy | .hs | .uhsSdr12 | .uhsSdr25 => false

/-- The voltage was set to 1.8 V before a timing that needs it, and is not changed after that. -/
def Powered (call : Call) (v : View) : Prop :=
  match call with
  | .clock _ timing _ => needsV18 timing = true → v.voltage = some .v180
  | .voltage voltage => voltage = .v180 ∨ v.voltage = none
  | _ => True

def watch : Watch Call View where
  start := { card := .off, app := false, freq := 0, voltage := none, mode := none }
  next := View.next
  permits call v := InOrder call v ∧ Clocked call v ∧ Powered call v

/-- Slow timings are always permitted. -/
theorem slow_permitted {freq : U32} {timing : Timing} (slow : freq ≤ 400 * kHz)
    (low : needsV18 timing = false) (strobe : Bool) (v : View) :
    Clocked (.clock freq timing strobe) v ∧ Powered (.clock freq timing strobe) v :=
  ⟨Or.inl slow, fun fast => absurd (low.symm.trans fast) Bool.false_ne_true⟩

/-! ## A driver that is watched -/

/-- Record a call of the driver. -/
def recordCall {σ α : Type} (call : Call) (m : EStateM RuntimeError σ α) :
    EStateM RuntimeError (σ × List Call) α :=
  recorded (fun _ _ => call) m

/-- A call that is not recorded. -/
def unrecorded {σ α : Type} (m : EStateM RuntimeError σ α) :
    EStateM RuntimeError (σ × List Call) α :=
  zoom Prod.fst (fun h s => (h, s.2)) m

/-- Record a command with its outcome. -/
def recordCommand {σ : Type} (host : Host σ) : Action (σ × List Call) Unit :=
  zoom (fun s => ((s.1, s.2.1), s.2.2)) (fun t _ => (t.1.1, (t.1.2, t.2)))
    (recorded (fun s t => Call.command (sent s.1) t.1 (host.ioBuf t.2)) host.cmdExec)

def spiedHost {σ : Type} (host : Host σ) : Host (σ × List Call) where
  suppUhsTimings := host.suppUhsTimings
  suppPowerLimit := host.suppPowerLimit
  needsTuningSdr50 := host.needsTuningSdr50
  ioPhys := host.ioPhys
  ioVirt := host.ioVirt
  ioBuf h := host.ioBuf h.1
  cmdExec := recordCommand host
  setBusWidth width := recordCall (.busWidth width) (host.setBusWidth width)
  setClockAndTiming freq timing strobe :=
    recordCall (.clock freq timing strobe) (host.setClockAndTiming freq timing strobe)
  setVoltage voltage := recordCall (.voltage voltage) (host.setVoltage voltage)
  delay ms := unrecorded (host.delay ms)
  tuningFinished := unrecorded host.tuningFinished
  resetTuning := unrecorded host.resetTuning
  enableAutoTuning := unrecorded host.enableAutoTuning
  cardBusy := unrecorded host.cardBusy

def Driver.spied {σ : Type} (drv : Driver σ) : Driver (σ × List Call) where
  toHost := spiedHost drv.toHost
  init := unrecorded drv.init
  suppUhsModes := drv.suppUhsModes
  xpcSupported := drv.xpcSupported
  supportedVoltage := drv.supportedVoltage
  decides := by
    intro c h noTuning
    show wp (recordCommand drv.toHost) _ _ _
    unfold recordCommand
    rw [wp_zoom, wp_recorded]
    exact drv.decides c h.1 noTuning
  sparesRequest := by
    intro c h
    show wp (recordCommand drv.toHost) _ _ _
    unfold recordCommand
    rw [wp_zoom, wp_recorded]
    exact drv.sparesRequest c h.1

/-! ## One call at a time -/

section Leads

variable {σ τ α β : Type}

/-- The calls so far were permitted. -/
def Fine (s : PowerUp (σ × List Call) τ) : Prop := watch.Fine s.hw.2

/-- They were permitted and leave the view `v`. -/
def Seen (v : View) (s : PowerUp (σ × List Call) τ) : Prop := watch.Seen v s.hw.2

/-- The computation returns with `Q`. Whether it returns or throws, all its calls were permitted. -/
def Leads (m : PowerUpM (σ × List Call) τ α) (Q : α → PowerUp (σ × List Call) τ → Prop)
    (s : PowerUp (σ × List Call) τ) : Prop :=
  wp m Q (fun _ s' => Fine s') s

/-- A command is permitted however it ends. -/
def Permitted (sent : Sent) (v : View) : Prop :=
  ∀ ended ioBuf, InOrder (.command sent ended ioBuf) v ∧ Clocked (.command sent ended ioBuf) v

variable {v : View} {s : PowerUp (σ × List Call) τ} {Q : α → PowerUp (σ × List Call) τ → Prop}

/-- The second part has to lead on from wherever the first one leads; an exception of either leaves a fine
log. -/
theorem Leads.bind {m : PowerUpM (σ × List Call) τ α} {f : α → PowerUpM (σ × List Call) τ β}
    {Q' : β → PowerUp (σ × List Call) τ → Prop} (first : Leads m Q s)
    (second : ∀ a s', Q a s' → Leads (f a) Q' s') : Leads (m >>= f) Q' s :=
  wp.bind first second

/-- A weaker postcondition is reached as well. -/
theorem Leads.imp {Q' : α → PowerUp (σ × List Call) τ → Prop} {m : PowerUpM (σ × List Call) τ α}
    (first : Leads m Q s) (weaker : ∀ a s', Q a s' → Q' a s') : Leads m Q' s :=
  wp.imp first weaker

@[simp] theorem leads_bind {m : PowerUpM (σ × List Call) τ α}
    {f : α → PowerUpM (σ × List Call) τ β} {Q' : β → PowerUp (σ × List Call) τ → Prop} :
    Leads (m >>= f) Q' s ↔ Leads m (fun a s' => Leads (f a) Q' s') s :=
  wp_bind m f

@[simp] theorem leads_pure (a : α) : Leads (pure a) Q s ↔ Q a s := Iff.rfl

@[simp] theorem leads_get
    {Q : PowerUp (σ × List Call) τ → PowerUp (σ × List Call) τ → Prop} :
    Leads get Q s ↔ Q s s := Iff.rfl

@[simp] theorem leads_modifyCmd {f : Cmd → Cmd} {Q : Unit → PowerUp (σ × List Call) τ → Prop} :
    Leads (modifyCmd f) Q s ↔ Q () { s with cmd := f s.cmd } := Iff.rfl

/-- Only the trace has changed. -/
structure Noted (f : τ → τ) (s s' : PowerUp (σ × List Call) τ) : Prop where
  cmd : s'.cmd = s.cmd
  hw : s'.hw = s.hw
  trace : s'.trace = f s.trace

/-- A note moves no view: it is about the medium and not about a call. -/
theorem leads_note {f : τ → τ} : Leads (note f) (fun _ s' => Noted f s s') s := ⟨rfl, rfl, rfl⟩

@[simp] theorem leads_response {i : Fin 4} {Q : U32 → PowerUp (σ × List Call) τ → Prop} :
    Leads (response i) Q s ↔ Q (s.cmd.resp i) s := Iff.rfl

/-- Each branch may use its condition. -/
theorem leads_ite {c : Prop} [Decidable c] {m n : PowerUpM (σ × List Call) τ α}
    (yes : c → Leads m Q s) (no : ¬ c → Leads n Q s) : Leads (if c then m else n) Q s :=
  (wp_ite c m n).mpr ⟨yes, no⟩

/-- An exception needs nothing but a fine log. -/
theorem leads_throw {e : RuntimeError} (fine : Fine s) :
    Leads (throw e : PowerUpM (σ × List Call) τ α) Q s :=
  fine

/-- What comes behind it is not reached. -/
theorem leads_throw_bind {e : RuntimeError} {f : α → PowerUpM (σ × List Call) τ β}
    {Q : β → PowerUp (σ × List Call) τ → Prop} (fine : Fine s) : Leads (throw e >>= f) Q s :=
  fine

/-- What a command leaves behind: its outcome decides the next view. -/
structure Executed (v : View) (sent : Sent) (trace : τ) (s' : PowerUp (σ × List Call) τ) : Prop where
  seen : Seen (v.executed sent s'.cmd) s'
  trace : s'.trace = trace
  decided : sent.word ≠ cmd19SendTuningBlock → sent.word ≠ cmd21SendTuningBlock →
    s'.cmd.status = .success ∨ s'.cmd.error = true

/-- A command that is permitted is executed, and the view moves on by how it ended. An exception in it has
recorded the command already. -/
theorem leads_cmdExec (drv : Driver σ) (seen : Seen v s) (permitted : Permitted (sent s.cmd) v) :
    Leads (cmdExec drv.spied.toHost) (fun _ s' => Executed v (sent s.cmd) s.trace s') s := by
  have decided : wp drv.cmdExec (fun _ t => s.cmd.isTuning = false →
      t.1.status = .success ∨ t.1.error = true) (fun _ _ => True) (s.cmd, s.hw.1) := by
    cases tuning : s.cmd.isTuning with
    | true => exact (wp_any _ _).imp fun _ _ _ absurd => nomatch absurd
    | false => exact (drv.decides s.cmd s.hw.1 tuning).imp fun _ _ outcome _ => outcome
  have recorded : ∀ ended ioBuf, watch.Seen (v.executed (sent s.cmd) ended)
      (.command (sent s.cmd) ended ioBuf :: s.hw.2) :=
    fun ended ioBuf => seen.cons ⟨(permitted ended ioBuf).1, (permitted ended ioBuf).2, trivial⟩
  show wp (zoom _ _ (recordCommand drv.toHost)) _ _ _
  unfold recordCommand
  rw [wp_zoom, wp_zoom, wp_recorded]
  apply decided.mono
  · intro _ t outcome
    refine ⟨recorded _ _, rfl, fun other other' => outcome ?_⟩
    have other : s.cmd.cmd ≠ cmd19SendTuningBlock := other
    have other' : s.cmd.cmd ≠ cmd21SendTuningBlock := other'
    simp [Cmd.isTuning, other, other']
  · exact fun _ t _ => (recorded t.1 _).fine

/-- A call that is recorded. -/
theorem leads_call (call : Call) {m : EStateM RuntimeError σ α} (seen : Seen v s)
    (permitted : watch.permits call v) :
    Leads (onHw (recordCall call m))
      (fun _ s' => Seen (v.next call) s' ∧ s'.cmd = s.cmd ∧ s'.trace = s.trace) s := by
  have recorded : ∀ h : σ, watch.Seen (v.next call) (h, call :: s.hw.2).2 :=
    fun _ => seen.cons permitted
  unfold Leads onHw recordCall
  rw [wp_zoom, wp_recorded]
  exact (wp_any m s.hw.1).mono (fun _ h _ => ⟨recorded h, rfl, rfl⟩) (fun _ h _ => (recorded h).fine)

/-- Calls that are not recorded cannot violate anything. -/
theorem leads_unrecorded {m : EStateM RuntimeError σ α} (seen : Seen v s) :
    Leads (onHw (unrecorded m))
      (fun _ s' => Seen v s' ∧ s'.cmd = s.cmd ∧ s'.trace = s.trace) s := by
  unfold Leads onHw unrecorded
  rw [wp_zoom, wp_zoom]
  exact (wp_any m s.hw.1).mono (fun _ _ _ => ⟨seen, rfl, rfl⟩) (fun _ _ _ => seen.fine)

section Driver

variable (drv : Driver σ)

/-- A setting of the clock is permitted by the mode of the card and by the voltage that was set before. -/
theorem leads_clock {freq : U32} {timing : Timing} {strobe : Bool} (seen : Seen v s)
    (permitted : Clocked (.clock freq timing strobe) v ∧ Powered (.clock freq timing strobe) v) :
    Leads (onHw (drv.spied.setClockAndTiming freq timing strobe))
      (fun _ s' => Seen { v with freq := freq } s' ∧ s'.cmd = s.cmd ∧ s'.trace = s.trace) s :=
  leads_call (.clock freq timing strobe) seen ⟨trivial, permitted⟩

/-- The voltage is set once, and lowered to 1.8 V. -/
theorem leads_voltage {voltage : Voltage} (seen : Seen v s)
    (permitted : voltage = .v180 ∨ v.voltage = none) :
    Leads (onHw (drv.spied.setVoltage voltage))
      (fun _ s' => Seen { v with voltage := some voltage } s' ∧ s'.cmd = s.cmd ∧
        s'.trace = s.trace) s :=
  leads_call (.voltage voltage) seen ⟨trivial, trivial, permitted⟩

/-- The bus width is recorded, but the view does not depend on it. -/
theorem leads_busWidth {width : BusWidth} (seen : Seen v s) :
    Leads (onHw (drv.spied.setBusWidth width))
      (fun _ s' => Seen v s' ∧ s'.cmd = s.cmd ∧ s'.trace = s.trace) s :=
  leads_call (.busWidth width) seen ⟨trivial, trivial, trivial⟩

/-- Waiting is not recorded. -/
theorem leads_delay {ms : U32} (seen : Seen v s) :
    Leads (onHw (drv.spied.delay ms))
      (fun _ s' => Seen v s' ∧ s'.cmd = s.cmd ∧ s'.trace = s.trace) s :=
  leads_unrecorded seen

theorem leads_cardBusy (seen : Seen v s) :
    Leads (onHw drv.spied.cardBusy)
      (fun _ s' => Seen v s' ∧ s'.cmd = s.cmd ∧ s'.trace = s.trace) s :=
  leads_unrecorded seen

end Driver

/-- Behind the check the command has not failed. -/
theorem leads_checkError {text : String} (seen : Seen v s) :
    Leads (checkError text) (fun _ s' => s' = s ∧ s.cmd.error = false) s := by
  unfold Leads checkError
  rw [wp_bind, wp_get]
  unfold Cmd.checkError
  cases failed : s.cmd.error with
  | true => exact seen.fine
  | false => exact ⟨rfl, rfl⟩

/-- The status is that of a response, or the call throws. -/
theorem leads_mmcStatus (seen : Seen v s) :
    Leads mmcStatus (fun status s' => s' = s ∧ s.cmd.mmcStatus = .ok status) s := by
  unfold Leads mmcStatus
  rw [wp_bind, wp_get]
  cases s.cmd.mmcStatus with
  | error e => exact seen.fine
  | ok status => exact ⟨rfl, rfl⟩

/-- The address that `init_data` tests has 32 bits; it never throws. -/
theorem leads_initData {drv : Driver σ} {word arg blocksize : U32} {virt : U64} (seen : Seen v s) :
    Leads (initData drv.spied.toHost word arg blocksize virt)
      (fun _ s' => Seen v s' ∧ sent s'.cmd = ⟨word, arg, false⟩ ∧ s'.trace = s.trace) s := by
  show wp (get >>= _) _ _ _
  rw [wp_bind, wp_get, Cmd.initData_ok]
  exact ⟨seen, rfl, rfl⟩

/-! ## Application commands -/

/-- The card listens to application commands in the view `v`, at this address and clock. -/
structure Listens (rca : U16) (v : View) : Prop where
  quiet : v.app = false
  known : cmd55AppCmd ∈ v.card.commands
  address : v.card.rca = rca
  clocked : v.freq ≠ 0 ∧ ((∀ rca, v.card ≠ .tran rca) → v.freq = 400 * kHz)

/-- What an application command leaves behind. When CMD55 fails, it is not sent. -/
structure AppExecuted (v : View) (sent : Sent) (trace : τ) (s' : PowerUp (σ × List Call) τ) : Prop where
  seen : ∃ mode, Seen { v with
    card := if s'.cmd.error then v.card else v.card.next sent s'.cmd
    mode := mode } s'
  trace : s'.trace = trace

/-- CMD55 alone moves no card. -/
theorem CardState.next_app (arg : U32) (ended : Cmd) (card : CardState) :
    card.next ⟨cmd55AppCmd, arg, false⟩ ended = card := by
  cases card <;> rfl

/-- CMD55, and unless it fails, what comes next. -/
theorem leads_appCmd (drv : Driver σ) {rca : U16} {word arg : U32} (seen : Seen v s)
    (listens : Listens rca v) (known : word ∈ v.card.appCommands)
    (other : word ∉ cmd55AppCmd :: CardState.addressed) {send : PowerUpM (σ × List Call) τ Unit}
    (prepared : ∀ {v s}, Seen v s → Permitted ⟨word, arg, true⟩ v →
      Leads send (fun _ s' => Executed v ⟨word, arg, true⟩ s.trace s') s) :
    Leads (do
        modifyCmd (·.initArg cmd55AppCmd (rca.setWidth 32 <<< 16))
        cmdExec drv.spied.toHost
        if !(← get).cmd.error then send)
      (fun _ s' => AppExecuted v ⟨word, arg, true⟩ s.trace s') s := by
  have app := listens.quiet
  have permitted : Permitted ⟨cmd55AppCmd, rca.setWidth 32 <<< 16, false⟩ v := by
    intro ended ioBuf
    refine ⟨⟨app.symm, ?_, fun _ => by rw [listens.address]⟩, listens.clocked⟩
    rw [app]
    exact listens.known
  rw [leads_bind, leads_modifyCmd, leads_bind]
  apply (leads_cmdExec drv (s := { s with cmd := s.cmd.initArg _ _ }) seen permitted).imp
  intro _ s₁ announced
  have seen₁ := announced.seen
  rw [leads_bind, leads_get]
  apply leads_ite
  · intro accepted
    rw [Bool.not_eq_true'] at accepted
    have view : View.executed ⟨cmd55AppCmd, rca.setWidth 32 <<< 16, false⟩ s₁.cmd v =
        { v with
          app := true
          mode := View.modeNext ⟨cmd55AppCmd, rca.setWidth 32 <<< 16, false⟩ s₁.cmd v.mode } := by
      simp [View.executed, accepted, CardState.next_app]
    change Seen (View.executed ⟨cmd55AppCmd, rca.setWidth 32 <<< 16, false⟩ s₁.cmd v) s₁ at seen₁
    rw [view] at seen₁
    apply (prepared seen₁ ?_).imp
    · intro _ s₂ executed
      refine ⟨?_, executed.trace.trans announced.trace⟩
      have seen₂ := executed.seen
      unfold View.executed at seen₂
      cases failed : s₂.cmd.error with
      | true =>
        simp only [failed, if_true] at seen₂ ⊢
        rw [← app] at seen₂
        exact ⟨_, seen₂⟩
      | false =>
        have plain : decide (word = cmd55AppCmd) = v.app := by
          rw [app, decide_eq_false]
          exact fun same => other (same ▸ List.mem_cons_self)
        simp only [failed, Bool.false_eq_true, if_false, plain] at seen₂ ⊢
        exact ⟨_, seen₂⟩
    · intro ended ioBuf
      refine ⟨⟨rfl, known, fun member => absurd (List.mem_cons_of_mem _ member) other⟩, ?_⟩
      exact listens.clocked
  · intro refused
    rw [Bool.not_eq_true', Bool.not_eq_false] at refused
    refine ⟨⟨v.mode, ?_⟩, announced.trace⟩
    change Seen (View.executed ⟨cmd55AppCmd, rca.setWidth 32 <<< 16, false⟩ s₁.cmd v) s₁ at seen₁
    unfold View.executed at seen₁
    rw [refused, if_pos rfl] at seen₁
    rw [refused, if_pos rfl]
    rw [← app] at seen₁
    exact seen₁

/-- CMD55 is known to every card that listens. The application command is sent only when CMD55 did not fail,
and then the card expects one. -/
theorem leads_mmcAppCmd (drv : Driver σ) {rca : U16} {word arg : U32} (seen : Seen v s)
    (listens : Listens rca v) (known : word ∈ v.card.appCommands)
    (other : word ∉ cmd55AppCmd :: CardState.addressed) :
    Leads (mmcAppCmd drv.spied.toHost rca word arg)
      (fun _ s' => AppExecuted v ⟨word, arg, true⟩ s.trace s') s := by
  apply leads_appCmd drv seen listens known other
  intro v s seen permitted
  exact leads_cmdExec drv
    (s := { s with cmd := { s.cmd.initArg word arg with
      flags := { (s.cmd.initArg word arg).flags with appCmd := true } } }) seen permitted

/-- The same with data. -/
theorem leads_mmcAppCmdData (drv : Driver σ) {rca : U16} {word arg datalen : U32} (seen : Seen v s)
    (listens : Listens rca v) (known : word ∈ v.card.appCommands)
    (other : word ∉ cmd55AppCmd :: CardState.addressed) :
    Leads (mmcAppCmdData drv.spied.toHost rca word arg datalen)
      (fun _ s' => AppExecuted v ⟨word, arg, true⟩ s.trace s') s := by
  apply leads_appCmd drv seen listens known other
  intro v s seen permitted
  apply (leads_initData seen).bind
  intro _ s₁ prepared
  have same : sent { s₁.cmd with flags := { s₁.cmd.flags with appCmd := true } } =
      ⟨word, arg, true⟩ := by
    have plain := prepared.2.1
    simp only [sent, Sent.mk.injEq] at plain ⊢
    exact ⟨plain.1, plain.2.1, trivial⟩
  rw [← same, ← prepared.2.2]
  rw [leads_bind, leads_modifyCmd]
  apply leads_cmdExec drv
    (s := { s₁ with cmd := { s₁.cmd with flags := { s₁.cmd.flags with appCmd := true } } })
    prepared.1
  rw [same]
  exact permitted

end Leads

end PowerUp

end Emmc
