import Emmc.PowerUp.Calls

/-!
# What an initialisation is put together from

`Sends host disable n m`: `m` is put together from calls of the driver, at most `n` of them commands,
and from steps that leave the owner of the command slot alone; the clock is only set to what is
`Enabled`. It is derived once for each part of the initialisation, and what holds of all such
computations is proved by induction on it:

* `Sends.adds`: the log only grows, by at most `n` commands.
* `Sends.keepsSlot`: the slot of the command stays taken.
* `Sends.asks`: the clock settings in the log are enabled.
-/

namespace Emmc

open Throwing

namespace PowerUp

open Mmc

variable {σ τ α β : Type} {disable : DeviceTypeDisable}

/-- The settings of the clock that a scan may ask for: slow ones, and those of the modes that are not
disabled. -/
inductive Enabled (disable : DeviceTypeDisable) : U32 → Timing → Prop
  | slow {freq : U32} {timing : Timing} : freq ≤ 400 * kHz → Enabled disable freq timing
  | mmc {mode : Mode} : mode.bit.test disable.mmc = false →
    Enabled disable mode.programming.freq mode.programming.mmcTiming
  /-- On the way to HS400. -/
  | base : Mode.hs400.bit.test disable.mmc = false → Enabled disable (52 * mHz) .hs
  | sd {mode : SdMode} : disable.sd &&& mode.timing.bits = 0 → Enabled disable mode.freq mode.timing
  /-- There is no other mode. -/
  | last : Enabled disable SdMode.hs.freq SdMode.hs.timing

inductive Sends (host : Host σ) (disable : DeviceTypeDisable) :
    {τ α : Type} → Nat → PowerUpM σ τ α → Prop
  | pure {τ α : Type} {n : Nat} (a : α) : Sends host disable n (Pure.pure a : PowerUpM σ τ α)
  | throw {τ α : Type} {n : Nat} (e : RuntimeError) :
    Sends host disable n (MonadExcept.throw e : PowerUpM σ τ α)
  | get {τ : Type} : Sends host disable 0 (MonadState.get : PowerUpM σ τ (PowerUp σ τ))
  | bindYields {τ α β : Type} {m : PowerUpM σ τ α} {f : α → PowerUpM σ τ β} {R : α → Prop}
    {a b : Nat} : Sends host disable a m → Yields R m → (∀ x, R x → Sends host disable b (f x)) →
    Sends host disable (b + a) (m >>= f)
  | modifyCmd {τ : Type} {f : Cmd → Cmd} :
    (∀ c, (f c).flags.enqueued = c.flags.enqueued) →
    Sends host disable 0 (PowerUp.modifyCmd f : PowerUpM σ τ Unit)
  | note {τ : Type} (f : τ → τ) : Sends host disable 0 (PowerUp.note f : PowerUpM σ τ Unit)
  | initData {τ : Type} (word arg blocksize : U32) (virt : U64) :
    Sends host disable 0 (PowerUp.initData host word arg blocksize virt : PowerUpM σ τ Unit)
  | cmdExec {τ : Type} : Sends host disable 1 (PowerUp.cmdExec host : PowerUpM σ τ Unit)
  | setBusWidth {τ : Type} (width : BusWidth) :
    Sends host disable 0 (onHw (host.setBusWidth width) : PowerUpM σ τ Unit)
  | setClockAndTiming {τ : Type} {freq : U32} {timing : Timing} (strobe : Bool) :
    Enabled disable freq timing →
    Sends host disable 0 (onHw (host.setClockAndTiming freq timing strobe) : PowerUpM σ τ Unit)
  | setVoltage {τ : Type} (voltage : Voltage) :
    Sends host disable 0 (onHw (host.setVoltage voltage) : PowerUpM σ τ Unit)
  | delay {τ : Type} (ms : U32) : Sends host disable 0 (onHw (host.delay ms) : PowerUpM σ τ Unit)
  | tuningFinished {τ : Type} :
    Sends host disable 0 (onHw host.tuningFinished : PowerUpM σ τ (Option Bool))
  | resetTuning {τ : Type} : Sends host disable 0 (onHw host.resetTuning : PowerUpM σ τ Unit)
  | enableAutoTuning {τ : Type} : Sends host disable 0 (onHw host.enableAutoTuning : PowerUpM σ τ Unit)
  | cardBusy {τ : Type} : Sends host disable 0 (onHw host.cardBusy : PowerUpM σ τ Bool)
  | traced {τ α : Type} (trace : τ) {m : PowerUpM σ τ α} {n : Nat} :
    Sends host disable n m → Sends host disable n (PowerUp.traced trace m)
  | le {τ α : Type} {m : PowerUpM σ τ α} {a b : Nat} :
    Sends host disable a m → a ≤ b → Sends host disable b m

/-! ## What they have in common -/

def isCommand : Call → Bool
  | .command .. => true
  | _ => false

/-- The log of a driver that is watched grows by at most `n` commands. -/
abbrev AddsCommands (n : Nat) (m : PowerUpM (σ × List Call) τ α) : Prop :=
  Adds (fun s => s.hw.2) isCommand n m

theorem adds_unrecorded {m : EStateM RuntimeError σ α} :
    AddsCommands 0 (onHw (unrecorded m) : PowerUpM (σ × List Call) τ α) := by
  intro s
  unfold onHw unrecorded
  rw [wp_zoom, wp_zoom]
  exact (wp_any m s.hw.1).mono (fun _ _ _ => .refl _ _ _) (fun _ _ _ => .refl _ _ _)

/-- A setting of the controller is written to the log, but it is no command. -/
theorem adds_recorded {call : Call} (other : isCommand call = false) {m : EStateM RuntimeError σ α} :
    AddsCommands 0 (onHw (recordCall call m) : PowerUpM (σ × List Call) τ α) := by
  intro s
  have one : Grown isCommand 0 s.hw.2 (call :: s.hw.2) :=
    ⟨[call], rfl, by rw [List.countP_singleton, other]; exact Nat.le_refl 0⟩
  unfold onHw recordCall
  rw [wp_zoom, wp_recorded]
  exact (wp_any m s.hw.1).mono (fun _ _ _ => one) (fun _ _ _ => one)

/-- Every execution of a command is one entry of the log, also when it ends with an exception. -/
theorem adds_cmdExec (host : Host σ) :
    AddsCommands 1 (cmdExec (spiedHost host) : PowerUpM (σ × List Call) τ Unit) := by
  intro s
  have one : ∀ sent ended ioBuf, Grown isCommand 1 s.hw.2 (.command sent ended ioBuf :: s.hw.2) :=
    fun _ _ _ => ⟨[_], rfl, Nat.le_refl 1⟩
  show wp (zoom _ _ (recordCommand host)) _ _ s
  unfold recordCommand
  rw [wp_zoom, wp_zoom, wp_recorded]
  exact (wp_any _ _).mono (fun _ _ _ => one _ _ _) (fun _ _ _ => one _ _ _)

/-- The bound on the commands holds of the log of the driver that is watched, whether the computation
returns or throws. By induction on how it is put together. -/
theorem Sends.adds {host : Host σ} {n : Nat} {m : PowerUpM (σ × List Call) τ α}
    (sends : Sends (spiedHost host) disable n m) : AddsCommands n m := by
  induction sends with
  | pure a => exact .pure a
  | throw e => exact .throw e
  | get => exact fun s => .refl _ _ _
  | bindYields first yields second ih ih' => exact ih.bind_yields yields ih'
  | modifyCmd kept => exact fun s => .refl _ _ _
  | note f => exact fun s => .refl _ _ _
  | initData word arg blocksize virt =>
    intro s
    apply (initData_spec _ word arg blocksize virt s).imp_ok
    intro _ s' post
    show Grown isCommand 0 s.hw.2 s'.hw.2
    rw [post.2.1]
    exact .refl _ _ _
  | cmdExec => exact adds_cmdExec host
  | setBusWidth width => exact adds_recorded rfl
  | setClockAndTiming strobe enabled => exact adds_recorded rfl
  | setVoltage voltage => exact adds_recorded rfl
  | delay ms => exact adds_unrecorded
  | tuningFinished => exact adds_unrecorded
  | resetTuning => exact adds_unrecorded
  | enableAutoTuning => exact adds_unrecorded
  | cardBusy => exact adds_unrecorded
  | traced trace body ih =>
    intro s
    unfold PowerUp.traced
    rw [wp_zoom]
    exact ih ⟨s.cmd, s.hw, trace⟩
  | le sends bound ih => exact ih.le bound

/-- The slot of the command stays taken, or free, on both exits. -/
theorem Sends.keepsSlot {drv : Driver σ} {n : Nat} {m : PowerUpM σ τ α}
    (sends : Sends drv.toHost disable n m) (taken : Bool) :
    Keeps (fun s => s.cmd.flags.enqueued = taken) m := by
  induction sends with
  | pure a => exact keeps_pure a
  | throw e => exact keeps_throw e
  | get => exact fun _ here => here
  | bindYields first yields second ih ih' => exact ih.bind_yields yields ih'
  | modifyCmd kept => exact keeps_modify fun s here => (kept s.cmd).trans here
  | note f => exact keeps_modify fun _ here => here
  | initData word arg blocksize virt =>
    intro s here
    show wp (MonadState.get >>= _) _ _ s
    rw [wp_bind, wp_get, Cmd.initData_ok]
    exact here
  | cmdExec =>
    intro s here
    unfold PowerUp.cmdExec
    rw [wp_zoom]
    exact (drv.sparesRequest s.cmd s.hw).mono (fun _ _ same => same.enqueued.trans here)
      (fun _ _ same => same.enqueued.trans here)
  | traced trace body ih =>
    intro s here
    unfold PowerUp.traced
    rw [wp_zoom]
    exact ih ⟨s.cmd, s.hw, trace⟩ here
  | le sends bound ih => exact ih
  | _ =>
    intro s here
    unfold onHw
    rw [wp_zoom]
    exact (wp_any _ _).mono (fun _ _ _ => here) (fun _ _ _ => here)

/-- A clock setting that is recorded is enabled. -/
def Asked (disable : DeviceTypeDisable) : Call → Prop
  | .clock freq timing _ => Enabled disable freq timing
  | _ => True

/-- All calls that were recorded. -/
abbrev KeepsAsked (disable : DeviceTypeDisable) (m : PowerUpM (σ × List Call) τ α) : Prop :=
  Keeps (fun s => ∀ call ∈ s.hw.2, Asked disable call) m

/-- What is not recorded leaves the settings in the log alone. -/
theorem asks_unrecorded {m : EStateM RuntimeError σ α} :
    KeepsAsked disable (onHw (unrecorded m) : PowerUpM (σ × List Call) τ α) := by
  intro s here
  unfold onHw unrecorded
  rw [wp_zoom, wp_zoom]
  exact (wp_any m s.hw.1).mono (fun _ _ _ => here) (fun _ _ _ => here)

/-- A recorded call is the only entry that is new, so the log stays enabled if the call is. -/
theorem asks_recorded {call : Call} (asked : Asked disable call) {m : EStateM RuntimeError σ α} :
    KeepsAsked disable (onHw (recordCall call m) : PowerUpM (σ × List Call) τ α) := by
  intro s here
  have longer : ∀ other ∈ call :: s.hw.2, Asked disable other := List.forall_mem_cons.mpr ⟨asked, here⟩
  unfold onHw recordCall
  rw [wp_zoom, wp_recorded]
  exact (wp_any m s.hw.1).mono (fun _ _ _ => longer) (fun _ _ _ => longer)

theorem asks_cmdExec (host : Host σ) :
    KeepsAsked disable (cmdExec (spiedHost host) : PowerUpM (σ × List Call) τ Unit) := by
  intro s here
  have longer : ∀ sent ended ioBuf, ∀ call ∈ Call.command sent ended ioBuf :: s.hw.2,
      Asked disable call :=
    fun _ _ _ => List.forall_mem_cons.mpr ⟨trivial, here⟩
  show wp (zoom _ _ (recordCommand host)) _ _ s
  unfold recordCommand
  rw [wp_zoom, wp_zoom, wp_recorded]
  exact (wp_any _ _).mono (fun _ _ _ => longer _ _ _) (fun _ _ _ => longer _ _ _)

/-- Every clock setting that such a computation asks for is enabled, also those before an exception. -/
theorem Sends.asks {host : Host σ} {n : Nat} {m : PowerUpM (σ × List Call) τ α}
    (sends : Sends (spiedHost host) disable n m) : KeepsAsked disable m := by
  induction sends with
  | pure a => exact keeps_pure a
  | throw e => exact keeps_throw e
  | get => exact fun _ here => here
  | bindYields first yields second ih ih' => exact ih.bind_yields yields ih'
  | modifyCmd kept => exact keeps_modify fun _ here => here
  | note f => exact keeps_modify fun _ here => here
  | initData word arg blocksize virt =>
    intro s here
    apply (initData_spec _ word arg blocksize virt s).imp_ok
    intro _ s' post
    show ∀ call ∈ s'.hw.2, _
    rwa [post.2.1]
  | cmdExec => exact asks_cmdExec host
  | setBusWidth width =>
    have asked : Asked disable (.busWidth width) := trivial
    exact asks_recorded asked
  | @setClockAndTiming _ freq timing strobe enabled =>
    have asked : Asked disable (.clock freq timing strobe) := enabled
    exact asks_recorded asked
  | setVoltage voltage =>
    have asked : Asked disable (.voltage voltage) := trivial
    exact asks_recorded asked
  | traced trace body ih =>
    intro s here
    unfold PowerUp.traced
    rw [wp_zoom]
    exact ih ⟨s.cmd, s.hw, trace⟩ here
  | le sends bound ih => exact ih
  | _ => exact asks_unrecorded

/-! ## Part by part -/

namespace Sends

variable {host : Host σ} {m : PowerUpM σ τ α} {n : Nat}

/-- The bounds of two computations add up. -/
theorem bind {f : α → PowerUpM σ τ β} {a b : Nat} (first : Sends host disable a m)
    (second : ∀ x, Sends host disable b (f x)) : Sends host disable (b + a) (m >>= f) :=
  first.bindYields (yields_any m) fun x _ => second x

/-- Looking at the state costs no command. -/
theorem get_bind {f : PowerUp σ τ → PowerUpM σ τ β} (second : ∀ s, Sends host disable n (f s)) :
    Sends host disable n (MonadState.get >>= f) :=
  get.bind second

/-- A computation without commands fits into every bound. -/
theorem none (nothing : Sends host disable 0 m) : Sends host disable n m := nothing.le (Nat.zero_le n)

/-- Both branches keep within the bound. -/
theorem ite {c : Prop} [Decidable c] {m' : PowerUpM σ τ α} (yes : Sends host disable n m)
    (no : Sends host disable n m') : Sends host disable n (if c then m else m') := by
  by_cases h : c
  · rwa [if_pos h]
  · rwa [if_neg h]

/-- What would come behind an exception is not reached. -/
theorem throw_bind (e : RuntimeError) (f : α → PowerUpM σ τ β) :
    Sends host disable n (MonadExcept.throw e >>= f) :=
  Sends.throw e

/-- A loop whose iterations go on with values of the kind `I`. -/
theorem retry {body : α → PowerUpM σ τ (α ⊕ β)} {I : α → Prop}
    (each : ∀ a, I a → Sends host disable n (body a))
    (next : ∀ a, I a → Yields (fun r => ∀ a', r = .inl a' → I a') (body a)) (rounds : Nat) :
    ∀ a, I a → Sends host disable (rounds * n) (Throwing.retry body rounds a) := by
  induction rounds with
  | zero => exact fun _ _ => .pure _
  | succ rounds ih =>
    intro a here
    rw [Nat.succ_mul]
    apply (each a here).bindYields (next a here)
    intro r kept
    cases r with
    | inl a' => exact ih a' (kept a' rfl)
    | inr b => exact .pure _

end Sends

variable {host : Host σ} (rca : U16)

/-- Evaluating the command that has ended sends nothing. -/
theorem sends_checkError {n : Nat} (text : String) :
    Sends host disable n (checkError text : PowerUpM σ τ Unit) := by
  apply Sends.get_bind
  intro s
  cases s.cmd.checkError text with
  | error e => exact .throw e
  | ok _ => exact .pure ()

theorem sends_mmcStatus {n : Nat} : Sends host disable n (mmcStatus : PowerUpM σ τ U32) := by
  apply Sends.get_bind
  intro s
  cases s.cmd.mmcStatus with
  | error e => exact .throw e
  | ok status => exact .pure status

/-- At up to 400 kHz every timing is enabled: this is the identification mode, and the way there and back.
-/
theorem sends_slow {freq : U32} {timing : Timing} (slow : freq ≤ 400 * kHz) (strobe : Bool) :
    Sends host disable 0
      (onHw (host.setClockAndTiming freq timing strobe) : PowerUpM σ τ Unit) :=
  .setClockAndTiming strobe (.slow slow)

theorem sends_initArg (word arg : U32) :
    Sends host disable 0 (modifyCmd (·.initArg word arg) : PowerUpM σ τ Unit) :=
  .modifyCmd fun _ => rfl

/-- One command without data. -/
theorem sends_exec (word arg : U32) : Sends host disable 1 (exec host word arg : PowerUpM σ τ Unit) := by
  apply (sends_initArg word arg).bind
  exact fun _ => .cmdExec

theorem sends_execChecked (word arg : U32) (text : String) :
    Sends host disable 1 (execChecked host word arg text : PowerUpM σ τ Unit) := by
  apply (sends_exec word arg).bind
  exact fun _ => sends_checkError text

/-- The marking that an error is expected is set before the command is sent, and does not count. -/
theorem sends_execExpectingError (word arg : U32) :
    Sends host disable 1 (execExpectingError host word arg : PowerUpM σ τ Unit) := by
  apply (sends_initArg word arg).bind
  intro _
  apply Sends.bind (a := 0)
  · exact .modifyCmd fun _ => rfl
  · exact fun _ => .cmdExec

theorem sends_execData (word arg blocksize : U32) (virt : U64) :
    Sends host disable 1 (execData host word arg blocksize virt : PowerUpM σ τ Unit) := by
  apply (Sends.initData word arg blocksize virt).bind
  exact fun _ => .cmdExec

/-- One CMD13 for each poll; a response other than 'busy' ends the polls early. -/
theorem sends_pollSwitch (polls : Nat) :
    Sends host disable polls (pollSwitch host rca polls : PowerUpM σ τ Unit) := by
  induction polls with
  | zero => exact .pure ()
  | succ polls ih =>
    apply (sends_exec cmd13SendStatus (rca.setWidth 32 <<< 16)).bind
    intro _
    apply Sends.get_bind
    intro s
    apply (Sends.pure ()).ite
    cases s.cmd.mmcStatus with
    | error e => exact .throw e
    | ok status => exact (Sends.pure ()).ite ((Sends.delay 1).bind fun _ => ih)

/-- CMD6 and, when it has succeeded, up to 50 polls of the status. -/
theorem sends_execMmcSwitch (idx val : U8) :
    Sends host disable 51 (execMmcSwitch host rca idx val : PowerUpM σ τ Unit) := by
  apply (sends_initArg _ _).bind
  intro _
  apply Sends.bind (a := 0)
  · exact .modifyCmd fun _ => rfl
  · intro _
    apply Sends.cmdExec.bind
    intro _
    apply Sends.get_bind
    intro s
    exact (sends_pollSwitch rca 50).ite (.pure ())

/-- CMD55 and, when it has succeeded, the application command. -/
theorem sends_mmcAppCmd (word arg : U32) :
    Sends host disable 2 (mmcAppCmd host rca word arg : PowerUpM σ τ Unit) := by
  apply (sends_exec cmd55AppCmd (rca.setWidth 32 <<< 16)).bind
  intro _
  apply Sends.get_bind
  intro s
  apply Sends.ite _ (.pure ())
  apply (sends_initArg word arg).bind
  intro _
  apply Sends.bind (a := 0)
  · exact .modifyCmd fun _ => rfl
  · exact fun _ => .cmdExec

/-- The same with data. -/
theorem sends_mmcAppCmdData (word arg datalen : U32) :
    Sends host disable 2 (mmcAppCmdData host rca word arg datalen : PowerUpM σ τ Unit) := by
  apply (sends_exec cmd55AppCmd (rca.setWidth 32 <<< 16)).bind
  intro _
  apply Sends.get_bind
  intro s
  apply Sends.ite _ (.pure ())
  apply (Sends.initData _ _ _ _).bind
  intro _
  apply Sends.bind (a := 0)
  · exact .modifyCmd fun _ => rfl
  · exact fun _ => .cmdExec

/-- One tuning block for each iteration. A timeout of the command or the verdict of the controller ends the
loop early. -/
theorem sends_tune (word : U32) (loops : Nat) :
    Sends host disable loops (tune host word loops : PowerUpM σ τ Bool) := by
  induction loops with
  | zero => exact .pure false
  | succ loops ih =>
    apply (sends_exec word 0).bind
    intro _
    apply Sends.get_bind
    intro s
    cases s.cmd.status with
    | success =>
      apply Sends.tuningFinished.bind
      intro finished
      cases finished with
      | some success => exact .pure success
      | none => exact ih
    | cmdTimeout => exact .pure false
    | _ => exact ih

/-! ### The mode loops -/

/-- A switch of the card and, when the card has switched, one of the controller. -/
theorem sends_mmcSetBusWidth (width : U8) (strobe : Bool) :
    Sends host disable 51 (mmcSetBusWidth host rca width strobe) := by
  apply (sends_execMmcSwitch rca _ _).bind (b := 0)
  intro _
  apply Sends.get_bind
  intro s
  exact (Sends.setBusWidth _).ite (.pure ())

theorem sends_fail {n : Nat} : Sends host disable n (fail : PowerUpM σ Tried Unit) := by
  apply Sends.none
  exact .modifyCmd fun _ => rfl

/-- CMD13 and, if that is fine, CMD8 for the extended CSD. -/
theorem sends_verifyTiming (p : Programming) : Sends host disable 2 (verifyTiming host rca p) := by
  apply (sends_exec cmd13SendStatus (rca.setWidth 32 <<< 16)).bind
  intro _
  apply Sends.get_bind
  intro s
  apply sends_fail.ite
  apply (Sends.initData cmd8SendExtCsd 0 512 0).bind
  intro _
  apply Sends.cmdExec.bind (b := 0)
  intro _
  apply Sends.get_bind
  intro s
  apply sends_fail.ite
  apply Sends.get_bind
  intro s
  exact sends_fail.ite (.pure ())

/-- The switch of the card, and the check that it has switched. In between the clock of the mode is set,
which is why the mode has to be enabled. -/
theorem sends_mmcSetTiming {p : Programming} (enabled : Enabled disable p.freq p.mmcTiming)
    (strobe : Bool) : Sends host disable 53 (mmcSetTiming host rca p strobe) := by
  rw [mmcSetTiming_eq]
  apply (sends_execMmcSwitch rca _ _).bind
  intro _
  apply Sends.get_bind
  intro s
  apply sends_fail.ite
  apply (Sends.setClockAndTiming strobe enabled).bind
  intro _
  exact (Sends.note _).bind fun _ => sends_verifyTiming rca p

/-- None of the modes in a mask is disabled. -/
def Free (disable : DeviceTypeDisable) (restricted : U8) : Prop :=
  ∀ mode : Mode, mode.bit.test restricted = true → mode.bit.test disable.mmc = false

/-- The timing of the mode and up to 40 tuning blocks. -/
theorem sends_programMode {mode : Mode} (enabled : mode.bit.test disable.mmc = false) :
    Sends host disable 93 (programMode host rca mode) := by
  apply (sends_mmcSetTiming rca (.mmc enabled) false).bind (b := 40)
  intro _
  apply Sends.get_bind
  intro s
  apply (Sends.pure _).ite
  apply Sends.ite _ (.pure _)
  exact (sends_tune cmd21SendTuningBlock 40).bind fun _ => (Sends.pure _).ite (.pure _)

/-- HS400 is reached by HS timing, a bus width and HS400 timing. HS timing is enabled only for the sake of
HS400. -/
theorem sends_switchHs400 (enabled : Mode.hs400.bit.test disable.mmc = false) (enhStrobe : Bool) :
    Sends host disable 157 (switchHs400 host rca enhStrobe) := by
  have hs400 : Enabled disable Mode.hs400.programming.freq Mode.hs400.programming.mmcTiming :=
    .mmc enabled
  apply (sends_mmcSetTiming rca (.base enabled) false).bind
  intro _
  apply Sends.get_bind
  intro s
  apply (Sends.pure _).ite
  apply (sends_mmcSetBusWidth rca _ enhStrobe).bind
  intro _
  apply Sends.get_bind
  intro s
  apply (Sends.pure _).ite
  apply (sends_mmcSetTiming rca hs400 enhStrobe).bind
  intro _
  apply Sends.get_bind
  intro s
  exact (Sends.pure _).ite (.pure _)

theorem sends_tryNext {n : Nat} (mode : Mode) (step : Step) (next : Modes) :
    Sends host disable n (tryNext mode step next) :=
  (Sends.note _).bind fun _ => .pure _

/-- A mode from which HS400 is not allowed is the last one; otherwise HS400 is in the mask, and nothing in
the mask is disabled. -/
theorem sends_finishMode (enhStrobe : Bool) {restricted : U8} (free : Free disable restricted)
    (mode : Mode) : Sends host disable 157 (finishMode host rca enhStrobe restricted mode) := by
  unfold finishMode
  by_cases allowed : Ec196DeviceType.hs400Ddr18.test restricted = true
  · rw [if_pos allowed]
    apply (sends_switchHs400 rca (free .hs400 allowed) enhStrobe).bind (b := 0)
    intro r
    cases r with
    | some step => exact sends_tryNext mode step _
    | none => exact .pure _
  · rw [if_neg allowed]
    exact .pure _

/-- The bus width, the mode, and the way to HS400: 51 commands, 93 and 157. -/
theorem sends_tryMode (enhStrobe : Bool) {restricted : U8} (free : Free disable restricted)
    {mode : Mode} (allowed : mode.bit.test restricted = true) :
    Sends host disable 301 (tryMode host rca enhStrobe restricted mode) := by
  apply (Sends.setVoltage .v180).bind
  intro _
  apply (Sends.delay _).bind
  intro _
  apply (sends_mmcSetBusWidth rca _ _).bind (b := 250)
  intro _
  apply Sends.get_bind
  intro s
  apply (sends_tryNext mode _ _).ite
  apply Sends.ite _ ((sends_finishMode rca enhStrobe free mode).le (by decide))
  apply (sends_programMode rca (free mode allowed)).bind (b := 157)
  intro r
  cases r with
  | some step => exact sends_tryNext mode step _
  | none => exact sends_finishMode rca enhStrobe free mode

/-- An iteration without a candidate throws; any other one tries a mode of the mask. -/
theorem sends_mmcModeRound (enhStrobe : Bool) {m : Modes} (free : Free disable m.allowed) :
    Sends host disable 301 (mmcModeRound host rca enhStrobe m) := by
  unfold mmcModeRound
  cases chosen : select m.allowed with
  | none => exact (Sends.note _).bind fun _ => .throw _
  | some mode => exact sends_tryMode rca enhStrobe free (select_some chosen).1

/-- An iteration that fails adds no modes. -/
theorem mmcModeRound_free (enhStrobe : Bool) {m : Modes} (free : Free disable m.allowed) :
    Yields (fun r => ∀ m', r = .inl m' → Free disable m'.allowed)
      (mmcModeRound host rca enhStrobe m) := by
  intro s
  apply (mmcModeRound_spec host rca enhStrobe m s).mono _ fun _ _ _ => trivial
  intro r s' outcome m' next mode allowed
  rw [next] at outcome
  obtain ⟨_, _, _, _, _, restricted, _⟩ := outcome
  rw [test_next restricted, Bool.and_eq_true_iff] at allowed
  exact free mode allowed.1

/-- The loop starts with a mask that leaves out the disabled modes, and `mmcModeRound_free` keeps it so. -/
theorem sends_mmcModeLoop (reported : U8) (enhStrobe : Bool) (rounds : Nat) :
    Sends host disable (rounds * 301)
      (mmcModeLoop host rca reported disable.mmc enhStrobe rounds) := by
  apply Sends.retry (fun _ => sends_mmcModeRound rca enhStrobe) fun _ => mmcModeRound_free rca enhStrobe
  exact fun mode allowed => (test_first mode).mp allowed |>.2

/-- CMD6 of an SD card, with the status block of 64 bytes as its data. -/
theorem sends_switchFunc (arg : U32) (text : String) : Sends host disable 1 (switchFunc host arg text) := by
  apply (Sends.initData cmd6SwitchFunc arg 64 host.ioVirt).bind
  intro _
  apply Sends.cmdExec.bind
  intro _
  exact (sends_checkError text).bind (a := 0) fun _ => .get_bind fun _ => .pure _

/-- ACMD6, if the card and the controller have four lines. -/
theorem sends_sdSetBusWidth (hasBus4bit : Bool) :
    Sends host disable 2 (sdSetBusWidth host rca hasBus4bit) := by
  apply Sends.ite _ (.pure ())
  apply (sends_mmcAppCmd rca _ _).bind
  intro _
  exact (sends_checkError _).bind (a := 0) fun _ => .setBusWidth _

/-- CMD6 for the power limit, if the mode needs one. -/
theorem sends_sdSetPower (sf : RegSwitchFunc) (mode : SdMode) :
    Sends host disable 1 (sdSetPower host sf mode) := by
  apply Sends.ite _ (.pure ())
  apply (sends_switchFunc _ _).bind
  intro status
  apply (Sends.note _).bind
  intro _
  exact ((Sends.note _).bind fun _ => .throw _).ite (.pure ())

/-- CMD6 for the mode and, unless the mode counts as refused, the clock of the mode. -/
theorem sends_sdSetMode (sf : RegSwitchFunc) {mode : SdMode}
    (enabled : Enabled disable mode.freq mode.timing) :
    Sends host disable 1 (sdSetMode host sf mode) := by
  apply (sends_switchFunc _ _).bind
  intro status
  apply (Sends.note _).bind
  intro _
  apply Sends.ite
  · exact (Sends.note _).bind fun _ => .throw_bind _ _
  · exact (Sends.note _).bind fun _ => .setClockAndTiming false enabled

/-- What an iteration disables was not chosen, or is disabled any more. -/
def Covers (disable : DeviceTypeDisable) (more : U32) : Prop :=
  ∀ mode : SdMode, more &&& mode.timing.bits = 0 → disable.sd &&& mode.timing.bits = 0

/-- The mode that an iteration selects is not disabled, except for HS, which is taken when nothing else is
left. -/
theorem sdSelect_enabled (v18 : Bool) (sf : RegSwitchFunc) {more : U32} (covers : Covers disable more) :
    Enabled disable (sdSelect host v18 sf more).freq (sdSelect host v18 sf more).timing := by
  by_cases last : sdSelect host v18 sf more = .hs
  · rw [last]
    exact .last
  · have allowed := sdSelect_allowed host v18 sf last
    unfold sdAllowed at allowed
    rw [Bool.and_eq_true_iff, decide_eq_true_iff] at allowed
    exact .sd (covers _ allowed.2)

/-- The bus width, the power limit, the mode, and up to 40 tuning blocks. A tuning that fails goes back to a
slow clock. -/
theorem sends_sdModeRound (v18 hasBus4bit : Bool) (sf : RegSwitchFunc) {more : U32}
    (covers : Covers disable more) :
    Sends host disable 44 (sdModeRound host rca v18 hasBus4bit sf more) := by
  apply (sends_sdSetBusWidth rca hasBus4bit).bind
  intro _
  apply (sends_sdSetPower sf _).bind
  intro _
  apply (sends_sdSetMode sf (sdSelect_enabled v18 sf covers)).bind
  intro _
  apply Sends.ite _ (.pure _)
  apply Sends.resetTuning.bind
  intro _
  apply (sends_tune cmd19SendTuningBlock 40).bind (b := 0)
  intro success
  apply Sends.ite
  · exact Sends.enableAutoTuning.bind fun _ => .pure _
  · exact (sends_slow (by decide) _).bind fun _ => .pure _

/-- An iteration that fails disables more. -/
theorem sdModeRound_covers (v18 hasBus4bit : Bool) (sf : RegSwitchFunc) {more : U32}
    (covers : Covers disable more) :
    Yields (fun r => ∀ more', r = .inl more' → Covers disable more')
      (sdModeRound host rca v18 hasBus4bit sf more) := by
  intro s
  apply (sdModeRound_continues host rca v18 hasBus4bit sf more s).mono _ fun _ _ _ => trivial
  intro r s' continues more' next mode free
  rw [(continues more' next).2, BitVec.and_or_distrib_right] at free
  exact covers mode (BitVec.or_eq_zero_iff.mp free).1

/-- The voltage of the signals is switched by the controller alone: CMD11 comes before. -/
theorem sends_sdSwitchVoltage :
    Sends host disable 0 (sdSwitchVoltage host) := by
  apply (Sends.delay 2).bind
  intro _
  apply (sends_slow (by decide) _).bind
  intro _
  apply (Sends.setVoltage _).bind
  intro _
  apply (Sends.delay 5).bind
  intro _
  apply (sends_slow (by decide) _).bind
  intro _
  apply (Sends.delay 5).bind
  intro _
  apply Sends.cardBusy.bind
  exact fun _ => (Sends.throw_bind _ _).ite (.delay 5)

/-- CMD6 in check mode, then the rounds. -/
theorem sends_sdNegotiate (v18 hasBus4bit : Bool) (rounds : Nat) :
    Sends host disable (rounds * 44 + 1)
      (sdNegotiate host rca v18 hasBus4bit disable.sd rounds) := by
  have loop : ∀ v18 sf, Sends host disable (rounds * 44)
      (retry (sdModeRound host rca v18 hasBus4bit sf) rounds disable.sd) :=
    fun v18 sf => .retry (fun _ => sends_sdModeRound rca v18 hasBus4bit sf)
      (fun _ => sdModeRound_covers rca v18 hasBus4bit sf) rounds disable.sd fun _ free => free
  apply (sends_switchFunc _ _).bind
  intro sf
  apply (Sends.note _).bind
  intro _
  exact Sends.ite (sends_sdSwitchVoltage.bind fun _ => loop _ _) (loop _ _)

/-! ### The scan -/

theorem sends_resetSdio (drv : Driver σ) : Sends drv.toHost disable 2 (resetSdio drv) := by
  apply (sends_execExpectingError _ _).bind
  intro _
  apply Sends.get_bind
  intro s
  exact (Sends.throw_bind _ _).ite (sends_execExpectingError _ _)

/-- CMD0 and CMD8 in each iteration. -/
theorem sends_goIdle (drv : Driver σ) (rounds : Nat) :
    ∀ i, Sends drv.toHost disable (rounds * 2) (goIdle drv i rounds) := by
  induction rounds with
  | zero => exact fun _ => .pure ()
  | succ rounds ih =>
    intro i
    rw [Nat.succ_mul]
    apply (sends_execChecked _ _ _).bind
    intro _
    apply (sends_execExpectingError _ _).bind
    intro _
    apply Sends.get_bind
    intro s
    exact Sends.ite ((Sends.throw_bind _ _).ite (ih _)) (.pure ())

/-- ACMD41 in each iteration. -/
theorem sends_sdWaitReady (drv : Driver σ) (a41 : U32) (rounds : Nat) :
    Sends drv.toHost disable (rounds * 2) (sdWaitReady drv a41 rounds) := by
  induction rounds with
  | zero => exact .pure ()
  | succ rounds ih =>
    rw [Nat.succ_mul]
    apply Sends.get_bind
    intro s
    apply (sends_mmcAppCmd _ _ _).bind
    intro _
    apply (sends_checkError _).bind (a := 0)
    intro _
    apply Sends.get_bind
    intro s
    exact Sends.ite ((Sends.delay 5).bind fun _ => ih) (.pure ())

/-- CMD11. While the card holds its lines low the clock stops, which is a slow setting. -/
theorem sends_sdVoltageSwitch (drv : Driver σ) : Sends drv.toHost disable 1 (sdVoltageSwitch drv) := by
  apply (sends_execChecked _ _ _).bind
  intro _
  apply sends_mmcStatus.bind (a := 0)
  intro status
  apply (Sends.throw_bind _ _).ite
  apply Sends.cardBusy.bind
  intro busy
  apply Sends.ite _ (.pure _)
  apply (Sends.delay 2).bind
  intro _
  apply (sends_slow (by decide) _).bind
  intro _
  apply (Sends.setVoltage _).bind
  intro _
  apply (Sends.delay 5).bind
  intro _
  apply (sends_slow (by decide) _).bind
  intro _
  apply (Sends.delay 5).bind
  intro _
  apply Sends.cardBusy.bind
  intro busy
  exact (Sends.throw_bind _ _).ite ((Sends.delay 5).bind fun _ => .pure _)

/-- CMD0, CMD8, up to 100 times ACMD41, and CMD11. -/
theorem sends_sdIdentifyRound (drv : Driver σ) (a41 : U32) :
    Sends drv.toHost disable 203 (sdIdentifyRound drv a41) := by
  apply (Sends.setBusWidth _).bind
  intro _
  apply (sends_slow (by decide) _).bind
  intro _
  apply (sends_execChecked _ _ _).bind
  intro _
  apply (sends_execChecked _ _ _).bind
  intro _
  apply (sends_sdWaitReady drv a41 100).bind (b := 1)
  intro _
  apply Sends.get_bind
  intro s
  apply (Sends.throw_bind _ _).ite
  apply (Sends.note _).bind
  intro _
  apply Sends.ite _ (.pure _)
  exact (sends_sdVoltageSwitch drv).bind (b := 0) fun _ => (Sends.pure _).ite (.pure _)

/-- The voltage switch can ask for another round. -/
theorem sends_sdIdentify (drv : Driver σ) (a41 : U32) (rounds : Nat) :
    Sends drv.toHost disable (rounds * 203) (sdIdentify drv a41 rounds) := by
  induction rounds with
  | zero => exact .pure _
  | succ rounds ih =>
    rw [Nat.succ_mul]
    apply (sends_sdIdentifyRound drv a41).bind
    intro r
    cases r with
    | some v18 => exact .pure v18
    | none => exact ih

theorem sends_checkLocked {n : Nat} : Sends host disable n (checkLocked : PowerUpM σ τ Unit) :=
  sends_mmcStatus.bind (a := 0) fun _ => (Sends.throw _).ite (.pure ())

/-- CMD2, CMD3, CMD9 and CMD7. -/
theorem sends_sdSelectCard (drv : Driver σ) : Sends drv.toHost disable 4 (sdSelectCard drv) := by
  apply (sends_execChecked _ _ _).bind
  intro _
  apply Sends.get_bind
  intro s
  apply (Sends.note _).bind
  intro _
  apply (sends_execChecked _ _ _).bind
  intro _
  apply Sends.get_bind
  intro s
  apply (Sends.note _).bind
  intro _
  apply Sends.get_bind
  intro s
  apply (sends_execChecked _ _ _).bind
  intro _
  apply Sends.get_bind
  intro s
  apply (Sends.note _).bind
  intro _
  apply Sends.get_bind
  intro s
  exact (sends_execChecked _ _ _).bind fun _ => sends_checkLocked

/-- ACMD51 and ACMD13. -/
theorem sends_sdReadRegisters (drv : Driver σ) : Sends drv.toHost disable 4 (sdReadRegisters drv) := by
  apply Sends.get_bind
  intro s
  apply (sends_mmcAppCmdData _ _ _ _).bind
  intro _
  apply (sends_checkError _).bind (a := 0)
  intro _
  apply Sends.get_bind
  intro s
  apply (Sends.throw_bind _ _).ite
  apply (Sends.note _).bind
  intro _
  apply Sends.get_bind
  intro s
  apply (sends_mmcAppCmdData _ _ _ _).bind
  intro _
  exact (sends_checkError _).bind (a := 0) fun _ => .pure _

/-- ACMD41 as a test for an SD card, ten rounds of identification, the registers, and six rounds of
negotiation. -/
theorem sends_powerUpSd (drv : Driver σ) (disable : DeviceTypeDisable) :
    Sends drv.toHost disable 2305 (powerUpSd drv disable) := by
  apply (Sends.note _).bind
  intro _
  apply Sends.get_bind
  intro s
  apply (sends_mmcAppCmd _ _ _).bind (b := 2303)
  intro _
  apply Sends.get_bind
  intro s
  apply (Sends.pure _).ite
  apply Sends.get_bind
  intro s
  apply (sends_sdIdentify drv _ 10).bind (b := 273)
  intro v18
  apply (sends_sdSelectCard drv).bind (b := 269)
  intro _
  apply (sends_sdReadRegisters drv).bind (b := 265)
  intro hasBus4bit
  apply Sends.get_bind
  intro s
  apply ((sends_sdNegotiate _ v18 hasBus4bit 6).traced []).bind (b := 0)
  intro r
  cases r with
  | some timing => exact (Sends.note _).bind fun _ => .pure _
  | none => exact .pure _

theorem sends_mmcWaitReady (drv : Driver σ) (a41 : U32) (rounds : Nat) :
    Sends drv.toHost disable rounds (mmcWaitReady drv a41 rounds) := by
  induction rounds with
  | zero => exact .pure ()
  | succ rounds ih =>
    apply (sends_execChecked _ _ _).bind
    intro _
    apply Sends.get_bind
    intro s
    exact Sends.ite ((Sends.delay 5).bind fun _ => ih) (.pure ())

theorem sends_mmcAllSendCid (drv : Driver σ) (rounds : Nat) :
    Sends drv.toHost disable rounds (mmcAllSendCid drv rounds) := by
  induction rounds with
  | zero => exact .pure ()
  | succ rounds ih =>
    apply (sends_exec _ _).bind
    intro _
    apply Sends.get_bind
    intro s
    exact ih.ite (.pure ())

/-- CMD0, 100 times CMD1, five times CMD2, then CMD3, CMD9, CMD7 and CMD8. -/
theorem sends_mmcIdentify (drv : Driver σ) (ocr : U32) :
    Sends drv.toHost disable 110 (mmcIdentify drv ocr) := by
  apply (sends_execChecked _ _ _).bind
  intro _
  apply (sends_mmcWaitReady drv _ 100).bind (b := 9)
  intro _
  apply Sends.get_bind
  intro s
  apply (Sends.throw_bind _ _).ite
  apply (Sends.note _).bind
  intro _
  apply (sends_mmcAllSendCid drv 5).bind (b := 4)
  intro _
  apply (sends_checkError _).bind (a := 0)
  intro _
  apply Sends.get_bind
  intro s
  apply (Sends.note _).bind
  intro _
  apply Sends.get_bind
  intro s
  apply (sends_execChecked _ _ _).bind
  intro _
  apply Sends.get_bind
  intro s
  apply (sends_execChecked _ _ _).bind
  intro _
  apply Sends.get_bind
  intro s
  apply (Sends.throw_bind _ _).ite
  apply Sends.get_bind
  intro s
  apply (sends_execChecked _ _ _).bind
  intro _
  apply sends_checkLocked.bind (a := 0)
  intro _
  exact (sends_execData _ _ _ _).bind (b := 0) fun _ => sends_checkError _

/-- A switch that must not fail sends what a switch sends. -/
theorem sends_mmcSwitch (drv : Driver σ) (idx val : U8) (text : String) :
    Sends drv.toHost disable 51 (mmcSwitch drv idx val text) := by
  apply Sends.get_bind
  intro s
  exact (sends_execMmcSwitch _ idx val).bind (b := 0) fun _ => sends_checkError text

/-- Five switches and CMD16. -/
theorem sends_mmcConfigure (drv : Driver σ) : Sends drv.toHost disable 256 (mmcConfigure drv) := by
  apply Sends.get_bind
  intro s
  apply (Sends.note _).bind
  intro _
  apply (sends_mmcSwitch drv _ _ _).bind
  intro _
  apply (sends_execChecked _ _ _).bind
  intro _
  apply (sends_mmcSwitch drv _ _ _).bind
  intro _
  apply (sends_mmcSwitch drv _ _ _).bind
  intro _
  apply Sends.get_bind
  intro s
  have bkops : ∀ r : U8, Sends drv.toHost disable 51 (do
      mmcSwitch drv Ec163BkopsEn.index (Ec163BkopsEn.autoEn.put 0 true) "CMD6: SWITCH/BKOPS"
      return r : InitM σ U8) :=
    fun r => (sends_mmcSwitch drv _ _ _).bind (b := 0) fun _ => .pure r
  apply Sends.ite
  · apply (Sends.note _).bind
    intro _
    exact (sends_mmcSwitch drv _ _ _).bind fun _ => bkops _
  · exact (bkops _).le (by decide)

/-- CMD1 as a test for an eMMC device, the identification, the configuration, and six rounds of the mode
loop. -/
theorem sends_powerUpMmc (drv : Driver σ) (disable : DeviceTypeDisable) :
    Sends drv.toHost disable 2173 (powerUpMmc drv disable) := by
  apply (sends_exec _ _).bind
  intro _
  apply Sends.get_bind
  intro s
  apply (Sends.pure _).ite
  apply Sends.get_bind
  intro s
  apply (sends_mmcIdentify drv _).bind (b := 2062)
  intro _
  apply (sends_mmcConfigure drv).bind (b := 1806)
  intro deviceType
  apply Sends.get_bind
  intro s
  apply ((sends_mmcModeLoop _ deviceType _ 6).traced {}).bind (b := 0)
  intro r
  cases r with
  | some selected => exact (Sends.note _).bind fun _ => .pure _
  | none => exact .pure _

/-- CMD0 and CMD8 to begin with, then both kinds of cards in turn. -/
theorem sends_initCard (drv : Driver σ) (disable : DeviceTypeDisable) :
    Sends drv.toHost disable 4482 (initCard drv disable) := by
  apply (Sends.setVoltage _).bind
  intro _
  apply (Sends.delay _).bind
  intro _
  apply (Sends.setBusWidth _).bind
  intro _
  apply (sends_slow (by decide) _).bind
  intro _
  apply (sends_goIdle drv 2 0).bind (b := 4478)
  intro _
  apply (sends_powerUpSd drv disable).bind (b := 2173)
  intro sd
  apply Sends.ite _ (.pure ())
  apply (sends_powerUpMmc drv disable).bind (b := 0)
  exact fun mmc => (Sends.throw _).ite (.pure ())

end PowerUp

end Emmc
