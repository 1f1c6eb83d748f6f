import Emmc.Lib.Frame
import Emmc.PowerUp.Order

/-!
# A driver that follows the scan

Every call of a scan is permitted (`calls_fine`). What a driver keeps true of its state at permitted calls
is therefore true during the whole scan.

* `Answers`: a call is answered in the right way if it is permitted.
* `Follows drv I J`: all calls are; `I` is what holds of the calls so far and the state, `J` what remains of
  it when a call has thrown.
* `Sends.carries`: so are those of everything that the initialisation is put together from.
* `scan_follows`: after a scan, `J` holds of its calls and the state that was reached.
* `Filmed`: what a driver has noted at each command, beside the calls.
* `Films.follows`, `scan_films`: a driver that stays in step with the calls and notes itself at each command
  has a film of the scan.
-/

namespace Emmc

open Throwing

namespace PowerUp

open Mmc

variable {σ τ α : Type}

/-- With `I` before and a call that is permitted, `I` holds afterwards of the log with the call. -/
def Answers (I J : List Call → σ → Prop) (call : Call) (m : EStateM RuntimeError σ Unit) : Prop :=
  ∀ log h, I log h → watch.permits call (watch.view log) →
    wp m (fun _ h' => I (call :: log) h') (fun _ h' => J (call :: log) h') h

structure Follows (host : Host σ) (I J : List Call → σ → Prop) : Prop where
  thrown : ∀ log h, I log h → J log h
  /-- Whether a command is permitted does not depend on its outcome. -/
  cmdExec : ∀ log c h, I log h → Permitted (sent c) (watch.view log) →
    wp host.cmdExec
      (fun _ t => ∀ ioBuf, I (.command (sent c) t.1 ioBuf :: log) t.2)
      (fun _ t => ∀ ioBuf, J (.command (sent c) t.1 ioBuf :: log) t.2) (c, h)
  setBusWidth : ∀ width, Answers I J (.busWidth width) (host.setBusWidth width)
  setClockAndTiming : ∀ freq timing strobe,
    Answers I J (.clock freq timing strobe) (host.setClockAndTiming freq timing strobe)
  setVoltage : ∀ voltage, Answers I J (.voltage voltage) (host.setVoltage voltage)
  delay : ∀ ms log, Carries (I log) (J log) (host.delay ms)
  tuningFinished : ∀ log, Carries (I log) (J log) host.tuningFinished
  resetTuning : ∀ log, Carries (I log) (J log) host.resetTuning
  enableAutoTuning : ∀ log, Carries (I log) (J log) host.enableAutoTuning
  cardBusy : ∀ log, Carries (I log) (J log) host.cardBusy

/-- What is permitted of a command however it ends. -/
theorem permitted_of {sent : Sent} {ended : Cmd} {ioBuf : Nat → U8} {v : View}
    (permits : watch.permits (.command sent ended ioBuf) v) : Permitted sent v :=
  fun _ _ => ⟨permits.1, permits.2.1⟩

/-- As long as the calls are permitted. -/
def WhileFine (I : List Call → σ → Prop) (s : σ × List Call) : Prop := watch.Fine s.2 → I s.2 s.1

section Calls

variable {I J : List Call → σ → Prop}

/-- What holds of the state of the driver, throughout a computation of the initialisation. -/
abbrev CarriesHw (I J : List Call → σ → Prop) (m : PowerUpM (σ × List Call) τ α) : Prop :=
  Carries (fun s => WhileFine I s.hw) (fun s => WhileFine J s.hw) m

theorem carries_recorded {call : Call} {m : EStateM RuntimeError σ Unit} (answers : Answers I J call m) :
    CarriesHw I J (onHw (recordCall call m) : PowerUpM (σ × List Call) τ Unit) := by
  intro s here
  unfold onHw recordCall
  rw [wp_zoom, wp_recorded]
  by_cases fine : watch.Fine (call :: s.hw.2)
  · obtain ⟨before, permits⟩ := (watch.fine_cons call s.hw.2).mp fine
    exact (answers s.hw.2 s.hw.1 (here before) permits).mono (fun _ _ holds _ => holds)
      fun _ _ holds _ => holds
  · exact (wp_any m s.hw.1).mono (fun _ _ _ fine' => absurd fine' fine)
      fun _ _ _ fine' => absurd fine' fine

theorem carries_unrecorded {m : EStateM RuntimeError σ α}
    (carries : ∀ log, Carries (I log) (J log) m) :
    CarriesHw I J (onHw (unrecorded m) : PowerUpM (σ × List Call) τ α) := by
  intro s here
  unfold onHw unrecorded
  rw [wp_zoom, wp_zoom]
  by_cases fine : watch.Fine s.hw.2
  · exact (carries s.hw.2 s.hw.1 (here fine)).mono (fun _ _ holds _ => holds) fun _ _ holds _ => holds
  · exact (wp_any m s.hw.1).mono (fun _ _ _ fine' => absurd fine' fine)
      fun _ _ _ fine' => absurd fine' fine

variable {host : Host σ}

theorem carries_cmdExec (follows : Follows host I J) :
    CarriesHw I J (cmdExec (spiedHost host) : PowerUpM (σ × List Call) τ Unit) := by
  intro s here
  have permitted : ∀ {ended ioBuf}, watch.Fine (.command (sent s.cmd) ended ioBuf :: s.hw.2) →
      watch.Fine s.hw.2 ∧ Permitted (sent s.cmd) (watch.view s.hw.2) := by
    intro ended ioBuf fine
    obtain ⟨before, permits⟩ := (watch.fine_cons _ s.hw.2).mp fine
    exact ⟨before, permitted_of permits⟩
  show wp (zoom _ _ (recordCommand host)) _ _ s
  unfold recordCommand
  rw [wp_zoom, wp_zoom, wp_recorded]
  by_cases allowed : watch.Fine s.hw.2 ∧ Permitted (sent s.cmd) (watch.view s.hw.2)
  · exact (follows.cmdExec s.hw.2 s.cmd s.hw.1 (here allowed.1) allowed.2).mono
      (fun _ _ holds _ => holds _) fun _ _ holds _ => holds _
  · exact (wp_any _ _).mono (fun _ _ _ fine => absurd (permitted fine) allowed)
      fun _ _ _ fine => absurd (permitted fine) allowed

/-- What the driver keeps true at each call is kept by everything that is put together from them. -/
theorem Sends.carries (follows : Follows host I J) {n : Nat} {m : PowerUpM (σ × List Call) τ α}
    (sends : Sends (spiedHost host) disable n m) : CarriesHw I J m := by
  induction sends with
  | pure a => exact .pure a
  | throw e => exact .throw (fun s here fine => follows.thrown _ _ (here fine)) e
  | get => exact fun _ here => here
  | bindYields first yields second ih ih' => exact ih.bind_yields yields ih'
  | modifyCmd kept => exact fun _ here => here
  | note f => exact fun _ here => here
  | initData word arg blocksize virt =>
    intro s here
    apply (initData_spec _ word arg blocksize virt s).imp_ok
    intro _ s' post
    show WhileFine I s'.hw
    rwa [post.2.1]
  | cmdExec => exact carries_cmdExec follows
  | setBusWidth width => exact carries_recorded (follows.setBusWidth width)
  | setClockAndTiming strobe enabled =>
    exact carries_recorded (follows.setClockAndTiming _ _ strobe)
  | setVoltage voltage => exact carries_recorded (follows.setVoltage voltage)
  | delay ms => exact carries_unrecorded (follows.delay ms)
  | tuningFinished => exact carries_unrecorded follows.tuningFinished
  | resetTuning => exact carries_unrecorded follows.resetTuning
  | enableAutoTuning => exact carries_unrecorded follows.enableAutoTuning
  | cardBusy => exact carries_unrecorded follows.cardBusy
  | traced trace body ih =>
    intro s here
    unfold PowerUp.traced
    rw [wp_zoom]
    exact ih ⟨s.cmd, s.hw, trace⟩ here
  | le sends bound ih => exact ih

end Calls

/-! ## The scan -/

variable {I J : List Call → σ → Prop} (drv : Driver σ)

theorem carries_onSlot (follows : Follows drv.toHost I J) (disable : DeviceTypeDisable) {slot : Slot}
    {n : Nat} {m : InitM (σ × List Call) α} (sends : Sends (spiedHost drv.toHost) disable n m) :
    Carries (fun s => WhileFine I s.hw) (fun s => WhileFine J s.hw) (onSlot slot m) := by
  intro s here
  rw [wp_onSlot]
  exact sends.carries follows ⟨s.queue.cmds slot, s.hw, s.medium⟩ here

theorem carries_onQueue {K L : σ × List Call → Prop} (weaker : ∀ s, K s → L s)
    (m : EStateM RuntimeError CmdQueue α) :
    Carries (fun s : Scan (σ × List Call) => K s.hw) (fun s => L s.hw) (onQueue m) := by
  intro s here
  rw [wp_onQueue]
  exact (wp_any m s.queue).mono (fun _ _ _ => here) fun _ _ _ => weaker s.hw here

/-- The handler of the scan only gives the slot back. -/
theorem carries_retire {K : σ × List Call → Prop} (slot : Slot) (found : Bool) :
    Carries (fun s : Scan (σ × List Call) => K s.hw) (fun s => K s.hw)
      (do onQueue (CmdQueue.retire slot); return found) :=
  (carries_onQueue (fun _ here => here) _).bind fun _ => .pure found

theorem startDeviceScan_carries (follows : Follows drv.toHost I J) (disable : DeviceTypeDisable)
    {s : Scan σ} (init : wp drv.init (fun _ h => I [] h) (fun _ h => J [] h) s.hw) :
    wp (startDeviceScan drv.spied disable) (fun _ s' => WhileFine J s'.hw)
      (fun _ s' => WhileFine J s'.hw) (fresh s) := by
  have weaker : ∀ s, WhileFine I s → WhileFine J s := fun _ here fine => follows.thrown _ _ (here fine)
  have initialised : wp (onDrv drv.spied.init) (fun _ s' => WhileFine I s'.hw)
      (fun _ s' => WhileFine J s'.hw) (fresh s) := by
    show wp (zoom _ _ (unrecorded drv.init)) _ _ _
    unfold unrecorded
    rw [wp_zoom, wp_zoom]
    exact init.mono (fun _ _ holds _ => holds) fun _ _ holds _ => holds
  unfold startDeviceScan
  apply initialised.bind
  intro _ s₁ here₁
  apply (carries_onQueue weaker CmdQueue.createCmd s₁ here₁).bind
  intro slot? s₂ here₂
  cases slot? with
  | none => exact weaker _ here₂
  | some slot =>
    apply (carries_onSlot drv follows disable (sends_slow (by decide) _) s₂ here₂).bind
    intro _ s₃ here₃
    apply (carries_onSlot drv follows disable (sends_resetSdio drv.spied) s₃ here₃).bind
    intro _ s₄ here₄
    unfold initThread
    rw [wp_tryCatch, wp_bind]
    apply (carries_onSlot drv follows disable (sends_initCard drv.spied disable) s₄ here₄).mono
    · intro _ s₅ here₅
      exact (carries_retire slot true s₅ (weaker _ here₅)).mono (fun _ _ here => here)
        fun _ s₆ here₆ => carries_retire slot false s₆ here₆
    · exact fun _ s₅ here₅ => carries_retire slot false s₅ here₅

/-- The state of the driver after a scan. -/
def reached (disable : DeviceTypeDisable) (s : Scan σ) : σ :=
  (after (startDeviceScan drv.spied disable) (fresh s)).hw.1

theorem scan_follows (follows : Follows drv.toHost I J) (disable : DeviceTypeDisable) {s : Scan σ}
    (init : wp drv.init (fun _ h => I [] h) (fun _ h => J [] h) s.hw) :
    J (calls drv disable s) (reached drv disable s) := by
  have ends := after_of_wp (startDeviceScan_carries drv follows disable init)
  exact ends (calls_fine drv disable s)

/-! ## Films -/

/-- The width of the bus that was set last. -/
def lastWidth : List Call → Option BusWidth
  | [] => none
  | .busWidth width :: _ => some width
  | _ :: log => lastWidth log

/-- A film of the scan: one picture for each command among the calls, which tells what was asked for before
the command. -/
inductive Filmed {φ : Type} (told : View → Option BusWidth → φ → Prop) : List Call → List φ → Prop
  | nil : Filmed told [] []
  | command {log : List Call} {film : List φ} {picture : φ} (sent : Sent) (ended : Cmd) (ioBuf : Nat → U8) :
    Filmed told log film → told (watch.view log) (lastWidth log) picture →
    Filmed told (.command sent ended ioBuf :: log) (picture :: film)
  | other {log : List Call} {film : List φ} {call : Call} :
    isCommand call = false → Filmed told log film → Filmed told (call :: log) film

/-- The width behind one more call. -/
def widthAfter : Call → Option BusWidth → Option BusWidth
  | .busWidth width, _ => some width
  | _, width => width

/-- The last width is the one of the newest call that sets a width. -/
theorem lastWidth_cons (call : Call) (log : List Call) :
    lastWidth (call :: log) = widthAfter call (lastWidth log) := by
  cases call <;> rfl

section Films

variable {φ : Type} (inStep : View → Option BusWidth → σ → Prop) (told : View → Option BusWidth → φ → Prop)
  (filmed : σ → List φ)

/-- The call leaves the driver in step, and no picture is taken. -/
def Heeds (call : Call) (m : EStateM RuntimeError σ Unit) : Prop :=
  ∀ v width h, inStep v width h → watch.permits call v →
    wp m (fun _ h' => inStep (View.next call v) (widthAfter call width) h' ∧ filmed h' = filmed h)
      (fun _ h' => filmed h' = filmed h) h

/-- What is not among the calls leaves the driver in step, too. -/
def Unnoticed (m : EStateM RuntimeError σ α) : Prop :=
  ∀ v width h, inStep v width h →
    wp m (fun _ h' => inStep v width h' ∧ filmed h' = filmed h) (fun _ h' => filmed h' = filmed h) h

/-- The driver is in step with the calls, and their commands are filmed. -/
def Filming (log : List Call) (h : σ) : Prop :=
  inStep (watch.view log) (lastWidth log) h ∧ Filmed told log (filmed h)

/-- One more picture is taken, of what was asked for. -/
def Pictured (v : View) (width : Option BusWidth) (h h' : σ) : Prop :=
  ∃ picture, told v width picture ∧ filmed h' = picture :: filmed h

/-- A driver that stays in step with the calls and takes a picture of itself at each command. -/
structure Films (host : Host σ) : Prop where
  cmdExec : ∀ c v width h, inStep v width h → Permitted (sent c) v →
    wp host.cmdExec
      (fun _ t => inStep (v.executed (sent c) t.1) width t.2 ∧ Pictured told filmed v width h t.2)
      (fun _ t => Pictured told filmed v width h t.2) (c, h)
  setBusWidth : ∀ width, Heeds inStep filmed (.busWidth width) (host.setBusWidth width)
  setClockAndTiming : ∀ freq timing strobe,
    Heeds inStep filmed (.clock freq timing strobe) (host.setClockAndTiming freq timing strobe)
  setVoltage : ∀ voltage, Heeds inStep filmed (.voltage voltage) (host.setVoltage voltage)
  delay : ∀ ms, Unnoticed inStep filmed (host.delay ms)
  tuningFinished : Unnoticed inStep filmed host.tuningFinished
  resetTuning : Unnoticed inStep filmed host.resetTuning
  enableAutoTuning : Unnoticed inStep filmed host.enableAutoTuning
  cardBusy : Unnoticed inStep filmed host.cardBusy

variable {inStep told filmed}

/-- A computation without calls shows nothing new. -/
theorem Unnoticed.pure (a : α) : Unnoticed inStep filmed (Pure.pure a : EStateM RuntimeError σ α) :=
  fun _ _ _ here => ⟨here, rfl⟩

/-- The picture of a command is taken when it is executed, and it is added to the film. -/
theorem Pictured.complete {log : List Call} {h h' : σ}
    (pictured : Pictured told filmed (watch.view log) (lastWidth log) h h')
    (taken : Filmed told log (filmed h)) (sent : Sent) (ended : Cmd) (ioBuf : Nat → U8) :
    Filmed told (.command sent ended ioBuf :: log) (filmed h') := by
  obtain ⟨picture, here, more⟩ := pictured
  rw [more]
  exact .command sent ended ioBuf taken here

/-- A call that the controller heeds leaves it in step, with the same film: only commands are filmed. -/
theorem Heeds.answers {call : Call} {m : EStateM RuntimeError σ Unit} (heeds : Heeds inStep filmed call m)
    (other : isCommand call = false) :
    Answers (Filming inStep told filmed) (fun log h => Filmed told log (filmed h)) call m := by
  intro log h here permits
  have longer : ∀ {h'}, filmed h' = filmed h → Filmed told (call :: log) (filmed h') := by
    intro h' same
    rw [same]
    exact .other other here.2
  apply (heeds _ _ h here.1 permits).mono
  · intro _ h' post
    refine ⟨?_, longer post.2⟩
    rw [watch.view_cons, lastWidth_cons]
    exact post.1
  · exact fun _ _ same => longer same

/-- A call that is not recorded leaves the controller in step with the log. -/
theorem Unnoticed.carries {m : EStateM RuntimeError σ α} (unnoticed : Unnoticed inStep filmed m)
    (log : List Call) :
    Carries (Filming inStep told filmed log) (fun h => Filmed told log (filmed h)) m := by
  intro h here
  have still : ∀ {h'}, filmed h' = filmed h → Filmed told log (filmed h') := by
    intro h' same
    rw [same]
    exact here.2
  exact (unnoticed _ _ h here.1).mono (fun _ _ post => ⟨post.1, still post.2⟩) fun _ _ same => still same

/-- A controller that heeds its calls is filmed in step with the log, call by call. -/
theorem Films.follows {host : Host σ} (films : Films inStep told filmed host) :
    Follows host (Filming inStep told filmed) (fun log h => Filmed told log (filmed h)) where
  thrown _ _ here := here.2
  cmdExec := by
    intro log c h here permitted
    apply (films.cmdExec c _ _ h here.1 permitted).mono
    · intro _ t post ioBuf
      refine ⟨?_, post.2.complete here.2 _ _ _⟩
      rw [watch.view_cons]
      exact post.1
    · exact fun _ _ pictured ioBuf => pictured.complete here.2 _ _ _
  setBusWidth width := (films.setBusWidth width).answers rfl
  setClockAndTiming freq timing strobe := (films.setClockAndTiming freq timing strobe).answers rfl
  setVoltage voltage := (films.setVoltage voltage).answers rfl
  delay ms := (films.delay ms).carries
  tuningFinished := films.tuningFinished.carries
  resetTuning := films.resetTuning.carries
  enableAutoTuning := films.enableAutoTuning.carries
  cardBusy := films.cardBusy.carries

/-- After a scan that starts without a picture, its commands are filmed. -/
theorem scan_films (films : Films inStep told filmed drv.toHost) (disable : DeviceTypeDisable) {s : Scan σ}
    (init : wp drv.init (fun _ h => inStep watch.start none h ∧ filmed h = []) (fun _ h => filmed h = [])
      s.hw) :
    Filmed told (calls drv disable s) (filmed (reached drv disable s)) := by
  apply scan_follows drv films.follows disable
  apply init.mono
  · intro _ h post
    refine ⟨post.1, ?_⟩
    rw [post.2]
    exact .nil
  · intro _ h none
    rw [none]
    exact .nil

end Films

end PowerUp

end Emmc
