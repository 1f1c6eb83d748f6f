import Emmc.Drv
import Emmc.Lib.Frame

/-!
# Powering up a card

What the negotiation of the card's mode is built from: commands that are executed one after the other in
one command context, and the driver functions that program the controller. `Host` is the driver with the
card behind it and the I/O buffer; nothing is asked of it, so it may answer as it likes and throw anywhere.

* `execMmcSwitch`, `mmcAppCmd` and `tune` are common to the negotiations.
* `PowerUp` carries a `trace` of what was tried, which is for the results only.
* `Silent`: a computation that does not write to the trace. All of these are.

Statistics and log output are left out.
-/

namespace Emmc

open Throwing

namespace Mmc

def cmd6SwitchFunc : U32 := 6 ||| adtc ||| respR1 ||| dirRead
def cmd55AppCmd : U32 := 55 ||| ac ||| respR1
def acmd6SetBusWidth : U32 := 6 ||| ac ||| respR1

inductive BusWidth
  | width1bit
  | width4bit
  | width8bit
deriving DecidableEq, Repr

inductive Timing
  | legacy
  | hs
  | uhsSdr12
  | uhsSdr25
  | uhsSdr50
  | uhsSdr104
  | uhsDdr50
  | mmcDdr52
  | mmcHs200
  | mmcHs400
deriving DecidableEq, Repr

/-- The numbers of `Mmc::Timing`. -/
def Timing.bits : Timing → U32
  | .legacy => 0
  | .hs => 1 <<< 0
  | .uhsSdr12 => 1 <<< 1
  | .uhsSdr25 => 1 <<< 2
  | .uhsSdr50 => 1 <<< 3
  | .uhsSdr104 => 1 <<< 4
  | .uhsDdr50 => 1 <<< 5
  | .mmcDdr52 => 1 <<< 6
  | .mmcHs200 => 1 <<< 7
  | .mmcHs400 => 1 <<< 8

inductive Voltage
  | v120
  | v180
  | v330
deriving DecidableEq, Repr

inductive PowerLimit
  | power072w
  | power144w
  | power216w
  | power288w
  | power180w
deriving DecidableEq, Repr

/-- `Max_loops` of `Arg_cmd19_send_tuning_block` and `Arg_cmd21_send_tuning_block`. -/
def maxTuningLoops : Nat := 40

end Mmc

def kHz : U32 := 1000
def mHz : U32 := 1000000

/-- Delay after changing the voltage. -/
def voltageDelayMs : U32 := 10

/-- What the initialisation uses of the driver, in a state `σ` of controller and card. -/
structure Host (σ : Type) where
  suppUhsTimings : Mmc.Timing → Bool
  suppPowerLimit : Mmc.PowerLimit → Bool
  needsTuningSdr50 : Bool
  ioPhys : U64
  ioVirt : U64
  /-- The bytes of the I/O buffer. -/
  ioBuf : σ → Nat → U8
  cmdExec : Action σ Unit
  setBusWidth : Mmc.BusWidth → EStateM RuntimeError σ Unit
  setClockAndTiming : U32 → Mmc.Timing → Bool → EStateM RuntimeError σ Unit
  setVoltage : Mmc.Voltage → EStateM RuntimeError σ Unit
  delay : U32 → EStateM RuntimeError σ Unit
  /-- Whether tuning was successful, once it has finished. -/
  tuningFinished : EStateM RuntimeError σ (Option Bool)
  resetTuning : EStateM RuntimeError σ Unit
  enableAutoTuning : EStateM RuntimeError σ Unit
  cardBusy : EStateM RuntimeError σ Bool

/-- The command context, the driver with the card, and a trace of what was tried. -/
structure PowerUp (σ τ : Type) where
  cmd : Cmd := {}
  hw : σ
  trace : τ

abbrev PowerUpM (σ τ : Type) := EStateM RuntimeError (PowerUp σ τ)

namespace PowerUp

variable {σ τ : Type}

/-- The command ended well: the card is in the transfer state and ready for data. -/
def answered (c : Cmd) : Cmd :=
  { c with status := .success, resp := fun _ => 0x900,
           flags := { c.flags with hasR1Response := true } }

def modifyCmd (f : Cmd → Cmd) : PowerUpM σ τ Unit := modify fun s => { s with cmd := f s.cmd }

def note (f : τ → τ) : PowerUpM σ τ Unit := modify fun s => { s with trace := f s.trace }

/-- Run a driver function. -/
def onHw {α : Type} (m : EStateM RuntimeError σ α) : PowerUpM σ τ α :=
  zoom (fun s => s.hw) (fun h s => { s with hw := h }) m

def checkError (text : String) : PowerUpM σ τ Unit := do
  match (← get).cmd.checkError text with
  | .error e => throw e
  | .ok _ => return ()

variable (host : Host σ) (rca : U16)

/-- Execute the command synchronously. -/
def cmdExec : PowerUpM σ τ Unit :=
  zoom (fun s => (s.cmd, s.hw)) (fun t s => { s with cmd := t.1, hw := t.2 }) host.cmdExec

/-- `cmd->init_data` with the I/O buffer. -/
def initData (word arg blocksize : U32) (virt : U64) : PowerUpM σ τ Unit := do
  match (← get).cmd.initData word arg blocksize host.ioPhys virt with
  | .error e => throw e
  | .ok c => modifyCmd fun _ => c

/-- The CMD13 polls after a switch. -/
def pollSwitch : Nat → PowerUpM σ τ Unit
  | 0 => return ()
  | polls + 1 => do
    modifyCmd (·.initArg Mmc.cmd13SendStatus (rca.setWidth 32 <<< 16))
    cmdExec host
    let c := (← get).cmd
    if c.error || c.switchError then
      return ()
    else
      match c.mmcStatus with
      | .error e => throw e
      | .ok status =>
        if Mmc.DeviceStatus.readyForData.test status then
          return ()
        else
          onHw (host.delay 1)
          pollSwitch polls

def execMmcSwitch (idx val : U8) : PowerUpM σ τ Unit := do
  let a6 := Mmc.ArgCmd6Switch.access.set 0 Mmc.ArgCmd6Switch.writeByte
  let a6 := Mmc.ArgCmd6Switch.index.set a6 (idx.setWidth 32)
  let a6 := Mmc.ArgCmd6Switch.value.set a6 (val.setWidth 32)
  let a6 := Mmc.ArgCmd6Switch.cmdset.set a6 0
  modifyCmd (·.initArg Mmc.cmd6Switch a6)
  modifyCmd (·.markStatusAfterSwitch)
  cmdExec host
  if (← get).cmd.status = .success then
    pollSwitch host rca 50

/-- An application command without data. -/
def mmcAppCmd (word arg : U32) : PowerUpM σ τ Unit := do
  modifyCmd (·.initArg Mmc.cmd55AppCmd (rca.setWidth 32 <<< 16))
  cmdExec host
  if !(← get).cmd.error then
    modifyCmd (·.initArg word arg)
    modifyCmd fun c => { c with flags := { c.flags with appCmd := true } }
    cmdExec host

/-- Send tuning blocks until the controller has finished; the result is `success`. -/
def tune (word : U32) : Nat → PowerUpM σ τ Bool
  | 0 => return false
  | loops + 1 => do
    modifyCmd (·.initArg word 0)
    cmdExec host
    match (← get).cmd.status with
    | .success =>
      match ← onHw host.tuningFinished with
      | some success => return success
      | none => tune word loops
    | .cmdTimeout => return false
    | _ => tune word loops

/-- Preparing a command changes the command alone. -/
@[simp] theorem wp_modifyCmd {f : Cmd → Cmd} {Q : PUnit → PowerUp σ τ → Prop}
    {E : RuntimeError → PowerUp σ τ → Prop} {s : PowerUp σ τ} :
    wp (modifyCmd f) Q E s ↔ Q ⟨⟩ { s with cmd := f s.cmd } := Iff.rfl

@[simp] theorem wp_note {f : τ → τ} {Q : PUnit → PowerUp σ τ → Prop}
    {E : RuntimeError → PowerUp σ τ → Prop} {s : PowerUp σ τ} :
    wp (note f) Q E s ↔ Q ⟨⟩ { s with trace := f s.trace } := Iff.rfl

/-- The address that `init_data` tests has 32 bits; it never throws. -/
theorem initData_spec (word arg blocksize : U32) (virt : U64) (s : PowerUp σ τ) :
    wp (initData host word arg blocksize virt)
      (fun _ s' => s'.cmd.cmd = word ∧ s'.hw = s.hw ∧ s'.trace = s.trace) (fun _ _ => False) s := by
  unfold initData
  rw [wp_bind, wp_get, Cmd.initData_ok]
  exact ⟨rfl, rfl, rfl⟩

/-! ## The trace -/

/-- Nothing is written to the trace. -/
abbrev Silent {α : Type} (m : PowerUpM σ τ α) : Prop := Spares (fun s => s.trace) m

theorem silent_modifyCmd (f : Cmd → Cmd) : Silent (modifyCmd f : PowerUpM σ τ Unit) :=
  Relates.modify fun _ => rfl

/-- A call of the driver writes no trace: it changes the controller and nothing else. -/
theorem silent_onHw {α : Type} (m : EStateM RuntimeError σ α) : Silent (onHw m : PowerUpM σ τ α) := by
  apply Spares.zoom_apart
  exact fun _ _ => rfl

/-- The check of a command reads it. -/
theorem silent_checkError (text : String) : Silent (checkError text : PowerUpM σ τ Unit) := by
  apply Relates.get_bind
  intro s
  cases s.cmd.checkError text with
  | error e => exact Relates.throw e
  | ok _ => exact Relates.pure ()

/-- Executing a command ends with the command of the controller, and the trace stays. -/
theorem silent_cmdExec : Silent (cmdExec host : PowerUpM σ τ Unit) := by
  apply Spares.zoom_apart
  exact fun _ _ => rfl

/-- Data are set up in the command and in the descriptors. -/
theorem silent_initData (word arg blocksize : U32) (virt : U64) :
    Silent (initData host word arg blocksize virt : PowerUpM σ τ Unit) := by
  apply Relates.get_bind
  intro s
  cases s.cmd.initData word arg blocksize host.ioPhys virt with
  | error e => exact Relates.throw e
  | ok c => exact silent_modifyCmd _

/-- By induction on the number of polls that are left. -/
theorem silent_pollSwitch (polls : Nat) :
    Silent (pollSwitch host rca polls : PowerUpM σ τ Unit) := by
  induction polls with
  | zero => exact Relates.pure ()
  | succ polls ih =>
    apply (silent_modifyCmd _).bind
    intro _
    apply (silent_cmdExec host).bind
    intro _
    apply Relates.get_bind
    intro s
    apply Relates.ite (Relates.pure ())
    cases s.cmd.mmcStatus with
    | error e => exact Relates.throw e
    | ok status => exact Relates.ite (Relates.pure ()) ((silent_onHw _).bind fun _ => ih)

/-- A switch is prepared, executed and polled, and none of it is traced. -/
theorem silent_execMmcSwitch (idx val : U8) :
    Silent (execMmcSwitch host rca idx val : PowerUpM σ τ Unit) := by
  apply (silent_modifyCmd _).bind
  intro _
  apply (silent_modifyCmd _).bind
  intro _
  apply (silent_cmdExec host).bind
  intro _
  apply Relates.get_bind
  intro s
  exact Relates.ite (silent_pollSwitch host rca 50) (Relates.pure ())

/-- Neither CMD55 nor the application command is traced. -/
theorem silent_mmcAppCmd (word arg : U32) :
    Silent (mmcAppCmd host rca word arg : PowerUpM σ τ Unit) := by
  apply (silent_modifyCmd _).bind
  intro _
  apply (silent_cmdExec host).bind
  intro _
  apply Relates.get_bind
  intro s
  apply Relates.ite _ (Relates.pure ())
  apply (silent_modifyCmd _).bind
  intro _
  exact (silent_modifyCmd _).bind fun _ => silent_cmdExec host

/-- The trace of a mode does not list its tuning blocks. -/
theorem silent_tune (word : U32) (loops : Nat) :
    Silent (tune host word loops : PowerUpM σ τ Bool) := by
  induction loops with
  | zero => exact Relates.pure false
  | succ loops ih =>
    apply (silent_modifyCmd _).bind
    intro _
    apply (silent_cmdExec host).bind
    intro _
    apply Relates.get_bind
    intro s
    cases s.cmd.status with
    | success =>
      apply (silent_onHw _).bind
      intro finished
      cases finished with
      | some success => exact Relates.pure success
      | none => exact ih
    | cmdTimeout => exact Relates.pure false
    | _ => exact ih

end PowerUp

end Emmc
