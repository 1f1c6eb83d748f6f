import Emmc.PowerUp.Sends
import Emmc.PowerUp.Transfer

/-!
# The whole initialisation, call by call

From the first call to the end of `start_device_scan`. `Settles` is `Stays` for the parts that know the
address of the card from the device itself.

* `powerUpSd_leads`, `powerUpMmc_leads`, `initCard_leads`: where each part leaves the card.
* `startDeviceScan_leads`: every call of a scan was permitted, and a scan that finds a card has selected it.
* `calls_asked`: a scan asks for no timing that the command line forbids.
-/

namespace Emmc

open Throwing

namespace PowerUp

open Mmc

variable {σ τ α β : Type} {rca : U16} {v18 : Prop}

/-! ## With a trace of its own -/

/-- The trace of its own is dropped behind the part, and the address of the medium is still there. -/
theorem leads_traced {m : PowerUpM (σ × List Call) τ α} (stays : Stays rca v18 m) (trace : τ)
    {s : PowerUp (σ × List Call) Medium} (here : InTransfer rca v18 s) :
    Leads (traced trace m) (fun _ s' => s'.trace = s.trace ∧ InTransfer rca v18 s') s := by
  unfold Leads traced
  rw [wp_zoom]
  exact (stays ⟨s.cmd, s.hw, trace⟩ here).imp fun _ _ here' => ⟨rfl, here'⟩

/-- A result that the computation always has. -/
theorem Leads.and {m : PowerUpM (σ × List Call) τ α} {Q Q' : α → PowerUp (σ × List Call) τ → Prop}
    {s : PowerUp (σ × List Call) τ} (leads : Leads m Q s) (also : wp m Q' (fun _ _ => True) s) :
    Leads m (fun a s' => Q a s' ∧ Q' a s') s :=
  (wp.and leads also).mono (fun _ _ both => both) (fun _ _ both => both.1)

/-- Executing a command notes nothing about the medium. -/
theorem silent_exec (host : Host σ) (word arg : U32) :
    Silent (exec host word arg : PowerUpM σ τ Unit) :=
  (silent_modifyCmd _).bind fun _ => silent_cmdExec host

theorem silent_execChecked (host : Host σ) (word arg : U32) (text : String) :
    Silent (execChecked host word arg text : PowerUpM σ τ Unit) :=
  (silent_exec host word arg).bind fun _ => silent_checkError text

theorem silent_mmcAppCmdData (host : Host σ) (rca : U16) (word arg datalen : U32) :
    Silent (mmcAppCmdData host rca word arg datalen : PowerUpM σ τ Unit) := by
  apply (silent_modifyCmd _).bind
  intro _
  apply (silent_cmdExec host).bind
  intro _
  apply Relates.get_bind
  intro s
  apply Relates.ite _ (Relates.pure ())
  apply (silent_initData host _ _ _ _).bind
  intro _
  exact (silent_modifyCmd _).bind fun _ => silent_cmdExec host

/-! ## The card is selected -/

/-- The card is in the transfer state at the address that the device remembers. -/
def AtAddress (rca : U16) (v18 : Prop) (s : PowerUp (σ × List Call) Medium) : Prop :=
  s.trace.rca = rca ∧ InTransfer rca v18 s

/-- The card stays in the transfer state, and the device does not forget its address. -/
abbrev Settles (rca : U16) (v18 : Prop) (m : PowerUpM (σ × List Call) Medium α) : Prop :=
  Carries (AtAddress rca v18) Fine m

/-- A part that stays and notes nothing keeps the address. -/
theorem Settles.of_silent {m : PowerUpM (σ × List Call) Medium α} (stays : Stays rca v18 m)
    (silent : Silent m) : Settles rca v18 m := by
  intro s here
  apply ((stays s here.2).and (silent s)).mono
  · exact fun _ _ both => ⟨(congrArg Medium.rca both.2).trans here.1, both.1⟩
  · exact fun _ _ both => both.1

/-- A part that settles leads from the address back to it. -/
theorem Settles.leads {m : PowerUpM (σ × List Call) Medium α} (settles : Settles rca v18 m)
    {s : PowerUp (σ × List Call) Medium} (address : s.trace.rca = rca) (here : InTransfer rca v18 s) :
    Leads m (fun _ s' => AtAddress rca v18 s') s :=
  settles s ⟨address, here⟩

/-- A note about something else keeps the address. -/
theorem settles_note {f : Medium → Medium} (same : ∀ m, (f m).rca = m.rca) :
    Settles rca v18 (note f : PowerUpM (σ × List Call) Medium Unit) :=
  fun _ here => ⟨(same _).trans here.1, here.2⟩

theorem settles_checkError (text : String) :
    Settles rca v18 (checkError text : PowerUpM (σ × List Call) Medium Unit) :=
  .of_silent (stays_checkError text) (silent_checkError text)

variable (drv : Driver σ)

/-- An application command keeps it. -/
theorem settles_mmcAppCmdData {word arg datalen : U32}
    (known : word ∈ (CardState.tran rca).appCommands)
    (other : word ∉ cmd55AppCmd :: CardState.addressed) :
    Settles rca v18 (mmcAppCmdData drv.spied.toHost rca word arg datalen) :=
  .of_silent (stays_mmcAppCmdData drv known other) (silent_mmcAppCmdData _ _ _ _ _)

theorem settles_execChecked {word arg : U32} (command : Transferred rca word arg) (text : String) :
    Settles rca v18 (execChecked drv.spied.toHost word arg text) :=
  .of_silent ((stays_exec drv command).bind fun _ => stays_checkError text)
    (silent_execChecked _ _ _ _)

/-- A switch uses the address that was noted. -/
theorem settles_mmcSwitch (idx val : U8) (text : String) :
    Settles rca v18 (mmcSwitch drv.spied idx val text) := by
  apply Carries.get_bind
  intro s here
  rw [here.1]
  apply Carries.bind _ fun _ => settles_checkError text
  exact Settles.of_silent (stays_execMmcSwitch drv idx val) (silent_execMmcSwitch _ _ _ _)

/-- Both registers are read at the address. -/
theorem settles_sdReadRegisters : Settles rca v18 (sdReadRegisters drv.spied) := by
  apply Carries.get_bind
  intro s here
  rw [here.1]
  apply (settles_mmcAppCmdData drv (by simp [CardState.appCommands]) (by decide)).bind
  intro _
  apply (settles_checkError _).bind
  intro _
  apply Carries.get_bind
  intro s₁ _
  apply Carries.ite (Carries.throw_bind (fun _ here => here.2.fine) _ _)
  refine Carries.bind (settles_note fun _ => rfl) fun _ => ?_
  apply Carries.get_bind
  intro s₂ here₂
  rw [here₂.1]
  apply (settles_mmcAppCmdData drv (by simp [CardState.appCommands]) (by decide)).bind
  intro _
  exact (settles_checkError _).bind fun _ => Carries.pure _

/-- The five switches and CMD16 come one behind the other. -/
theorem settles_mmcConfigure : Settles rca v18 (mmcConfigure drv.spied) := by
  have blocklen : Transferred rca cmd16SetBlocklen 512 :=
    .unaddressed (by simp [CardState.commands]) (by decide)
  apply Carries.get_bind
  intro s _
  refine Carries.bind (settles_note fun _ => rfl) fun _ => ?_
  apply (settles_mmcSwitch drv _ _ _).bind
  intro _
  apply (settles_execChecked drv blocklen _).bind
  intro _
  apply (settles_mmcSwitch drv _ _ _).bind
  intro _
  apply (settles_mmcSwitch drv _ _ _).bind
  intro _
  apply Carries.get_bind
  intro s₁ _
  apply Carries.ite
  · refine Carries.bind (settles_note fun _ => rfl) fun _ => ?_
    apply (settles_mmcSwitch drv _ _ _).bind
    intro _
    exact (settles_mmcSwitch drv _ _ _).bind fun _ => Carries.pure _
  · exact (settles_mmcSwitch drv _ _ _).bind fun _ => Carries.pure _

/-! ## SD cards and eMMC devices -/

/-- A card that was selected is in its transfer state, with the voltage that it was identified at. -/
theorem Identifying.transfer {voltage : Option Voltage} {s : PowerUp (σ × List Call) τ}
    (here : Identifying (.tran rca) voltage s) (powered : v18 → voltage = some .v180) :
    InTransfer rca v18 s := by
  obtain ⟨mode, seen⟩ := here
  exact ⟨_, seen, rfl, rfl, clocked, powered⟩

/-- A card was found; it is selected at the address that the device remembers. -/
structure Found (type : MediumType) (s : PowerUp (σ × List Call) Medium) : Prop where
  here : InTransfer s.trace.rca False s
  type : s.trace.type = type

/-- What is noted at the end is the type; the card is found at its address. -/
theorem InTransfer.found {s s' : PowerUp (σ × List Call) Medium} (here : InTransfer rca v18 s)
    {f : Medium → Medium} (noted : Noted f s s') (address : s'.trace.rca = rca) :
    Found s'.trace.type s' := by
  obtain ⟨v, seen, transfer⟩ := here
  refine ⟨⟨v, ?_, ?_⟩, rfl⟩
  · unfold Seen
    rw [noted.hw]
    exact seen
  · rw [address]
    exact ⟨transfer.card, transfer.quiet, transfer.running, False.elim⟩

/-- High capacity is always asked for, so this is not an inquiry. -/
theorem sdOpCondArg_ne_zero (ocr : U32) : sdOpCondArg drv ocr ≠ 0 := by
  have hcs : ArgAcmd41SdSendOp.hcs.test (adaptOcr drv ocr) = true := by
    unfold adaptOcr Bitfield.put
    rw [Bitfield.test_set_self]
    rfl
  have s18r : ∀ arg b, ArgAcmd41SdSendOp.hcs.test (ArgAcmd41SdSendOp.s18r.put arg b) =
      ArgAcmd41SdSendOp.hcs.test arg :=
    fun arg b => Bitfield.test_set_of_disjoint (by decide) arg _
  have xpc : ∀ arg b, ArgAcmd41SdSendOp.hcs.test (ArgAcmd41SdSendOp.xpc.put arg b) =
      ArgAcmd41SdSendOp.hcs.test arg :=
    fun arg b => Bitfield.test_set_of_disjoint (by decide) arg _
  intro zero
  have set : ArgAcmd41SdSendOp.hcs.test (sdOpCondArg drv ocr) = true := by
    unfold sdOpCondArg
    split
    · split <;> simp only [s18r, xpc, hcs]
    · split <;> simp only [xpc, hcs]
  rw [zero] at set
  exact absurd set (by decide)

/-- Without an SD card the card is still idle, and the address is zero. -/
theorem powerUpSd_leads {voltage : Option Voltage} {s : PowerUp (σ × List Call) Medium}
    (here : Identifying .idle voltage s) (disable : DeviceTypeDisable) :
    Leads (powerUpSd drv.spied disable)
      (fun found s' => if found then Found .sd s'
        else Identifying .idle voltage s' ∧ s'.trace.rca = 0) s := by
  unfold powerUpSd
  apply leads_note.bind
  intro _ s₁ reset
  have rca₁ : s₁.trace.rca = 0 := by rw [reset.trace]
  rw [leads_bind, leads_get, rca₁]
  apply (appOpCond_leads drv (here.of_hw reset.hw) 0).bind
  intro _ s₂ asked
  have rca₂ : s₂.trace.rca = 0 := by rw [asked.1, rca₁]
  have idle : Identifying .idle voltage s₂ := by
    have inquiry := asked.2
    rwa [CardState.started, show decide ((0 : U32) ≠ 0) = false from rfl, Bool.false_and,
      if_neg Bool.false_ne_true, ite_self] at inquiry
  rw [leads_bind, leads_get]
  apply leads_ite
  · exact fun _ => ⟨idle, rca₂⟩
  intro _
  rw [leads_bind, leads_response]
  apply (sdIdentify_leads drv (sdOpCondArg_ne_zero drv.spied _) 10 idle
    (by simp [CardState.commands]) rca₂ fun none => absurd none (by decide)).bind
  intro v18 s₃ ready
  apply (sdSelectCard_leads drv ready.2).bind
  intro _ s₄ selected
  have transfer : InTransfer s₄.trace.rca (v18 = true) s₄ :=
    selected.transfer fun powered => by rw [powered]; rfl
  apply ((settles_sdReadRegisters drv).leads rfl transfer).bind
  intro hasBus4bit s₅ registers
  rw [leads_bind, leads_get, registers.1]
  have left : wp (traced [] (sdNegotiate drv.spied.toHost s₄.trace.rca v18 hasBus4bit disable.sd 6))
      (fun r _ => r.isSome = true) (fun _ _ => True) s₅ := by
    unfold traced
    rw [wp_zoom]
    exact sdNegotiate_left _ _ _ _ _ _
  have negotiated := leads_traced (stays_sdNegotiate drv v18 hasBus4bit disable.sd 6) [] registers.2
  apply (negotiated.and left).bind
  intro r s₆ post
  cases r with
  | none => exact absurd post.2 Bool.false_ne_true
  | some timing =>
    apply leads_note.bind
    intro _ s₇ noted
    have type : s₇.trace.type = .sd := by rw [noted.trace]
    have found := post.1.2.found noted (by rw [noted.trace, post.1.1, registers.1])
    rwa [type] at found

/-- An eMMC device keeps the address that the scan has started with. Without one, the log is fine. -/
theorem powerUpMmc_leads {voltage : Option Voltage} {s : PowerUp (σ × List Call) Medium}
    (here : Identifying .idle voltage s) (disable : DeviceTypeDisable) :
    Leads (powerUpMmc drv.spied disable)
      (fun found s' => if found then Found .mmc s' ∧ s'.trace.rca = s.trace.rca else Fine s') s := by
  unfold powerUpMmc
  apply (sendOpCond_leads drv here 0).bind
  intro _ s₁ asked
  have idle : Identifying .idle voltage s₁ := by
    have inquiry := asked.2
    rwa [CardState.started, show decide ((0 : U32) ≠ 0) = false from rfl, Bool.false_and,
      if_neg Bool.false_ne_true, ite_self] at inquiry
  rw [leads_bind, leads_get]
  apply leads_ite
  · exact fun _ => idle.fine
  intro _
  rw [leads_bind, leads_response]
  apply (mmcIdentify_leads drv idle (by simp [CardState.commands]) _).bind
  intro _ s₂ selected
  have transfer : InTransfer s₁.trace.rca False s₂ := selected.2.transfer False.elim
  apply ((settles_mmcConfigure drv).leads selected.1 transfer).bind
  intro deviceType s₃ configured
  have here₃ := configured.2
  rw [← configured.1] at here₃
  rw [leads_bind, leads_get]
  apply (leads_traced (stays_mmcModeLoop drv deviceType disable.mmc s₃.trace.enhStrobe 6) {}
    here₃).bind
  intro r s₄ post
  cases r with
  | none => exact post.2.fine
  | some selected =>
    apply leads_note.bind
    intro _ s₅ noted
    have address : s₅.trace.rca = s₃.trace.rca := by rw [noted.trace, post.1]
    have type : s₅.trace.type = .mmc := by rw [noted.trace]
    have found := post.2.found noted address
    rw [type] at found
    exact ⟨found, by rw [address, configured.1, asked.1]⟩

/-! ## The scan -/

/-- An SD card is found at the address that it has published, an eMMC device at zero. -/
theorem initCard_leads {s : PowerUp (σ × List Call) Medium} (here : Identifying .off none s)
    (disable : DeviceTypeDisable) :
    Leads (initCard drv.spied disable)
      (fun _ s' => Found .sd s' ∨ Found .mmc s' ∧ s'.trace.rca = 0) s := by
  obtain ⟨mode, seen⟩ := here
  unfold initCard
  apply (leads_voltage drv seen (Or.inr rfl)).bind
  intro _ s₁ powered
  apply (leads_delay drv powered.1).bind
  intro _ s₂ waited
  apply (leads_busWidth drv waited.1).bind
  intro _ s₃ width
  apply (leads_clock drv width.1 (slow_permitted (by decide) rfl _ _)).bind
  intro _ s₄ slow
  apply (goIdle_leads drv 1 ⟨mode, slow.1⟩ (by simp [CardState.commands])).bind
  intro _ s₅ idle
  apply (powerUpSd_leads drv idle disable).bind
  intro sd s₆ outcome
  cases sd with
  | true => exact Or.inl outcome
  | false =>
    apply (powerUpMmc_leads drv outcome.1 disable).bind
    intro mmc s₇ outcome'
    cases mmc with
    | true => exact Or.inr ⟨outcome'.1, by rw [outcome'.2, outcome.2]⟩
    | false => exact leads_throw outcome'

/-- A scan that starts with an empty log. -/
def fresh (s : Scan σ) : Scan (σ × List Call) := { queue := s.queue, hw := (s.hw, []), medium := s.medium }

/-- The calls of a scan, the last one first. -/
def calls (disable : DeviceTypeDisable) (s : Scan σ) : List Call :=
  (after (startDeviceScan drv.spied disable) (fresh s)).hw.2

/-- A part of the scan runs on the command in its slot. -/
theorem wp_onSlot {slot : Slot} {m : InitM σ α} {Q : α → Scan σ → Prop}
    {E : RuntimeError → Scan σ → Prop} {s : Scan σ} :
    wp (onSlot slot m) Q E s ↔
      wp m (fun a t => Q a { s with queue := s.queue.setCmd slot t.cmd, hw := t.hw, medium := t.trace })
        (fun e t => E e { s with queue := s.queue.setCmd slot t.cmd, hw := t.hw, medium := t.trace })
        { cmd := s.queue.cmds slot, hw := s.hw, trace := s.medium } :=
  wp_zoom _ _ m

/-- The queue is used by itself. -/
theorem wp_onQueue {m : EStateM RuntimeError CmdQueue α} {Q : α → Scan σ → Prop}
    {E : RuntimeError → Scan σ → Prop} {s : Scan σ} :
    wp (onQueue m) Q E s ↔
      wp m (fun a q => Q a { s with queue := q }) (fun e q => E e { s with queue := q }) s.queue :=
  wp_zoom _ _ m

/-- What a scan says about the card: it is selected at the address that the device remembers. An eMMC
device was given the address zero, which `power_up_sd` had left. -/
structure Ready (s : Scan (σ × List Call)) : Prop where
  selected : (watch.view s.hw.2).card = .tran s.medium.rca
  type : s.medium.type = .sd ∨ s.medium.type = .mmc ∧ s.medium.rca = 0

/-- What is found by the scan is ready for requests. -/
theorem Found.ready {type : MediumType} {t : PowerUp (σ × List Call) Medium} (found : Found type t)
    (known : type = .sd ∨ type = .mmc ∧ t.trace.rca = 0) (q : CmdQueue) :
    Ready ⟨q, t.hw, t.trace⟩ := by
  obtain ⟨v, seen, transfer⟩ := found.here
  refine ⟨by rw [seen.view]; exact transfer.card, ?_⟩
  rw [found.type]
  exact known

/-- After `try`: the calls were permitted, and a card that was found is ready. -/
def Ends (found : Bool) (s : Scan (σ × List Call)) : Prop :=
  watch.Fine s.hw.2 ∧ (found = true → Ready s)

/-- Giving the slot back makes no calls. -/
theorem retire_leads {slot : Slot} {found : Bool} {s : Scan (σ × List Call)} (ends : Ends found s) :
    wp (do onQueue (CmdQueue.retire slot); return found : ScanM (σ × List Call) Bool) Ends
      (fun _ s' => watch.Fine s'.hw.2) s := by
  rw [wp_bind, wp_onQueue]
  apply (wp_any _ _).mono
  · exact fun _ q _ => ⟨ends.1, fun ready => ⟨(ends.2 ready).selected, (ends.2 ready).type⟩⟩
  · exact fun _ q _ => ends.1

/-- The parts before `try`, with a slot of the queue. -/
theorem beforeTry_leads (slot : Slot) {s : Scan (σ × List Call)} (empty : s.hw.2 = []) :
    wp (do
        onSlot slot (onHw (drv.spied.setClockAndTiming (400 * kHz) .legacy false))
        onSlot slot (resetSdio drv.spied) : ScanM (σ × List Call) Unit)
      (fun _ s' => ∃ mode, watch.Seen ⟨.off, false, 400 * kHz, none, mode⟩ s'.hw.2)
      (fun _ s' => watch.Fine s'.hw.2) s := by
  have start : Seen watch.start (⟨s.queue.cmds slot, s.hw, s.medium⟩ :
      PowerUp (σ × List Call) Medium) := by
    unfold Seen
    rw [empty]
    exact watch.seen_nil
  have clock : wp (onSlot slot (onHw (drv.spied.setClockAndTiming (400 * kHz) .legacy false)))
      (fun _ s' => watch.Seen { watch.start with freq := 400 * kHz } s'.hw.2)
      (fun _ s' => watch.Fine s'.hw.2) s := by
    rw [wp_onSlot]
    exact (leads_clock drv start (slow_permitted (by decide) rfl _ _)).imp fun _ _ post => post.1
  apply clock.bind
  intro _ s₁ seen
  rw [wp_onSlot]
  exact resetSdio_leads drv ⟨none, seen⟩

/-- The thread makes permitted calls only. -/
theorem initThread_leads {slot : Slot} (disable : DeviceTypeDisable) {s : Scan (σ × List Call)}
    (off : ∃ mode, watch.Seen ⟨.off, false, 400 * kHz, none, mode⟩ s.hw.2) :
    wp (initThread drv.spied disable slot) Ends (fun _ s' => watch.Fine s'.hw.2) s := by
  have card : wp (onSlot slot (initCard drv.spied disable)) (fun _ s' => Ends true s')
      (fun _ s' => watch.Fine s'.hw.2) s := by
    rw [wp_onSlot]
    apply (initCard_leads drv (s := ⟨s.queue.cmds slot, s.hw, s.medium⟩) off disable).imp
    intro _ t found
    rcases found with sd | ⟨mmc, zero⟩
    · exact ⟨sd.here.fine, fun _ => sd.ready (Or.inl rfl) _⟩
    · exact ⟨mmc.here.fine, fun _ => mmc.ready (Or.inr ⟨rfl, zero⟩) _⟩
  unfold initThread
  rw [wp_tryCatch]
  apply (card.bind fun _ s' ends => retire_leads ends).mono (fun _ _ ends => ends)
  exact fun _ s' fine => retire_leads ⟨fine, nofun⟩

/-- On both exits the log is fine, and at its end the device is ready if the card was found. -/
theorem startDeviceScan_leads (disable : DeviceTypeDisable) (s : Scan σ) :
    wp (startDeviceScan drv.spied disable) Ends (fun _ s' => watch.Fine s'.hw.2) (fresh s) := by
  have init : wp (onDrv drv.spied.init) (fun _ s' => s'.hw.2 = []) (fun _ s' => watch.Fine s'.hw.2)
      (fresh s) := by
    show wp (zoom _ _ (unrecorded drv.init)) _ _ _
    unfold unrecorded
    rw [wp_zoom, wp_zoom]
    exact (wp_any drv.init s.hw).mono (fun _ _ _ => rfl) (fun _ _ _ => watch.fine_nil)
  unfold startDeviceScan
  apply init.bind
  intro _ s₁ empty
  have created : wp (onQueue CmdQueue.createCmd) (fun _ s' => s'.hw.2 = [])
      (fun _ s' => watch.Fine s'.hw.2) s₁ := by
    rw [wp_onQueue]
    exact (wp_any _ _).mono (fun _ _ _ => empty) (fun _ _ _ => by rw [empty]; exact watch.fine_nil)
  apply created.bind
  intro slot? s₂ empty₂
  cases slot? with
  | none => exact ⟨by rw [empty₂]; exact watch.fine_nil, nofun⟩
  | some slot =>
    have before := beforeTry_leads drv slot empty₂
    rw [wp_bind] at before
    rw [wp_bind]
    apply before.imp
    intro _ s₃ before'
    apply before'.bind
    intro _ s₄ off
    exact initThread_leads drv disable off

/-- Every call of a scan was permitted, also when something is thrown. -/
theorem calls_fine (disable : DeviceTypeDisable) (s : Scan σ) : watch.Fine (calls drv disable s) :=
  after_of_wp ((startDeviceScan_leads drv disable s).mono (fun _ _ ends => ends.1) fun _ _ fine => fine)

/-- Every command of a scan is one that the card carries out in its present state, and application
commands follow CMD55. -/
theorem commands_in_order (disable : DeviceTypeDisable) (s : Scan σ) :
    watch.Always InOrder (calls drv disable s) :=
  (watch.fine_iff_always.mp (calls_fine drv disable s)).imp fun _ _ permitted => permitted.1

/-- The clock runs at 400 kHz until the card is selected, and above that it is only set to the frequency of
the mode that the last CMD6 without an error asked for. -/
theorem clock_follows_mode (disable : DeviceTypeDisable) (s : Scan σ) :
    watch.Always Clocked (calls drv disable s) :=
  (watch.fine_iff_always.mp (calls_fine drv disable s)).imp fun _ _ permitted => permitted.2.1

/-- The timings that need 1.8 V are set when the voltage was set to 1.8 V. -/
theorem voltage_before_timing (disable : DeviceTypeDisable) (s : Scan σ) :
    watch.Always Powered (calls drv disable s) :=
  (watch.fine_iff_always.mp (calls_fine drv disable s)).imp fun _ _ permitted => permitted.2.2

/-- When the callback is called, the card is selected at the address that the device remembers. -/
theorem scan_selects (disable : DeviceTypeDisable) (s : Scan σ) :
    wp (startDeviceScan drv.spied disable) (fun found s' => found = true → Ready s') (fun _ _ => True)
      (fresh s) :=
  (startDeviceScan_leads drv disable s).mono (fun _ _ ends => ends.2) fun _ _ _ => trivial

/-! ## The number of commands -/

/-- The bound of a part is its bound on the slot. -/
theorem adds_onSlot (disable : DeviceTypeDisable) {slot : Slot} {m : InitM (σ × List Call) α} {n : Nat}
    (sends : Sends (spiedHost drv.toHost) disable n m) :
    Adds (fun s => s.hw.2) isCommand n (onSlot slot m) := by
  intro s
  rw [wp_onSlot]
  exact sends.adds ⟨s.queue.cmds slot, s.hw, s.medium⟩

/-- The queue sends nothing. -/
theorem adds_onQueue {m : EStateM RuntimeError CmdQueue α} :
    Adds (fun s : Scan (σ × List Call) => s.hw.2) isCommand 0 (onQueue m) := by
  intro s
  rw [wp_onQueue]
  exact (wp_any _ _).mono (fun _ _ _ => .refl _ _ _) (fun _ _ _ => .refl _ _ _)

/-- The scan adds CMD52 twice to the commands of the initialisation. -/
theorem startDeviceScan_adds (disable : DeviceTypeDisable) :
    Adds (fun s => s.hw.2) isCommand 4484 (startDeviceScan drv.spied disable) := by
  have retire : ∀ {slot : Slot} {found : Bool}, Adds (fun s : Scan (σ × List Call) => s.hw.2)
      isCommand 0 (do onQueue (CmdQueue.retire slot); return found) :=
    adds_onQueue.bind (b := 0) fun _ => .pure _
  have init : Adds (fun s : Scan (σ × List Call) => s.hw.2) isCommand 0 (onDrv drv.spied.init) := by
    intro s
    show wp (zoom _ _ (unrecorded drv.init)) _ _ _
    unfold unrecorded
    rw [wp_zoom, wp_zoom]
    exact (wp_any drv.init s.hw.1).mono (fun _ _ _ => .refl _ _ _) (fun _ _ _ => .refl _ _ _)
  apply init.bind
  intro _
  apply adds_onQueue.bind
  intro slot?
  cases slot? with
  | none => exact .pure false
  | some slot =>
    apply (adds_onSlot drv disable (sends_slow (by decide) _)).bind
    intro _
    apply (adds_onSlot drv disable (sends_resetSdio drv.spied)).bind
    intro _
    apply Adds.tryCatch (a := 4482) (b := 0)
    · apply (adds_onSlot drv disable (sends_initCard drv.spied disable)).bind (b := 0)
      exact fun _ => retire
    · exact fun _ => retire

/-- Whatever the card does, a scan ends after a bounded number of commands. -/
theorem few_commands (disable : DeviceTypeDisable) (s : Scan σ) :
    (calls drv disable s).countP isCommand ≤ 4484 := by
  have grown := after_of_wp (startDeviceScan_adds drv disable (fresh s))
  obtain ⟨added, same, bound⟩ := grown
  have whole : calls drv disable s = added := same.trans (List.append_nil added)
  rw [whole]
  exact bound

/-! ## The modes that are disabled -/

theorem asks_onSlot {disable : DeviceTypeDisable} {slot : Slot} {m : InitM (σ × List Call) α} {n : Nat}
    (sends : Sends (spiedHost drv.toHost) disable n m) :
    Keeps (fun s => ∀ call ∈ s.hw.2, Asked disable call) (onSlot slot m) := by
  intro s here
  rw [wp_onSlot]
  exact sends.asks ⟨s.queue.cmds slot, s.hw, s.medium⟩ here

theorem asks_onQueue {disable : DeviceTypeDisable} {m : EStateM RuntimeError CmdQueue α} :
    Keeps (fun s : Scan (σ × List Call) => ∀ call ∈ s.hw.2, Asked disable call) (onQueue m) := by
  intro s here
  rw [wp_onQueue]
  exact (wp_any _ _).mono (fun _ _ _ => here) (fun _ _ _ => here)

/-- From the first setting on, all settings are enabled. -/
theorem startDeviceScan_asks (disable : DeviceTypeDisable) :
    Keeps (fun s => ∀ call ∈ s.hw.2, Asked disable call) (startDeviceScan drv.spied disable) := by
  have retire : ∀ {slot : Slot} {found : Bool},
      Keeps (fun s : Scan (σ × List Call) => ∀ call ∈ s.hw.2, Asked disable call)
        (do onQueue (CmdQueue.retire slot); return found) :=
    asks_onQueue.bind fun _ => keeps_pure _
  have init : Keeps (fun s : Scan (σ × List Call) => ∀ call ∈ s.hw.2, Asked disable call)
      (onDrv drv.spied.init) := by
    intro s here
    show wp (zoom _ _ (unrecorded drv.init)) _ _ _
    unfold unrecorded
    rw [wp_zoom, wp_zoom]
    exact (wp_any drv.init s.hw.1).mono (fun _ _ _ => here) (fun _ _ _ => here)
  apply init.bind
  intro _
  apply asks_onQueue.bind
  intro slot?
  cases slot? with
  | none => exact keeps_pure false
  | some slot =>
    apply (asks_onSlot drv (sends_slow (by decide) _)).bind
    intro _
    apply (asks_onSlot drv (sends_resetSdio drv.spied)).bind
    intro _
    apply Keeps.tryCatch
    · exact (asks_onSlot drv (sends_initCard drv.spied disable)).bind fun _ => retire
    · exact fun _ => retire

/-- The clock is never set to more than 400 kHz in a mode that is disabled. -/
theorem calls_asked (disable : DeviceTypeDisable) (s : Scan σ) :
    ∀ call ∈ calls drv disable s, Asked disable call :=
  (startDeviceScan_asks drv disable).after fun _ absurd => (List.not_mem_nil absurd).elim

/-! ## The slot of the command -/

/-- A free slot is not marked as the slot of a request. -/
def Unmarked (q : CmdQueue) : Prop :=
  ∀ slot, (q.cmds slot).flags.enqueued = false → (q.cmds slot).flags.inout = false

/-- Writing a slot keeps this if the command is no request, or is enqueued. -/
theorem Unmarked.setCmd {slot : Slot} {q : CmdQueue} (unmarked : Unmarked q) {c : Cmd}
    (mark : c.flags.enqueued = false → c.flags.inout = false) : Unmarked (q.setCmd slot c) := by
  intro other
  by_cases same : other = slot
  · rw [same, CmdQueue.cmds_setCmd_self]
    exact mark
  · rw [CmdQueue.cmds_setCmd_of_ne q same]
    exact unmarked other

/-- The slot that was taken is the only one, and the controller works on it. -/
structure Taken (slot : Slot) (q : CmdQueue) : Prop where
  settled : q.Settled
  only : q.outstanding = [slot]
  unmarked : Unmarked q

/-- Writing the slot keeps it taken if the command stays enqueued. -/
theorem Taken.setCmd {slot : Slot} {q : CmdQueue} (taken : Taken slot q) {c : Cmd}
    (enqueued : c.flags.enqueued = true) : Taken slot (q.setCmd slot c) := by
  have member : slot ∈ q.outstanding := by rw [taken.only]; exact List.mem_singleton_self slot
  refine ⟨taken.settled.setCmd ?_, taken.only, taken.unmarked.setCmd ?_⟩
  · rw [enqueued, (taken.settled.enqueued slot).mpr member]
  · intro free
    exact absurd (free.symm.trans enqueued) Bool.false_ne_true

/-- Between the calls on the command, the slot stays taken. -/
theorem keeps_onSlot (disable : DeviceTypeDisable) {slot : Slot} {m : InitM σ α} {n : Nat}
    (sends : Sends drv.toHost disable n m) :
    Keeps (fun s : Scan σ => Taken slot s.queue) (onSlot slot m) := by
  intro s taken
  have member : slot ∈ s.queue.outstanding := by rw [taken.only]; exact List.mem_singleton_self slot
  rw [wp_onSlot]
  apply (sends.keepsSlot true ⟨s.queue.cmds slot, s.hw, s.medium⟩
    ((taken.settled.enqueued slot).mpr member)).mono
  · exact fun _ _ enqueued => taken.setCmd enqueued
  · exact fun _ _ enqueued => taken.setCmd enqueued

/-- The queue has no outstanding commands. -/
structure Idle (q : CmdQueue) : Prop where
  settled : q.Settled
  none : q.outstanding = []
  unmarked : Unmarked q

theorem idle_start : Idle {} := by
  refine ⟨⟨rfl, fun slot => ?_⟩, rfl, fun _ _ => rfl⟩
  simp [CmdQueue.outstanding, CmdQueue.slotsFrom]

/-- An idle queue has room. -/
theorem Idle.notFull {q : CmdQueue} (idle : Idle q) : q.isFull = false := by
  rw [← Bool.not_eq_true, CmdQueue.isFull_iff, idle.none]
  decide

/-- Creating a command in an idle queue takes the first slot. -/
theorem Idle.created {q : CmdQueue} (idle : Idle q) : Taken q.create q.created := by
  refine ⟨idle.settled.created idle.notFull, ?_, ?_⟩
  · rw [CmdQueue.outstanding_created idle.notFull, idle.none, List.nil_append]
  · exact Unmarked.setCmd idle.unmarked nofun

/-- Retiring the only command leaves the queue idle. -/
theorem retire_idle {slot : Slot} {found : Bool} {s : Scan σ} (taken : Taken slot s.queue) :
    wp (do onQueue (CmdQueue.retire slot); return found : ScanM σ Bool)
      (fun _ s' => Idle s'.queue) (fun _ _ => False) s := by
  have head : s.queue.working? = some slot :=
    taken.settled.working?_eq_some.mpr ⟨[], taken.only⟩
  rw [wp_bind, wp_onQueue]
  apply (CmdQueue.retire_spec taken.settled head).imp
  intro _ q same
  rw [same]
  exact ⟨taken.settled.retired head, CmdQueue.outstanding_retired slot taken.only,
    Unmarked.setCmd taken.unmarked fun _ => rfl⟩

/-- However the initialisation ends, the thread gives the slot back, and nothing is thrown out of it. -/
theorem initThread_idle (disable : DeviceTypeDisable) {slot : Slot} {s : Scan σ}
    (taken : Taken slot s.queue) :
    wp (initThread drv disable slot) (fun _ s' => Idle s'.queue) (fun _ _ => False) s := by
  unfold initThread
  rw [wp_tryCatch, wp_bind]
  apply (keeps_onSlot drv disable (sends_initCard drv disable) s taken).mono
  · exact fun _ s₁ taken₁ => (retire_idle taken₁).imp_ok fun _ _ idle => idle
  · exact fun _ s₁ taken₁ => retire_idle taken₁

/-- The slot is given back on every way that returns. -/
theorem startDeviceScan_idle (disable : DeviceTypeDisable) (hw : σ) (medium : Medium) :
    wp (startDeviceScan drv disable) (fun _ s' => Idle s'.queue)
      (fun _ s' => Idle s'.queue ∨ ∃ slot, Taken slot s'.queue)
      { hw := hw, medium := medium } := by
  have init : wp (onDrv drv.init) (fun _ s' => Idle s'.queue) (fun _ s' => Idle s'.queue)
      ({ hw := hw, medium := medium } : Scan σ) := by
    unfold onDrv
    rw [wp_zoom]
    exact (wp_any drv.init hw).mono (fun _ _ _ => idle_start) (fun _ _ _ => idle_start)
  unfold startDeviceScan
  rw [wp_bind]
  apply init.mono _ fun _ _ idle => Or.inl idle
  intro _ s₁ idle
  have created : wp (onQueue CmdQueue.createCmd)
      (fun slot s' => slot = some s₁.queue.create ∧ Taken s₁.queue.create s'.queue)
      (fun _ _ => False) s₁ := by
    rw [wp_onQueue]
    apply (CmdQueue.createCmd_spec idle.settled).imp
    intro slot q post
    rw [idle.notFull, if_neg Bool.false_ne_true] at post
    exact ⟨post.1, by rw [post.2]; exact idle.created⟩
  apply created.bind_ok
  intro slot? s₂ post
  rw [post.1]
  have leaked : ∀ (e : RuntimeError) (s' : Scan σ), Taken s₁.queue.create s'.queue →
      Idle s'.queue ∨ ∃ slot, Taken slot s'.queue :=
    fun _ _ taken => Or.inr ⟨_, taken⟩
  show wp (_ >>= _) _ _ _
  rw [wp_bind]
  apply (keeps_onSlot drv disable (sends_slow (by decide) _) s₂ post.2).mono _ leaked
  intro _ s₃ taken₃
  rw [wp_bind]
  apply (keeps_onSlot drv disable (sends_resetSdio drv) s₃ taken₃).mono _ leaked
  intro _ s₄ taken₄
  exact (initThread_idle drv disable taken₄).imp_ok fun _ _ idle => idle

/-- However the thread ends that was started with a slot, the slot is given back and nothing is thrown; so a
scan that returns leaves the queue idle, and only what is thrown before the thread is started leaves the slot
taken. -/
theorem scan_gives_slot_back (disable : DeviceTypeDisable) :
    (∀ (hw : σ) (medium : Medium),
      wp (startDeviceScan drv disable) (fun _ s' => Idle s'.queue)
        (fun _ s' => Idle s'.queue ∨ ∃ slot, Taken slot s'.queue) { hw := hw, medium := medium }) ∧
      ∀ (slot : Slot) (s : Scan σ), Taken slot s.queue →
        wp (initThread drv disable slot) (fun _ s' => Idle s'.queue) (fun _ _ => False) s := by
  apply And.intro
  · exact startDeviceScan_idle drv disable
  · exact fun _ _ taken => initThread_idle drv disable taken

end PowerUp

end Emmc
