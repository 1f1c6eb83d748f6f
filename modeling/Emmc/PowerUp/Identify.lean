import Emmc.PowerUp.Calls

/-!
# The identification of a card, call by call

Where the scan, `power_up_sd` and `power_up_mmc` stand before the card is in the transfer state:
`Identifying card voltage`. Each lemma is the part of the source that it is named after.
-/

namespace Emmc

open Throwing

namespace PowerUp

open Mmc

variable {σ τ : Type} (drv : Driver σ)

/-- The clock runs at 400 kHz, and no application command is pending. -/
def Identifying (card : CardState) (voltage : Option Voltage) (s : PowerUp (σ × List Call) τ) : Prop :=
  ∃ mode, Seen ⟨card, false, 400 * kHz, voltage, mode⟩ s

variable {card : CardState} {voltage : Option Voltage}

/-- While the card is identified, the log is fine. -/
theorem Identifying.fine {s : PowerUp (σ × List Call) τ} (here : Identifying card voltage s) :
    Fine s := by
  obtain ⟨_, seen⟩ := here
  exact seen.fine

/-- Only the calls matter. -/
theorem Identifying.of_hw {s s' : PowerUp (σ × List Call) τ} (here : Identifying card voltage s)
    (same : s'.hw = s.hw) : Identifying card voltage s' := by
  obtain ⟨mode, seen⟩ := here
  exact ⟨mode, by unfold Seen; rw [same]; exact seen⟩

/-- What becomes of the card when a command ends. -/
def CardState.after (card : CardState) (sent : Sent) (ended : Cmd) : CardState :=
  if ended.error then card else card.next sent ended

/-- A command other than CMD55 moves the card by its own rule, and leaves no application command pending. -/
theorem executed_plain {word arg : U32} (plain : word ≠ cmd55AppCmd) (freq : U32)
    (mode : Option ModeSwitch) (ended : Cmd) : ∃ mode',
    View.executed ⟨word, arg, false⟩ ended ⟨card, false, freq, voltage, mode⟩ =
      ⟨card.after ⟨word, arg, false⟩ ended, false, freq, voltage, mode'⟩ := by
  unfold View.executed CardState.after
  split
  · exact ⟨mode, rfl⟩
  · exact ⟨View.modeNext ⟨word, arg, false⟩ ended mode, by simp [plain]⟩

/-- How a command ended: the card has gone on, or has stayed where it was. -/
structure Answered (card : CardState) (voltage : Option Voltage) (sent : Sent) (trace : τ)
    (s' : PowerUp (σ × List Call) τ) : Prop where
  here : Identifying (card.after sent s'.cmd) voltage s'
  trace : s'.trace = trace
  decided : s'.cmd.status = .success ∨ s'.cmd.error = true

/-- The card carries out the command in the present state. -/
structure Plain (card : CardState) (word arg : U32) : Prop where
  known : word ∈ card.commands
  other : word ≠ cmd55AppCmd ∧ word ≠ cmd19SendTuningBlock ∧ word ≠ cmd21SendTuningBlock
  address : word ∈ CardState.addressed → arg = card.rca.setWidth 32 <<< 16

/-- A plain command in the slot is permitted, and is executed. -/
theorem leads_sent {s : PowerUp (σ × List Call) τ} (here : Identifying card voltage s)
    (plain : Plain card s.cmd.cmd s.cmd.arg) (noApp : s.cmd.flags.appCmd = false) :
    Leads (cmdExec drv.spied.toHost)
      (fun _ s' => Answered card voltage ⟨s.cmd.cmd, s.cmd.arg, false⟩ s.trace s') s := by
  obtain ⟨mode, seen⟩ := here
  have same : sent s.cmd = ⟨s.cmd.cmd, s.cmd.arg, false⟩ := by simp [sent, noApp]
  apply (leads_cmdExec drv seen ?_).imp
  · intro _ s' executed
    rw [same] at executed
    obtain ⟨mode', next⟩ := executed_plain plain.other.1 (400 * kHz) mode s'.cmd
    refine ⟨⟨mode', ?_⟩, executed.trace, executed.decided plain.other.2.1 plain.other.2.2⟩
    rw [← next]
    exact executed.seen
  · intro ended ioBuf
    rw [same]
    have clocked : 400 * kHz ≠ 0 := by decide
    exact ⟨⟨rfl, plain.known, plain.address⟩, clocked, fun _ => rfl⟩

/-- The same for a command that is put there. -/
theorem leads_exec {s : PowerUp (σ × List Call) τ} (here : Identifying card voltage s) {word arg : U32}
    (plain : Plain card word arg) :
    Leads (exec drv.spied.toHost word arg)
      (fun _ s' => Answered card voltage ⟨word, arg, false⟩ s.trace s') s :=
  leads_sent drv (s := { s with cmd := s.cmd.initArg word arg }) (here.of_hw rfl) plain rfl

/-- And for one with data. -/
theorem leads_execData {s : PowerUp (σ × List Call) τ} (here : Identifying card voltage s)
    {word arg : U32} (plain : Plain card word arg) {blocksize : U32} {virt : U64} :
    Leads (execData drv.spied.toHost word arg blocksize virt)
      (fun _ s' => Answered card voltage ⟨word, arg, false⟩ s.trace s') s := by
  obtain ⟨mode, seen⟩ := here
  apply (leads_initData seen).bind
  intro _ s₁ prepared
  have same := prepared.2.1
  simp only [sent, Sent.mk.injEq] at same
  rw [← prepared.2.2, ← same.1, ← same.2.1]
  apply leads_sent drv ⟨mode, prepared.1⟩ _ same.2.2
  rw [same.1, same.2.1]
  exact plain

/-- Without an error the card has moved. -/
theorem Answered.of_ok {sent : Sent} {trace : τ} {s' : PowerUp (σ × List Call) τ}
    (answered : Answered card voltage sent trace s') (ok : s'.cmd.error = false) :
    Identifying (card.next sent s'.cmd) voltage s' := by
  have here := answered.here
  rwa [CardState.after, ok, if_neg Bool.false_ne_true] at here

/-- Behind the check there is no error, so the card has moved. -/
theorem leads_execChecked {s : PowerUp (σ × List Call) τ} (here : Identifying card voltage s)
    {word arg : U32} (plain : Plain card word arg) (text : String) :
    Leads (execChecked drv.spied.toHost word arg text)
      (fun _ s' => Identifying (card.next ⟨word, arg, false⟩ s'.cmd) voltage s' ∧
        s'.trace = s.trace) s := by
  apply (leads_exec drv here plain).bind
  intro _ s' answered
  obtain ⟨mode, seen⟩ := answered.here
  apply (leads_checkError seen).imp
  intro _ s'' checked
  rw [checked.1]
  exact ⟨answered.of_ok checked.2, answered.trace⟩

/-- A command that the card knows in its state, and that has no address, is plain. -/
theorem Plain.unaddressed {word arg : U32} (known : word ∈ card.commands)
    (other : word ∉ cmd55AppCmd :: cmd19SendTuningBlock :: cmd21SendTuningBlock :: CardState.addressed) :
    Plain card word arg := by
  simp only [List.mem_cons, not_or] at other
  exact ⟨known, ⟨other.1, other.2.1, other.2.2.1⟩, fun member => absurd member (by simp_all)⟩

/-- An expected error is an answer as well. -/
theorem leads_execExpectingError {s : PowerUp (σ × List Call) τ}
    (here : Identifying card voltage s) {word arg : U32} (plain : Plain card word arg) :
    Leads (execExpectingError drv.spied.toHost word arg)
      (fun _ s' => Answered card voltage ⟨word, arg, false⟩ s.trace s') s :=
  leads_sent drv
    (s := { s with cmd := { s.cmd.initArg word arg with
      flags := { (s.cmd.initArg word arg).flags with expectedError := true } } })
    (here.of_hw rfl) plain rfl

/-- A command that does not take the card any further. -/
theorem Answered.stays {sent : Sent} {trace : τ} {s' : PowerUp (σ × List Call) τ}
    (answered : Answered card voltage sent trace s') (stays : card.next sent s'.cmd = card) :
    Identifying card voltage s' := by
  have here := answered.here
  rwa [CardState.after, stays, ite_self] at here

/-! ## Before the card is powered up -/

/-- CMD52 is for cards with I/O: a memory card stays as it was before it is powered up. -/
theorem resetSdio_leads {s : PowerUp (σ × List Call) Medium} (here : Identifying .off voltage s) :
    Leads (resetSdio drv.spied) (fun _ s' => Identifying .off voltage s') s := by
  have plain : ∀ arg, Plain .off cmd52IoRwDirect arg :=
    fun _ => .unaddressed (by simp [CardState.commands]) (by decide)
  unfold resetSdio
  apply (leads_execExpectingError drv here (plain _)).bind
  intro _ s₁ answered
  have here₁ := answered.stays rfl
  rw [leads_bind, leads_get]
  apply leads_ite
  · intro _
    exact leads_throw_bind here₁.fine
  · intro _
    apply (leads_execExpectingError drv here₁ (plain _)).imp
    exact fun _ s₂ answered₂ => answered₂.stays rfl

/-- CMD0 takes every card back to idle. -/
theorem goIdleState_leads {s : PowerUp (σ × List Call) τ} (here : Identifying card voltage s)
    (known : cmd0GoIdleState ∈ card.commands) (text : String) :
    Leads (execChecked drv.spied.toHost cmd0GoIdleState 0 text)
      (fun _ s' => Identifying .idle voltage s' ∧ s'.trace = s.trace) s :=
  leads_execChecked drv here (.unaddressed known (by decide)) text

/-- CMD8 belongs to the idle state. -/
theorem plain_sendIfCond (arg : U32) : Plain .idle cmd8SendIfCond arg :=
  .unaddressed (by simp [CardState.commands]) (by decide)

/-- CMD0 and CMD8 at most twice; either way the card is idle behind them. -/
theorem goIdle_leads (rounds : Nat) :
    ∀ {i : Nat} {card : CardState} {s : PowerUp (σ × List Call) Medium},
      Identifying card voltage s → cmd0GoIdleState ∈ card.commands →
      Leads (goIdle drv.spied i (rounds + 1)) (fun _ s' => Identifying .idle voltage s') s := by
  induction rounds with
  | zero =>
    intro i card s here known
    unfold goIdle
    apply (goIdleState_leads drv here known _).bind
    intro _ s₁ idle
    apply (leads_execExpectingError drv idle.1 (plain_sendIfCond _)).bind
    intro _ s₂ answered
    have here₂ := answered.stays rfl
    rw [leads_bind, leads_get]
    apply leads_ite
    · intro _
      apply leads_ite
      · exact fun _ => leads_throw_bind here₂.fine
      · exact fun _ => here₂
    · exact fun _ => here₂
  | succ rounds ih =>
    intro i card s here known
    unfold goIdle
    apply (goIdleState_leads drv here known _).bind
    intro _ s₁ idle
    apply (leads_execExpectingError drv idle.1 (plain_sendIfCond _)).bind
    intro _ s₂ answered
    have here₂ := answered.stays rfl
    rw [leads_bind, leads_get]
    apply leads_ite
    · intro _
      apply leads_ite
      · exact fun _ => leads_throw_bind here₂.fine
      · exact fun _ => ih here₂ (by simp [CardState.commands])
    · exact fun _ => here₂

/-! ## SD cards -/

/-- The OCR in the response says that the card is not busy. -/
def notBusy (s : PowerUp (σ × List Call) τ) : Bool := RegOcr.notBusy.test (s.cmd.resp 0)

theorem clocked : 400 * kHz ≠ 0 := by decide

/-- ACMD41 makes the card ready when its answer is no longer busy, and leaves it idle before. -/
theorem appOpCond_leads {s : PowerUp (σ × List Call) τ} (here : Identifying .idle voltage s)
    (arg : U32) :
    Leads (mmcAppCmd drv.spied.toHost 0 acmd41SdAppOpCond arg)
      (fun _ s' => s'.trace = s.trace ∧ Identifying
        (if s'.cmd.error then .idle else
          if CardState.started ⟨acmd41SdAppOpCond, arg, true⟩ s'.cmd then .ready true else .idle)
        voltage s') s := by
  obtain ⟨mode, seen⟩ := here
  have listens : Listens 0 ⟨.idle, false, 400 * kHz, voltage, mode⟩ :=
    ⟨rfl, by simp [CardState.commands], rfl, clocked, fun _ => rfl⟩
  apply (leads_mmcAppCmd drv seen listens (by simp [CardState.appCommands]) (by decide)).imp
  intro _ s' executed
  obtain ⟨mode', seen'⟩ := executed.seen
  refine ⟨executed.trace, mode', ?_⟩
  have next : CardState.next ⟨acmd41SdAppOpCond, arg, true⟩ s'.cmd .idle =
      if CardState.started ⟨acmd41SdAppOpCond, arg, true⟩ s'.cmd then .ready true else .idle := by
    simp [CardState.next]
  simpa only [next] using seen'

/-- An argument that is not zero is more than an inquiry. -/
theorem started_eq {word arg : U32} (some : arg ≠ 0) (app : Bool) (s : PowerUp (σ × List Call) τ) :
    CardState.started ⟨word, arg, app⟩ s.cmd = notBusy s := by
  simp only [CardState.started, notBusy, ne_eq, decide_not, some, decide_false, Bool.not_false,
    Bool.true_and]

/-- The loop ends with a ready card, or with the last answer still busy. The address is zero, as the card
has none yet. -/
theorem sdWaitReady_leads {a41 : U32} (some : a41 ≠ 0) (rounds : Nat) :
    ∀ {s : PowerUp (σ × List Call) Medium}, Identifying .idle voltage s → s.trace.rca = 0 →
      (rounds = 0 → notBusy s = false) →
      Leads (sdWaitReady drv.spied a41 rounds)
        (fun _ s' => s'.trace = s.trace ∧
          Identifying (if notBusy s' then .ready true else .idle) voltage s') s := by
  induction rounds with
  | zero =>
    intro s here _ busy
    refine ⟨rfl, ?_⟩
    rw [busy rfl, if_neg Bool.false_ne_true]
    exact here
  | succ rounds ih =>
    intro s here rca _
    unfold sdWaitReady
    rw [leads_bind, leads_get, rca, leads_bind]
    apply (appOpCond_leads drv here a41).imp
    intro _ s₁ answered
    rw [leads_bind]
    apply (leads_checkError answered.2.choose_spec).imp
    intro _ s₂ checked
    rw [checked.1]
    have here₁ := answered.2
    rw [checked.2, if_neg Bool.false_ne_true, started_eq some] at here₁
    rw [leads_bind, leads_response]
    apply leads_ite
    · intro busy
      have busy : notBusy s₁ = false := Bool.not_eq_true' _ ▸ busy
      rw [busy, if_neg Bool.false_ne_true] at here₁
      obtain ⟨mode, seen⟩ := here₁
      apply (leads_delay drv seen).bind
      intro _ s₃ delayed
      have same : notBusy s₃ = notBusy s₁ := by unfold notBusy; rw [delayed.2.1]
      apply (ih ⟨mode, delayed.1⟩ (by rw [delayed.2.2, answered.1, rca])
        (fun _ => same.trans busy)).imp
      exact fun _ s' post => ⟨post.1.trans (delayed.2.2.trans answered.1), post.2⟩
    · exact fun _ => ⟨answered.1, here₁⟩

/-- The voltage behind the identification. -/
def switched (v18 : Bool) (voltage : Option Voltage) : Option Voltage :=
  if v18 then some .v180 else voltage

/-- CMD11 leaves a ready card ready. When the voltage was switched, it is 1.8 V. -/
theorem sdVoltageSwitch_leads {s : PowerUp (σ × List Call) Medium}
    (here : Identifying (.ready true) voltage s) :
    Leads (sdVoltageSwitch drv.spied)
      (fun v18 s' => s'.trace = s.trace ∧ Identifying (.ready true) (switched v18 voltage) s') s := by
  have plain : Plain (.ready true) cmd11VoltageSwitch 0 :=
    .unaddressed (by simp [CardState.commands]) (by decide)
  unfold sdVoltageSwitch
  apply (leads_execChecked drv here plain _).bind
  intro _ s₁ answered
  obtain ⟨⟨mode, seen⟩, trace⟩ := answered
  apply (leads_mmcStatus seen).bind
  intro status s₂ same
  rw [same.1]
  apply leads_ite
  · exact fun _ => leads_throw_bind seen.fine
  intro _
  apply (leads_cardBusy drv seen).bind
  intro busy s₃ asked
  cases busy with
  | false => exact ⟨asked.2.2.trans trace, mode, asked.1⟩
  | true =>
    rw [if_pos rfl]
    apply (leads_delay drv asked.1).bind
    intro _ s₄ waited
    apply (leads_clock drv waited.1 (slow_permitted (by decide) rfl _ _)).bind
    intro _ s₅ stopped
    apply (leads_voltage drv stopped.1 (Or.inl rfl)).bind
    intro _ s₆ powered
    apply (leads_delay drv powered.1).bind
    intro _ s₇ waited'
    apply (leads_clock drv waited'.1 (slow_permitted (by decide) rfl _ _)).bind
    intro _ s₈ running
    apply (leads_delay drv running.1).bind
    intro _ s₉ waited''
    apply (leads_cardBusy drv waited''.1).bind
    intro busy s₁₀ asked'
    apply leads_ite
    · exact fun _ => leads_throw_bind asked'.1.fine
    intro _
    apply (leads_delay drv asked'.1).bind
    intro _ s₁₁ done
    exact ⟨by simp only [done, asked', waited'', running, waited', powered, stopped, waited, asked,
      trace], mode, done.1⟩

/-- A round starts over with CMD0, whatever the state of the card, and ends with a card that is ready. -/
theorem sdIdentifyRound_leads {a41 : U32} (some : a41 ≠ 0) {s : PowerUp (σ × List Call) Medium}
    (here : Identifying card voltage s) (known : cmd0GoIdleState ∈ card.commands)
    (rca : s.trace.rca = 0) :
    Leads (sdIdentifyRound drv.spied a41)
      (fun r s' => s'.trace.rca = 0 ∧
        Identifying (.ready true) (switched (r = Option.some true) voltage) s') s := by
  obtain ⟨mode, seen⟩ := here
  unfold sdIdentifyRound
  apply (leads_busWidth drv seen).bind
  intro _ s₁ width
  apply (leads_clock drv width.1 (slow_permitted (by decide) rfl _ _)).bind
  intro _ s₂ slow
  apply (goIdleState_leads drv ⟨mode, slow.1⟩ known _).bind
  intro _ s₃ idle
  apply (leads_execChecked drv idle.1 (plain_sendIfCond _) _).bind
  intro _ s₄ answered
  have trace : s₄.trace = s.trace :=
    answered.2.trans (idle.2.trans (slow.2.2.trans width.2.2))
  apply (sdWaitReady_leads drv some 100 answered.1 (by rw [trace, rca]) (nomatch ·)).bind
  intro _ s₅ waited
  rw [leads_bind, leads_response]
  apply leads_ite
  · exact fun _ => leads_throw_bind waited.2.fine
  intro ready
  have ready : notBusy s₅ = true := by
    rw [Bool.not_eq_true', Bool.not_eq_false] at ready
    exact ready
  have here₅ := waited.2
  rw [ready, if_pos rfl] at here₅
  have rca₅ : s₅.trace.rca = 0 := by rw [waited.1, trace, rca]
  apply leads_note.bind
  intro _ s₆ noted
  have rca₆ : s₆.trace.rca = 0 := by rw [noted.trace, ← rca₅]
  apply leads_ite
  · intro _
    apply (sdVoltageSwitch_leads drv (here₅.of_hw noted.hw)).bind
    intro v18 s₇ outcome
    have rca₇ : s₇.trace.rca = 0 := by rw [outcome.1, rca₆]
    cases v18 with
    | true => exact ⟨rca₇, outcome.2⟩
    | false => exact ⟨rca₇, outcome.2⟩
  · exact fun _ => ⟨rca₆, here₅.of_hw noted.hw⟩

/-- The loop is left in the ready state; `v18` says that the voltage was switched. -/
theorem sdIdentify_leads {a41 : U32} (some : a41 ≠ 0) (rounds : Nat) :
    ∀ {card : CardState} {s : PowerUp (σ × List Call) Medium}, Identifying card voltage s →
      cmd0GoIdleState ∈ card.commands → s.trace.rca = 0 → (rounds = 0 → card = .ready true) →
      Leads (sdIdentify drv.spied a41 rounds)
        (fun v18 s' => s'.trace.rca = 0 ∧ Identifying (.ready true) (switched v18 voltage) s') s := by
  induction rounds with
  | zero =>
    intro card s here _ rca ready
    rw [ready rfl] at here
    exact ⟨rca, here⟩
  | succ rounds ih =>
    intro card s here known rca _
    unfold sdIdentify
    apply (sdIdentifyRound_leads drv some here known rca).bind
    intro r s₁ outcome
    cases r with
    | some v18 =>
      cases v18 with
      | true => exact outcome
      | false => exact outcome
    | none => exact ih outcome.2 (by simp [CardState.commands]) outcome.1 (fun _ => rfl)

/-- The address in the upper half of an argument. -/
theorem rca_of_arg (rca : U16) : ((rca.setWidth 32 <<< 16) >>> 16).setWidth 16 = rca := by
  apply BitVec.eq_of_toNat_eq
  have bound := rca.isLt
  simp only [BitVec.toNat_setWidth, BitVec.toNat_ushiftRight, BitVec.toNat_shiftLeft,
    Nat.shiftLeft_eq, Nat.shiftRight_eq_div_pow]
  omega

@[simp] theorem leads_rcaArg {Q : U32 → PowerUp (σ × List Call) Medium → Prop}
    {s : PowerUp (σ × List Call) Medium} :
    Leads rcaArg Q s ↔ Q (s.trace.rca.setWidth 32 <<< 16) s := Iff.rfl

/-- CMD9 and CMD7 with the address of the card. -/
theorem stby_plain {word : U32} (known : word = cmd7SelectCard ∨ word = cmd9SendCsd) (rca : U16) :
    Plain (.stby rca) word (rca.setWidth 32 <<< 16) := by
  refine ⟨?_, ?_, fun _ => rfl⟩
  · simpa [CardState.commands] using known
  · rcases known with rfl | rfl <;> decide

/-- A locked card ends the scan; any other one stays as it is. -/
theorem checkLocked_leads {s : PowerUp (σ × List Call) τ} (here : Identifying card voltage s) :
    Leads checkLocked (fun _ s' => s' = s) s := by
  obtain ⟨mode, seen⟩ := here
  apply (leads_mmcStatus seen).bind
  intro status s₁ same
  rw [same.1]
  apply leads_ite
  · exact fun _ => leads_throw seen.fine
  · exact fun _ => rfl

/-- CMD2, CMD3, CMD9 and CMD7 take the card through its states, with the address that CMD3 has got from it.
-/
theorem sdSelectCard_leads {s : PowerUp (σ × List Call) Medium}
    (here : Identifying (.ready true) voltage s) :
    Leads (sdSelectCard drv.spied) (fun _ s' => Identifying (.tran s'.trace.rca) voltage s') s := by
  have cid : Plain (.ready true) cmd2AllSendCid 0 :=
    .unaddressed (by simp [CardState.commands]) (by decide)
  have address : Plain (.ident true) cmd3SendRelativeAddr 0 :=
    .unaddressed (List.mem_singleton.mpr rfl) (by decide)
  unfold sdSelectCard
  apply (leads_execChecked drv here cid _).bind
  intro _ s₁ identified
  rw [leads_bind, leads_get]
  apply leads_note.bind
  intro _ s₂ noted
  apply (leads_execChecked drv (identified.1.of_hw noted.hw) address _).bind
  intro _ s₃ addressed
  rw [leads_bind, leads_response]
  apply leads_note.bind
  intro _ s₄ assigned
  have here₄ : Identifying (.stby s₄.trace.rca) voltage s₄ := by
    rw [assigned.trace]
    exact addressed.1.of_hw assigned.hw
  rw [leads_bind, leads_rcaArg]
  apply (leads_execChecked drv here₄ (stby_plain (Or.inr rfl) _) _).bind
  intro _ s₅ described
  rw [leads_bind, leads_get]
  apply leads_note.bind
  intro _ s₆ sized
  have rca : s₆.trace.rca = s₄.trace.rca := by rw [sized.trace, described.2]
  rw [leads_bind, leads_rcaArg, rca]
  apply (leads_execChecked drv (described.1.of_hw sized.hw) (stby_plain (Or.inl rfl) _) _).bind
  intro _ s₇ selected
  apply (checkLocked_leads selected.1).imp
  intro _ s₈ same
  rw [same, selected.2, rca]
  exact selected.1

/-! ## eMMC devices -/

/-- CMD1 is for eMMC devices what ACMD41 is for SD cards. -/
theorem sendOpCond_leads {s : PowerUp (σ × List Call) Medium} (here : Identifying .idle voltage s)
    (arg : U32) :
    Leads (exec drv.spied.toHost cmd1SendOpCond arg)
      (fun _ s' => s'.trace = s.trace ∧ Identifying
        (if s'.cmd.error then .idle else
          if CardState.started ⟨cmd1SendOpCond, arg, false⟩ s'.cmd then .ready false else .idle)
        voltage s') s := by
  have plain : Plain .idle cmd1SendOpCond arg :=
    .unaddressed (by simp [CardState.commands]) (by decide)
  apply (leads_exec drv here plain).imp
  exact fun _ s' answered => ⟨answered.trace, answered.here⟩

/-- The loop ends with a ready device, or with the last answer still busy. -/
theorem mmcWaitReady_leads {a41 : U32} (some : a41 ≠ 0) (rounds : Nat) :
    ∀ {s : PowerUp (σ × List Call) Medium}, Identifying .idle voltage s →
      (rounds = 0 → notBusy s = false) →
      Leads (mmcWaitReady drv.spied a41 rounds)
        (fun _ s' => s'.trace = s.trace ∧
          Identifying (if notBusy s' then .ready false else .idle) voltage s') s := by
  induction rounds with
  | zero =>
    intro s here busy
    refine ⟨rfl, ?_⟩
    rw [busy rfl, if_neg Bool.false_ne_true]
    exact here
  | succ rounds ih =>
    intro s here _
    unfold mmcWaitReady
    rw [execChecked, leads_bind, leads_bind]
    apply (sendOpCond_leads drv here a41).imp
    intro _ s₁ answered
    apply (leads_checkError answered.2.choose_spec).imp
    intro _ s₂ checked
    rw [checked.1]
    have here₁ := answered.2
    rw [checked.2, if_neg Bool.false_ne_true, started_eq some] at here₁
    rw [leads_bind, leads_response]
    apply leads_ite
    · intro again
      have busy : notBusy s₁ = false := by
        by_contra other
        have ready : RegOcr.notBusy.test (s₁.cmd.resp 0) = true := Bool.not_eq_false _ ▸ other
        refine again ⟨?_, ?_, ready⟩
        · intro same
          rw [same] at ready
          exact absurd ready (by decide)
        · intro same
          rw [same] at ready
          exact absurd ready (by decide)
      rw [busy, if_neg Bool.false_ne_true] at here₁
      obtain ⟨mode, seen⟩ := here₁
      apply (leads_delay drv seen).bind
      intro _ s₃ delayed
      have same : notBusy s₃ = notBusy s₁ := by unfold notBusy; rw [delayed.2.1]
      apply (ih ⟨mode, delayed.1⟩ (fun _ => same.trans busy)).imp
      exact fun _ s' post => ⟨post.1.trans (delayed.2.2.trans answered.1), post.2⟩
    · exact fun _ => ⟨answered.1, here₁⟩

/-- The loop ends with a success, or the last error is left for `check_error`. -/
theorem mmcAllSendCid_leads (rounds : Nat) :
    ∀ {s : PowerUp (σ × List Call) Medium}, Identifying (.ready false) voltage s →
      (rounds = 0 → s.cmd.error = true) →
      Leads (mmcAllSendCid drv.spied rounds)
        (fun _ s' => s'.trace = s.trace ∧
          Identifying (if s'.cmd.error then .ready false else .ident false) voltage s') s := by
  have plain : Plain (.ready false) cmd2AllSendCid 0 :=
    .unaddressed (by simp [CardState.commands]) (by decide)
  induction rounds with
  | zero =>
    intro s here failed
    refine ⟨rfl, ?_⟩
    rw [failed rfl, if_pos rfl]
    exact here
  | succ rounds ih =>
    intro s here _
    unfold mmcAllSendCid
    apply (leads_exec drv here plain).bind
    intro _ s₁ answered
    rw [leads_bind, leads_get]
    apply leads_ite
    · intro other
      have failed : s₁.cmd.error = true := answered.decided.resolve_left other
      have here₁ := answered.here
      rw [CardState.after, if_pos failed] at here₁
      apply (ih here₁ (fun _ => failed)).imp
      exact fun _ s' post => ⟨post.1.trans answered.trace, post.2⟩
    · exact fun _ => ⟨answered.trace, answered.here⟩

/-- The argument names at least one voltage, so it is no inquiry. -/
theorem adaptOcr_ne_zero (ocr : U32) : adaptOcr drv ocr ≠ 0 := by
  intro zero
  have set : ArgAcmd41SdSendOp.hcs.test (adaptOcr drv ocr) = true := by
    unfold adaptOcr Bitfield.put
    rw [Bitfield.test_set_self]
    rfl
  rw [zero] at set
  exact absurd set (by decide)

/-- The device takes the address that it is given, and is selected with it. -/
theorem mmcIdentify_leads {s : PowerUp (σ × List Call) Medium} (here : Identifying card voltage s)
    (known : cmd0GoIdleState ∈ card.commands) (ocr : U32) :
    Leads (mmcIdentify drv.spied ocr)
      (fun _ s' => s'.trace.rca = s.trace.rca ∧ Identifying (.tran s.trace.rca) voltage s') s := by
  unfold mmcIdentify
  apply (goIdleState_leads drv here known _).bind
  intro _ s₁ idle
  apply (mmcWaitReady_leads drv (adaptOcr_ne_zero drv.spied ocr) 100 idle.1 (nomatch ·)).bind
  intro _ s₂ waited
  rw [leads_bind, leads_response]
  apply leads_ite
  · exact fun _ => leads_throw_bind waited.2.fine
  intro ready
  have ready : notBusy s₂ = true := by
    rw [Bool.not_eq_true', Bool.not_eq_false] at ready
    exact ready
  have here₂ := waited.2
  rw [ready, if_pos rfl] at here₂
  apply leads_note.bind
  intro _ s₃ noted
  apply (mmcAllSendCid_leads drv 5 (here₂.of_hw noted.hw) (nomatch ·)).bind
  intro _ s₄ asked
  obtain ⟨mode, seen⟩ := asked.2
  apply (leads_checkError seen).bind
  intro _ s₅ checked
  rw [checked.1]
  have here₄ := asked.2
  rw [checked.2, if_neg Bool.false_ne_true] at here₄
  rw [leads_bind, leads_get]
  apply leads_note.bind
  intro _ s₆ named
  have rca : s₆.trace.rca = s.trace.rca := by
    rw [named.trace, asked.1, noted.trace, waited.1, idle.2]
  have address : ∀ arg, Plain (.ident false) cmd3SetRelativeAddr arg :=
    fun _ => .unaddressed (List.mem_singleton.mpr rfl) (by decide)
  rw [leads_bind, leads_rcaArg, rca]
  apply (leads_execChecked drv (here₄.of_hw named.hw) (address _) _).bind
  intro _ s₇ addressed
  have here₇ : Identifying (.stby s.trace.rca) voltage s₇ := by
    rw [← rca_of_arg s.trace.rca]
    exact addressed.1
  rw [leads_bind, leads_rcaArg, addressed.2, rca]
  apply (leads_execChecked drv here₇ (stby_plain (Or.inr rfl) _) _).bind
  intro _ s₈ described
  rw [leads_bind, leads_get]
  apply leads_ite
  · exact fun _ => leads_throw_bind described.1.fine
  intro _
  rw [leads_bind, leads_rcaArg, described.2, addressed.2, rca]
  apply (leads_execChecked drv described.1 (stby_plain (Or.inl rfl) _) _).bind
  intro _ s₉ selected
  apply (checkLocked_leads selected.1).bind
  intro _ s₁₀ same
  rw [same]
  have read : Plain (.tran s.trace.rca) cmd8SendExtCsd 0 :=
    .unaddressed (by simp [CardState.commands]) (by decide)
  apply (leads_execData drv selected.1 read).bind
  intro _ s₁₁ answered
  have here₁₁ := answered.stays rfl
  obtain ⟨mode', seen'⟩ := here₁₁
  apply (leads_checkError seen').imp
  intro _ s₁₂ checked'
  rw [checked'.1, answered.trace, selected.2, described.2, addressed.2, rca]
  exact ⟨rfl, mode', seen'⟩

end PowerUp

end Emmc
