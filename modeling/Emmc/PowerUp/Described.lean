import Emmc.PowerUp.Order

/-!
# What the card has told

The members that the device keeps of a card come from responses of the card: `Told log word P` says that
a command of the log succeeded with `P`. Answers stay in the log (`Later`), and each part of the
initialisation leaves the members alone that earlier parts have set.

* `Tells log card`: the log has the registers of the card.
* `scan_describes`: a device that was found has the size and the addressing of the card that was heard.
-/

namespace Emmc

open Throwing

namespace PowerUp

open Mmc

variable {σ τ α β : Type}

/-- The card has answered a command, without an error. -/
def Told (log : List Call) (word : U32) (P : Cmd → (Nat → U8) → Prop) : Prop :=
  ∃ sent ended ioBuf, Call.command sent ended ioBuf ∈ log ∧ sent.word = word ∧ ended.error = false ∧
    P ended ioBuf

/-- What a card has told stays told: the log only grows. -/
theorem Told.later {log log' : List Call} {word : U32} {P : Cmd → (Nat → U8) → Prop}
    (told : Told log word P) (subset : log ⊆ log') : Told log' word P := by
  obtain ⟨sent, ended, ioBuf, member, rest⟩ := told
  exact ⟨sent, ended, ioBuf, subset member, rest⟩

/-- The log has the registers of the card. The OCR is the one with which the card reported the end of its
power-up. -/
def Tells (log : List Call) (card : Card) : Prop :=
  RegOcr.notBusy.test card.ocr = true ∧
    match card with
    | .sd ocr csd => Told log acmd41SdAppOpCond (fun c _ => c.resp 0 = ocr) ∧
      Told log cmd9SendCsd (fun c _ => RegCsd.ofResponse c.resp = csd)
    | .mmc ocr secCount => Told log cmd1SendOpCond (fun c _ => c.resp 0 = ocr) ∧
      Told log cmd8SendExtCsd (fun _ ioBuf => RegEcsd.word ioBuf 212 = secCount)

/-- The serial number of the card, which names the device. -/
def Names (log : List Call) (m : Medium) (psn : (Fin 4 → U32) → U32) : Prop :=
  Told log cmd2AllSendCid fun c _ => m.hid = hex08 ((psn c.resp).setWidth 64)

/-- What kind of medium the card is. -/
def kind : Card → MediumType
  | .sd .. => .sd
  | .mmc .. => .mmc

/-- Where a card of this kind has its serial number. -/
def psn : Card → (Fin 4 → U32) → U32
  | .sd .. => RegCid.psnSd
  | .mmc .. => RegCid.psnMmc

/-! ## One command at a time -/

/-- The command in the context is an answer of the card that left these bytes in the I/O buffer. -/
def Heard (word : U32) (ioBuf : Nat → U8) (s : PowerUp (σ × List Call) τ) : Prop :=
  ∃ sent, Call.command sent s.cmd ioBuf ∈ s.hw.2 ∧ sent.word = word

/-- The same, and the command has not failed. -/
def Answer (word : U32) (s : PowerUp (σ × List Call) τ) : Prop :=
  (∃ ioBuf, Heard word ioBuf s) ∧ s.cmd.error = false

/-- A command whose response was heard, and which did not end with an error, has told what its response and
the I/O buffer say. -/
theorem Heard.told {word : U32} {ioBuf : Nat → U8} {s : PowerUp (σ × List Call) τ}
    (heard : Heard word ioBuf s) (ok : s.cmd.error = false) {P : Cmd → (Nat → U8) → Prop}
    (holds : P s.cmd ioBuf) : Told s.hw.2 word P := by
  obtain ⟨sent, member, word⟩ := heard
  exact ⟨sent, _, _, member, word, ok, holds⟩

/-- The same for what the response alone says. -/
theorem Answer.told {word : U32} {s : PowerUp (σ × List Call) τ} (answer : Answer word s)
    {P : Cmd → Prop} (holds : P s.cmd) : Told s.hw.2 word (fun c _ => P c) := by
  obtain ⟨⟨ioBuf, heard⟩, ok⟩ := answer
  exact heard.told ok holds

/-- Only answers were added. -/
structure Later (s s' : PowerUp (σ × List Call) τ) : Prop where
  log : s.hw.2 ⊆ s'.hw.2
  trace : s'.trace = s.trace

variable (drv : Driver σ)

/-- A part of the scan that notes nothing keeps the description, and the log behind it contains the log
before it. -/
theorem later {m : PowerUpM (σ × List Call) τ α} {n : Nat}
    (sends : Sends (spiedHost drv.toHost) {} n m) (silent : Silent m) (s : PowerUp (σ × List Call) τ) :
    wp m (fun _ s' => Later s s') (fun _ _ => True) s := by
  have kept : wp m (fun _ s' => s'.trace = s.trace) (fun _ _ => True) s :=
    silent.keep (fun _ _ same => same) (fun _ _ _ => trivial)
  apply ((sends.adds s).and kept).mono
  · intro _ s' post
    obtain ⟨⟨added, same, -⟩, trace⟩ := post
    refine ⟨?_, trace⟩
    show s.hw.2 ⊆ s'.hw.2
    have same : s'.hw.2 = added ++ s.hw.2 := same
    rw [same]
    exact List.subset_append_right _ _
  · exact fun _ _ _ => trivial

/-- The entry of an executed command carries the command as it ended, and the I/O buffer as it is then. -/
theorem cmdExec_heard (s : PowerUp (σ × List Call) τ) :
    wp (cmdExec drv.spied.toHost) (fun _ s' => Heard s.cmd.cmd (drv.ioBuf s'.hw.1) s' ∧ Later s s')
      (fun _ _ => True) s := by
  show wp (zoom _ _ (recordCommand drv.toHost)) _ _ s
  unfold recordCommand
  rw [wp_zoom, wp_zoom, wp_recorded]
  apply (wp_any _ _).mono
  · exact fun _ _ _ => ⟨⟨sent s.cmd, List.mem_cons_self, rfl⟩, List.subset_cons_self _ _, rfl⟩
  · exact fun _ _ _ => trivial

/-- Preparing a command does not change what was heard before. -/
theorem exec_heard (word arg : U32) (s : PowerUp (σ × List Call) τ) :
    wp (exec drv.spied.toHost word arg) (fun _ s' => Heard word (drv.ioBuf s'.hw.1) s' ∧ Later s s')
      (fun _ _ => True) s :=
  (cmdExec_heard drv { s with cmd := s.cmd.initArg word arg }).imp fun _ _ post =>
    ⟨post.1, post.2.log, post.2.trace⟩

/-- The check returns only without an error. -/
theorem wp_checkError (text : String) (s : PowerUp σ τ) :
    wp (checkError text) (fun _ s' => s' = s ∧ s.cmd.error = false) (fun _ _ => True) s := by
  unfold checkError
  rw [wp_bind, wp_get]
  unfold Cmd.checkError
  cases failed : s.cmd.error with
  | true => exact trivial
  | false => exact ⟨rfl, rfl⟩

/-- So behind a checked command, its answer is in the log. -/
theorem execChecked_answer (word arg : U32) (text : String) (s : PowerUp (σ × List Call) τ) :
    wp (execChecked drv.spied.toHost word arg text)
      (fun _ s' => Answer word s' ∧ Later s s') (fun _ _ => True) s := by
  apply (exec_heard drv word arg s).bind
  intro _ s₁ post
  apply (wp_checkError text s₁).imp
  intro _ s₂ checked
  rw [checked.1]
  exact ⟨⟨⟨_, post.1⟩, checked.2⟩, post.2⟩

/-- Two parts of the scan, one behind the other. -/
theorem Later.trans {s s' s'' : PowerUp (σ × List Call) τ} (first : Later s s') (second : Later s' s'') :
    Later s s'' :=
  ⟨List.Subset.trans first.log second.log, second.trace.trans first.trace⟩

/-- When CMD55 fails, the command that is left in the slot is CMD55, with an error: there is an answer only
without one. -/
theorem mmcAppCmd_answer (rca : U16) (word arg : U32) (s : PowerUp (σ × List Call) τ) :
    wp (mmcAppCmd drv.spied.toHost rca word arg)
      (fun _ s' => (s'.cmd.error = false → Answer word s') ∧ Later s s') (fun _ _ => True) s := by
  unfold mmcAppCmd
  rw [wp_bind, wp_modifyCmd]
  apply (cmdExec_heard drv { s with cmd := s.cmd.initArg cmd55AppCmd (rca.setWidth 32 <<< 16) }).bind
  intro _ s₁ announced
  have later₁ : Later s s₁ := ⟨announced.2.log, announced.2.trace⟩
  rw [wp_bind, wp_get, wp_ite]
  apply And.intro
  · intro _
    rw [wp_bind, wp_modifyCmd, wp_bind, wp_modifyCmd]
    apply (cmdExec_heard drv { s₁ with cmd := { s₁.cmd.initArg word arg with
      flags := { (s₁.cmd.initArg word arg).flags with appCmd := true } } }).imp
    exact fun _ _ post => ⟨fun ok => ⟨⟨_, post.1⟩, ok⟩, later₁.trans ⟨post.2.log, post.2.trace⟩⟩
  · intro failed
    rw [Bool.not_eq_true', Bool.not_eq_false] at failed
    exact ⟨fun ok => absurd (ok.symm.trans failed) Bool.false_ne_true, later₁⟩

/-- A delay does not touch the command that has ended. -/
theorem delay_answer (ms : U32) {word : U32} {s : PowerUp (σ × List Call) τ} (answer : Answer word s) :
    wp (onHw (drv.spied.delay ms)) (fun _ s' => Answer word s' ∧ Later s s') (fun _ _ => True) s := by
  show wp (onHw (unrecorded (drv.delay ms))) _ _ s
  unfold onHw unrecorded
  rw [wp_zoom, wp_zoom]
  exact (wp_any _ _).mono (fun _ _ _ => ⟨answer, List.Subset.refl _, rfl⟩) (fun _ _ _ => trivial)

/-- The response is read, and the state stays. -/
@[simp] theorem wp_response {i : Fin 4} {Q : U32 → PowerUp σ τ → Prop}
    {E : RuntimeError → PowerUp σ τ → Prop} {s : PowerUp σ τ} :
    wp (response i) Q E s ↔ Q (s.cmd.resp i) s := Iff.rfl

/-- The address that was noted, in the upper half of the argument. -/
@[simp] theorem wp_rcaArg {Q : U32 → PowerUp σ Medium → Prop}
    {E : RuntimeError → PowerUp σ Medium → Prop} {s : PowerUp σ Medium} :
    wp rcaArg Q E s ↔ Q (s.trace.rca.setWidth 32 <<< 16) s := Iff.rfl

/-- A note changes the description and nothing else. -/
theorem wp_noted (f : τ → τ) (s : PowerUp (σ × List Call) τ) :
    wp (note f) (fun _ s' => Noted f s s') (fun _ _ => True) s :=
  ⟨rfl, rfl, rfl⟩

/-! ## SD cards -/

/-- The OCR that the card has told at the end of its power-up is the one by which the device addresses it. -/
def Addressed (log : List Call) (word : U32) (addrMult : U64) : Prop :=
  ∃ ocr, RegOcr.notBusy.test ocr = true ∧ Told log word (fun c _ => c.resp 0 = ocr) ∧
    addrMult = if RegOcr.ccs.test ocr then 1 else 512

/-- The OCR that decided about the unit of the addresses stays in the log. -/
theorem Addressed.later {log log' : List Call} {word : U32} {addrMult : U64}
    (addressed : Addressed log word addrMult) (subset : log ⊆ log') :
    Addressed log' word addrMult := by
  obtain ⟨ocr, ready, told, same⟩ := addressed
  exact ⟨ocr, ready, told.later subset, same⟩

/-- The command that is left in the slot is ACMD41. Without an iteration it has to be there already; with
one, the last iteration has put it there. -/
theorem sdWaitReady_answer (a41 : U32) (rounds : Nat) :
    ∀ s : PowerUp (σ × List Call) Medium,
      (rounds = 0 → Answer acmd41SdAppOpCond s) →
      wp (sdWaitReady drv.spied a41 rounds)
        (fun _ s' => Answer acmd41SdAppOpCond s' ∧ Later s s') (fun _ _ => True) s := by
  induction rounds with
  | zero => exact fun s heard => ⟨heard rfl, List.Subset.refl _, rfl⟩
  | succ rounds ih =>
    intro s _
    unfold sdWaitReady
    rw [wp_bind, wp_get]
    apply (mmcAppCmd_answer drv s.trace.rca acmd41SdAppOpCond a41 s).bind
    intro _ s₁ answered
    apply (wp_checkError _ s₁).bind
    intro _ s₂ checked
    rw [checked.1]
    have answer := answered.1 checked.2
    rw [wp_bind, wp_response, wp_ite]
    apply And.intro
    · intro _
      apply (delay_answer drv 5 answer).bind
      intro _ s₃ post
      exact (ih s₃ fun _ => post.1).imp fun _ _ post' =>
        ⟨post'.1, answered.2.trans (post.2.trans post'.2)⟩
    · exact fun _ => ⟨answer, answered.2⟩

theorem silent_mmcStatus : Silent (mmcStatus : PowerUpM σ τ U32) := by
  apply Relates.get_bind
  intro s
  cases s.cmd.mmcStatus with
  | error e => exact Relates.throw e
  | ok status => exact Relates.pure status

theorem silent_checkLocked : Silent (checkLocked : PowerUpM σ τ Unit) :=
  silent_mmcStatus.bind fun _ => Relates.ite (Relates.throw _) (Relates.pure ())

/-- The voltage switch notes nothing about the card. -/
theorem silent_sdVoltageSwitch (drv : Driver σ) : Silent (sdVoltageSwitch drv) := by
  apply (silent_execChecked _ _ _ _).bind
  intro _
  apply silent_mmcStatus.bind
  intro status
  apply Relates.ite (Relates.throw _)
  apply (silent_onHw _).bind
  intro busy
  apply Relates.ite _ (Relates.pure _)
  apply (silent_onHw _).bind
  intro _
  apply (silent_onHw _).bind
  intro _
  apply (silent_onHw _).bind
  intro _
  apply (silent_onHw _).bind
  intro _
  apply (silent_onHw _).bind
  intro _
  apply (silent_onHw _).bind
  intro _
  apply (silent_onHw _).bind
  intro busy
  exact Relates.ite (Relates.throw _) ((silent_onHw _).bind fun _ => Relates.pure _)

/-- The last OCR that the card has told decides. -/
theorem sdIdentifyRound_addressed (a41 : U32) (s : PowerUp (σ × List Call) Medium) :
    wp (sdIdentifyRound drv.spied a41)
      (fun _ s' => Addressed s'.hw.2 acmd41SdAppOpCond s'.trace.addrMult) (fun _ _ => True) s := by
  unfold sdIdentifyRound
  apply wp_second
  intro _ s₁
  apply wp_second
  intro _ s₂
  apply wp_second
  intro _ s₃
  apply wp_second
  intro _ s₄
  apply (sdWaitReady_answer drv a41 100 s₄ (nomatch ·)).bind
  intro _ s₅ post
  rw [wp_bind, wp_response, wp_ite]
  apply And.intro
  · exact fun _ => trivial
  · intro ready
    rw [Bool.not_eq_true', Bool.not_eq_false] at ready
    rw [wp_bind, wp_note]
    have addressed : Addressed s₅.hw.2 acmd41SdAppOpCond
        (if RegOcr.ccs.test (s₅.cmd.resp 0) then 1 else 512) :=
      ⟨_, ready, post.1.told rfl, rfl⟩
    rw [wp_ite]
    apply And.intro
    · intro _
      apply (later drv (sends_sdVoltageSwitch drv.spied) (silent_sdVoltageSwitch drv.spied) _).bind
      intro v18 s₆ switched
      have addressed₆ : Addressed s₆.hw.2 acmd41SdAppOpCond s₆.trace.addrMult := by
        rw [switched.trace]
        exact addressed.later switched.log
      cases v18 with
      | true => exact addressed₆
      | false => exact addressed₆
    · exact fun _ => addressed

/-- In each round the unit is set again, so the OCR of the last round is the one that stays. -/
theorem sdIdentify_addressed (a41 : U32) (rounds : Nat) :
    ∀ s : PowerUp (σ × List Call) Medium,
      (rounds = 0 → Addressed s.hw.2 acmd41SdAppOpCond s.trace.addrMult) →
      wp (sdIdentify drv.spied a41 rounds)
        (fun _ s' => Addressed s'.hw.2 acmd41SdAppOpCond s'.trace.addrMult) (fun _ _ => True) s := by
  induction rounds with
  | zero => exact fun s addressed => addressed rfl
  | succ rounds ih =>
    intro s _
    unfold sdIdentify
    apply (sdIdentifyRound_addressed drv a41 s).bind
    intro r s₁ addressed
    cases r with
    | some v18 => exact addressed
    | none => exact ih s₁ fun _ => addressed

/-- The name is from CMD2, the size from CMD9, each from the response that this very command got. -/
theorem sdSelectCard_told (s : PowerUp (σ × List Call) Medium) :
    wp (sdSelectCard drv.spied)
      (fun _ s' => s.hw.2 ⊆ s'.hw.2 ∧ s'.trace.addrMult = s.trace.addrMult ∧
        Names s'.hw.2 s'.trace RegCid.psnSd ∧
        ∃ csd, Told s'.hw.2 cmd9SendCsd (fun c _ => RegCsd.ofResponse c.resp = csd) ∧
          s'.trace.numSectors = deviceSize csd / 512) (fun _ _ => True) s := by
  unfold sdSelectCard
  apply (execChecked_answer drv _ _ _ s).bind
  intro _ s₁ cid
  rw [wp_bind, wp_get]
  apply (wp_noted _ s₁).bind
  intro _ s₂ named
  apply (execChecked_answer drv _ _ _ s₂).bind
  intro _ s₃ address
  rw [wp_bind, wp_response]
  apply (wp_noted _ s₃).bind
  intro _ s₄ assigned
  rw [wp_bind, wp_rcaArg]
  apply (execChecked_answer drv _ _ _ s₄).bind
  intro _ s₅ csd
  rw [wp_bind, wp_get]
  apply (wp_noted _ s₅).bind
  intro _ s₆ sized
  rw [wp_bind, wp_rcaArg]
  apply (execChecked_answer drv _ _ _ s₆).bind
  intro _ s₇ selected
  apply (later drv (n := 0) sends_checkLocked silent_checkLocked s₇).imp
  intro _ s₈ last
  have log₆ : s₅.hw.2 ⊆ s₈.hw.2 := by
    have more := selected.2.log
    rw [sized.hw] at more
    exact List.Subset.trans more last.log
  have log₂ : s₁.hw.2 ⊆ s₈.hw.2 := by
    have first := address.2.log
    have second := csd.2.log
    rw [named.hw] at first
    rw [assigned.hw] at second
    exact List.Subset.trans first (List.Subset.trans second log₆)
  have trace₆ : s₈.trace = s₆.trace := by rw [last.trace, selected.2.trace]
  have trace₂ : s₆.trace.addrMult = s₂.trace.addrMult ∧ s₆.trace.hid = s₂.trace.hid := by
    rw [sized.trace, csd.2.trace, assigned.trace, address.2.trace]
    exact ⟨rfl, rfl⟩
  have hid : s₈.trace.hid = hex08 ((RegCid.psnSd s₁.cmd.resp).setWidth 64) := by
    rw [trace₆, trace₂.2, named.trace]
  have told : Told s₅.hw.2 cmd9SendCsd
      (fun c _ => RegCsd.ofResponse c.resp = RegCsd.ofResponse s₅.cmd.resp) :=
    csd.1.told (P := fun c => RegCsd.ofResponse c.resp = _) rfl
  refine ⟨List.Subset.trans cid.2.log log₂, ?_, ?_, _, told.later log₆, ?_⟩
  · rw [trace₆, trace₂.1, named.trace, ← cid.2.trace]
  · exact (cid.1.told hid).later log₂
  · rw [trace₆, sized.trace]

/-! ## Parts that leave the description alone -/

/-- What the device has taken from the card is still there, and so are the answers. -/
structure Known (s s' : PowerUp (σ × List Call) Medium) : Prop where
  log : s.hw.2 ⊆ s'.hw.2
  hid : s'.trace.hid = s.trace.hid
  addrMult : s'.trace.addrMult = s.trace.addrMult
  numSectors : s'.trace.numSectors = s.trace.numSectors

/-- Two parts that leave the description alone leave it alone together. -/
theorem Known.trans {s s' s'' : PowerUp (σ × List Call) Medium} (first : Known s s')
    (second : Known s' s'') : Known s s'' :=
  ⟨List.Subset.trans first.log second.log, second.hid.trans first.hid,
    second.addrMult.trans first.addrMult, second.numSectors.trans first.numSectors⟩

/-- A part without notes leaves the description alone. -/
theorem Later.known {s s' : PowerUp (σ × List Call) Medium} (later : Later s s') : Known s s' := by
  refine ⟨later.log, ?_, ?_, ?_⟩
  all_goals rw [later.trace]

instance : IsPreorder (PowerUp (σ × List Call) Medium) Known where
  refl _ := ⟨List.Subset.refl _, rfl, rfl, rfl⟩
  trans _ _ _ := Known.trans

/-- What is thrown is of no interest here. -/
abbrev Leaves (m : PowerUpM (σ × List Call) Medium α) : Prop := Relates Known (fun _ _ => True) m

/-- Parts without notes are found by how they are put together. -/
theorem leaves_of_silent {m : PowerUpM (σ × List Call) Medium α} {n : Nat}
    (sends : Sends (spiedHost drv.toHost) {} n m) (silent : Silent m) : Leaves m :=
  fun s => (later drv sends silent s).imp fun _ _ later => later.known

/-- A note about something else leaves the description alone. -/
theorem leaves_note {f : Medium → Medium} (hid : ∀ m, (f m).hid = m.hid)
    (addrMult : ∀ m, (f m).addrMult = m.addrMult) (numSectors : ∀ m, (f m).numSectors = m.numSectors) :
    Leaves (note f : PowerUpM (σ × List Call) Medium Unit) :=
  fun _ => ⟨List.Subset.refl _, hid _, addrMult _, numSectors _⟩

/-- In the negotiation of the mode, only the trace of its own is noted. -/
theorem leaves_traced {m : PowerUpM (σ × List Call) τ α} {n : Nat} (trace : τ)
    (sends : Sends (spiedHost drv.toHost) disable n m) : Leaves (traced trace m) := by
  intro s
  have adds := sends.adds ⟨s.cmd, s.hw, trace⟩
  unfold traced
  rw [wp_zoom]
  apply adds.mono
  · intro _ t grown
    obtain ⟨added, same, -⟩ := grown
    have same : t.hw.2 = added ++ s.hw.2 := same
    refine ⟨?_, rfl, rfl, rfl⟩
    show s.hw.2 ⊆ t.hw.2
    rw [same]
    exact List.subset_append_right _ _
  · exact fun _ _ _ => trivial

theorem leaves_mmcAppCmdData (rca : U16) (word arg datalen : U32) :
    Leaves (mmcAppCmdData drv.spied.toHost rca word arg datalen) :=
  leaves_of_silent drv (sends_mmcAppCmdData rca word arg datalen) (silent_mmcAppCmdData _ _ _ _ _)

theorem leaves_checkError (text : String) :
    Leaves (checkError text : PowerUpM (σ × List Call) Medium Unit) :=
  fun s => (wp_checkError text s).imp fun _ s' same => by
    rw [same.1]
    exact ⟨List.Subset.refl _, rfl, rfl, rfl⟩

/-- Behind the identification, an SD card is only asked for its registers; whether it knows CMD23 is no part
of the description. -/
theorem leaves_sdReadRegisters : Leaves (sdReadRegisters drv.spied) := by
  apply Relates.get_bind
  intro s
  apply (leaves_mmcAppCmdData drv _ _ _ _).bind
  intro _
  apply (leaves_checkError _).bind
  intro _
  apply Relates.get_bind
  intro s₁
  apply Relates.ite (Relates.throw_bind _ _)
  refine Relates.bind (leaves_note (fun _ => rfl) (fun _ => rfl) fun _ => rfl) fun _ => ?_
  apply Relates.get_bind
  intro s₂
  apply (leaves_mmcAppCmdData drv _ _ _ _).bind
  intro _
  exact (leaves_checkError _).bind fun _ => Relates.pure _

/-- A switch changes the card and not its description. -/
theorem leaves_mmcSwitch (idx val : U8) (text : String) : Leaves (mmcSwitch drv.spied idx val text) := by
  apply Relates.get_bind
  intro s
  apply Relates.bind _ fun _ => leaves_checkError text
  exact leaves_of_silent drv (sends_execMmcSwitch _ idx val) (silent_execMmcSwitch _ _ _ _)

/-- A device that was found is described by what the card has told, each register read as a card of its kind
has it. -/
structure Describes (log : List Call) (m : Medium) (card : Card) : Prop where
  tells : Tells log card
  type : m.type = kind card
  name : Names log m (psn card)
  addrMult : m.addrMult = card.addrMult
  numSectors : m.numSectors = card.numSectors

/-- The addresses of a supported card fit 32 bits. -/
theorem Describes.addresses_fit {log : List Call} {m : Medium} {card : Card}
    (describes : Describes log m card) (supported : card.Supported) :
    m.numSectors.toNat * m.addrMult.toNat ≤ 2 ^ 32 := by
  rw [describes.addrMult, describes.numSectors]
  exact Card.addresses_fit supported

/-- There is a card that describes the device. -/
def Described (log : List Call) (m : Medium) : Prop := ∃ card, Describes log m card

/-- The name that was noted is still the name. -/
theorem Known.names {s s' : PowerUp (σ × List Call) Medium} (known : Known s s')
    {psn : (Fin 4 → U32) → U32} (names : Names s.hw.2 s.trace psn) : Names s'.hw.2 s'.trace psn := by
  unfold Names
  rw [known.hid]
  exact Told.later names known.log

/-- The three parts of the description are noted by the identification and by the selection; the registers
and the negotiation leave them alone. -/
theorem powerUpSd_described (disable : DeviceTypeDisable) (s : PowerUp (σ × List Call) Medium) :
    wp (powerUpSd drv.spied disable) (fun found s' => found = true → Described s'.hw.2 s'.trace)
      (fun _ _ => True) s := by
  unfold powerUpSd
  apply wp_second
  intro _ s₁
  rw [wp_bind, wp_get]
  apply wp_second
  intro _ s₂
  rw [wp_bind, wp_get, wp_ite]
  apply And.intro
  · exact fun _ => nofun
  intro _
  rw [wp_bind, wp_response]
  apply (sdIdentify_addressed drv _ 10 s₂ (nomatch ·)).bind
  intro v18 s₃ addressed
  apply (sdSelectCard_told drv s₃).bind
  intro _ s₄ selected
  apply (leaves_sdReadRegisters drv s₄).bind
  intro hasBus4bit s₅ registers
  rw [wp_bind, wp_get]
  apply (leaves_traced drv []
    (sends_sdNegotiate s₅.trace.rca v18 hasBus4bit 6) s₅).bind
  intro r s₆ negotiated
  cases r with
  | none => exact nofun
  | some timing =>
    apply (wp_noted _ s₆).bind
    intro _ s₇ noted _
    obtain ⟨log, addrMult, names, csd, told, numSectors⟩ := selected
    obtain ⟨ocr, ready, told', addrMult'⟩ := addressed
    have last : Known s₄ s₇ := by
      apply registers.trans (negotiated.trans _)
      refine ⟨?_, ?_, ?_, ?_⟩
      · rw [noted.hw]
        exact List.Subset.refl _
      all_goals rw [noted.trace]
    refine ⟨.sd ocr csd, ⟨ready, (told'.later log).later last.log, told.later last.log⟩, ?_,
      last.names names, ?_, ?_⟩
    · rw [noted.trace]
      rfl
    · rw [last.addrMult, addrMult, addrMult']
      rfl
    · rw [last.numSectors, numSectors]
      rfl

/-! ## eMMC devices -/

/-- As for an SD card, with CMD1. -/
theorem mmcWaitReady_answer (a41 : U32) (rounds : Nat) :
    ∀ s : PowerUp (σ × List Call) Medium, (rounds = 0 → Answer cmd1SendOpCond s) →
      wp (mmcWaitReady drv.spied a41 rounds) (fun _ s' => Answer cmd1SendOpCond s')
        (fun _ _ => True) s := by
  induction rounds with
  | zero => exact fun s answer => answer rfl
  | succ rounds ih =>
    intro s _
    unfold mmcWaitReady
    apply (execChecked_answer drv cmd1SendOpCond a41 _ s).bind
    intro _ s₁ answer
    rw [wp_bind, wp_response, wp_ite]
    apply And.intro
    · intro _
      apply (delay_answer drv 5 answer.1).bind
      exact fun _ s₂ post => ih s₂ fun _ => post.1
    · exact fun _ => answer.1

/-- The last CMD2 is the one that is checked. -/
theorem mmcAllSendCid_heard (rounds : Nat) :
    ∀ s : PowerUp (σ × List Call) Medium, (rounds = 0 → ∃ ioBuf, Heard cmd2AllSendCid ioBuf s) →
      wp (mmcAllSendCid drv.spied rounds) (fun _ s' => (∃ ioBuf, Heard cmd2AllSendCid ioBuf s') ∧ Later s s')
        (fun _ _ => True) s := by
  induction rounds with
  | zero => exact fun s heard => ⟨heard rfl, List.Subset.refl _, rfl⟩
  | succ rounds ih =>
    intro s _
    unfold mmcAllSendCid
    apply (exec_heard drv cmd2AllSendCid 0 s).bind
    intro _ s₁ heard
    rw [wp_bind, wp_get, wp_ite]
    apply And.intro
    · intro _
      exact (ih s₁ fun _ => ⟨_, heard.1⟩).imp fun _ _ post => ⟨post.1, heard.2.trans post.2⟩
    · exact fun _ => ⟨⟨_, heard.1⟩, heard.2⟩

/-- The data of the command are those in the I/O buffer when it ends. -/
theorem execData_heard (word arg blocksize : U32) (virt : U64) (s : PowerUp (σ × List Call) τ) :
    wp (execData drv.spied.toHost word arg blocksize virt)
      (fun _ s' => Heard word (drv.ioBuf s'.hw.1) s' ∧ Later s s') (fun _ _ => True) s := by
  apply ((initData_spec drv.spied.toHost word arg blocksize virt s).mono (fun _ _ post => post)
    fun _ _ absurd => absurd.elim).bind
  intro _ s₁ prepared
  have sent := cmdExec_heard drv s₁
  rw [prepared.1] at sent
  apply sent.imp
  intro _ s₂ post
  refine ⟨post.1, ?_, post.2.trace.trans prepared.2.2⟩
  have log := post.2.log
  rwa [prepared.2.1] at log

/-- The extended CSD is the one in the I/O buffer. -/
theorem mmcIdentify_told (ocr : U32) (s : PowerUp (σ × List Call) Medium) :
    wp (mmcIdentify drv.spied ocr)
      (fun _ s' => Addressed s'.hw.2 cmd1SendOpCond s'.trace.addrMult ∧
        Names s'.hw.2 s'.trace RegCid.psnMmc ∧
        Told s'.hw.2 cmd8SendExtCsd (fun _ ioBuf => ioBuf = drv.ioBuf s'.hw.1)) (fun _ _ => True) s := by
  unfold mmcIdentify
  apply wp_second
  intro _ s₁
  apply (mmcWaitReady_answer drv _ 100 s₁ (nomatch ·)).bind
  intro _ s₂ answer
  rw [wp_bind, wp_response, wp_ite]
  apply And.intro
  · exact fun _ => trivial
  intro ready
  rw [Bool.not_eq_true', Bool.not_eq_false] at ready
  apply (wp_noted _ s₂).bind
  intro _ s₃ noted
  apply (mmcAllSendCid_heard drv 5 s₃ (nomatch ·)).bind
  intro _ s₄ cid
  apply (wp_checkError _ s₄).bind
  intro _ s₅ checked
  rw [checked.1, wp_bind, wp_get]
  apply (wp_noted _ s₄).bind
  intro _ s₆ named
  rw [wp_bind, wp_rcaArg]
  apply (execChecked_answer drv _ _ _ s₆).bind
  intro _ s₇ address
  rw [wp_bind, wp_rcaArg]
  apply (execChecked_answer drv _ _ _ s₇).bind
  intro _ s₈ csd
  rw [wp_bind, wp_get, wp_ite]
  apply And.intro
  · exact fun _ => trivial
  intro _
  rw [wp_bind, wp_rcaArg]
  apply (execChecked_answer drv _ _ _ s₈).bind
  intro _ s₉ selected
  apply (later drv (n := 0) sends_checkLocked silent_checkLocked s₉).bind
  intro _ s₁₀ unlocked
  apply (execData_heard drv cmd8SendExtCsd 0 512 0 s₁₀).bind
  intro _ s₁₁ ecsd
  apply (wp_checkError _ s₁₁).imp
  intro _ s₁₂ checked'
  rw [checked'.1]
  have last : Later s₆ s₁₁ :=
    address.2.trans (csd.2.trans (selected.2.trans (unlocked.trans ecsd.2)))
  have log : s₄.hw.2 ⊆ s₁₁.hw.2 := by
    rw [← named.hw]
    exact last.log
  have told : Told s₂.hw.2 cmd1SendOpCond (fun c _ => c.resp 0 = s₂.cmd.resp 0) :=
    answer.told (P := fun c => c.resp 0 = s₂.cmd.resp 0) rfl
  refine ⟨⟨s₂.cmd.resp 0, ready, told.later ?_, ?_⟩, ?_, ecsd.1.told checked'.2 rfl⟩
  · rw [← noted.hw]
    exact List.Subset.trans cid.2.log log
  · rw [last.trace, named.trace, cid.2.trace, noted.trace]
  · obtain ⟨ioBuf, heard⟩ := cid.1
    have hid : s₁₁.trace.hid = hex08 ((RegCid.psnMmc s₄.cmd.resp).setWidth 64) := by
      rw [last.trace, named.trace]
    exact (heard.told checked.2 hid).later log

/-- The number of sectors is in the extended CSD that CMD8 has left in the I/O buffer. None of the switches
behind it has data. -/
theorem mmcConfigure_told (s : PowerUp (σ × List Call) Medium) :
    wp (mmcConfigure drv.spied)
      (fun _ s' => s.hw.2 ⊆ s'.hw.2 ∧ s'.trace.addrMult = s.trace.addrMult ∧
        s'.trace.hid = s.trace.hid ∧
        s'.trace.numSectors = (RegEcsd.word (drv.ioBuf s.hw.1) 212).setWidth 64)
      (fun _ _ => True) s := by
  unfold mmcConfigure
  rw [wp_bind, wp_get]
  apply (wp_noted _ s).bind
  intro _ s₁ noted
  apply wp.imp (Q := fun _ s' => Known s₁ s')
  · suffices leaves : Leaves _ from leaves s₁
    apply (leaves_mmcSwitch drv _ _ _).bind
    intro _
    apply (leaves_of_silent drv (sends_execChecked _ _ _) (silent_execChecked _ _ _ _)).bind
    intro _
    apply (leaves_mmcSwitch drv _ _ _).bind
    intro _
    apply (leaves_mmcSwitch drv _ _ _).bind
    intro _
    apply Relates.get_bind
    intro s₂
    apply Relates.ite
    · refine Relates.bind (leaves_note (fun _ => rfl) (fun _ => rfl) fun _ => rfl) fun _ => ?_
      apply (leaves_mmcSwitch drv _ _ _).bind
      intro _
      exact (leaves_mmcSwitch drv _ _ _).bind fun _ => Relates.pure _
    · exact (leaves_mmcSwitch drv _ _ _).bind fun _ => Relates.pure _
  · intro _ s' known
    refine ⟨?_, ?_, ?_, ?_⟩
    · rw [← noted.hw]
      exact known.log
    · rw [known.addrMult, noted.trace]
    · rw [known.hid, noted.trace]
    · rw [known.numSectors, noted.trace]
      rfl

/-- An eMMC device is named by CMD2 and measured by the extended CSD; its mode loop notes nothing about it.
-/
theorem powerUpMmc_described (disable : DeviceTypeDisable) (s : PowerUp (σ × List Call) Medium) :
    wp (powerUpMmc drv.spied disable) (fun found s' => found = true → Described s'.hw.2 s'.trace)
      (fun _ _ => True) s := by
  unfold powerUpMmc
  apply wp_second
  intro _ s₁
  rw [wp_bind, wp_get, wp_ite]
  apply And.intro
  · exact fun _ => nofun
  intro _
  rw [wp_bind, wp_response]
  apply (mmcIdentify_told drv _ s₁).bind
  intro _ s₂ identified
  apply (mmcConfigure_told drv s₂).bind
  intro deviceType s₃ configured
  rw [wp_bind, wp_get]
  apply (leaves_traced drv {}
    (sends_mmcModeLoop s₃.trace.rca deviceType s₃.trace.enhStrobe 6) s₃).bind
  intro r s₄ left
  cases r with
  | none => exact nofun
  | some selected =>
    apply (wp_noted _ s₄).bind
    intro _ s₅ noted _
    obtain ⟨⟨ocr, ready, told, addrMult⟩, names, told'⟩ := identified
    obtain ⟨log, addrMult', hid, numSectors⟩ := configured
    have last : Known s₃ s₅ := by
      apply left.trans
      refine ⟨?_, ?_, ?_, ?_⟩
      · rw [noted.hw]
        exact List.Subset.refl _
      all_goals rw [noted.trace]
    have names₃ : Names s₃.hw.2 s₃.trace RegCid.psnMmc := by
      unfold Names
      rw [hid]
      exact Told.later names log
    have sectors : Told s₂.hw.2 cmd8SendExtCsd
        (fun _ ioBuf => RegEcsd.word ioBuf 212 = RegEcsd.word (drv.ioBuf s₂.hw.1) 212) := by
      obtain ⟨sent, ended, ioBuf, member, word, ok, same⟩ := told'
      exact ⟨sent, ended, ioBuf, member, word, ok, by rw [same]⟩
    refine ⟨.mmc ocr _, ⟨ready, (told.later log).later last.log, (sectors.later log).later last.log⟩, ?_,
      last.names names₃, ?_, ?_⟩
    · rw [noted.trace]
      rfl
    · rw [last.addrMult, addrMult', addrMult]
      rfl
    · rw [last.numSectors, numSectors]
      rfl

/-! ## The scan -/

/-- The scan gets here behind one of the two: an SD card that is found is not asked again as an eMMC device.
-/
theorem initCard_described (disable : DeviceTypeDisable) (s : PowerUp (σ × List Call) Medium) :
    wp (initCard drv.spied disable) (fun _ s' => Described s'.hw.2 s'.trace) (fun _ _ => True) s := by
  unfold initCard
  apply wp_second
  intro _ s₁
  apply wp_second
  intro _ s₂
  apply wp_second
  intro _ s₃
  apply wp_second
  intro _ s₄
  apply wp_second
  intro _ s₅
  apply (powerUpSd_described drv disable s₅).bind
  intro sd s₆ described
  cases sd with
  | true => exact described rfl
  | false =>
    apply (powerUpMmc_described drv disable s₆).bind
    intro mmc s₇ described'
    cases mmc with
    | true => exact described' rfl
    | false => exact trivial

/-- The slot of the command plays no part in the description. -/
theorem initThread_described (disable : DeviceTypeDisable) (slot : Slot) (s : Scan (σ × List Call)) :
    wp (initThread drv.spied disable slot)
      (fun found s' => found = true → Described s'.hw.2 s'.medium) (fun _ _ => True) s := by
  have handler : ∀ s, wp (do onQueue (CmdQueue.retire slot); return false : ScanM (σ × List Call) Bool)
      (fun found s' => found = true → Described s'.hw.2 s'.medium) (fun _ _ => True) s :=
    fun s => wp_second fun _ _ => nofun
  have card : wp (onSlot slot (initCard drv.spied disable))
      (fun _ s' => Described s'.hw.2 s'.medium) (fun _ _ => True) s := by
    rw [wp_onSlot]
    exact initCard_described drv disable _
  have body : wp (do
        onSlot slot (initCard drv.spied disable)
        onQueue (CmdQueue.retire slot)
        return true : ScanM (σ × List Call) Bool)
      (fun found s' => found = true → Described s'.hw.2 s'.medium) (fun _ _ => True) s := by
    apply card.bind
    intro _ s₁ described
    rw [wp_bind, wp_onQueue]
    exact (wp_any _ _).mono (fun _ _ _ _ => described) (fun _ _ _ => trivial)
  unfold initThread
  rw [wp_tryCatch]
  exact body.mono (fun _ _ post => post) (fun _ s' _ => handler s')

/-- The log of the whole scan is the log of its only thread. -/
theorem startDeviceScan_described (disable : DeviceTypeDisable) (s : Scan σ) :
    wp (startDeviceScan drv.spied disable)
      (fun found s' => found = true → Described s'.hw.2 s'.medium) (fun _ _ => True) (fresh s) := by
  unfold startDeviceScan
  apply wp_second
  intro _ s₁
  apply wp_second
  intro slot? s₂
  cases slot? with
  | none => exact nofun
  | some slot =>
    apply wp_second
    intro _ s₃
    apply wp_second
    exact fun _ s₄ => initThread_described drv disable slot s₄

/-- When the callback is called, kind, name, size and addressing of the device are those of a card that was
heard, and if it is supported all its sectors have an address. -/
theorem scan_describes (disable : DeviceTypeDisable) (s : Scan σ) :
    wp (startDeviceScan drv.spied disable)
      (fun found s' => found = true → ∃ card, Describes s'.hw.2 s'.medium card ∧
        (card.Supported → s'.medium.numSectors.toNat * s'.medium.addrMult.toNat ≤ 2 ^ 32))
      (fun _ _ => True) (fresh s) := by
  apply (startDeviceScan_described drv disable s).imp
  intro found s' described here
  obtain ⟨card, describes⟩ := described here
  exact ⟨card, describes, describes.addresses_fit⟩

end PowerUp

end Emmc
