import Emmc.Sdhci.Phases

/-!
# Interrupts that stay pending

The interrupt line is level-triggered: a cause that is enabled and not acknowledged raises the
interrupt again as soon as the line is unmasked. `enable_ints` enables more causes than the handlers
look at.

* `raised`: the causes of an interrupt that are enabled.
* `Settles`: an interrupt with an enabled cause moves the command on, or one of these causes is
  acknowledged.
* `Noticed`: the handler of the present phase looks at one of the causes.
* `settles_iff`: an interrupt settles exactly if it is noticed or nothing was raised.
-/

namespace Emmc

open Throwing

namespace Sdhci

variable (s : Sdhci)

/-- The causes for which the interrupt line is raised. -/
def raised (is : U32) (c : Cmd) : U32 := is &&& RegIntSignalEn.enableInts s.autoCmd12 c

/-- One of the causes was written back to `Int_status`. -/
def Acknowledged (causes : U32) (h h' : Hw) : Prop :=
  ∃ new, h'.log = new ++ h.log ∧ ∃ v, .reg .intStatus v ∈ new ∧ v &&& causes ≠ 0

/-- None of the causes was written back to `Int_status`. -/
def Ignored (causes : U32) (h h' : Hw) : Prop :=
  ∃ new, h'.log = new ++ h.log ∧ ∀ v, .reg .intStatus v ∈ new → v &&& causes = 0

/-- If the interrupt has an enabled cause, then the handler, when it returns, has moved the command
to another status or acknowledged such a cause. -/
def Settles (irq : Irq) (c : Cmd) (h : Hw) : Prop :=
  s.raised (irq.regs .intStatus) c ≠ 0 →
    wp s.hwOps.handleIrq
      (fun _ t => t.1.status ≠ c.status ∨ Acknowledged (s.raised (irq.regs .intStatus) c) h t.2)
      (fun _ _ => True) (c, present irq h)

/-- The handler of the phase the command is in looks at the interrupt. -/
def Noticed (is : U32) (c : Cmd) : Prop :=
  if c.status = .progressCmd then
    commandFails is = true ∨
      if c.isTuning then
        RegIntStatus.brr.test is = true ∨ RegIntStatus.cc.test is = true ∧ c.flags.hasData = false
      else RegIntStatus.cc.test is = true
  else
    RegIntStatus.dataError is = true ∨ RegIntStatus.tc.test is = true ∨
      RegIntStatus.dint.test is = true ∨ RegIntStatus.brr.test is = true ∧ c.isTuning = true

instance (is : U32) (c : Cmd) : Decidable (Noticed is c) := by
  unfold Noticed
  infer_instance

/-! ## What is enabled -/

/-- The causes that the handlers acknowledge without ending a phase. -/
theorem enabled_causes (c : Cmd) :
    let enabled := RegIntSignalEn.enableInts s.autoCmd12 c
    RegIntStatus.dint.test enabled = true ∧ RegIntStatus.bwr.test enabled = false ∧
      RegIntStatus.cc.test enabled = !c.flags.hasData ∧
      RegIntStatus.brr.test enabled = c.isTuning := by
  rw [RegIntSignalEn.enableInts, commonInts]
  generalize (s.autoCmd12 && c.flags.inoutCmd12 || c.flags.autoCmd23) = autoCmd
  generalize c.flags.hasData = hasData
  generalize c.isTuning = tuning
  revert autoCmd hasData tuning
  decide

theorem put_dint {is : U32} (c : Cmd) (dint : RegIntStatus.dint.test is = true) :
    RegIntStatus.dint.put 0 true &&& s.raised is c ≠ 0 := by
  rw [Ne, RegIntStatus.dint, Bitfield.put_and_eq_zero_iff, raised, Bitfield.test_and]
  change ¬(RegIntStatus.dint.test is && RegIntStatus.dint.test _) = false
  rw [dint, (s.enabled_causes c).1]
  decide

theorem put_bwr (is : U32) (c : Cmd) : RegIntStatus.bwr.put 0 true &&& s.raised is c = 0 := by
  rw [RegIntStatus.bwr, Bitfield.put_and_eq_zero_iff, raised, Bitfield.test_and]
  change (RegIntStatus.bwr.test is && RegIntStatus.bwr.test _) = false
  rw [(s.enabled_causes c).2.1, Bool.and_false]

theorem put_cc {is : U32} (c : Cmd) (complete : RegIntStatus.cc.test is = true) :
    RegIntStatus.cc.put 0 true &&& s.raised is c = 0 ↔ c.flags.hasData = true := by
  rw [RegIntStatus.cc, Bitfield.put_and_eq_zero_iff, raised, Bitfield.test_and]
  change (RegIntStatus.cc.test is && RegIntStatus.cc.test _) = false ↔ _
  rw [complete, (s.enabled_causes c).2.2.1, Bool.true_and, Bool.not_eq_false']

theorem put_brr {is : U32} (c : Cmd) (ready : RegIntStatus.brr.test is = true) :
    RegIntStatus.brr.put 0 true &&& s.raised is c = 0 ↔ c.isTuning = false := by
  rw [RegIntStatus.brr, Bitfield.put_and_eq_zero_iff, raised, Bitfield.test_and]
  change (RegIntStatus.brr.test is && RegIntStatus.brr.test _) = false ↔ _
  rw [ready, (s.enabled_causes c).2.2.2, Bool.true_and]

/-! ## What is written -/

section Log

variable {causes : U32}

theorem Ignored.refl (h : Hw) : Ignored causes h h :=
  ⟨[], rfl, fun _ member => absurd member List.not_mem_nil⟩

theorem Ignored.trans {h h' h'' : Hw} (first : Ignored causes h h')
    (second : Ignored causes h' h'') : Ignored causes h h'' := by
  rcases first with ⟨new, log, none⟩
  rcases second with ⟨new', log', none'⟩
  refine ⟨new' ++ new, by rw [log', log, List.append_assoc], fun v member => ?_⟩
  rcases List.mem_append.mp member with late | early
  · exact none' v late
  · exact none v early

/-- What was acknowledged later. -/
theorem Acknowledged.later {h h' h'' : Hw} (first : ∃ new, h'.log = new ++ h.log)
    (second : Acknowledged causes h' h'') : Acknowledged causes h h'' := by
  rcases first with ⟨new, log⟩
  rcases second with ⟨new', log', v, member, cause⟩
  exact ⟨new' ++ new, by rw [log', log, List.append_assoc], v, List.mem_append_left _ member, cause⟩

/-- What was acknowledged earlier. -/
theorem Acknowledged.earlier {h h' h'' : Hw} (first : Acknowledged causes h h')
    (second : ∃ new, h''.log = new ++ h'.log) : Acknowledged causes h h'' := by
  rcases first with ⟨new, log, v, member, cause⟩
  rcases second with ⟨new', log'⟩
  exact ⟨new' ++ new, by rw [log', log, List.append_assoc], v, List.mem_append_right _ member, cause⟩

theorem Acknowledged.not_ignored {h h' : Hw} (acknowledged : Acknowledged causes h h') :
    ¬ Ignored causes h h' := by
  intro ignored
  rcases acknowledged with ⟨new, log, v, member, cause⟩
  rcases ignored with ⟨new', log', none⟩
  cases List.append_cancel_right (log.symm.trans log')
  exact cause (none v member)

theorem ignored_setReg {h : Hw} {r : Regs} {value : U32}
    (other : r = .intStatus → value &&& causes = 0) : Ignored causes h (h.setReg r value) := by
  refine ⟨[.reg r value], rfl, fun v member => ?_⟩
  cases List.mem_singleton.mp member
  exact other rfl

theorem acknowledged_setReg {h : Hw} {value : U32} (cause : value &&& causes ≠ 0) :
    Acknowledged causes h (h.setReg .intStatus value) :=
  ⟨[.reg .intStatus value], rfl, value, List.mem_singleton_self _, cause⟩

instance (causes : U32) : IsPreorder Hw (Ignored causes) where
  refl := Ignored.refl
  trans _ _ _ := Ignored.trans

/-- The computation returns without acknowledging anything of interest. -/
abbrev Ignores {α : Type} (causes : U32) (m : HwM α) : Prop :=
  Relates (Ignored causes) (fun _ _ => False) m

theorem ignores_readWords (causes : U32) (dst : U64) (n : Nat) : Ignores causes (s.readWords dst n) := by
  induction n generalizing dst with
  | zero => exact .pure _
  | succ n ih =>
    rw [readWords]
    have next : Ignores causes readDataPort :=
      fun h => ⟨[], rfl, fun _ member => absurd member List.not_mem_nil⟩
    refine next.bind fun data => ?_
    exact Relates.bind (fun h => ⟨[], rfl, fun _ member => absurd member List.not_mem_nil⟩)
      fun _ => ih _

theorem ignores_writeWords (causes : U32) (src : U64) (n : Nat) : Ignores causes (s.writeWords src n) := by
  induction n generalizing src with
  | zero => exact .pure _
  | succ n ih =>
    rw [writeWords]
    refine Relates.bind (fun h => Ignored.refl h) fun h => ?_
    exact Relates.bind (fun _ => ignored_setReg fun same => by cases same) fun _ => ih _

/-- The command stays as it is. -/
theorem Ignores.onHw {α : Type} {m : HwM α} (ignores : Ignores causes m) (t : Cmd × Hw) :
    wp (onHw m) (fun _ t' => t'.1 = t.1 ∧ Ignored causes t.2 t'.2) (fun _ _ => False) t := by
  rw [Sdhci.onHw, wp_zoom]
  exact (ignores t.2).mono (fun _ _ ignored => ⟨rfl, ignored⟩) (fun _ _ absurd => absurd)

/-- The final acknowledgement of a handler. -/
theorem acknowledge_causes (causes isAck : U32) (t : Cmd × Hw) :
    wp (onHw (acknowledge isAck))
      (fun _ t' => t'.1 = t.1 ∧ (∃ new, t'.2.log = new ++ t.2.log) ∧
        (isAck &&& causes = 0 → Ignored causes t.2 t'.2) ∧
        (isAck &&& causes ≠ 0 → Acknowledged causes t.2 t'.2)) (fun _ _ => False) t := by
  rw [Sdhci.onHw, wp_zoom, acknowledge, wp_ite]
  refine ⟨fun _ => ⟨rfl, ⟨[_], rfl⟩, fun none => ignored_setReg fun _ => none, acknowledged_setReg⟩,
    fun zero => ⟨rfl, ⟨[], rfl⟩, fun _ => Ignored.refl _, fun cause => ?_⟩⟩
  have empty : isAck = 0 := not_not.mp zero
  rw [empty] at cause
  exact absurd BitVec.zero_and cause

end Log

/-! ## The command phase -/

theorem noticed_cmd {is : U32} {c : Cmd} (phase : c.status = .progressCmd) :
    Noticed is c ↔ commandFails is = true ∨
      if c.isTuning then
        RegIntStatus.brr.test is = true ∨ RegIntStatus.cc.test is = true ∧ c.flags.hasData = false
      else RegIntStatus.cc.test is = true := by
  rw [Noticed, if_pos phase]

theorem tuningStatus_ne (es : U32) : tuningStatus es ≠ .progressCmd := by
  rw [tuningStatus]
  split
  · decide
  split <;> decide

/-- What a handler has made of the causes before its final acknowledgement. -/
structure Causes (is : U32) (c : Cmd) (h : Hw) (isAck : U32) (t : Cmd × Hw) : Prop where
  noticed : Noticed is c → t.1.status ≠ c.status ∨ Acknowledged (s.raised is c) h t.2 ∨
    (∃ new, t.2.log = new ++ h.log) ∧ isAck &&& s.raised is c ≠ 0
  missed : ¬ Noticed is c → t.1.status = c.status ∧ Ignored (s.raised is c) h t.2 ∧
    isAck &&& s.raised is c = 0

/-- What a handler has made of the causes in the end. -/
structure Looked (is : U32) (c : Cmd) (h : Hw) (t : Cmd × Hw) : Prop where
  noticed : Noticed is c → t.1.status ≠ c.status ∨ Acknowledged (s.raised is c) h t.2
  missed : ¬ Noticed is c → t.1.status = c.status ∧ Ignored (s.raised is c) h t.2

/-- The command left its phase. -/
theorem Causes.moved {is isAck : U32} {c : Cmd} {h : Hw} {t : Cmd × Hw} {phase : Status}
    (start : c.status = phase) (noticed : Noticed is c) (left : t.1.status ≠ phase) :
    s.Causes is c h isAck t := by
  refine ⟨fun _ => Or.inl ?_, fun missed => absurd noticed missed⟩
  rw [start]
  exact left

/-- The end of both handlers. The reset only throws when something was noticed. -/
theorem Causes.finish {is isAck : U32} {c : Cmd} {h : Hw} {t : Cmd × Hw}
    (causes : s.Causes is c h isAck t) (busy : c.progress = true) (bit : Bitfield 32)
    (done : Hw → Bool) (text : String) :
    wp (do
        onHw (acknowledge isAck)
        let t ← get
        (if t.1.error then onHw (resetLine bit (done t.2) text) else return ()) : Action Hw Unit)
      (fun _ t' => s.Looked is c h t') (fun _ _ => Noticed is c) t := by
  rw [wp_bind]
  refine (acknowledge_causes (s.raised is c) isAck t).mono (fun _ t' post => ?_)
    (fun _ _ e => e.elim)
  rcases post with ⟨same, grown, ignored, acknowledged⟩
  have status : t'.1.status = t.1.status := congrArg Cmd.status same
  rw [wp_bind, wp_get, wp_ite]
  refine ⟨fun error => ?_, fun _ => ⟨fun noticed => ?_, fun missed => ?_⟩⟩
  · have moved : t.1.status ≠ c.status := by
      intro still
      have running := Cmd.error_eq_false_of_progress busy
      rw [Cmd.error, status, still] at error
      exact Bool.false_ne_true (running.symm.trans error)
    have noticed : Noticed is c := by
      by_contra missed
      exact moved (causes.missed missed).1
    refine (resetLine_spec _ _ _ t').mono (fun _ t'' reset => ?_) (fun _ _ _ => noticed)
    refine ⟨fun _ => Or.inl ?_, fun missed => absurd noticed missed⟩
    rw [reset.cmd, status]
    exact moved
  · rw [status]
    rcases causes.noticed noticed with moved | before | ⟨grows, cause⟩
    · exact Or.inl moved
    · exact Or.inr (before.earlier grown)
    · exact Or.inr ((acknowledged cause).later grows)
  · obtain ⟨still, before, none⟩ := causes.missed missed
    exact ⟨status.trans still, before.trans (ignored none)⟩

/-- During tuning, the completion of the command is acknowledged whether it was enabled or not. -/
theorem completion_raised {is : U32} {c : Cmd}
    (suppressed : ¬(RegIntStatus.cc.test is = true ∧ c.flags.hasData = false)) :
    RegIntStatus.cc.put 0 (RegIntStatus.cc.test is) &&& s.raised is c = 0 := by
  cases complete : RegIntStatus.cc.test is with
  | false => exact BitVec.zero_and
  | true =>
    rw [s.put_cc c complete]
    simpa [complete] using suppressed

theorem ackCompletion_causes (is : U32) (c : Cmd) (h : Hw) :
    wp (onHw (if RegIntStatus.cc.test is then
        writeReg .intStatus (RegIntStatus.cc.put 0 (RegIntStatus.cc.test is)) else return ()))
      (fun _ t => t.1 = c ∧ (∃ new, t.2.log = new ++ h.log) ∧
        (¬(RegIntStatus.cc.test is = true ∧ c.flags.hasData = false) →
          Ignored (s.raised is c) h t.2))
      (fun _ _ => False) (c, h) := by
  rw [onHw, wp_zoom, wp_ite]
  refine ⟨fun _ => ⟨rfl, ⟨[_], rfl⟩, fun suppressed => ?_⟩,
    fun _ => ⟨rfl, ⟨[], rfl⟩, fun _ => Ignored.refl h⟩⟩
  exact ignored_setReg fun _ => s.completion_raised suppressed

theorem dispatchCmd_causes {c : Cmd} (h : Hw) (is : U32) (phase : c.status = .progressCmd) :
    wp (s.dispatchCmd is) (fun isAck t => s.Causes is c h isAck t) (fun _ _ => False) (c, h) := by
  have fails : commandFails is = true → Noticed is c :=
    fun fails => (noticed_cmd phase).mpr (Or.inl fails)
  rw [dispatchCmd, wp_bind, wp_get, wp_ite]
  refine ⟨fun timeout => ?_, fun noTimeout => ?_⟩
  · rw [wp_bind]
    refine (s.steady_clearInhibit.onHw (c, h)).mono (fun _ t untouched => ?_) (fun _ _ e => e)
    rw [wp_bind]
    refine .moved s phase (fails ?_) (fun same => by cases same)
    rw [commandFails, timeout]
    rfl
  rw [wp_ite]
  refine ⟨fun bad => ?_, fun fine => ?_⟩
  · refine .moved s phase (fails ?_) (fun same => by cases same)
    rw [commandFails, bad, Bool.or_true]
    rfl
  rw [wp_ite]
  refine ⟨fun auto => ?_, fun noAuto => ?_⟩
  · refine .moved s phase (fails ?_) (fun same => by cases same)
    rw [commandFails, auto, Bool.or_true]
  have noFail : ¬ commandFails is = true := by
    simp only [commandFails, noTimeout, fine, noAuto]
    decide
  rw [wp_ite]
  refine ⟨fun tuning => ?_, fun noTuning => ?_⟩
  · have looked : Noticed is c ↔ RegIntStatus.brr.test is = true ∨
        RegIntStatus.cc.test is = true ∧ c.flags.hasData = false := by
      rw [noticed_cmd phase, if_pos tuning]
      exact or_iff_right noFail
    rw [wp_bind]
    refine (s.ackCompletion_causes is c h).mono (fun _ t post => ?_) (fun _ _ e => e)
    rcases post with ⟨same, grows, ignored⟩
    rw [wp_ite]
    refine ⟨fun ready => ?_, fun notReady => ⟨fun noticed => ?_, fun missed => ?_⟩⟩
    · rw [wp_bind]
      refine ((steady_readReg _).onHw t).mono (fun es t' _ => ?_) (fun _ _ e => e)
      rw [wp_bind]
      exact .moved s phase (looked.mpr (Or.inl ready)) (tuningStatus_ne es)
    · rcases looked.mp noticed with ready | ⟨complete, noData⟩
      · exact absurd ready notReady
      · refine Or.inr (Or.inr ⟨grows, fun none => ?_⟩)
        rw [complete, s.put_cc c complete] at none
        cases noData.symm.trans none
    · rw [looked, not_or] at missed
      exact ⟨congrArg Cmd.status same, ignored missed.2, s.completion_raised missed.2⟩
  have looked : Noticed is c ↔ RegIntStatus.cc.test is = true := by
    rw [noticed_cmd phase, if_neg noTuning]
    exact or_iff_right noFail
  rw [wp_ite]
  refine ⟨fun complete => ?_, fun incomplete => ⟨fun noticed => ?_, fun _ => ?_⟩⟩
  · rw [wp_bind]
    refine .moved s phase (looked.mpr complete) ?_
    show (if c.flags.hasData then Status.progressData else .success) ≠ .progressCmd
    split <;> decide
  · exact absurd (looked.mp noticed) incomplete
  · exact ⟨rfl, Ignored.refl h, BitVec.zero_and⟩

/-- An interrupt in the command phase. The handler only throws when it noticed something. -/
theorem irqCmd_causes {c : Cmd} (h : Hw) (phase : c.status = .progressCmd) :
    wp s.irqCmd (fun _ t => s.Looked h.is c h t) (fun _ _ => Noticed h.is c) (c, h) := by
  have busy : c.progress = true := (Cmd.progress_iff c).mpr (Or.inl phase)
  rw [irqCmd, wp_bind, wp_get, handleIrqCmd, wp_bind]
  refine (s.dispatchCmd_causes h h.is phase).mono (fun isAck t causes => ?_) (fun _ _ e => e.elim)
  exact causes.finish s busy RegSysCtrl.rstc Hw.rstcDone "Software reset for CMD line"

/-! ## The data phase -/

theorem noticed_data {is : U32} {c : Cmd} (phase : c.status = .progressData) :
    Noticed is c ↔ RegIntStatus.dataError is = true ∨ RegIntStatus.tc.test is = true ∨
      RegIntStatus.dint.test is = true ∨ RegIntStatus.brr.test is = true ∧ c.isTuning = true := by
  rw [Noticed, if_neg (by rw [phase]; decide)]

theorem dispatchData_causes {c : Cmd} (h : Hw) (is : U32) (phase : c.status = .progressData) :
    wp (s.dispatchData is) (fun isAck t => s.Causes is c h isAck t) (fun _ _ => Noticed is c)
      (c, h) := by
  have looked : Noticed is c ↔ RegIntStatus.dataError is = true ∨ RegIntStatus.tc.test is = true ∨
      RegIntStatus.dint.test is = true ∨ RegIntStatus.brr.test is = true ∧ c.isTuning = true :=
    noticed_data phase
  rw [dispatchData, wp_bind, wp_get, wp_ite]
  refine ⟨fun bad => ?_, fun fine => ?_⟩
  · exact .moved s phase (looked.mpr (Or.inl bad)) (fun same => by cases same)
  rw [wp_ite]
  refine ⟨fun complete => ?_, fun incomplete => ?_⟩
  · exact .moved s phase (looked.mpr (Or.inr (Or.inl complete))) (fun same => by cases same)
  rw [wp_ite]
  refine ⟨fun dint => ?_, fun noDint => ?_⟩
  · have noticed : Noticed is c := looked.mpr (Or.inr (Or.inr (Or.inl dint)))
    have cause := s.put_dint c dint
    rw [wp_bind]
    show wp (if RegBlkAtt.blkcnt.get (h.regs .blkAtt) ≠ 0 then _ else _) _ _ (c, h)
    rw [wp_ite]
    refine ⟨fun _ => ?_, fun _ => ⟨fun _ => Or.inr (Or.inr ⟨⟨[], rfl⟩, cause⟩), ?_⟩⟩
    · rw [wp_ite]
      refine ⟨fun _ => noticed, fun _ => ?_⟩
      rw [wp_bind]
      -- the restart acknowledges the interrupt before it writes the address
      refine ⟨fun _ => Or.inr (Or.inl ?_), fun missed => absurd noticed missed⟩
      exact (acknowledged_setReg cause).earlier ⟨[_], rfl⟩
    · exact fun missed => absurd noticed missed
  have onlyReady : Noticed is c ↔ RegIntStatus.brr.test is = true ∧ c.isTuning = true := by
    rw [looked]
    simp only [fine, incomplete, noDint, false_or, Bool.false_eq_true]
  rw [wp_ite]
  refine ⟨fun ready => ?_, fun notReady => ?_⟩
  · rw [wp_bind]
    refine ((s.ignores_readWords (s.raised is c) _ _).onHw (c, h)).mono (fun _ t post => ?_)
      (fun _ _ e => e.elim)
    rcases post with ⟨same, ignored⟩
    refine ⟨fun noticed => Or.inr (Or.inr ⟨⟨ignored.choose, ignored.choose_spec.1⟩, ?_⟩),
      fun missed => ⟨congrArg Cmd.status same, ignored, ?_⟩⟩
    · rw [Ne, s.put_brr c ready, (onlyReady.mp noticed).2]
      decide
    · rw [s.put_brr c ready]
      rw [onlyReady, not_and] at missed
      simpa using missed ready
  have unseen : ¬ Noticed is c := by
    rw [onlyReady]
    exact fun both => notReady both.1
  rw [wp_ite]
  refine ⟨fun _ => ?_, fun _ => ⟨fun noticed => absurd noticed unseen, fun _ => ?_⟩⟩
  · rw [wp_bind]
    refine ((s.ignores_writeWords (s.raised is c) _ _).onHw (c, h)).mono (fun _ t post => ?_)
      (fun _ _ e => e.elim)
    rcases post with ⟨same, ignored⟩
    exact ⟨fun noticed => absurd noticed unseen,
      fun _ => ⟨congrArg Cmd.status same, ignored, s.put_bwr is c⟩⟩
  · exact ⟨rfl, Ignored.refl h, BitVec.zero_and⟩

/-- An interrupt in the data phase. The handler only throws when it noticed something. -/
theorem irqData_causes {c : Cmd} (h : Hw) (phase : c.status = .progressData) :
    wp s.irqData (fun _ t => s.Looked h.is c h t) (fun _ _ => Noticed h.is c) (c, h) := by
  have busy : c.progress = true := (Cmd.progress_iff c).mpr (Or.inr phase)
  rw [irqData, wp_bind, wp_get, handleIrqData, wp_bind]
  refine (s.dispatchData_causes h h.is phase).mono (fun isAck t causes => ?_) (fun _ _ e => e)
  exact causes.finish s busy RegSysCtrl.rstd Hw.rstdDone "Software reset for data line"

/-! ## The whole handler -/

/-- Fetching the response writes no register. -/
theorem cmdFetchResponse_log (t : Cmd × Hw) :
    wp s.cmdFetchResponse (fun _ t' => t'.1.status = t.1.status ∧ t'.2.log = t.2.log)
      (fun _ _ => False) t := by
  rw [cmdFetchResponse, wp_modify]
  apply And.intro
  · show (withResponse t.2.regs t.1).status = t.1.status
    rw [withResponse]
    split <;> rfl
  · show (if fetchesBounced (withResponse t.2.regs t.1) then _ else t.2).log = t.2.log
    split <;> rfl

/-- An interrupt for a command in flight. -/
theorem handleIrq_causes {c : Cmd} (h : Hw) (busy : c.progress = true) :
    wp s.hwOps.handleIrq (fun _ t => s.Looked h.is c h t) (fun _ _ => Noticed h.is c) (c, h) := by
  rcases (Cmd.progress_iff c).mp busy with phase | phase
  · show wp (HwOps.onStatus .progressCmd s.irqCmd >>= fun _ => _) _ _ (c, h)
    rw [wp_bind]
    refine HwDrv.wp_onStatus.mpr ⟨fun _ => ?_, fun other => absurd phase other⟩
    refine (s.irqCmd_causes h phase).mono (fun _ t looked => ?_) (fun _ _ noticed => noticed)
    by_cases still : t.1.status = .progressCmd
    · rw [wp_bind]
      refine HwDrv.wp_onStatus.mpr ⟨fun data => ?_, fun _ => ?_⟩
      · cases still.symm.trans data
      refine HwDrv.wp_onStatus.mpr ⟨fun success => ?_, fun _ => looked⟩
      cases still.symm.trans success
    · have noticed : Noticed h.is c := by
        by_contra missed
        exact still ((looked.missed missed).1.trans phase)
      refine (s.onData_status (Cmd.SameRequest.refl t.1) t.2).mono (fun _ t' reaches => ?_)
        (fun _ _ _ => noticed)
      refine ⟨fun _ => Or.inl ?_, fun missed => absurd noticed missed⟩
      rw [reaches.2, phase]
      split
      · rw [dataStatus]
        split
        · decide
        split <;> decide
      · exact still
  · show wp (HwOps.onStatus .progressCmd s.irqCmd >>= fun _ => _) _ _ (c, h)
    rw [wp_bind]
    refine HwDrv.wp_onStatus.mpr ⟨fun cmd => ?_, fun _ => ?_⟩
    · cases phase.symm.trans cmd
    rw [wp_bind]
    refine HwDrv.wp_onStatus.mpr ⟨fun _ => ?_, fun other => absurd phase other⟩
    refine (s.irqData_causes h phase).mono (fun _ t looked => ?_) (fun _ _ noticed => noticed)
    refine HwDrv.wp_onStatus.mpr ⟨fun _ => ?_, fun _ => looked⟩
    refine (s.cmdFetchResponse_log t).mono (fun _ t' same => ?_) (fun _ _ e => e.elim)
    rcases same with ⟨status, log⟩
    refine ⟨fun noticed => ?_, fun missed => ?_⟩
    · rw [status]
      exact (looked.noticed noticed).imp_right fun before => before.earlier ⟨[], log⟩
    · obtain ⟨still, new, grown, none⟩ := looked.missed missed
      exact ⟨status.trans still, new, log.trans grown, none⟩

/-- An interrupt settles exactly if the handler of the present phase looks at it, or if it was not
raised at all. -/
theorem settles_iff (irq : Irq) {c : Cmd} (busy : c.progress = true) (h : Hw) :
    s.Settles irq c h ↔
      s.raised (irq.regs .intStatus) c = 0 ∨ Noticed (irq.regs .intStatus) c := by
  have spec := s.handleIrq_causes (present irq h) busy
  apply Iff.intro
  · intro settles
    by_cases none : s.raised (irq.regs .intStatus) c = 0
    · exact Or.inl none
    · refine Or.inr ?_
      by_contra missed
      have both := (settles none).and spec
      rw [wp] at both
      cases outcome : s.hwOps.handleIrq (c, present irq h) with
      | ok _ t =>
        rw [outcome] at both
        obtain ⟨still, ignored⟩ := both.2.missed missed
        rcases both.1 with moved | acknowledged
        · exact moved still
        · exact acknowledged.not_ignored ignored
      | error _ t =>
        rw [outcome] at both
        exact missed both.2
  · intro condition raised
    rcases condition with none | noticed
    · exact absurd none raised
    · exact spec.mono (fun _ _ looked => looked.noticed noticed) (fun _ _ _ => trivial)

end Sdhci

end Emmc
