import Emmc.Lib.Frame
import Emmc.Sdhci.Irq

/-!
# What commands and interrupts leave alone

The submission of a command reads `Mix_ctrl`, changes the fields of the transfer and writes it back;
tuning and the reset of a line change fields of two more registers. `touched` are the bits that are
changed then, and `Hw.kept` is what else there is.

* `cmdSubmit_kept`: a command keeps it, whether it is refused or not; a tuning command turns on automatic
  tuning besides.
* `spares_handleIrq`: so does an interrupt.
-/

namespace Emmc

open Throwing

namespace Sdhci

/-! ## Bits -/

/-- All bits of some fields. -/
def bits (fields : List (Bitfield 32)) : U32 := fields.foldr (fun f bits => f.mask ||| bits) 0

/-- A field of the list lies outside of what is kept. -/
theorem clear_of_mem {f : Bitfield 32} {fields : List (Bitfield 32)} (member : f ∈ fields) :
    f.mask &&& ~~~bits fields = 0 := by
  induction fields with
  | nil => cases member
  | cons g fields ih =>
    apply BitVec.eq_of_getLsbD_eq
    intro i bound
    have zero : (0 : U32).getLsbD i = false := BitVec.getLsbD_zero
    show (f.mask &&& ~~~(g.mask ||| bits fields)).getLsbD i = _
    rw [BitVec.getLsbD_and, BitVec.getLsbD_not, BitVec.getLsbD_or, zero]
    rcases List.mem_cons.mp member with rfl | later
    · cases f.mask.getLsbD i <;> simp
    · have rest := congrArg (fun x => x.getLsbD i) (ih later)
      rw [BitVec.getLsbD_and, BitVec.getLsbD_not, zero] at rest
      cases mine : f.mask.getLsbD i with
      | false => rfl
      | true =>
        rw [mine, Bool.true_and] at rest
        cases g.mask.getLsbD i <;> simp_all

/-- Writing fields that lie outside changes nothing of what is kept. -/
theorem assign_and {fields : List (Bitfield 32 × Bool)} {kept : U32}
    (clear : ∀ p ∈ fields, p.1.mask &&& kept = 0) (raw : U32) :
    assign fields raw &&& kept = raw &&& kept := by
  unfold assign
  induction fields generalizing raw with
  | nil => rfl
  | cons p fields ih =>
    rw [List.foldl_cons, ih fun q member => clear q (List.mem_cons_of_mem p member)]
    exact Bitfield.put_and (clear p List.mem_cons_self) raw p.2

/-- The fields of `Mix_ctrl` that a command sets. -/
def commandFields (tuning : Bool) : List (Bitfield 32) :=
  (if tuning then [RegMixCtrl.autoTuneEn, RegMixCtrl.fbclkSel] else []) ++
    [RegMixCtrl.ac23en, RegMixCtrl.msbsel, RegMixCtrl.dtdsel, RegMixCtrl.ac12en, RegMixCtrl.bcen,
      RegMixCtrl.dmaen]

/-- The bits that commands and interrupts change. -/
def touched (tuning : Bool) : Regs → U32
  | .mixCtrl => bits (commandFields tuning)
  | .autocmd12ErrStatus => bits [RegAutocmd12ErrStatus.smpClkSel, RegAutocmd12ErrStatus.executeTuning]
  | .sysCtrl => bits [RegSysCtrl.rstc, RegSysCtrl.rstd]
  | _ => ~~~0

/-- What they leave alone. -/
def Hw.kept (tuning : Bool) (h : Hw) : Regs → U32 := fun r => h.regs r &&& ~~~touched tuning r

section Kept

variable {tuning : Bool}

theorem Hw.regs_setReg (h : Hw) (r : Regs) (v : U32) :
    (h.setReg r v).regs = Function.update h.regs r (if r = .intStatus then h.regs r &&& ~~~v else v) := rfl

/-- A write of a value that agrees with the register on the bits that are kept. -/
theorem kept_setReg {h : Hw} {r : Regs} {v : U32} (plain : r ≠ .intStatus)
    (agrees : v &&& ~~~touched tuning r = h.regs r &&& ~~~touched tuning r) :
    (h.setReg r v).kept tuning = h.kept tuning := by
  funext r'
  unfold Hw.kept
  rw [Hw.regs_setReg]
  by_cases here : r' = r
  · rw [here, Function.update_self, if_neg plain, agrees]
  · rw [Function.update_of_ne here]

/-- Any write to a register of which nothing is kept. -/
theorem kept_setReg_other {h : Hw} {r : Regs} (other : touched tuning r = ~~~0) (v : U32) :
    (h.setReg r v).kept tuning = h.kept tuning := by
  funext r'
  unfold Hw.kept
  rw [Hw.regs_setReg]
  by_cases here : r' = r
  · rw [here, other]
    simp
  · rw [Function.update_of_ne here]

/-- A write is an update of the register file, and of nothing else. -/
@[simp] theorem wp_setReg {Q : Unit → Hw → Prop} {E : RuntimeError → Hw → Prop} {r : Regs} {v : U32}
    {h : Hw} : wp (writeReg r v) Q E h ↔ Q () (h.setReg r v) := Iff.rfl

theorem spares_readReg (r : Regs) : Spares (Hw.kept tuning) (readReg r) := fun _ => rfl

/-- A register that a command may write as a whole has no kept bits. -/
theorem spares_writeReg {r : Regs} (other : touched tuning r = ~~~0) (v : U32) :
    Spares (Hw.kept tuning) (writeReg r v) := fun _ => kept_setReg_other other v

/-- A poll that comes too late throws and writes nothing. -/
theorem spares_poll (done : Bool) (text : String) : Spares (Hw.kept tuning) (poll done text) := by
  unfold poll
  cases done with
  | true => exact .pure ()
  | false => exact .throw _

/-- Read a register, write it with other values in some fields, and go on. -/
theorem spares_update {α : Type} {r : Regs} {f : U32 → U32} {k : U32 → HwM α} (plain : r ≠ .intStatus)
    (agrees : ∀ raw, f raw &&& ~~~touched tuning r = raw &&& ~~~touched tuning r)
    (rest : ∀ raw, Spares (Hw.kept tuning) (k raw)) :
    Spares (Hw.kept tuning) (do
      let raw ← readReg r
      writeReg r (f raw)
      k raw) := by
  intro h
  exact (rest (h.regs r) (h.setReg r (f (h.regs r)))).mono
    (fun _ _ same => same.trans (kept_setReg plain (agrees _)))
    fun _ _ same => same.trans (kept_setReg plain (agrees _))

/-- The command word, which decides whether it is a tuning command, and the bits. -/
def view (tuning : Bool) (t : Cmd × Hw) : U32 × (Regs → U32) := (t.1.cmd, t.2.kept tuning)

/-- What happens to the controller alone leaves the command as it is. -/
theorem spares_onHw {α : Type} {m : HwM α} (spared : Spares (Hw.kept tuning) m) :
    Spares (view tuning) (onHw m) :=
  Spares.zoom spared fun t _ same => by
    unfold view
    rw [same]

/-- The command and the memory may change. -/
theorem spares_modify {f : Cmd × Hw → Cmd × Hw} (cmd : ∀ t, (f t).1.cmd = t.1.cmd)
    (regs : ∀ t, (f t).2.regs = t.2.regs) :
    Spares (view tuning) (modify f : EStateM RuntimeError (Cmd × Hw) PUnit) := by
  apply Relates.modify
  intro t
  unfold Same view Hw.kept
  rw [cmd, regs]

end Kept

/-! ## Submission -/

variable (s : Sdhci)

section Submission

variable {tuning : Bool}

/-- Descriptors are written to memory. By induction on the fuel of the loop. -/
theorem spares_memRegionLoop (terminate : Bool) (fuel desc : Nat) (phys : U64) (size : U32) :
    Spares (Hw.kept tuning) (s.memRegionLoop terminate fuel desc phys size) := by
  induction fuel generalizing desc phys size with
  | zero => exact .pure _
  | succ fuel ih =>
    unfold memRegionLoop
    apply Relates.ite (.pure _)
    apply Relates.ite (.throw _)
    apply Relates.ite (.throw _)
    exact Relates.bind (.modify fun _ => rfl) fun _ => ih _ _ _

/-- Bounced data are copied in memory. -/
theorem spares_bounceBlock (read : Bool) (b : Block) (bbOffs : U32) :
    Spares (Hw.kept tuning) (s.bounceBlock read b bbOffs) := by
  unfold bounceBlock
  apply Relates.ite _ (.pure _)
  apply Relates.ite (.throw _)
  apply Relates.ite _ (.pure _)
  exact Relates.bind (.modify fun _ => rfl) fun _ => .pure _

/-- By induction on the blocks that are left. -/
theorem spares_setDescsLoop (read : Bool) (blocks : List Block) (d : Nat) (bbOffs : U32) :
    Spares (Hw.kept tuning) (s.setDescsLoop read blocks d bbOffs) := by
  induction blocks generalizing d bbOffs with
  | nil => exact .pure _
  | cons b rest ih =>
    unfold setDescsLoop
    apply (s.spares_bounceBlock read b bbOffs).bind
    intro target
    exact (s.spares_memRegionLoop _ _ _ _ _).bind fun d => ih d _

theorem spares_adma2SetDescs : Spares (view tuning) s.adma2SetDescs := by
  unfold adma2SetDescs
  apply Relates.get.bind
  intro t
  apply (spares_onHw (s.spares_setDescsLoop _ _ _ _)).bind
  intro bbOffs
  exact .ite (spares_modify (fun _ => rfl) fun _ => rfl) (.pure _)

theorem spares_prepareAdma2 : Spares (view tuning) s.prepareAdma2 := by
  unfold prepareAdma2
  apply Relates.get.bind
  intro t
  apply Relates.bind (.ite s.spares_adma2SetDescs (spares_onHw _)) fun _ => .pure _
  exact (s.spares_memRegionLoop _ _ _ _ _).bind fun _ => .pure _

theorem spares_bounceSdma (c : Cmd) (b : Block) : Spares (view tuning) (s.bounceSdma c b) := by
  unfold bounceSdma
  apply Relates.ite
  · refine Relates.bind ?_ fun _ => spares_modify (fun _ => rfl) fun _ => rfl
    apply Relates.ite
    · exact spares_modify (fun _ => rfl) fun _ => rfl
    · exact spares_modify (fun _ => rfl) fun _ => rfl
  · exact spares_modify (fun _ => rfl) fun _ => rfl

/-- The address of the data is put into the command, which keeps its word. -/
theorem spares_prepareSdma : Spares (view tuning) s.prepareSdma := by
  unfold prepareSdma
  apply Relates.get.bind
  intro t
  dsimp only
  cases t.1.blocks with
  | nil => exact .pure _
  | cons b rest => exact (s.spares_bounceSdma _ b).bind fun _ => Relates.get.bind fun _ => .pure _

theorem spares_wtmkLvl (wml : U32) :
    Spares (Hw.kept tuning) (do writeReg .wtmkLvl (RegWtmkLvl.levels (← readReg .wtmkLvl) wml)) :=
  (spares_readReg _).bind fun _ => spares_writeReg rfl _

/-- Two values of `Mix_ctrl` that differ in the fields of a command only. -/
def Agree (tuning : Bool) (mc mc' : U32) : Prop :=
  mc' &&& ~~~touched tuning .mixCtrl = mc &&& ~~~touched tuning .mixCtrl

/-- Values of the mixer register that agree with a third one agree with each other. -/
theorem Agree.trans {mc mc' mc'' : U32} (first : Agree tuning mc mc') (second : Agree tuning mc' mc'') :
    Agree tuning mc mc'' :=
  Eq.trans second first

/-- Writing a field that commands own keeps the agreement. -/
theorem agree_put {f : Bitfield 32} (member : f ∈ commandFields tuning) (mc : U32) (v : Bool) :
    Agree tuning mc (f.put mc v) :=
  Bitfield.put_and (clear_of_mem member) mc v

/-- So does writing several of them. -/
theorem agree_assign {fields : List (Bitfield 32 × Bool)}
    (members : ∀ p ∈ fields, p.1 ∈ commandFields tuning) (mc : U32) :
    Agree tuning mc (assign fields mc) :=
  assign_and (fun p member => clear_of_mem (members p member)) mc

/-- The fields of the data transfer are among those of every command. -/
theorem commandFields_data {f : Bitfield 32}
    (member : f ∈ [RegMixCtrl.ac23en, RegMixCtrl.msbsel, RegMixCtrl.dtdsel, RegMixCtrl.ac12en,
      RegMixCtrl.bcen, RegMixCtrl.dmaen]) : f ∈ commandFields tuning :=
  List.mem_append_right _ member

/-- A command with data only writes fields of its own. -/
theorem agree_dataWords (c : Cmd) (xt mc : U32) : Agree tuning mc (s.dataWords c xt mc).2 := by
  unfold dataWords
  split
  · refine (agree_put (commandFields_data (by simp)) mc _).trans (agree_assign ?_ _)
    intro p member
    apply commandFields_data
    simp only [dataFields, List.mem_cons, List.not_mem_nil, or_false] at member
    rcases member with rfl | rfl | rfl | rfl <;> simp
  · exact rfl

/-- So does one without. -/
theorem agree_noDataWords (xt mc : U32) : Agree tuning mc (s.noDataWords xt mc).2 := by
  unfold noDataWords
  split
  · apply agree_assign
    intro p member
    apply commandFields_data
    simp only [List.mem_cons, List.not_mem_nil, or_false] at member
    rcases member with rfl | rfl <;> simp
  · exact rfl

/-- The value that will be written to the mixer register is built from the one that was read, field by
field. -/
theorem prepareDma_kept (xt mc : U32) (t : Cmd × Hw) :
    wp (s.cmdSubmitPrepareDma xt mc)
      (fun words t' => view tuning t' = view tuning t ∧ Agree tuning mc words.2.2)
      (fun _ t' => view tuning t' = view tuning t) t := by
  unfold cmdSubmitPrepareDma
  rw [wp_bind, wp_get, wp_ite]
  refine ⟨fun data => ?_, fun noData => ⟨rfl, s.agree_noDataWords xt mc⟩⟩
  have watermark : Spares (view tuning) (onHw (if s.type = .usdhc then do
      let wml ← readReg .wtmkLvl
      writeReg .wtmkLvl (RegWtmkLvl.levels wml RegWtmkLvl.wmlDma)
    else return ())) := spares_onHw (.ite (spares_wtmkLvl _) (.pure ()))
  have address : Spares (view tuning) (if s.dmaAdma2 then s.prepareAdma2 else s.prepareSdma) :=
    .ite s.spares_prepareAdma2 s.spares_prepareSdma
  rw [wp_bind]
  apply (watermark t).imp
  intro _ t₁ same₁
  rw [wp_bind]
  apply (address t₁).mono
  · exact fun _ t₂ same₂ => ⟨same₂.trans same₁, s.agree_dataWords _ xt mc⟩
  · exact fun _ t₂ same₂ => same₂.trans same₁

/-- A tuning command turns on automatic tuning. -/
def Tunes (c : Cmd) (mc : U32) : Prop :=
  s.type = .usdhc → c.isTuning = true → RegMixCtrl.autoTuneEn.test mc = true

theorem spares_handleTuning (c : Cmd) (xt mc : U32) :
    Spares (Hw.kept tuning) (s.cmdSubmitHandleTuning c xt mc) := by
  unfold cmdSubmitHandleTuning
  refine Relates.bind (.ite (spares_writeReg rfl _) (spares_writeReg rfl _)) fun _ => ?_
  refine Relates.bind (spares_readReg _) fun wml => ?_
  refine Relates.bind (spares_writeReg rfl _) fun _ => ?_
  split
  · exact spares_update (by decide) (assign_and (show ∀ p ∈ _, _ &&& ~~~bits _ = 0 by decide))
      fun _ => .pure _
  · exact spares_update (by decide) (assign_and (show ∀ p ∈ _, _ &&& ~~~bits _ = 0 by decide))
      fun _ => .pure _
  · exact .pure _

/-- What becomes of `Mix_ctrl`. -/
theorem handleTuning_words (c : Cmd) (xt mc : U32) (h : Hw) :
    wp (s.cmdSubmitHandleTuning c xt mc) (fun words _ => Agree true mc words.2 ∧ s.Tunes c words.2)
      (fun _ _ => True) h := by
  unfold cmdSubmitHandleTuning
  apply wp_second
  intro _ h₁
  apply wp_second
  intro wml h₂
  apply wp_second
  intro _ h₃
  unfold Tunes
  split
  · apply wp_second
    intro es h₄
    apply wp_second
    intro _ h₅
    rw [wp_pure]
    refine ⟨assign_and (by decide) mc, fun _ _ => ?_⟩
    simp (disch := decide) [assign, Bitfield.test_put_of_disjoint]
  · rename_i other
    apply wp_second
    intro hc2 h₄
    apply wp_second
    intro _ h₅
    exact ⟨rfl, fun usdhc => by rw [other] at usdhc; cases usdhc⟩
  · rename_i other
    exact ⟨rfl, fun usdhc => by rw [other] at usdhc; cases usdhc⟩

/-- A tuning command may also write the field for automatic tuning; any other command may not. -/
theorem handleTuning_kept (c : Cmd) (xt mc : U32) (h : Hw) :
    wp (s.cmdSubmitHandleTuning c xt mc)
      (fun words h' => h'.kept tuning = h.kept tuning ∧ Agree true mc words.2 ∧ s.Tunes c words.2)
      (fun _ _ => False) h :=
  (((s.spares_handleTuning c xt mc h).and (s.handleTuning_words c xt mc h)).and
    (s.quiet_handleTuning c xt mc h)).mono (fun _ _ post => post.1) fun _ _ post => post.2

/-- The bit for CMD23 has nothing to do with tuning. -/
theorem Tunes.put {c : Cmd} {mc : U32} (tunes : s.Tunes c mc) (on : Bool) :
    s.Tunes c (RegMixCtrl.ac23en.put mc on) := by
  intro usdhc tuning
  rw [Bitfield.test_put_of_disjoint (by decide)]
  exact tunes usdhc tuning

/-- The address goes to a register of its own, and CMD23 into a field of commands. -/
theorem setDmaAddr_kept (c : Cmd) (dmaAddr : U64) (xt mc : U32) (tunes : s.Tunes c mc) (h : Hw) :
    wp (s.cmdSubmitSetDmaAddr c dmaAddr xt mc)
      (fun words h' => h'.kept tuning = h.kept tuning ∧ Agree tuning mc words.2 ∧ s.Tunes c words.2)
      (fun _ _ => False) h := by
  have spared : Spares (Hw.kept tuning) (s.cmdSubmitSetDmaAddr c dmaAddr xt mc) := by
    unfold cmdSubmitSetDmaAddr
    apply Relates.ite
    · refine Relates.bind (.ite (spares_writeReg rfl _) (.pure _)) fun _ => ?_
      refine Relates.bind (spares_writeReg rfl _) fun _ => ?_
      refine Relates.bind (spares_writeReg rfl _) fun _ => ?_
      split
      · exact .pure _
      · exact .pure _
      · exact .pure _
    · exact Relates.bind (spares_writeReg rfl _) fun _ => .pure _
  have words : wp (s.cmdSubmitSetDmaAddr c dmaAddr xt mc)
      (fun words _ => Agree tuning mc words.2 ∧ s.Tunes c words.2) (fun _ _ => True) h := by
    unfold cmdSubmitSetDmaAddr
    rw [wp_ite]
    refine ⟨fun _ => ?_, fun _ => ?_⟩
    · apply wp_second
      intro _ h₁
      apply wp_second
      intro _ h₂
      apply wp_second
      intro _ h₃
      split
      · exact ⟨agree_put (commandFields_data (by simp)) mc _, tunes.put s _⟩
      · exact ⟨rfl, tunes⟩
      · exact ⟨rfl, tunes⟩
    · apply wp_second
      exact fun _ h₁ => ⟨rfl, tunes⟩
  exact ((spared h).and (words.and (s.quiet_setDmaAddr c dmaAddr xt mc h))).mono
    (fun _ _ post => ⟨post.1, post.2.1⟩) fun _ _ post => post.2.2

theorem spares_setBlockSizeAndCount (c : Cmd) :
    Spares (Hw.kept tuning) (s.cmdSubmitSetBlockSizeAndCount c) := by
  have register : ∀ {r : Regs} (_ : touched tuning r = ~~~0) (blkcnt blksize : Bitfield 32)
      (rest : U32 → U32), Spares (Hw.kept tuning) (setBlockSizeAndCount r blkcnt blksize rest c) :=
    fun other _ _ _ => .ite (.throw _) (.ite (.throw _) (spares_writeReg other _))
  exact .ite (register rfl _ _ _) (register rfl _ _ _)

/-- `Mix_ctrl` is written behind the other registers. -/
theorem sendCommand_kept (c : Cmd) (xt mc : U32) (tunes : s.Tunes c mc) (h : Hw)
    (agrees : s.type = .usdhc → Agree tuning (h.regs .mixCtrl) mc) :
    wp (s.sendCommand c xt mc)
      (fun _ h' => h'.kept tuning = h.kept tuning ∧ s.Tunes c (h'.regs .mixCtrl)) (fun _ _ => False) h := by
  have enabled : ∀ isen sigen, ((((h.setReg .cmdArg c.arg).setReg .intStatus (~~~0)).setReg .intStatusEn
      isen).setReg .intSignalEn sigen).kept tuning = h.kept tuning := by
    intro isen sigen
    rw [kept_setReg_other rfl, kept_setReg_other rfl, kept_setReg_other rfl, kept_setReg_other rfl]
  unfold sendCommand enableCommand
  simp only [wp_bind, wp_ite, wp_pure, wp_setReg]
  refine ⟨fun usdhc => ⟨?_, tunes⟩, fun other => ⟨?_, fun usdhc => absurd usdhc other⟩⟩
  · rw [kept_setReg_other rfl, kept_setReg (by decide), enabled]
    exact Eq.trans (agrees usdhc) (congrFun (enabled _ _) .mixCtrl).symm
  · rw [kept_setReg_other rfl, enabled]

/-- The last part of a submission writes the value that was collected. It agrees with what was there, as far
as it is kept. -/
theorem cmdSubmitSend_kept (c : Cmd) (dmaAddr : U64) (xt mc : U32) (tunes : s.Tunes c mc) (h : Hw)
    (agrees : s.type = .usdhc → Agree tuning (h.regs .mixCtrl) mc) :
    wp (s.cmdSubmitSend c dmaAddr xt mc)
      (fun _ h' => h'.kept tuning = h.kept tuning ∧ s.Tunes c (h'.regs .mixCtrl))
      (fun _ h' => h'.kept tuning = h.kept tuning) h := by
  unfold cmdSubmitSend
  rw [wp_ite]
  refine ⟨fun _ => ?_, fun _ => ?_⟩
  · rw [wp_bind]
    apply (s.setDmaAddr_kept c _ xt mc tunes h).imp_ok
    intro words h₁ post
    obtain ⟨same₁, agrees₁, tunes₁⟩ := post
    rw [wp_bind]
    apply (s.spares_setBlockSizeAndCount c h₁).mono
    · intro _ h₂ same₂
      have same : h₂.kept tuning = h.kept tuning := same₂.trans same₁
      have register : s.type = .usdhc → Agree tuning (h₂.regs .mixCtrl) words.2 := by
        intro usdhc
        have here : h₂.regs .mixCtrl &&& ~~~touched tuning .mixCtrl =
            h.regs .mixCtrl &&& ~~~touched tuning .mixCtrl := congrFun same .mixCtrl
        exact Eq.trans ((agrees usdhc).trans agrees₁) here.symm
      exact (s.sendCommand_kept c _ _ tunes₁ h₂ register).imp_ok
        fun _ _ post => ⟨post.1.trans same, post.2⟩
    · exact fun _ h₂ same₂ => same₂.trans same₁
  · exact (s.sendCommand_kept c xt mc tunes h agrees).imp_ok fun _ _ post => post

end Submission

/-- A command leaves the rest of the registers alone, whether it is refused or not. On the uSDHC, a tuning
command turns on automatic tuning. -/
theorem cmdSubmit_kept (c : Cmd) (h : Hw) :
    wp s.cmdSubmit
      (fun _ t => t.2.kept c.isTuning = h.kept c.isTuning ∧ s.Tunes c (t.2.regs .mixCtrl))
      (fun _ t => t.2.kept c.isTuning = h.kept c.isTuning) (c, h) := by
  unfold cmdSubmit
  rw [wp_bind, wp_get, wp_ite]
  refine ⟨fun _ => rfl, fun _ => ?_⟩
  have mixer : wp (onHw (if s.type = .usdhc then readReg .mixCtrl else return 0))
      (fun mc t => t = (c, h) ∧ (s.type = .usdhc → mc = h.regs .mixCtrl)) (fun _ _ => False) (c, h) := by
    unfold onHw
    rw [wp_zoom, wp_ite]
    exact ⟨fun _ => ⟨rfl, fun _ => rfl⟩, fun other => ⟨rfl, fun usdhc => absurd usdhc other⟩⟩
  rw [wp_bind]
  apply mixer.imp_ok
  rintro mc _ ⟨rfl, read⟩
  rw [wp_bind, wp_get, wp_bind]
  apply (s.prepareDma_kept _ mc (c, h)).mono
  · rintro ⟨addr, xt, mc₁⟩ ⟨c₁, h₁⟩ ⟨same₁, agrees₁⟩
    have word : c₁.cmd = c.cmd := congrArg Prod.fst same₁
    have kept₁ : h₁.kept c.isTuning = h.kept c.isTuning := congrArg Prod.snd same₁
    have tuning : c₁.isTuning = c.isTuning := by
      unfold Cmd.isTuning
      rw [word]
    rw [wp_bind, wp_get, wp_bind]
    have words : wp (onHw (if c₁.isTuning then s.cmdSubmitHandleTuning c₁ xt mc₁ else return (xt, mc₁)))
        (fun words t => t.1 = c₁ ∧ t.2.kept c.isTuning = h.kept c.isTuning ∧
          Agree c.isTuning mc words.2 ∧ s.Tunes c₁ words.2) (fun _ _ => False) (c₁, h₁) := by
      unfold onHw
      rw [wp_zoom, wp_ite]
      refine ⟨fun on => ?_, fun off => ⟨rfl, kept₁, agrees₁, fun _ on => absurd on off⟩⟩
      apply (s.handleTuning_kept c₁ xt mc₁ h₁).imp
      intro words h₂ post
      have agrees : Agree c.isTuning mc₁ words.2 := by
        rw [← tuning, on]
        exact post.2.1
      exact ⟨rfl, post.1.trans kept₁, agrees₁.trans agrees, post.2.2⟩
    apply words.imp_ok
    rintro ⟨xt₂, mc₂⟩ ⟨c₂, h₂⟩ ⟨rfl, kept₂, agrees₂, tunes₂⟩
    have register : s.type = .usdhc → Agree c.isTuning (h₂.regs .mixCtrl) mc₂ := by
      intro usdhc
      rw [read usdhc] at agrees₂
      exact Eq.trans agrees₂ (congrFun kept₂ .mixCtrl).symm
    rw [wp_bind, onHw, wp_zoom]
    apply (s.cmdSubmitSend_kept c₂ addr xt₂ mc₂ tunes₂ h₂ register).mono
    · exact fun _ h₃ post => ⟨post.1.trans kept₂, fun usdhc on => post.2 usdhc (tuning.trans on)⟩
    · exact fun _ h₃ same => same.trans kept₂
  · exact fun _ t same => congrArg Prod.snd same

/-! ## Interrupts -/

section Interrupts

variable {tuning : Bool}

/-- The word of the command decides which bits are kept, so it has to stay. -/
theorem spares_modifyCmd {f : Cmd → Cmd} (word : ∀ c, (f c).cmd = c.cmd) :
    Spares (view tuning) (modifyCmd f) :=
  spares_modify (fun t => word t.1) fun _ => rfl

theorem spares_setStatus (status : Status) : Spares (view tuning) (setStatus status) :=
  spares_modifyCmd fun _ => rfl

/-- Writing ones to the status clears it, and none of it is kept. -/
theorem spares_acknowledge (isAck : U32) : Spares (Hw.kept tuning) (acknowledge isAck) :=
  .ite (spares_writeReg rfl _) (.pure _)

theorem spares_clearInhibit : Spares (Hw.kept tuning) s.clearInhibit := by
  unfold clearInhibit
  apply Relates.ite _ (.pure _)
  apply (spares_readReg _).bind
  intro ps
  exact .ite (spares_writeReg rfl _) (.pure _)

/-- A reset of the command or data line sets a bit that clears itself. -/
theorem spares_resetLine {bit : Bitfield 32} (line : bit.mask &&& ~~~touched tuning .sysCtrl = 0)
    (done : Bool) (text : String) : Spares (Hw.kept tuning) (resetLine bit done text) :=
  spares_update (by decide) (fun raw => Bitfield.put_and line raw true) fun _ => spares_poll done text

/-- The handler of the command phase acknowledges and sets the status. -/
theorem spares_dispatchCmd (is : U32) : Spares (view tuning) (s.dispatchCmd is) := by
  unfold dispatchCmd
  apply Relates.get.bind
  intro t
  apply Relates.ite
  · apply (spares_onHw s.spares_clearInhibit).bind
    intro _
    exact (spares_setStatus _).bind fun _ => .pure _
  apply Relates.ite
  · exact (spares_setStatus _).bind fun _ => .pure _
  apply Relates.ite
  · exact (spares_setStatus _).bind fun _ => .pure _
  apply Relates.ite
  · apply (spares_onHw (.ite (spares_writeReg rfl _) (.pure _))).bind
    intro _
    apply Relates.ite _ (.pure _)
    apply (spares_onHw (spares_readReg _)).bind
    intro es
    exact (spares_setStatus _).bind fun _ => .pure _
  apply Relates.ite _ (.pure _)
  exact (spares_setStatus _).bind fun _ => .pure _

theorem spares_readWords (dst : U64) (n : Nat) : Spares (Hw.kept tuning) (s.readWords dst n) := by
  induction n generalizing dst with
  | zero => exact .pure _
  | succ n ih =>
    have port : Spares (Hw.kept tuning) readDataPort := fun _ => rfl
    unfold readWords
    apply port.bind
    intro data
    exact Relates.bind (.modify fun _ => rfl) fun _ => ih _

theorem spares_writeWords (src : U64) (n : Nat) : Spares (Hw.kept tuning) (s.writeWords src n) := by
  induction n generalizing src with
  | zero => exact .pure _
  | succ n ih =>
    unfold writeWords
    apply Relates.get.bind
    intro h
    exact (spares_writeReg rfl _).bind fun _ => ih _

/-- A restart clears a bit of the status and writes the address of the data. -/
theorem spares_restartSdma (blksToXfer : U32) : Spares (view tuning) (restartSdma blksToXfer) := by
  unfold restartSdma
  apply (spares_onHw (spares_writeReg rfl _)).bind
  intro _
  refine Relates.bind (spares_modifyCmd ?_) fun _ => ?_
  · exact fun _ => rfl
  · exact Relates.get.bind fun t => spares_onHw (spares_writeReg rfl _)

/-- The handler of the data phase does that and, without DMA, moves words. -/
theorem spares_dispatchData (is : U32) : Spares (view tuning) (s.dispatchData is) := by
  unfold dispatchData
  apply Relates.get.bind
  intro t
  apply Relates.ite
  · exact (spares_setStatus _).bind fun _ => .pure _
  apply Relates.ite
  · exact (spares_setStatus _).bind fun _ => .pure _
  apply Relates.ite
  · apply (spares_onHw (spares_readReg _)).bind
    intro blkAtt
    apply Relates.ite _ (.pure _)
    apply Relates.ite (.throw _)
    exact (spares_restartSdma _).bind fun _ => .pure _
  apply Relates.ite
  · exact (spares_onHw (s.spares_readWords _ _)).bind fun _ => .pure _
  apply Relates.ite _ (.pure _)
  exact (spares_onHw (s.spares_writeWords _ _)).bind fun _ => .pure _

/-- Both handlers end alike. -/
theorem spares_finish {m : EStateM RuntimeError (Cmd × Hw) U32} (dispatch : Spares (view tuning) m)
    {bit : Bitfield 32} (line : bit.mask &&& ~~~touched tuning .sysCtrl = 0) (done : Hw → Bool)
    (text : String) :
    Spares (view tuning) (do
      let isAck ← m
      onHw (acknowledge isAck)
      let t ← get
      (if t.1.error then onHw (resetLine bit (done t.2) text) else return ())) := by
  apply dispatch.bind
  intro isAck
  apply (spares_onHw (spares_acknowledge isAck)).bind
  intro _
  apply Relates.get.bind
  intro t
  exact .ite (spares_onHw (spares_resetLine line _ text)) (.pure _)

/-- Both come with a reset of the line behind an error. -/
theorem spares_irqCmd : Spares (view tuning) s.irqCmd :=
  Relates.get.bind fun t => spares_finish (s.spares_dispatchCmd t.2.is) (clear_of_mem (by simp))
    Hw.rstcDone "Software reset for CMD line"

theorem spares_irqData : Spares (view tuning) s.irqData :=
  Relates.get.bind fun t => spares_finish (s.spares_dispatchData t.2.is) (clear_of_mem (by simp))
    Hw.rstdDone "Software reset for data line"

/-- A response is part of what a command comes back with; its word stays. -/
theorem withResponse_cmd (regs : Regs → U32) (c : Cmd) : (withResponse regs c).cmd = c.cmd := by
  unfold withResponse
  split
  · rfl
  · rfl

theorem spares_fetch : Spares (view tuning) s.cmdFetchResponse := by
  apply spares_modify
  · exact fun t => withResponse_cmd t.2.regs t.1
  · intro t
    dsimp only
    split
    · rfl
    · rfl

/-- So does an interrupt, for whatever command. -/
theorem spares_handleIrq : Spares (view tuning) s.hwOps.handleIrq := by
  have phase : ∀ {status : Status} {m : Action Hw Unit}, Spares (view tuning) m →
      Spares (view tuning) (HwOps.onStatus status m) :=
    fun spared => Relates.get.bind fun t => .ite spared (.pure _)
  apply (phase s.spares_irqCmd).bind
  intro _
  apply (phase s.spares_irqData).bind
  exact fun _ => phase s.spares_fetch

end Interrupts

end Sdhci

end Emmc
