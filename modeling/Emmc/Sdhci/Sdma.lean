import Emmc.Sdhci.Phases
import Emmc.Sdhci.Range

/-!
# SDMA restarts

Without ADMA2 descriptors the controller stops whenever it comes to a boundary of the memory, and the
driver has it go on from an address that it keeps in the command. What the driver writes to `Reg_ds_addr`
is read from the log.

* `Dma`: the part of the state that a transfer goes on from. No computation of the driver touches it
  (`Still`) but the setup of the address and the restart.
* `cmdSubmit_addrs`, `interrupt_dma`: the first address, and the effect of one interrupt.
* `restarts_continue_iff`: the address of a restart leaves out the DMA offset that the first one has.
-/

namespace Emmc

open Throwing

namespace Sdhci

/-! ## What a transfer goes on from -/

/-- The addresses written to `Reg_ds_addr`, the last one first. -/
def dsAddrs (log : List Access) : List U32 :=
  log.filterMap fun
    | .reg .dsAddr value => some value
    | _ => none

structure Dma where
  blockcnt : U32
  blocksize : U32
  dataPhys : U32
  addrs : List U32
deriving DecidableEq

def dma (t : Cmd × Hw) : Dma := ⟨t.1.blockcnt, t.1.blocksize, t.1.dataPhys, dsAddrs t.2.log⟩

/-- The computation leaves the transfer where it is, whether it returns or throws. -/
abbrev Still {α : Type} (m : EStateM RuntimeError (Cmd × Hw) α) : Prop := Spares dma m

theorem still_setStatus (status : Status) : Still (setStatus status) := Relates.modify fun _ => rfl

/-- A computation on the controller alone does not write the register. -/
abbrev Mute {α : Type} (m : HwM α) : Prop := Spares (fun h => dsAddrs h.log) m

theorem mute_readReg (r : Regs) : Mute (readReg r) := fun _ => rfl

theorem mute_readDataPort : Mute readDataPort := fun _ => rfl

theorem mute_poll (done : Bool) (text : String) : Mute (poll done text) :=
  Relates.ite (.pure _) (.throw _)

theorem dsAddrs_setReg {h : Hw} {r : Regs} (other : r ≠ .dsAddr) (value : U32) :
    dsAddrs (h.setReg r value).log = dsAddrs h.log := by
  show dsAddrs (.reg r value :: h.log) = _
  cases r <;> first | rfl | exact absurd rfl other

theorem mute_writeReg {r : Regs} (other : r ≠ .dsAddr) (value : U32) : Mute (writeReg r value) :=
  fun _ => dsAddrs_setReg other value

theorem Mute.still {α : Type} {m : HwM α} (mute : Mute m) : Still (onHw m) :=
  mute.zoom fun t h same => by simp only [dma, same]

/-! ## The command phase -/

variable (s : Sdhci)

theorem mute_clearInhibit : Mute s.clearInhibit := by
  rw [clearInhibit]
  refine Relates.ite (Relates.bind (mute_readReg _) fun ps => ?_) (.pure _)
  exact Relates.ite (mute_writeReg (by decide) _) (.pure _)

theorem mute_acknowledge (isAck : U32) : Mute (acknowledge isAck) := by
  rw [acknowledge]
  exact Relates.ite (mute_writeReg (by decide) _) (.pure _)

theorem mute_resetLine (bit : Bitfield 32) (done : Bool) (text : String) :
    Mute (resetLine bit done text) := by
  rw [resetLine]
  refine Relates.bind (mute_readReg _) fun sc => ?_
  exact Relates.bind (mute_writeReg (by decide) _) fun _ => mute_poll _ _

theorem still_dispatchCmd (is : U32) : Still (s.dispatchCmd is) := by
  rw [dispatchCmd]
  refine Relates.bind Relates.get fun t => ?_
  refine Relates.ite ?_ (Relates.ite ?_ (Relates.ite ?_ (Relates.ite ?_ (Relates.ite ?_ (.pure _)))))
  · refine Relates.bind (mute_clearInhibit s).still fun _ => ?_
    exact Relates.bind (still_setStatus _) fun _ => .pure _
  · exact Relates.bind (still_setStatus _) fun _ => .pure _
  · exact Relates.bind (still_setStatus _) fun _ => .pure _
  · refine Relates.bind (Mute.still (Relates.ite (mute_writeReg (by decide) _) (.pure _))) fun _ => ?_
    refine Relates.ite ?_ (.pure _)
    refine Relates.bind (mute_readReg _).still fun es => ?_
    exact Relates.bind (still_setStatus _) fun _ => .pure _
  · exact Relates.bind (still_setStatus _) fun _ => .pure _

/-- The end of both handlers. -/
theorem still_finish (isAck : U32) (bit : Bitfield 32) (done : Cmd × Hw → Bool) (text : String) :
    Still (do
      onHw (acknowledge isAck)
      let t ← get
      (if t.1.error then onHw (resetLine bit (done t) text) else return ())) := by
  refine Relates.bind (mute_acknowledge isAck).still fun _ => ?_
  refine Relates.bind Relates.get fun t => ?_
  exact Relates.ite (mute_resetLine _ _ _).still (.pure _)

theorem still_irqCmd : Still s.irqCmd := by
  rw [irqCmd]
  refine Relates.bind Relates.get fun t => ?_
  rw [handleIrqCmd]
  exact Relates.bind (s.still_dispatchCmd _) fun isAck => still_finish isAck _ _ _

theorem still_cmdFetchResponse : Still s.cmdFetchResponse := by
  intro t
  show dma (withResponse t.2.regs t.1, _) = dma t
  rw [withResponse]
  split <;> split <;> rfl

/-! ## The data phase -/

theorem mute_readWords (dst : U64) (n : Nat) : Mute (s.readWords dst n) := by
  induction n generalizing dst with
  | zero => exact .pure _
  | succ n ih =>
    rw [readWords]
    refine Relates.bind mute_readDataPort fun data => ?_
    exact Relates.bind (.modify fun _ => rfl) fun _ => ih _

theorem mute_writeWords (src : U64) (n : Nat) : Mute (s.writeWords src n) := by
  induction n generalizing src with
  | zero => exact .pure _
  | succ n ih =>
    rw [writeWords]
    refine Relates.bind Relates.get fun h => ?_
    exact Relates.bind (mute_writeReg (by decide) _) fun _ => ih _

/-- Blocks that are left at an interrupt. -/
def remaining (irq : Irq) : U32 := RegBlkAtt.blkcnt.get (irq.regs .blkAtt)

/-- The transfer goes on with `left` blocks. -/
def Dma.restarted (p : Dma) (left : U32) : Dma :=
  let dataPhys := p.dataPhys + (p.blockcnt - left) * p.blocksize
  { p with blockcnt := left, dataPhys := dataPhys, addrs := dataPhys :: p.addrs }

/-- The data phase without an interrupted transfer. -/
theorem dispatchData_dma {is : U32} {t : Cmd × Hw}
    (whole : interrupted is (t.2.regs .blkAtt) = false) :
    wp (s.dispatchData is) (fun _ t' => dma t' = dma t) (fun _ t' => dma t' = dma t) t := by
  rw [dispatchData, wp_bind, wp_get, wp_ite]
  refine ⟨fun _ => rfl, fun noError => ?_⟩
  rw [wp_ite]
  refine ⟨fun _ => rfl, fun noTc => ?_⟩
  rw [wp_ite]
  refine ⟨fun dint => ?_, fun _ => ?_⟩
  · rw [wp_bind]
    show wp (if RegBlkAtt.blkcnt.get (t.2.regs .blkAtt) ≠ 0 then _ else _) _ _ t
    rw [wp_ite]
    refine ⟨fun left => ?_, fun _ => rfl⟩
    rw [interrupted, Bool.eq_false_iff.mpr noError, Bool.eq_false_iff.mpr noTc, dint,
      decide_eq_true left] at whole
    cases whole
  rw [wp_ite]
  refine ⟨fun _ => ?_, fun _ => ?_⟩
  · rw [wp_bind]
    exact (s.mute_readWords _ _).still t
  rw [wp_ite]
  refine ⟨fun _ => ?_, fun _ => rfl⟩
  rw [wp_bind]
  exact (s.mute_writeWords _ _).still t

/-- An interrupted transfer goes on where the controller stopped. -/
theorem dispatchData_restart (sdma : s.dmaAdma2 = false) {is : U32} {t : Cmd × Hw}
    (stopped : interrupted is (t.2.regs .blkAtt) = true) :
    wp (s.dispatchData is)
      (fun _ t' => dma t' = (dma t).restarted (RegBlkAtt.blkcnt.get (t.2.regs .blkAtt)))
      (fun _ _ => False) t := by
  simp only [interrupted, Bool.and_eq_true, Bool.not_eq_true', decide_eq_true_eq] at stopped
  rcases stopped with ⟨⟨⟨noError, noTc⟩, dint⟩, left⟩
  have back : t.1.blockcnt - (t.1.blockcnt - RegBlkAtt.blkcnt.get (t.2.regs .blkAtt)) =
      RegBlkAtt.blkcnt.get (t.2.regs .blkAtt) := sub_sub_cancel _ _
  rw [dispatchData, wp_bind, wp_get, if_neg (by rw [noError]; exact Bool.false_ne_true),
    if_neg (by rw [noTc]; exact Bool.false_ne_true), if_pos dint, wp_bind]
  show wp (if RegBlkAtt.blkcnt.get (t.2.regs .blkAtt) ≠ 0 then _ else _) _ _ t
  rw [if_pos left, if_neg (by rw [sdma]; exact Bool.false_ne_true), wp_bind]
  show dma _ = _
  simp only [Dma.restarted, dma, back]
  rfl

/-- What the data phase makes of the transfer. -/
def Dma.after (p : Dma) (is blkAtt : U32) : Dma :=
  if interrupted is blkAtt then p.restarted (RegBlkAtt.blkcnt.get blkAtt) else p

theorem irqData_dma (sdma : s.dmaAdma2 = false) (t : Cmd × Hw) :
    wp s.irqData (fun _ t' => dma t' = (dma t).after t.2.is (t.2.regs .blkAtt))
      (fun _ t' => dma t' = (dma t).after t.2.is (t.2.regs .blkAtt)) t := by
  have dispatched : wp (s.dispatchData t.2.is)
      (fun _ t' => dma t' = (dma t).after t.2.is (t.2.regs .blkAtt))
      (fun _ t' => dma t' = (dma t).after t.2.is (t.2.regs .blkAtt)) t := by
    rw [Dma.after]
    cases stopped : interrupted t.2.is (t.2.regs .blkAtt) with
    | true =>
      exact (s.dispatchData_restart sdma stopped).mono (fun _ _ same => same)
        (fun _ _ absurd => absurd.elim)
    | false => exact s.dispatchData_dma stopped
  rw [irqData, wp_bind, wp_get, handleIrqData, wp_bind]
  refine dispatched.mono (fun isAck t₁ same => ?_) (fun _ _ same => same)
  exact (still_finish isAck RegSysCtrl.rstd (fun t => t.2.rstdDone) _).keeps (· = _) t₁ same

/-- The data phase of an interrupt and the fetch of the response. -/
theorem onData_dma (sdma : s.dmaAdma2 = false) (t : Cmd × Hw) {p : Dma}
    (next : p = if t.1.status = .progressData then (dma t).after t.2.is (t.2.regs .blkAtt)
      else dma t) :
    wp (do
        HwOps.onStatus .progressData s.irqData
        HwOps.onStatus .success s.cmdFetchResponse : Action Hw Unit)
      (fun _ t' => dma t' = p) (fun _ t' => dma t' = p) t := by
  have fetch : ∀ t : Cmd × Hw, dma t = p →
      wp (HwOps.onStatus .success s.cmdFetchResponse) (fun _ t' => dma t' = p)
        (fun _ t' => dma t' = p) t := by
    intro t same
    exact HwDrv.wp_onStatus.mpr ⟨fun _ => s.still_cmdFetchResponse.keeps (· = p) t same, fun _ => same⟩
  rw [wp_bind]
  refine HwDrv.wp_onStatus.mpr ⟨fun phase => ?_, fun other => ?_⟩
  · rw [if_pos phase] at next
    rw [next] at fetch ⊢
    exact (s.irqData_dma sdma t).mono (fun _ t' same => fetch t' same) (fun _ _ same => same)
  · rw [if_neg other] at next
    exact fetch t next.symm

/-! ## Interrupts -/

/-- The interrupt is one at a boundary, with blocks left. -/
def atBoundary (irq : Irq) : Bool := interrupted (irq.regs .intStatus) (irq.regs .blkAtt)

/-- The interrupt has the driver restart the transfer of the command. -/
def restarts (irq : Irq) (c : Cmd) : Bool := entersData irq c && atBoundary irq

theorem entersData_iff (irq : Irq) {c : Cmd} (noTuning : c.isTuning = false) :
    entersData irq c = true ↔ c.status = .progressData ∨
      c.status = .progressCmd ∧ nextStatus (irq.regs .intStatus) c = .progressData := by
  simp [entersData, noTuning]

/-- What one interrupt makes of the transfer, whether it is handled or throws. -/
theorem interrupt_dma (sdma : s.dmaAdma2 = false) {t : Cmd × Hw} (noTuning : t.1.isTuning = false)
    (irq : Irq) :
    dma (s.interrupt irq t) =
      if restarts irq t.1 then (dma t).restarted (remaining irq) else dma t := by
  have enters := entersData_iff irq noTuning
  have whole : ∀ data : Prop, [Decidable data] → (entersData irq t.1 = true ↔ data) →
      (if restarts irq t.1 then (dma t).restarted (remaining irq) else dma t) =
        if data then (dma t).after (irq.regs .intStatus) (irq.regs .blkAtt) else dma t := by
    intro data _ same
    rw [restarts, Dma.after, atBoundary]
    by_cases phase : data
    · rw [same.mpr phase, Bool.true_and, if_pos phase]
      rfl
    · rw [Bool.eq_false_iff.mpr (fun enters => phase (same.mp enters)), Bool.false_and, if_neg phase]
      rfl
  refine after_of_wp (P := fun t' => dma t' =
    if restarts irq t.1 then (dma t).restarted (remaining irq) else dma t) ?_
  show wp (HwOps.onStatus .progressCmd s.irqCmd >>= fun _ => _) _ _ (t.1, present irq t.2)
  rw [wp_bind]
  refine HwDrv.wp_onStatus.mpr ⟨fun phase => ?_, fun other => ?_⟩
  · have cmd : t.1.status = .progressCmd := phase
    have data : entersData irq t.1 = true ↔
        nextStatus (irq.regs .intStatus) t.1 = .progressData := by
      rw [enters, cmd]
      simp
    rw [whole _ data]
    have exact := s.handleIrqCmd_exact noTuning (present irq t.2) (irq.regs .intStatus) cmd
    have still := s.still_irqCmd (t.1, present irq t.2)
    rw [irqCmd, wp_bind, wp_get] at still ⊢
    refine (wp.and exact still).mono (fun _ t₁ post => ?_) (fun _ t₁ post => ?_)
    · rcases post with ⟨⟨same, pending, -⟩, kept⟩
      refine s.onData_dma sdma t₁ ?_
      have status : t₁.1.status = nextStatus (irq.regs .intStatus) t.1 := by rw [same]
      rw [status, kept, pending.is, pending.blkAtt]
      rfl
    · rcases post with ⟨⟨same, fails, -⟩, kept⟩
      have bad := (nextStatus_error (irq.regs .intStatus) cmd).mpr fails
      rw [if_neg (fun data => by rw [data] at bad; exact absurd bad (by decide))]
      exact kept
  · have notCmd : t.1.status ≠ .progressCmd := other
    have data : entersData irq t.1 = true ↔ t.1.status = .progressData := by
      rw [enters]
      exact or_iff_left fun both => notCmd both.1
    rw [whole _ data]
    exact s.onData_dma sdma (t.1, present irq t.2) rfl

/-! ## Submission -/

/-- The DMA offset as far as it reaches a 32-bit register. -/
def dsOffset : U32 := s.dmaOffset.setWidth 32

theorem bounceSdma_addrs (c : Cmd) (b : Block) (h : Hw) :
    wp (s.bounceSdma c b) (fun _ t => dsAddrs t.2.log = dsAddrs h.log) (fun _ _ => False) (c, h) := by
  rw [bounceSdma, wp_ite, wp_bind, wp_ite]
  exact ⟨fun _ => ⟨fun _ => rfl, fun _ => rfl⟩, fun _ => rfl⟩

theorem sdmaPrepared_addrs (c : Cmd) (h : Hw) :
    dsAddrs (s.sdmaPrepared c h).2.log = dsAddrs h.log := by
  rw [sdmaPrepared]
  split
  · rfl
  · exact after_of_wp ((s.bounceSdma_addrs c _ h).mono (fun _ _ same => same)
      (fun _ _ absurd => absurd.elim))

/-- Setting up the registers of a command. -/
theorem mute_sendCommand (c : Cmd) (xt mc : U32) : Mute (s.sendCommand c xt mc) := by
  rw [sendCommand, enableCommand]
  refine Relates.bind ?_ fun _ => mute_writeReg (by decide) _
  refine Relates.bind (mute_writeReg (by decide) _) fun _ => ?_
  refine Relates.bind (mute_writeReg (by decide) _) fun _ => ?_
  refine Relates.bind (mute_writeReg (by decide) _) fun _ => ?_
  refine Relates.bind (mute_writeReg (by decide) _) fun _ => ?_
  exact Relates.ite (mute_writeReg (by decide) _) (.pure _)

theorem mute_setBlockSizeAndCount (c : Cmd) : Mute (s.cmdSubmitSetBlockSizeAndCount c) := by
  have register : ∀ {r : Regs} {blkcnt blksize : Bitfield 32} {rest : U32 → U32}, r ≠ .dsAddr →
      Mute (setBlockSizeAndCount r blkcnt blksize rest c) := by
    intro r blkcnt blksize rest other
    rw [setBlockSizeAndCount]
    refine Relates.ite (.throw _) ?_
    exact Relates.ite (.throw _) (mute_writeReg other _)
  rw [cmdSubmitSetBlockSizeAndCount]
  exact Relates.ite (register (by decide)) (register (by decide))

/-- The first address of a transfer. -/
theorem cmdSubmitSend_addrs (sdma : s.dmaAdma2 = false) (c : Cmd) {addr : U32} (xt mc : U32)
    (h : Hw) :
    wp (s.cmdSubmitSend c (addr.setWidth 64) xt mc)
      (fun _ h' => dsAddrs h'.log = (addr + s.dsOffset) :: dsAddrs h.log) (fun _ _ => True) h := by
  have present : addr.setWidth 64 ≠ ~~~0 := by
    apply ne_noAddr
    rw [BitVec.toNat_setWidth]
    exact Nat.lt_of_le_of_lt (Nat.mod_le _ _) addr.isLt
  have first : (addr.setWidth 64 + s.dmaOffset).setWidth 32 = addr + s.dsOffset := by
    rw [BitVec.setWidth_add _ _ (by decide), BitVec.setWidth_setWidth_of_le addr (by decide),
      BitVec.setWidth_eq, dsOffset]
  rw [cmdSubmitSend, if_pos present, cmdSubmitSetDmaAddr,
    if_neg (by rw [sdma]; exact Bool.false_ne_true), first, wp_bind, wp_bind]
  show wp _ _ _ (h.setReg .dsAddr (addr + s.dsOffset))
  rw [wp_bind]
  have written : dsAddrs (h.setReg .dsAddr (addr + s.dsOffset)).log =
      (addr + s.dsOffset) :: dsAddrs h.log := rfl
  refine ((s.mute_setBlockSizeAndCount c).keeps (· = _) _ written).mono (fun _ h₁ same => ?_)
    (fun _ _ _ => trivial)
  exact ((s.mute_sendCommand c xt mc).keeps (· = _) h₁ same).mono (fun _ _ same => same)
    (fun _ _ _ => trivial)

theorem cmdSubmit_addrs (sdma : s.dmaAdma2 = false) {c : Cmd} (data : c.flags.hasData = true)
    (noTuning : c.isTuning = false) (h : Hw) :
    wp s.cmdSubmit
      (fun _ t => dsAddrs t.2.log = (t.1.dataPhys + s.dsOffset) :: dsAddrs h.log)
      (fun _ _ => True) (c, h) := by
  have mixer : Mute (if s.type = .usdhc then readReg .mixCtrl else return 0) :=
    Relates.ite (mute_readReg _) (.pure _)
  have watermark : Mute (if s.type = .usdhc then do
      let wml ← readReg .wtmkLvl
      writeReg .wtmkLvl (RegWtmkLvl.levels wml RegWtmkLvl.wmlDma)
    else return ()) :=
    Relates.ite (Relates.bind (mute_readReg _) fun _ => mute_writeReg (by decide) _) (.pure _)
  have onHw_mute : ∀ {α : Type} {m : HwM α}, Mute m → ∀ (c : Cmd) (h : Hw),
      wp (onHw m) (fun _ t => t.1 = c ∧ dsAddrs t.2.log = dsAddrs h.log) (fun _ _ => True) (c, h) := by
    intro α m mute c h
    rw [onHw, wp_zoom]
    exact (mute h).mono (fun _ _ same => ⟨rfl, same⟩) (fun _ _ _ => trivial)
  rw [cmdSubmit, wp_bind, wp_get, wp_ite]
  refine ⟨fun _ => trivial, fun _ => ?_⟩
  rw [wp_bind]
  refine (onHw_mute mixer c h).mono ?_ (fun _ _ _ => trivial)
  rintro mc ⟨c₁, h₁⟩ ⟨rfl, same₁⟩
  rw [wp_bind, wp_get, wp_bind, cmdSubmitPrepareDma, wp_bind, wp_get, if_pos data, wp_bind]
  refine (onHw_mute watermark c₁ h₁).mono ?_ (fun _ _ _ => trivial)
  rintro _ ⟨c₂, h₂⟩ ⟨rfl, same₂⟩
  rw [if_neg (by rw [sdma]; exact Bool.false_ne_true), wp_bind]
  apply (s.prepareSdma_spec c₂ h₂).imp_ok
  intro addr t₃ post
  rcases post with ⟨addr_eq, rfl⟩
  have same₃ := s.sdmaPrepared_addrs c₂ h₂
  have kept := s.kept_prepared c₂ h₂
  rw [prepared, if_pos data, if_neg (by rw [sdma]; exact Bool.false_ne_true)] at kept
  have noTuning' : (s.sdmaPrepared c₂ h₂).1.isTuning = false := by
    simp only [Cmd.isTuning, kept.1.1.cmd]
    exact noTuning
  rw [wp_pure, wp_bind, wp_get, wp_bind, if_neg (by rw [noTuning']; exact Bool.false_ne_true)]
  show wp (onHw _ >>= fun _ => _) _ _ _
  rw [wp_bind, onHw, wp_zoom, addr_eq]
  refine (s.cmdSubmitSend_addrs sdma _ _ _ _).mono (fun _ h₄ sent => ?_) (fun _ _ _ => trivial)
  rw [same₃, same₂, same₁] at sent
  exact sent

/-! ## Runs -/

/-- The controller never reports more blocks left than before. -/
def Shrinking : U32 → List Irq → Prop
  | _, [] => True
  | last, irq :: irqs =>
    if atBoundary irq = true then remaining irq ≤ last ∧ Shrinking (remaining irq) irqs
    else Shrinking last irqs

theorem shrinking_one {last : U32} {irq : Irq} (fewer : remaining irq ≤ last) :
    Shrinking last [irq] := by
  unfold Shrinking
  split
  · exact ⟨fewer, trivial⟩
  · trivial

/-- Blocks transferred when the interrupt stops a transfer of `n` blocks. -/
def transferred (n : U32) (irq : Irq) : Nat := n.toNat - (remaining irq).toNat

/-- A restart goes on behind the blocks transferred since the transfer of `n` blocks was started at
the address `start`, and the command counts the others. -/
def Continues (start n : U32) (irq : Irq) (t : Cmd × Hw) : Prop :=
  restarts irq t.1 = true →
    (∃ addr, dsAddrs (s.interrupt irq t).2.log = addr :: dsAddrs t.2.log ∧
      addr.toNat = start.toNat + 512 * transferred n irq) ∧
    (s.interrupt irq t).1.blockcnt.toNat + transferred n irq = n.toNat

/-- No restart needs an offset, or an address beyond 4 GiB. -/
def Unshifted (start n : U32) (irq : Irq) (t : Cmd × Hw) : Prop :=
  restarts irq t.1 = true →
    s.dmaOffset = 0 ∧ start.toNat + 512 * transferred n irq < 2 ^ 32

/-- The transfer of `n` blocks that began at `phys`; `last` blocks were reported last. -/
structure Midway (phys n last : U32) (t : Cmd × Hw) : Prop where
  noTuning : t.1.isTuning = false
  reported : last ≤ t.1.blockcnt
  counted : t.1.blockcnt ≤ n
  size : t.1.blocksize = 512 ∨ n = 1
  position : t.1.dataPhys = phys + (n - t.1.blockcnt) * 512

theorem left_of_restarts {irq : Irq} {c : Cmd} (again : restarts irq c = true) :
    atBoundary irq = true ∧ remaining irq ≠ 0 := by
  have stopped := (Bool.and_eq_true_iff.mp again).2
  refine ⟨stopped, ?_⟩
  rw [atBoundary, interrupted, Bool.and_eq_true, decide_eq_true_eq] at stopped
  exact stopped.2

section Step

variable {s} {phys n last : U32} {t : Cmd × Hw} (mid : Midway phys n last t) {irq : Irq}
include mid

/-- Where a restart goes on. -/
theorem Midway.next_position (left : remaining irq ≠ 0) (shrinks : remaining irq ≤ last) :
    t.1.dataPhys + (t.1.blockcnt - remaining irq) * t.1.blocksize =
      phys + (n - remaining irq) * 512 := by
  have moved : (t.1.blockcnt - remaining irq) * t.1.blocksize =
      (t.1.blockcnt - remaining irq) * 512 := by
    rcases mid.size with size | one
    · rw [size]
    · have reported := mid.reported
      have counted := mid.counted
      have same : t.1.blockcnt = remaining irq := by
        rw [one] at counted
        bv_omega
      rw [same, BitVec.sub_self, BitVec.zero_mul, BitVec.zero_mul]
  rw [mid.position, moved, BitVec.add_assoc, ← BitVec.add_mul]
  have whole : n - t.1.blockcnt + (t.1.blockcnt - remaining irq) = n - remaining irq := by
    bv_omega
  rw [whole]

theorem Midway.stays (sdma : s.dmaAdma2 = false) (other : restarts irq t.1 = false) {last' : U32}
    (reported : last' ≤ last) : Midway phys n last' (s.interrupt irq t) := by
  have same := s.interrupt_dma sdma mid.noTuning irq
  rw [if_neg (by rw [other]; exact Bool.false_ne_true)] at same
  have word := (s.interrupt_spec mid.noTuning irq).1.cmd
  simp only [dma, Dma.mk.injEq] at same
  rcases same with ⟨blockcnt, blocksize, dataPhys, -⟩
  refine ⟨?_, ?_, ?_, ?_, ?_⟩
  · simp only [Cmd.isTuning, word]
    exact mid.noTuning
  · rw [blockcnt]
    exact BitVec.le_trans reported mid.reported
  · rw [blockcnt]
    exact mid.counted
  · rw [blocksize]
    exact mid.size
  · rw [dataPhys, blockcnt]
    exact mid.position

theorem Midway.restarted (sdma : s.dmaAdma2 = false) (again : restarts irq t.1 = true)
    (shrinks : remaining irq ≤ last) :
    Midway phys n (remaining irq) (s.interrupt irq t) ∧
      (s.interrupt irq t).1.blockcnt = remaining irq ∧
      dsAddrs (s.interrupt irq t).2.log =
        (phys + (n - remaining irq) * 512) :: dsAddrs t.2.log := by
  have same := s.interrupt_dma sdma mid.noTuning irq
  rw [if_pos again] at same
  have word := (s.interrupt_spec mid.noTuning irq).1.cmd
  have position := mid.next_position (left_of_restarts again).2 shrinks
  simp only [dma, Dma.restarted, Dma.mk.injEq, position] at same
  rcases same with ⟨blockcnt, blocksize, dataPhys, addrs⟩
  refine ⟨⟨?_, ?_, ?_, ?_, ?_⟩, blockcnt, addrs⟩
  · simp only [Cmd.isTuning, word]
    exact mid.noTuning
  · rw [blockcnt]
    exact BitVec.le_refl _
  · rw [blockcnt]
    exact BitVec.le_trans shrinks (BitVec.le_trans mid.reported mid.counted)
  · rw [blocksize]
    exact mid.size
  · rw [dataPhys, blockcnt]

/-- One interrupt: the address lacks the offset. -/
theorem Midway.continues_iff (sdma : s.dmaAdma2 = false)
    (shrinks : atBoundary irq = true → remaining irq ≤ last) :
    s.Continues (phys + s.dsOffset) n irq t ↔ s.Unshifted (phys + s.dsOffset) n irq t := by
  rw [Continues, Unshifted]
  refine forall_congr' fun again => ?_
  have fewer := shrinks (left_of_restarts again).1
  obtain ⟨-, blockcnt, addrs⟩ := mid.restarted sdma again fewer
  have bound : (remaining irq).toNat ≤ n.toNat :=
    BitVec.le_def.mp (BitVec.le_trans fewer (BitVec.le_trans mid.reported mid.counted))
  have count : (s.interrupt irq t).1.blockcnt.toNat + transferred n irq = n.toNat := by
    rw [blockcnt, transferred]
    omega
  have addr : (phys + (n - remaining irq) * 512).toNat =
      (phys.toNat + 512 * transferred n irq) % 2 ^ 32 := by
    rw [transferred, BitVec.toNat_add, BitVec.toNat_mul, BitVec.toNat_sub_of_le (BitVec.le_def.mpr bound)]
    show (_ + (_ * 512) % _) % _ = _
    rw [Nat.add_mod_mod, Nat.mul_comm]
  have start : (phys + s.dsOffset).toNat = (phys.toNat + s.dsOffset.toNat) % 2 ^ 32 :=
    BitVec.toNat_add ..
  have small := phys.isLt
  rw [and_iff_left count, addrs, start]
  apply Iff.intro
  · intro given
    rcases given with ⟨value, same, exact⟩
    rw [← (List.cons.inj same).1, addr] at exact
    have offset : s.dmaOffset = 0xc0000000 ∨ s.dmaOffset = 0 := by
      rw [dmaOffset]
      rcases initPlatform_cases s.type s.socRev with board | board
      · exact Or.inl (by rw [board]; rfl)
      · exact Or.inr (by rw [board]; rfl)
    rcases offset with shifted | zero
    · have value : s.dsOffset.toNat = 0xc0000000 := by rw [dsOffset, shifted]; rfl
      rw [value] at exact
      omega
    · have value : s.dsOffset.toNat = 0 := by rw [dsOffset, zero]; rfl
      rw [value] at exact ⊢
      exact ⟨zero, by omega⟩
  · intro given
    rcases given with ⟨zero, fits⟩
    have value : s.dsOffset.toNat = 0 := by rw [dsOffset, zero]; rfl
    rw [value] at fits ⊢
    refine ⟨_, rfl, ?_⟩
    rw [addr]
    omega

end Step

/-- The interrupts of a transfer. -/
theorem Midway.run_iff {s : Sdhci} (sdma : s.dmaAdma2 = false) {phys n : U32} {irqs : List Irq} :
    ∀ {last : U32} {t : Cmd × Hw}, Midway phys n last t → Shrinking last irqs →
      (Runs.Along s.interrupt (s.Continues (phys + s.dsOffset) n) irqs t ↔
        Runs.Along s.interrupt (s.Unshifted (phys + s.dsOffset) n) irqs t) := by
  induction irqs with
  | nil => exact fun _ _ => Iff.rfl
  | cons irq irqs ih =>
    intro last t mid shrinking
    rw [Shrinking] at shrinking
    rw [Runs.along_cons, Runs.along_cons]
    by_cases boundary : atBoundary irq = true
    · rw [if_pos boundary] at shrinking
      refine and_congr (mid.continues_iff sdma fun _ => shrinking.1) (ih ?_ shrinking.2)
      by_cases again : restarts irq t.1 = true
      · exact (mid.restarted sdma again shrinking.1).1
      · exact mid.stays sdma (by simpa using again) shrinking.1
    · rw [if_neg boundary] at shrinking
      have other : restarts irq t.1 = false := by
        rw [restarts, Bool.eq_false_iff.mpr boundary, Bool.and_false]
      refine and_congr (mid.continues_iff sdma fun here => absurd here boundary) ?_
      exact ih (mid.stays sdma other (BitVec.le_refl _)) shrinking

/-- The submission of a data command of 512-byte blocks, or of one block. -/
theorem Midway.submitted (sdma : s.dmaAdma2 = false) {c : Cmd}
    (data : c.flags.hasData = true) (noTuning : c.isTuning = false)
    (size : c.blocksize = 512 ∨ c.blockcnt = 1) {h : Hw} {t : Cmd × Hw}
    (submitted : s.cmdSubmit (c, h) = .ok () t) :
    dsAddrs t.2.log = (t.1.dataPhys + s.dsOffset) :: dsAddrs h.log ∧
      Midway t.1.dataPhys c.blockcnt c.blockcnt t := by
  apply And.intro ((wp_of_ok submitted).mp (s.cmdSubmit_addrs sdma data noTuning h))
  obtain ⟨-, ⟨same, blockcnt⟩, -, -⟩ := (wp_of_ok submitted).mp (s.cmdSubmit_spec c h)
  constructor
  · simp only [Cmd.isTuning, same.cmd]
    exact noTuning
  · rw [blockcnt]
    exact BitVec.le_refl _
  · rw [blockcnt]
    exact BitVec.le_refl _
  · rw [same.blocksize]
    exact size
  · rw [blockcnt, BitVec.sub_self, BitVec.zero_mul, BitVec.add_zero]

/-- After the submission of a data command of 512-byte blocks, or of one block, the restarts continue
where the transfer stopped if and only if none of them needs the offset. -/
theorem restarts_continue_iff (sdma : s.dmaAdma2 = false) {c : Cmd}
    (data : c.flags.hasData = true) (noTuning : c.isTuning = false)
    (size : c.blocksize = 512 ∨ c.blockcnt = 1) {h : Hw} {t : Cmd × Hw}
    (submitted : s.cmdSubmit (c, h) = .ok () t) {irqs : List Irq}
    (shrinking : Shrinking c.blockcnt irqs) :
    ∃ start, dsAddrs t.2.log = start :: dsAddrs h.log ∧
      (Runs.Along s.interrupt (s.Continues start c.blockcnt) irqs t ↔
        Runs.Along s.interrupt (s.Unshifted start c.blockcnt) irqs t) := by
  obtain ⟨addrs, mid⟩ := Midway.submitted s sdma data noTuning size submitted
  exact ⟨_, addrs, mid.run_iff sdma shrinking⟩

/-! ## A board with an offset -/

/-- A board with a DMA offset, set up without ADMA2. -/
def oldSdma : Sdhci := { oldBoard with
  dmaAdma2 := false
  autoCmd23Enabled := false
  auto := fun enabled => enabled }

/-- CMD18 for two blocks, the second behind a boundary. -/
def readTwo : Cmd :=
  { status := .readyForSubmit, cmd := Mmc.cmd18ReadMultipleBlock, blockcnt := 2, blocksize := 512,
    dataPhys := 0x7fe00, flags := { inout := true, inoutRead := true, hasData := true },
    blocks := [⟨0x7fe00, 0x7fe00, 2⟩] }

/-- The command completes and the transfer stops at the boundary, with one block left. -/
def stopped : Irq :=
  { regs := fun
      | .intStatus => 9
      | .blkAtt => 0x10000
      | _ => 0 }

theorem readTwo_submitted {s : Sdhci} (accepted : s.accepts readTwo = true) :
    ∃ t, s.cmdSubmit (readTwo, {}) = .ok () t ∧ restarts stopped t.1 = true := by
  have sent := s.hwDrv.submit_ok readTwo {} rfl accepted
  change wp s.cmdSubmit _ _ (readTwo, {}) at sent
  cases result : s.cmdSubmit (readTwo, {}) with
  | ok _ t =>
    obtain ⟨same, status, -⟩ := (wp_of_ok result).mp sent
    have tuning : t.1.isTuning = false := by
      simp only [Cmd.isTuning, same.cmd]
      rfl
    have next : nextStatus 9 t.1 = .progressData := by
      rw [nextStatus, if_neg (by decide), if_neg (by decide), if_neg (by decide), if_pos (by decide)]
      exact if_pos same.hasData
    have enters := (entersData_iff stopped tuning).mpr (Or.inr ⟨status, next⟩)
    refine ⟨t, rfl, ?_⟩
    rw [restarts, enters, Bool.true_and]
    decide
  | error e t =>
    unfold wp at sent
    rw [result] at sent
    exact sent.elim

/-- Without an offset, the second block follows the first one. -/
theorem unchained_continues :
    ∃ t, unchained.cmdSubmit (readTwo, {}) = .ok () t ∧ dsAddrs t.2.log = [0x7fe00] ∧
      restarts stopped t.1 = true ∧
      Runs.Along unchained.interrupt (unchained.Continues 0x7fe00 2) [stopped] t := by
  obtain ⟨t, submitted, again⟩ := readTwo_submitted (s := unchained) (by rfl)
  have shrinking : Shrinking 2 [stopped] := shrinking_one (by decide)
  obtain ⟨start, addrs, iff⟩ :=
    unchained.restarts_continue_iff rfl rfl rfl (Or.inl rfl) submitted shrinking
  have first : dsAddrs (after unchained.cmdSubmit (readTwo, {})).2.log = [0x7fe00] := by decide +kernel
  unfold after at first
  rw [submitted] at first
  obtain ⟨same, -⟩ := List.cons.inj (addrs.symm.trans first)
  rw [same] at iff
  exact ⟨t, submitted, first, again, iff.mpr ⟨fun _ => ⟨rfl, by decide⟩, trivial⟩⟩

/-- The second block goes to an address without the offset. -/
theorem oldSdma_leaves_transfer :
    ∃ t start, oldSdma.cmdSubmit (readTwo, {}) = .ok () t ∧ dsAddrs t.2.log = [start] ∧
      Shrinking 2 [stopped] ∧ ¬ Runs.Along oldSdma.interrupt (oldSdma.Continues start 2) [stopped] t := by
  obtain ⟨t, submitted, again⟩ := readTwo_submitted (s := oldSdma) (by rfl)
  obtain ⟨addrs, mid⟩ := Midway.submitted oldSdma rfl rfl rfl (Or.inl rfl) submitted
  have shrinking : Shrinking 2 [stopped] := shrinking_one (by decide)
  refine ⟨t, _, submitted, addrs, shrinking, fun continues => ?_⟩
  have unshifted := (mid.run_iff rfl shrinking).mp continues
  rw [Runs.along_cons] at unshifted
  have zero := (unshifted.1 again).1
  exact absurd zero (by decide)

end Sdhci

end Emmc
