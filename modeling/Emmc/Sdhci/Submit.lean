import Emmc.Sdhci.Adma2

/-!
# Submitting a command to an SDHCI controller

`cmdSubmit` collects the transfer type and mixer control words while it sets up DMA, tuning and the
block count, and writes the command register last.

* `accepts` is the condition under which a command passes all checks.
* `cmdSubmit_spec`: the submission succeeds exactly for a command that is ready and accepted; then
  memory and descriptors are those of `prepared`. A refused command does not reach the command
  register.

Waiting for the data line to become inactive is left out.
-/

namespace Emmc

open Throwing

namespace Sdhci

variable (s : Sdhci)

/-! ## The code -/

/-- Command index, expected response and command type. -/
def transferType (c : Cmd) : U32 :=
  let xt := RegCmdXfrTyp.cmdinx.set 0 c.cmdIdx
  let xt := RegCmdXfrTyp.cccen.put xt (c.cmd &&& Mmc.rspCheckCrc ≠ 0)
  let xt := RegCmdXfrTyp.cicen.put xt (c.cmd &&& Mmc.rspHasOpcode ≠ 0)
  let xt := RegCmdXfrTyp.rsptyp.set xt
    (if c.cmd &&& Mmc.rsp136Bits ≠ 0 then RegCmdXfrTyp.respLength136
      else if c.cmd &&& Mmc.rspCheckBusy ≠ 0 then RegCmdXfrTyp.respLength48CheckBusy
      else if c.cmd &&& Mmc.rspPresent ≠ 0 then RegCmdXfrTyp.respLength48
      else RegCmdXfrTyp.respNo)
  if c.isCmd12 then RegCmdXfrTyp.cmdtyp.set xt RegCmdXfrTyp.cmd52Abort else xt

/-- `adma2_set_descs_memory_region`, for internal commands. -/
def adma2SetDescsMemoryRegion (phys : U64) (size : U32) : HwM Unit := do
  let _ ← s.adma2SetDescsMemRegion 0 phys size true

/-- The ADMA2 part of `cmd_submit_prepare_dma`. -/
def prepareAdma2 : EStateM RuntimeError (Cmd × Hw) U64 := do
  let c := (← get).1
  (if c.blocks ≠ [] then
    s.adma2SetDescs
  else
    onHw (s.adma2SetDescsMemoryRegion (c.dataPhys.setWidth 64) c.blocksize))
  return s.adma2DescPhys

/-- Size of an SDMA transfer, in 32 bits. -/
def blkSize (c : Cmd) : U32 := c.blocksize * c.blockcnt

/-- The first block has to go through the bounce buffer in SDMA mode. -/
def bouncesSdma (c : Cmd) (b : Block) : Bool :=
  s.providedBounceBuffer && !s.dmaAccessible b.dmaAddr ((blkSize c).setWidth 64)

/-- Find the DMA address of the first block. -/
def bounceSdma (c : Cmd) (b : Block) : EStateM RuntimeError (Cmd × Hw) Unit :=
  if s.bouncesSdma c b then do
    (if c.flags.inoutRead then
      modify fun t => ({ t.1 with flags := { t.1.flags with readFromBounceBuffer := true } }, t.2)
    else
      modify fun t => (t.1, t.2.setMem
        (memcpy s.translate t.2.mem s.bbVirt b.virtAddr (blkSize c).toNat)))
    modify fun t => ({ t.1 with dataPhys := s.bbPhys.setWidth 32 }, t.2)
  else
    modify fun t => ({ t.1 with dataPhys := b.dmaAddr.setWidth 32 }, t.2)

/-- The SDMA part of `cmd_submit_prepare_dma`. -/
def prepareSdma : EStateM RuntimeError (Cmd × Hw) U64 := do
  let c := (← get).1
  match c.blocks with
  | [] => return c.dataPhys.setWidth 64
  | b :: _ =>
    s.bounceSdma c b
    return (← get).1.dataPhys.setWidth 64

/-- The fields that tell how data is transferred, in the order DMA, block count, multiple blocks,
direction. -/
def dataFields (dmaen bcen msbsel dtdsel : Bitfield 32) (c : Cmd) : List (Bitfield 32 × Bool) :=
  [(dmaen, true), (bcen, 1 < c.blockcnt), (msbsel, 1 < c.blockcnt),
    (dtdsel, c.cmd &&& Mmc.dirRead ≠ 0)]

/-- Transfer type and mixer control of a command with data. -/
def dataWords (c : Cmd) (xt mc : U32) : U32 × U32 :=
  let autoCmd12 := s.autoCmd12 && c.flags.inoutCmd12
  if s.type = .usdhc then
    (RegCmdXfrTyp.dpsel.put xt true,
      assign (dataFields RegMixCtrl.dmaen RegMixCtrl.bcen RegMixCtrl.msbsel RegMixCtrl.dtdsel c)
        (RegMixCtrl.ac12en.put mc autoCmd12))
  else
    (assign ((RegCmdXfrTyp.dpsel, true) :: dataFields RegCmdXfrTyp.dmaen RegCmdXfrTyp.bcen
        RegCmdXfrTyp.msbsel RegCmdXfrTyp.dtdsel c) (RegCmdXfrTyp.ac12en.put xt autoCmd12), mc)

/-- Transfer type and mixer control of a command without data. -/
def noDataWords (xt mc : U32) : U32 × U32 :=
  if s.type = .usdhc then
    (xt, assign [(RegMixCtrl.ac12en, false), (RegMixCtrl.ac23en, false)] mc)
  else
    (assign [(RegCmdXfrTyp.ac12en, false), (RegCmdXfrTyp.ac23en, false)] xt, mc)

def cmdSubmitPrepareDma (xt mc : U32) : EStateM RuntimeError (Cmd × Hw) (U64 × U32 × U32) := do
  let c := (← get).1
  if c.flags.hasData then
    onHw (if s.type = .usdhc then do
      let wml ← readReg .wtmkLvl
      writeReg .wtmkLvl (RegWtmkLvl.levels wml RegWtmkLvl.wmlDma)
    else return ())
    let dmaAddr ← (if s.dmaAdma2 then s.prepareAdma2 else s.prepareSdma)
    return (dmaAddr, s.dataWords c xt mc)
  else
    return (~~~0, s.noDataWords xt mc)

/-- Transfer type and mixer control of a tuning command. -/
def cmdSubmitHandleTuning (c : Cmd) (xt mc : U32) : HwM (U32 × U32) := do
  let blksize : U32 := if c.cmd = Mmc.cmd19SendTuningBlock then 64 else 128
  (if s.type = .usdhc then
    writeReg .blkAtt (RegBlkAtt.blksize.set (RegBlkAtt.blkcnt.set 0 1) blksize)
  else
    writeReg .blkSize (RegBlkSize.sdmaBufBndry.set
      (RegBlkSize.blkcnt.set (RegBlkSize.blksize.set 0 blksize) 0) 7))
  let wml ← readReg .wtmkLvl
  writeReg .wtmkLvl (RegWtmkLvl.levels wml blksize)
  match s.type with
  | .usdhc =>
    let es ← readReg .autocmd12ErrStatus
    writeReg .autocmd12ErrStatus (assign [(RegAutocmd12ErrStatus.smpClkSel, false),
      (RegAutocmd12ErrStatus.executeTuning, true)] es)
    return (RegCmdXfrTyp.dpsel.put xt true,
      assign [(RegMixCtrl.dmaen, false), (RegMixCtrl.bcen, false), (RegMixCtrl.ac12en, false),
        (RegMixCtrl.dtdsel, true), (RegMixCtrl.msbsel, false), (RegMixCtrl.ac23en, false),
        (RegMixCtrl.autoTuneEn, true), (RegMixCtrl.fbclkSel, true)] mc)
  | .bcm2711 =>
    let hc2 ← readReg .hostCtrl2
    writeReg .hostCtrl2 (assign [(RegHostCtrl2.tuned, false), (RegHostCtrl2.tuneon, true)] hc2)
    return (assign [(RegCmdXfrTyp.dtdsel, true), (RegCmdXfrTyp.dpsel, true)] xt, mc)
  | .plain =>
    return (assign [(RegCmdXfrTyp.ac12en, false), (RegCmdXfrTyp.dtdsel, true),
      (RegCmdXfrTyp.dpsel, true)] xt, mc)

/-- Set the DMA address and, in ADMA2 mode, the block count of an automatic CMD23. -/
def cmdSubmitSetDmaAddr (c : Cmd) (dmaAddr : U64) (xt mc : U32) : HwM (U32 × U32) := do
  if s.dmaAdma2 then
    (if s.type ≠ .plain ∧ c.flags.autoCmd23 then writeReg .cmdArg2 c.blockcnt else return ())
    writeReg .admaSysAddrLo (dmaAddr.setWidth 32)
    writeReg .admaSysAddrHi ((dmaAddr >>> 32).setWidth 32)
    match s.type with
    | .usdhc => return (xt, RegMixCtrl.ac23en.put mc c.flags.autoCmd23)
    | .bcm2711 => return (RegCmdXfrTyp.ac23en.put xt c.flags.autoCmd23, mc)
    | .plain => return (xt, mc)
  else
    writeReg .dsAddr (dmaAddr.setWidth 32)
    return (xt, mc)

/-- Write block count and block size to a register, unless they do not fit its fields. -/
def setBlockSizeAndCount (r : Regs) (blkcnt blksize : Bitfield 32) (rest : U32 → U32) (c : Cmd) :
    HwM Unit :=
  let raw := blkcnt.set 0 c.blockcnt
  if blkcnt.get raw ≠ c.blockcnt then
    throw ⟨-L4.einval, "Number of data blocks to transfer"⟩
  else
    let raw := blksize.set raw c.blocksize
    if blksize.get raw ≠ c.blocksize then
      throw ⟨-L4.einval, "Size of data blocks to transfer"⟩
    else
      writeReg r (rest raw)

def cmdSubmitSetBlockSizeAndCount (c : Cmd) : HwM Unit :=
  if s.type = .usdhc then
    setBlockSizeAndCount .blkAtt RegBlkAtt.blkcnt RegBlkAtt.blksize id c
  else
    setBlockSizeAndCount .blkSize RegBlkSize.blkcnt RegBlkSize.blksize
      (RegBlkSize.sdmaBufBndry.set · RegBlkSize.bndry512k) c

/-- The registers written before the command register. -/
def enableCommand (c : Cmd) (mc : U32) : HwM Unit := do
  writeReg .cmdArg c.arg
  writeReg .intStatus (~~~0)
  writeReg .intStatusEn (RegIntStatusEn.enableInts s.autoCmd12 c)
  writeReg .intSignalEn (RegIntSignalEn.enableInts s.autoCmd12 c)
  (if s.type = .usdhc then writeReg .mixCtrl mc else return ())

def sendCommand (c : Cmd) (xt mc : U32) : HwM Unit := do
  s.enableCommand c mc
  writeReg .cmdXfrTyp xt

/-- The part of `cmd_submit` behind the preparation. -/
def cmdSubmitSend (c : Cmd) (dmaAddr : U64) (xt mc : U32) : HwM Unit :=
  if dmaAddr ≠ ~~~0 then do
    let (xt, mc) ← s.cmdSubmitSetDmaAddr c (dmaAddr + s.dmaOffset) xt mc
    s.cmdSubmitSetBlockSizeAndCount c
    s.sendCommand c xt mc
  else s.sendCommand c xt mc

def cmdSubmit : Action Hw Unit := do
  if (← get).1.status ≠ .readyForSubmit then
    throw ⟨-L4.einval, "Invalid command submit status"⟩
  let mc ← onHw (if s.type = .usdhc then readReg .mixCtrl else return 0)
  let (dmaAddr, xt, mc) ← s.cmdSubmitPrepareDma (transferType (← get).1) mc
  let c := (← get).1
  let (xt, mc) ← onHw (if c.isTuning then s.cmdSubmitHandleTuning c xt mc else return (xt, mc))
  onHw (s.cmdSubmitSend c dmaAddr xt mc)
  modify fun t => ({ t.1 with status := .progressCmd }, t.2)

/-! ## Acceptance -/

/-- The descriptors of an internal command. -/
def internalEntries (c : Cmd) : List Entry :=
  marked true (pieces ⟨c.dataPhys.setWidth 64, c.blocksize.toNat⟩)

/-- The descriptors can be written. -/
def acceptsDescs (c : Cmd) : Bool :=
  if c.blocks ≠ [] then s.acceptsBlocks c.blocks else s.holds 0 (internalEntries c)

/-- Block count and block size fit their register. -/
def acceptsCount (c : Cmd) : Bool :=
  c.blockcnt.toNat < 2 ^ 16 && c.blocksize.toNat < (if s.type = .usdhc then 2 ^ 13 else 2 ^ 12)

/-- The command can be submitted as far as its size and its addresses go. -/
def accepts (c : Cmd) : Bool :=
  !c.flags.hasData || (!s.dmaAdma2 || s.acceptsDescs c) && s.acceptsCount c

/-- The command and the controller when the descriptors are written. -/
def adma2Prepared (c : Cmd) (h : Hw) : Cmd × Hw :=
  if c.blocks ≠ [] then
    (s.markBounced c, s.place 0 (s.plan c.blocks 0)
      (h.setMem (s.copyIn c.flags.inoutRead c.blocks 0 h.mem)))
  else (c, s.place 0 (internalEntries c) h)

/-- The command and the controller when the first block is ready for SDMA. -/
def sdmaPrepared (c : Cmd) (h : Hw) : Cmd × Hw :=
  match c.blocks with
  | [] => (c, h)
  | b :: _ => after (s.bounceSdma c b) (c, h)

/-- The command and the controller when DMA is set up. -/
def prepared (c : Cmd) (h : Hw) : Cmd × Hw :=
  if c.flags.hasData then
    if s.dmaAdma2 then s.adma2Prepared c h else s.sdmaPrepared c h
  else (c, h)

/-! ## Setting up registers -/

/-- Tuning is set up by registers only. -/
theorem quiet_handleTuning (c : Cmd) (xt mc : U32) : Quiet (s.cmdSubmitHandleTuning c xt mc) := by
  rw [cmdSubmitHandleTuning]
  refine Relates.bind (Relates.ite (quiet_writeReg (by decide) _) (quiet_writeReg (by decide) _))
    fun _ => ?_
  refine Relates.bind (quiet_readReg _) fun wml => ?_
  refine Relates.bind (quiet_writeReg (by decide) _) fun _ => ?_
  split
  · refine Relates.bind (quiet_readReg _) fun es => ?_
    exact Relates.bind (quiet_writeReg (by decide) _) fun _ => .pure _
  · refine Relates.bind (quiet_readReg _) fun hc2 => ?_
    exact Relates.bind (quiet_writeReg (by decide) _) fun _ => .pure _
  · exact .pure _

/-- So is the address of the data. -/
theorem quiet_setDmaAddr (c : Cmd) (dmaAddr : U64) (xt mc : U32) :
    Quiet (s.cmdSubmitSetDmaAddr c dmaAddr xt mc) := by
  rw [cmdSubmitSetDmaAddr]
  refine Relates.ite ?_ ?_
  · refine Relates.bind (Relates.ite (quiet_writeReg (by decide) _) (.pure _)) fun _ => ?_
    refine Relates.bind (quiet_writeReg (by decide) _) fun _ => ?_
    refine Relates.bind (quiet_writeReg (by decide) _) fun _ => ?_
    split
    · exact .pure _
    · exact .pure _
    · exact .pure _
  · exact Relates.bind (quiet_writeReg (by decide) _) fun _ => .pure _

/-- Size and count must fit their fields; if one does not, nothing is written. -/
theorem setBlockSizeAndCount_spec {r : Regs} (setup : r ≠ .cmdXfrTyp) {blkcnt blksize : Bitfield 32}
    (rest : U32 → U32) (c : Cmd) (h : Hw) :
    wp (setBlockSizeAndCount r blkcnt blksize rest c)
      (fun _ h' => (decide (c.blockcnt.toNat < 2 ^ blkcnt.width) &&
        decide (c.blocksize.toNat < 2 ^ blksize.width)) = true ∧ h.Setup h')
      (fun e h' => (decide (c.blockcnt.toNat < 2 ^ blkcnt.width) &&
        decide (c.blocksize.toNat < 2 ^ blksize.width)) = false ∧
          (IsCapacity e → 2 ^ blkcnt.width ≤ c.blockcnt.toNat) ∧ h' = h) h := by
  rw [setBlockSizeAndCount, wp_ite]
  refine ⟨fun misfit => ?_, fun count => ?_⟩
  · have exceeds : ¬ c.blockcnt.toNat < 2 ^ blkcnt.width := fun fits =>
      misfit ((Bitfield.get_set_eq_iff blkcnt 0 c.blockcnt).mpr fits)
    rw [decide_eq_false exceeds]
    exact ⟨rfl, fun _ => Nat.le_of_not_lt exceeds, rfl⟩
  rw [decide_eq_true ((Bitfield.get_set_eq_iff blkcnt 0 c.blockcnt).mp (not_not.mp count)),
    Bool.true_and, wp_ite]
  have size := Bitfield.get_set_eq_iff blksize (blkcnt.set 0 c.blockcnt) c.blocksize
  refine ⟨fun misfit => ?_, fun fits => ?_⟩
  · rw [decide_eq_false (fun fits => misfit (size.mpr fits))]
    exact ⟨rfl, fun capacity => absurd capacity (not_capacity_of_head rfl), rfl⟩
  · rw [decide_eq_true (size.mp (not_not.mp fits))]
    exact (quiet_writeReg setup _ h).mono (fun _ _ setup' => ⟨rfl, setup'⟩)
      (fun _ _ absurd => absurd.elim)

/-- A capacity error of this part means that the count does not fit 16 bits. -/
theorem cmdSubmitSetBlockSizeAndCount_spec (c : Cmd) (h : Hw) :
    wp (s.cmdSubmitSetBlockSizeAndCount c)
      (fun _ h' => s.acceptsCount c = true ∧ h.Setup h')
      (fun e h' => s.acceptsCount c = false ∧ (IsCapacity e → 2 ^ 16 ≤ c.blockcnt.toNat) ∧ h' = h)
      h := by
  rw [cmdSubmitSetBlockSizeAndCount, acceptsCount, wp_ite]
  refine ⟨fun usdhc => ?_, fun other => ?_⟩
  · rw [if_pos usdhc]
    exact setBlockSizeAndCount_spec (by decide) _ c h
  · rw [if_neg other]
    exact setBlockSizeAndCount_spec (by decide) _ c h

/-- The command register is written last. -/
theorem sendCommand_spec (c : Cmd) (xt mc : U32) (h : Hw) :
    wp (s.sendCommand c xt mc) (fun _ h' => ∃ h₂, h.Setup h₂ ∧ h' = h₂.setReg .cmdXfrTyp xt)
      (fun _ _ => False) h := by
  have quiet : Quiet (s.enableCommand c mc) := by
    rw [enableCommand]
    refine Relates.bind (quiet_writeReg (by decide) _) fun _ => ?_
    refine Relates.bind (quiet_writeReg (by decide) _) fun _ => ?_
    refine Relates.bind (quiet_writeReg (by decide) _) fun _ => ?_
    refine Relates.bind (quiet_writeReg (by decide) _) fun _ => ?_
    exact Relates.ite (quiet_writeReg (by decide) _) (.pure _)
  rw [sendCommand, wp_bind]
  exact (quiet h).mono (fun _ h₂ setup => ⟨h₂, setup, rfl⟩) (fun _ _ absurd => absurd)

/-! ## DMA -/

/-- The descriptors are accepted or not by what the command says alone. A refusal may have written some of
them, but it has issued nothing. -/
theorem prepareAdma2_spec (c : Cmd) (h : Hw) :
    wp s.prepareAdma2
      (fun addr t => s.acceptsDescs c = true ∧ addr = s.adma2DescPhys ∧ t = s.adma2Prepared c h)
      (fun e t => s.acceptsDescs c = false ∧
        (IsCapacity e → c.blocks ≠ [] → s.Overflows c.blocks 0 0) ∧ t.1 = c ∧ h.Unissued t.2)
      (c, h) := by
  rw [prepareAdma2, wp_bind, wp_get, wp_bind, wp_ite, acceptsDescs, adma2Prepared]
  refine ⟨fun some => ?_, fun none => ?_⟩
  · rw [if_pos some, if_pos some]
    refine (s.adma2SetDescs_spec c h).mono ?_
      (fun _ _ refused => ⟨refused.1, fun capacity _ => refused.2.1 capacity, refused.2.2⟩)
    intro _ t post
    rcases post with ⟨fits, cmd, hw⟩
    exact ⟨fits, rfl, Prod.ext cmd hw⟩
  · rw [if_neg none, if_neg none, onHw, wp_zoom, adma2SetDescsMemoryRegion, wp_bind]
    refine (s.memRegionLoop_spec true (Nat.le_refl _) (Nat.zero_le _) h).mono ?_ ?_
    · intro _ _ post
      rcases post with ⟨fits, rfl, rfl⟩
      exact ⟨fits, rfl, rfl⟩
    · intro _ _ post
      rcases post with ⟨misfit, -, unissued⟩
      exact ⟨misfit, fun _ some => absurd some none, rfl, unissued⟩

/-- `c'` is the command `c` except for its DMA position and its bounce buffer mark. -/
def Kept (c c' : Cmd) : Prop :=
  c.SameRequest c' ∧ c'.status = c.status ∧ c'.blockcnt = c.blockcnt

theorem kept_refl (c : Cmd) : Kept c c := ⟨Cmd.SameRequest.refl c, rfl, rfl⟩

/-- The mark that data are bounced belongs to the request. -/
theorem kept_markBounced (c : Cmd) : Kept c (s.markBounced c) := by
  rw [markBounced]
  split
  · exact ⟨by constructor <;> rfl, rfl, rfl⟩
  · exact kept_refl c

/-- The block is copied to the bounce buffer if it has to be. -/
theorem bounceSdma_spec (c : Cmd) (b : Block) (h : Hw) :
    wp (s.bounceSdma c b) (fun _ t => Kept c t.1 ∧ h.Unissued t.2) (fun _ _ => False) (c, h) := by
  rw [bounceSdma, wp_ite, wp_bind, wp_ite]
  refine ⟨fun _ => ⟨fun _ => ?_, fun _ => ?_⟩, fun _ => ?_⟩
  · exact ⟨⟨by constructor <;> rfl, rfl, rfl⟩, Hw.Unissued.refl h⟩
  · exact ⟨⟨by constructor <;> rfl, rfl, rfl⟩, Hw.Unissued.refl h⟩
  · exact ⟨⟨by constructor <;> rfl, rfl, rfl⟩, Hw.Unissued.refl h⟩

/-- Without descriptors nothing can be refused here. -/
theorem prepareSdma_spec (c : Cmd) (h : Hw) :
    wp s.prepareSdma
      (fun addr t => addr = t.1.dataPhys.setWidth 64 ∧ t = s.sdmaPrepared c h)
      (fun _ _ => False) (c, h) := by
  rw [prepareSdma, wp_bind, wp_get, sdmaPrepared]
  cases blocks : c.blocks with
  | nil =>
    simp only [blocks]
    exact ⟨rfl, rfl⟩
  | cons b rest =>
    simp only [blocks, wp_bind]
    have returns := (s.bounceSdma_spec c b h).mono (fun _ _ _ => trivial) (fun _ _ absurd => absurd)
    exact (wp_after returns).mono (fun _ _ same => ⟨rfl, same⟩) (fun _ _ absurd => absurd)

/-- DMA setup keeps the request. -/
theorem kept_prepared (c : Cmd) (h : Hw) : Kept c (s.prepared c h).1 ∧ h.Unissued (s.prepared c h).2 := by
  rw [prepared, adma2Prepared, sdmaPrepared]
  split
  · split
    · split
      · exact ⟨s.kept_markBounced c, s.unissued_place ..⟩
      · exact ⟨kept_refl c, s.unissued_place ..⟩
    · split
      · exact ⟨kept_refl c, Hw.Unissued.refl h⟩
      · exact after_of_wp ((s.bounceSdma_spec c _ h).mono (fun _ _ post => post)
          (fun _ _ absurd => absurd.elim))
  · exact ⟨kept_refl c, Hw.Unissued.refl h⟩

/-- The command fails the checks that are made while DMA is set up. -/
def refusesDma (c : Cmd) : Bool := c.flags.hasData && (s.dmaAdma2 && !s.acceptsDescs c)

/-- A DMA address within 32 bits is not the mark for no address. -/
theorem ne_noAddr {addr : U64} (small : addr.toNat < 2 ^ 32) : addr ≠ ~~~0 := by
  rintro rfl
  exact absurd small (by decide)

/-- For both kinds of DMA: an address that is not all ones, or a refusal. -/
theorem prepareDma_spec (c : Cmd) (h : Hw) (data : c.flags.hasData = true) :
    wp (if s.dmaAdma2 then s.prepareAdma2 else s.prepareSdma)
      (fun addr t => s.refusesDma c = false ∧ addr ≠ ~~~0 ∧ t = s.prepared c h)
      (fun e t => s.refusesDma c = true ∧
        (IsCapacity e → c.blocks ≠ [] → s.Overflows c.blocks 0 0) ∧ t.1 = c ∧ h.Unissued t.2)
      (c, h) := by
  rw [refusesDma, prepared, data, Bool.true_and, if_pos rfl]
  cases adma2 : s.dmaAdma2 with
  | true =>
    rw [if_pos rfl, if_pos rfl, Bool.true_and]
    refine (s.prepareAdma2_spec c h).mono ?_ ?_
    · intro _ _ post
      rcases post with ⟨fits, rfl, rfl⟩
      have limit := BitVec.le_def.mp s.adma2DescPhys_le
      exact ⟨by rw [fits]; rfl, ne_noAddr (Nat.lt_of_le_of_lt limit s.dmaLimit_lt), rfl⟩
    · intro _ _ post
      rcases post with ⟨misfit, same⟩
      exact ⟨by rw [misfit]; rfl, same⟩
  | false =>
    rw [if_neg Bool.false_ne_true, if_neg Bool.false_ne_true, Bool.false_and]
    apply (s.prepareSdma_spec c h).imp_ok
    intro _ _ post
    rcases post with ⟨rfl, rfl⟩
    refine ⟨rfl, ne_noAddr ?_, rfl⟩
    rw [BitVec.toNat_setWidth]
    exact Nat.lt_of_le_of_lt (Nat.mod_le _ _) (BitVec.isLt _)

/-- A command without data has no address, which the code writes as all ones. -/
theorem cmdSubmitPrepareDma_spec (c : Cmd) (h : Hw) (xt mc : U32) :
    wp (s.cmdSubmitPrepareDma xt mc)
      (fun r t => s.refusesDma c = false ∧ (r.1 ≠ ~~~0 ↔ c.flags.hasData = true) ∧
        ∃ h₀, h.Setup h₀ ∧ t = s.prepared c h₀)
      (fun e t => s.refusesDma c = true ∧
        (IsCapacity e → c.blocks ≠ [] → s.Overflows c.blocks 0 0) ∧ t.1 = c ∧ h.Unissued t.2)
      (c, h) := by
  rw [cmdSubmitPrepareDma, wp_bind, wp_get, wp_ite]
  refine ⟨fun data => ?_, fun noData => ?_⟩
  · have quiet : Quiet (if s.type = .usdhc then do
        let wml ← readReg .wtmkLvl
        writeReg .wtmkLvl (RegWtmkLvl.levels wml RegWtmkLvl.wmlDma)
      else return ()) :=
      Relates.ite (Relates.bind (quiet_readReg _) fun _ => quiet_writeReg (by decide) _) (.pure _)
    rw [wp_bind]
    apply (quiet.onHw c h).imp_ok
    rintro _ ⟨c', h₀⟩ ⟨rfl, setup⟩
    rw [wp_bind]
    refine (s.prepareDma_spec c' h₀ data).mono ?_ ?_
    · intro addr t post
      rcases post with ⟨passes, present, rfl⟩
      exact ⟨passes, iff_of_true present data, h₀, setup, rfl⟩
    · intro _ t post
      rcases post with ⟨refused, exceeds, same, unissued⟩
      exact ⟨refused, exceeds, same, setup.unissued.trans unissued⟩
  · have passes : s.refusesDma c = false := by
      rw [refusesDma, Bool.eq_false_iff.mpr noData, Bool.false_and]
    have same : (c, h) = s.prepared c h := by rw [prepared, if_neg noData]
    have absent : (~~~0 : U64) ≠ ~~~0 ↔ c.flags.hasData = true :=
      iff_of_false (fun differ => differ rfl) noData
    exact ⟨passes, absent, h, Hw.Setup.refl h, same⟩

/-! ## Submission -/

/-- What a submission leaves behind. -/
structure Submitted (c : Cmd) (h : Hw) (t : Cmd × Hw) : Prop where
  kept : c.SameRequest t.1 ∧ t.1.blockcnt = c.blockcnt
  status : t.1.status = .progressCmd
  hw : ∃ h₀ h₂ xt, h.Setup h₀ ∧ (s.prepared c h₀).2.Setup h₂ ∧ t.2 = h₂.setReg .cmdXfrTyp xt

/-- The register that issues the command is written last, and only behind a count that was accepted. -/
theorem cmdSubmitSend_spec (c : Cmd) (dmaAddr : U64) (xt mc : U32) (h : Hw) :
    wp (s.cmdSubmitSend c dmaAddr xt mc)
      (fun _ h' => (dmaAddr ≠ ~~~0 → s.acceptsCount c = true) ∧
        ∃ h₂ xt, h.Setup h₂ ∧ h' = h₂.setReg .cmdXfrTyp xt)
      (fun e h' => (dmaAddr ≠ ~~~0 ∧ s.acceptsCount c = false) ∧
        (IsCapacity e → 2 ^ 16 ≤ c.blockcnt.toNat) ∧ h.Unissued h') h := by
  rw [cmdSubmitSend, wp_ite]
  refine ⟨fun present => ?_, fun absent => ?_⟩
  · rw [wp_bind]
    apply (s.quiet_setDmaAddr c _ xt mc h).imp_ok
    rintro ⟨xt, mc⟩ h₁ setup₁
    rw [wp_bind]
    refine (s.cmdSubmitSetBlockSizeAndCount_spec c h₁).mono ?_ ?_
    · intro _ h₂ post
      rcases post with ⟨fits, setup₂⟩
      apply (s.sendCommand_spec c xt mc h₂).imp_ok
      intro _ h₄ post
      rcases post with ⟨h₃, setup₃, rfl⟩
      exact ⟨fun _ => fits, h₃, xt, (setup₁.trans setup₂).trans setup₃, rfl⟩
    · intro _ _ post
      rcases post with ⟨misfit, exceeds, rfl⟩
      exact ⟨⟨present, misfit⟩, exceeds, setup₁.unissued⟩
  · apply (s.sendCommand_spec c xt mc h).imp_ok
    intro _ _ post
    rcases post with ⟨h₂, setup, rfl⟩
    exact ⟨fun present => absurd present absent, h₂, xt, setup, rfl⟩

/-- A command is accepted when neither of the two parts refuses it. -/
theorem accepts_iff (c : Cmd) : s.accepts c = true ↔
    s.refusesDma c = false ∧ (c.flags.hasData = true → s.acceptsCount c = true) := by
  rw [accepts, refusesDma]
  cases c.flags.hasData <;> cases s.dmaAdma2 <;> simp

/-- What a refused submission leaves behind. -/
structure Refused (c : Cmd) (h : Hw) (e : RuntimeError) (t : Cmd × Hw) : Prop where
  kept : Kept c t.1
  unissued : h.Unissued t.2
  capacity : IsCapacity e → c.blocks ≠ [] →
    s.Overflows c.blocks 0 0 ∨ 2 ^ 16 ≤ c.blockcnt.toNat

/-- A submission succeeds exactly for a command that is ready and accepted. -/
theorem cmdSubmit_spec (c : Cmd) (h : Hw) :
    wp s.cmdSubmit
      (fun _ t => (c.status = .readyForSubmit ∧ s.accepts c = true) ∧ s.Submitted c h t)
      (fun e t => ¬(c.status = .readyForSubmit ∧ s.accepts c = true) ∧ s.Refused c h e t)
      (c, h) := by
  rw [cmdSubmit, wp_bind, wp_get, wp_ite]
  refine ⟨fun notReady => ⟨fun both => notReady both.1, kept_refl c, Hw.Unissued.refl h,
    fun capacity => absurd capacity (not_capacity_of_head rfl)⟩, fun ready => ?_⟩
  have ready' : c.status = .readyForSubmit := not_not.mp ready
  have mixer : Quiet (if s.type = .usdhc then readReg .mixCtrl else return 0) :=
    Relates.ite (quiet_readReg _) (.pure _)
  rw [wp_bind]
  apply (mixer.onHw c h).imp_ok
  rintro mc ⟨c', h₁⟩ ⟨rfl, setup₁⟩
  rw [wp_bind, wp_get, wp_bind]
  refine (s.cmdSubmitPrepareDma_spec c' h₁ _ mc).mono ?_ ?_
  · rintro ⟨addr, xt, mc⟩ _ ⟨passes, present, h₀, setup₀, rfl⟩
    have tuning : Quiet (if (s.prepared c' h₀).1.isTuning then
        s.cmdSubmitHandleTuning (s.prepared c' h₀).1 xt mc else return (xt, mc)) :=
      Relates.ite (s.quiet_handleTuning _ xt mc) (.pure _)
    obtain ⟨kept, unissued⟩ := s.kept_prepared c' h₀
    rw [wp_bind, wp_get, wp_bind]
    apply (tuning.onHw _ _).imp_ok
    rintro ⟨xt, mc⟩ ⟨c₂, h₂⟩ ⟨rfl, setup₂⟩
    have count : s.acceptsCount (s.prepared c' h₀).1 = s.acceptsCount c' := by
      rw [acceptsCount, acceptsCount, kept.2.2, kept.1.blocksize]
    rw [wp_bind, onHw, wp_zoom]
    refine (s.cmdSubmitSend_spec _ addr xt mc h₂).mono ?_ ?_
    · intro _ _ post
      rcases post with ⟨fits, h₃, xt, setup₃, rfl⟩
      rw [count, present] at fits
      refine ⟨⟨ready', (s.accepts_iff c').mpr ⟨passes, fits⟩⟩, ⟨?_, kept.2.2⟩, rfl, ?_⟩
      · exact kept.1.trans (by constructor <;> rfl)
      · exact ⟨h₀, h₃, xt, setup₁.trans setup₀, setup₂.trans setup₃, rfl⟩
    · intro e h₃ post
      rcases post with ⟨⟨data, misfit⟩, exceeds, unissued₃⟩
      rw [count] at misfit
      refine ⟨fun both => ?_, kept, ?_, fun capacity _ => Or.inr (kept.2.2 ▸ exceeds capacity)⟩
      · rw [((s.accepts_iff c').mp both.2).2 (present.mp data)] at misfit
        exact Bool.false_ne_true misfit.symm
      · exact (setup₁.trans setup₀).unissued.trans
          (unissued.trans (setup₂.unissued.trans unissued₃))
  · intro e t post
    rcases post with ⟨refused, exceeds, same, unissued⟩
    refine ⟨fun both => ?_, by rw [same]; exact kept_refl c', setup₁.unissued.trans unissued,
      fun capacity some => Or.inl (exceeds capacity some)⟩
    rw [((s.accepts_iff c').mp both.2).1] at refused
    exact Bool.false_ne_true refused

end Sdhci

end Emmc
