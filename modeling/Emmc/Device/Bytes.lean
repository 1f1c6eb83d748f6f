import Emmc.Device.Slots

/-!
# The size a callback reports

`sectors_done` is advanced where the SDMA mode goes to the next block. In ADMA2 mode all blocks are
moved at once and nobody advances it.

* `Counted`: in SDMA mode the sectors done and those of the blocks that are left add up to the
  request; in ADMA2 mode no sector counts as done.
* `inoutWork_counted`: going on with a request keeps the count, and a success reports it.
* `reported_run`: what every callback reports with a success, in every run.
-/

namespace Emmc

variable {H Irq : Type}

namespace Device

/-! ## Sums of sectors -/

theorem totalSectors_cons (b : Block) (rest : List Block) :
    totalSectors (b :: rest) = b.numSectors + totalSectors rest := by
  have size : (blockSizes (b :: rest)).sum = b.numSectors.toNat + (blockSizes rest).sum := rfl
  apply BitVec.eq_of_toNat_eq
  rw [BitVec.toNat_add, totalSectors_toNat_mod, totalSectors_toNat_mod, size]
  omega

/-- Skipping empty blocks does not change the sum. -/
theorem totalSectors_dropWhile (blocks : List Block) :
    totalSectors (blocks.dropWhile fun b => b.numSectors = 0) = totalSectors blocks := by
  induction blocks with
  | nil => rfl
  | cons b rest ih =>
    by_cases empty : b.numSectors = 0
    · rw [List.dropWhile_cons_of_pos (by simpa using empty), ih, totalSectors_cons, empty]
      exact (BitVec.zero_add _).symm
    · rw [List.dropWhile_cons_of_neg (by simpa using empty)]

/-! ## The count -/

/-- Neither the count nor the blocks that are left differ. -/
def SameCount (c c' : Cmd) : Prop := c'.sectorsDone = c.sectorsDone ∧ c'.blocks = c.blocks

theorem SameCount.refl (c : Cmd) : SameCount c c := ⟨rfl, rfl⟩

theorem SameCount.trans {c c' c'' : Cmd} (first : SameCount c c') (second : SameCount c' c'') :
    SameCount c c'' :=
  ⟨second.1.trans first.1, second.2.trans first.2⟩

variable (drv : HwDrv H Irq) (info : DeviceInfo)

theorem sameCount_markCmd12 (c : Cmd) : SameCount c (markCmd12 info c) := by
  unfold markCmd12
  split <;> exact ⟨rfl, rfl⟩

theorem sameCount_data (c : Cmd) (word arg blockcnt blocksize : U32) (autoCmd23 : Bool) :
    SameCount c (markCmd12 info (c.reinitInoutData word arg blockcnt blocksize autoCmd23)) := by
  have same : SameCount c (c.reinitInoutData word arg blockcnt blocksize autoCmd23) := ⟨rfl, rfl⟩
  exact same.trans (sameCount_markCmd12 info _)

theorem sameCount_setBlockCountAdma2 (c : Cmd) : SameCount c (setBlockCountAdma2 drv info c) := by
  by_cases direct : (!info.hasCmd23 || drv.autoCmd23) = true
  · rw [setBlockCountAdma2_direct direct]
    exact sameCount_data info c _ _ _ _ _
  · rw [setBlockCountAdma2_announce direct]
    exact ⟨rfl, rfl⟩

theorem sameCount_handleIrqInoutAdma2 (c : Cmd) :
    SameCount c (handleIrqInoutAdma2 info c).1 := by
  by_cases cmd23 : c.cmd = Mmc.cmd23SetBlockCount
  · rw [handleIrqInoutAdma2_next cmd23]
    exact sameCount_data info c _ _ _ _ _
  · rw [handleIrqInoutAdma2_done cmd23]
    exact SameCount.refl c

theorem sameCount_transferBlockSdma (c : Cmd) : SameCount c (transferBlockSdma info c).1 := by
  cases list : c.blocks with
  | nil =>
    rw [transferBlockSdma_done list]
    exact SameCount.refl c
  | cons b rest =>
    by_cases single : b.numSectors = 1
    · rw [transferBlockSdma_single list single]
      exact ⟨rfl, rfl⟩
    by_cases announce : info.hasCmd23 = true ∧ c.cmd ≠ Mmc.cmd23SetBlockCount
    · rw [transferBlockSdma_announce list single announce]
      exact ⟨rfl, rfl⟩
    · rw [transferBlockSdma_multiple list single announce]
      exact sameCount_data info c _ _ _ _ _

theorem sameCount_restored (c : Cmd) : SameCount c (restored c) := by
  unfold restored
  split <;> exact ⟨rfl, rfl⟩

/-- The sectors of `blocks` are accounted for. -/
def Counted (blocks : List Block) (c : Cmd) : Prop :=
  if drv.dmaAdma2 then c.sectorsDone = 0
  else c.sectorsDone + totalSectors c.blocks = totalSectors blocks

/-- What a success reports for `blocks`. -/
def reported (blocks : List Block) : U64 :=
  if drv.dmaAdma2 then 0
  else (totalSectors blocks).setWidth 64 * BitVec.ofNat 64 sectorSize

variable {drv info} {blocks : List Block}

theorem Counted.of_same {c c' : Cmd} (counted : Counted drv blocks c) (same : SameCount c c') :
    Counted drv blocks c' := by
  unfold Counted at counted ⊢
  rw [same.1, same.2]
  exact counted

theorem counted_firstCommand (req : Request) (c : Cmd) :
    Counted drv req.blocks (firstCommand drv info req c) := by
  have start : Counted drv req.blocks (requested req c) := by
    unfold Counted
    split
    · rfl
    · exact BitVec.zero_add _
  unfold firstCommand
  split
  · exact start.of_same (sameCount_setBlockCountAdma2 drv info _)
  · exact start.of_same (sameCount_transferBlockSdma info _)

/-- In SDMA mode a finished block moves from the blocks to the count. -/
theorem counted_nextBlock {c : Cmd} (sdma : drv.dmaAdma2 = false)
    (counted : Counted drv blocks c) : Counted drv blocks (nextBlock c) := by
  cases list : c.blocks with
  | nil =>
    have same : nextBlock c = c := by simp only [nextBlock, list]
    rw [same]
    exact counted
  | cons b rest =>
    simp only [Counted, sdma, Bool.false_eq_true, if_false, list, totalSectors_cons] at counted
    simp only [Counted, sdma, Bool.false_eq_true, if_false, nextBlock, list,
      totalSectors_dropWhile]
    rw [← counted, BitVec.add_assoc]

theorem counted_advanced {c : Cmd} (sdma : drv.dmaAdma2 = false)
    (counted : Counted drv blocks c) : Counted drv blocks (advanced c) := by
  unfold advanced
  split
  · exact counted_nextBlock sdma counted
  · exact counted

/-- Going on with a request keeps the count. -/
theorem inoutWork_counted {c : Cmd} (counted : Counted drv blocks c) :
    Counted drv blocks (inoutWork drv info c).1 := by
  by_cases stop : needsCmd12 drv c
  · rw [inoutWork_of_cmd12 drv info stop]
    exact counted.of_same ⟨rfl, rfl⟩
  have kept := counted.of_same (sameCount_restored c)
  rw [inoutWork_of_not_cmd12 drv info stop]
  split
  · exact kept
  split
  · exact kept.of_same (sameCount_handleIrqInoutAdma2 info _)
  · rename_i sdma
    rw [handleIrqInoutSdma_eq]
    exact (counted_advanced (by simpa using sdma) kept).of_same
      (sameCount_transferBlockSdma info _)

/-- A success reports the count, which is complete by then. -/
theorem inoutWork_reported {c : Cmd} {size : U64} (counted : Counted drv blocks c)
    (done : (inoutWork drv info c).2 = .workDone L4.eok size) : size = reported drv blocks := by
  obtain ⟨noStop, -, -, code⟩ := inoutWork_done drv info done
  have succeeded : ¬ (restored c).error = true := by
    intro failed
    rw [if_pos failed] at code
    exact absurd code (by decide)
  have kept := counted.of_same (sameCount_restored c)
  rw [inoutWork_of_not_cmd12 drv info noStop, if_neg succeeded] at done
  unfold reported
  split at done
  · rename_i adma
    rw [if_pos adma]
    have none : (restored c).sectorsDone = 0 := by
      simpa only [Counted, adma, if_true] using kept
    by_cases cmd23 : (restored c).cmd = Mmc.cmd23SetBlockCount
    · rw [handleIrqInoutAdma2_next cmd23] at done
      cases done
    · rw [handleIrqInoutAdma2_done cmd23] at done
      cases done
      rw [bytesTransferred, none]
      rfl
  · rename_i notAdma
    have sdma : drv.dmaAdma2 = false := by simpa using notAdma
    rw [if_neg notAdma]
    rw [handleIrqInoutSdma_eq] at done
    have empty : (advanced (restored c)).blocks = [] := by
      by_contra left
      rw [(transferBlockSdma_proceeds info left).1] at done
      cases done
    have all : (advanced (restored c)).sectorsDone = totalSectors blocks := by
      have sum := counted_advanced sdma kept
      simp only [Counted, sdma, Bool.false_eq_true, if_false, empty] at sum
      rw [← sum]
      exact (BitVec.add_zero _).symm
    rw [transferBlockSdma_done empty] at done
    cases done
    rw [bytesTransferred, all]

/-! ## Runs -/

variable (drv info) in
/-- The requests with callback `cb`, which all have the same blocks. -/
theorem countedRule (cb : Callback) (blocks : List Block) :
    InoutRule drv info (fun req => req.cb = some cb → req.blocks = blocks)
      (fun _ _ c => c.cbIo = some cb → Counted drv blocks c)
      (fun log => ∀ slot size, Event.callback slot cb L4.eok size ∈ log →
        size = reported drv blocks) where
  older := fun counted _ => counted
  driver := by
    intro slot log c c' counted same
    rw [same.cbIo]
    exact fun context => (counted context).of_same ⟨same.sectorsDone, same.blocks⟩
  entered := by
    intro slot log c req wanted context
    have owner := (firstCommand_resumed drv info req c).2.2.2.2.2
    rw [← wanted (owner.symm.trans context)]
    exact counted_firstCommand req c
  continued := by
    intro slot log c cb' counted ended context more
    rw [(inoutWork_resumed drv info more).owner.cbIo]
    exact fun context => inoutWork_counted (counted context)
  answered := by
    intro slot log c cb' code size counted ended context done all
    rw [(inoutWork_done drv info done).2.1.cbIo]
    refine ⟨fun slot' size' member => ?_, fun context => inoutWork_counted (counted context)⟩
    rcases List.mem_cons.mp member with same | older
    · cases same
      exact inoutWork_reported (counted context) done
    · exact all slot' size' older
  quiet := by
    intro event log quiet all slot size member
    rcases List.mem_cons.mp member with same | older
    · subst same
      cases quiet
    · exact all slot size older

/-- In every run, all requests with callback `cb` having the same blocks, each success reports the
same size. -/
theorem reported_run {ops : List (Op Irq)} {cb : Callback} {blocks : List Block}
    (named : ∀ op ∈ ops, ∀ req ∈ op.requests, req.cb = some cb → req.blocks = blocks) (h : H)
    {slot : Slot} {size : U64}
    (called : .callback slot cb L4.eok size ∈ (Runs.run (step drv info) ops (start h)).log) :
    size = reported drv blocks := by
  have empty : ∀ slot size, Event.callback slot cb L4.eok size ∈ ([] : List Event) →
      size = reported drv blocks := by
    intro slot size member
    cases member
  exact (inout_run (countedRule drv info cb blocks) named h empty).log slot size called

/-- The size that is reported is that of the request only where the sectors are counted and their
number fits, or where there are none. -/
theorem reported_eq_iff (blocks : List Block) :
    (reported drv blocks).toNat = sectorSize * (blockSizes blocks).sum ↔
      drv.dmaAdma2 = false ∧ (blockSizes blocks).sum < 2 ^ 32 ∨
        drv.dmaAdma2 = true ∧ (blockSizes blocks).sum = 0 := by
  have unit : sectorSize = 512 := rfl
  cases adma : drv.dmaAdma2 with
  | true =>
    have none : (reported drv blocks).toNat = 0 := by
      rw [reported, if_pos adma]
      rfl
    rw [none, unit]
    apply Iff.intro
    · intro equal
      exact Or.inr ⟨rfl, by omega⟩
    · intro given
      rcases given with ⟨sdma, -⟩ | ⟨-, empty⟩
      · cases sdma
      · rw [empty]
  | false =>
    have size : (reported drv blocks).toNat = (blockSizes blocks).sum % 2 ^ 32 * 512 := by
      rw [reported, if_neg (by rw [adma]; decide), BitVec.toNat_mul, BitVec.toNat_setWidth,
        totalSectors_toNat_mod, BitVec.toNat_ofNat, unit]
      omega
    rw [size, unit]
    apply Iff.intro
    · intro equal
      exact Or.inl ⟨rfl, by omega⟩
    · intro given
      rcases given with ⟨-, small⟩ | ⟨adma, -⟩
      · rw [Nat.mod_eq_of_lt small, Nat.mul_comm]
      · cases adma

end Device

end Emmc
