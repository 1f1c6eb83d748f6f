import Emmc.Device

/-!
# From one command of a request to the next

The pure part of the device: which command a request starts with (`firstCommand`) and what follows
a command that ended (`inoutWork`).

* `Resumed c c'`: `c'` is the next command of the request in `c`, ready for submission. The request
  itself (its owner, its direction) is untouched. `Proceeds c c'`: and it is not CMD12.
* `firstCommand_proceeds`, `inoutWork_resumed`: more work means a next command; it is CMD12 exactly
  when the ended command was marked for it (`inoutWork_of_cmd12`, `inoutWork_proceeds`).
* `inoutWork_done`: otherwise the callback gets the outcome of the last command that counts.
-/

namespace Emmc

variable {H Irq : Type}

namespace Device

variable (drv : HwDrv H Irq) (info : DeviceInfo)

/-- The slot after the request was entered into it. -/
def requested (req : Request) (c : Cmd) : Cmd :=
  ({ c with cbIo := req.cb } : Cmd).initInout req.sector req.blocks req.cb req.read

/-- The command a request starts with. -/
def firstCommand (req : Request) (c : Cmd) : Cmd :=
  if drv.dmaAdma2 then setBlockCountAdma2 drv info (requested req c)
  else (transferBlockSdma info (requested req c)).1

/-! ## Counting sectors -/

/-- Sectors of each block. -/
def blockSizes (blocks : List Block) : List Nat := blocks.map fun b => b.numSectors.toNat

/-- The sum of all sectors is taken in 32 bits. -/
theorem totalSectors_toNat_mod (blocks : List Block) :
    (totalSectors blocks).toNat = (blockSizes blocks).sum % 2 ^ 32 := by
  have general : ∀ (blocks : List Block) (acc : U32),
      (blocks.foldl (fun n b => n + b.numSectors) acc).toNat =
        (acc.toNat + (blockSizes blocks).sum) % 2 ^ 32 := by
    intro blocks
    induction blocks with
    | nil =>
      intro acc
      rw [List.foldl_nil]
      exact (Nat.mod_eq_of_lt acc.isLt).symm
    | cons b rest ih =>
      intro acc
      have sum : (blockSizes (b :: rest)).sum = b.numSectors.toNat + (blockSizes rest).sum := rfl
      rw [List.foldl_cons, ih, BitVec.toNat_add, sum, Nat.mod_add_mod, Nat.add_assoc]
  rw [totalSectors, general]
  show (0 + _) % _ = _
  rw [Nat.zero_add]

/-- The sector count of a block list fits if the sum does. -/
theorem totalSectors_toNat {blocks : List Block} (total : (blockSizes blocks).sum < 2 ^ 16) :
    (totalSectors blocks).toNat = (blockSizes blocks).sum := by
  rw [totalSectors_toNat_mod]
  exact Nat.mod_eq_of_lt (by omega)

/-- CMD23 announces the count as long as it fits its 16 bits. -/
theorem announce_toNat {n : U32} (small : n.toNat < 2 ^ 16) :
    (Mmc.ArgCmd23SetBlockCount.blocks.set 0 n).toNat = n.toNat := by
  have field : Mmc.ArgCmd23SetBlockCount.blocks.set 0 n =
      n &&& Mmc.ArgCmd23SetBlockCount.blocks.lowMask := by
    simp [Bitfield.set, Mmc.ArgCmd23SetBlockCount.blocks]
  rw [field, Bitfield.toNat_and_lowMask]
  exact Nat.mod_eq_of_lt small

/-! ## The branches -/

section Branches

variable {drv info}

/-- ADMA2 without a CMD23 of its own. -/
theorem setBlockCountAdma2_direct (direct : (!info.hasCmd23 || drv.autoCmd23) = true) (c : Cmd) :
    setBlockCountAdma2 drv info c =
      markCmd12 info
        (c.reinitInoutData (multipleBlock c) (sectorArg info c) (totalSectors c.blocks) 512
          (info.hasCmd23 && drv.autoCmd23)) :=
  if_pos direct

/-- ADMA2 with CMD23 ahead of the data command. -/
theorem setBlockCountAdma2_announce (announce : ¬(!info.hasCmd23 || drv.autoCmd23) = true)
    (c : Cmd) :
    setBlockCountAdma2 drv info c =
      ({ c with blockcnt := totalSectors c.blocks } : Cmd).reinitInoutNodata
        Mmc.cmd23SetBlockCount (Mmc.ArgCmd23SetBlockCount.blocks.set 0 (totalSectors c.blocks)) :=
  if_neg announce

/-- With descriptors, a transfer that has ended is the whole request. -/
theorem handleIrqInoutAdma2_done {c : Cmd} (transfer : c.cmd ≠ Mmc.cmd23SetBlockCount) :
    handleIrqInoutAdma2 info c = (c, .workDone L4.eok (bytesTransferred c)) :=
  if_pos transfer

/-- Behind CMD23 comes the transfer that it has announced. -/
theorem handleIrqInoutAdma2_next {c : Cmd} (cmd23 : c.cmd = Mmc.cmd23SetBlockCount) :
    handleIrqInoutAdma2 info c =
      (markCmd12 info
        (c.reinitInoutData (multipleBlock c) (sectorArg info c) c.blockcnt 512 false),
        .moreWork) :=
  if_neg (not_not.mpr cmd23)

/-- No block left means that the request is done. -/
theorem transferBlockSdma_done {c : Cmd} (done : c.blocks = []) :
    transferBlockSdma info c = (c, .workDone L4.eok (bytesTransferred c)) := by
  simp only [transferBlockSdma, done]

variable {c : Cmd} {b : Block} {rest : List Block} (list : c.blocks = b :: rest)
include list

/-- Without descriptors, a block with one sector is transferred at once. -/
theorem transferBlockSdma_single (single : b.numSectors = 1) :
    transferBlockSdma info c =
      (c.reinitInoutData
        (if c.flags.inoutRead then Mmc.cmd17ReadSingleBlock else Mmc.cmd24WriteBlock)
        (sectorArg info c) 1 512 false, .moreWork) := by
  simp only [transferBlockSdma, list, if_pos single]

/-- A longer one is announced first, if the card knows CMD23 and was not told yet. -/
theorem transferBlockSdma_announce (multiple : b.numSectors ≠ 1)
    (announce : info.hasCmd23 = true ∧ c.cmd ≠ Mmc.cmd23SetBlockCount) :
    transferBlockSdma info c =
      (c.reinitInoutNodata Mmc.cmd23SetBlockCount
        (Mmc.ArgCmd23SetBlockCount.blocks.set 0 b.numSectors), .moreWork) := by
  simp only [transferBlockSdma, list, if_neg multiple, if_pos announce]

/-- And then transferred. -/
theorem transferBlockSdma_multiple (multiple : b.numSectors ≠ 1)
    (direct : ¬(info.hasCmd23 = true ∧ c.cmd ≠ Mmc.cmd23SetBlockCount)) :
    transferBlockSdma info c =
      (markCmd12 info
        (c.reinitInoutData (multipleBlock c) (sectorArg info c) b.numSectors 512 false),
        .moreWork) := by
  simp only [transferBlockSdma, list, if_neg multiple, if_neg direct]

end Branches

/-! ## The next command -/

/-- `c'` is the next command of the request in `c`. -/
structure Resumed (c c' : Cmd) : Prop where
  owner : c.SameOwner c'
  ready : c'.status = .readyForSubmit
  word : c'.cmd ∈ Mmc.inoutCommands

/-- `c'` is the next command of the request in `c`, and not CMD12. -/
structure Proceeds (c c' : Cmd) : Prop extends Resumed c c' where
  transfer : c'.cmd ∈ Mmc.transferCommands

/-- CMD18 and CMD25 are transfers. -/
theorem multipleBlock_mem (c : Cmd) : multipleBlock c ∈ Mmc.transferCommands := by
  unfold multipleBlock
  split <;> simp [Mmc.transferCommands]

theorem multipleBlock_ne_cmd23 (c : Cmd) : multipleBlock c ≠ Mmc.cmd23SetBlockCount := by
  unfold multipleBlock
  split <;> decide

theorem cmd23_mem : Mmc.cmd23SetBlockCount ∈ Mmc.transferCommands := by
  simp [Mmc.transferCommands]

theorem mem_inoutCommands {word : U32} (member : word ∈ Mmc.transferCommands) :
    word ∈ Mmc.inoutCommands :=
  List.mem_append_left _ member

/-- A transfer is no CMD12. -/
theorem isCmd12_of_transfer {c : Cmd} (member : c.cmd ∈ Mmc.transferCommands) :
    c.isCmd12 = false := by
  simp only [Mmc.transferCommands, List.mem_cons, List.not_mem_nil, or_false] at member
  rcases member with word | word | word | word | word <;> rw [Cmd.isCmd12, word] <;> rfl

/-- A command without data for the same request. -/
theorem proceeds_nodata (c : Cmd) {word : U32} (arg : U32)
    (member : word ∈ Mmc.transferCommands) : Proceeds c (c.reinitInoutNodata word arg) :=
  ⟨⟨⟨rfl, rfl, rfl, rfl⟩, rfl, mem_inoutCommands member⟩, member⟩

/-- A command with data for the same request. -/
theorem proceeds_data (c : Cmd) {word : U32} (arg blockcnt blocksize : U32) (autoCmd23 : Bool)
    (member : word ∈ Mmc.transferCommands) :
    Proceeds c (c.reinitInoutData word arg blockcnt blocksize autoCmd23) :=
  ⟨⟨⟨rfl, rfl, rfl, rfl⟩, rfl, mem_inoutCommands member⟩, member⟩

/-- The mark for CMD12 is all that is changed. -/
@[simp] theorem markCmd12_fields (c : Cmd) :
    (markCmd12 info c).cmd = c.cmd ∧ (markCmd12 info c).blocks = c.blocks ∧
    (markCmd12 info c).blockcnt = c.blockcnt ∧ (markCmd12 info c).blocksize = c.blocksize ∧
    (markCmd12 info c).status = c.status ∧
    (markCmd12 info c).flags.hasData = c.flags.hasData := by
  unfold markCmd12
  split <;> exact ⟨rfl, rfl, rfl, rfl, rfl, rfl⟩

/-- Marking a command for CMD12 only sets that mark. -/
theorem Proceeds.markCmd12 {c c' : Cmd} (proceeds : Proceeds c c') :
    Proceeds c (markCmd12 info c') := by
  unfold Device.markCmd12
  split
  · exact proceeds
  · exact ⟨⟨⟨proceeds.owner.enqueued, proceeds.owner.inout, proceeds.owner.inoutRead,
      proceeds.owner.cbIo⟩, proceeds.ready, proceeds.word⟩, proceeds.transfer⟩

/-- Either CMD23 or the transfer itself goes on with the request. -/
theorem setBlockCountAdma2_proceeds (c : Cmd) : Proceeds c (setBlockCountAdma2 drv info c) := by
  by_cases direct : (!info.hasCmd23 || drv.autoCmd23) = true
  · rw [setBlockCountAdma2_direct direct]
    exact (proceeds_data c _ _ _ _ (multipleBlock_mem c)).markCmd12 info
  · rw [setBlockCountAdma2_announce direct]
    exact ⟨⟨⟨rfl, rfl, rfl, rfl⟩, rfl, mem_inoutCommands cmd23_mem⟩, cmd23_mem⟩

/-- There is more work only behind CMD23. -/
theorem handleIrqInoutAdma2_proceeds {c : Cmd}
    (more : (handleIrqInoutAdma2 info c).2 = .moreWork) :
    Proceeds c (handleIrqInoutAdma2 info c).1 := by
  by_cases cmd23 : c.cmd = Mmc.cmd23SetBlockCount
  · rw [handleIrqInoutAdma2_next cmd23]
    exact (proceeds_data c _ _ _ _ (multipleBlock_mem c)).markCmd12 info
  · rw [handleIrqInoutAdma2_done cmd23] at more
    cases more

/-- A block that is left means more work. -/
theorem transferBlockSdma_proceeds {c : Cmd} (left : c.blocks ≠ []) :
    (transferBlockSdma info c).2 = .moreWork ∧ Proceeds c (transferBlockSdma info c).1 := by
  cases list : c.blocks with
  | nil => exact absurd list left
  | cons b rest =>
    by_cases single : b.numSectors = 1
    · rw [transferBlockSdma_single list single]
      refine ⟨rfl, proceeds_data c _ _ _ _ ?_⟩
      split <;> simp [Mmc.transferCommands]
    · by_cases announce : info.hasCmd23 = true ∧ c.cmd ≠ Mmc.cmd23SetBlockCount
      · rw [transferBlockSdma_announce list single announce]
        exact ⟨rfl, proceeds_nodata c _ cmd23_mem⟩
      · rw [transferBlockSdma_multiple list single announce]
        exact ⟨rfl, (proceeds_data c _ _ _ _ (multipleBlock_mem c)).markCmd12 info⟩

theorem nextBlock_owner (c : Cmd) : c.SameOwner (nextBlock c) := by
  unfold nextBlock
  cases c.blocks with
  | nil => exact Cmd.SameOwner.refl c
  | cons b rest => exact ⟨rfl, rfl, rfl, rfl⟩

/-- The command an ended one continues with in SDMA mode. -/
def advanced (c : Cmd) : Cmd :=
  if c.status = .success ∧ c.cmd ≠ Mmc.cmd23SetBlockCount then nextBlock c else c

/-- Going to the next block stays within the request. -/
theorem advanced_owner (c : Cmd) : c.SameOwner (advanced c) := by
  unfold advanced
  split
  · exact nextBlock_owner c
  · exact Cmd.SameOwner.refl c

/-- The handler goes to the next block with sectors and transfers it. -/
theorem handleIrqInoutSdma_eq (c : Cmd) :
    handleIrqInoutSdma info c = transferBlockSdma info (advanced c) := by
  unfold handleIrqInoutSdma advanced
  split <;> rfl

theorem handleIrqInoutSdma_proceeds {c : Cmd}
    (more : (handleIrqInoutSdma info c).2 = .moreWork) :
    Proceeds c (handleIrqInoutSdma info c).1 := by
  rw [handleIrqInoutSdma_eq] at more ⊢
  have left : (advanced c).blocks ≠ [] := by
    intro done
    rw [transferBlockSdma_done done] at more
    cases more
  have proceeds := (transferBlockSdma_proceeds info left).2
  exact ⟨⟨(advanced_owner c).trans proceeds.owner, proceeds.ready, proceeds.word⟩,
    proceeds.transfer⟩

/-- The first command belongs to the request that was entered. -/
theorem firstCommand_proceeds (req : Request) (c : Cmd) :
    Proceeds (requested req c) (firstCommand drv info req c) := by
  unfold firstCommand
  split
  · exact setBlockCountAdma2_proceeds drv info _
  · exact (transferBlockSdma_proceeds info (c := requested req c) (List.cons_ne_nil _ _)).2

/-- It is ready to be submitted, and its slot stays as it is. -/
theorem firstCommand_resumed (req : Request) (c : Cmd) :
    (firstCommand drv info req c).status = .readyForSubmit ∧
    (firstCommand drv info req c).cmd ∈ Mmc.inoutCommands ∧
    (firstCommand drv info req c).flags.enqueued = c.flags.enqueued ∧
    (firstCommand drv info req c).flags.inout = true ∧
    (firstCommand drv info req c).flags.inoutRead = req.read ∧
    (firstCommand drv info req c).cbIo = req.cb := by
  have resumed := (firstCommand_proceeds drv info req c).toResumed
  exact ⟨resumed.ready, resumed.word, resumed.owner.enqueued, resumed.owner.inout,
    resumed.owner.inoutRead, resumed.owner.cbIo⟩

/-! ## After a command ended -/

/-- The status that counts for the request: CMD12 hands back that of the command before it. -/
def restored (c : Cmd) : Cmd := if c.isCmd12 then { c with status := c.statusCmd12 } else c

theorem restored_owner (c : Cmd) : c.SameOwner (restored c) := by
  unfold restored
  split <;> exact ⟨rfl, rfl, rfl, rfl⟩

/-- CMD12 is sent behind the command. -/
def needsCmd12 (c : Cmd) : Prop := c.flags.inoutCmd12 = true ∧ drv.autoCmd12 = false

instance (c : Cmd) : Decidable (needsCmd12 drv c) := inferInstanceAs (Decidable (_ ∧ _))

/-- CMD12, remembering the status of the transfer. -/
def stopCommand (c : Cmd) : Cmd :=
  ({ c with flags := { c.flags with inoutCmd12 := false }, statusCmd12 := c.status } : Cmd
    ).reinitInoutNodata
      (if c.flags.inoutRead then Mmc.cmd12StopTransmissionRd else Mmc.cmd12StopTransmissionWr) 0

/-- CMD12 comes before anything else. -/
theorem inoutWork_of_cmd12 {c : Cmd} (stop : needsCmd12 drv c) :
    inoutWork drv info c = (stopCommand c, .moreWork) := by
  have both : c.flags.inoutCmd12 = true ∧ (!drv.autoCmd12) = true := by
    simpa [needsCmd12] using stop
  unfold inoutWork
  rw [if_pos both]
  rfl

/-- Without CMD12, an error is answered, and a success goes on. -/
theorem inoutWork_of_not_cmd12 {c : Cmd} (noStop : ¬ needsCmd12 drv c) :
    inoutWork drv info c =
      if (restored c).error then
        (restored c, .workDone (-L4.eio) (bytesTransferred (restored c)))
      else if drv.dmaAdma2 then handleIrqInoutAdma2 info (restored c)
      else handleIrqInoutSdma info (restored c) := by
  have notBoth : ¬(c.flags.inoutCmd12 = true ∧ (!drv.autoCmd12) = true) := by
    simpa [needsCmd12] using noStop
  unfold inoutWork
  rw [if_neg notBoth]
  rfl

/-- Only the status of CMD12 is exchanged for the one that was saved. -/
theorem restored_eq {c : Cmd} (member : c.cmd ∈ Mmc.transferCommands) : restored c = c := by
  rw [restored, if_neg (by rw [isCmd12_of_transfer member]; decide)]

theorem not_needsCmd12 {c : Cmd} (unmarked : c.flags.inoutCmd12 = false) :
    ¬ needsCmd12 drv c :=
  fun stop => absurd (unmarked.symm.trans stop.1) (by decide)

/-- Behind a CMD23 that succeeded, the request stays with its block. -/
theorem inoutWork_of_announced {c : Cmd} (success : c.status = .success)
    (word : c.cmd = Mmc.cmd23SetBlockCount) (unmarked : c.flags.inoutCmd12 = false) :
    inoutWork drv info c =
      if drv.dmaAdma2 then handleIrqInoutAdma2 info c else transferBlockSdma info c := by
  have same : restored c = c := by
    apply restored_eq
    rw [word]
    exact cmd23_mem
  have fine : ¬ c.error = true := by simp [Cmd.error, success, Status.toInt]
  have stays : advanced c = c := if_neg fun both => both.2 word
  rw [inoutWork_of_not_cmd12 drv info (not_needsCmd12 drv unmarked), same, if_neg fine,
    handleIrqInoutSdma_eq, stays]

theorem stopCommand_isCmd12 (c : Cmd) : (stopCommand c).isCmd12 = true := by
  cases read : c.flags.inoutRead <;>
    simp [stopCommand, Cmd.reinitInoutNodata, Cmd.isCmd12, read]

theorem stopCommand_resumed (c : Cmd) : Resumed c (stopCommand c) := by
  refine ⟨⟨rfl, rfl, rfl, rfl⟩, rfl, ?_⟩
  show (if c.flags.inoutRead then _ else _) ∈ Mmc.inoutCommands
  split <;> simp [Mmc.inoutCommands]

/-- Without CMD12, there is more work only behind a success. -/
theorem inoutWork_proceeds {c : Cmd} (noStop : ¬ needsCmd12 drv c)
    (more : (inoutWork drv info c).2 = .moreWork) :
    (restored c).error = false ∧ Proceeds c (inoutWork drv info c).1 := by
  rw [inoutWork_of_not_cmd12 drv info noStop] at more ⊢
  have back : ∀ {c' : Cmd}, Proceeds (restored c) c' → Proceeds c c' := by
    intro c' proceeds
    exact ⟨⟨(restored_owner c).trans proceeds.owner, proceeds.ready, proceeds.word⟩,
      proceeds.transfer⟩
  by_cases failed : (restored c).error = true
  · rw [if_pos failed] at more
    cases more
  rw [if_neg failed] at more ⊢
  refine ⟨by simpa using failed, back ?_⟩
  by_cases adma : drv.dmaAdma2 = true
  · rw [if_pos adma] at more ⊢
    exact handleIrqInoutAdma2_proceeds info more
  · rw [if_neg adma] at more ⊢
    exact handleIrqInoutSdma_proceeds info more

/-- Whatever comes next belongs to the same request, and is ready to be submitted. -/
theorem inoutWork_resumed {c : Cmd} (more : (inoutWork drv info c).2 = .moreWork) :
    Resumed c (inoutWork drv info c).1 := by
  by_cases stop : needsCmd12 drv c
  · rw [inoutWork_of_cmd12 drv info stop]
    exact stopCommand_resumed c
  · exact (inoutWork_proceeds drv info stop more).2.toResumed

/-- When the callback is due, it gets the outcome of the transfer, and the command is not waiting
for submission. -/
theorem inoutWork_done {c : Cmd} {code : Int} {size : U64}
    (done : (inoutWork drv info c).2 = .workDone code size) :
    ¬ needsCmd12 drv c ∧ c.SameOwner (inoutWork drv info c).1 ∧
    (inoutWork drv info c).1.status = (restored c).status ∧
    code = if (restored c).error then -L4.eio else L4.eok := by
  have noStop : ¬ needsCmd12 drv c := by
    intro stop
    rw [inoutWork_of_cmd12 drv info stop] at done
    cases done
  refine ⟨noStop, ?_⟩
  rw [inoutWork_of_not_cmd12 drv info noStop] at done ⊢
  by_cases failed : (restored c).error = true
  · rw [if_pos failed] at done ⊢
    cases done
    exact ⟨restored_owner c, rfl, (if_pos failed).symm⟩
  · rw [if_neg failed] at done ⊢
    rw [if_neg failed]
    split at done
    · rename_i adma
      rw [if_pos adma]
      unfold handleIrqInoutAdma2 at done ⊢
      split at done
      · rename_i transfer
        rw [if_pos transfer]
        cases done
        exact ⟨restored_owner c, rfl, rfl⟩
      · cases done
    · rename_i sdma
      rw [if_neg sdma]
      rw [handleIrqInoutSdma_eq] at done ⊢
      have empty : (advanced (restored c)).blocks = [] := by
        by_contra left
        rw [(transferBlockSdma_proceeds info left).1] at done
        cases done
      rw [transferBlockSdma_done empty] at done ⊢
      cases done
      refine ⟨(restored_owner c).trans (advanced_owner _), ?_, rfl⟩
      show (advanced (restored c)).status = _
      unfold advanced nextBlock
      split
      · split <;> rfl
      · rfl

end Device

end Emmc
