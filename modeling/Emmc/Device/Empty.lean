import Emmc.Device.Bytes
import Emmc.Device.Life

/-!
# Blocks without sectors

A request may hold blocks without sectors. The SDMA mode skips them where it goes to the next block,
but not where it starts; the ADMA2 mode only adds up the sectors.

* `issued` is the sequence of commands of a request, told how each of them ends; a `Life` issues such
  a sequence (`Life.issued`).
* `Request.compacted` is the request without its empty blocks. Going on commutes with leaving them
  out as long as the SDMA mode does not stand at one of them (`inoutWork_compact`).
* `sameCommands_iff`: when the empty blocks make no difference to the commands.
-/

namespace Emmc

variable {H Irq : Type}

/-- The block has sectors. -/
def Block.filled (b : Block) : Bool := b.numSectors ≠ 0

/-- The block list without empty blocks. -/
def compact (blocks : List Block) : List Block := blocks.filter Block.filled

/-- The request without its empty blocks, unless there are no others. -/
def Request.compacted (req : Request) : Request :=
  match compact req.blocks with
  | [] => req
  | b :: rest => { req with first := b, rest := rest }

namespace Device

/-! ## The sequence of commands -/

/-- What the driver and the card make of a command: all that `Cmd.SameRequest` leaves open. -/
structure Outcome where
  status : Status
  blockcnt : U32 := 0
  dataPhys : U32 := 0
  dataVirt : U64 := 0
  resp : Fin 4 → U32 := fun _ => 0
  readFromBounceBuffer : Bool := false
  appCmd : Bool := false
  expectedError : Bool := false
  hasR1Response : Bool := false
  statusAfterSwitch : Bool := false

/-- The command as it ended. -/
def ended (c : Cmd) (o : Outcome) : Cmd :=
  { c with
    status := o.status
    blockcnt := o.blockcnt
    dataPhys := o.dataPhys
    dataVirt := o.dataVirt
    resp := o.resp
    flags := { c.flags with
      readFromBounceBuffer := o.readFromBounceBuffer
      appCmd := o.appCmd
      expectedError := o.expectedError
      hasR1Response := o.hasR1Response
      statusAfterSwitch := o.statusAfterSwitch } }

/-- What the controller can make of a command is one of its outcomes. -/
theorem exists_ended {c c' : Cmd} (same : c.SameRequest c') : ∃ o, ended c o = c' := by
  rcases c with ⟨status, statusCmd12, cmd, arg, flags, blockcnt, blocksize, dataPhys, dataVirt, resp,
    sector, sectorsDone, blocks, cbIo⟩
  rcases c' with ⟨status', statusCmd12', cmd', arg', flags', blockcnt', blocksize', dataPhys',
    dataVirt', resp', sector', sectorsDone', blocks', cbIo'⟩
  rcases flags with ⟨bounced, app, auto, read, cmd12, inout, expected, r1, switch, data, queued⟩
  rcases flags' with ⟨bounced', app', auto', read', cmd12', inout', expected', r1', switch', data',
    queued'⟩
  rcases same with ⟨rfl, rfl, rfl, rfl, rfl, rfl, rfl, rfl, rfl, rfl, rfl, rfl, rfl, rfl⟩
  exact ⟨⟨status', blockcnt', dataPhys', dataVirt', resp', bounced', app', expected', r1', switch'⟩,
    rfl⟩

variable (drv : HwDrv H Irq) (info : DeviceInfo)

/-- The command that follows one that ended with the given outcome. -/
def following (c : Cmd) (o : Outcome) : Option Cmd :=
  match inoutWork drv info (ended c o) with
  | (c', .moreWork) => some c'
  | (_, .workDone _ _) => none

/-- What is issued from the command `c` on, one outcome after the other. -/
def issued : Cmd → List Outcome → List Cmd.Issue
  | c, [] => [c.issue]
  | c, o :: outcomes =>
    c.issue :: (following drv info c o).elim [] fun c' => issued c' outcomes

variable {drv info}

/-- The command behind one that has ended is the one that the code goes on with. -/
theorem following_eq {c c' : Cmd} {o : Outcome} (ends : ended c o = c')
    (more : (inoutWork drv info c').2 = .moreWork) :
    following drv info c o = some (inoutWork drv info c').1 := by
  rw [following, ends]
  cases work : inoutWork drv info c' with
  | mk next status =>
    rw [work] at more
    cases more
    rfl

/-- A request that has come to `c` has issued a part of the sequence of commands. -/
theorem Life.issued {req : Request} {past : List Cmd} {c : Cmd} (life : Life drv info req past c) :
    ∃ c₀ outcomes earlier, earlier.length = past.length ∧ ∀ later,
      Device.issued drv info (firstCommand drv info req c₀) (outcomes ++ later) =
        earlier ++ Device.issued drv info c later := by
  induction life with
  | first c => exact ⟨c, [], [], rfl, fun later => rfl⟩
  | @next past c c' life same ended more ih =>
    rcases ih with ⟨c₀, outcomes, earlier, length, sequence⟩
    obtain ⟨o, ends⟩ := exists_ended same
    refine ⟨c₀, outcomes ++ [o], earlier ++ [c.issue], ?_, fun later => ?_⟩
    · rw [List.length_append, length]
      rfl
    · rw [List.append_assoc, sequence, List.append_assoc, List.singleton_append, Device.issued,
        following_eq ends more]
      rfl

/-! ## Leaving out empty blocks -/

/-- A block with sectors stays. -/
theorem compact_cons_filled {b : Block} (some : b.filled = true) (rest : List Block) :
    compact (b :: rest) = b :: compact rest :=
  List.filter_cons_of_pos some

/-- A block without sectors is left out. -/
theorem compact_cons_empty {b : Block} (none : ¬ b.filled = true) (rest : List Block) :
    compact (b :: rest) = compact rest :=
  List.filter_cons_of_neg none

/-- Leaving out empty blocks leaves out no sectors. -/
theorem totalSectors_compact (blocks : List Block) :
    totalSectors (compact blocks) = totalSectors blocks := by
  induction blocks with
  | nil => rfl
  | cons b rest ih =>
    by_cases some : b.filled = true
    · rw [compact_cons_filled some, totalSectors_cons, totalSectors_cons, ih]
    · have none : b.numSectors = 0 := by simpa [Block.filled] using some
      rw [compact_cons_empty some, totalSectors_cons, ih, none]
      exact (BitVec.zero_add _).symm

/-- The loop that skips empty blocks stops at once where there is none. -/
theorem skip_filled {b : Block} (some : b.filled = true) (rest : List Block) :
    ((b :: rest).dropWhile fun b => b.numSectors = 0) = b :: rest :=
  List.dropWhile_cons_of_neg (by simpa [Block.filled] using some)

/-- And goes on where there is one. -/
theorem skip_empty {b : Block} (none : ¬ b.filled = true) (rest : List Block) :
    ((b :: rest).dropWhile fun b => b.numSectors = 0) =
      rest.dropWhile fun b => b.numSectors = 0 :=
  List.dropWhile_cons_of_pos (by simpa [Block.filled] using none)

/-- What the loop skips would have been left out anyway. -/
theorem compact_dropWhile (blocks : List Block) :
    compact (blocks.dropWhile fun b => b.numSectors = 0) = compact blocks := by
  induction blocks with
  | nil => rfl
  | cons b rest ih =>
    by_cases some : b.filled = true
    · rw [skip_filled some]
    · rw [skip_empty some, ih, compact_cons_empty some]

/-- In a list without empty blocks there is nothing to skip. -/
theorem dropWhile_compact (blocks : List Block) :
    ((compact blocks).dropWhile fun b => b.numSectors = 0) = compact blocks := by
  induction blocks with
  | nil => rfl
  | cons b rest ih =>
    by_cases some : b.filled = true
    · rw [compact_cons_filled some, skip_filled some]
    · rw [compact_cons_empty some, ih]

/-- Behind the loop, the first block has sectors. -/
theorem head_dropWhile (blocks : List Block) :
    (blocks.dropWhile fun b => b.numSectors = 0).head?.all Block.filled = true := by
  have stopped := List.head?_dropWhile_not (fun b : Block => decide (b.numSectors = 0)) blocks
  cases head : (blocks.dropWhile fun b => b.numSectors = 0).head? with
  | none => rfl
  | some b =>
    rw [head] at stopped
    simpa [Block.filled] using stopped

/-- A request with sectors has a first block without its empty ones. -/
theorem blocks_compacted {req : Request} (some : req.blocks.any Block.filled = true) :
    req.compacted.blocks = compact req.blocks := by
  obtain ⟨b, member, filled⟩ := List.any_eq_true.mp some
  unfold Request.compacted
  cases list : compact req.blocks with
  | nil =>
    have kept : b ∈ compact req.blocks := List.mem_filter.mpr ⟨member, filled⟩
    rw [list] at kept
    cases kept
  | cons b rest => rfl

/-- The command without empty blocks. -/
def compactCmd (c : Cmd) : Cmd := { c with blocks := compact c.blocks }

/-- The same for a command with what is left to do. -/
def compactWork (work : Cmd × WorkStatus) : Cmd × WorkStatus := (compactCmd work.1, work.2)

theorem compactWork_mk (c : Cmd) (status : WorkStatus) :
    compactWork (c, status) = (compactCmd c, status) := rfl

/-! ## Going on without empty blocks -/

variable (drv) in
/-- The SDMA mode does not stand at an empty block. -/
def Aligned (c : Cmd) : Prop := drv.dmaAdma2 = false → c.blocks.head?.all Block.filled = true

/-- Whether CMD12 is needed does not depend on the blocks. -/
theorem markCmd12_compact (c : Cmd) :
    markCmd12 info (compactCmd c) = compactCmd (markCmd12 info c) := by
  unfold markCmd12
  split <;> rfl

/-- With descriptors, the number of sectors is what counts. -/
theorem setBlockCountAdma2_compact (c : Cmd) :
    setBlockCountAdma2 drv info (compactCmd c) = compactCmd (setBlockCountAdma2 drv info c) := by
  have sum : totalSectors (compactCmd c).blocks = totalSectors c.blocks :=
    totalSectors_compact c.blocks
  by_cases direct : (!info.hasCmd23 || drv.autoCmd23) = true
  · rw [setBlockCountAdma2_direct direct, setBlockCountAdma2_direct direct, sum,
      ← markCmd12_compact]
    rfl
  · rw [setBlockCountAdma2_announce direct, setBlockCountAdma2_announce direct, sum]
    rfl

/-- So is the size that is reported. -/
theorem handleIrqInoutAdma2_compact (c : Cmd) :
    handleIrqInoutAdma2 info (compactCmd c) = compactWork (handleIrqInoutAdma2 info c) := by
  by_cases cmd23 : c.cmd = Mmc.cmd23SetBlockCount
  · have cmd23' : (compactCmd c).cmd = Mmc.cmd23SetBlockCount := cmd23
    rw [handleIrqInoutAdma2_next cmd23, handleIrqInoutAdma2_next cmd23', compactWork_mk,
      ← markCmd12_compact]
    rfl
  · have other : (compactCmd c).cmd ≠ Mmc.cmd23SetBlockCount := cmd23
    rw [handleIrqInoutAdma2_done cmd23, handleIrqInoutAdma2_done other]
    rfl

/-- Without descriptors the transfer is about the first block, which must have sectors. -/
theorem transferBlockSdma_compact {c : Cmd} (aligned : c.blocks.head?.all Block.filled = true) :
    transferBlockSdma info (compactCmd c) = compactWork (transferBlockSdma info c) := by
  cases list : c.blocks with
  | nil =>
    have list' : (compactCmd c).blocks = [] := congrArg compact list
    rw [transferBlockSdma_done list, transferBlockSdma_done list']
    rfl
  | cons b rest =>
    rw [list] at aligned
    have list' : (compactCmd c).blocks = b :: compact rest :=
      (congrArg compact list).trans (compact_cons_filled aligned rest)
    by_cases single : b.numSectors = 1
    · rw [transferBlockSdma_single list single, transferBlockSdma_single list' single]
      rfl
    by_cases announce : info.hasCmd23 = true ∧ c.cmd ≠ Mmc.cmd23SetBlockCount
    · have announce' : info.hasCmd23 = true ∧ (compactCmd c).cmd ≠ Mmc.cmd23SetBlockCount :=
        announce
      rw [transferBlockSdma_announce list single announce,
        transferBlockSdma_announce list' single announce']
      rfl
    · have direct : ¬(info.hasCmd23 = true ∧ (compactCmd c).cmd ≠ Mmc.cmd23SetBlockCount) :=
        announce
      rw [transferBlockSdma_multiple list single announce,
        transferBlockSdma_multiple list' single direct, compactWork_mk,
        ← markCmd12_compact]
      rfl

/-- Empty blocks behind the first one are skipped. -/
theorem nextBlock_compact {c : Cmd} (aligned : c.blocks.head?.all Block.filled = true) :
    nextBlock (compactCmd c) = compactCmd (nextBlock c) := by
  cases list : c.blocks with
  | nil => simp only [nextBlock, compactCmd, list, compact, List.filter_nil]
  | cons b rest =>
    rw [list] at aligned
    simp only [nextBlock, compactCmd, list, compact_cons_filled aligned rest, dropWhile_compact,
      compact_dropWhile]

/-- The next block is the next one with sectors, since the loop skips the others. -/
theorem advanced_compact {c : Cmd} (aligned : c.blocks.head?.all Block.filled = true) :
    advanced (compactCmd c) = compactCmd (advanced c) := by
  by_cases next : c.status = .success ∧ c.cmd ≠ Mmc.cmd23SetBlockCount
  · have next' : (compactCmd c).status = .success ∧
        (compactCmd c).cmd ≠ Mmc.cmd23SetBlockCount := next
    rw [advanced, advanced, if_pos next, if_pos next', nextBlock_compact aligned]
  · have stay : ¬((compactCmd c).status = .success ∧
        (compactCmd c).cmd ≠ Mmc.cmd23SetBlockCount) := next
    rw [advanced, advanced, if_neg next, if_neg stay]

/-- And so the first block has sectors again. -/
theorem aligned_advanced {c : Cmd} (aligned : c.blocks.head?.all Block.filled = true) :
    (advanced c).blocks.head?.all Block.filled = true := by
  unfold advanced
  split
  · cases list : c.blocks with
    | nil => simp only [nextBlock, list, List.head?_nil, Option.all_none]
    | cons b rest =>
      simp only [nextBlock, list]
      exact head_dropWhile rest
  · exact aligned

theorem restored_compact (c : Cmd) : restored (compactCmd c) = compactCmd (restored c) := by
  unfold restored
  by_cases stop : c.isCmd12 = true
  · have stop' : (compactCmd c).isCmd12 = true := stop
    rw [if_pos stop, if_pos stop']
    rfl
  · have other : ¬ (compactCmd c).isCmd12 = true := stop
    rw [if_neg stop, if_neg other]

/-- Going on with a request commutes with leaving out its empty blocks. -/
theorem inoutWork_compact {c : Cmd} (aligned : Aligned drv c) :
    inoutWork drv info (compactCmd c) = compactWork (inoutWork drv info c) := by
  by_cases stop : needsCmd12 drv c
  · have stop' : needsCmd12 drv (compactCmd c) := stop
    rw [inoutWork_of_cmd12 drv info stop, inoutWork_of_cmd12 drv info stop']
    rfl
  have noStop : ¬ needsCmd12 drv (compactCmd c) := stop
  rw [inoutWork_of_not_cmd12 drv info stop, inoutWork_of_not_cmd12 drv info noStop,
    restored_compact]
  by_cases failed : (restored c).error = true
  · have failed' : (compactCmd (restored c)).error = true := failed
    rw [if_pos failed, if_pos failed']
    rfl
  have good : ¬ (compactCmd (restored c)).error = true := failed
  rw [if_neg failed, if_neg good]
  by_cases adma : drv.dmaAdma2 = true
  · rw [if_pos adma, if_pos adma]
    exact handleIrqInoutAdma2_compact _
  · have sdma : (restored c).blocks.head?.all Block.filled = true := by
      rw [(sameCount_restored c).2]
      exact aligned (by simpa using adma)
    rw [if_neg adma, if_neg adma, handleIrqInoutSdma_eq, handleIrqInoutSdma_eq,
      advanced_compact sdma]
    exact transferBlockSdma_compact (aligned_advanced sdma)

/-- Going on, the SDMA mode does not come to an empty block. -/
theorem aligned_inoutWork {c : Cmd} (aligned : Aligned drv c) :
    Aligned drv (inoutWork drv info c).1 := by
  intro sdma
  by_cases stop : needsCmd12 drv c
  · rw [inoutWork_of_cmd12 drv info stop]
    exact aligned sdma
  have start : (restored c).blocks.head?.all Block.filled = true := by
    rw [(sameCount_restored c).2]
    exact aligned sdma
  rw [inoutWork_of_not_cmd12 drv info stop]
  split
  · exact start
  split
  · rename_i adma
    exact absurd (adma.symm.trans sdma) (by decide)
  · rw [handleIrqInoutSdma_eq, (sameCount_transferBlockSdma info _).2]
    exact aligned_advanced start

/-! ## The commands with and without empty blocks -/

/-- By induction on the outcomes: the same commands are issued with and without the empty blocks. -/
theorem issued_compact {c : Cmd} (aligned : Aligned drv c) (outcomes : List Outcome) :
    issued drv info (compactCmd c) outcomes = issued drv info c outcomes := by
  induction outcomes generalizing c with
  | nil => rfl
  | cons o outcomes ih =>
    have start : Aligned drv (ended c o) := aligned
    have next : Aligned drv (inoutWork drv info (ended c o)).1 := aligned_inoutWork start
    have both : inoutWork drv info (ended (compactCmd c) o) =
        compactWork (inoutWork drv info (ended c o)) :=
      inoutWork_compact start
    rw [issued, issued, following, following, both]
    cases work : inoutWork drv info (ended c o) with
    | mk c' status =>
      rw [work] at next
      cases status with
      | moreWork => exact congrArg (List.cons c.issue) (ih next)
      | workDone code size => rfl

/-- The requests set up the same command. -/
theorem requested_compacted {req : Request} (some : req.blocks.any Block.filled = true) (c : Cmd) :
    requested req.compacted c = compactCmd (requested req c) := by
  have other : req.compacted.sector = req.sector ∧ req.compacted.cb = req.cb ∧
      req.compacted.read = req.read := by
    unfold Request.compacted
    split <;> exact ⟨rfl, rfl, rfl⟩
  rcases other with ⟨sector, cb, read⟩
  rw [requested, requested, blocks_compacted some, sector, cb, read]
  rfl

/-- The first commands agree, unless SDMA starts with an empty block, which it does not skip. -/
theorem firstCommand_compacted {req : Request} (some : req.blocks.any Block.filled = true)
    (start : drv.dmaAdma2 = true ∨ req.first.filled = true) (c : Cmd) :
    firstCommand drv info req.compacted c = compactCmd (firstCommand drv info req c) := by
  rw [firstCommand, firstCommand, requested_compacted some]
  by_cases adma : drv.dmaAdma2 = true
  · rw [if_pos adma, if_pos adma]
    exact setBlockCountAdma2_compact _
  · have aligned : (requested req c).blocks.head?.all Block.filled = true :=
      start.resolve_left adma
    rw [if_neg adma, if_neg adma, transferBlockSdma_compact aligned]
    rfl

/-- Without an empty block in front, the first command is aligned. -/
theorem aligned_firstCommand {req : Request} (start : drv.dmaAdma2 = true ∨ req.first.filled = true)
    (c : Cmd) : Aligned drv (firstCommand drv info req c) := by
  intro sdma
  have notAdma : ¬ drv.dmaAdma2 = true := by simp [sdma]
  rw [firstCommand, if_neg notAdma, (sameCount_transferBlockSdma info _).2]
  exact start.resolve_left notAdma

section Start

variable {req : Request} (sdma : drv.dmaAdma2 = false)
include sdma

/-- In SDMA mode the first command is about the first block. -/
theorem firstCommand_sdma (c : Cmd) :
    firstCommand drv info req c = (transferBlockSdma info (requested req c)).1 ∧
      (requested req c).blocks = req.first :: req.rest :=
  ⟨if_neg (by simp [sdma]), rfl⟩

/-- A block with a single sector is transferred by a command without a count. -/
theorem issue_single (single : req.first.numSectors = 1) (c : Cmd) :
    (firstCommand drv info req c).issue.cmd =
      if req.read then Mmc.cmd17ReadSingleBlock else Mmc.cmd24WriteBlock := by
  obtain ⟨start, list⟩ := firstCommand_sdma sdma c
  rw [start, transferBlockSdma_single list single]
  rfl

variable (multiple : req.first.numSectors ≠ 1)
include multiple

/-- With CMD23, the count is announced before the transfer. -/
theorem firstCommand_announce (has : info.hasCmd23 = true) (c : Cmd) :
    firstCommand drv info req c = (requested req c).reinitInoutNodata Mmc.cmd23SetBlockCount
      (Mmc.ArgCmd23SetBlockCount.blocks.set 0 req.first.numSectors) := by
  have fresh : (requested req c).cmd ≠ Mmc.cmd23SetBlockCount := by
    show (0 : U32) ≠ Mmc.cmd23SetBlockCount
    decide
  obtain ⟨start, list⟩ := firstCommand_sdma sdma c
  rw [start, transferBlockSdma_announce list multiple ⟨has, fresh⟩]

/-- Without it, the transfer comes first. -/
theorem firstCommand_direct (hasNot : info.hasCmd23 = false) (c : Cmd) :
    (firstCommand drv info req c).cmd = multipleBlock (requested req c) ∧
      (firstCommand drv info req c).blockcnt = req.first.numSectors := by
  have direct : ¬(info.hasCmd23 = true ∧ (requested req c).cmd ≠ Mmc.cmd23SetBlockCount) := by
    simp [hasNot]
  obtain ⟨start, list⟩ := firstCommand_sdma sdma c
  rw [start, transferBlockSdma_multiple list multiple direct]
  rcases markCmd12_fields info ((requested req c).reinitInoutData (multipleBlock (requested req c))
    (sectorArg info (requested req c)) req.first.numSectors 512 false) with ⟨word, -, count, -⟩
  exact ⟨word, count⟩

/-- Behind CMD23, the data command moves the sectors of the first block. -/
theorem following_announce (has : info.hasCmd23 = true) (c : Cmd) :
    ∃ c', following drv info (firstCommand drv info req c) { status := .success } = some c' ∧
      c'.blockcnt = req.first.numSectors := by
  rw [firstCommand_announce sdma multiple has]
  generalize announced : ended ((requested req c).reinitInoutNodata Mmc.cmd23SetBlockCount
    (Mmc.ArgCmd23SetBlockCount.blocks.set 0 req.first.numSectors)) { status := .success } = p
  have word : p.cmd = Mmc.cmd23SetBlockCount ∧ p.status = .success ∧
      p.flags.inoutCmd12 = false ∧ p.blocks = req.first :: req.rest := by
    rw [← announced]
    exact ⟨rfl, rfl, rfl, rfl⟩
  rcases word with ⟨word, success, unmarked, list⟩
  have work : inoutWork drv info p =
      (markCmd12 info (p.reinitInoutData (multipleBlock p) (sectorArg info p)
        req.first.numSectors 512 false), .moreWork) := by
    rw [inoutWork_of_announced drv info success word unmarked, if_neg (by simp [sdma]),
      transferBlockSdma_multiple list multiple (fun both => both.2 word)]
  refine ⟨_, following_eq announced (by rw [work]), ?_⟩
  rw [work]
  exact (markCmd12_fields info _).2.2.1

end Start

variable (drv info) in
/-- Whatever became of the slot before and of the commands, the same is issued for both requests. -/
def SameCommands (req req' : Request) : Prop :=
  ∀ c outcomes, issued drv info (firstCommand drv info req' c) outcomes =
    issued drv info (firstCommand drv info req c) outcomes

/-- Empty blocks make a difference to the commands only where the SDMA mode starts with one. -/
theorem sameCommands_iff {req : Request} (some : req.blocks.any Block.filled = true) :
    SameCommands drv info req req.compacted ↔ drv.dmaAdma2 = true ∨ req.first.filled = true := by
  apply Iff.intro
  · intro same
    by_contra neither
    obtain ⟨notAdma, empty⟩ := not_or.mp neither
    have sdma : drv.dmaAdma2 = false := by simpa using notAdma
    have none : req.first.numSectors = 0 := by simpa [Block.filled] using empty
    have multiple : req.first.numSectors ≠ 1 := by
      rw [none]
      decide
    have filled : req.compacted.first.numSectors ≠ 0 := by
      have head := blocks_compacted some
      have member : req.compacted.first ∈ compact req.blocks := by
        rw [← head]
        exact List.mem_cons_self
      simpa [Block.filled] using (List.mem_filter.mp member).2
    have first : (firstCommand drv info req.compacted {}).issue =
        (firstCommand drv info req {}).issue :=
      (List.cons.inj (same {} [])).1
    by_cases single : req.compacted.first.numSectors = 1
    · have word : (firstCommand drv info req.compacted {}).issue.cmd = _ :=
        issue_single sdma single {}
      rw [first] at word
      cases has : info.hasCmd23 with
      | true =>
        rw [firstCommand_announce sdma multiple has] at word
        change Mmc.cmd23SetBlockCount = _ at word
        split at word <;> exact absurd word (by decide)
      | false =>
        have other : multipleBlock (requested req {}) = _ :=
          (firstCommand_direct sdma multiple has {}).1.symm.trans word
        unfold multipleBlock at other
        split at other <;> split at other <;> exact absurd other (by decide)
    · cases has : info.hasCmd23 with
      | true =>
        obtain ⟨c', next', count'⟩ := following_announce sdma single has {}
        obtain ⟨c, next, count⟩ := following_announce sdma multiple has {}
        have both := (List.cons.inj (same {} [{ status := .success }])).2
        rw [next, next'] at both
        have equal := congrArg Cmd.Issue.blockcnt (List.cons.inj both).1
        exact filled (count'.symm.trans (equal.trans (count.trans none)))
      | false =>
        have equal := congrArg Cmd.Issue.blockcnt first
        have count' := (firstCommand_direct sdma single has {}).2
        have count := (firstCommand_direct sdma multiple has {}).2
        exact filled (count'.symm.trans (equal.trans (count.trans none)))
  · intro start c outcomes
    rw [firstCommand_compacted some start]
    exact issued_compact (aligned_firstCommand start c) outcomes

end Device

end Emmc
