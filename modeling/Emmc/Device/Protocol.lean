import Emmc.Device.Completion
import Emmc.Tiling

/-!
# The command protocol of a request

The next command of a request is derived from the one before it. `Place` is where a command stands
in the request, `Stage` which of the four kinds of commands it is, and `After` what the card still
has to see once it succeeded.

* `transferBlockSdma_begins`, `setBlockCountAdma2_begins`: a chunk begins with a command whose
  continuations complete the tiling.
* `inoutWork_continues`: so does every later command of the request.
* `protocol_run`: along a run in which every command succeeds, the commands issued so far can be
  completed to a tiling, and when the callback is called they are one.
-/

namespace Emmc

open Throwing
open Cmd (Issue)

namespace Event

def submitted? : Event → Option Issue
  | .submitted _ issue => some issue
  | _ => none

def answer? : Event → Option (Callback × Int)
  | .callback _ cb code _ => some (cb, code)
  | _ => none

def isEnding : Event → Bool
  | .ended .. => true
  | _ => false

end Event

/-- The commands submitted, in this order. -/
def submissions (log : List Event) : List Issue := log.reverse.filterMap Event.submitted?

/-- The callbacks called, with their codes, in this order. -/
def answers (log : List Event) : List (Callback × Int) := log.reverse.filterMap Event.answer?

/-- How many commands ended. -/
def endings (log : List Event) : Nat := log.countP Event.isEnding

/-- Every command succeeds. -/
structure Succeeds (log : List Event) : Prop where
  calm : Calm log
  success : ∀ slot cmd status resp0, Event.ended slot cmd status resp0 ∈ log → status = .success

theorem Succeeds.of_append {added log : List Event} (succeeds : Succeeds (added ++ log)) :
    Succeeds log where
  calm := succeeds.calm.suffix (List.suffix_append _ _)
  success := fun slot cmd status resp0 member =>
    succeeds.success slot cmd status resp0 (List.mem_append_right _ member)

theorem submissions_cons (event : Event) (log : List Event) :
    submissions (event :: log) = submissions log ++ event.submitted?.toList :=
  Runs.filterMap_reverse_cons Event.submitted? event log

theorem answers_cons (event : Event) (log : List Event) :
    answers (event :: log) = answers log ++ event.answer?.toList :=
  Runs.filterMap_reverse_cons Event.answer? event log

theorem endings_cons (event : Event) (log : List Event) :
    endings (event :: log) = endings log + event.isEnding.toNat := by
  rw [endings, List.countP_cons, endings]
  cases event.isEnding <;> rfl

variable {H Irq : Type}

namespace Device

variable (drv : HwDrv H Irq) (info : DeviceInfo)

/-! ## Where a command stands -/

/-- The sizes of the chunks in which a block list is moved: as a whole in ADMA2 mode, block by
block in SDMA mode. -/
def chunks (blocks : List Block) : List Nat :=
  if drv.dmaAdma2 then [(blockSizes blocks).sum] else blockSizes blocks

/-- The command belongs to the chunk of `n` sectors at `sector`; `sizes` are the chunks behind. -/
structure Place (read : Bool) (sector n : Nat) (sizes : List Nat) (c : Cmd) : Prop where
  direction : c.flags.inoutRead = read
  address : c.sector = BitVec.ofNat 32 sector
  chunks : chunks drv c.blocks = n :: sizes
  sized : ∀ b ∈ c.blocks, 1 ≤ b.numSectors.toNat
  total : (blockSizes c.blocks).sum < 2 ^ 16

/-- Which kind of command it is. -/
inductive Stage (n : Nat) (c : Cmd) : Prop
  | single (sdma : drv.dmaAdma2 = false) (one : n = 1)
      (word : c.cmd = if c.flags.inoutRead then Mmc.cmd17ReadSingleBlock else Mmc.cmd24WriteBlock)
      (unmarked : c.flags.inoutCmd12 = false)
  | announce (known : info.hasCmd23 = true) (word : c.cmd = Mmc.cmd23SetBlockCount)
      (unmarked : c.flags.inoutCmd12 = false) (noData : c.flags.hasData = false)
      (several : drv.dmaAdma2 = false → n ≠ 1)
      (count : drv.dmaAdma2 = true → c.blockcnt.toNat = n)
  | multiple (word : c.cmd = multipleBlock c) (marked : c.flags.inoutCmd12 = !info.hasCmd23)
  | stop (word : c.isCmd12 = true) (unmarked : c.flags.inoutCmd12 = false)
      (success : c.statusCmd12 = .success)

/-- What the card has to see behind the command. -/
def After (read : Bool) (sector n : Nat) (sizes : List Nat) (c : Cmd) (tail : List Issue) : Prop :=
  if c.cmd = Mmc.cmd23SetBlockCount then
    ∃ i rest, tail = i :: rest ∧ Issue.Multiple info.addrMult read sector n false i ∧
      Tiles info.addrMult read (sector + n) sizes rest
  else if c.flags.inoutCmd12 = true then
    ∃ s rest, tail = s :: rest ∧ Issue.Stop read s ∧
      Tiles info.addrMult read (sector + n) sizes rest
  else
    Tiles info.addrMult read (sector + n) sizes tail

/-- The command stands somewhere in the request, and with `issued` and what comes after it the card
sees `whole`. -/
def Begins (read : Bool) (sector n : Nat) (sizes : List Nat) (c : Cmd)
    (whole : List Issue → Prop) : Prop :=
  Place drv read sector n sizes c ∧ Stage drv info n c ∧
    ∀ tail, After info read sector n sizes c tail → whole (c.issue :: tail)

theorem chunks_sdma (sdma : drv.dmaAdma2 = false) (blocks : List Block) :
    chunks drv blocks = blockSizes blocks := by
  have notAdma : ¬ drv.dmaAdma2 = true := by simp [sdma]
  rw [chunks, if_neg notAdma]

theorem chunks_adma2 (adma : drv.dmaAdma2 = true) (blocks : List Block) :
    chunks drv blocks = [(blockSizes blocks).sum] := by
  rw [chunks, if_pos adma]

/-- The argument of a data command is the address of its first sector. -/
theorem sectorArg_eq {c : Cmd} {sector : Nat} (address : c.sector = BitVec.ofNat 32 sector) :
    sectorArg info c = cardAddr info.addrMult sector := by
  apply BitVec.eq_of_toNat_eq
  rw [sectorArg, cardAddr, address]
  simp only [BitVec.toNat_setWidth, BitVec.toNat_mul, BitVec.toNat_ofNat]
  rw [Nat.mod_mod_of_dvd _ (by decide : 2 ^ 32 ∣ 2 ^ 64), Nat.mul_mod,
    Nat.mod_mod_of_dvd _ (by decide : 2 ^ 32 ∣ 2 ^ 64), Nat.mod_mod, ← Nat.mul_mod]

/-! ## The first command of a chunk -/

/-- What the request goes on with is not touched when a command is set up. -/
theorem Place.of_request {read : Bool} {sector n : Nat} {sizes : List Nat} {c c' : Cmd}
    (place : Place drv read sector n sizes c) (direction : c'.flags.inoutRead = c.flags.inoutRead)
    (address : c'.sector = c.sector) (blocks : c'.blocks = c.blocks) :
    Place drv read sector n sizes c' where
  direction := direction.trans place.direction
  address := address.trans place.address
  chunks := by rw [blocks]; exact place.chunks
  sized := by rw [blocks]; exact place.sized
  total := by rw [blocks]; exact place.total

theorem markCmd12_eq (c : Cmd) (known : info.hasCmd23 = true) : markCmd12 info c = c := by
  rw [markCmd12, if_pos known]

theorem markCmd12_unknown (c : Cmd) (unknown : ¬ info.hasCmd23 = true) :
    markCmd12 info c = { c with flags := { c.flags with inoutCmd12 := true } } := by
  rw [markCmd12, if_neg unknown]

theorem After.nil {read : Bool} {sector n : Nat} {sizes : List Nat} {c : Cmd} {tail : List Issue}
    (other : c.cmd ≠ Mmc.cmd23SetBlockCount) (unmarked : c.flags.inoutCmd12 = false) :
    After info read sector n sizes c tail ↔ Tiles info.addrMult read (sector + n) sizes tail := by
  rw [After, if_neg other, if_neg (by rw [unmarked]; decide)]

theorem After.marked {read : Bool} {sector n : Nat} {sizes : List Nat} {c : Cmd}
    {tail : List Issue} (other : c.cmd ≠ Mmc.cmd23SetBlockCount)
    (marked : c.flags.inoutCmd12 = true) (after : After info read sector n sizes c tail) :
    ∃ s rest, tail = s :: rest ∧ Issue.Stop read s ∧
      Tiles info.addrMult read (sector + n) sizes rest := by
  rwa [After, if_neg other, if_pos marked] at after

theorem After.announced {read : Bool} {sector n : Nat} {sizes : List Nat} {c : Cmd}
    {tail : List Issue} (word : c.cmd = Mmc.cmd23SetBlockCount)
    (after : After info read sector n sizes c tail) :
    ∃ i rest, tail = i :: rest ∧ Issue.Multiple info.addrMult read sector n false i ∧
      Tiles info.addrMult read (sector + n) sizes rest := by
  rwa [After, if_pos word] at after

/-- The multiple block command of a chunk. -/
theorem multiple_issue {read : Bool} {sector n : Nat} {sizes : List Nat} {c : Cmd}
    (place : Place drv read sector n sizes c) {blockcnt : U32} (count : blockcnt.toNat = n)
    (auto : Bool) :
    Issue.Multiple info.addrMult read sector n auto
      (markCmd12 info
        (c.reinitInoutData (multipleBlock c) (sectorArg info c) blockcnt 512 auto)).issue := by
  have word : multipleBlock c =
      if read then Mmc.cmd18ReadMultipleBlock else Mmc.cmd25WriteMultipleBlock := by
    rw [multipleBlock, place.direction]
  have address := sectorArg_eq info place.address
  unfold markCmd12
  split <;> exact ⟨word, address, count, rfl, rfl⟩

/-- The multiple block command of a chunk, when CMD23 or the controller announced it. -/
theorem multiple_known {read : Bool} {sector n : Nat} {sizes : List Nat} {c : Cmd}
    (place : Place drv read sector n sizes c) (known : info.hasCmd23 = true)
    (unmarked : c.flags.inoutCmd12 = false) {blockcnt : U32} (count : blockcnt.toNat = n)
    (auto : Bool) {whole : List Issue → Prop}
    (bounded : ∀ i tail, Issue.Multiple info.addrMult read sector n auto i →
      Tiles info.addrMult read (sector + n) sizes tail → whole (i :: tail)) :
    Begins drv info read sector n sizes
      (markCmd12 info (c.reinitInoutData (multipleBlock c) (sectorArg info c) blockcnt 512 auto))
      whole := by
  have issue := multiple_issue drv info place count auto
  rw [markCmd12_eq info _ known] at issue ⊢
  refine ⟨place.of_request drv rfl rfl rfl, .multiple rfl (unmarked.trans (by rw [known]; rfl)), ?_⟩
  intro tail after
  have other : (c.reinitInoutData (multipleBlock c) (sectorArg info c) blockcnt 512 auto).cmd ≠
      Mmc.cmd23SetBlockCount := multipleBlock_ne_cmd23 c
  exact bounded _ tail issue ((After.nil info other unmarked).mp after)

/-- The multiple block command of a chunk that CMD12 is going to stop. -/
theorem multiple_unknown {read : Bool} {sector n : Nat} {sizes : List Nat} {c : Cmd}
    (place : Place drv read sector n sizes c) (unknown : ¬ info.hasCmd23 = true)
    {blockcnt : U32} (count : blockcnt.toNat = n) :
    Begins drv info read sector n sizes
      (markCmd12 info (c.reinitInoutData (multipleBlock c) (sectorArg info c) blockcnt 512 false))
      (Tiles info.addrMult read sector (n :: sizes)) := by
  have issue := multiple_issue drv info place count false
  rw [markCmd12_unknown info _ unknown] at issue ⊢
  have known : info.hasCmd23 = false := by simpa using unknown
  refine ⟨place.of_request drv rfl rfl rfl, .multiple rfl (by rw [known]; rfl), ?_⟩
  intro tail after
  obtain ⟨s, rest, rfl, stop, tiles⟩ := After.marked info (multipleBlock_ne_cmd23 c) rfl after
  exact .stopped issue stop tiles

/-- SDMA: the first command for the next block. -/
theorem transferBlockSdma_begins {read : Bool} {sector n : Nat} {sizes : List Nat} {c : Cmd}
    (sdma : drv.dmaAdma2 = false) (place : Place drv read sector n sizes c)
    (other : c.cmd ≠ Mmc.cmd23SetBlockCount) (unmarked : c.flags.inoutCmd12 = false) :
    (transferBlockSdma info c).2 = .moreWork ∧
      Begins drv info read sector n sizes (transferBlockSdma info c).1
        (Tiles info.addrMult read sector (n :: sizes)) := by
  have sizesEq := place.chunks
  rw [chunks_sdma drv sdma] at sizesEq
  cases list : c.blocks with
  | nil =>
    rw [list] at sizesEq
    cases sizesEq
  | cons b rest =>
    rw [list, blockSizes, List.map_cons, List.cons.injEq] at sizesEq
    rcases sizesEq with ⟨size, -⟩
    by_cases single : b.numSectors = 1
    · rw [transferBlockSdma_single list single]
      have one : n = 1 := by
        rw [← size, single]
        rfl
      subst one
      refine ⟨rfl, place.of_request drv rfl rfl rfl, .single sdma rfl rfl unmarked, ?_⟩
      intro tail after
      have other : (c.reinitInoutData (if c.flags.inoutRead then Mmc.cmd17ReadSingleBlock
          else Mmc.cmd24WriteBlock) (sectorArg info c) 1 512 false).cmd ≠
          Mmc.cmd23SetBlockCount := by
        show (if c.flags.inoutRead then _ else _) ≠ _
        split <;> decide
      have tiles := (After.nil info other unmarked).mp after
      refine .single ⟨?_, sectorArg_eq info place.address, rfl, rfl, rfl⟩ tiles
      rw [← place.direction]
      rfl
    · have several : n ≠ 1 := by
        intro one
        apply single
        apply BitVec.eq_of_toNat_eq
        rw [size, one]
        rfl
      by_cases known : info.hasCmd23 = true
      · rw [transferBlockSdma_announce list single ⟨known, other⟩]
        have small : b.numSectors.toNat < 2 ^ 16 := by
          have total := place.total
          rw [list, blockSizes, List.map_cons, List.sum_cons] at total
          omega
        refine ⟨rfl, place.of_request drv rfl rfl rfl, .announce known rfl unmarked rfl
          (fun _ => several) (fun adma => by rw [sdma] at adma; cases adma), ?_⟩
        intro tail after
        obtain ⟨i, rest, rfl, move, tiles⟩ := After.announced info rfl after
        exact .announced ⟨rfl, (announce_toNat small).trans size⟩ move tiles
      · rw [transferBlockSdma_multiple list single (fun both => known both.1)]
        exact ⟨rfl, multiple_unknown drv info place known size⟩

/-- ADMA2: the first command for the whole list. -/
theorem setBlockCountAdma2_begins {read : Bool} {sector n : Nat} {sizes : List Nat} {c : Cmd}
    (adma : drv.dmaAdma2 = true) (place : Place drv read sector n sizes c)
    (unmarked : c.flags.inoutCmd12 = false) :
    Begins drv info read sector n sizes (setBlockCountAdma2 drv info c)
      (Tiles info.addrMult read sector (n :: sizes)) := by
  have whole := place.chunks
  rw [chunks_adma2 drv adma, List.cons.injEq] at whole
  rcases whole with ⟨size, -⟩
  have count : (totalSectors c.blocks).toNat = n := (totalSectors_toNat place.total).trans size
  by_cases known : info.hasCmd23 = true
  · by_cases auto : drv.autoCmd23 = true
    · rw [setBlockCountAdma2_direct (by rw [known, auto]; rfl), known, auto]
      exact multiple_known drv info place known unmarked count true
        fun i tail move tiles => .auto move tiles
    · rw [setBlockCountAdma2_announce (by simpa [known] using auto)]
      have small : (totalSectors c.blocks).toNat < 2 ^ 16 := by
        rw [totalSectors_toNat place.total]
        exact place.total
      refine ⟨place.of_request drv rfl rfl rfl, .announce known rfl unmarked rfl
        (fun sdma => by rw [adma] at sdma; cases sdma) (fun _ => count), ?_⟩
      intro tail after
      obtain ⟨i, rest, rfl, move, tiles⟩ := After.announced info rfl after
      exact .announced ⟨rfl, (announce_toNat small).trans count⟩ move tiles
  · have unknown : info.hasCmd23 = false := by simpa using known
    rw [setBlockCountAdma2_direct (by rw [unknown]; rfl), unknown, Bool.false_and]
    exact multiple_unknown drv info place known count

/-- The first command of a request. -/
theorem firstCommand_begins (req : Request) (sized : ∀ b ∈ req.blocks, 1 ≤ b.numSectors.toNat)
    (total : (blockSizes req.blocks).sum < 2 ^ 16) (c : Cmd) :
    ∃ n sizes, chunks drv req.blocks = n :: sizes ∧
      Begins drv info req.read req.sector.toNat n sizes (firstCommand drv info req c)
        (Tiles info.addrMult req.read req.sector.toNat (n :: sizes)) := by
  obtain ⟨n, sizes, list⟩ : ∃ n sizes, chunks drv req.blocks = n :: sizes := by
    cases adma : drv.dmaAdma2 with
    | true => exact ⟨_, _, chunks_adma2 drv adma _⟩
    | false => exact ⟨_, _, chunks_sdma drv adma _⟩
  have place : Place drv req.read req.sector.toNat n sizes (requested req c) := by
    refine ⟨rfl, ?_, list, sized, total⟩
    show req.sector.setWidth 32 = _
    apply BitVec.eq_of_toNat_eq
    rw [BitVec.toNat_setWidth, BitVec.toNat_ofNat]
  refine ⟨n, sizes, list, ?_⟩
  unfold firstCommand
  cases adma : drv.dmaAdma2 with
  | true => exact setBlockCountAdma2_begins drv info adma place rfl
  | false =>
    have cmd0 : (0 : U32) ≠ Mmc.cmd23SetBlockCount := by decide
    exact (transferBlockSdma_begins drv info adma place cmd0 rfl).2

/-! ## From one command to the next -/

/-- The next block is the one behind. -/
theorem nextBlock_eq {c : Cmd} {b : Block} {rest : List Block} (list : c.blocks = b :: rest)
    (sized : ∀ b ∈ c.blocks, 1 ≤ b.numSectors.toNat) :
    nextBlock c =
      { c with
        sector := c.sector + b.numSectors
        sectorsDone := c.sectorsDone + b.numSectors
        blocks := rest } := by
  have all : rest.dropWhile (fun b => b.numSectors = 0) = rest := by
    cases rest with
    | nil => rfl
    | cons b' rest' =>
      refine List.dropWhile_cons_of_neg ?_
      have positive := sized b' (by rw [list]; exact List.mem_cons_of_mem _ List.mem_cons_self)
      intro zero
      rw [of_decide_eq_true zero] at positive
      exact absurd positive (by decide)
  simp only [nextBlock, list, all]

/-- A chunk is complete: the next one begins, or the request is done. -/
theorem chunk_done {read : Bool} {sector n : Nat} {sizes : List Nat} {c : Cmd}
    (place : Place drv read sector n sizes c) (success : c.status = .success)
    (other : c.cmd ≠ Mmc.cmd23SetBlockCount) (unmarked : c.flags.inoutCmd12 = false) :
    let work := if drv.dmaAdma2 then handleIrqInoutAdma2 info c else handleIrqInoutSdma info c
    (∃ sector' n' sizes', work.2 = .moreWork ∧
        Begins drv info read sector' n' sizes' work.1
          (Tiles info.addrMult read (sector + n) sizes)) ∨
      ∃ size, work.2 = .workDone L4.eok size ∧
        Tiles info.addrMult read (sector + n) sizes [] := by
  intro work
  have sizesEq := place.chunks
  by_cases adma : drv.dmaAdma2 = true
  · have workEq : work = (c, .workDone L4.eok (bytesTransferred c)) :=
      (if_pos adma).trans (handleIrqInoutAdma2_done other)
    rw [chunks_adma2 drv adma, List.cons.injEq] at sizesEq
    rw [workEq, ← sizesEq.2]
    exact Or.inr ⟨_, rfl, .done⟩
  · have sdma : drv.dmaAdma2 = false := by simpa using adma
    have workEq : work = transferBlockSdma info (nextBlock c) := by
      refine (if_neg adma).trans ((handleIrqInoutSdma_eq info c).trans ?_)
      rw [advanced, if_pos ⟨success, other⟩]
    rw [workEq]
    rw [chunks_sdma drv sdma] at sizesEq
    cases list : c.blocks with
    | nil =>
      rw [list] at sizesEq
      cases sizesEq
    | cons b rest =>
      rw [list, blockSizes, List.map_cons, List.cons.injEq] at sizesEq
      rcases sizesEq with ⟨size, sizesEq⟩
      rw [nextBlock_eq list place.sized]
      cases rest with
      | nil =>
        rw [transferBlockSdma_done rfl, ← sizesEq]
        exact Or.inr ⟨_, rfl, .done⟩
      | cons b' rest' =>
        have sum : (blockSizes (b :: b' :: rest')).sum =
            b.numSectors.toNat + (blockSizes (b' :: rest')).sum := rfl
        have next : Place drv read (sector + n) b'.numSectors.toNat (blockSizes rest')
            { c with
              sector := c.sector + b.numSectors
              sectorsDone := c.sectorsDone + b.numSectors
              blocks := b' :: rest' } := by
          refine ⟨place.direction, ?_, chunks_sdma drv sdma _, ?_, ?_⟩
          · show c.sector + b.numSectors = _
            rw [place.address, ← size]
            apply BitVec.eq_of_toNat_eq
            simp
          · intro b'' member
            exact place.sized b'' (by rw [list]; exact List.mem_cons_of_mem _ member)
          · have total := place.total
            rw [list, sum] at total
            show (blockSizes (b' :: rest')).sum < 2 ^ 16
            omega
        obtain ⟨more, begins⟩ := transferBlockSdma_begins drv info sdma next other unmarked
        rw [← sizesEq]
        exact Or.inl ⟨_, _, _, more, begins⟩

theorem Begins.mono {read : Bool} {sector n : Nat} {sizes : List Nat} {c : Cmd}
    {whole whole' : List Issue → Prop} (begins : Begins drv info read sector n sizes c whole)
    (weaker : ∀ issues, whole issues → whole' issues) :
    Begins drv info read sector n sizes c whole' :=
  ⟨begins.1, begins.2.1, fun tail after => weaker _ (begins.2.2 tail after)⟩

/-- The request after a command of it succeeded: it goes on as the card expects, or it is done and
the card expects nothing more. -/
def Continues (read : Bool) (work : Cmd × WorkStatus) (expected : List Issue → Prop) : Prop :=
  (∃ sector n sizes, work.2 = .moreWork ∧ Begins drv info read sector n sizes work.1 expected) ∨
    ∃ size, work.2 = .workDone L4.eok size ∧ expected []

/-- The last command of a chunk succeeded. -/
theorem inoutWork_chunk_done {read : Bool} {sector n : Nat} {sizes : List Nat} {c : Cmd}
    (noStop : ¬ needsCmd12 drv c) (place : Place drv read sector n sizes (restored c))
    (success : (restored c).status = .success) (other : (restored c).cmd ≠ Mmc.cmd23SetBlockCount)
    (unmarked : (restored c).flags.inoutCmd12 = false) :
    Continues drv info read (inoutWork drv info c)
      (Tiles info.addrMult read (sector + n) sizes) := by
  have fine : ¬ (restored c).error = true := by simp [Cmd.error, success, Status.toInt]
  rw [inoutWork_of_not_cmd12 drv info noStop, if_neg fine]
  exact chunk_done drv info place success other unmarked

/-- The command itself is the last one of its chunk. -/
theorem inoutWork_last {read : Bool} {sector n : Nat} {sizes : List Nat} {c : Cmd}
    (place : Place drv read sector n sizes c) (success : c.status = .success)
    (member : c.cmd ∈ Mmc.transferCommands) (other : c.cmd ≠ Mmc.cmd23SetBlockCount)
    (unmarked : c.flags.inoutCmd12 = false) :
    Continues drv info read (inoutWork drv info c) (After info read sector n sizes c) := by
  have same := restored_eq member
  have done := inoutWork_chunk_done drv info (not_needsCmd12 drv unmarked) (by rwa [same])
    (by rwa [same]) (by rwa [same]) (by rwa [same])
  have expected : After info read sector n sizes c =
      Tiles info.addrMult read (sector + n) sizes :=
    funext fun tail => propext (After.nil info other unmarked)
  rw [expected]
  exact done

/-- CMD23 succeeded: the data command it announced follows. -/
theorem inoutWork_announced {read : Bool} {sector n : Nat} {sizes : List Nat} {c : Cmd}
    (place : Place drv read sector n sizes c) (success : c.status = .success)
    (known : info.hasCmd23 = true) (word : c.cmd = Mmc.cmd23SetBlockCount)
    (unmarked : c.flags.inoutCmd12 = false) (several : drv.dmaAdma2 = false → n ≠ 1)
    (count : drv.dmaAdma2 = true → c.blockcnt.toNat = n) :
    Continues drv info read (inoutWork drv info c) (After info read sector n sizes c) := by
  have expected : ∀ i tail, Issue.Multiple info.addrMult read sector n false i →
      Tiles info.addrMult read (sector + n) sizes tail →
      After info read sector n sizes c (i :: tail) := by
    intro i tail move tiles
    rw [After, if_pos word]
    exact ⟨i, tail, rfl, move, tiles⟩
  rw [inoutWork_of_announced drv info success word unmarked]
  by_cases adma : drv.dmaAdma2 = true
  · rw [if_pos adma, handleIrqInoutAdma2_next word]
    exact Or.inl ⟨_, _, _, rfl,
      multiple_known drv info place known unmarked (count adma) false expected⟩
  · have sdma : drv.dmaAdma2 = false := by simpa using adma
    have sizesEq := place.chunks
    rw [if_neg adma]
    rw [chunks_sdma drv sdma] at sizesEq
    cases list : c.blocks with
    | nil =>
      rw [list] at sizesEq
      cases sizesEq
    | cons b rest =>
      rw [list, blockSizes, List.map_cons, List.cons.injEq] at sizesEq
      have multiple : b.numSectors ≠ 1 := by
        intro single
        rw [single] at sizesEq
        exact several sdma sizesEq.1.symm
      rw [transferBlockSdma_multiple list multiple (fun both => both.2 word)]
      exact Or.inl ⟨_, _, _, rfl,
        multiple_known drv info place known unmarked sizesEq.1 false expected⟩

/-- CMD12 follows a data command that is marked for it. -/
theorem inoutWork_stopped (noAuto : drv.autoCmd12 = false) {read : Bool} {sector n : Nat}
    {sizes : List Nat} {c : Cmd} (place : Place drv read sector n sizes c)
    (success : c.status = .success) (other : c.cmd ≠ Mmc.cmd23SetBlockCount)
    (marked : c.flags.inoutCmd12 = true) :
    Continues drv info read (inoutWork drv info c) (After info read sector n sizes c) := by
  have stage : Stage drv info n (stopCommand c) := .stop (stopCommand_isCmd12 c) rfl success
  rw [inoutWork_of_cmd12 drv info ⟨marked, noAuto⟩]
  refine Or.inl ⟨_, _, _, rfl, place.of_request drv rfl rfl rfl, stage, ?_⟩
  intro tail after
  have stopWord : (stopCommand c).cmd ≠ Mmc.cmd23SetBlockCount := by
    show (if c.flags.inoutRead then _ else _) ≠ _
    split <;> decide
  have tiles := (After.nil info stopWord rfl).mp after
  rw [After, if_neg other, if_pos marked]
  refine ⟨_, tail, rfl, ?_, tiles⟩
  rw [Issue.Stop, ← place.direction]
  rfl

theorem inoutWork_continues (noAuto : drv.autoCmd12 = false) {read : Bool} {sector n : Nat}
    {sizes : List Nat} {c : Cmd} (place : Place drv read sector n sizes c)
    (stage : Stage drv info n c) (success : c.status = .success) :
    Continues drv info read (inoutWork drv info c) (After info read sector n sizes c) := by
  cases stage with
  | single sdma one word unmarked =>
    refine inoutWork_last drv info place success ?_ ?_ unmarked
    · rw [word]
      split <;> simp [Mmc.transferCommands]
    · rw [word]
      split <;> decide
  | announce known word unmarked noData several count =>
    exact inoutWork_announced drv info place success known word unmarked several count
  | multiple word marked =>
    have other : c.cmd ≠ Mmc.cmd23SetBlockCount := by
      rw [word]
      exact multipleBlock_ne_cmd23 c
    cases known : info.hasCmd23 with
    | true =>
      rw [known] at marked
      exact inoutWork_last drv info place success (by rw [word]; exact multipleBlock_mem c) other
        marked
    | false =>
      rw [known] at marked
      exact inoutWork_stopped drv info noAuto place success other marked
  | stop word unmarked success' =>
    have back : restored c = { c with status := c.statusCmd12 } := by
      rw [restored, if_pos word]
    have other : c.cmd ≠ Mmc.cmd23SetBlockCount := by
      rw [Cmd.isCmd12, decide_eq_true_eq] at word
      rcases word with word | word <;> rw [word] <;> decide
    have expected : After info read sector n sizes c =
        Tiles info.addrMult read (sector + n) sizes :=
      funext fun tail => propext (After.nil info other unmarked)
    rw [expected]
    refine inoutWork_chunk_done drv info (not_needsCmd12 drv unmarked) ?_ ?_ ?_ ?_
    · rw [back]
      exact place.of_request drv rfl rfl rfl
    · rw [back]
      exact success'
    · rw [back]
      exact other
    · rw [back]
      exact unmarked

/-! ## Runs -/

/-- The command `c` is the one that the request has come to, and what the card sees from there on goes with
what it has seen. -/
structure Current (read : Bool) (cb : Callback) (sector : Nat) (sizes : List Nat) (new : List Event)
    (sector' n : Nat) (sizes' : List Nat) (c : Cmd) : Prop where
  phase : c.flags.hasData = false → c.status ≠ .progressData
  inout : c.flags.inout = true
  context : c.cbIo = some cb
  word : c.cmd ∈ Mmc.inoutCommands
  place : Place drv read sector' n sizes' c
  stage : Stage drv info n c
  expected : ∀ tail, After info read sector' n sizes' c tail →
    Tiles info.addrMult read sector sizes (submissions new ++ tail)

/-- A request followed from its acceptance on, with what was logged since. Either its current
command is in flight, or its callback was called. -/
inductive Followed (read : Bool) (cb : Callback) (sector : Nat) (sizes : List Nat)
    (new : List Event) : List (Slot × Cmd) → Prop
  | underway {slot : Slot} {c : Cmd} {sector' n : Nat} {sizes' : List Nat} (busy : c.progress = true)
      (current : Current drv info read cb sector sizes new sector' n sizes' c)
      (quiet : answers new = []) (count : endings new + 1 = (submissions new).length) :
      Followed read cb sector sizes new [(slot, c)]
  | finished (tiles : Tiles info.addrMult read sector sizes (submissions new))
      (answered : answers new = [(cb, L4.eok)])
      (count : endings new = (submissions new).length) :
      Followed read cb sector sizes new []

theorem Place.of_same {read : Bool} {sector n : Nat} {sizes : List Nat} {c c' : Cmd}
    (place : Place drv read sector n sizes c) (same : c.SameRequest c') :
    Place drv read sector n sizes c' :=
  place.of_request drv same.inoutRead same.sector same.blocks

theorem Stage.of_same {n : Nat} {c c' : Cmd} (stage : Stage drv info n c)
    (same : c.SameRequest c')
    (blockcnt : c.flags.hasData = false → c'.blockcnt = c.blockcnt) : Stage drv info n c' := by
  cases stage with
  | single sdma one word unmarked =>
    exact .single sdma one (by rw [same.cmd, same.inoutRead]; exact word)
      (same.inoutCmd12.trans unmarked)
  | announce known word unmarked noData several count =>
    refine .announce known (same.cmd.trans word) (same.inoutCmd12.trans unmarked)
      (same.hasData.trans noData) several fun adma => ?_
    rw [blockcnt noData]
    exact count adma
  | multiple word marked =>
    refine .multiple ?_ (same.inoutCmd12.trans marked)
    rw [same.cmd, word, multipleBlock, multipleBlock, same.inoutRead]
  | stop word unmarked success =>
    refine .stop ?_ (same.inoutCmd12.trans unmarked) (same.statusCmd12.trans success)
    rw [Cmd.isCmd12, same.cmd]
    exact word

theorem After.of_same {read : Bool} {sector n : Nat} {sizes : List Nat} {c c' : Cmd}
    (same : c.SameRequest c') (tail : List Issue) :
    After info read sector n sizes c' tail ↔ After info read sector n sizes c tail := by
  rw [After, After, same.cmd, same.inoutCmd12]

section Step

variable {read : Bool} {cb : Callback} {sector : Nat} {sizes : List Nat}

/-- An interrupt that is handled leaves the request where it is. -/
theorem Current.handled {new : List Event} {sector' n : Nat} {sizes' : List Nat} {c c' : Cmd}
    (current : Current drv info read cb sector sizes new sector' n sizes' c) (busy : c.progress = true)
    (after : c.AfterIrq c') : Current drv info read cb sector sizes new sector' n sizes' c' := by
  have same := after.same
  have noData : c.flags.hasData = false → c'.status ≠ .progressData ∧ c'.blockcnt = c.blockcnt := by
    intro noData
    refine after.noData (Cmd.isTuning_of_inout current.word) noData ?_
    rcases (Cmd.progress_iff c).mp busy with inCmd | data
    · exact inCmd
    · exact absurd data (current.phase noData)
  exact {
    phase := fun none => (noData (same.hasData.symm.trans none)).1
    inout := same.inout.trans current.inout
    context := same.cbIo.trans current.context
    word := by rw [same.cmd]; exact current.word
    place := current.place.of_same drv same
    stage := current.stage.of_same drv info same fun none => (noData none).2
    expected := fun tail after => current.expected tail ((After.of_same info same tail).mp after) }

/-- What is logged without a submission does not matter. -/
theorem Current.of_log {new new' : List Event} {sector' n : Nat} {sizes' : List Nat} {c : Cmd}
    (current : Current drv info read cb sector sizes new sector' n sizes' c)
    (issued : submissions new' = submissions new) :
    Current drv info read cb sector sizes new' sector' n sizes' c :=
  { current with expected := by rw [issued]; exact current.expected }

/-- The next command of the request is submitted. -/
theorem followed_submit (new : List Event) (slot : Slot) {c c' : Cmd} {sector' n : Nat}
    {sizes' : List Nat}
    (begins : Begins drv info read sector' n sizes' c
      fun tail => Tiles info.addrMult read sector sizes (submissions new ++ tail))
    (inout : c.flags.inout = true) (context : c.cbIo = some cb)
    (word : c.cmd ∈ Mmc.inoutCommands) (same : c.SameRequest c') (busy : c'.status = .progressCmd)
    (blockcnt : c'.blockcnt = c.blockcnt) (quiet : answers new = [])
    (count : endings new = (submissions new).length) :
    Followed drv info read cb sector sizes (.submitted slot c.issue :: new) [(slot, c')] := by
  rcases begins with ⟨place, stage, expected⟩
  have issued : submissions (.submitted slot c.issue :: new) = submissions new ++ [c.issue] :=
    submissions_cons _ _
  have current : Current drv info read cb sector sizes (.submitted slot c.issue :: new) sector' n
      sizes' c' := {
    phase := fun _ data => by cases busy.symm.trans data
    inout := same.inout.trans inout
    context := same.cbIo.trans context
    word := by rw [same.cmd]; exact word
    place := place.of_same drv same
    stage := stage.of_same drv info same fun _ => blockcnt
    expected := fun tail after => by
      rw [issued, List.append_assoc]
      exact expected tail ((After.of_same info same tail).mp after) }
  refine .underway ?_ current ?_ ?_
  · simp [Cmd.progress, busy]
  · rw [answers_cons, quiet]
    rfl
  · rw [endings_cons, issued, List.length_append, ← count]
    rfl

/-- The command in flight succeeded: the next one is submitted, or the request is answered. -/
theorem followed_resume (noAuto : drv.autoCmd12 = false) (new : List Event) {slot : Slot} {c : Cmd}
    {sector' n : Nat} {sizes' : List Nat} {masked : Bool} {log : List Event} {v' : View}
    (current : Current drv info read cb sector sizes new sector' n sizes' c) (success : c.status = .success)
    (quiet : answers new = []) (count : endings new = (submissions new).length)
    (resume : Resume drv info [] ⟨[(slot, c)], masked, log⟩ v') :
    ∃ added, v'.log = added ++ log ∧ Followed drv info read cb sector sizes (added ++ new)
      v'.pending := by
  have continues := inoutWork_continues drv info noAuto current.place current.stage success
  cases resume with
  | @next slot c cb' rest masked log v' context' more kick =>
    rcases continues with ⟨sector'', n'', sizes'', -, begins⟩ | ⟨size, done, -⟩
    · have resumed := inoutWork_resumed drv info more
      cases kick with
      | idle notReady => exact absurd resumed.ready (notReady _ _ _ rfl)
      | submit ready accepted same busy blockcnt =>
        exact ⟨[_], rfl, followed_submit drv info new slot
          (begins.mono drv info current.expected) (resumed.owner.inout.trans current.inout)
          (resumed.owner.cbIo.trans current.context) resumed.word same busy blockcnt quiet count⟩
    · cases more.symm.trans done
  | @done slot c c' cb' rest rest' masked masked' log log' code size v' context' done calls kick =>
    rcases continues with ⟨sector'', n'', sizes'', more, -⟩ | ⟨size', done', complete⟩
    · cases more.symm.trans done
    · cases done'.symm.trans done
      cases current.context.symm.trans context'
      cases calls
      cases kick with
      | idle =>
        have tiles := current.expected [] complete
        rw [List.append_nil] at tiles
        have issued : submissions (.callback slot cb L4.eok size :: new) = submissions new :=
          (submissions_cons _ _).trans (List.append_nil _)
        refine ⟨[.callback slot cb L4.eok size], rfl, .finished ?_ ?_ ?_⟩
        · show Tiles _ _ _ _ (submissions (.callback slot cb L4.eok size :: new))
          rw [issued]
          exact tiles
        · show answers (.callback slot cb L4.eok size :: new) = _
          rw [answers_cons, quiet]
          rfl
        · show endings (.callback slot cb L4.eok size :: new) =
            (submissions (.callback slot cb L4.eok size :: new)).length
          rw [issued, endings_cons, count]
          rfl

theorem not_succeeds {new : List Event} {slot : Slot} (before : List Event) :
    ¬ Succeeds ((.threw slot :: before) ++ new) :=
  fun succeeds => not_calm succeeds.calm

/-- The command of the request ended: it succeeded, or the run is none of successes. -/
theorem followed_ended (noAuto : drv.autoCmd12 = false) {new : List Event} {slot : Slot} {c : Cmd}
    {sector' n : Nat} {sizes' : List Nat} {masked : Bool} {log : List Event} {v' : View}
    (current : Current drv info read cb sector sizes new sector' n sizes' c)
    (quiet : answers new = []) (count : endings new + 1 = (submissions new).length)
    (resume : Resume drv info []
      ⟨[(slot, c)], masked, .ended slot c.cmd c.status (c.resp 0) :: log⟩ v') :
    ∃ added, v'.log = added ++ log ∧ (Succeeds (added ++ new) →
      Followed drv info read cb sector sizes (added ++ new) v'.pending) := by
  by_cases success : c.status = .success
  · have issued : submissions (.ended slot c.cmd c.status (c.resp 0) :: new) = submissions new :=
      (submissions_cons _ _).trans (List.append_nil _)
    have quiet' : answers (.ended slot c.cmd c.status (c.resp 0) :: new) = [] :=
      (answers_cons _ _).trans ((List.append_nil _).trans quiet)
    obtain ⟨added, log', followed⟩ := followed_resume drv info noAuto _
      (current.of_log drv info issued) success quiet' (by rw [endings_cons, issued]; exact count) resume
    refine ⟨added ++ [.ended slot c.cmd c.status (c.resp 0)], ?_, fun _ => ?_⟩
    · rw [log', List.append_assoc]
      rfl
    · rw [List.append_assoc]
      exact followed
  · obtain ⟨added, log'⟩ := resume.suffix drv info
    refine ⟨added ++ [.ended slot c.cmd c.status (c.resp 0)], ?_, fun succeeds => ?_⟩
    · rw [← log', List.append_assoc]
      rfl
    · refine absurd (succeeds.success slot c.cmd c.status (c.resp 0) ?_) success
      simp

/-- In a run of successes no continuation fails. -/
theorem not_succeeds_of_fails {new : List Event} {slot : Slot} {c : Cmd} {masked : Bool}
    {log : List Event} {v' : View} (context : c.cbIo = some cb)
    (fails : ResumeFails drv info []
      ⟨[(slot, c)], masked, .ended slot c.cmd c.status (c.resp 0) :: log⟩ v') :
    ∃ added, v'.log = added ++ log ∧ ¬ Succeeds (added ++ new) := by
  cases fails with
  | noContext none => cases context.symm.trans none
  | next context more fails =>
    cases fails with
    | refused ready refused same still => exact ⟨[_, _], rfl, not_succeeds _⟩
  | call context done escapes => cases escapes
  | done context done calls fails =>
    cases calls
    cases fails

/-- One interrupt of the run. -/
theorem followed_interrupt (noAuto : drv.autoCmd12 = false) {irq : Irq} {v v' : View}
    {new : List Event} (followed : Followed drv info read cb sector sizes new v.pending)
    (interrupt : Interrupt drv info irq [] v v') :
    ∃ added, v'.log = added ++ v.log ∧
      (Succeeds (added ++ new) → Followed drv info read cb sector sizes (added ++ new)
        v'.pending) := by
  cases interrupt with
  | spurious empty => exact ⟨[], rfl, fun _ => followed⟩
  | fault => exact ⟨[_], rfl, fun succeeds => absurd succeeds (not_succeeds [])⟩
  | running handled running =>
    cases followed with
    | underway busy current quiet count =>
      exact ⟨[], rfl, fun _ =>
        .underway running (current.handled drv info busy (handled.busy busy)) quiet count⟩
  | inout handled ended inout resume =>
    cases followed with
    | underway busy current quiet count =>
      rw [noteEnd_ended busy ended] at resume
      exact followed_ended drv info noAuto (current.handled drv info busy (handled.busy busy)) quiet count
        resume
  | inoutFails handled ended inout fails =>
    cases followed with
    | underway busy current quiet count =>
      rw [noteEnd_ended busy ended] at fails
      obtain ⟨added, log', threw⟩ := not_succeeds_of_fails drv info
        (current.handled drv info busy (handled.busy busy)).context fails
      exact ⟨added, log', fun succeeds => absurd succeeds threw⟩
  | other handled ended other =>
    cases followed with
    | underway busy current =>
      exact absurd (other.symm.trans (handled.same.inout.trans current.inout)) (by decide)

theorem Followed.of_log {new new' : List Event} {pending : List (Slot × Cmd)}
    (followed : Followed drv info read cb sector sizes new pending)
    (issued : submissions new' = submissions new) (answered : answers new' = answers new)
    (ended : endings new' = endings new) :
    Followed drv info read cb sector sizes new' pending := by
  cases followed with
  | underway busy current quiet count =>
    exact .underway busy (current.of_log drv info issued) (answered.trans quiet)
      (by rw [ended, issued]; exact count)
  | finished tiles answered' count =>
    exact .finished (by rw [issued]; exact tiles) (answered.trans answered')
      (by rw [ended, issued]; exact count)

end Step

/-- The request is accepted while nothing else is outstanding. -/
theorem followed_inout {req : Request} {cb : Callback} (context : req.cb = some cb)
    (fits : oversized drv info req = false)
    (sized : ∀ b ∈ req.blocks, 1 ≤ b.numSectors.toNat)
    (total : (blockSizes req.blocks).sum < 2 ^ 16) {v v' : View} {code : Int}
    (empty : v.pending = []) (inout : Inout drv info req v code v') :
    ∃ added, v'.log = added ++ v.log ∧
      (Succeeds added → Followed drv info req.read cb req.sector.toNat (chunks drv req.blocks)
        added v'.pending) := by
  cases inout with
  | busy full =>
    rw [empty] at full
    cases full
  | @accepted w slot c room fits' fresh kick =>
    obtain ⟨n, sizes, list, begins⟩ := firstCommand_begins drv info req sized total c
    obtain ⟨ready, word, -, inout, -, cbIo⟩ := firstCommand_resumed drv info req c
    rw [empty, List.nil_append] at kick
    cases kick with
    | idle notReady => exact absurd ready (notReady _ _ _ rfl)
    | @submit _ _ c' _ _ _ _ accepted same busy blockcnt =>
      refine ⟨[.returned (some slot) req.cb L4.eok, .submitted slot _], rfl, fun _ => ?_⟩
      have followed := followed_submit drv info [] slot
        (begins.mono drv info fun issues tiles => tiles) inout (cbIo.trans context) word same busy
        blockcnt rfl rfl
      rw [list]
      exact followed.of_log drv info ((submissions_cons _ _).trans (List.append_nil _))
        ((answers_cons _ _).trans (List.append_nil _)) (endings_cons _ _)
  | oversized _ large => exact absurd (fits.symm.trans large) (by decide)
  | @refused w slot c _ _ fails =>
    cases fails with
    | refused ready refused same still =>
      refine ⟨[.returned (some slot) req.cb (-L4.einval), .threw slot], rfl, fun succeeds => ?_⟩
      exact absurd (succeeds.calm slot) (by simp)

/-- There is always something the card could still see. -/
theorem Place.after_exists {read : Bool} {sector n : Nat} {sizes : List Nat} {c : Cmd}
    (place : Place drv read sector n sizes c) : ∃ tail, After info read sector n sizes c tail := by
  have small : ∀ m ∈ n :: sizes, m < 2 ^ 32 := by
    intro m member
    rw [← place.chunks] at member
    cases adma : drv.dmaAdma2 with
    | true =>
      rw [chunks_adma2 drv adma, List.mem_singleton] at member
      have total := place.total
      omega
    | false =>
      rw [chunks_sdma drv adma, blockSizes] at member
      obtain ⟨b, -, rfl⟩ := List.mem_map.mp member
      exact b.numSectors.isLt
  obtain ⟨rest, tiles⟩ : ∃ rest, Tiles info.addrMult read (sector + n) sizes rest :=
    Tiles.exists (fun m member => small m (List.mem_cons_of_mem _ member)) _
  have count : (BitVec.ofNat 32 n).toNat = n := by
    rw [BitVec.toNat_ofNat, Nat.mod_eq_of_lt (small n List.mem_cons_self)]
  unfold After
  split
  · exact ⟨_, ⟨_, cardAddr info.addrMult sector, BitVec.ofNat 32 n, true, false⟩, rest, rfl,
      ⟨rfl, rfl, count, rfl, rfl⟩, tiles⟩
  · split
    · exact ⟨_, ⟨_, 0, 0, false, false⟩, rest, rfl, rfl, tiles⟩
    · exact ⟨rest, tiles⟩

/-- What the commands since the acceptance of a request have to look like: they are the first ones
of a plan that moves the right sectors and bounds each transfer once, and one of them is in flight;
the request is answered, once and with success, when the last command of the plan ended, and nothing
is issued after that. -/
def Protocol (req : Request) (cb : Callback) (new : List Event) (d : Device H Irq) : Prop :=
  ∃ plan, Tiles info.addrMult req.read req.sector.toNat (chunks drv req.blocks) plan ∧
    Issue.BoundedOnce req.read none plan ∧ submissions new <+: plan ∧
    (endings new = plan.length →
      submissions new = plan ∧ answers new = [(cb, L4.eok)] ∧ d.queue.outstanding = []) ∧
    (endings new ≠ plan.length →
      answers new = [] ∧ (submissions new).length = endings new + 1)

theorem Followed.protocol {req : Request} {cb : Callback} {new : List Event} {d : Device H Irq}
    (followed : Followed drv info req.read cb req.sector.toNat (chunks drv req.blocks) new
      d.queue.pending) : Protocol drv info req cb new d := by
  generalize list : d.queue.pending = pending at followed
  cases followed with
  | underway busy current quiet count =>
    obtain ⟨tail, after⟩ := current.place.after_exists drv info
    have tiles := current.expected tail after
    refine ⟨_, tiles, tiles.boundedOnce fun _ => rfl, List.prefix_append _ _, fun all => ?_,
      fun _ => ⟨quiet, count.symm⟩⟩
    rw [List.length_append] at all
    omega
  | finished tiles answered count =>
    exact ⟨_, tiles, tiles.boundedOnce fun _ => rfl, List.prefix_rfl,
      fun _ => ⟨rfl, answered, CmdQueue.pending_eq_nil.mp list⟩, fun unequal => absurd count unequal⟩

/-- From `d` on, the commands were those of the request as long as every command succeeds. -/
def Follows (req : Request) (cb : Callback) (d d' : Device H Irq) : Prop :=
  ∃ new, d'.log = new ++ d.log ∧ (Succeeds new →
    Followed drv info req.read cb req.sector.toNat (chunks drv req.blocks) new d'.queue.pending)

theorem follows_inout {d : Device H Irq} (settled : d.queue.Settled)
    (idle : d.queue.outstanding = []) {req : Request} {cb : Callback} (context : req.cb = some cb)
    (fits : oversized drv info req = false) (sized : ∀ b ∈ req.blocks, 1 ≤ b.numSectors.toNat)
    (total : (blockSizes req.blocks).sum < 2 ^ 16) :
    Follows drv info req cb d (step drv info (.inout req) d) := by
  refine after_of_wp (P := fun d' : Device H Irq => Follows drv info req cb d d') ?_
  have empty : d.view.pending = [] := CmdQueue.pending_eq_nil.mpr idle
  rw [exec, wp_callInout]
  refine (inoutData_spec drv info settled req).mono (fun _ _ post =>
    followed_inout drv info context fits sized total empty post.2) ?_
  intro _ d' post
  have escapes := post.2
  generalize d'.view = v' at escapes
  cases escapes with
  | oversized room others => exact absurd empty others
  | refused room others => exact absurd empty others

theorem follows_irq (noAuto : drv.autoCmd12 = false) {req : Request} {cb : Callback}
    {d d' : Device H Irq} (settled : d'.queue.Settled) (follows : Follows drv info req cb d d')
    (irq : Irq) : Follows drv info req cb d (step drv info (.irq irq []) d') := by
  rcases follows with ⟨new, log', followed⟩
  refine after_of_wp (P := fun d'' : Device H Irq => Follows drv info req cb d d'') ?_
  apply (handleIrq_spec drv info irq [] settled).imp_ok
  intro _ d'' post
  obtain ⟨added, grown⟩ := post.2.suffix drv info
  have log'' : d''.log = (added ++ new) ++ d.log := by
    rw [List.append_assoc, ← log']
    exact grown.symm
  refine ⟨added ++ new, log'', fun succeeds => ?_⟩
  have before := followed succeeds.of_append
  obtain ⟨added', grown', followed'⟩ := followed_interrupt drv info noAuto before post.2
  have same : added' = added := List.append_cancel_right (grown'.symm.trans grown.symm)
  rw [same] at followed'
  exact followed' succeeds

/-- A request that is accepted while nothing else is outstanding follows the protocol, whatever
interrupts come, as long as every command succeeds. -/
theorem protocol_run (noAuto : drv.autoCmd12 = false) {d : Device H Irq}
    (settled : d.queue.Settled) (idle : d.queue.outstanding = []) {req : Request} {cb : Callback}
    (context : req.cb = some cb) (fits : oversized drv info req = false)
    (sized : ∀ b ∈ req.blocks, 1 ≤ b.numSectors.toNat)
    (total : (blockSizes req.blocks).sum < 2 ^ 16) (irqs : List Irq) {new : List Event}
    (log : (Runs.run (step drv info) (.inout req :: irqs.map (.irq · [])) d).log = new ++ d.log)
    (succeeds : Succeeds new) :
    Protocol drv info req cb new
      (Runs.run (step drv info) (.inout req :: irqs.map (.irq · [])) d) := by
  have first : (step drv info (.inout req) d).queue.Settled ∧
      Follows drv info req cb d (step drv info (.inout req) d) :=
    ⟨settled_step drv info (.inout req) settled,
      follows_inout drv info settled idle context fits sized total⟩
  have interrupts : ∀ op ∈ irqs.map (Op.irq · []), ∃ irq, op = Op.irq irq [] := by
    intro op member
    obtain ⟨irq, -, rfl⟩ := List.mem_map.mp member
    exact ⟨irq, rfl⟩
  have final := Runs.run_invariant
    (I := fun d' : Device H Irq => d'.queue.Settled ∧ Follows drv info req cb d d')
    (P := fun op _ => ∃ irq, op = Op.irq irq [])
    (fun op d' inv single => by
      rcases single with ⟨irq, rfl⟩
      exact ⟨settled_step drv info _ inv.1, follows_irq drv info noAuto inv.1 inv.2 irq⟩)
    first (Runs.along_of_forall interrupts _)
  rcases final with ⟨-, new', log', followed⟩
  cases List.append_cancel_right (log.symm.trans log')
  exact (followed succeeds).protocol drv info

end Device

end Emmc
