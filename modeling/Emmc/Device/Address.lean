import Emmc.Device.Protocol
import Emmc.Device.Life
import Emmc.Card

/-!
# The addresses of a request

The 64-bit sector of a request is cut to 32 bits when the request is entered into its slot, and what a
data command gets as its argument is cut again. Nothing is lost within the capacity of a supported card.

* `Placed`: the blocks that are left begin at the sector of the command, which is where a data command
  starts.
* `Life.placed`: so it is with every command of a request.
* `Life.exact`, `exact_run`: within the capacity, the argument is exact.
* `cardAddr_inj`: no two sectors have the same address.
-/

namespace Emmc

variable {H Irq : Type}

namespace Device

/-- The command comes to the blocks of the request that are left, at their first sector. -/
structure Placed (drv : HwDrv H Irq) (req : Request) (c : Cmd) : Prop where
  position : ∃ front, req.blocks = front ++ c.blocks ∧
    c.sector = BitVec.ofNat 32 (req.sector.toNat + (blockSizes front).sum)
  whole : drv.dmaAdma2 = true → c.blocks = req.blocks

/-- A data command has a block and starts at the sector. -/
def Addressed (info : DeviceInfo) (c : Cmd) : Prop :=
  c.flags.hasData = true → c.arg = sectorArg info c ∧ c.blocks ≠ []

variable {drv : HwDrv H Irq} {info : DeviceInfo} {req : Request} {c : Cmd}

theorem Placed.of_same (placed : Placed drv req c) {c' : Cmd} (sector : c'.sector = c.sector)
    (blocks : c'.blocks = c.blocks) : Placed drv req c' := by
  constructor
  · rw [sector, blocks]
    exact placed.position
  · rw [blocks]
    exact placed.whole

theorem addressed_nodata (word arg : U32) : Addressed info (c.reinitInoutNodata word arg) :=
  fun absurd => (Bool.false_ne_true absurd).elim

theorem markCmd12_address (info : DeviceInfo) (c : Cmd) :
    (markCmd12 info c).sector = c.sector ∧ (markCmd12 info c).arg = c.arg := by
  unfold markCmd12
  split
  · exact ⟨rfl, rfl⟩
  · exact ⟨rfl, rfl⟩

/-- A data command is set up with the sector of the request as it stands. -/
theorem addressed_data (left : c.blocks ≠ []) (word blockcnt : U32) (autoCmd23 : Bool) :
    Addressed info (markCmd12 info
      (c.reinitInoutData word (sectorArg info c) blockcnt 512 autoCmd23)) := by
  intro _
  rcases markCmd12_address info (c.reinitInoutData word (sectorArg info c) blockcnt 512 autoCmd23) with
    ⟨sector, arg⟩
  have same := congrArg (fun s : U32 => (s.setWidth 64 * info.addrMult).setWidth 32) sector
  apply And.intro
  · rw [arg]
    exact same.symm
  · rw [(markCmd12_fields info _).2.1]
    exact left

/-! ## Steps -/

theorem placed_requested (req : Request) (c : Cmd) : Placed drv req (requested req c) := by
  constructor
  · refine ⟨[], rfl, ?_⟩
    show req.sector.setWidth 32 = BitVec.ofNat 32 (req.sector.toNat + 0)
    rw [Nat.add_zero, BitVec.ofNat_toNat]
  · exact fun _ => rfl

theorem sum_takeWhile_empty (blocks : List Block) :
    (blockSizes (blocks.takeWhile fun b => b.numSectors = 0)).sum = 0 := by
  induction blocks with
  | nil => rfl
  | cons b rest ih =>
    by_cases empty : b.numSectors = 0
    · rw [List.takeWhile_cons_of_pos (by simpa using empty)]
      show b.numSectors.toNat + (blockSizes _).sum = 0
      rw [empty, ih]
      rfl
    · rw [List.takeWhile_cons_of_neg (by simpa using empty)]
      rfl

/-- Going on to the next block. -/
theorem Placed.nextBlock (sdma : drv.dmaAdma2 = false) (placed : Placed drv req c) :
    Placed drv req (nextBlock c) := by
  constructor
  · obtain ⟨front, list, sector⟩ := placed.position
    unfold Device.nextBlock
    cases blocks : c.blocks with
    | nil =>
      rw [blocks] at list
      exact ⟨front, by rw [list, blocks], sector⟩
    | cons b rest =>
      have split : rest = rest.takeWhile (fun b => b.numSectors = 0) ++
          rest.dropWhile (fun b => b.numSectors = 0) := List.takeWhile_append_dropWhile.symm
      rw [blocks] at list
      refine ⟨front ++ b :: rest.takeWhile (fun b => b.numSectors = 0), ?_, ?_⟩
      · rw [list, List.append_assoc, List.cons_append]
        exact congrArg (fun l => front ++ b :: l) split
      · have sum : (blockSizes (front ++ b :: rest.takeWhile fun b => b.numSectors = 0)).sum =
            (blockSizes front).sum + b.numSectors.toNat := by
          have rest := sum_takeWhile_empty rest
          unfold blockSizes at rest ⊢
          rw [List.map_append, List.sum_append, List.map_cons, List.sum_cons, rest, Nat.add_zero]
        show c.sector + b.numSectors = _
        apply BitVec.eq_of_toNat_eq
        rw [sum, sector, BitVec.toNat_add, BitVec.toNat_ofNat, BitVec.toNat_ofNat, Nat.mod_add_mod,
          Nat.add_assoc]
  · exact fun adma => absurd (sdma.symm.trans adma) Bool.false_ne_true

theorem transferBlockSdma_address (info : DeviceInfo) (c : Cmd) :
    (transferBlockSdma info c).1.sector = c.sector ∧ (transferBlockSdma info c).1.blocks = c.blocks := by
  cases list : c.blocks with
  | nil => exact ⟨by rw [transferBlockSdma_done list], by rw [transferBlockSdma_done list, list]⟩
  | cons b rest =>
    by_cases single : b.numSectors = 1
    · rw [transferBlockSdma_single list single]
      exact ⟨rfl, list⟩
    · by_cases announce : info.hasCmd23 = true ∧ c.cmd ≠ Mmc.cmd23SetBlockCount
      · rw [transferBlockSdma_announce list single announce]
        exact ⟨rfl, list⟩
      · rw [transferBlockSdma_multiple list single announce]
        exact ⟨(markCmd12_address info _).1, ((markCmd12_fields info _).2.1).trans list⟩

theorem transferBlockSdma_addressed (left : c.blocks ≠ []) :
    Addressed info (transferBlockSdma info c).1 := by
  cases list : c.blocks with
  | nil => exact absurd list left
  | cons b rest =>
    by_cases single : b.numSectors = 1
    · rw [transferBlockSdma_single list single]
      exact fun _ => ⟨rfl, left⟩
    · by_cases announce : info.hasCmd23 = true ∧ c.cmd ≠ Mmc.cmd23SetBlockCount
      · rw [transferBlockSdma_announce list single announce]
        exact addressed_nodata _ _
      · rw [transferBlockSdma_multiple list single announce]
        exact addressed_data left _ _ _

theorem firstCommand_placed (drv : HwDrv H Irq) (info : DeviceInfo) (req : Request) (c : Cmd) :
    Placed drv req (firstCommand drv info req c) ∧ Addressed info (firstCommand drv info req c) := by
  have placed : Placed drv req (requested req c) := placed_requested req c
  have left : (requested req c).blocks ≠ [] := List.cons_ne_nil _ _
  unfold firstCommand
  split
  · by_cases direct : (!info.hasCmd23 || drv.autoCmd23) = true
    · rw [setBlockCountAdma2_direct direct]
      exact ⟨placed.of_same (markCmd12_address info _).1 (markCmd12_fields info _).2.1,
        addressed_data left _ _ _⟩
    · rw [setBlockCountAdma2_announce direct]
      exact ⟨placed.of_same rfl rfl, addressed_nodata _ _⟩
  · obtain ⟨sector, blocks⟩ := transferBlockSdma_address info (requested req c)
    exact ⟨placed.of_same sector blocks, transferBlockSdma_addressed left⟩

/-- Going on with a request. -/
theorem inoutWork_placed (placed : Placed drv req c)
    (more : (inoutWork drv info c).2 = .moreWork) :
    Placed drv req (inoutWork drv info c).1 ∧ Addressed info (inoutWork drv info c).1 := by
  by_cases stop : needsCmd12 drv c
  · rw [inoutWork_of_cmd12 drv info stop]
    exact ⟨placed.of_same rfl rfl, addressed_nodata _ _⟩
  rw [inoutWork_of_not_cmd12 drv info stop] at more ⊢
  have same : (restored c).sector = c.sector ∧ (restored c).blocks = c.blocks := by
    unfold restored
    split
    · exact ⟨rfl, rfl⟩
    · exact ⟨rfl, rfl⟩
  have placed' := placed.of_same same.1 same.2
  by_cases failed : (restored c).error = true
  · rw [if_pos failed] at more
    cases more
  rw [if_neg failed] at more ⊢
  cases mode : drv.dmaAdma2 with
  | true =>
    rw [mode, if_pos rfl] at more
    rw [if_pos rfl]
    by_cases cmd23 : (restored c).cmd = Mmc.cmd23SetBlockCount
    · have left : (restored c).blocks ≠ [] := by
        rw [placed'.whole mode]
        exact List.cons_ne_nil _ _
      rw [handleIrqInoutAdma2_next cmd23]
      exact ⟨placed'.of_same (markCmd12_address info _).1 (markCmd12_fields info _).2.1,
        addressed_data left _ _ _⟩
    · rw [handleIrqInoutAdma2_done cmd23] at more
      cases more
  | false =>
    rw [mode, if_neg Bool.false_ne_true, handleIrqInoutSdma_eq] at more
    rw [if_neg Bool.false_ne_true, handleIrqInoutSdma_eq]
    have left : (advanced (restored c)).blocks ≠ [] := by
      intro done
      rw [transferBlockSdma_done done] at more
      cases more
    have advanced : Placed drv req (advanced (restored c)) := by
      unfold Device.advanced
      split
      · exact placed'.nextBlock mode
      · exact placed'
    rcases transferBlockSdma_address info (Device.advanced (restored c)) with
      ⟨sector, blocks⟩
    exact ⟨advanced.of_same sector blocks, transferBlockSdma_addressed left⟩

/-! ## Lives -/

theorem Life.placed {past : List Cmd} (life : Life drv info req past c) :
    Placed drv req c ∧ Addressed info c := by
  induction life with
  | first c => exact firstCommand_placed drv info req c
  | @next past c c' life same ended more ih =>
    exact inoutWork_placed (ih.1.of_same same.sector same.blocks) more

/-! ## Within the capacity -/

/-- The first sector of the blocks that are left behind `front`. -/
def sectorBehind (req : Request) (front : List Block) : Nat :=
  req.sector.toNat + (blockSizes front).sum

theorem sum_pos {blocks : List Block} (left : blocks ≠ [])
    (full : ∀ b ∈ blocks, 1 ≤ b.numSectors.toNat) : 1 ≤ (blockSizes blocks).sum := by
  cases blocks with
  | nil => exact absurd rfl left
  | cons b rest =>
    have some := full b List.mem_cons_self
    show 1 ≤ b.numSectors.toNat + (blockSizes rest).sum
    omega

/-- Nothing of the product is lost in 32 bits. -/
theorem cardAddr_toNat {card : Card} (supported : card.Supported) {sector : Nat}
    (inside : sector < card.numSectors.toNat) :
    (cardAddr card.addrMult sector).toNat = sector * card.addrMult.toNat := by
  have fit := Card.addresses_fit supported
  have less : sector * card.addrMult.toNat < card.numSectors.toNat * card.addrMult.toNat :=
    Nat.mul_lt_mul_of_pos_right inside card.addrMult_pos
  unfold cardAddr
  rw [BitVec.toNat_ofNat, Nat.mod_eq_of_lt (Nat.lt_of_lt_of_le less fit)]

/-- No two sectors have the same address. -/
theorem cardAddr_inj {card : Card} (supported : card.Supported) {a b : Nat}
    (left : a < card.numSectors.toNat) (right : b < card.numSectors.toNat)
    (same : cardAddr card.addrMult a = cardAddr card.addrMult b) : a = b := by
  have products := congrArg BitVec.toNat same
  rw [cardAddr_toNat supported left, cardAddr_toNat supported right] at products
  exact Nat.eq_of_mul_eq_mul_right card.addrMult_pos products

/-- The request stays within the capacity, and none of its blocks is empty. -/
structure Within (card : Card) (req : Request) : Prop where
  range : req.sector.toNat + (blockSizes req.blocks).sum ≤ card.capacity.toNat / 512
  full : ∀ b ∈ req.blocks, 1 ≤ b.numSectors.toNat

/-- The argument is the address of the first block that is left, and nothing of it is cut off. -/
def Exact (info : DeviceInfo) (req : Request) (c : Cmd) : Prop :=
  ∃ front, req.blocks = front ++ c.blocks ∧ c.blocks ≠ [] ∧
    c.arg.toNat = sectorBehind req front * info.addrMult.toNat

/-- Where something is left, it begins within the capacity. -/
theorem Within.inside {card : Card} (within : Within card req) {front rest : List Block}
    (list : req.blocks = front ++ rest) (left : rest ≠ []) :
    sectorBehind req front < card.numSectors.toNat := by
  have range := within.range
  have some : 1 ≤ (blockSizes rest).sum := by
    apply sum_pos left
    intro b member
    apply within.full
    rw [list]
    exact List.mem_append_right _ member
  rw [card.capacity_div, list] at range
  unfold blockSizes at range some
  rw [List.map_append, List.sum_append] at range
  unfold sectorBehind blockSizes
  omega

theorem Life.exact {card : Card} (supported : card.Supported) (mult : info.addrMult = card.addrMult)
    (within : Within card req) {past : List Cmd} (life : Life drv info req past c)
    (data : c.flags.hasData = true) : Exact info req c := by
  obtain ⟨placed, addressed⟩ := life.placed
  obtain ⟨front, list, sector⟩ := placed.position
  obtain ⟨arg, left⟩ := addressed data
  refine ⟨front, list, left, ?_⟩
  rw [arg, sectorArg_eq info sector, mult]
  exact cardAddr_toNat supported (within.inside list left)

/-- A command in flight is as it was set up. -/
theorem Exact.of_same {c' : Cmd} (exact : Exact info req c) (same : c.SameRequest c') :
    Exact info req c' := by
  unfold Exact
  rw [same.blocks, same.arg]
  exact exact

/-- In every run, whatever throws, the data command of a request that is not answered yet. -/
theorem exact_run {card : Card} (supported : card.Supported) (mult : info.addrMult = card.addrMult)
    {ops : List (Op Irq)} (within : ∀ op ∈ ops, ∀ req ∈ op.requests, Within card req) (h : H)
    {slot : Slot} (inout : ((Runs.run (step drv info) ops (start h)).queue.cmds slot).flags.inout = true)
    (data : ((Runs.run (step drv info) ops (start h)).queue.cmds slot).flags.hasData = true)
    (pending : ∀ cb code size,
      ((Runs.run (step drv info) ops (start h)).queue.cmds slot).cbIo = some cb →
        Event.callback slot cb code size ∉ (Runs.run (step drv info) ops (start h)).log) :
    ∃ op ∈ ops, ∃ req ∈ op.requests,
      Exact info req ((Runs.run (step drv info) ops (start h)).queue.cmds slot) := by
  have rule := livingRule drv info fun req => ∃ op ∈ ops, req ∈ op.requests
  have wanted : ∀ op ∈ ops, ∀ req ∈ op.requests, ∃ op ∈ ops, req ∈ op.requests :=
    fun op made req member => ⟨op, made, member⟩
  rcases ((inout_run rule wanted h trivial).slots slot).2 inout with
    ⟨req, past, c, ⟨op, made, member⟩, life, same⟩ | ⟨cb, code, size, context, called⟩
  · refine ⟨op, made, req, member, Exact.of_same ?_ same⟩
    apply life.exact supported mult (within op made req member)
    rw [← same.hasData]
    exact data
  · exact absurd called (pending cb code size context)

end Device

end Emmc
