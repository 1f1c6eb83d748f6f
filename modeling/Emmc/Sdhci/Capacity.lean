import Mathlib.Algebra.Order.BigOperators.Group.List
import Mathlib.Algebra.Order.Group.Nat
import Emmc.Device.Commands
import Emmc.Sdhci.Irq

/-!
# Advertised requests and the capacity of the controller

The device advertises a number of segments and a size of each segment. `Submittable` says that a
request meets none of the limits of capacity: the 16-bit block counts, the descriptor memory and the
bounce buffer.

* `submittable_of_sectors`: within the advertised limits, the total number of sectors is all that
  matters.
* `advertised_submittable_iff`: with a bounce buffer, the advertised sizes take its size into
  account but not the 16-bit counts; advertised requests are submittable exactly as long as the
  counts cannot be exceeded.
-/

namespace Emmc

open Throwing

namespace Sdhci

variable (s : Sdhci) (info : DeviceInfo)

/-- The request stays within the advertised limits. -/
structure Advertised (req : Request) : Prop where
  segments : req.blocks.length ≤ info.maxSeg
  sizes : ∀ b ∈ req.blocks, b.numSectors.toNat * Device.sectorSize ≤ Device.maxSize s.hwDrv info

/-- No submission of the request fails for lack of capacity, and the announced count is the number
of sectors. -/
structure Submittable (req : Request) : Prop where
  count : (Device.blockSizes req.blocks).sum ≤ RegBlkAtt.maxBlocks
  announced : ∀ c, (Device.firstCommand s.hwDrv info req c).cmd = Mmc.cmd23SetBlockCount →
    (Mmc.ArgCmd23SetBlockCount.blocks.get (Device.firstCommand s.hwDrv info req c).arg).toNat =
      (Device.blockSizes req.blocks).sum
  fits : ∀ c h, ∀ c' ∈ [Device.firstCommand s.hwDrv info req c,
      (Device.handleIrqInoutAdma2 info (Device.firstCommand s.hwDrv info req c)).1],
    wp s.cmdSubmit (fun _ _ => True) (fun e _ => ¬ IsCapacity e) (c', h)

/-! ## Sizes -/

theorem size_toNat {b : Block} (small : b.numSectors.toNat < 2 ^ 23) :
    b.size.toNat = b.numSectors.toNat * 512 := by
  rw [Block.size, BitVec.toNat_shiftLeft, Nat.shiftLeft_eq]
  exact Nat.mod_eq_of_lt (by omega)

theorem sectors_le_sum {b : Block} {blocks : List Block} (member : b ∈ blocks) :
    b.numSectors.toNat ≤ (Device.blockSizes blocks).sum :=
  List.single_le_sum (fun _ _ => Nat.zero_le _) _ (List.mem_map_of_mem member)

/-- Sizes of blocks below 4 GiB are not cut off. -/
theorem sum_sizes {blocks : List Block} (small : ∀ b ∈ blocks, b.numSectors.toNat < 2 ^ 23) :
    (blocks.map fun b => b.size.toNat).sum = (Device.blockSizes blocks).sum * 512 := by
  induction blocks with
  | nil => rfl
  | cons b rest ih =>
    have sum : (Device.blockSizes (b :: rest)).sum =
        b.numSectors.toNat + (Device.blockSizes rest).sum := rfl
    rw [List.map_cons, List.sum_cons, size_toNat (small b List.mem_cons_self), sum,
      ih fun b member => small b (List.mem_cons_of_mem _ member), Nat.add_mul]

theorem sum_le_of_sizes {blocks : List Block} {limit : Nat}
    (sizes : ∀ b ∈ blocks, b.numSectors.toNat * 512 ≤ limit) :
    (Device.blockSizes blocks).sum * 512 ≤ blocks.length * limit := by
  induction blocks with
  | nil => simp [Device.blockSizes]
  | cons b rest ih =>
    have sum : (Device.blockSizes (b :: rest)).sum =
        b.numSectors.toNat + (Device.blockSizes rest).sum := rfl
    have first := sizes b List.mem_cons_self
    have later := ih fun b' member => sizes b' (List.mem_cons_of_mem _ member)
    rw [sum, List.length_cons, Nat.succ_mul, Nat.add_mul, Nat.add_comm (rest.length * limit)]
    exact Nat.add_le_add first later

/-- What the device divides among the segments. -/
def capacity : Nat := if s.bbSize.toNat ≠ 0 then s.bbSize.toNat else maxInoutReqSize s.type

theorem maxSize_eq (same : info.maxSeg = s.maxSeg) :
    Device.maxSize s.hwDrv info = s.capacity / s.maxSeg / 512 * 512 := by
  rw [← same]
  rfl

/-- The advertised segments together. -/
theorem Advertised.total {req : Request} (same : info.maxSeg = s.maxSeg)
    (advertised : s.Advertised info req) :
    (Device.blockSizes req.blocks).sum ≤ s.maxSeg * (s.capacity / s.maxSeg / 512) := by
  have sum := sum_le_of_sizes advertised.sizes
  have segments := Nat.mul_le_mul_right (Device.maxSize s.hwDrv info) advertised.segments
  have both := Nat.le_trans sum segments
  rw [same, s.maxSize_eq info same, ← Nat.mul_assoc] at both
  exact Nat.le_of_mul_le_mul_right both (by decide)

theorem segments_mul_le (n k : Nat) : n * (k / n / 512) * 512 ≤ k := by
  calc n * (k / n / 512) * 512 = n * (k / n / 512 * 512) := Nat.mul_assoc _ _ _
    _ ≤ n * (k / n) := Nat.mul_le_mul_left _ (Nat.div_mul_le_self _ _)
    _ ≤ k := Nat.mul_div_le _ _

/-- Each block takes at most one descriptor that it does not fill. -/
theorem length_plan (blocks : List Block) (bbOffs : U32) :
    (s.plan blocks bbOffs).length * Adma2Desc.maxLength ≤
      (blocks.map fun b => b.size.toNat).sum + blocks.length * (Adma2Desc.maxLength - 1) := by
  induction blocks generalizing bbOffs with
  | nil => simp [plan]
  | cons b rest ih =>
    have later := ih (s.target b bbOffs).2
    have first : (pieces (s.region b bbOffs)).length * Adma2Desc.maxLength <
        b.size.toNat + Adma2Desc.maxLength :=
      Memory.length_cut (s.region b bbOffs).size (s.region b bbOffs) (by decide)
    rw [plan, List.length_append, length_marked, List.map_cons, List.sum_cons, List.length_cons,
      Nat.add_mul, Nat.succ_mul]
    generalize Adma2Desc.maxLength = max at later first ⊢
    omega

/-- The bounce buffer offsets do not leave the buffer as long as all blocks fit. -/
theorem roomy_of_total (blocks : List Block) (bbOffs : U32)
    (fits : bbOffs.toNat + (blocks.map fun b => b.size.toNat).sum ≤ s.bbSize.toNat)
    (small : bbOffs.toNat + (blocks.map fun b => b.size.toNat).sum < 2 ^ 32) :
    s.roomy blocks bbOffs = true := by
  induction blocks generalizing bbOffs with
  | nil => rfl
  | cons b rest ih =>
    rw [List.map_cons, List.sum_cons] at fits small
    have sum : (bbOffs + b.size).toNat = bbOffs.toNat + b.size.toNat := by
      rw [BitVec.toNat_add]
      exact Nat.mod_eq_of_lt (by omega)
    have next : (s.target b bbOffs).2.toNat ≤ bbOffs.toNat + b.size.toNat := by
      rw [target]
      split
      · exact Nat.le_of_eq sum
      · exact Nat.le_add_right _ _
    rw [roomy, ih _ (by omega) (by omega), Bool.and_true, roomFor, sum,
      decide_eq_true (show bbOffs.toNat + b.size.toNat ≤ s.bbSize.toNat by omega), Bool.or_true]

theorem roomy_of_unprovided (unprovided : s.bbSize = 0) (blocks : List Block) (bbOffs : U32) :
    s.roomy blocks bbOffs = true := by
  have direct : ∀ b, s.bounces b = false := by
    intro b
    rw [bounces, providedBounceBuffer, unprovided]
    rfl
  induction blocks generalizing bbOffs with
  | nil => rfl
  | cons b rest ih =>
    rw [roomy, ih, Bool.and_true, roomFor, direct]
    rfl

/-- The descriptor memory has room for a full request with the advertised number of segments. -/
theorem segments_add_le_maxDescs : 1023 + s.maxSeg ≤ s.maxDescs := by
  have some := s.segments.1
  rw [maxDescs, adma2DescMemSize_eq]
  cases s.adma2Is64 <;> simp only [Adma2Desc.sizeOf, if_true, Bool.false_eq_true, if_false] <;> omega

/-! ## Submission within the limits -/

/-- The blocks of a request whose sectors can be counted neither exceed the descriptor memory nor
the bounce buffer. -/
theorem not_overflows {req : Request} (same : info.maxSeg = s.maxSeg)
    (advertised : s.Advertised info req)
    (counted : (Device.blockSizes req.blocks).sum ≤ RegBlkAtt.maxBlocks) :
    ¬ s.Overflows req.blocks 0 0 := by
  have sizes : (req.blocks.map fun b => b.size.toNat).sum =
      (Device.blockSizes req.blocks).sum * 512 := by
    refine sum_sizes fun b member => ?_
    have bound := Nat.le_trans (sectors_le_sum member) counted
    exact Nat.lt_of_le_of_lt bound (by decide)
  have segments := advertised.segments
  have bound := s.segments_add_le_maxDescs
  have length := s.length_plan req.blocks 0
  have max : Adma2Desc.maxLength = 32768 := rfl
  have blocks : RegBlkAtt.maxBlocks = 65535 := rfl
  rw [same] at segments
  rw [sizes, max] at length
  rw [blocks] at counted
  intro given
  rcases given with small | many
  · rcases eq_or_ne s.bbSize 0 with unprovided | provided
    · rw [s.roomy_of_unprovided unprovided] at small
      exact Bool.false_ne_true small.symm
    · have total : (Device.blockSizes req.blocks).sum * 512 ≤ s.bbSize.toNat := by
        have some : s.bbSize.toNat ≠ 0 := fun none => provided (BitVec.eq_of_toNat_eq none)
        have size : s.capacity = s.bbSize.toNat := if_pos some
        have limit := Nat.mul_le_mul_right 512 (advertised.total s info same)
        rw [size] at limit
        exact Nat.le_trans limit (segments_mul_le _ _)
      have zero : (0 : U32).toNat = 0 := rfl
      rw [s.roomy_of_total req.blocks 0 (by rw [sizes, zero]; omega)
        (by rw [sizes, zero]; omega)] at small
      exact Bool.false_ne_true small.symm
  · omega

/-- The commands of a request carry its block list and the number of its sectors. -/
theorem firstCommand_carries (adma2 : s.dmaAdma2 = true) (req : Request) (c : Cmd) :
    ∀ c' ∈ [Device.firstCommand s.hwDrv info req c,
      (Device.handleIrqInoutAdma2 info (Device.firstCommand s.hwDrv info req c)).1],
    c'.blocks = req.blocks ∧ c'.blockcnt = Device.totalSectors req.blocks := by
  have first : Device.firstCommand s.hwDrv info req c =
      Device.setBlockCountAdma2 s.hwDrv info (Device.requested req c) := if_pos adma2
  have start : (Device.firstCommand s.hwDrv info req c).blocks = req.blocks ∧
      (Device.firstCommand s.hwDrv info req c).blockcnt = Device.totalSectors req.blocks := by
    rw [first]
    by_cases direct : (!info.hasCmd23 || s.hwDrv.autoCmd23) = true
    · rw [Device.setBlockCountAdma2_direct direct]
      cases known : info.hasCmd23 <;> simp only [Device.markCmd12, known] <;> exact ⟨rfl, rfl⟩
    · rw [Device.setBlockCountAdma2_announce direct]
      exact ⟨rfl, rfl⟩
  intro c' member
  rcases List.mem_cons.mp member with rfl | next
  · exact start
  · cases List.mem_singleton.mp next
    by_cases announce : (Device.firstCommand s.hwDrv info req c).cmd = Mmc.cmd23SetBlockCount
    · rw [Device.handleIrqInoutAdma2_next announce]
      cases known : info.hasCmd23 <;> simp only [Device.markCmd12, known] <;> exact start
    · rw [Device.handleIrqInoutAdma2_done announce]
      exact start

/-- The argument of CMD23 is the block count field. -/
theorem firstCommand_arg (adma2 : s.dmaAdma2 = true) (req : Request) (c : Cmd)
    (announce : (Device.firstCommand s.hwDrv info req c).cmd = Mmc.cmd23SetBlockCount) :
    (Device.firstCommand s.hwDrv info req c).arg =
      Mmc.ArgCmd23SetBlockCount.blocks.set 0 (Device.totalSectors req.blocks) := by
  have first : Device.firstCommand s.hwDrv info req c =
      Device.setBlockCountAdma2 s.hwDrv info (Device.requested req c) := if_pos adma2
  rw [first] at announce ⊢
  by_cases direct : (!info.hasCmd23 || s.hwDrv.autoCmd23) = true
  · rw [Device.setBlockCountAdma2_direct direct] at announce
    refine absurd ?_ (Device.multipleBlock_ne_cmd23 (Device.requested req c))
    cases known : info.hasCmd23 <;> simp only [Device.markCmd12, known] at announce <;>
      exact announce
  · rw [Device.setBlockCountAdma2_announce direct]
    rfl

theorem submittable_of_sectors {req : Request} (adma2 : s.dmaAdma2 = true)
    (same : info.maxSeg = s.maxSeg) (advertised : s.Advertised info req)
    (counted : (Device.blockSizes req.blocks).sum ≤ RegBlkAtt.maxBlocks) :
    s.Submittable info req := by
  have total : (Device.totalSectors req.blocks).toNat = (Device.blockSizes req.blocks).sum :=
    Device.totalSectors_toNat (Nat.lt_succ_of_le counted)
  refine ⟨counted, fun c announce => ?_, ?_⟩
  · rw [s.firstCommand_arg info adma2 req c announce]
    rw [Bitfield.toNat_get_set, total]
    exact Nat.mod_eq_of_lt (Nat.lt_succ_of_le counted)
  · intro c h c' member
    obtain ⟨blocks, blockcnt⟩ := s.firstCommand_carries info adma2 req c c' member
    refine (s.cmdSubmit_spec c' h).mono (fun _ _ _ => trivial) ?_
    rintro e t ⟨-, refused⟩ capacity
    have some : c'.blocks ≠ [] := by
      rw [blocks]
      exact List.cons_ne_nil _ _
    rcases refused.capacity capacity some with exceeds | many
    · rw [blocks] at exceeds
      exact s.not_overflows info same advertised counted exceeds
    · rw [blockcnt, total] at many
      exact absurd (Nat.lt_of_lt_of_le (Nat.lt_succ_of_le counted) many) (Nat.lt_irrefl _)

/-- As many full segments as advertised. -/
def fullRequest : Request :=
  let b : Block := ⟨0, 0, BitVec.ofNat 32 (s.capacity / s.maxSeg / 512)⟩
  { sector := 0, first := b, rest := List.replicate (s.maxSeg - 1) b, cb := none, read := true }

theorem blocks_fullRequest : s.fullRequest.blocks =
    List.replicate s.maxSeg ⟨0, 0, BitVec.ofNat 32 (s.capacity / s.maxSeg / 512)⟩ := by
  have split : ∀ b : Block, List.replicate s.maxSeg b = b :: List.replicate (s.maxSeg - 1) b := by
    intro b
    rw [← List.replicate_succ, Nat.sub_add_cancel s.segments.1]
  exact (split _).symm

theorem capacity_le : s.capacity ≤ 2 ^ 32 := by
  rw [capacity]
  split
  · rename_i some
    have provided : s.bbSize ≠ 0 := fun none => some (by rw [none]; rfl)
    have bound := s.bounce_end_le provided
    have limit := s.dmaLimit_lt
    omega
  · rw [maxInoutReqSize_eq]
    decide

theorem fullRequest_advertised (same : info.maxSeg = s.maxSeg) :
    s.Advertised info s.fullRequest ∧ (Device.blockSizes s.fullRequest.blocks).sum =
      s.maxSeg * (s.capacity / s.maxSeg / 512) := by
  have small : s.capacity / s.maxSeg / 512 < 2 ^ 32 := by
    have bound := s.capacity_le
    have quotient := Nat.div_le_self s.capacity s.maxSeg
    omega
  have count : (BitVec.ofNat 32 (s.capacity / s.maxSeg / 512)).toNat =
      s.capacity / s.maxSeg / 512 := Nat.mod_eq_of_lt small
  refine ⟨⟨?_, fun b member => ?_⟩, ?_⟩
  · rw [blocks_fullRequest, List.length_replicate, same]
  · rw [blocks_fullRequest] at member
    rw [List.eq_of_mem_replicate member, count, s.maxSize_eq info same]
    exact Nat.le_refl _
  · rw [blocks_fullRequest, Device.blockSizes, List.map_replicate, List.sum_replicate, count]
    rfl

/-! ## The advertised limits -/

/-- Whatever is advertised can be submitted, exactly if there is no bounce buffer or its segments
together can still be counted. -/
theorem advertised_submittable_iff (adma2 : s.dmaAdma2 = true) (same : info.maxSeg = s.maxSeg) :
    (∀ req, s.Advertised info req → s.Submittable info req) ↔
      s.bbSize = 0 ∨
        s.maxSeg * (s.bbSize.toNat / s.maxSeg / Device.sectorSize) ≤ RegBlkAtt.maxBlocks := by
  have sector : Device.sectorSize = 512 := rfl
  rw [sector]
  apply Iff.intro
  · intro all
    rcases eq_or_ne s.bbSize 0 with unprovided | provided
    · exact Or.inl unprovided
    · have some : s.bbSize.toNat ≠ 0 := fun none => provided (BitVec.eq_of_toNat_eq none)
      have size : s.capacity = s.bbSize.toNat := if_pos some
      obtain ⟨advertised, total⟩ := s.fullRequest_advertised info same
      have count := (all s.fullRequest advertised).count
      rw [total, size] at count
      exact Or.inr count
  · intro enough req advertised
    have total := advertised.total s info same
    refine s.submittable_of_sectors info adma2 same advertised (Nat.le_trans total ?_)
    rcases eq_or_ne s.bbSize 0 with unprovided | provided
    · have size : s.capacity = 33553920 := by
        rw [capacity, unprovided]
        exact maxInoutReqSize_eq s.type
      have limit := segments_mul_le s.maxSeg s.capacity
      rw [size] at limit ⊢
      rw [RegBlkAtt.maxBlocks]
      omega
    · have some : s.bbSize.toNat ≠ 0 := fun none => provided (BitVec.eq_of_toNat_eq none)
      have size : s.capacity = s.bbSize.toNat := if_pos some
      rw [size]
      exact enough.resolve_left provided

/-- A controller with 64 segments, and with a bounce buffer at 1 GiB unless its size is zero. -/
def sample (bbSize : U64)
    (bounce : bbSize ≠ 0 → 64 <<< 10 ≤ bbSize.toNat ∧ L4.pageSize ≤ bbSize.toNat / 64 ∧
      (0x40000000 : U64).toNat + bbSize.toNat ≤ 2 ^ 64 ∧
        Emmc.dmaAccessible Platform.fullRange.dmaLimit 0x40000000 bbSize = true) : Sdhci where
  type := .plain
  socRev := { newStyle := false, type := 0, revision := 0 }
  maxSeg := 64
  adma2Is64 := false
  adma2DescPhys := 0x1000
  bbPhys := 0x40000000
  bbSize := bbSize
  segments := segments_64
  descriptors := by decide
  bounce := bounce

def unbuffered : Sdhci := sample 0 fun provided => absurd rfl provided

/-- The same controller in SDMA mode. -/
def unchained : Sdhci :=
  { unbuffered with dmaAdma2 := false, autoCmd23Enabled := false, auto := fun enabled => enabled }

/-- The bounce buffer has 32 MiB. -/
def buffered : Sdhci := sample 0x2000000 fun _ => by decide

theorem unbuffered_submittable : unbuffered.Submittable { maxSeg := 64 } unbuffered.fullRequest :=
  (unbuffered.advertised_submittable_iff { maxSeg := 64 } rfl rfl).mpr (Or.inl rfl) _
    (unbuffered.fullRequest_advertised { maxSeg := 64 } rfl).1

/-- 64 segments of 512 KiB fill the bounce buffer with 65536 sectors, one more than can be counted;
CMD23 announces none of them. -/
theorem buffered_not_submittable :
    buffered.Advertised { maxSeg := 64 } buffered.fullRequest ∧
      (Device.firstCommand buffered.hwDrv { maxSeg := 64 } buffered.fullRequest {}).cmd =
        Mmc.cmd23SetBlockCount ∧
      (Device.firstCommand buffered.hwDrv { maxSeg := 64 } buffered.fullRequest {}).arg = 0 ∧
      ¬ buffered.Submittable { maxSeg := 64 } buffered.fullRequest := by
  obtain ⟨advertised, total⟩ := buffered.fullRequest_advertised { maxSeg := 64 } rfl
  have sectors : (Device.totalSectors buffered.fullRequest.blocks).toNat = 65536 := by
    rw [Device.totalSectors_toNat_mod, total]
    rfl
  refine ⟨advertised, rfl, ?_, fun submittable => ?_⟩
  · have count : Device.totalSectors buffered.fullRequest.blocks = 65536 :=
      BitVec.eq_of_toNat_eq sectors
    rw [buffered.firstCommand_arg { maxSeg := 64 } rfl _ _ rfl, count]
    rfl
  · have counted := submittable.count
    rw [total] at counted
    exact absurd counted (by decide)

end Sdhci

end Emmc
