import Emmc.Sdhci.Capacity

/-!
# The range of the DMA engine

The DMA engine reaches the addresses up to a limit, and the offset of the board is added to what it
is given. `InRange` says that a descriptor stays within this range.

* `submitsSafely_iff`: a submission stays in the range if the plan does, or if it throws.
* `transfersInRange_iff`: with a bounce buffer, the range is never left. Without one, nothing checks
  the addresses of a request: it stays in the range exactly if all segments are accessible, or if
  its submission throws for another reason.
-/

namespace Emmc

open Throwing

namespace Sdhci

variable (s : Sdhci) (info : DeviceInfo)

/-- A descriptor written for the memory at `phys` holds exactly this address as the controller sees
it, and no byte of it lies beyond the DMA limit. -/
def InRange (phys : U64) (d : Adma2Desc) : Prop :=
  (d.getAddr s.adma2Is64).toNat = phys.toNat + s.dmaOffset.toNat ∧
    ∀ i < (Adma2Desc.length.get d.word0).toNat, phys.toNat + i ≤ s.dmaLimit.toNat

/-- The submission throws before the command register is written, or all descriptors it has written
are in range. -/
def SubmitsSafely (c : Cmd) (h : Hw) : Prop :=
  wp s.cmdSubmit
    (fun _ t => ∃ new, t.2.log = new ++ h.log ∧
      ∀ i phys d, .desc i phys d ∈ new → s.InRange phys d)
    (fun _ t => h.Unissued t.2) (c, h)

/-- The commands submitted for a request, unless it is turned down before. -/
def TransfersInRange (req : Request) : Prop :=
  Device.oversized s.hwDrv info req = false → ∀ c h,
    ∀ c' ∈ [Device.firstCommand s.hwDrv info req c,
      (Device.handleIrqInoutAdma2 info (Device.firstCommand s.hwDrv info req c)).1],
    s.SubmitsSafely c' h

/-- A descriptor of the block would start beyond what a descriptor can hold. -/
def StartsHigh (b : Block) : Prop :=
  ∃ k, k * Adma2Desc.maxLength < b.size.toNat ∧
    Adma2Desc.getMaxAddr s.adma2Is64 ≤ b.dmaAddr + BitVec.ofNat 64 (k * Adma2Desc.maxLength)

/-- Number of descriptors for a block. -/
def descsOf (b : Block) : Nat := (b.size.toNat + Adma2Desc.maxLength - 1) / Adma2Desc.maxLength

/-- What makes the submission of blocks throw that do not use the bounce buffer. -/
def Refusable (blocks : List Block) : Prop :=
  (∃ b ∈ blocks, s.StartsHigh b) ∨ s.maxDescs < (blocks.map descsOf).sum ∨
    RegBlkAtt.maxBlocks < (Device.totalSectors blocks).toNat

/-! ## Descriptors -/

theorem inRange_describe_iff {e : Entry} (size : 0 < e.1.size ∧ e.1.size ≤ Adma2Desc.maxLength)
    (d : Adma2Desc) : s.InRange e.1.addr (s.describe d e) ↔
      e.1.addr.toNat + e.1.size ≤ s.dmaLimit.toNat + 1 := by
  rcases size with ⟨some, small⟩
  have len : (BitVec.ofNat 32 e.1.size).toNat = e.1.size :=
    Nat.mod_eq_of_lt (Nat.lt_of_le_of_lt small (by decide))
  rw [InRange, describe, Adma2Desc.length_transfer _ _ _ _ _ (by rw [len]; exact small),
    Adma2Desc.getAddr_transfer, len]
  apply Iff.intro
  · intro ranged
    have last := ranged.2 (e.1.size - 1) (Nat.sub_lt some Nat.one_pos)
    omega
  · intro below
    have bound := s.dmaOffset_add_dmaLimit
    have sum : (e.1.addr + s.dmaOffset).toNat = e.1.addr.toNat + s.dmaOffset.toNat := by
      rw [BitVec.toNat_add]
      exact Nat.mod_eq_of_lt (by omega)
    refine ⟨?_, fun i less => by omega⟩
    split
    · exact sum
    · rw [BitVec.toNat_setWidth, BitVec.toNat_setWidth, sum, Nat.mod_eq_of_lt (by omega),
        Nat.mod_eq_of_lt (by omega)]

/-- The plan stays within the range. -/
def PlanInRange (blocks : List Block) (bbOffs : U32) : Prop :=
  ∀ e ∈ s.plan blocks bbOffs, e.1.addr.toNat + e.1.size ≤ s.dmaLimit.toNat + 1

/-- All pieces of a region are in range exactly if the region is. -/
theorem pieces_inRange_iff (r : Region 64) :
    (∀ p ∈ pieces r, p.addr.toNat + p.size ≤ s.dmaLimit.toNat + 1) ↔
      r.size = 0 ∨ r.addr.toNat + r.size ≤ s.dmaLimit.toNat + 1 := by
  have limit := s.dmaLimit_lt
  exact (covers_pieces r).bounded_iff (fun p member => (size_of_mem_pieces member).1) (by omega)

/-- What a successful submission has logged. -/
theorem Submitted.descs {c : Cmd} {h : Hw} {t : Cmd × Hw} (adma2 : s.dmaAdma2 = true)
    (some : c.blocks ≠ []) (sent : s.Submitted c h t) :
    ∃ new, t.2.log = new ++ h.log ∧
      (∀ i phys d, .desc i phys d ∈ new → c.flags.hasData = true ∧
        ∃ d', ∃ e ∈ s.plan c.blocks 0, phys = e.1.addr ∧ d = s.describe d' e) ∧
      (c.flags.hasData = true → ∀ e ∈ s.plan c.blocks 0,
        ∃ i d, .desc i e.1.addr (s.describe d e) ∈ new) := by
  obtain ⟨h₀, h₂, xt, before, behind, final⟩ := sent.hw
  obtain ⟨new₀, log₀, setup₀⟩ := before.log
  obtain ⟨new₂, log₂, setup₂⟩ := behind.log
  have others : ∀ a ∈ [Access.reg .cmdXfrTyp xt] ++ new₂ ++ new₀, ∀ i phys d,
      a ≠ .desc i phys d := by
    rintro a member i phys d rfl
    rcases List.mem_append.mp member with later | earlier
    · rcases List.mem_append.mp later with last | setup
      · cases List.mem_singleton.mp last
      · exact Bool.false_ne_true (setup₂ _ setup)
    · exact Bool.false_ne_true (setup₀ _ earlier)
  cases data : c.flags.hasData with
  | false =>
    rw [prepared, data, if_neg Bool.false_ne_true, log₀] at log₂
    refine ⟨[.reg .cmdXfrTyp xt] ++ new₂ ++ new₀, ?_, fun i phys d member => ?_,
      fun absurd => Bool.noConfusion absurd⟩
    · rw [final, List.append_assoc, List.append_assoc, ← log₂]
      rfl
    · exact absurd rfl (others _ member i phys d)
  | true =>
    rw [prepared, data, if_pos rfl, if_pos adma2, adma2Prepared, if_pos some] at log₂
    obtain ⟨new₁, log₁, planned, written⟩ := s.log_place 0 (s.plan c.blocks 0)
      (h₀.setMem (s.copyIn c.flags.inoutRead c.blocks 0 h₀.mem))
    have start : (h₀.setMem (s.copyIn c.flags.inoutRead c.blocks 0 h₀.mem)).log = h₀.log := rfl
    rw [log₁, start, log₀] at log₂
    refine ⟨[.reg .cmdXfrTyp xt] ++ new₂ ++ (new₁ ++ new₀), ?_, fun i phys d member => ⟨rfl, ?_⟩,
      fun _ e member => ?_⟩
    · rw [final, List.append_assoc, List.append_assoc, List.append_assoc new₁, ← log₂]
      rfl
    · rcases List.mem_append.mp member with later | earlier
      · exact absurd rfl (others _ (List.mem_append_left _ later) i phys d)
      · rcases List.mem_append.mp earlier with placed | setup
        · obtain ⟨j, d', e, inPlan, same⟩ := planned _ placed
          cases same
          exact ⟨d', e, inPlan, rfl, rfl⟩
        · exact absurd rfl (others _ (List.mem_append_right _ setup) i phys d)
    · obtain ⟨i, d, inNew⟩ := written e member
      exact ⟨i, d, List.mem_append_right _ (List.mem_append_left _ inNew)⟩

/-- A submission is safe if it throws or the plan stays in the range. -/
theorem submitsSafely_iff {c : Cmd} (h : Hw) (adma2 : s.dmaAdma2 = true) (some : c.blocks ≠ []) :
    s.SubmitsSafely c h ↔ (c.status = .readyForSubmit ∧ s.accepts c = true →
      c.flags.hasData = true → s.PlanInRange c.blocks 0) := by
  have sizes : ∀ e ∈ s.plan c.blocks 0, 0 < e.1.size ∧ e.1.size ≤ Adma2Desc.maxLength :=
    s.size_of_mem_plan
  apply Iff.intro
  · intro safe accepted data e member
    refine after_of_wp (P := fun _ => _) (((s.cmdSubmit_spec c h).and safe).mono ?_ ?_)
    · intro _ t post
      rcases post with ⟨⟨-, sent⟩, new, log, ranged⟩
      obtain ⟨new', log', -, written⟩ := sent.descs s adma2 some
      obtain ⟨i, d, inNew⟩ := written data e member
      cases List.append_cancel_right (log.symm.trans log')
      exact (s.inRange_describe_iff (sizes e member) d).mp (ranged i e.1.addr _ inNew)
    · intro _ t post
      rcases post with ⟨⟨refused, -⟩, -⟩
      exact absurd accepted refused
  · intro planned
    refine (s.cmdSubmit_spec c h).mono ?_ (fun _ _ refused => refused.2.unissued)
    intro _ t post
    rcases post with ⟨accepted, sent⟩
    obtain ⟨new, log, descs, -⟩ := sent.descs s adma2 some
    refine ⟨new, log, fun i phys d inNew => ?_⟩
    obtain ⟨data, d', e, member, rfl, rfl⟩ := descs i phys d inNew
    exact (s.inRange_describe_iff (sizes e member) d').mpr (planned accepted data e member)

/-! ## Plans without a bounce buffer -/

theorem bounces_of_unprovided (unprovided : s.bbSize = 0) (b : Block) : s.bounces b = false := by
  rw [bounces, providedBounceBuffer, unprovided]
  rfl

theorem region_of_direct {b : Block} (direct : s.bounces b = false) (bbOffs : U32) :
    s.region b bbOffs = ⟨b.dmaAddr, b.size.toNat⟩ := by
  rw [region, target, direct]
  rfl

/-- A block that is accessible lies in the range, unless it is empty. -/
theorem accessible_iff (b : Block) :
    (b.size = 0 ∨ s.dmaAccessible b.dmaAddr (b.size.setWidth 64) = true) ↔
      b.size.toNat = 0 ∨ b.dmaAddr.toNat + b.size.toNat ≤ s.dmaLimit.toNat + 1 := by
  have limit := s.dmaLimit_lt
  have small := b.size.isLt
  have size : (b.size.setWidth 64).toNat = b.size.toNat :=
    BitVec.toNat_setWidth_of_le (by decide)
  rcases Nat.eq_zero_or_pos b.size.toNat with none | some
  · exact iff_of_true (Or.inl (BitVec.eq_of_toNat_eq none)) (Or.inl none)
  have notEmpty : b.size ≠ 0 := fun empty => Nat.ne_of_gt some (congrArg BitVec.toNat empty)
  rw [or_iff_right notEmpty, or_iff_right (Nat.ne_of_gt some)]
  rcases Nat.lt_or_ge (2 ^ 64) (b.dmaAddr.toNat + b.size.toNat) with wraps | fits
  · refine iff_of_false (fun accessible => ?_) (by omega)
    have start := (of_decide_eq_true accessible).1
    have below := BitVec.le_def.mp start
    omega
  · rw [s.dmaAccessible_iff (by rw [size]; exact some) (by rw [size]; exact fits), size]
    omega

theorem planInRange_unprovided (unprovided : s.bbSize = 0) (blocks : List Block) (bbOffs : U32) :
    s.PlanInRange blocks bbOffs ↔
      ∀ b ∈ blocks, b.size = 0 ∨ s.dmaAccessible b.dmaAddr (b.size.setWidth 64) = true := by
  induction blocks generalizing bbOffs with
  | nil =>
    exact iff_of_true (fun _ member => absurd member List.not_mem_nil)
      (fun _ member => absurd member List.not_mem_nil)
  | cons b rest ih =>
    have split := s.forall_plan_cons b rest bbOffs
      (P := fun r => r.addr.toNat + r.size ≤ s.dmaLimit.toNat + 1)
    have direct := s.region_of_direct (s.bounces_of_unprovided unprovided b) bbOffs
    rw [List.forall_mem_cons, ← ih, s.accessible_iff, PlanInRange, split, s.pieces_inRange_iff,
      direct]
    exact Iff.rfl

/-- Where the pieces of a region start. -/
theorem pieces_low_iff (r : Region 64) (bound : U64) :
    (∀ p ∈ pieces r, p.addr < bound) ↔ ¬ ∃ k, k * Adma2Desc.maxLength < r.size ∧
      bound ≤ r.addr + BitVec.ofNat 64 (k * Adma2Desc.maxLength) := by
  have count (k : Nat) : k < (r.size + Adma2Desc.maxLength - 1) / Adma2Desc.maxLength ↔
      k * Adma2Desc.maxLength < r.size := by
    rw [Adma2Desc.maxLength, Nat.lt_iff_add_one_le, Nat.le_div_iff_mul_le (by decide)]
    omega
  rw [pieces, Memory.cut_eq_map (by decide) (Nat.le_refl _), List.forall_mem_map]
  simp only [List.mem_range, count, not_exists, not_and, BitVec.not_le]

theorem length_pieces (b : Block) (addr : U64) :
    (pieces ⟨addr, b.size.toNat⟩).length = descsOf b := by
  rw [pieces, Memory.cut_eq_map (by decide) (Nat.le_refl _), List.length_map, List.length_range]
  rfl

theorem holds_plan_unprovided (unprovided : s.bbSize = 0) (blocks : List Block) (bbOffs : U32) :
    s.holds 0 (s.plan blocks bbOffs) = true ↔
      (blocks.map descsOf).sum ≤ s.maxDescs ∧ ¬ ∃ b ∈ blocks, s.StartsHigh b := by
  have length : (s.plan blocks bbOffs).length = (blocks.map descsOf).sum := by
    induction blocks generalizing bbOffs with
    | nil => rfl
    | cons b rest ih =>
      rw [plan, List.length_append, length_marked, ih, List.map_cons, List.sum_cons,
        s.region_of_direct (s.bounces_of_unprovided unprovided b), length_pieces]
  have low : (∀ e ∈ s.plan blocks bbOffs, e.1.addr < Adma2Desc.getMaxAddr s.adma2Is64) ↔
      ∀ b ∈ blocks, ¬ s.StartsHigh b := by
    clear length
    induction blocks generalizing bbOffs with
    | nil =>
      exact iff_of_true (fun _ member => absurd member List.not_mem_nil)
        (fun _ member => absurd member List.not_mem_nil)
    | cons b rest ih =>
      have split := s.forall_plan_cons b rest bbOffs
        (P := fun r => r.addr < Adma2Desc.getMaxAddr s.adma2Is64)
      rw [List.forall_mem_cons, ← ih, split, pieces_low_iff,
        s.region_of_direct (s.bounces_of_unprovided unprovided b)]
      exact Iff.rfl
  simp only [holds, Bool.and_eq_true, decide_eq_true_eq, List.all_eq_true, low, length,
    Nat.zero_add, not_exists, not_and]

/-! ## Plans with a bounce buffer -/

/-- Every block goes through the bounce buffer or is accessible, and the bounce buffer is not left. -/
theorem planInRange_provided (provided : s.bbSize ≠ 0) (blocks : List Block) (bbOffs : U32)
    (enough : s.roomy blocks bbOffs = true)
    (small : bbOffs.toNat + (blocks.map fun b => b.size.toNat).sum < 2 ^ 32) :
    s.PlanInRange blocks bbOffs := by
  induction blocks generalizing bbOffs with
  | nil => exact fun _ member => absurd member List.not_mem_nil
  | cons b rest ih =>
    rw [roomy, Bool.and_eq_true] at enough
    rw [List.map_cons, List.sum_cons] at small
    have split := s.forall_plan_cons b rest bbOffs
      (P := fun r => r.addr.toNat + r.size ≤ s.dmaLimit.toNat + 1)
    have sum : (bbOffs + b.size).toNat = bbOffs.toNat + b.size.toNat := by
      rw [BitVec.toNat_add]
      exact Nat.mod_eq_of_lt (by omega)
    refine split.mpr ⟨(s.pieces_inRange_iff _).mpr ?_, ih _ enough.2 ?_⟩
    · rw [region, target]
      cases bounced : s.bounces b with
      | true =>
        have limit := s.bounce_end_le provided
        have bound := s.dmaLimit_lt
        have room := enough.1
        rw [roomFor, bounced, Bool.not_true, Bool.false_or, decide_eq_true_eq, sum] at room
        have start : (s.bbPhys + bbOffs.setWidth 64).toNat = s.bbPhys.toNat + bbOffs.toNat := by
          rw [BitVec.toNat_add, BitVec.toNat_setWidth_of_le (by decide)]
          exact Nat.mod_eq_of_lt (by omega)
        refine Or.inr ?_
        rw [if_pos rfl]
        simp only [start]
        omega
      | false =>
        have accessible : s.dmaAccessible b.dmaAddr (b.size.setWidth 64) = true := by
          rw [bounces, providedBounceBuffer, decide_eq_true provided, Bool.true_and,
            Bool.not_eq_false'] at bounced
          exact bounced
        rw [if_neg Bool.false_ne_true]
        exact (s.accessible_iff b).mp (Or.inr accessible)
    · rw [target]
      split
      · rw [sum]
        omega
      · show bbOffs.toNat + _ < 2 ^ 32
        omega

/-- The descriptor table bounds the bytes of a block list. -/
theorem sum_sizes_le_plan (blocks : List Block) (bbOffs : U32) :
    (blocks.map fun b => b.size.toNat).sum ≤
      (s.plan blocks bbOffs).length * Adma2Desc.maxLength := by
  induction blocks generalizing bbOffs with
  | nil => exact Nat.zero_le _
  | cons b rest ih =>
    have later := ih (s.target b bbOffs).2
    have first : b.size.toNat ≤ (pieces (s.region b bbOffs)).length * Adma2Desc.maxLength := by
      rw [region, length_pieces, descsOf, Adma2Desc.maxLength]
      omega
    rw [List.map_cons, List.sum_cons, plan, List.length_append, length_marked, Nat.add_mul]
    exact Nat.add_le_add first later

theorem sectors_of_not_oversized {req : Request} (same : info.maxSeg = s.maxSeg)
    (sized : Device.oversized s.hwDrv info req = false) :
    ∀ b ∈ req.blocks, b.numSectors.toNat * 512 ≤ s.capacity / s.maxSeg / 512 * 512 := by
  intro b member
  have within := List.any_eq_false.mp sized b member
  rw [s.maxSize_eq info same, decide_eq_true_eq] at within
  exact Nat.le_of_not_lt within

/-- The offsets into the bounce buffer do not wrap around for blocks that are submitted. -/
theorem sizes_lt {req : Request} (same : info.maxSeg = s.maxSeg)
    (sized : Device.oversized s.hwDrv info req = false)
    (accepted : s.acceptsBlocks req.blocks = true)
    (count : (Device.totalSectors req.blocks).toNat < 2 ^ 16) :
    (req.blocks.map fun b => b.size.toNat).sum < 2 ^ 32 := by
  obtain ⟨-, held⟩ := Bool.and_eq_true_iff.mp accepted
  have room := of_decide_eq_true (Bool.and_eq_true_iff.mp held).1
  have bytes := s.sum_sizes_le_plan req.blocks 0
  have max : Adma2Desc.maxLength = 32768 := rfl
  rw [max] at bytes
  rcases Nat.lt_or_ge s.maxSeg 128 with few | all
  · have descs : s.maxDescs ≤ 131071 := by
      rw [maxDescs, adma2DescMemSize_eq]
      cases s.adma2Is64 <;>
        simp only [Adma2Desc.sizeOf, if_true, Bool.false_eq_true, if_false] <;> omega
    omega
  · have segments : s.maxSeg = 128 := Nat.le_antisymm s.segments.2 all
    have limits := s.sectors_of_not_oversized info same sized
    have bound := s.capacity_le
    have small : ∀ b ∈ req.blocks, b.numSectors.toNat < 2 ^ 23 := by
      intro b member
      have limit := limits b member
      rw [segments] at limit
      omega
    have sum := sum_sizes small
    have descs := s.maxDescs_le
    have total := Device.totalSectors_toNat_mod req.blocks
    rw [sum] at bytes ⊢
    omega

/-! ## Requests -/

/-- One of the commands of a request transfers its data. -/
theorem dataCommand_mem (adma2 : s.dmaAdma2 = true) (req : Request) (c : Cmd) :
    ∃ c' ∈ [Device.firstCommand s.hwDrv info req c,
        (Device.handleIrqInoutAdma2 info (Device.firstCommand s.hwDrv info req c)).1],
      c'.flags.hasData = true ∧ c'.status = .readyForSubmit ∧ c'.blocksize = 512 := by
  have first : Device.firstCommand s.hwDrv info req c =
      Device.setBlockCountAdma2 s.hwDrv info (Device.requested req c) := if_pos adma2
  by_cases direct : (!info.hasCmd23 || s.hwDrv.autoCmd23) = true
  · refine ⟨_, List.mem_cons_self, ?_⟩
    rw [first, Device.setBlockCountAdma2_direct direct]
    cases known : info.hasCmd23 <;> simp only [Device.markCmd12, known] <;> exact ⟨rfl, rfl, rfl⟩
  · refine ⟨_, List.mem_cons_of_mem _ (List.mem_singleton_self _), ?_⟩
    have announce : (Device.firstCommand s.hwDrv info req c).cmd = Mmc.cmd23SetBlockCount := by
      rw [first, Device.setBlockCountAdma2_announce direct]
      rfl
    rw [Device.handleIrqInoutAdma2_next announce]
    cases known : info.hasCmd23 <;> simp only [Device.markCmd12, known] <;> exact ⟨rfl, rfl, rfl⟩

/-- Acceptance of a data command in ADMA2 mode. -/
theorem accepts_data_iff {c : Cmd} (adma2 : s.dmaAdma2 = true) (data : c.flags.hasData = true)
    (some : c.blocks ≠ []) (size : c.blocksize = 512) :
    s.accepts c = true ↔ s.acceptsBlocks c.blocks = true ∧ c.blockcnt.toNat < 2 ^ 16 := by
  have fits : c.blocksize.toNat < (if s.type = .usdhc then 2 ^ 13 else 2 ^ 12) := by
    rw [size]
    split <;> decide
  simp only [accepts, data, adma2, acceptsDescs, if_pos some, acceptsCount, decide_eq_true fits,
    Bool.not_true, Bool.false_or, Bool.and_true, Bool.and_eq_true, decide_eq_true_eq]

/-- The commands of a request stay in the range exactly if no plan that is submitted leaves it. -/
theorem transfersInRange_iff_plan (adma2 : s.dmaAdma2 = true) (req : Request) :
    s.TransfersInRange info req ↔ (Device.oversized s.hwDrv info req = false →
      s.acceptsBlocks req.blocks = true → (Device.totalSectors req.blocks).toNat < 2 ^ 16 →
        s.PlanInRange req.blocks 0) := by
  have some : req.blocks ≠ [] := List.cons_ne_nil _ _
  apply Iff.intro
  · intro safe sized accepted count
    obtain ⟨c', member, data, ready, size⟩ := s.dataCommand_mem info adma2 req default
    obtain ⟨blocks, blockcnt⟩ := s.firstCommand_carries info adma2 req default c' member
    rw [← blocks] at some
    have submitted := (s.submitsSafely_iff (c := c') {} adma2 some).mp (safe sized _ _ c' member)
    rw [s.accepts_data_iff adma2 data some size, blocks, blockcnt] at submitted
    exact submitted ⟨ready, accepted, count⟩ data
  · intro planned sized c h c' member
    obtain ⟨blocks, blockcnt⟩ := s.firstCommand_carries info adma2 req c c' member
    rw [← blocks] at some
    refine (s.submitsSafely_iff h adma2 some).mpr ?_
    rintro ⟨-, accepted⟩ data
    have checked := (s.accepts_iff c').mp accepted
    rw [refusesDma, data, adma2, acceptsDescs, if_pos some, Bool.true_and, Bool.true_and,
      Bool.not_eq_false', blocks] at checked
    have count := (Bool.and_eq_true_iff.mp (checked.2 rfl)).1
    rw [blockcnt, decide_eq_true_eq] at count
    rw [blocks]
    exact planned sized checked.1 count

/-- The range is not left exactly if there is a bounce buffer, or all segments are accessible, or
the submission throws for another reason. -/
theorem transfersInRange_iff (adma2 : s.dmaAdma2 = true) (same : info.maxSeg = s.maxSeg)
    (req : Request) :
    s.TransfersInRange info req ↔ Device.oversized s.hwDrv info req = true ∨ s.bbSize ≠ 0 ∨
      (∀ b ∈ req.blocks, b.size = 0 ∨
        s.dmaAccessible b.dmaAddr (b.size.setWidth 64) = true) ∨ s.Refusable req.blocks := by
  rw [s.transfersInRange_iff_plan info adma2]
  cases sized : Device.oversized s.hwDrv info req with
  | true => exact iff_of_true (fun absurd => Bool.noConfusion absurd) (Or.inl rfl)
  | false =>
  rw [or_iff_right Bool.false_ne_true]
  rcases eq_or_ne s.bbSize 0 with unprovided | provided
  · rw [or_iff_right (not_not.mpr unprovided), ← s.planInRange_unprovided unprovided req.blocks 0,
      acceptsBlocks, admits, s.roomy_of_unprovided unprovided, Bool.true_and,
      s.holds_plan_unprovided unprovided, Refusable]
    apply Iff.intro
    · intro planned
      by_contra leaves
      obtain ⟨outside, accepted⟩ := not_or.mp leaves
      obtain ⟨low, held⟩ := not_or.mp accepted
      obtain ⟨room, count⟩ := not_or.mp held
      exact outside (planned rfl ⟨Nat.le_of_not_lt room, low⟩
        (Nat.lt_succ_of_le (Nat.le_of_not_lt count)))
    · rintro (inside | high | many | long) - ⟨room, low⟩ count
      · exact inside
      · exact absurd high low
      · exact absurd room (Nat.not_le.mpr many)
      · exact absurd (Nat.le_of_lt_succ count) (Nat.not_le.mpr long)
  · refine iff_of_true (fun _ accepted count => ?_) (Or.inl provided)
    have small := s.sizes_lt info same sized accepted count
    have enough := (Bool.and_eq_true_iff.mp accepted).1
    exact s.planInRange_provided provided req.blocks 0 enough (by
      show 0 + _ < 2 ^ 32
      rw [Nat.zero_add]
      exact small)

/-- A board whose DMA engine reaches the first GiB only, without a bounce buffer. -/
def oldBoard : Sdhci where
  type := .bcm2711
  socRev := { newStyle := false, type := 0, revision := 0 }
  maxSeg := 64
  adma2Is64 := false
  adma2DescPhys := 0x1000
  segments := segments_64
  descriptors := by decide
  bounce := fun provided => absurd rfl provided

/-- Read one sector to the given address. -/
def readSector (dmaAddr : U64) : Request :=
  { sector := 0, first := ⟨dmaAddr, dmaAddr, 1⟩, rest := [], cb := none, read := true }

theorem oldBoard_inRange : oldBoard.TransfersInRange { maxSeg := 64 } (readSector 0x3ffffe00) :=
  (oldBoard.transfersInRange_iff { maxSeg := 64 } rfl rfl _).mpr
    (Or.inr (Or.inr (Or.inl (by decide))))

/-- The first sector behind the limit is written to address 0 of the controller. -/
theorem oldBoard_leavesRange :
    ¬ oldBoard.TransfersInRange { maxSeg := 64 } (readSector 0x40000000) ∧
      ∃ e, oldBoard.plan (readSector 0x40000000).blocks 0 = [e] ∧
        (oldBoard.describe {} e).getAddr oldBoard.adma2Is64 = 0 := by
  have planned : oldBoard.plan (readSector 0x40000000).blocks 0 = [(⟨0x40000000, 512⟩, true)] := by
    decide
  refine ⟨fun ranged => ?_, _, planned, by decide⟩
  rw [oldBoard.transfersInRange_iff_plan { maxSeg := 64 } rfl] at ranged
  have accepted : oldBoard.acceptsBlocks (readSector 0x40000000).blocks = true := by
    rw [acceptsBlocks, admits, planned]
    decide
  have inside := ranged (by decide) accepted (by decide)
  rw [PlanInRange, planned] at inside
  exact absurd (inside _ (List.mem_singleton_self _)) (by decide)

end Sdhci

end Emmc
