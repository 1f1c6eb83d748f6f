import Emmc.Device.Empty
import Emmc.Sdhci.Capacity

/-!
# Descriptors of blocks without sectors

A block without sectors gets no descriptors. The descriptor that ends the table is that of the last
block, however; when this block is empty, no descriptor ends the table.

* `plan_eq_marked`: the plan of a block list is its pieces, with an end mark if the last block has a
  piece.
* `sameTable_iff`: when the empty blocks make no difference to the table.
* `empty_blocks_iff`: when they make no difference to the commands of a request and to the table.
-/

namespace Emmc

open Throwing

namespace Sdhci

variable (s : Sdhci)

/-! ## Empty blocks in the code -/

theorem size_empty {b : Block} (none : ¬ b.filled = true) : b.size = 0 := by
  have zero : b.numSectors = 0 := by simpa [Block.filled] using none
  rw [Block.size, zero]
  rfl

theorem bounceBlock_empty (read : Bool) {b : Block} (none : ¬ b.filled = true) {bbOffs : U32}
    (within : bbOffs.toNat ≤ s.bbSize.toNat) (h : Hw) :
    s.bounceBlock read b bbOffs h = .ok ((s.target b bbOffs).1, bbOffs) h := by
  have offs : bbOffs + b.size = bbOffs := by
    rw [size_empty none]
    exact BitVec.add_zero _
  have fits : ¬ (bbOffs + b.size).toNat > s.bbSize.toNat := by
    rw [offs]
    exact Nat.not_lt.mpr within
  rw [bounceBlock, target]
  by_cases bounced : s.bounces b = true
  · rw [if_pos bounced, if_pos bounced, if_neg fits, offs, size_empty none]
    cases read <;> rfl
  · rw [if_neg bounced, if_neg bounced]
    rfl

theorem setDescsLoop_empty (read : Bool) {b : Block} (none : ¬ b.filled = true)
    (rest : List Block) (d : Nat) {bbOffs : U32} (within : bbOffs.toNat ≤ s.bbSize.toNat) (h : Hw) :
    s.setDescsLoop read (b :: rest) d bbOffs h = s.setDescsLoop read rest d bbOffs h := by
  have nothing : s.adma2SetDescsMemRegion d (s.target b bbOffs).1 b.size rest.isEmpty h =
      .ok d h := by
    rw [size_empty none]
    rfl
  rw [setDescsLoop, bind_of_ok (s.bounceBlock_empty read none within h)]
  exact bind_of_ok nothing _

/-- Without a block that has sectors, nothing is written. -/
theorem setDescsLoop_none (read : Bool) {blocks : List Block} (none : compact blocks = [])
    (d : Nat) {bbOffs : U32} (within : bbOffs.toNat ≤ s.bbSize.toNat) (h : Hw) :
    s.setDescsLoop read blocks d bbOffs h = .ok bbOffs h := by
  induction blocks with
  | nil => rfl
  | cons b rest ih =>
    by_cases some : b.filled = true
    · rw [Device.compact_cons_filled some] at none
      cases none
    · rw [Device.compact_cons_empty some] at none
      rw [s.setDescsLoop_empty read some rest d within h]
      exact ih none

/-- Length of the next descriptor of a region. -/
def descLength (size : U32) : U32 :=
  if size.toNat ≤ Adma2Desc.maxLength then size else BitVec.ofNat 32 Adma2Desc.maxLength

theorem memRegionLoop_step (terminate : Bool) (fuel : Nat) {desc : Nat} {phys : U64} {size : U32}
    (some : size ≠ 0) (room : ¬ desc ≥ s.maxDescs)
    (low : ¬ phys ≥ Adma2Desc.getMaxAddr s.adma2Is64) (h : Hw) :
    s.memRegionLoop terminate (fuel + 1) desc phys size h =
      s.memRegionLoop terminate fuel (desc + 1) (phys + (descLength size).setWidth 64)
        (size - descLength size) (h.setDesc desc phys ((h.descs desc).transfer s.adma2Is64
          (phys + s.dmaOffset) (descLength size) (size - descLength size = 0 && terminate))) := by
  rw [memRegionLoop, if_neg some, if_neg room, if_neg low]
  rfl

/-- The end mark makes no difference where the descriptors cannot be written. -/
theorem memRegionLoop_error (terminate other : Bool) {fuel desc : Nat} {phys : U64} {size : U32}
    {h h' : Hw} {e : RuntimeError}
    (stuck : s.memRegionLoop terminate fuel desc phys size h = .error e h') :
    s.memRegionLoop other fuel desc phys size h = .error e h' := by
  induction fuel generalizing desc phys size h with
  | zero => cases stuck
  | succ fuel ih =>
    by_cases none : size = 0
    · rw [memRegionLoop, if_pos none] at stuck
      cases stuck
    by_cases full : desc ≥ s.maxDescs
    · rw [memRegionLoop, if_neg none, if_pos full] at stuck ⊢
      exact stuck
    by_cases high : phys ≥ Adma2Desc.getMaxAddr s.adma2Is64
    · rw [memRegionLoop, if_neg none, if_neg full, if_pos high] at stuck ⊢
      exact stuck
    rw [s.memRegionLoop_step _ _ none full high] at stuck ⊢
    by_cases last : size - descLength size = 0
    · rw [last] at stuck
      cases fuel <;> cases stuck
    · rw [decide_eq_false last, Bool.false_and] at stuck ⊢
      exact ih stuck

/-- The bounce buffer is not exceeded. -/
theorem target_within {b : Block} {bbOffs : U32} (within : bbOffs.toNat ≤ s.bbSize.toNat)
    (fits : s.roomFor b bbOffs = true) : (s.target b bbOffs).2.toNat ≤ s.bbSize.toNat := by
  rw [target]
  by_cases bounced : s.bounces b = true
  · rw [if_pos bounced]
    rw [roomFor, bounced, Bool.not_true, Bool.false_or, decide_eq_true_eq] at fits
    exact fits
  · rw [if_neg bounced]
    exact within

/-- A block list that cannot be submitted fails as well without its empty blocks, having written the
same. -/
theorem setDescsLoop_error (read : Bool) {blocks : List Block} {d : Nat} {bbOffs : U32}
    (within : bbOffs.toNat ≤ s.bbSize.toNat) {h h' : Hw} {e : RuntimeError}
    (stuck : s.setDescsLoop read blocks d bbOffs h = .error e h') :
    s.setDescsLoop read (compact blocks) d bbOffs h = .error e h' := by
  induction blocks generalizing d bbOffs h with
  | nil => cases stuck
  | cons b rest ih =>
    by_cases some : b.filled = true
    · rw [Device.compact_cons_filled some]
      rw [setDescsLoop] at stuck ⊢
      cases bounced : s.bounceBlock read b bbOffs h with
      | error e₁ h₁ =>
        rw [bind_of_error bounced] at stuck ⊢
        exact stuck
      | ok t h₁ =>
        rcases t with ⟨addr, offs⟩
        have spec := s.bounceBlock_spec read b bbOffs h
        rw [wp_of_ok bounced] at spec
        rcases spec with ⟨fits, target, -⟩
        have within' : offs.toNat ≤ s.bbSize.toNat := by
          have kept := s.target_within within fits
          rwa [← target] at kept
        rw [bind_of_ok bounced] at stuck ⊢
        dsimp only at stuck ⊢
        cases region : s.adma2SetDescsMemRegion d addr b.size rest.isEmpty h₁ with
        | error e₂ h₂ =>
          have region' : s.adma2SetDescsMemRegion d addr b.size (compact rest).isEmpty h₁ =
              .error e₂ h₂ := s.memRegionLoop_error _ _ region
          rw [bind_of_error region] at stuck
          rw [bind_of_error region']
          exact stuck
        | ok d' h₂ =>
          rw [bind_of_ok region] at stuck
          cases later : compact rest with
          | nil =>
            rw [s.setDescsLoop_none read later d' within'] at stuck
            cases stuck
          | cons b' rest' =>
            have more : rest.isEmpty = (b' :: rest').isEmpty := by
              cases rest with
              | nil => cases later
              | cons => rfl
            rw [more] at region
            rw [bind_of_ok region, ← later]
            exact ih within' stuck
    · rw [s.setDescsLoop_empty read some rest d within h] at stuck
      rw [Device.compact_cons_empty some]
      exact ih within stuck

/-! ## Empty blocks in the plan -/

/-- The last block has a descriptor, which ends the table. -/
def endsTable (blocks : List Block) : Bool := blocks.getLast?.any fun b => b.size ≠ 0

theorem pieces_eq_nil_iff {r : Region 64} : pieces r = [] ↔ r.size = 0 := by
  apply Iff.intro
  · intro none
    by_contra some
    exact Memory.cut_ne_nil some (Nat.le_refl _) none
  · exact Memory.cut_of_empty _ _

theorem marked_append {terminate : Bool} (front : List (Region 64)) {back : List (Region 64)}
    (last : back = [] → terminate = false) :
    marked false front ++ marked terminate back = marked terminate (front ++ back) := by
  induction front with
  | nil => rfl
  | cons r front ih =>
    rw [List.cons_append, marked, marked, List.cons_append, ih, Bool.and_false]
    cases front with
    | nil =>
      cases back with
      | nil => rw [last rfl, List.append_nil, Bool.and_false]
      | cons => rfl
    | cons => rfl

theorem endsTable_single (b : Block) : endsTable [b] = true ↔ b.size ≠ 0 := by
  show decide (b.size ≠ 0) = true ↔ _
  exact decide_eq_true_iff

theorem endsTable_cons (b : Block) {rest : List Block} (more : rest ≠ []) :
    endsTable (b :: rest) = endsTable rest := by
  cases rest with
  | nil => exact absurd rfl more
  | cons b' rest => rw [endsTable, List.getLast?_cons_cons, endsTable]

/-- A table has an end only if it has descriptors. -/
theorem endsTable_of_plan_nil {blocks : List Block} {bbOffs : U32}
    (none : s.plan blocks bbOffs = []) : endsTable blocks = false := by
  induction blocks generalizing bbOffs with
  | nil => rfl
  | cons b rest ih =>
    rw [plan, List.append_eq_nil_iff] at none
    cases rest with
    | nil =>
      have mapped := map_fst_marked true (pieces (s.region b bbOffs))
      rw [show marked true (pieces (s.region b bbOffs)) = [] from none.1] at mapped
      have size : b.size = 0 := BitVec.eq_of_toNat_eq (pieces_eq_nil_iff.mp mapped.symm)
      exact Bool.eq_false_iff.mpr fun ends => (endsTable_single b).mp ends size
    | cons b' rest =>
      rw [endsTable_cons b (List.cons_ne_nil _ _)]
      exact ih none.2

/-- The descriptors of a block list are its pieces, the last one marked if it is of the last
block. -/
theorem plan_eq_marked (blocks : List Block) (bbOffs : U32) :
    s.plan blocks bbOffs = marked (endsTable blocks) ((s.plan blocks bbOffs).map Prod.fst) := by
  induction blocks generalizing bbOffs with
  | nil => rfl
  | cons b rest ih =>
    rw [plan, List.map_append, map_fst_marked]
    cases rest with
    | nil =>
      rw [plan, List.append_nil, List.map_nil, List.append_nil]
      by_cases size : b.size = 0
      · have nothing : pieces (s.region b bbOffs) = [] :=
          pieces_eq_nil_iff.mpr (congrArg BitVec.toNat size)
        rw [nothing]
        rfl
      · rw [(endsTable_single b).mpr size]
        rfl
    | cons b' rest =>
      rw [endsTable_cons b (List.cons_ne_nil _ _), ← marked_append]
      · rw [← ih]
        rfl
      · intro none
        exact s.endsTable_of_plan_nil (List.map_eq_nil_iff.mp none)

theorem region_empty {b : Block} (none : ¬ b.filled = true) (bbOffs : U32) :
    (s.region b bbOffs).size = 0 ∧ (s.target b bbOffs).2 = bbOffs := by
  have size := size_empty none
  refine ⟨congrArg BitVec.toNat size, ?_⟩
  rw [target, size]
  split
  · exact BitVec.add_zero _
  · rfl

/-- Empty blocks have no pieces. -/
theorem map_fst_plan_compact (blocks : List Block) (bbOffs : U32) :
    (s.plan (compact blocks) bbOffs).map Prod.fst = (s.plan blocks bbOffs).map Prod.fst := by
  induction blocks generalizing bbOffs with
  | nil => rfl
  | cons b rest ih =>
    by_cases some : b.filled = true
    · rw [Device.compact_cons_filled some, plan, plan, List.map_append, List.map_append,
        map_fst_marked, map_fst_marked, ih]
    · obtain ⟨size, offs⟩ := s.region_empty some bbOffs
      rw [Device.compact_cons_empty some, plan, pieces_eq_nil_iff.mpr size, offs]
      exact ih bbOffs

theorem roomy_compact {blocks : List Block} {bbOffs : U32}
    (within : bbOffs.toNat ≤ s.bbSize.toNat) :
    s.roomy (compact blocks) bbOffs = s.roomy blocks bbOffs := by
  induction blocks generalizing bbOffs with
  | nil => rfl
  | cons b rest ih =>
    by_cases some : b.filled = true
    · rw [Device.compact_cons_filled some, roomy, roomy]
      cases fits : s.roomFor b bbOffs with
      | false => rfl
      | true => rw [ih (s.target_within within fits)]
    · obtain ⟨-, offs⟩ := s.region_empty some bbOffs
      have fits : s.roomFor b bbOffs = true := by
        have sum : bbOffs + b.size = bbOffs := by
          rw [size_empty some]
          exact BitVec.add_zero _
        rw [roomFor, sum, decide_eq_true within, Bool.or_true]
      rw [Device.compact_cons_empty some, roomy, fits, offs, Bool.true_and]
      exact ih within

/-- Whether there are descriptors for the entries does not depend on the end mark. -/
theorem holds_congr (i : Nat) {entries entries' : List Entry}
    (same : entries'.map Prod.fst = entries.map Prod.fst) :
    s.holds i entries' = s.holds i entries := by
  have length := congrArg List.length same
  rw [List.length_map, List.length_map] at length
  have addrs : ∀ l : List Entry, (l.all fun e => e.1.addr < Adma2Desc.getMaxAddr s.adma2Is64) =
      (l.map Prod.fst).all fun r => r.addr < Adma2Desc.getMaxAddr s.adma2Is64 := by
    intro l
    rw [List.all_map]
    rfl
  rw [holds, holds, length, addrs, addrs, same]

/-- A block list can be submitted if and only if it can be without its empty blocks. -/
theorem acceptsBlocks_compact (blocks : List Block) :
    s.acceptsBlocks (compact blocks) = s.acceptsBlocks blocks := by
  rw [acceptsBlocks, admits, s.roomy_compact (Nat.zero_le _),
    s.holds_congr 0 (s.map_fst_plan_compact blocks 0)]
  rfl

/-! ## The table with and without empty blocks -/

/-- The descriptors behind an attempt to set them up for a block list. -/
def table (blocks : List Block) (c : Cmd) (h : Hw) : Nat → Adma2Desc :=
  (after s.adma2SetDescs ({ c with blocks := blocks }, h)).2.descs

/-- Whatever was there before, the same descriptors are left for both lists. -/
def SameTable (blocks blocks' : List Block) : Prop :=
  ∀ c h, s.table blocks' c h = s.table blocks c h

theorem table_of_accepted {blocks : List Block} (accepted : s.acceptsBlocks blocks = true) (c : Cmd)
    (h : Hw) : s.table blocks c h = (s.place 0 (s.plan blocks 0) h).descs := by
  refine after_of_wp (P := fun t : Cmd × Hw => t.2.descs = _) ?_
  refine (s.adma2SetDescs_spec { c with blocks := blocks } h).mono ?_ ?_
  · intro _ t written
    rcases written with ⟨-, -, hw⟩
    rw [hw, place_setMem]
    rfl
  · intro _ t stuck
    exact absurd (accepted.symm.trans stuck.1) (by decide)

theorem after_adma2SetDescs (c : Cmd) (h : Hw) :
    (after s.adma2SetDescs (c, h)).2 =
      after (s.setDescsLoop c.flags.inoutRead c.blocks 0 0) h := by
  refine after_of_wp (P := fun t : Cmd × Hw => t.2 = _) ?_
  rw [adma2SetDescs, wp_bind, wp_get, wp_bind, onHw, wp_zoom]
  cases run : s.setDescsLoop c.flags.inoutRead c.blocks 0 0 h with
  | error e h' => rw [wp_of_error run, after, run]
  | ok offs h' =>
    rw [wp_of_ok run, wp_ite, after, run]
    exact ⟨fun _ => rfl, fun _ => rfl⟩

/-- What is left of a list that is refused is the same without its empty blocks. -/
theorem table_of_refused {blocks : List Block} (refused : s.acceptsBlocks blocks = false) (c : Cmd)
    (h : Hw) : s.table (compact blocks) c h = s.table blocks c h := by
  have spec := s.setDescsLoop_spec c.flags.inoutRead blocks 0 (Nat.zero_le _) h
  rw [table, table, after_adma2SetDescs, after_adma2SetDescs]
  show (after (s.setDescsLoop c.flags.inoutRead (compact blocks) 0 0) h).descs =
    (after (s.setDescsLoop c.flags.inoutRead blocks 0 0) h).descs
  cases run : s.setDescsLoop c.flags.inoutRead blocks 0 0 h with
  | ok offs h' =>
    rw [wp_of_ok run] at spec
    exact absurd (refused.symm.trans spec.1) (by decide)
  | error e h' =>
    rw [after, after, run, s.setDescsLoop_error c.flags.inoutRead (Nat.zero_le _) run]

/-- The last descriptor of a table tells whether it ends there. -/
theorem table_last {blocks : List Block} {front : List (Region 64)} {r : Region 64}
    (accepted : s.acceptsBlocks blocks = true)
    (split : (s.plan blocks 0).map Prod.fst = front ++ [r]) (c : Cmd) (h : Hw) :
    Adma2Desc.endBit.test (s.table blocks c h front.length).word0 = endsTable blocks := by
  have entries : s.plan blocks 0 = marked false front ++ [(r, endsTable blocks)] := by
    rw [plan_eq_marked, split, ← marked_append front (fun none => by cases none)]
    rfl
  have last : (s.plan blocks 0)[front.length]? = some (r, endsTable blocks) := by
    rw [entries, ← length_marked false front, List.getElem?_concat_length]
  obtain ⟨d, written⟩ := (s.descs_place 0 (s.plan blocks 0) h).2 front.length _ last
  rw [s.table_of_accepted accepted, ← Nat.zero_add front.length, written]
  exact Adma2Desc.endBit_transfer ..

/-- Empty blocks make a difference to the table only where the list is accepted and ends with some
behind a block that has descriptors. -/
theorem sameTable_iff (blocks : List Block) :
    s.SameTable blocks (compact blocks) ↔
      (s.acceptsBlocks blocks = true → endsTable (compact blocks) = endsTable blocks) := by
  apply Iff.intro
  · intro same accepted
    have accepted' := (s.acceptsBlocks_compact blocks).trans accepted
    have regions := s.map_fst_plan_compact blocks 0
    rcases List.eq_nil_or_concat' ((s.plan blocks 0).map Prod.fst) with none | ⟨front, r, split⟩
    · have none' := List.map_eq_nil_iff.mp (regions.trans none)
      rw [s.endsTable_of_plan_nil (List.map_eq_nil_iff.mp none), s.endsTable_of_plan_nil none']
    · rw [← s.table_last accepted split default {},
        ← s.table_last accepted' (regions.trans split) default {}, same]
  · intro ends c h
    cases accepted : s.acceptsBlocks blocks with
    | false => exact s.table_of_refused accepted c h
    | true =>
      have accepted' := (s.acceptsBlocks_compact blocks).trans accepted
      rw [s.table_of_accepted accepted, s.table_of_accepted accepted', plan_eq_marked,
        s.map_fst_plan_compact, ends accepted, ← plan_eq_marked]

/-! ## A request with and without empty blocks -/

/-- With any driver, the request issues the same commands without its empty blocks, and if the
transfer is described by ADMA2 descriptors, these are the same. -/
def EmptyBlocksNeutral {H I : Type} (drv : HwDrv H I) (info : DeviceInfo) (req : Request) : Prop :=
  Device.SameCommands drv info req req.compacted ∧
    (drv.dmaAdma2 = true → s.SameTable req.blocks req.compacted.blocks)

/-- Empty blocks are neutral in SDMA mode if and only if the first block has sectors, and in ADMA2
mode if and only if the last block has a descriptor when the last one with sectors has, or the
descriptors cannot be set up anyway. -/
theorem empty_blocks_iff {H I : Type} (drv : HwDrv H I) (info : DeviceInfo) {req : Request}
    (some : req.blocks.any Block.filled = true) :
    s.EmptyBlocksNeutral drv info req ↔
      if drv.dmaAdma2 then
        s.acceptsBlocks req.blocks = true → endsTable (compact req.blocks) = endsTable req.blocks
      else req.first.filled = true := by
  rw [EmptyBlocksNeutral, Device.sameCommands_iff some, Device.blocks_compacted some,
    sameTable_iff]
  cases drv.dmaAdma2 with
  | true =>
    rw [if_pos rfl]
    apply Iff.intro
    · intro neutral
      exact neutral.2 rfl
    · intro ends
      exact ⟨Or.inl rfl, fun _ => ends⟩
  | false =>
    rw [if_neg Bool.false_ne_true]
    apply Iff.intro
    · intro neutral
      exact neutral.1.resolve_left Bool.false_ne_true
    · intro start
      exact ⟨Or.inr start, fun adma => absurd adma Bool.false_ne_true⟩

/-- A read request with three blocks. -/
def threeBlocks (first second third : U32) : Request where
  sector := 0
  first := { dmaAddr := 0x10000, virtAddr := 0, numSectors := first }
  rest := [{ dmaAddr := 0x20000, virtAddr := 0, numSectors := second },
    { dmaAddr := 0x30000, virtAddr := 0, numSectors := third }]
  cb := some 1
  read := true

/-- An empty block in the middle is neutral in both modes. -/
theorem empty_middle :
    unbuffered.EmptyBlocksNeutral unchained.hwDrv { maxSeg := 64 } (threeBlocks 8 0 8) ∧
    unbuffered.EmptyBlocksNeutral unbuffered.hwDrv { maxSeg := 64 } (threeBlocks 8 0 8) := by
  apply And.intro
  · exact (unbuffered.empty_blocks_iff unchained.hwDrv _ (by decide)).mpr (by decide)
  · exact (unbuffered.empty_blocks_iff unbuffered.hwDrv _ (by decide)).mpr fun _ => by decide

/-- In SDMA mode CMD23 announces the zero sectors of an empty first block. In ADMA2 mode no
descriptor ends the table if the last block is empty. -/
theorem empty_first_or_last :
    ¬ unbuffered.EmptyBlocksNeutral unchained.hwDrv { maxSeg := 64 } (threeBlocks 0 8 8) ∧
    ¬ unbuffered.EmptyBlocksNeutral unbuffered.hwDrv { maxSeg := 64 } (threeBlocks 8 8 0) := by
  apply And.intro
  · intro neutral
    have start := (Device.sameCommands_iff (by decide)).mp neutral.1
    exact absurd start (by decide)
  · intro neutral
    have same := neutral.2 rfl
    rw [Device.blocks_compacted (by decide), sameTable_iff] at same
    exact absurd (same (by decide)) (by decide)

/-- What is issued when the first block is empty. -/
example :
    (Device.issued unchained.hwDrv { maxSeg := 64 }
      (Device.firstCommand unchained.hwDrv { maxSeg := 64 } (threeBlocks 0 8 8) {})
      [{ status := .success }]).map (fun issue => (issue.cmd, issue.arg, issue.blockcnt)) =
    [(Mmc.cmd23SetBlockCount, 0, 0), (Mmc.cmd18ReadMultipleBlock, 0, 0)] := by
  decide

end Sdhci

end Emmc
