import Emmc.Sdhci.Hw

/-!
# ADMA2 descriptors of a request

`adma2SetDescs` writes the descriptors for the block list of a request. A block the DMA engine
cannot reach gets a part of the bounce buffer, one behind the other; each region is cut into pieces
of at most 32 KiB.

* `plan` is the list of pieces with their end marks, `copyIn` what is copied into the bounce buffer.
* `acceptsBlocks` says that the bounce buffer and the descriptor memory are large enough and that no
  piece starts beyond what a descriptor can address.
* `adma2SetDescs_spec`: the function succeeds exactly for an accepted block list, and then the
  descriptors are those of the plan.
-/

namespace Emmc

open Throwing

/-- `num_sectors << 9` in 32 bits. -/
def Block.size (b : Block) : U32 := b.numSectors <<< 9

namespace Sdhci

variable (s : Sdhci)

/-! ## The code -/

/-- The loop of `adma2_set_descs_mem_region`, which ends when no bytes are left. -/
def memRegionLoop (terminate : Bool) : Nat → Nat → U64 → U32 → HwM Nat
  | 0, desc, _, _ => return desc
  | fuel + 1, desc, phys, size =>
    if size = 0 then return desc
    else if desc ≥ s.maxDescs then
      throw ⟨-L4.einval, "Too many ADMA2 descriptors"⟩
    else if phys ≥ Adma2Desc.getMaxAddr s.adma2Is64 then
      throw ⟨-L4.einval, "Descriptor for " ++ hex phys ++ "/" ++ hex (size.setWidth 64) ++
        " but controller doesn't support 64-bit ADMA2 mode"⟩
    else do
      let descLength : U32 :=
        if size.toNat ≤ Adma2Desc.maxLength then size else BitVec.ofNat 32 Adma2Desc.maxLength
      modify fun h => h.setDesc desc phys ((h.descs desc).transfer s.adma2Is64 (phys + s.dmaOffset)
        descLength (size - descLength = 0 && terminate))
      memRegionLoop terminate fuel (desc + 1) (phys + descLength.setWidth 64) (size - descLength)

/-- Set up the descriptors for one region, and return the index of the next descriptor. -/
def adma2SetDescsMemRegion (desc : Nat) (phys : U64) (size : U32) (terminate : Bool) : HwM Nat :=
  s.memRegionLoop terminate size.toNat desc phys size

/-- The block has to go through the bounce buffer. -/
def bounces (b : Block) : Bool :=
  s.providedBounceBuffer && !s.dmaAccessible b.dmaAddr (b.size.setWidth 64)

/-- Find the DMA address of a block and the part of the bounce buffer that is used then. -/
def bounceBlock (read : Bool) (b : Block) (bbOffs : U32) : HwM (U64 × U32) :=
  if s.bounces b then
    if (bbOffs + b.size).toNat > s.bbSize.toNat then
      throw ⟨-L4.einval, "Bounce buffer too small"⟩
    else do
      if !read then
        modify fun h => h.setMem
          (memcpy s.translate h.mem (s.bbVirt + bbOffs.setWidth 64) b.virtAddr b.size.toNat)
      return (s.bbPhys + bbOffs.setWidth 64, bbOffs + b.size)
  else return (b.dmaAddr, bbOffs)

/-- The loop of `adma2_set_descs`. -/
def setDescsLoop (read : Bool) : List Block → Nat → U32 → HwM U32
  | [], _, bbOffs => return bbOffs
  | b :: rest, d, bbOffs => do
    let (bAddr, bbOffs) ← s.bounceBlock read b bbOffs
    let d ← s.adma2SetDescsMemRegion d bAddr b.size rest.isEmpty
    setDescsLoop read rest d bbOffs

def adma2SetDescs : Action Hw Unit := do
  let c := (← get).1
  let bbOffs ← onHw (s.setDescsLoop c.flags.inoutRead c.blocks 0 0)
  if bbOffs ≠ 0 ∧ c.flags.inoutRead then
    modify fun t => ({ t.1 with flags := { t.1.flags with readFromBounceBuffer := true } }, t.2)

/-! ## The plan -/

/-- A piece of memory and whether its descriptor ends the table. -/
abbrev Entry := Region 64 × Bool

/-- The pieces of a region, the last one marked. -/
def marked (terminate : Bool) : List (Region 64) → List Entry
  | [] => []
  | r :: rest => (r, rest.isEmpty && terminate) :: marked terminate rest

def pieces (r : Region 64) : List (Region 64) := Memory.cut Adma2Desc.maxLength r.size r

/-- DMA address of a block, and the bounce buffer used so far. -/
def target (b : Block) (bbOffs : U32) : U64 × U32 :=
  if s.bounces b then (s.bbPhys + bbOffs.setWidth 64, bbOffs + b.size) else (b.dmaAddr, bbOffs)

/-- The memory the controller is told to use for a block. -/
def region (b : Block) (bbOffs : U32) : Region 64 := ⟨(s.target b bbOffs).1, b.size.toNat⟩

def plan : List Block → U32 → List Entry
  | [], _ => []
  | b :: rest, bbOffs =>
    marked rest.isEmpty (pieces (s.region b bbOffs)) ++ plan rest (s.target b bbOffs).2

/-- The part of the bounce buffer in use behind the block list. -/
def bounceEnd : List Block → U32 → U32
  | [], bbOffs => bbOffs
  | b :: rest, bbOffs => bounceEnd rest (s.target b bbOffs).2

/-- Memory after a block of a write request was copied to the bounce buffer. -/
def copyBlock (read : Bool) (b : Block) (bbOffs : U32) (mem : U64 → U8) : U64 → U8 :=
  if s.bounces b && !read then
    memcpy s.translate mem (s.bbVirt + bbOffs.setWidth 64) b.virtAddr b.size.toNat
  else mem

/-- Memory after all blocks of a write request were copied to the bounce buffer. -/
def copyIn (read : Bool) : List Block → U32 → (U64 → U8) → U64 → U8
  | [], _, mem => mem
  | b :: rest, bbOffs, mem =>
    copyIn read rest (s.target b bbOffs).2 (s.copyBlock read b bbOffs mem)

/-- A block does not exceed the bounce buffer, as the code checks it. -/
def roomFor (b : Block) (bbOffs : U32) : Bool :=
  !s.bounces b || (bbOffs + b.size).toNat ≤ s.bbSize.toNat

/-- The bounce buffer is large enough. -/
def roomy : List Block → U32 → Bool
  | [], _ => true
  | b :: rest, bbOffs => s.roomFor b bbOffs && roomy rest (s.target b bbOffs).2

/-- There are descriptors for the entries, and they can hold the addresses. -/
def holds (i : Nat) (entries : List Entry) : Bool :=
  i + entries.length ≤ s.maxDescs &&
    entries.all fun e => e.1.addr < Adma2Desc.getMaxAddr s.adma2Is64

/-- The rest of a block list can be submitted as far as the descriptors go. -/
def admits (blocks : List Block) (d : Nat) (bbOffs : U32) : Bool :=
  s.roomy blocks bbOffs && s.holds d (s.plan blocks bbOffs)

/-- The block list can be submitted as far as the descriptors go. -/
def acceptsBlocks (blocks : List Block) : Bool := s.admits blocks 0 0

def describe (d : Adma2Desc) (e : Entry) : Adma2Desc :=
  d.transfer s.adma2Is64 (e.1.addr + s.dmaOffset) (BitVec.ofNat 32 e.1.size) e.2

/-- Write descriptors for the entries. -/
def place : Nat → List Entry → Hw → Hw
  | _, [], h => h
  | i, e :: rest, h => place (i + 1) rest (h.setDesc i e.1.addr (s.describe (h.descs i) e))

/-! ## Errors of capacity -/

/-- The errors that say that something is too small for the request. -/
def capacityErrors : List String :=
  ["Number of data blocks to transfer", "Too many ADMA2 descriptors", "Bounce buffer too small"]

def IsCapacity (e : RuntimeError) : Prop := e.text ∈ capacityErrors

/-- No such text begins with another letter than these. -/
theorem not_capacity_of_head {code : Int} {text : String}
    (other : (text.toList.head?.any fun letter => ['N', 'T', 'B'].contains letter) = false) :
    ¬ IsCapacity ⟨code, text⟩ := by
  intro member
  simp only [IsCapacity, capacityErrors, List.mem_cons, List.not_mem_nil, or_false] at member
  rcases member with rfl | rfl | rfl
  · cases other
  · cases other
  · cases other

/-! ## Writing a plan -/

theorem length_marked (terminate : Bool) (regions : List (Region 64)) :
    (marked terminate regions).length = regions.length := by
  induction regions with
  | nil => rfl
  | cons r rest ih => rw [marked, List.length_cons, List.length_cons, ih]

theorem map_fst_marked (terminate : Bool) (regions : List (Region 64)) :
    (marked terminate regions).map Prod.fst = regions := by
  induction regions with
  | nil => rfl
  | cons r rest ih => rw [marked, List.map_cons, ih]

/-- What holds of all pieces of a region holds of its entries. -/
theorem forall_marked {P : Region 64 → Prop} (terminate : Bool) (regions : List (Region 64)) :
    (∀ e ∈ marked terminate regions, P e.1) ↔ ∀ r ∈ regions, P r := by
  have mapped := List.forall_mem_map (f := Prod.fst) (l := marked terminate regions) (P := P)
  rw [map_fst_marked] at mapped
  exact mapped.symm

theorem forall_plan_cons {P : Region 64 → Prop} (b : Block) (rest : List Block) (bbOffs : U32) :
    (∀ e ∈ s.plan (b :: rest) bbOffs, P e.1) ↔
      (∀ r ∈ pieces (s.region b bbOffs), P r) ∧
        ∀ e ∈ s.plan rest (s.target b bbOffs).2, P e.1 := by
  rw [plan, List.forall_mem_append, forall_marked]

theorem covers_pieces (r : Region 64) : Memory.Covers r (pieces r) :=
  Memory.covers_cut (by decide) (Nat.le_refl _)

theorem size_of_mem_pieces {r p : Region 64} (member : p ∈ pieces r) :
    0 < p.size ∧ p.size ≤ Adma2Desc.maxLength :=
  Memory.size_of_mem_cut (by decide) member

theorem size_of_mem_plan {blocks : List Block} {bbOffs : U32} :
    ∀ e ∈ s.plan blocks bbOffs, 0 < e.1.size ∧ e.1.size ≤ Adma2Desc.maxLength := by
  induction blocks generalizing bbOffs with
  | nil => exact fun _ member => absurd member List.not_mem_nil
  | cons b rest ih =>
    have split := s.forall_plan_cons b rest bbOffs
      (P := fun r => 0 < r.size ∧ r.size ≤ Adma2Desc.maxLength)
    exact split.mpr ⟨fun p member => size_of_mem_pieces member, ih⟩

theorem place_append (i : Nat) (front back : List Entry) (h : Hw) :
    s.place i (front ++ back) h = s.place (i + front.length) back (s.place i front h) := by
  induction front generalizing i h with
  | nil => rfl
  | cons e front ih =>
    rw [List.cons_append, place, ih, place, List.length_cons, Nat.add_right_comm, Nat.add_assoc]

theorem place_setMem (i : Nat) (entries : List Entry) (h : Hw) (mem : U64 → U8) :
    s.place i entries (h.setMem mem) = (s.place i entries h).setMem mem := by
  induction entries generalizing i h with
  | nil => rfl
  | cons e rest ih => exact ih (i + 1) (h.setDesc i e.1.addr (s.describe (h.descs i) e))

@[simp] theorem mem_place (i : Nat) (entries : List Entry) (h : Hw) :
    (s.place i entries h).mem = h.mem := by
  induction entries generalizing i h with
  | nil => rfl
  | cons e rest ih => rw [place, ih]; rfl

/-- The log after writing a plan. -/
theorem log_place (i : Nat) (entries : List Entry) (h : Hw) :
    ∃ new, (s.place i entries h).log = new ++ h.log ∧
      (∀ a ∈ new, ∃ j d, ∃ e ∈ entries, a = .desc j e.1.addr (s.describe d e)) ∧
      ∀ e ∈ entries, ∃ j d, .desc j e.1.addr (s.describe d e) ∈ new := by
  induction entries generalizing i h with
  | nil =>
    exact ⟨[], rfl, fun _ member => absurd member List.not_mem_nil,
      fun _ member => absurd member List.not_mem_nil⟩
  | cons e rest ih =>
    obtain ⟨new, log, planned, written⟩ := ih (i + 1) (h.setDesc i e.1.addr (s.describe (h.descs i) e))
    refine ⟨new ++ [.desc i e.1.addr (s.describe (h.descs i) e)], ?_, ?_, ?_⟩
    · rw [place, log, List.append_assoc]
      rfl
    · intro a member
      rcases List.mem_append.mp member with later | first
      · obtain ⟨j, d, e', inRest, same⟩ := planned a later
        exact ⟨j, d, e', List.mem_cons_of_mem _ inRest, same⟩
      · exact ⟨i, h.descs i, e, List.mem_cons_self, List.mem_singleton.mp first⟩
    · intro e' member
      rcases List.mem_cons.mp member with rfl | later
      · exact ⟨i, h.descs i, List.mem_append_right _ (List.mem_singleton_self _)⟩
      · obtain ⟨j, d, inNew⟩ := written e' later
        exact ⟨j, d, List.mem_append_left _ inNew⟩

/-- The descriptors in the table after writing a plan. -/
theorem descs_place (i : Nat) (entries : List Entry) (h : Hw) :
    (∀ j < i, (s.place i entries h).descs j = h.descs j) ∧
      ∀ (k : Nat) (e : Entry), entries[k]? = some e →
        ∃ d, (s.place i entries h).descs (i + k) = s.describe d e := by
  induction entries generalizing i h with
  | nil =>
    refine ⟨fun _ _ => rfl, fun k e get => ?_⟩
    simp at get
  | cons e rest ih =>
    obtain ⟨before, inside⟩ := ih (i + 1) (h.setDesc i e.1.addr (s.describe (h.descs i) e))
    refine ⟨fun j less => ?_, fun k e' get => ?_⟩
    · rw [place, before j (Nat.lt_succ_of_lt less)]
      exact Function.update_of_ne (Nat.ne_of_lt less) _ _
    · cases k with
      | zero =>
        cases (show some e = some e' from get)
        exact ⟨h.descs i, (before i (Nat.lt_succ_self i)).trans (Function.update_self _ _ _)⟩
      | succ k =>
        obtain ⟨d, same⟩ := inside k e' get
        refine ⟨d, ?_⟩
        rw [place, ← same, Nat.add_right_comm, Nat.add_assoc]

theorem holds_append (i : Nat) (front back : List Entry) :
    s.holds i (front ++ back) = (s.holds i front && s.holds (i + front.length) back) := by
  rw [Bool.eq_iff_iff]
  simp only [holds, List.length_append, List.all_append, Bool.and_eq_true, decide_eq_true_eq]
  apply Iff.intro
  · intro given
    rcases given with ⟨room, left, right⟩
    exact ⟨⟨by omega, left⟩, by omega, right⟩
  · intro given
    rcases given with ⟨⟨_, left⟩, room, right⟩
    exact ⟨by omega, left, right⟩

/-! ## The code follows the plan -/

theorem unissued_place (i : Nat) (entries : List Entry) (h : Hw) :
    h.Unissued (s.place i entries h) := by
  obtain ⟨new, log, planned, -⟩ := s.log_place i entries h
  refine ⟨new, log, fun a member => ?_⟩
  obtain ⟨j, d, e, -, rfl⟩ := planned a member
  rfl

/-- Length of the next descriptor. -/
theorem toNat_descLength (size : U32) :
    (if size.toNat ≤ Adma2Desc.maxLength then size
      else BitVec.ofNat 32 Adma2Desc.maxLength).toNat = min size.toNat Adma2Desc.maxLength := by
  split
  · rename_i small
    exact (Nat.min_eq_left small).symm
  · rename_i large
    rw [Nat.min_eq_right (Nat.le_of_not_le large)]
    rfl

/-- What is left behind the next descriptor, in the words of the code and of the plan. -/
theorem next_piece {size len : U32} (length : len.toNat = min size.toNat Adma2Desc.maxLength) :
    (size - len).toNat = size.toNat - min size.toNat Adma2Desc.maxLength ∧
      len.setWidth 64 = BitVec.ofNat 64 (min size.toNat Adma2Desc.maxLength) ∧
      BitVec.ofNat 32 (min size.toNat Adma2Desc.maxLength) = len := by
  have within : len ≤ size := by
    rw [BitVec.le_def, length]
    exact Nat.min_le_left _ _
  rw [← length]
  refine ⟨BitVec.toNat_sub_of_le within, ?_, ?_⟩
  · rw [← BitVec.toNat_inj, BitVec.toNat_setWidth, BitVec.toNat_ofNat]
  · rw [BitVec.ofNat_toNat, BitVec.setWidth_eq]

/-- The descriptor behind which no bytes are left is that of the last piece. -/
theorem last_piece {size : U32} {fuel : Nat} (enough : size.toNat ≤ fuel) (phys : U64) :
    decide (size = 0) =
      (Memory.cut Adma2Desc.maxLength fuel ⟨phys, size.toNat⟩ : List (Region 64)).isEmpty := by
  by_cases last : size = 0
  · rw [Memory.cut_of_empty _ _ (congrArg BitVec.toNat last), decide_eq_true last]
    rfl
  · have more : size.toNat ≠ 0 := fun none => last (BitVec.eq_of_toNat_eq none)
    rw [decide_eq_false last, eq_comm, Bool.eq_false_iff, ne_eq, List.isEmpty_iff]
    exact Memory.cut_ne_nil more enough

theorem memRegionLoop_spec (terminate : Bool) {fuel desc : Nat} {phys : U64} {size : U32}
    (enough : size.toNat ≤ fuel) (room : desc ≤ s.maxDescs) (h : Hw) :
    wp (s.memRegionLoop terminate fuel desc phys size)
      (fun d h' =>
        let entries := marked terminate (Memory.cut Adma2Desc.maxLength fuel ⟨phys, size.toNat⟩)
        s.holds desc entries = true ∧ d = desc + entries.length ∧ h' = s.place desc entries h)
      (fun e h' =>
        let entries := marked terminate (Memory.cut Adma2Desc.maxLength fuel ⟨phys, size.toNat⟩)
        s.holds desc entries = false ∧
          (IsCapacity e → s.maxDescs < desc + entries.length) ∧ h.Unissued h')
      h := by
  induction fuel generalizing desc phys size h with
  | zero =>
    refine ⟨?_, rfl, rfl⟩
    exact Bool.and_eq_true_iff.mpr ⟨decide_eq_true room, rfl⟩
  | succ fuel ih =>
    rw [memRegionLoop, Memory.cut_succ, wp_ite]
    refine ⟨fun empty => ?_, fun some => ?_⟩
    · have none : size.toNat = 0 := congrArg BitVec.toNat empty
      rw [if_pos none]
      refine ⟨?_, rfl, rfl⟩
      exact Bool.and_eq_true_iff.mpr ⟨decide_eq_true room, rfl⟩
    have some' : size.toNat ≠ 0 := fun none => some (BitVec.eq_of_toNat_eq none)
    rw [if_neg some', wp_ite]
    simp only [marked]
    refine ⟨fun full => ?_, fun free => ?_⟩
    · have exceeds : s.maxDescs < desc + ((marked terminate (Memory.cut Adma2Desc.maxLength fuel
          ⟨phys + BitVec.ofNat 64 (min size.toNat Adma2Desc.maxLength),
            size.toNat - min size.toNat Adma2Desc.maxLength⟩)).length + 1) := by
        omega
      refine ⟨?_, fun _ => exceeds, Hw.Unissued.refl h⟩
      exact Bool.and_eq_false_imp.mpr fun fits => absurd (of_decide_eq_true fits) (Nat.not_le.mpr exceeds)
    rw [wp_ite]
    refine ⟨fun high => ⟨?_, fun capacity => ?_, Hw.Unissued.refl h⟩, fun low => ?_⟩
    · refine Bool.and_eq_false_imp.mpr fun _ => ?_
      rw [List.all_cons]
      exact Bool.and_eq_false_imp.mpr fun less => absurd (of_decide_eq_true less) (BitVec.not_lt.mpr high)
    · refine absurd capacity (not_capacity_of_head ?_)
      have head : (("Descriptor for " ++ hex phys ++ "/" ++ hex (size.setWidth 64) ++
          " but controller doesn't support 64-bit ADMA2 mode").toList).head? =
            Option.some 'D' := by
        simp only [String.toList_append]
        rfl
      rw [head]
      rfl
    have length := toNat_descLength size
    generalize (if size.toNat ≤ Adma2Desc.maxLength then size
      else BitVec.ofNat 32 Adma2Desc.maxLength) = len at length ⊢
    obtain ⟨left, next, desc'⟩ := next_piece length
    have rest : (size - len).toNat ≤ fuel := by
      rw [left, Nat.sub_le_iff_le_add]
      have step : 0 < min size.toNat Adma2Desc.maxLength :=
        Nat.lt_min.mpr ⟨Nat.pos_of_ne_zero some', by decide⟩
      omega
    have flag := last_piece rest (phys + len.setWidth 64)
    rw [wp_bind, wp_modify, ← next, ← left]
    have here : (phys < Adma2Desc.getMaxAddr s.adma2Is64) = True := eq_true (BitVec.not_le.mp low)
    have holds : ∀ entries : List Entry, ∀ e : Entry, e.1.addr = phys →
        s.holds desc (e :: entries) = s.holds (desc + 1) entries := by
      intro entries e start
      simp only [Sdhci.holds, List.length_cons, List.all_cons, start, here, decide_true,
        Bool.true_and, Nat.add_assoc, Nat.add_comm 1]
    refine (ih rest (Nat.lt_of_not_le free) _).mono ?_ ?_
    · intro d h' outcome
      rcases outcome with ⟨fits, rfl, rfl⟩
      refine ⟨(holds _ _ rfl).trans fits, ?_, ?_⟩
      · exact Nat.succ_add_eq_add_succ _ _
      · rw [place, describe, desc', flag]
    · intro _ h' outcome
      rcases outcome with ⟨misfit, exceeds, unissued⟩
      refine ⟨(holds _ _ rfl).trans misfit, fun capacity => ?_,
        (Hw.unissued_setDesc ..).trans unissued⟩
      rw [List.length_cons, ← Nat.succ_add_eq_add_succ]
      exact exceeds capacity

theorem bounceBlock_spec (read : Bool) (b : Block) (bbOffs : U32) (h : Hw) :
    wp (s.bounceBlock read b bbOffs)
      (fun t h' => s.roomFor b bbOffs = true ∧ t = s.target b bbOffs ∧
        h' = h.setMem (s.copyBlock read b bbOffs h.mem))
      (fun _ h' => s.roomFor b bbOffs = false ∧ h.Unissued h') h := by
  rw [bounceBlock, target, copyBlock, roomFor]
  cases bounced : s.bounces b with
  | false => exact ⟨rfl, rfl, rfl⟩
  | true =>
    rw [if_pos rfl, if_pos rfl, wp_ite]
    refine ⟨fun exceeds => ⟨decide_eq_false (Nat.not_le.mpr exceeds), Hw.Unissued.refl h⟩,
      fun fits => ?_⟩
    have enough := decide_eq_true (Nat.le_of_not_gt fits)
    cases read with
    | false => exact ⟨enough, rfl, rfl⟩
    | true => exact ⟨enough, rfl, rfl⟩

/-- The entries of one block. -/
def entriesOf (b : Block) (bbOffs : U32) (terminate : Bool) : List Entry :=
  marked terminate (pieces (s.region b bbOffs))

theorem admits_cons (b : Block) (rest : List Block) (d : Nat) (bbOffs : U32) :
    s.admits (b :: rest) d bbOffs =
      (s.roomFor b bbOffs && (s.holds d (s.entriesOf b bbOffs rest.isEmpty) &&
        s.admits rest (d + (s.entriesOf b bbOffs rest.isEmpty).length) (s.target b bbOffs).2)) := by
  rw [admits, admits, roomy, plan, holds_append, entriesOf]
  ac_rfl

/-- The bounce buffer or the descriptor memory is too small for the rest of a block list. -/
def Overflows (blocks : List Block) (d : Nat) (bbOffs : U32) : Prop :=
  s.roomy blocks bbOffs = false ∨ s.maxDescs < d + (s.plan blocks bbOffs).length

theorem Overflows.cons {b : Block} {rest : List Block} {d : Nat} {bbOffs : U32}
    (exceeds : s.Overflows rest (d + (s.entriesOf b bbOffs rest.isEmpty).length)
      (s.target b bbOffs).2) : s.Overflows (b :: rest) d bbOffs := by
  rcases exceeds with small | many
  · exact Or.inl (by rw [roomy, small, Bool.and_false])
  · refine Or.inr ?_
    rw [plan, List.length_append, ← Nat.add_assoc]
    exact many

/-- The loop over the blocks writes the plan. -/
theorem setDescsLoop_spec (read : Bool) (blocks : List Block) {d : Nat} (bbOffs : U32)
    (room : d ≤ s.maxDescs) (h : Hw) :
    wp (s.setDescsLoop read blocks d bbOffs)
      (fun offs h' => s.admits blocks d bbOffs = true ∧ offs = s.bounceEnd blocks bbOffs ∧
        h' = s.place d (s.plan blocks bbOffs) (h.setMem (s.copyIn read blocks bbOffs h.mem)))
      (fun e h' => s.admits blocks d bbOffs = false ∧
        (IsCapacity e → s.Overflows blocks d bbOffs) ∧ h.Unissued h') h := by
  induction blocks generalizing d bbOffs h with
  | nil =>
    refine ⟨?_, rfl, rfl⟩
    exact Bool.and_eq_true_iff.mpr ⟨rfl, Bool.and_eq_true_iff.mpr ⟨decide_eq_true room, rfl⟩⟩
  | cons b rest ih =>
    rw [setDescsLoop, wp_bind, admits_cons]
    have copied : h.Unissued (h.setMem (s.copyBlock read b bbOffs h.mem)) :=
      Hw.Unissued.refl h
    refine (s.bounceBlock_spec read b bbOffs h).mono ?_ ?_
    · intro _ _ post
      rcases post with ⟨fits, rfl, rfl⟩
      rw [wp_bind, fits, Bool.true_and]
      refine (s.memRegionLoop_spec rest.isEmpty (Nat.le_refl _) room _).mono ?_ ?_
      · intro _ _ post
        rcases post with ⟨first, rfl, rfl⟩
        have room' := of_decide_eq_true (Bool.and_eq_true_iff.mp first).1
        change s.holds d (s.entriesOf b bbOffs rest.isEmpty) = true at first
        rw [first, Bool.true_and]
        refine (ih (s.target b bbOffs).2 room' _).mono ?_ ?_
        · intro offs h' post
          rcases post with ⟨later, rfl, rfl⟩
          refine ⟨later, rfl, ?_⟩
          rw [plan, place_append, place_setMem s d, place_setMem s d]
          rfl
        · intro e h' post
          rcases post with ⟨refused, exceeds, unissued⟩
          exact ⟨refused, fun capacity => Overflows.cons s (exceeds capacity),
            copied.trans ((s.unissued_place ..).trans unissued)⟩
      · intro e h' post
        rcases post with ⟨misfit, exceeds, unissued⟩
        change s.holds d (s.entriesOf b bbOffs rest.isEmpty) = false at misfit
        refine ⟨by rw [misfit, Bool.false_and], fun capacity => Or.inr ?_, copied.trans unissued⟩
        refine Nat.lt_of_lt_of_le (exceeds capacity) (Nat.add_le_add_left ?_ d)
        rw [plan, List.length_append]
        exact Nat.le_add_right _ _
    · intro e h' post
      rcases post with ⟨small, unissued⟩
      exact ⟨by rw [small, Bool.false_and], fun _ => Or.inl (by rw [roomy, small, Bool.false_and]),
        unissued⟩

/-- What a read request remembers when it uses the bounce buffer. -/
def markBounced (c : Cmd) : Cmd :=
  if s.bounceEnd c.blocks 0 ≠ 0 ∧ c.flags.inoutRead then
    { c with flags := { c.flags with readFromBounceBuffer := true } }
  else c

/-- The descriptors are written exactly for an accepted block list. -/
theorem adma2SetDescs_spec (c : Cmd) (h : Hw) :
    wp s.adma2SetDescs
      (fun _ t => s.acceptsBlocks c.blocks = true ∧ t.1 = s.markBounced c ∧
        t.2 = s.place 0 (s.plan c.blocks 0)
          (h.setMem (s.copyIn c.flags.inoutRead c.blocks 0 h.mem)))
      (fun e t => s.acceptsBlocks c.blocks = false ∧ (IsCapacity e → s.Overflows c.blocks 0 0) ∧
        t.1 = c ∧ h.Unissued t.2) (c, h) := by
  rw [adma2SetDescs, wp_bind, wp_get, wp_bind, onHw, wp_zoom]
  refine (s.setDescsLoop_spec c.flags.inoutRead c.blocks 0 (Nat.zero_le _) h).mono ?_ ?_
  · intro _ _ post
    rcases post with ⟨accepted, rfl, rfl⟩
    rw [wp_ite, markBounced]
    refine ⟨fun used => ?_, fun unused => ?_⟩
    · rw [if_pos used]
      exact ⟨accepted, rfl, rfl⟩
    · rw [if_neg unused]
      exact ⟨accepted, rfl, rfl⟩
  · intro _ _ post
    rcases post with ⟨refused, exceeds, unissued⟩
    exact ⟨refused, exceeds, rfl, unissued⟩

end Sdhci

end Emmc
