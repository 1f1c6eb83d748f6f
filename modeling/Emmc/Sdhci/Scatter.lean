import Emmc.Sdhci.Capacity
import Emmc.Sdhci.Irq

/-!
# Scattering and gathering with ADMA2

The controller executes the descriptor table: it transfers the regions of the descriptors one after
the other until the one with the end mark. It sees physical memory behind the DMA offset.

* `execute_place`: a plan that was written is what the controller executes.
* `gather_copyIn`: what is gathered for a write request are the bytes of the blocks.
* `gather_copyOut`: what was scattered for a read request ends up in the blocks, although
  `cmd_fetch_response` finds the blocks in the bounce buffer by itself.
* `adma2SetDescs_exact` puts this together for a command the device may submit (`Transferable`).
-/

namespace Emmc

open Throwing

/-- The memory of a block. -/
def Block.memory (b : Block) : Region 64 := ⟨b.dmaAddr, b.size.toNat⟩

namespace Sdhci

variable (s : Sdhci)

/-! ## The controller -/

/-- The descriptor moves data. -/
def transfers (d : Adma2Desc) : Bool :=
  Adma2Desc.valid.test d.word0 && Adma2Desc.act.get d.word0 = Adma2Desc.actTran

/-- The regions of a descriptor table up to the end mark, as the controller addresses them. -/
def execute (is64 : Bool) (table : Nat → Adma2Desc) : Nat → Nat → Option (List (Region 64))
  | 0, _ => none
  | fuel + 1, i =>
    if transfers (table i) then
      let r : Region 64 := ⟨(table i).getAddr is64, (Adma2Desc.length.get (table i).word0).toNat⟩
      if Adma2Desc.endBit.test (table i).word0 then some [r]
      else (execute is64 table fuel (i + 1)).map (r :: ·)
    else none

/-- The physical memory the controller reaches. -/
def physical (r : Region 64) : Region 64 := ⟨r.addr - s.dmaOffset, r.size⟩

def addrWidth : Nat := if s.adma2Is64 then 64 else 32

/-- A table of `n` descriptors is well formed. -/
structure WellFormed (table : Nat → Adma2Desc) (n : Nat) : Prop where
  transfers : ∀ i < n, transfers (table i) = true
  length : ∀ i < n, 1 ≤ (Adma2Desc.length.get (table i).word0).toNat ∧
    (Adma2Desc.length.get (table i).word0).toNat ≤ Adma2Desc.maxLength
  last : ∀ i < n, Adma2Desc.endBit.test (table i).word0 = decide (i + 1 = n)

/-! ## Writing and executing a table -/

/-- The last entry is the only one with an end mark. -/
def EndsLast : List Entry → Prop
  | [] => True
  | e :: rest => e.2 = rest.isEmpty ∧ EndsLast rest

/-- The address of an entry, with the offset added, can be written to a descriptor. -/
def Fits (e : Entry) : Prop := e.1.addr.toNat + s.dmaOffset.toNat < 2 ^ s.addrWidth

theorem getAddr_describe {e : Entry} (fits : s.Fits e) (d : Adma2Desc) :
    (s.describe d e).getAddr s.adma2Is64 = e.1.addr + s.dmaOffset := by
  rw [describe, Adma2Desc.getAddr_transfer]
  rw [Fits, addrWidth] at fits
  cases width : s.adma2Is64 with
  | true => rfl
  | false =>
    rw [width, if_neg Bool.false_ne_true] at fits
    have sum : (e.1.addr + s.dmaOffset).toNat = e.1.addr.toNat + s.dmaOffset.toNat := by
      rw [BitVec.toNat_add]
      exact Nat.mod_eq_of_lt (by omega)
    apply BitVec.eq_of_toNat_eq
    rw [if_neg Bool.false_ne_true, BitVec.toNat_setWidth, BitVec.toNat_setWidth, sum,
      Nat.mod_eq_of_lt fits, Nat.mod_eq_of_lt (by omega)]

/-- The fields of a descriptor that was written for an entry. -/
theorem describe_fields {e : Entry} (size : 0 < e.1.size ∧ e.1.size ≤ Adma2Desc.maxLength)
    (d : Adma2Desc) :
    transfers (s.describe d e) = true ∧
      (Adma2Desc.length.get (s.describe d e).word0).toNat = e.1.size ∧
      Adma2Desc.endBit.test (s.describe d e).word0 = e.2 := by
  have len : (BitVec.ofNat 32 e.1.size).toNat = e.1.size :=
    Nat.mod_eq_of_lt (Nat.lt_of_le_of_lt size.2 (by decide))
  refine ⟨?_, ?_, Adma2Desc.endBit_transfer ..⟩
  · rw [transfers, describe, Adma2Desc.valid_transfer, Adma2Desc.act_transfer]
    rfl
  · rw [describe, Adma2Desc.length_transfer _ _ _ _ _ (by rw [len]; exact size.2), len]

/-- The end mark by position. -/
theorem EndsLast.get {entries : List Entry} (ends : EndsLast entries) {k : Nat} {e : Entry}
    (get : entries[k]? = some e) : e.2 = decide (k + 1 = entries.length) := by
  induction entries generalizing k with
  | nil => exact absurd get (by simp)
  | cons first rest ih =>
    rcases ends with ⟨mark, later⟩
    cases k with
    | zero =>
      cases (show some first = some e from get)
      rw [mark, List.length_cons]
      cases rest <;> simp
    | succ k =>
      rw [ih later get, List.length_cons]
      simp

/-- The controller executes what was written. -/
theorem execute_place {i fuel : Nat} {entries : List Entry} (h : Hw) (some : entries ≠ [])
    (enough : entries.length ≤ fuel) (ends : EndsLast entries)
    (sizes : ∀ e ∈ entries, 0 < e.1.size ∧ e.1.size ≤ Adma2Desc.maxLength)
    (fits : ∀ e ∈ entries, s.Fits e) :
    execute s.adma2Is64 (s.place i entries h).descs fuel i =
      Option.some (entries.map fun e => ⟨e.1.addr + s.dmaOffset, e.1.size⟩) := by
  induction entries generalizing i fuel h with
  | nil => exact absurd rfl some
  | cons e rest ih =>
    obtain ⟨fuel, rfl⟩ : ∃ k, fuel = k + 1 :=
      Nat.exists_eq_succ_of_ne_zero (Nat.ne_of_gt (Nat.lt_of_lt_of_le (Nat.succ_pos _) enough))
    rcases ends with ⟨mark, later⟩
    obtain ⟨d, written⟩ := (s.descs_place i (e :: rest) h).2 0 e rfl
    obtain ⟨valid, length, last⟩ := s.describe_fields (sizes e List.mem_cons_self) d
    have addr := s.getAddr_describe (fits e List.mem_cons_self) d
    rw [Nat.add_zero] at written
    rw [execute, written, if_pos valid, length, addr, last, mark, List.map_cons]
    cases rest with
    | nil => rfl
    | cons e' rest =>
      rw [List.isEmpty_cons, if_neg Bool.false_ne_true, place,
        ih _ (List.cons_ne_nil _ _) (Nat.le_of_succ_le_succ enough) later
          (fun e member => sizes e (List.mem_cons_of_mem _ member))
          (fun e member => fits e (List.mem_cons_of_mem _ member))]
      rfl

/-- Descriptors behind the plan are left alone. -/
theorem descs_place_behind (i : Nat) (entries : List Entry) (h : Hw) {j : Nat}
    (behind : i + entries.length ≤ j) : (s.place i entries h).descs j = h.descs j := by
  induction entries generalizing i h with
  | nil => rfl
  | cons e rest ih =>
    rw [List.length_cons] at behind
    rw [place, ih (i + 1) _ (by omega)]
    exact Function.update_of_ne (by omega) _ _

theorem wellFormed_place {entries : List Entry} (h : Hw) (ends : EndsLast entries)
    (sizes : ∀ e ∈ entries, 0 < e.1.size ∧ e.1.size ≤ Adma2Desc.maxLength) :
    WellFormed (s.place 0 entries h).descs entries.length := by
  have each : ∀ i < entries.length, ∃ e, entries[i]? = some e ∧ e ∈ entries ∧
      ∃ d, (s.place 0 entries h).descs i = s.describe d e := by
    intro i less
    have get : entries[i]? = some entries[i] := List.getElem?_eq_getElem less
    obtain ⟨d, written⟩ := (s.descs_place 0 entries h).2 i _ get
    rw [Nat.zero_add] at written
    exact ⟨_, get, List.getElem_mem less, d, written⟩
  constructor
  · intro i less
    obtain ⟨e, -, member, d, written⟩ := each i less
    rw [written]
    exact (s.describe_fields (sizes e member) d).1
  · intro i less
    obtain ⟨e, -, member, d, written⟩ := each i less
    rw [written, (s.describe_fields (sizes e member) d).2.1]
    exact sizes e member
  · intro i less
    obtain ⟨e, get, member, d, written⟩ := each i less
    rw [written, (s.describe_fields (sizes e member) d).2.2]
    exact ends.get get

/-! ## Blocks and their regions -/

/-- The memory of the bounce buffer. -/
def bounceBuffer : Region 64 := ⟨s.bbPhys, s.bbSize.toNat⟩

/-- The bounce buffer between two offsets. -/
def bouncePart (start stop : U32) : Region 64 :=
  ⟨s.bbPhys + BitVec.ofNat 64 start.toNat, stop.toNat - start.toNat⟩

/-- Where the bytes of each block are transferred. -/
def regions : List Block → U32 → List (Region 64)
  | [], _ => []
  | b :: rest, bbOffs => s.region b bbOffs :: regions rest (s.target b bbOffs).2

/-- The rest of a block list, with its place in the bounce buffer. -/
structure Laid (blocks : List Block) (bbOffs : U32) : Prop where
  apart : blocks.Pairwise fun b b' => b.memory.Disjoint b'.memory
  away : ∀ b ∈ blocks, b.memory.Disjoint s.bounceBuffer
  mapped : ∀ b ∈ blocks, Maps s.translate b.virtAddr b.dmaAddr b.size.toNat
  buffer : Maps s.translate s.bbVirt s.bbPhys s.bbSize.toNat
  roomy : s.roomy blocks bbOffs = true
  start : bbOffs.toNat ≤ s.bbSize.toNat
  small : bbOffs.toNat + (blocks.map fun b => b.size.toNat).sum < 2 ^ 32

/-- The first block goes either directly or through the next part of the bounce buffer. -/
theorem Laid.head {b : Block} {rest : List Block} {bbOffs : U32}
    (laid : s.Laid (b :: rest) bbOffs) :
    s.bounces b = false ∧ s.target b bbOffs = (b.dmaAddr, bbOffs) ∧ s.region b bbOffs = b.memory ∨
      s.bounces b = true ∧ (s.target b bbOffs).2.toNat = bbOffs.toNat + b.size.toNat ∧
        (s.target b bbOffs).2.toNat ≤ s.bbSize.toNat ∧
        s.region b bbOffs = s.bouncePart bbOffs (s.target b bbOffs).2 := by
  cases bounced : s.bounces b with
  | false =>
    have direct : s.target b bbOffs = (b.dmaAddr, bbOffs) := by
      rw [target, bounced, if_neg Bool.false_ne_true]
    exact Or.inl ⟨rfl, direct, by rw [region, direct]; rfl⟩
  | true =>
    have small := laid.small
    rw [List.map_cons, List.sum_cons] at small
    have sum : (bbOffs + b.size).toNat = bbOffs.toNat + b.size.toNat := by
      rw [BitVec.toNat_add]
      exact Nat.mod_eq_of_lt (by omega)
    have aside : s.target b bbOffs = (s.bbPhys + bbOffs.setWidth 64, bbOffs + b.size) := by
      rw [target, bounced, if_pos rfl]
    have room := (Bool.and_eq_true_iff.mp laid.roomy).1
    rw [roomFor, bounced, Bool.not_true, Bool.false_or, decide_eq_true_eq] at room
    have wide : bbOffs.setWidth 64 = BitVec.ofNat 64 bbOffs.toNat := by
      rw [← BitVec.toNat_inj, BitVec.toNat_setWidth, BitVec.toNat_ofNat]
    refine Or.inr ⟨rfl, by rw [aside, sum], by rw [aside]; exact room, ?_⟩
    rw [region, bouncePart, aside, sum, Nat.add_sub_cancel_left, wide]

theorem Laid.tail {b : Block} {rest : List Block} {bbOffs : U32}
    (laid : s.Laid (b :: rest) bbOffs) : s.Laid rest (s.target b bbOffs).2 := by
  have small := laid.small
  rw [List.map_cons, List.sum_cons] at small
  have next : (s.target b bbOffs).2.toNat ≤ s.bbSize.toNat ∧
      (s.target b bbOffs).2.toNat ≤ bbOffs.toNat + b.size.toNat := by
    rcases laid.head with ⟨-, direct, -⟩ | ⟨-, sum, room, -⟩
    · rw [direct]
      exact ⟨laid.start, Nat.le_add_right _ _⟩
    · exact ⟨room, Nat.le_of_eq sum⟩
  exact {
    apart := (List.pairwise_cons.mp laid.apart).2
    away := fun b member => laid.away b (List.mem_cons_of_mem _ member)
    mapped := fun b member => laid.mapped b (List.mem_cons_of_mem _ member)
    buffer := laid.buffer
    roomy := (Bool.and_eq_true_iff.mp laid.roomy).2
    start := next.1
    small := by omega }

/-- The bounce buffer is filled up from the front. -/
theorem Laid.bounceEnd_bounds {blocks : List Block} {bbOffs : U32} (laid : s.Laid blocks bbOffs) :
    bbOffs.toNat ≤ (s.bounceEnd blocks bbOffs).toNat ∧
      (s.bounceEnd blocks bbOffs).toNat ≤ s.bbSize.toNat := by
  induction blocks generalizing bbOffs with
  | nil => exact ⟨Nat.le_refl _, laid.start⟩
  | cons b rest ih =>
    obtain ⟨front, back⟩ := ih laid.tail
    refine ⟨Nat.le_trans ?_ front, back⟩
    rcases laid.head with ⟨-, direct, -⟩ | ⟨-, sum, -, -⟩
    · rw [direct]
    · rw [sum]
      exact Nat.le_add_right _ _

theorem bouncePart_within {start start' stop stop' : U32} (front : start' ≤ start)
    (order : start ≤ stop) (back : stop ≤ stop') :
    (s.bouncePart start stop).Within (s.bouncePart start' stop') := by
  rw [BitVec.le_def] at front order back
  have small := stop'.isLt
  exact Region.within_of_offsets _ front (by omega) (by omega)

theorem bouncePart_within_buffer {start stop : U32} (order : start ≤ stop)
    (back : stop.toNat ≤ s.bbSize.toNat) : (s.bouncePart start stop).Within s.bounceBuffer := by
  rw [BitVec.le_def] at order
  have small := s.bbSize.isLt
  have within := Region.within_of_offsets s.bbPhys (Nat.zero_le start.toNat)
    (show start.toNat + (stop.toNat - start.toNat) ≤ 0 + s.bbSize.toNat by omega) (by omega)
  rwa [show s.bbPhys + BitVec.ofNat 64 0 = s.bbPhys from BitVec.add_zero _] at within

theorem bouncePart_disjoint {start mid mid' stop : U32} (front : start ≤ mid) (order : mid ≤ mid')
    (back : mid' ≤ stop) : (s.bouncePart start mid).Disjoint (s.bouncePart mid' stop) := by
  rw [BitVec.le_def] at front order back
  have small := stop.isLt
  exact Region.disjoint_of_offsets _ (by omega) (by omega)

/-- No block overlaps with the bounce buffer. -/
theorem Laid.away_part {blocks : List Block} {bbOffs : U32} (laid : s.Laid blocks bbOffs)
    {b : Block} (member : b ∈ blocks) {start stop : U32} (order : start ≤ stop)
    (back : stop.toNat ≤ s.bbSize.toNat) : b.memory.Disjoint (s.bouncePart start stop) :=
  (laid.away b member).mono (fun _ inside => inside) (s.bouncePart_within_buffer order back)

/-- A region is a block or lies in the part of the bounce buffer that is used. -/
theorem Laid.mem_regions {blocks : List Block} {bbOffs : U32} (laid : s.Laid blocks bbOffs)
    {r : Region 64} (member : r ∈ s.regions blocks bbOffs) :
    (∃ b ∈ blocks, r = b.memory) ∨
      r.Within (s.bouncePart bbOffs (s.bounceEnd blocks bbOffs)) := by
  induction blocks generalizing bbOffs with
  | nil => exact absurd member List.not_mem_nil
  | cons b rest ih =>
    have used := laid.tail.bounceEnd_bounds.1
    rcases List.mem_cons.mp member with rfl | later
    · rcases laid.head with ⟨-, -, direct⟩ | ⟨-, sum, -, aside⟩
      · exact Or.inl ⟨b, List.mem_cons_self, direct⟩
      · rw [aside]
        refine Or.inr (s.bouncePart_within (BitVec.le_refl _) ?_ used)
        exact BitVec.le_def.mpr (sum ▸ Nat.le_add_right _ _)
    · rcases ih laid.tail later with ⟨b', member', same⟩ | inside
      · exact Or.inl ⟨b', List.mem_cons_of_mem _ member', same⟩
      · refine Or.inr fun x inR => ?_
        refine s.bouncePart_within ?_ used (BitVec.le_refl _) x (inside x inR)
        rcases laid.head with ⟨-, direct, -⟩ | ⟨-, sum, -, -⟩
        · rw [direct]
          exact BitVec.le_refl _
        · exact BitVec.le_def.mpr (sum ▸ Nat.le_add_right _ _)

theorem region_size_le (b : Block) (bbOffs : U32) : (s.region b bbOffs).size ≤ 2 ^ 64 := by
  have small := b.size.isLt
  show b.size.toNat ≤ 2 ^ 64
  omega

theorem size_of_mem_regions {blocks : List Block} {bbOffs : U32} {r : Region 64}
    (member : r ∈ s.regions blocks bbOffs) : r.size ≤ 2 ^ 64 := by
  induction blocks generalizing bbOffs with
  | nil => exact absurd member List.not_mem_nil
  | cons b rest ih =>
    rcases List.mem_cons.mp member with rfl | later
    · exact s.region_size_le b bbOffs
    · exact ih later

/-- The first region and those behind it. -/
theorem Laid.head_apart {b : Block} {rest : List Block} {bbOffs : U32}
    (laid : s.Laid (b :: rest) bbOffs) {r : Region 64}
    (member : r ∈ s.regions rest (s.target b bbOffs).2) : (s.region b bbOffs).Disjoint r := by
  obtain ⟨used, room⟩ := laid.tail.bounceEnd_bounds
  have others := (List.pairwise_cons.mp laid.apart).1
  rcases laid.head with ⟨-, -, direct⟩ | ⟨-, sum, inside, aside⟩
  · rw [direct]
    rcases laid.tail.mem_regions s member with ⟨b', later, rfl⟩ | within
    · exact others b' later
    · exact (laid.away_part s List.mem_cons_self used room).mono (fun _ inR => inR) within
  · have front : bbOffs ≤ (s.target b bbOffs).2 := BitVec.le_def.mpr (sum ▸ Nat.le_add_right _ _)
    rw [aside]
    rcases laid.tail.mem_regions s member with ⟨b', later, rfl⟩ | within
    · exact (laid.away_part s (List.mem_cons_of_mem _ later) front inside).symm
    · exact (s.bouncePart_disjoint front (BitVec.le_refl _) used).mono (fun _ inR => inR) within

theorem Laid.regions_apart {blocks : List Block} {bbOffs : U32} (laid : s.Laid blocks bbOffs) :
    (s.regions blocks bbOffs).Pairwise Region.Disjoint := by
  induction blocks generalizing bbOffs with
  | nil => exact List.Pairwise.nil
  | cons b rest ih =>
    exact List.pairwise_cons.mpr ⟨fun r member => laid.head_apart s member, ih laid.tail⟩

/-! ## Copying to and from the bounce buffer -/

/-- The virtual addresses of the next part of the bounce buffer. -/
theorem Laid.maps_part {b : Block} {rest : List Block} {bbOffs : U32}
    (laid : s.Laid (b :: rest) bbOffs) (bounced : s.bounces b = true) :
    Maps s.translate (s.bbVirt + bbOffs.setWidth 64) (s.region b bbOffs).addr b.size.toNat := by
  rcases laid.head with ⟨direct, -, -⟩ | ⟨-, sum, room, aside⟩
  · exact absurd (bounced.symm.trans direct) (by decide)
  · have wide : bbOffs.setWidth 64 = BitVec.ofNat 64 bbOffs.toNat := by
      rw [← BitVec.toNat_inj, BitVec.toNat_setWidth, BitVec.toNat_ofNat]
    rw [aside, wide]
    exact laid.buffer.part (by omega)

theorem copyBlock_of_direct {b : Block} (direct : s.bounces b = false) (read : Bool) (bbOffs : U32)
    (mem : U64 → U8) : s.copyBlock read b bbOffs mem = mem := by
  rw [copyBlock, direct, Bool.false_and, if_neg Bool.false_ne_true]

/-- Copying one block of a write request. -/
theorem Laid.copyBlock_eq {b : Block} {rest : List Block} {bbOffs : U32}
    (laid : s.Laid (b :: rest) bbOffs) (bounced : s.bounces b = true) (mem : U64 → U8) :
    s.copyBlock false b bbOffs mem =
      Memory.write mem (s.region b bbOffs).addr (Memory.read mem b.memory) := by
  have small := b.size.isLt
  rw [copyBlock, bounced, Bool.not_false, Bool.and_true, if_pos rfl]
  exact memcpy_eq (laid.maps_part s bounced) (laid.mapped b List.mem_cons_self) (by omega)

theorem copyIn_read (blocks : List Block) (bbOffs : U32) (mem : U64 → U8) :
    s.copyIn true blocks bbOffs mem = mem := by
  induction blocks generalizing bbOffs with
  | nil => rfl
  | cons b rest ih =>
    rw [copyIn, copyBlock, Bool.not_true, Bool.and_false, if_neg Bool.false_ne_true, ih]

/-- Only the part of the bounce buffer that is used changes. -/
theorem Laid.copyIn_frame {blocks : List Block} {bbOffs : U32} (laid : s.Laid blocks bbOffs)
    (mem : U64 → U8) {x : U64}
    (outside : ¬ (s.bouncePart bbOffs (s.bounceEnd blocks bbOffs)).Mem x) :
    s.copyIn false blocks bbOffs mem x = mem x := by
  induction blocks generalizing bbOffs mem with
  | nil => rfl
  | cons b rest ih =>
    have used := laid.tail.bounceEnd_bounds.1
    rcases laid.head with ⟨direct, same, -⟩ | ⟨bounced, sum, room, aside⟩
    · have tail := laid.tail
      rw [bounceEnd] at outside
      rw [copyIn, s.copyBlock_of_direct direct]
      rw [same] at outside tail ⊢
      exact ih tail mem outside
    · have front : bbOffs ≤ (s.target b bbOffs).2 := BitVec.le_def.mpr (sum ▸ Nat.le_add_right _ _)
      rw [copyIn, ih laid.tail, laid.copyBlock_eq s bounced, Memory.write_of_outside]
      · rw [Memory.length_read]
        intro inside
        have here : (s.region b bbOffs).Mem x := inside
        rw [aside] at here
        exact outside (s.bouncePart_within (BitVec.le_refl _) front used x here)
      · intro inside
        exact outside (s.bouncePart_within front used (BitVec.le_refl _) x inside)

/-- For a write request, the controller gathers the bytes of the blocks. -/
theorem Laid.gather_copyIn {blocks : List Block} {bbOffs : U32} (laid : s.Laid blocks bbOffs)
    (mem : U64 → U8) : Memory.gather (s.copyIn false blocks bbOffs mem) (s.regions blocks bbOffs) =
      Memory.gather mem (blocks.map Block.memory) := by
  induction blocks generalizing bbOffs mem with
  | nil => rfl
  | cons b rest ih =>
    obtain ⟨used, inside⟩ := laid.tail.bounceEnd_bounds
    have small := b.size.isLt
    rw [copyIn, regions, Memory.gather_cons, List.map_cons, Memory.gather_cons, ih laid.tail]
    -- What is copied later does not reach the region of this block.
    have frame (mem : U64 → U8) (r : Region 64) (fits : r.size ≤ 2 ^ 64)
        (apart : r.Disjoint (s.bouncePart (s.target b bbOffs).2
          (s.bounceEnd rest (s.target b bbOffs).2))) :
        Memory.read (s.copyIn false rest (s.target b bbOffs).2 mem) r = Memory.read mem r :=
      Memory.read_congr fits fun x inR => laid.tail.copyIn_frame s mem (apart x inR)
    rcases laid.head with ⟨direct, -, same⟩ | ⟨bounced, sum, room, aside⟩
    · rw [s.copyBlock_of_direct direct, same, frame mem b.memory (by show b.size.toNat ≤ _; omega)
        (laid.away_part s List.mem_cons_self used inside)]
    · have front : bbOffs ≤ (s.target b bbOffs).2 := BitVec.le_def.mpr (sum ▸ Nat.le_add_right _ _)
      have length : (Memory.read mem b.memory).length = b.size.toNat := Memory.length_read _ _
      have apart : ∀ b' ∈ rest, b'.memory.Disjoint (s.region b bbOffs) := by
        intro b' later
        rw [aside]
        exact laid.away_part s (List.mem_cons_of_mem _ later) front room
      have first : Memory.read (Memory.write mem (s.region b bbOffs).addr
          (Memory.read mem b.memory)) (s.region b bbOffs) = Memory.read mem b.memory := by
        have back := Memory.read_write_self mem (s.region b bbOffs).addr
          (show (Memory.read mem b.memory).length ≤ 2 ^ 64 by rw [length]; omega)
        rwa [length] at back
      have others : Memory.gather (Memory.write mem (s.region b bbOffs).addr
          (Memory.read mem b.memory)) (rest.map Block.memory) =
            Memory.gather mem (rest.map Block.memory) := by
        refine Memory.gather_congr fun r member => ?_
        obtain ⟨b', later, rfl⟩ := List.mem_map.mp member
        refine Memory.read_write_of_disjoint ?_ ?_
        · have bound := b'.size.isLt
          show b'.size.toNat ≤ _
          omega
        · rw [length]
          exact apart b' later
      rw [laid.copyBlock_eq s bounced, frame _ (s.region b bbOffs) (s.region_size_le b bbOffs),
        first, others]
      rw [aside]
      exact s.bouncePart_disjoint front (BitVec.le_refl _) used

/-- The blocks `cmd_fetch_response` copies are those that were given a part of the bounce buffer. -/
theorem bounces_of_provided (provided : s.bbSize ≠ 0) (b : Block) :
    (!s.dmaAccessible b.dmaAddr (b.size.setWidth 64)) = s.bounces b := by
  rw [bounces, providedBounceBuffer, decide_eq_true provided, Bool.true_and]

/-- One step of the copying. -/
theorem Laid.copyOut_cons {b : Block} {rest : List Block} {bbOffs : U32}
    (laid : s.Laid (b :: rest) bbOffs) (provided : s.bbSize ≠ 0) (mem : U64 → U8) :
    s.copyOut (b :: rest) bbOffs mem = s.copyOut rest (s.target b bbOffs).2
      (if s.bounces b then
        Memory.write mem b.dmaAddr (Memory.read mem (s.region b bbOffs)) else mem) := by
  have small := b.size.isLt
  rw [copyOut, s.bounces_of_provided provided]
  cases bounced : s.bounces b with
  | false =>
    rw [if_neg Bool.false_ne_true, if_neg Bool.false_ne_true, target, bounced,
      if_neg Bool.false_ne_true]
  | true =>
    rw [if_pos rfl, if_pos rfl, memcpy_eq (laid.mapped b List.mem_cons_self)
      (laid.maps_part s bounced) (by omega), target, bounced, if_pos rfl]
    rfl

theorem Laid.copyOut_frame {blocks : List Block} {bbOffs : U32} (laid : s.Laid blocks bbOffs)
    (provided : s.bbSize ≠ 0) (mem : U64 → U8) {x : U64}
    (outside : ∀ b ∈ blocks, ¬ b.memory.Mem x) : s.copyOut blocks bbOffs mem x = mem x := by
  induction blocks generalizing bbOffs mem with
  | nil => rfl
  | cons b rest ih =>
    rw [laid.copyOut_cons s provided,
      ih laid.tail _ fun b' later => outside b' (List.mem_cons_of_mem _ later)]
    split
    · refine Memory.write_of_outside ?_
      rw [Memory.length_read]
      exact outside b List.mem_cons_self
    · rfl

/-- Afterwards the blocks hold what was in their regions. -/
theorem Laid.gather_copyOut {blocks : List Block} {bbOffs : U32} (laid : s.Laid blocks bbOffs)
    (provided : s.bbSize ≠ 0) (mem : U64 → U8) :
    Memory.gather (s.copyOut blocks bbOffs mem) (blocks.map Block.memory) =
      Memory.gather mem (s.regions blocks bbOffs) := by
  induction blocks generalizing bbOffs mem with
  | nil => rfl
  | cons b rest ih =>
    have others := (List.pairwise_cons.mp laid.apart).1
    have small := b.size.isLt
    have kept (mem : U64 → U8) : Memory.read (s.copyOut rest (s.target b bbOffs).2 mem) b.memory =
        Memory.read mem b.memory := by
      refine Memory.read_congr (show b.size.toNat ≤ _ by omega) fun x inB => ?_
      exact laid.tail.copyOut_frame s provided mem fun b' later => others b' later x inB
    rw [laid.copyOut_cons s provided, List.map_cons, Memory.gather_cons, kept, ih laid.tail,
      regions, Memory.gather_cons]
    obtain ⟨used, inside⟩ := laid.tail.bounceEnd_bounds
    rcases laid.head with ⟨direct, -, same⟩ | ⟨bounced, -, -, -⟩
    · rw [direct, if_neg Bool.false_ne_true, same]
    · have length : (Memory.read mem (s.region b bbOffs)).length = b.size.toNat :=
        Memory.length_read _ _
      have first := Memory.read_write_self mem b.dmaAddr
        (show (Memory.read mem (s.region b bbOffs)).length ≤ 2 ^ 64 by rw [length]; omega)
      rw [length] at first
      have later : Memory.gather (Memory.write mem b.dmaAddr (Memory.read mem (s.region b bbOffs)))
          (s.regions rest (s.target b bbOffs).2) =
            Memory.gather mem (s.regions rest (s.target b bbOffs).2) := by
        refine Memory.gather_congr fun r member => ?_
        have apart : r.Disjoint b.memory := by
          rcases laid.tail.mem_regions s member with ⟨b', later, rfl⟩ | within
          · exact (others b' later).symm
          · exact ((laid.away_part s List.mem_cons_self used inside).mono (fun _ inB => inB)
              within).symm
        refine Memory.read_write_of_disjoint (s.size_of_mem_regions member) ?_
        rw [length]
        exact apart
      rw [bounced, if_pos rfl, later]
      exact congrArg (· ++ _) first

/-! ## The plan covers the regions -/

theorem gather_plan (blocks : List Block) (bbOffs : U32) (mem : U64 → U8) :
    Memory.gather mem ((s.plan blocks bbOffs).map Prod.fst) =
      Memory.gather mem (s.regions blocks bbOffs) := by
  induction blocks generalizing bbOffs with
  | nil => rfl
  | cons b rest ih =>
    rw [plan, List.map_append, map_fst_marked, Memory.gather_append, (covers_pieces _).gather, ih,
      regions, Memory.gather_cons]

theorem scatter_plan (blocks : List Block) (bbOffs : U32) (mem : U64 → U8) {stream : List U8}
    (length : Memory.total (s.regions blocks bbOffs) ≤ stream.length) :
    Memory.scatter mem ((s.plan blocks bbOffs).map Prod.fst) stream =
      Memory.scatter mem (s.regions blocks bbOffs) stream := by
  induction blocks generalizing bbOffs mem stream with
  | nil => rfl
  | cons b rest ih =>
    rw [regions, Memory.total_cons] at length
    rw [plan, List.map_append, map_fst_marked, Memory.scatter_append,
      (covers_pieces _).scatter (s.region_size_le b bbOffs) _ (by omega), (covers_pieces _).total, regions,
      Memory.scatter, ih]
    rw [List.length_drop]
    omega

theorem total_regions (blocks : List Block) (bbOffs : U32) :
    Memory.total (s.regions blocks bbOffs) = (blocks.map fun b => b.size.toNat).sum := by
  induction blocks generalizing bbOffs with
  | nil => rfl
  | cons b rest ih => rw [regions, Memory.total_cons, ih, List.map_cons, List.sum_cons]; rfl

theorem endsLast_marked (regions : List (Region 64)) : EndsLast (marked true regions) := by
  induction regions with
  | nil => trivial
  | cons r rest ih =>
    refine ⟨?_, ih⟩
    rw [Bool.and_true]
    cases rest <;> rfl

theorem endsLast_append (regions : List (Region 64)) {back : List Entry} (some : back ≠ [])
    (ends : EndsLast back) : EndsLast (marked false regions ++ back) := by
  induction regions with
  | nil => exact ends
  | cons r rest ih =>
    refine ⟨?_, ih⟩
    have more : marked false rest ++ back ≠ [] := fun none => some (List.append_eq_nil_iff.mp none).2
    rw [Bool.and_false, eq_comm, Bool.eq_false_iff, ne_eq, List.isEmpty_iff]
    exact more

theorem plan_ne_nil {b : Block} {rest : List Block} (some : b.size ≠ 0) (bbOffs : U32) :
    s.plan (b :: rest) bbOffs ≠ [] := by
  have size : (s.region b bbOffs).size ≠ 0 := fun none => some (BitVec.eq_of_toNat_eq none)
  have piece : pieces (s.region b bbOffs) ≠ [] := Memory.cut_ne_nil size (Nat.le_refl _)
  intro none
  have first := congrArg List.length (List.append_eq_nil_iff.mp none).1
  rw [length_marked] at first
  exact piece (List.eq_nil_of_length_eq_zero first)

/-- The last block is not empty, so its last piece ends the table. -/
theorem endsLast_plan {blocks : List Block} (some : ∀ b ∈ blocks, b.size ≠ 0) (bbOffs : U32) :
    EndsLast (s.plan blocks bbOffs) := by
  induction blocks generalizing bbOffs with
  | nil => trivial
  | cons b rest ih =>
    have later := ih (fun b member => some b (List.mem_cons_of_mem _ member)) (s.target b bbOffs).2
    rw [plan]
    cases rest with
    | nil =>
      rw [plan, List.append_nil]
      exact endsLast_marked _
    | cons b' rest =>
      exact endsLast_append _ (s.plan_ne_nil (some b' (by simp)) _) later

/-- Nothing goes through the bounce buffer if its offset stays the same. -/
theorem Laid.regions_direct {blocks : List Block} {bbOffs : U32} (laid : s.Laid blocks bbOffs)
    (some : ∀ b ∈ blocks, b.size ≠ 0) (unused : s.bounceEnd blocks bbOffs = bbOffs) :
    s.regions blocks bbOffs = blocks.map Block.memory := by
  induction blocks generalizing bbOffs with
  | nil => rfl
  | cons b rest ih =>
    have tail := laid.tail
    have used := laid.tail.bounceEnd_bounds.1
    rw [bounceEnd] at unused
    rcases laid.head with ⟨-, direct, same⟩ | ⟨-, sum, -, -⟩
    · rw [direct] at tail unused
      rw [regions, same, direct, ih tail (fun b member => some b (List.mem_cons_of_mem _ member))
        unused, List.map_cons]
    · rw [unused, sum] at used
      have size : b.size.toNat ≠ 0 := fun none =>
        some b List.mem_cons_self (BitVec.eq_of_toNat_eq none)
      omega

/-- The bounce buffer is used only if there is one. -/
theorem provided_of_used {blocks : List Block} {bbOffs : U32}
    (used : s.bounceEnd blocks bbOffs ≠ bbOffs) : s.bbSize ≠ 0 := by
  intro unprovided
  refine used ?_
  induction blocks generalizing bbOffs with
  | nil => rfl
  | cons b rest ih =>
    have direct : s.target b bbOffs = (b.dmaAddr, bbOffs) := by
      rw [target, bounces, providedBounceBuffer, unprovided]
      rfl
    rw [bounceEnd, direct] at used ⊢
    exact ih used

/-! ## A command with blocks -/

/-- A command whose blocks can be transferred: as the device prepares it, with blocks that do not
overlap with each other or with the bounce buffer. -/
structure Transferable (c : Cmd) : Prop where
  some : c.blocks ≠ []
  sectors : ∀ b ∈ c.blocks, b.numSectors ≠ 0
  total : (Device.blockSizes c.blocks).sum * Device.sectorSize < 2 ^ 32
  apart : c.blocks.Pairwise fun b b' => b.memory.Disjoint b'.memory
  away : ∀ b ∈ c.blocks, b.memory.Disjoint s.bounceBuffer
  /-- The virtual addresses of the blocks and of the bounce buffer name the same memory. -/
  mapped : ∀ b ∈ c.blocks, Maps s.translate b.virtAddr b.dmaAddr b.size.toNat
  buffer : Maps s.translate s.bbVirt s.bbPhys s.bbSize.toNat
  /-- The controller can address what it reaches directly. -/
  fits : ∀ b ∈ c.blocks, s.bounces b = false → ∀ x, b.memory.Mem x →
    x.toNat + s.dmaOffset.toNat < 2 ^ s.addrWidth
  fresh : c.flags.readFromBounceBuffer = false

/-- The part of the bounce buffer that is used for the blocks. -/
def usedBuffer (blocks : List Block) : Region 64 := ⟨s.bbPhys, (s.bounceEnd blocks 0).toNat⟩

/-- Every block holds its slice of the stream. -/
def HoldsSlices (mem : U64 → U8) (blocks : List Block) (stream : List U8) : Prop :=
  ∀ front b back, blocks = front ++ b :: back →
    Memory.read mem b.memory =
      (stream.drop (Memory.total (front.map Block.memory))).take b.size.toNat

/-- What the descriptors of a command are for. The controller executes the table from the state `t`
on, and `used` is the memory it transfers; a read command fetches its response from the state the
controller left behind. -/
structure Exact (c : Cmd) (h : Hw) (t : Cmd × Hw) (used : List (Region 64)) : Prop where
  executes : execute s.adma2Is64 t.2.descs s.maxDescs 0 = some used
  /-- The first `n` descriptors were written, the others are as before. -/
  table : ∃ n, 0 < n ∧ n ≤ s.maxDescs ∧ WellFormed t.2.descs n ∧
    ∀ i, n ≤ i → t.2.descs i = h.descs i
  write : c.flags.inoutRead = false → Memory.gather t.2.mem (used.map s.physical) =
    c.blocks.flatMap fun b => Memory.read h.mem b.memory
  read : c.flags.inoutRead = true → ∀ stream : List U8,
    stream.length = (Device.blockSizes c.blocks).sum * Device.sectorSize →
    ∀ (c' : Cmd) (h' : Hw), c'.blocks = t.1.blocks →
    c'.flags.readFromBounceBuffer = t.1.flags.readFromBounceBuffer →
    c'.cmd = Mmc.cmd17ReadSingleBlock ∨ c'.cmd = Mmc.cmd18ReadMultipleBlock →
    h'.mem = Memory.scatter t.2.mem (used.map s.physical) stream →
    wp s.cmdFetchResponse
      (fun _ t' => HoldsSlices t'.2.mem c.blocks stream ∧
        ∀ x, (∀ b ∈ c.blocks, ¬ b.memory.Mem x) → ¬ (s.usedBuffer c.blocks).Mem x →
          t'.2.mem x = h.mem x)
      (fun _ _ => False) (c', h')

section Transferred

variable {s} {c : Cmd}

theorem Transferable.small (ready : s.Transferable c) :
    ∀ b ∈ c.blocks, b.numSectors.toNat < 2 ^ 23 := by
  intro b member
  have bound := sectors_le_sum member
  have total := ready.total
  rw [show Device.sectorSize = 512 from rfl] at total
  omega

theorem Transferable.sum (ready : s.Transferable c) : (c.blocks.map fun b => b.size.toNat).sum =
    (Device.blockSizes c.blocks).sum * Device.sectorSize := sum_sizes ready.small

theorem Transferable.size_ne (ready : s.Transferable c) : ∀ b ∈ c.blocks, b.size ≠ 0 := by
  intro b member none
  have size := size_toNat (ready.small b member)
  rw [none] at size
  have sectors : b.numSectors.toNat = 0 := by
    have zero : (0 : U32).toNat = 0 := rfl
    omega
  exact ready.sectors b member (BitVec.eq_of_toNat_eq sectors)

theorem Transferable.laid (ready : s.Transferable c) (accepted : s.acceptsBlocks c.blocks = true) :
    s.Laid c.blocks 0 where
  apart := ready.apart
  away := ready.away
  mapped := ready.mapped
  buffer := ready.buffer
  roomy := (Bool.and_eq_true_iff.mp accepted).1
  start := Nat.zero_le _
  small := by
    show 0 + _ < 2 ^ 32
    rw [Nat.zero_add, ready.sum]
    exact ready.total

/-- Memory of the bounce buffer can be addressed with any descriptor. -/
theorem fits_bounced {x : U64} (provided : s.bbSize ≠ 0) (inside : s.bounceBuffer.Mem x) :
    x.toNat + s.dmaOffset.toNat < 2 ^ s.addrWidth := by
  have limit := s.bounce_end_le provided
  have sum := s.dmaOffset_add_dmaLimit
  have small := s.bbSize.isLt
  obtain ⟨i, less, rfl⟩ := (Region.mem_iff (Nat.le_of_lt small)).mp inside
  have bound : i < s.bbSize.toNat := less
  have addr : (s.bbPhys + BitVec.ofNat 64 i).toNat = s.bbPhys.toNat + i := by
    rw [BitVec.toNat_add, BitVec.toNat_ofNat, Nat.add_mod_mod]
    exact Nat.mod_eq_of_lt (by omega)
  have low : (s.bbPhys + BitVec.ofNat 64 i).toNat + s.dmaOffset.toNat < 2 ^ 32 := by
    rw [addr]
    omega
  refine Nat.lt_of_lt_of_le low (Nat.pow_le_pow_right Nat.two_pos ?_)
  rw [addrWidth]
  split <;> decide

theorem Laid.fits {blocks : List Block} {bbOffs : U32} (laid : s.Laid blocks bbOffs)
    (direct : ∀ b ∈ blocks, s.bounces b = false → ∀ x, b.memory.Mem x →
      x.toNat + s.dmaOffset.toNat < 2 ^ s.addrWidth) :
    ∀ e ∈ s.plan blocks bbOffs, s.Fits e := by
  induction blocks generalizing bbOffs with
  | nil => exact fun _ member => absurd member List.not_mem_nil
  | cons b rest ih =>
    have split := s.forall_plan_cons b rest bbOffs
      (P := fun r => r.addr.toNat + s.dmaOffset.toNat < 2 ^ s.addrWidth)
    refine split.mpr ⟨fun p member => ?_,
      ih laid.tail fun b member => direct b (List.mem_cons_of_mem _ member)⟩
    have start := (covers_pieces _).mem_addr (s.region_size_le b bbOffs) member
      (size_of_mem_pieces member).1
    rcases laid.head with ⟨directly, -, same⟩ | ⟨bounced, sum, room, aside⟩
    · rw [same] at start
      exact direct b List.mem_cons_self directly _ start
    · rw [aside] at start
      have provided : s.bbSize ≠ 0 := by
        rw [bounces, providedBounceBuffer, Bool.and_eq_true, decide_eq_true_eq] at bounced
        exact bounced.1
      have front : bbOffs ≤ (s.target b bbOffs).2 := BitVec.le_def.mpr (sum ▸ Nat.le_add_right _ _)
      exact fits_bounced provided (s.bouncePart_within_buffer front room _ start)

/-- The controller undoes the DMA offset. -/
theorem physical_entries (entries : List Entry) :
    (entries.map fun e => (⟨e.1.addr + s.dmaOffset, e.1.size⟩ : Region 64)).map s.physical =
      entries.map Prod.fst := by
  rw [List.map_map]
  refine List.map_congr_left fun e _ => ?_
  show (⟨e.1.addr + s.dmaOffset - s.dmaOffset, e.1.size⟩ : Region 64) = e.1
  rw [BitVec.add_sub_cancel]

/-- Nothing but the blocks and the part of the bounce buffer that is used lies in the regions. -/
theorem Laid.outside_regions {blocks : List Block} (laid : s.Laid blocks 0) {x : U64}
    (outside : ∀ b ∈ blocks, ¬ b.memory.Mem x) (unused : ¬ (s.usedBuffer blocks).Mem x) :
    ∀ r ∈ s.regions blocks 0, ¬ r.Mem x := by
  have same : s.bouncePart 0 (s.bounceEnd blocks 0) = s.usedBuffer blocks := by
    rw [bouncePart, usedBuffer]
    congr 1
    exact BitVec.add_zero _
  intro r member inside
  rcases laid.mem_regions s member with ⟨b, member', rfl⟩ | within
  · exact outside b member' inside
  · rw [same] at within
    exact unused (within x inside)

/-- What the blocks hold after a read request. -/
theorem Transferable.read_exact (ready : s.Transferable c) (laid : s.Laid c.blocks 0)
    {mem after : U64 → U8} {stream : List U8}
    (length : stream.length = Memory.total (s.regions c.blocks 0))
    (stored : after = Memory.scatter mem (s.regions c.blocks 0) stream) :
    Memory.gather (if s.bounceEnd c.blocks 0 ≠ 0 then s.copyOut c.blocks 0 after else after)
      (c.blocks.map Block.memory) = stream := by
  have scattered : Memory.gather after (s.regions c.blocks 0) = stream := by
    rw [stored]
    exact Memory.gather_scatter (fun r member => s.size_of_mem_regions member)
      (laid.regions_apart s) length
  rcases eq_or_ne (s.bounceEnd c.blocks 0) 0 with unused | used
  · rw [if_neg (not_not.mpr unused), ← laid.regions_direct s ready.size_ne unused]
    exact scattered
  · rw [if_pos used, laid.gather_copyOut s (s.provided_of_used used)]
    exact scattered

end Transferred

/-! ## The response of a read command -/

/-- What `cmd_fetch_response` does to memory. -/
theorem cmdFetchResponse_mem {c : Cmd} (h : Hw)
    (reads : c.cmd = Mmc.cmd17ReadSingleBlock ∨ c.cmd = Mmc.cmd18ReadMultipleBlock) :
    wp s.cmdFetchResponse
      (fun _ t => t.2.mem =
        if c.flags.readFromBounceBuffer then s.copyOut c.blocks 0 h.mem else h.mem)
      (fun _ _ => False) (c, h) := by
  have kept : (withResponse h.regs c).blocks = c.blocks ∧
      fetchesBounced (withResponse h.regs c) = c.flags.readFromBounceBuffer := by
    have word : (c.cmd = Mmc.cmd17ReadSingleBlock || c.cmd = Mmc.cmd18ReadMultipleBlock) = true := by
      rw [Bool.or_eq_true, decide_eq_true_eq, decide_eq_true_eq]
      exact reads
    rw [withResponse]
    split <;> rw [fetchesBounced] <;> exact ⟨rfl, by simp only [word, Bool.and_true]⟩
  show (if fetchesBounced (withResponse h.regs c) then
    h.setMem (s.copyOut (withResponse h.regs c).blocks 0 h.mem) else h).mem = _
  rw [kept.1, kept.2]
  split <;> rfl

/-- Where `place` does not change anything but the descriptors. -/
theorem mem_prepared (c : Cmd) (h : Hw) :
    (s.place 0 (s.plan c.blocks 0)
      (h.setMem (s.copyIn c.flags.inoutRead c.blocks 0 h.mem))).mem =
        s.copyIn c.flags.inoutRead c.blocks 0 h.mem := s.mem_place ..

/-- Scatter and gather through the descriptors of a command are exact. -/
theorem adma2SetDescs_exact {c : Cmd} (h : Hw) (ready : s.Transferable c) :
    wp s.adma2SetDescs (fun _ t => ∃ used, s.Exact c h t used) (fun _ _ => True) (c, h) := by
  refine (s.adma2SetDescs_spec c h).mono ?_ (fun _ _ _ => trivial)
  rintro _ ⟨c₁, h₁⟩ ⟨accepted, marked, placed⟩
  simp only at marked placed
  have laid := ready.laid accepted
  have room := of_decide_eq_true (Bool.and_eq_true_iff.mp (Bool.and_eq_true_iff.mp accepted).2).1
  have sizes : ∀ e ∈ s.plan c.blocks 0, 0 < e.1.size ∧ e.1.size ≤ Adma2Desc.maxLength :=
    s.size_of_mem_plan
  have ends := s.endsLast_plan ready.size_ne 0
  have some : s.plan c.blocks 0 ≠ [] := by
    obtain ⟨b, rest, blocks⟩ := List.exists_cons_of_ne_nil ready.some
    have size := ready.size_ne b (by rw [blocks]; exact List.mem_cons_self)
    rw [blocks]
    exact s.plan_ne_nil size 0
  rw [Nat.zero_add] at room
  refine ⟨(s.plan c.blocks 0).map fun e => ⟨e.1.addr + s.dmaOffset, e.1.size⟩, ?_, ?_, ?_, ?_⟩
  · rw [placed]
    exact s.execute_place _ some room ends sizes (laid.fits ready.fits)
  · refine ⟨_, List.length_pos_of_ne_nil some, room, ?_, fun i behind => ?_⟩
    · rw [placed]
      exact s.wellFormed_place _ ends sizes
    · rw [placed]
      exact s.descs_place_behind 0 _ _ (by rwa [Nat.zero_add])
  · intro writes
    rw [physical_entries, placed, mem_prepared, writes, gather_plan, laid.gather_copyIn]
    exact List.flatMap_map ..
  · intro reads stream length c' h' blocks flag cmd mem
    have total : Memory.total (s.regions c.blocks 0) = stream.length := by
      rw [total_regions, ready.sum, length]
    have kept : c₁.blocks = c.blocks ∧
        c₁.flags.readFromBounceBuffer = decide (s.bounceEnd c.blocks 0 ≠ 0) := by
      rw [marked, markBounced]
      by_cases used : s.bounceEnd c.blocks 0 ≠ 0
      · rw [if_pos ⟨used, reads⟩]
        exact ⟨rfl, (decide_eq_true used).symm⟩
      · rw [if_neg fun both => used both.1]
        exact ⟨rfl, ready.fresh.trans (decide_eq_false used).symm⟩
    rw [physical_entries, placed, mem_prepared, reads, copyIn_read,
      scatter_plan _ _ _ _ (Nat.le_of_eq total)] at mem
    apply (s.cmdFetchResponse_mem h' cmd).imp_ok
    rintro _ ⟨c₂, h₂⟩ final
    simp only at final blocks flag
    rw [blocks, kept.1, flag, kept.2] at final
    simp only [decide_eq_true_eq] at final
    have exact := ready.read_exact laid total.symm mem
    rw [← final] at exact
    refine ⟨fun front b back split => ?_, fun x outside unused => ?_⟩
    · rw [split, List.map_append, List.map_cons] at exact
      exact Memory.read_of_gather exact
    · have scattered : Memory.scatter h.mem (s.regions c.blocks 0) stream x = h.mem x :=
        Memory.scatter_of_outside (laid.outside_regions outside unused)
      show h₂.mem x = h.mem x
      rw [final, mem]
      split
      · rename_i used
        rw [laid.copyOut_frame s (s.provided_of_used used) _ outside, scattered]
      · exact scattered

/-- A board with a bounce buffer below 4 GiB. -/
def mixed : Sdhci := { buffered with bbVirt := 0x40000000 }

/-- One block the DMA engine reaches, and one behind its limit. -/
def mixedRequest : Request where
  sector := 0
  first := ⟨0x10000000, 0x10000000, 2⟩
  rest := [⟨0x100000000, 0x100000000, 4⟩]
  cb := some 0
  read := true

def mixedCommand : Cmd :=
  Device.firstCommand mixed.hwDrv { maxSeg := 64, hasCmd23 := false } mixedRequest {}

theorem mixedCommand_transferable : mixed.Transferable mixedCommand where
  some := List.cons_ne_nil _ _
  sectors := by decide
  total := by decide
  apart := by
    refine List.pairwise_pair.mpr (Region.disjoint_of_le ?_ ?_) <;> decide
  away := by
    intro b member
    rcases List.mem_cons.mp member with rfl | member
    · exact Region.disjoint_of_le (by decide) (by decide)
    · cases List.mem_singleton.mp member
      exact Region.Disjoint.symm (Region.disjoint_of_le (by decide) (by decide))
  mapped := by
    intro b member i _
    rcases List.mem_cons.mp member with rfl | member
    · rfl
    · cases List.mem_singleton.mp member
      rfl
  buffer := fun i _ => rfl
  fits := by
    intro b member direct x inside
    rcases List.mem_cons.mp member with rfl | member
    · obtain ⟨i, less, rfl⟩ := (Region.mem_iff (by decide)).mp inside
      have bound : i < 1024 := less
      show (0x10000000 + BitVec.ofNat 64 i).toNat + 0 < 2 ^ 32
      rw [BitVec.toNat_add, BitVec.toNat_ofNat]
      show (0x10000000 + i % 2 ^ 64) % 2 ^ 64 + 0 < 2 ^ 32
      omega
    · cases List.mem_singleton.mp member
      exact absurd direct (by decide)
  fresh := rfl

theorem mixedCommand_exact :
    wp mixed.adma2SetDescs (fun _ t => ∃ used, mixed.Exact mixedCommand {} t used)
      (fun _ _ => False) (mixedCommand, {}) := by
  have accepted : mixed.acceptsBlocks mixedCommand.blocks = true := by decide
  refine ((mixed.adma2SetDescs_exact {} mixedCommand_transferable).and
    (mixed.adma2SetDescs_spec mixedCommand {})).mono (fun _ _ both => both.1) ?_
  intro _ _ post
  rcases post with ⟨-, refused, -⟩
  exact Bool.false_ne_true (refused.symm.trans accepted)

end Sdhci

end Emmc
