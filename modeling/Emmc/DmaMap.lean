import Emmc.Lib.Runs
import Emmc.Lib.TwoLevel
import Emmc.Device

/-!
# The cache of DMA mappings

`dmaMapSingle` and `dmaUnmapSingle` keep two maps: `dsOffsMap` leads from a dataspace and an offset
to the address that was obtained for it, with a reference count, and `physMap` leads back from the
address.  The DMA space is outside of the driver: what it answers is an argument, and `live` is the
set of mappings that its answers promised and no unmapping has ended.

* `Cached`: the two maps are inverse to each other, every entry has a live mapping of its own, and
  the reference counts are the numbers of addresses handed out.
* `mapped_while_held`: this is kept along every run in which the DMA space returns an address that
  is not in use and no reference count overflows.
* `all_or_nothing_iff`: in a run of clean calls, a call of `dmaMapSingle` is all or nothing if and
  only if it is clean.
-/

namespace Emmc

open TwoLevel

/-- `L4Re::Dma_space::Direction`. -/
inductive Direction
  | bidirectional
  | toDevice
  | fromDevice
  | none
deriving DecidableEq, Repr

namespace DmaMap

structure PhysEntry where
  phys : U64
  numSectors : U64
  refcnt : U32
deriving DecidableEq, Repr

structure DsOffsEntry where
  ds : U64
  offset : U64
deriving DecidableEq, Repr

/-- A mapping in the DMA space. -/
structure Mapping where
  phys : U64
  ds : U64
  offset : U64
  size : U64
  dir : Direction
deriving DecidableEq, Repr

/-- What `L4Re::Dma_space::map()` returns and stores. -/
structure MapReply where
  ret : Int
  size : U64
  phys : U64
deriving DecidableEq, Repr

/-- The two maps of the device and the mappings of the DMA space. -/
structure Dma where
  dsOffsMap : Map U64 U64 PhysEntry := ∅
  physMap : Finmap fun _ : U64 => DsOffsEntry := ∅
  live : List Mapping := []

/-- A region of a dataspace, with the arguments of both calls. -/
structure Region where
  ds : U64
  offset : U64
  numSectors : U64
  dir : Direction
deriving DecidableEq, Repr

def Mapping.key (m : Mapping) : DsOffsEntry := ⟨m.ds, m.offset⟩

def Region.key (r : Region) : DsOffsEntry := ⟨r.ds, r.offset⟩

/-- `num_sectors * sector_size()` in `l4_size_t`. -/
def Region.bytes (r : Region) : U64 := r.numSectors * BitVec.ofNat 64 Device.sectorSize

/-- The number of bytes of the region. -/
def Region.length (r : Region) : Nat := r.numSectors.toNat * Device.sectorSize

/-- The mapping of a region that a reply promises. -/
def MapReply.mapping (reply : MapReply) (r : Region) : Mapping :=
  { phys := reply.phys, ds := r.ds, offset := r.offset, size := reply.size, dir := r.dir }

def MapReply.refused (reply : MapReply) (r : Region) : Bool :=
  reply.ret < 0 || reply.size < r.bytes

namespace Dma

/-- `L4Re::Dma_space::map()`: without an error the memory is reachable. -/
def spaceMap (d : Dma) (r : Region) (reply : MapReply) : Dma :=
  if reply.ret < 0 then d else { d with live := reply.mapping r :: d.live }

/-- `L4Re::Dma_space::unmap()`: nothing is reachable at the address any more. -/
def spaceUnmap (d : Dma) (phys : U64) : Dma :=
  { d with live := d.live.filter fun m => m.phys ≠ phys }

/-- The return code, the address stored, and the state after the call. -/
def dmaMapSingle (d : Dma) (r : Region) (reply : MapReply) : (Int × U64) × Dma :=
  match find d.dsOffsMap r.ds r.offset with
  | some e =>
    -- A different number of sectors is logged and ignored.
    ((L4.eok, e.phys),
      { d with dsOffsMap := put d.dsOffsMap r.ds r.offset { e with refcnt := e.refcnt + 1 } })
  | none =>
    let d := d.spaceMap r reply
    if reply.refused r then
      ((-L4.enomem, 0), d)
    else
      ((L4.eok, reply.phys),
        { d with
          dsOffsMap := emplace₂ d.dsOffsMap r.ds r.offset ⟨reply.phys, r.numSectors, 1⟩
          physMap := emplace reply.phys ⟨r.ds, r.offset⟩ d.physMap })

/-- `reply` is the return code of `L4Re::Dma_space::unmap()`. -/
def dmaUnmapSingle (d : Dma) (phys : U64) (reply : Int) : Int × Dma :=
  match d.physMap.lookup phys with
  | none => (-L4.enoent, d)
  | some k =>
    match find d.dsOffsMap k.ds k.offset with
    | none => (-L4.enoent, d)
    | some e =>
      if 1 < e.refcnt then
        (L4.eok, { d with dsOffsMap := put d.dsOffsMap k.ds k.offset { e with refcnt := e.refcnt - 1 } })
      else
        let d := { d with
          dsOffsMap := erase d.dsOffsMap k.ds k.offset
          physMap := d.physMap.erase phys }
        (reply, d.spaceUnmap phys)

/-! ## What a call does -/

variable (d : Dma)

/-- The entry of a dataspace and an offset. -/
def entry (k : DsOffsEntry) : Option PhysEntry := find d.dsOffsMap k.ds k.offset

/-- The address that is cached for a dataspace and an offset. -/
def addr (k : DsOffsEntry) : Option U64 := (d.entry k).map (·.phys)

/-- The entry `e` of `k` gets the reference count `n`. -/
def recount (k : DsOffsEntry) (e : PhysEntry) (n : U32) : Dma :=
  { d with dsOffsMap := put d.dsOffsMap k.ds k.offset { e with refcnt := n } }

/-- The region is mapped and cached. -/
def enter (r : Region) (reply : MapReply) : Dma where
  dsOffsMap := put d.dsOffsMap r.key.ds r.key.offset ⟨reply.phys, r.numSectors, 1⟩
  physMap := emplace reply.phys r.key d.physMap
  live := reply.mapping r :: d.live

/-- The entry of `k` is dropped and the address unmapped. -/
def leave (k : DsOffsEntry) (phys : U64) : Dma where
  dsOffsMap := erase d.dsOffsMap k.ds k.offset
  physMap := d.physMap.erase phys
  live := d.live.filter fun m => m.phys ≠ phys

/-- A cached region, a refusal, or a new entry. -/
theorem dmaMapSingle_cases (r : Region) (reply : MapReply) :
    (∃ e, d.entry r.key = some e ∧
      d.dmaMapSingle r reply = ((L4.eok, e.phys), d.recount r.key e (e.refcnt + 1))) ∨
    (d.entry r.key = none ∧ reply.refused r = true ∧
      d.dmaMapSingle r reply = ((-L4.enomem, 0), d.spaceMap r reply)) ∨
    (d.entry r.key = none ∧ reply.refused r = false ∧
      d.dmaMapSingle r reply = ((L4.eok, reply.phys), d.enter r reply)) := by
  rw [dmaMapSingle, entry, Region.key]
  cases found : find d.dsOffsMap r.ds r.offset with
  | some e => exact Or.inl ⟨e, rfl, rfl⟩
  | none =>
    cases refused : reply.refused r with
    | true => exact Or.inr (Or.inl ⟨rfl, rfl, rfl⟩)
    | false =>
      have accepted : ¬ reply.ret < 0 := by
        intro negative
        rw [MapReply.refused, decide_eq_true negative, Bool.true_or] at refused
        cases refused
      have live : d.spaceMap r reply = { d with live := reply.mapping r :: d.live } :=
        if_neg accepted
      refine Or.inr (Or.inr ⟨rfl, rfl, ?_⟩)
      rw [live, enter, Region.key, ← emplace₂_eq_put _ found]
      rfl

/-- Nothing is found, a reference is dropped, or the mapping is ended. -/
theorem dmaUnmapSingle_cases (phys : U64) (reply : Int) :
    ((∀ k, d.physMap.lookup phys = some k → d.entry k = none) ∧
      d.dmaUnmapSingle phys reply = (-L4.enoent, d)) ∨
    (∃ k e, d.physMap.lookup phys = some k ∧ d.entry k = some e ∧ 1 < e.refcnt ∧
      d.dmaUnmapSingle phys reply = (L4.eok, d.recount k e (e.refcnt - 1))) ∨
    (∃ k e, d.physMap.lookup phys = some k ∧ d.entry k = some e ∧ ¬ 1 < e.refcnt ∧
      d.dmaUnmapSingle phys reply = (reply, d.leave k phys)) := by
  rw [dmaUnmapSingle]
  cases there : d.physMap.lookup phys with
  | none =>
    have nothing : ∀ k, (none : Option DsOffsEntry) = some k → d.entry k = none := by
      intro k found
      cases found
    exact Or.inl ⟨nothing, rfl⟩
  | some k =>
    cases found : find d.dsOffsMap k.ds k.offset with
    | none =>
      have nothing : ∀ k', some k = some k' → d.entry k' = none := by
        intro k' same
        rw [← Option.some.inj same, entry, found]
      exact Or.inl ⟨nothing, by simp only [found]⟩
    | some e =>
      by_cases shared : 1 < e.refcnt
      · exact Or.inr (Or.inl ⟨k, e, rfl, found, shared,
          by simp only [found, if_pos shared, recount]⟩)
      · exact Or.inr (Or.inr ⟨k, e, rfl, found, shared,
          by simp only [found, if_neg shared, spaceUnmap, leave]⟩)

/-! ## The entries after a call -/

theorem pair_eq_iff {k k' : DsOffsEntry} :
    (k'.ds, k'.offset) = (k.ds, k.offset) ↔ k' = k := by
  cases k
  cases k'
  rw [Prod.mk.injEq, DsOffsEntry.mk.injEq]

theorem entry_recount (k k' : DsOffsEntry) (e : PhysEntry) (n : U32) :
    (d.recount k e n).entry k' = if k' = k then some { e with refcnt := n } else d.entry k' := by
  rw [entry, recount, find_put, entry]
  simp only [pair_eq_iff]

theorem entry_enter (r : Region) (reply : MapReply) (k : DsOffsEntry) :
    (d.enter r reply).entry k =
      if k = r.key then some ⟨reply.phys, r.numSectors, 1⟩ else d.entry k := by
  rw [entry, enter, find_put, entry]
  simp only [pair_eq_iff]

theorem entry_leave (k k' : DsOffsEntry) (phys : U64) :
    (d.leave k phys).entry k' = if k' = k then none else d.entry k' := by
  rw [entry, leave, find_erase, entry]
  simp only [pair_eq_iff]

variable {d}

theorem addr_of_entry {k : DsOffsEntry} {e : PhysEntry} (found : d.entry k = some e) :
    d.addr k = some e.phys := by
  rw [addr, found, Option.map_some]

theorem addr_none_iff {k : DsOffsEntry} : d.addr k = none ↔ d.entry k = none := by
  rw [addr, Option.map_eq_none_iff]

/-- Counting does not move an address. -/
theorem addr_recount {k : DsOffsEntry} {e : PhysEntry} (found : d.entry k = some e) (n : U32)
    (k' : DsOffsEntry) : (d.recount k e n).addr k' = d.addr k' := by
  rw [addr, entry_recount]
  by_cases same : k' = k
  · rw [if_pos same, same, addr_of_entry found, Option.map_some]
  · rw [if_neg same, addr]

variable (d)

theorem addr_enter (r : Region) (reply : MapReply) (k : DsOffsEntry) :
    (d.enter r reply).addr k = if k = r.key then some reply.phys else d.addr k := by
  rw [addr, entry_enter]
  by_cases same : k = r.key
  · rw [if_pos same, if_pos same, Option.map_some]
  · rw [if_neg same, if_neg same, addr]

/-- A release keeps the entries of all other regions. -/
theorem entry_leave_iff {d : Dma} {k k' : DsOffsEntry} {phys : U64} {e : PhysEntry} :
    (d.leave k phys).entry k' = some e ↔ k' ≠ k ∧ d.entry k' = some e := by
  rw [entry_leave]
  by_cases same : k' = k
  · rw [if_pos same]
    exact ⟨fun found => absurd found.symm (Option.some_ne_none _), fun found => absurd same found.1⟩
  · rw [if_neg same]
    exact ⟨fun found => ⟨same, found⟩, fun found => found.2⟩

/-- So it keeps their addresses. -/
theorem addr_leave_iff {d : Dma} {k k' : DsOffsEntry} {phys p : U64} :
    (d.leave k phys).addr k' = some p ↔ k' ≠ k ∧ d.addr k' = some p := by
  rw [addr, addr, Option.map_eq_some_iff, Option.map_eq_some_iff]
  simp only [entry_leave_iff, and_assoc, exists_and_left]

/-- On the way back, only the released address is forgotten. -/
theorem lookup_leave_iff {d : Dma} {k k' : DsOffsEntry} {phys p : U64} :
    (d.leave k phys).physMap.lookup p = some k' ↔ p ≠ phys ∧ d.physMap.lookup p = some k' := by
  rw [leave]
  by_cases same : p = phys
  · rw [same, Finmap.lookup_erase]
    exact ⟨fun found => absurd found.symm (Option.some_ne_none _), fun found => absurd rfl found.1⟩
  · rw [Finmap.lookup_erase_ne same]
    exact ⟨fun found => ⟨same, found⟩, fun found => found.2⟩

/-- A region without an entry is not that of an address. -/
theorem ne_of_absent {d : Dma} {k k' : DsOffsEntry} {p : U64} (absent : d.entry k = none)
    (cached : d.addr k' = some p) : k' ≠ k := by
  intro same
  rw [same, addr_none_iff.mpr absent] at cached
  cases cached

/-- The new entry has its own mapping. -/
theorem live_enter {d : Dma}
    (live : ∀ k p, d.addr k = some p → ∃ m ∈ d.live, m.phys = p ∧ m.key = k) (r : Region)
    (reply : MapReply) {k : DsOffsEntry} {p : U64} (cached : (d.enter r reply).addr k = some p) :
    ∃ m ∈ (d.enter r reply).live, m.phys = p ∧ m.key = k := by
  rw [addr_enter] at cached
  by_cases same : k = r.key
  · rw [if_pos same] at cached
    exact ⟨reply.mapping r, List.mem_cons_self, Option.some.inj cached, same.symm⟩
  · rw [if_neg same] at cached
    obtain ⟨m, member, there⟩ := live k p cached
    exact ⟨m, List.mem_cons_of_mem _ member, there⟩

theorem mem_live_leave {d : Dma} {k : DsOffsEntry} {phys : U64} {m : Mapping} :
    m ∈ (d.leave k phys).live ↔ m ∈ d.live ∧ m.phys ≠ phys := by
  rw [leave, List.mem_filter, decide_eq_true_iff]

/-- A mapping of its own stays where nothing else was mapped at the released address. -/
theorem live_leave {d : Dma}
    (live : ∀ k p, d.addr k = some p → ∃ m ∈ d.live, m.phys = p ∧ m.key = k) {k : DsOffsEntry}
    {phys : U64} (alone : ∀ k' p, d.addr k' = some p → k' ≠ k → p ≠ phys) {k' : DsOffsEntry} {p : U64}
    (cached : (d.leave k phys).addr k' = some p) :
    ∃ m ∈ (d.leave k phys).live, m.phys = p ∧ m.key = k' := by
  obtain ⟨other, before⟩ := addr_leave_iff.mp cached
  obtain ⟨m, member, at_p, of_k'⟩ := live k' p before
  have away : m.phys ≠ phys := by
    rw [at_p]
    exact alone k' p before other
  exact ⟨m, mem_live_leave.mpr ⟨member, away⟩, at_p, of_k'⟩

end Dma

/-! ## Runs -/

/-- An address that was handed out. -/
structure Lease where
  phys : U64
  region : Region
deriving DecidableEq, Repr

/-- The addresses in use, and the answers to the calls of `dmaUnmapSingle`, newest first. -/
structure World where
  dma : Dma := {}
  held : List Lease := []
  answers : List Int := []

inductive Op
  | map (r : Region) (reply : MapReply)
  | unmap (lease : Lease) (reply : Int)

def step : Op → World → World
  | .map r reply, w =>
    let ((ret, phys), dma) := w.dma.dmaMapSingle r reply
    { w with dma := dma, held := if ret = L4.eok then ⟨phys, r⟩ :: w.held else w.held }
  | .unmap lease reply, w =>
    let (ret, dma) := w.dma.dmaUnmapSingle lease.phys reply
    { dma := dma, held := w.held.erase lease, answers := ret :: w.answers }

/-- The number of addresses in use for a dataspace and an offset. -/
def references (held : List Lease) (k : DsOffsEntry) : Nat := held.countP (·.region.key = k)

theorem references_cons (l : Lease) (held : List Lease) (k : DsOffsEntry) :
    references (l :: held) k = references held k + if l.region.key = k then 1 else 0 := by
  rw [references, List.countP_cons]
  simp only [decide_eq_true_eq, references]

theorem references_erase {l : Lease} {held : List Lease} (member : l ∈ held) (k : DsOffsEntry) :
    references (held.erase l) k + (if l.region.key = k then 1 else 0) = references held k := by
  rw [← references_cons]
  exact (List.perm_cons_erase member).symm.countP_eq _

/-- The addresses of the other regions are as many as before. -/
theorem references_erase_of_ne {l : Lease} {held : List Lease} (member : l ∈ held) {k : DsOffsEntry}
    (other : k ≠ l.region.key) : references (held.erase l) k = references held k := by
  have before := references_erase member k
  rw [if_neg (fun same => other same.symm), Nat.add_zero] at before
  exact before

/-- The addresses of its own region are one less. -/
theorem references_erase_self {l : Lease} {held : List Lease} (member : l ∈ held) :
    references (held.erase l) l.region.key + 1 = references held l.region.key := by
  have before := references_erase member l.region.key
  rw [if_pos rfl] at before
  exact before

theorem ne_of_references {held : List Lease} {k : DsOffsEntry} (none : references held k = 0) :
    ∀ l ∈ held, l.region.key ≠ k := by
  intro l member same
  rw [references, List.countP_eq_zero] at none
  exact none l member (decide_eq_true same)

/-! ## Addresses in use stay mapped -/

/-- The maps are inverse to each other and describe the live mappings and the addresses in use. -/
structure Cached (w : World) : Prop where
  tight : Tight w.dma.dsOffsMap
  inverse : ∀ p k, w.dma.physMap.lookup p = some k ↔ w.dma.addr k = some p
  counted : ∀ k e, w.dma.entry k = some e → e.refcnt.toNat = references w.held k
  used : ∀ k p, w.dma.addr k = some p → 0 < references w.held k
  held : ∀ l ∈ w.held, w.dma.addr l.region.key = some l.phys
  live : ∀ k p, w.dma.addr k = some p → ∃ m ∈ w.dma.live, m.phys = p ∧ m.key = k
  answered : ∀ ret ∈ w.answers, ret = L4.eok

theorem cached_start : Cached {} where
  tight := tight_empty
  inverse p k := by
    apply Iff.intro
    · intro found
      cases found
    · intro found
      cases found
  counted k e found := by cases found
  used k p cached := by cases cached
  held l member := by cases member
  live k p cached := by cases cached
  answered ret member := by cases member

/-- An address belongs to one region only. -/
theorem Cached.injective {w : World} (c : Cached w) {k k' : DsOffsEntry} {p : U64}
    (cached : w.dma.addr k = some p) (cached' : w.dma.addr k' = some p) : k = k' :=
  Option.some.inj (((c.inverse p k).mpr cached).symm.trans ((c.inverse p k').mpr cached'))

section Kept

variable {dma : Dma} {held : List Lease} {answers : List Int}

/-- One more address is handed out for a cached region. -/
theorem Cached.again (c : Cached ⟨dma, held, answers⟩) {r : Region} {e : PhysEntry}
    (found : dma.entry r.key = some e) (fits : e.refcnt.toNat + 1 < 2 ^ 32) :
    Cached ⟨dma.recount r.key e (e.refcnt + 1), ⟨e.phys, r⟩ :: held, answers⟩ := by
  have moved := Dma.addr_recount found (e.refcnt + 1)
  have next : (e.refcnt + 1).toNat = e.refcnt.toNat + 1 := by
    rw [BitVec.toNat_add]
    exact Nat.mod_eq_of_lt fits
  constructor
  · exact c.tight.put _ _ _
  · intro p k
    rw [moved]
    exact c.inverse p k
  · intro k e' found'
    rw [Dma.entry_recount] at found'
    rw [references_cons]
    by_cases same : k = r.key
    · rw [if_pos same] at found'
      rw [← Option.some.inj found', same, if_pos rfl, next, c.counted r.key e found]
    · rw [if_neg same] at found'
      rw [if_neg (fun h => same h.symm), c.counted k e' found', Nat.add_zero]
  · intro k p cached
    rw [moved] at cached
    rw [references_cons]
    exact Nat.add_pos_left (c.used k p cached) _
  · intro l member
    rw [moved]
    rcases List.mem_cons.mp member with rfl | old
    · exact Dma.addr_of_entry found
    · exact c.held l old
  · intro k p cached
    rw [moved] at cached
    exact c.live k p cached
  · exact c.answered

/-- A region is mapped at an address that is not in use. -/
theorem Cached.enter (c : Cached ⟨dma, held, answers⟩) {r : Region} {reply : MapReply}
    (absent : dma.entry r.key = none) (unused : dma.physMap.lookup reply.phys = none) :
    Cached ⟨dma.enter r reply, ⟨reply.phys, r⟩ :: held, answers⟩ := by
  have away : ∀ k p, dma.addr k = some p → k ≠ r.key := fun _ _ => Dma.ne_of_absent absent
  have none_held : references held r.key = 0 := by
    rw [references, List.countP_eq_zero]
    intro l member same
    exact away l.region.key l.phys (c.held l member) (of_decide_eq_true same)
  constructor
  · exact c.tight.put _ _ _
  · intro p k
    rw [Dma.addr_enter, Dma.enter]
    by_cases here : p = reply.phys
    · rw [here, lookup_emplace_self _ unused]
      by_cases same : k = r.key
      · rw [if_pos same, same]
        exact ⟨fun _ => rfl, fun _ => rfl⟩
      · rw [if_neg same, ← c.inverse, unused]
        apply Iff.intro
        · intro found
          exact absurd (Option.some.inj found).symm same
        · intro found
          cases found
    · rw [lookup_emplace_of_ne _ _ here, c.inverse p k]
      by_cases same : k = r.key
      · rw [if_pos same, same, Dma.addr_none_iff.mpr absent]
        apply Iff.intro
        · intro found
          cases found
        · intro found
          exact absurd (Option.some.inj found).symm here
      · rw [if_neg same]
  · intro k e found
    rw [Dma.entry_enter] at found
    rw [references_cons]
    by_cases same : k = r.key
    · rw [if_pos same] at found
      rw [← Option.some.inj found, same, if_pos rfl, none_held]
      rfl
    · rw [if_neg same] at found
      rw [if_neg (fun h => same h.symm), c.counted k e found, Nat.add_zero]
  · intro k p cached
    rw [Dma.addr_enter] at cached
    rw [references_cons]
    by_cases same : k = r.key
    · rw [if_pos same.symm]
      exact Nat.succ_pos _
    · rw [if_neg same] at cached
      exact Nat.add_pos_left (c.used k p cached) _
  · intro l member
    rw [Dma.addr_enter]
    rcases List.mem_cons.mp member with rfl | old
    · rw [if_pos rfl]
    · rw [if_neg (away _ _ (c.held l old))]
      exact c.held l old
  · intro k p cached
    exact Dma.live_enter c.live r reply cached
  · exact c.answered

/-- The DMA space refuses; it may have mapped a part of the region. -/
theorem Cached.refused (c : Cached ⟨dma, held, answers⟩) (r : Region) (reply : MapReply) :
    Cached ⟨dma.spaceMap r reply, held, answers⟩ := by
  rw [Dma.spaceMap]
  by_cases negative : reply.ret < 0
  · rw [if_pos negative]
    exact c
  · rw [if_neg negative]
    constructor
    · exact c.tight
    · exact c.inverse
    · exact c.counted
    · exact c.used
    · exact c.held
    · intro k p cached
      obtain ⟨m, member, there⟩ := c.live k p cached
      exact ⟨m, List.mem_cons_of_mem _ member, there⟩
    · exact c.answered

/-- One of several addresses is released. -/
theorem Cached.drop (c : Cached ⟨dma, held, answers⟩) {l : Lease} (member : l ∈ held)
    {e : PhysEntry} (found : dma.entry l.region.key = some e) (shared : 1 < e.refcnt) :
    Cached ⟨dma.recount l.region.key e (e.refcnt - 1), held.erase l, L4.eok :: answers⟩ := by
  have moved := Dma.addr_recount found (e.refcnt - 1)
  have many : 1 < e.refcnt.toNat := shared
  have next : (e.refcnt - 1).toNat + 1 = e.refcnt.toNat := by
    rw [BitVec.toNat_sub_of_le (BitVec.le_of_lt shared)]
    exact Nat.sub_add_cancel (Nat.le_of_lt many)
  have count : (e.refcnt - 1).toNat = references (held.erase l) l.region.key := by
    have before := references_erase_self member
    rw [← c.counted _ e found, ← next] at before
    exact (Nat.add_right_cancel before).symm
  constructor
  · exact c.tight.put _ _ _
  · intro p k
    rw [moved]
    exact c.inverse p k
  · intro k e' found'
    rw [Dma.entry_recount] at found'
    by_cases same : k = l.region.key
    · rw [if_pos same] at found'
      rw [← Option.some.inj found', same]
      exact count
    · rw [if_neg same] at found'
      rw [references_erase_of_ne member same]
      exact c.counted k e' found'
  · intro k p cached
    rw [moved] at cached
    by_cases same : k = l.region.key
    · rw [same, ← count]
      rw [← next] at many
      exact Nat.lt_of_succ_lt_succ many
    · rw [references_erase_of_ne member same]
      exact c.used k p cached
  · intro l' member'
    rw [moved]
    exact c.held l' (List.mem_of_mem_erase member')
  · intro k p cached
    rw [moved] at cached
    exact c.live k p cached
  · exact List.forall_mem_cons.mpr ⟨rfl, c.answered⟩

/-- The last address of a region is released. -/
theorem Cached.leave (c : Cached ⟨dma, held, answers⟩) {l : Lease} (member : l ∈ held)
    {e : PhysEntry} (found : dma.entry l.region.key = some e) (last : ¬ 1 < e.refcnt) :
    Cached ⟨dma.leave l.region.key l.phys, held.erase l, L4.eok :: answers⟩ := by
  have here := c.held l member
  have away : ∀ l' ∈ held.erase l, l'.region.key ≠ l.region.key := by
    apply ne_of_references
    have before := references_erase_self member
    rw [← c.counted _ e found] at before
    have few : ¬ 1 < e.refcnt.toNat := last
    omega
  have alone : ∀ k p, dma.addr k = some p → k ≠ l.region.key → p ≠ l.phys := by
    intro k p cached other same
    rw [same] at cached
    exact other (c.injective cached here)
  constructor
  · exact c.tight.erase _ _
  · intro p k
    rw [Dma.lookup_leave_iff, Dma.addr_leave_iff, c.inverse p k]
    -- the address and its region leave together
    apply and_congr_left
    intro cached
    refine not_congr ⟨fun same => ?_, fun same => ?_⟩
    · rw [same] at cached
      exact c.injective cached here
    · rw [same, here] at cached
      exact (Option.some.inj cached).symm
  · intro k e' found'
    obtain ⟨other, before⟩ := Dma.entry_leave_iff.mp found'
    rw [references_erase_of_ne member other]
    exact c.counted k e' before
  · intro k p cached
    obtain ⟨other, before⟩ := Dma.addr_leave_iff.mp cached
    rw [references_erase_of_ne member other]
    exact c.used k p before
  · intro l' member'
    exact Dma.addr_leave_iff.mpr ⟨away l' member', c.held l' (List.mem_of_mem_erase member')⟩
  · intro k p cached
    exact Dma.live_leave c.live alone cached
  · exact List.forall_mem_cons.mpr ⟨rfl, c.answered⟩

end Kept

/-- An unmapping releases an address that is in use. -/
def Op.Matching : Op → World → Prop
  | .map _ _, _ => True
  | .unmap lease _, w => lease ∈ w.held

/-- The DMA space unmaps what is mapped. -/
def Op.Documented : Op → World → Prop
  | .map _ _, _ => True
  | .unmap lease reply, w => (∃ m ∈ w.dma.live, m.phys = lease.phys) → reply = L4.eok

/-- The reference count does not overflow, and a new address is not in use. -/
def Op.Unshared : Op → World → Prop
  | .map r reply, w =>
    (∀ e ∈ w.dma.entry r.key, e.refcnt.toNat + 1 < 2 ^ 32) ∧
    (w.dma.entry r.key = none → reply.refused r = false →
      w.dma.physMap.lookup reply.phys = none)
  | .unmap _ _, _ => True

instance : ∀ (op : Op) (w : World), Decidable (op.Matching w)
  | .map _ _, _ => inferInstanceAs (Decidable True)
  | .unmap lease _, w => inferInstanceAs (Decidable (lease ∈ w.held))

instance : ∀ (op : Op) (w : World), Decidable (op.Documented w)
  | .map _ _, _ => inferInstanceAs (Decidable True)
  | .unmap lease reply, w =>
    inferInstanceAs (Decidable ((∃ m ∈ w.dma.live, m.phys = lease.phys) → reply = L4.eok))

instance : ∀ (op : Op) (w : World), Decidable (op.Unshared w)
  | .map r _, w => inferInstanceAs (Decidable ((∀ e ∈ w.dma.entry r.key, _) ∧ (_ → _ → _)))
  | .unmap _ _, _ => inferInstanceAs (Decidable True)

theorem cached_map {w : World} (c : Cached w) (r : Region) (reply : MapReply)
    (unshared : (Op.map r reply).Unshared w) : Cached (step (.map r reply) w) := by
  rcases unshared with ⟨fits, unused⟩
  rw [step]
  rcases w.dma.dmaMapSingle_cases r reply with ⟨e, found, call⟩ | ⟨-, -, call⟩ |
    ⟨absent, accepted, call⟩
  · rw [call]
    exact c.again found (fits e found)
  · rw [call]
    exact c.refused r reply
  · rw [call]
    exact c.enter absent (unused absent accepted)

theorem cached_unmap {w : World} (c : Cached w) (l : Lease) (reply : Int) (member : l ∈ w.held)
    (documented : (Op.unmap l reply).Documented w) : Cached (step (.unmap l reply) w) := by
  have here := c.held l member
  have back := (c.inverse _ _).mpr here
  rw [step]
  rcases w.dma.dmaUnmapSingle_cases l.phys reply with ⟨nothing, -⟩ |
    ⟨k, e, there, found, shared, call⟩ | ⟨k, e, there, found, last, call⟩
  · rw [Dma.addr_none_iff.mpr (nothing _ back)] at here
    cases here
  · have same := Option.some.inj (there.symm.trans back)
    rw [call, same]
    rw [same] at found
    exact c.drop member found shared
  · have same := Option.some.inj (there.symm.trans back)
    obtain ⟨m, mapped, phys, -⟩ := c.live _ _ here
    rw [call, same, documented ⟨m, mapped, phys⟩]
    rw [same] at found
    exact c.leave member found last

theorem cached_step (op : Op) (w : World) (c : Cached w)
    (sound : op.Matching w ∧ op.Documented w ∧ op.Unshared w) : Cached (step op w) := by
  rcases sound with ⟨matching, documented, unshared⟩
  cases op with
  | map r reply => exact cached_map c r reply unshared
  | unmap l reply => exact cached_unmap c l reply matching documented

/-- Every address in use is mapped, every unmapping has succeeded, and without an address in use
both maps are empty. -/
def World.Kept (w : World) : Prop :=
  (∀ l ∈ w.held, ∃ m ∈ w.dma.live, m.phys = l.phys ∧ m.key = l.region.key) ∧
  (∀ ret ∈ w.answers, ret = L4.eok) ∧
  (w.held = [] → w.dma.dsOffsMap = ∅ ∧ w.dma.physMap = ∅)

theorem Cached.kept {w : World} (c : Cached w) : w.Kept := by
  refine ⟨fun l member => c.live _ _ (c.held l member), c.answered, ?_⟩
  intro released
  have nothing : ∀ k, w.dma.addr k = none := by
    intro k
    cases cached : w.dma.addr k with
    | none => rfl
    | some p =>
      have used := c.used k p cached
      rw [released] at used
      cases used
  apply And.intro
  · exact c.tight.eq_empty fun ds o => Dma.addr_none_iff.mp (nothing ⟨ds, o⟩)
  · apply Finmap.ext_lookup
    intro p
    cases found : w.dma.physMap.lookup p with
    | none => rfl
    | some k =>
      have cached := (c.inverse p k).mp found
      rw [nothing] at cached
      cases cached

/-- In every run of matching calls in which the DMA space returns only addresses that are not in
use and no reference count overflows, addresses in use stay mapped. -/
theorem mapped_while_held {ops : List Op}
    (sound : Runs.Along step (fun op w => op.Matching w ∧ op.Documented w ∧ op.Unshared w) ops {}) :
    (Runs.run step ops {}).Kept :=
  (Runs.run_invariant cached_step cached_start sound).kept

/-- One sector of the dataspace `ds`. -/
def sector (ds : U64) : Region := { ds := ds, offset := 0x2000, numSectors := 1, dir := .toDevice }

/-- One sector is mapped at this address. -/
def mapped (phys : U64) : MapReply := { ret := 0, size := 512, phys := phys }

/-- A sector is used twice, beside another one. -/
theorem two_sectors_kept :
    (Runs.run step
      [.map (sector 1) (mapped 0x8000), .map (sector 2) (mapped 0x9000),
        .map (sector 1) (mapped 0xa000), .unmap ⟨0x8000, sector 1⟩ 0,
        .unmap ⟨0x9000, sector 2⟩ 0] {}).Kept := by
  apply mapped_while_held
  decide

/-- Two dataspaces with the same memory get the same address. -/
def sharing : List Op :=
  [.map (sector 1) (mapped 0x8000), .map (sector 2) (mapped 0x8000), .unmap ⟨0x8000, sector 2⟩ 0]

/-- The address of the first dataspace is in use, and no longer mapped. -/
theorem sharing_unmaps :
    Runs.Along step (fun op w => op.Matching w ∧ op.Documented w) sharing {} ∧
      ¬ (Runs.run step sharing {}).Kept := by
  apply And.intro
  · decide
  · intro kept
    have gone : (Runs.run step sharing {}).dma.live = [] := by decide
    obtain ⟨m, member, -⟩ := kept.1 ⟨0x8000, sector 1⟩ (by decide)
    rw [gone] at member
    cases member

/-! ## A call is all or nothing -/

/-- A success names a live mapping of the whole region, and an error leaves everything as it was. -/
def AllOrNothing (r : Region) (reply : MapReply) (d : Dma) : Prop :=
  let ((ret, phys), after) := d.dmaMapSingle r reply
  (ret = L4.eok → ∃ m ∈ after.live, m.phys = phys ∧ m.key = r.key ∧ r.length ≤ m.size.toNat) ∧
  (ret ≠ L4.eok → (∀ m, m ∈ after.live ↔ m ∈ d.live) ∧
    after.dsOffsMap = d.dsOffsMap ∧ after.physMap = d.physMap)

/-- The number of bytes that the DMA space has mapped for a dataspace and an offset. -/
def Dma.extent (d : Dma) (k : DsOffsEntry) : Nat :=
  match d.live.find? (·.key = k) with
  | some m => m.size.toNat
  | none => 0

/-- A request for a cached region is not longer than what was mapped for it; any other request is
refused or mapped as a whole; no other region is mapped at an address that is unmapped. -/
def Op.Clean : Op → World → Prop
  | .map r reply, w =>
    (w.dma.entry r.key ≠ none → r.length ≤ w.dma.extent r.key) ∧
    (w.dma.entry r.key = none → reply.ret < 0 ∨ r.length ≤ reply.size.toNat)
  | .unmap lease _, w =>
    ∀ k ∈ w.dma.physMap.lookup lease.phys, ∀ e ∈ w.dma.entry k, ¬ 1 < e.refcnt →
      ∀ m ∈ w.dma.live, m.phys = lease.phys → m.key = k

/-- Entries and live mappings correspond. -/
structure Exact (d : Dma) : Prop where
  indexed : ∀ p k, d.physMap.lookup p = some k → d.addr k = some p
  live : ∀ k p, d.addr k = some p → ∃ m ∈ d.live, m.phys = p ∧ m.key = k
  known : ∀ m ∈ d.live, d.addr m.key = some m.phys
  single : ∀ m ∈ d.live, ∀ m' ∈ d.live, m.key = m'.key → m = m'

theorem exact_start : Exact {} where
  indexed p k found := by cases found
  live k p cached := by cases cached
  known m member := by cases member
  single m member := by cases member

section Exact

variable {d : Dma}

theorem Exact.recount (x : Exact d) {k : DsOffsEntry} {e : PhysEntry} (found : d.entry k = some e)
    (n : U32) : Exact (d.recount k e n) := by
  have moved := Dma.addr_recount found n
  constructor
  · intro p k' there
    rw [moved]
    exact x.indexed p k' there
  · intro k' p cached
    rw [moved] at cached
    exact x.live k' p cached
  · intro m member
    rw [moved]
    exact x.known m member
  · exact x.single

theorem Exact.unmapped (x : Exact d) {k : DsOffsEntry} (absent : d.entry k = none) :
    ∀ m ∈ d.live, m.key ≠ k := by
  intro m member
  exact Dma.ne_of_absent absent (x.known m member)

theorem Exact.enter (x : Exact d) {r : Region} (reply : MapReply) (absent : d.entry r.key = none) :
    Exact (d.enter r reply) := by
  have fresh := x.unmapped absent
  have away : ∀ k p, d.addr k = some p → k ≠ r.key := fun _ _ => Dma.ne_of_absent absent
  constructor
  · intro p k there
    rw [Dma.enter] at there
    rw [Dma.addr_enter]
    have old : d.physMap.lookup p = some k → (if k = r.key then some reply.phys else d.addr k) =
        some p := by
      intro before
      have cached := x.indexed p k before
      rw [if_neg (away k p cached), cached]
    by_cases here : p = reply.phys
    · cases before : d.physMap.lookup reply.phys with
      | none =>
        rw [here, lookup_emplace_self _ before] at there
        rw [if_pos (Option.some.inj there).symm, here]
      | some k' =>
        rw [emplace_of_mem _ (Finmap.mem_of_lookup_eq_some before)] at there
        exact old there
    · rw [lookup_emplace_of_ne _ _ here] at there
      exact old there
  · intro k p cached
    exact Dma.live_enter x.live r reply cached
  · intro m member
    rw [Dma.addr_enter]
    rcases List.mem_cons.mp member with rfl | old
    · exact if_pos rfl
    · rw [if_neg (fresh m old)]
      exact x.known m old
  · intro m member m' member' same
    rcases List.mem_cons.mp member with rfl | old
    · rcases List.mem_cons.mp member' with rfl | old'
      · rfl
      · exact absurd same.symm (fresh m' old')
    · rcases List.mem_cons.mp member' with rfl | old'
      · exact absurd same (fresh m old)
      · exact x.single m old m' old' same

theorem Exact.leave (x : Exact d) {k : DsOffsEntry} {phys : U64}
    (there : d.physMap.lookup phys = some k)
    (alone : ∀ m ∈ d.live, m.phys = phys → m.key = k) : Exact (d.leave k phys) := by
  have here := x.indexed phys k there
  have apart : ∀ k' p, d.addr k' = some p → k' ≠ k → p ≠ phys := by
    intro k' p cached other same
    obtain ⟨m, member, at_p, of_k'⟩ := x.live k' p cached
    exact other (of_k'.symm.trans (alone m member (at_p.trans same)))
  constructor
  · intro p k' found
    obtain ⟨away, before⟩ := Dma.lookup_leave_iff.mp found
    have cached := x.indexed p k' before
    refine Dma.addr_leave_iff.mpr ⟨fun same => ?_, cached⟩
    rw [same, here] at cached
    exact away (Option.some.inj cached).symm
  · intro k' p cached
    exact Dma.live_leave x.live apart cached
  · intro m member
    obtain ⟨old, other⟩ := Dma.mem_live_leave.mp member
    have cached := x.known m old
    refine Dma.addr_leave_iff.mpr ⟨fun same => ?_, cached⟩
    rw [same, here] at cached
    exact other (Option.some.inj cached).symm
  · intro m member m' member' same
    exact x.single m (Dma.mem_live_leave.mp member).1 m' (Dma.mem_live_leave.mp member').1 same

/-- The one mapping of a cached region. -/
theorem Exact.extent (x : Exact d) {m : Mapping} (member : m ∈ d.live) :
    d.extent m.key = m.size.toNat := by
  rw [Dma.extent]
  cases found : d.live.find? (·.key = m.key) with
  | none =>
    have absent := List.find?_eq_none.mp found m member
    exact absurd (decide_eq_true rfl) absent
  | some m' =>
    have keys := List.find?_some found
    have same : m'.key = m.key := of_decide_eq_true keys
    rw [x.single m' (List.mem_of_find?_eq_some found) m member same]

end Exact

/-- A clean refusal is an error of the DMA space. -/
theorem MapReply.refused_iff {reply : MapReply} {r : Region}
    (clean : reply.ret < 0 ∨ r.length ≤ reply.size.toNat) :
    reply.refused r = true ↔ reply.ret < 0 := by
  rw [MapReply.refused, Bool.or_eq_true, decide_eq_true_iff, decide_eq_true_iff]
  apply Iff.intro
  · intro refused
    rcases refused with negative | short
    · exact negative
    · rcases clean with negative | whole
      · exact negative
      · have bytes : r.bytes.toNat ≤ r.length := by
          rw [Region.bytes, Region.length, BitVec.toNat_mul]
          exact Nat.mod_le _ _
        exact absurd (Nat.lt_of_lt_of_le short bytes) (Nat.not_lt.mpr whole)
  · exact Or.inl

theorem exact_step (op : Op) (w : World) (x : Exact w.dma) (clean : op.Clean w) :
    Exact (step op w).dma := by
  cases op with
  | map r reply =>
    rcases w.dma.dmaMapSingle_cases r reply with ⟨e, found, call⟩ | ⟨absent, refused, call⟩ |
      ⟨absent, -, call⟩
    · rw [step, call]
      exact x.recount found _
    · have negative := (MapReply.refused_iff (clean.2 absent)).mp refused
      rw [step, call, Dma.spaceMap, if_pos negative]
      exact x
    · rw [step, call]
      exact x.enter reply absent
  | unmap l reply =>
    rcases w.dma.dmaUnmapSingle_cases l.phys reply with ⟨-, call⟩ | ⟨k, e, -, found, -, call⟩ |
      ⟨k, e, there, found, last, call⟩
    · rw [step, call]
      exact x
    · rw [step, call]
      exact x.recount found _
    · rw [step, call]
      exact x.leave there (clean k there e found last)

theorem Exact.allOrNothing_iff {w : World} (x : Exact w.dma) (r : Region) (reply : MapReply) :
    AllOrNothing r reply w.dma ↔ (Op.map r reply).Clean w := by
  rw [AllOrNothing, Op.Clean]
  rcases w.dma.dmaMapSingle_cases r reply with ⟨e, found, call⟩ | ⟨absent, refused, call⟩ |
    ⟨absent, accepted, call⟩
  · have cached := Dma.addr_of_entry found
    obtain ⟨m, member, at_p, of_k⟩ := x.live _ _ cached
    have extent := x.extent member
    rw [of_k] at extent
    rw [call, found, extent]
    apply Iff.intro
    · intro whole
      obtain ⟨m', member', -, of_k', long⟩ := whole.1 rfl
      rw [x.single m member m' member' (of_k.trans of_k'.symm)]
      exact ⟨fun _ => long, fun none => by cases none⟩
    · intro clean
      have long := clean.1 (Option.some_ne_none e)
      exact ⟨fun _ => ⟨m, member, at_p, of_k, long⟩, fun failed => absurd rfl failed⟩
  · rw [call, absent]
    apply Iff.intro
    · intro whole
      refine ⟨fun present => absurd rfl present, fun _ => Or.inl ?_⟩
      by_contra accepted
      have same := (whole.2 (by decide)).1 (reply.mapping r)
      rw [Dma.spaceMap, if_neg accepted] at same
      exact x.unmapped absent _ (same.mp List.mem_cons_self) rfl
    · intro clean
      have negative := (MapReply.refused_iff (clean.2 rfl)).mp refused
      rw [Dma.spaceMap, if_pos negative]
      exact ⟨fun success => absurd success (by decide), fun _ => ⟨fun m => Iff.rfl, rfl, rfl⟩⟩
  · rw [call, absent]
    apply Iff.intro
    · intro whole
      obtain ⟨m, member, -, of_k, long⟩ := whole.1 rfl
      refine ⟨fun present => absurd rfl present, fun _ => Or.inr ?_⟩
      rcases List.mem_cons.mp member with rfl | old
      · exact long
      · exact absurd of_k (x.unmapped absent m old)
    · intro clean
      have whole : r.length ≤ reply.size.toNat := by
        rcases clean.2 rfl with negative | whole
        · rw [(MapReply.refused_iff (clean.2 rfl)).mpr negative] at accepted
          cases accepted
        · exact whole
      exact ⟨fun _ => ⟨reply.mapping r, List.mem_cons_self, rfl, rfl, whole⟩,
        fun failed => absurd rfl failed⟩

/-- After every run of clean calls, a call is all or nothing if and only if it is clean. -/
theorem all_or_nothing_iff {ops : List Op} (clean : Runs.Along step Op.Clean ops {}) (r : Region)
    (reply : MapReply) :
    AllOrNothing r reply (Runs.run step ops {}).dma ↔
      (Op.map r reply).Clean (Runs.run step ops {}) :=
  Exact.allOrNothing_iff (Runs.run_invariant (I := fun w => Exact w.dma) exact_step exact_start clean)
    r reply

instance : ∀ (op : Op) (w : World), Decidable (op.Clean w)
  | .map _ _, _ => inferInstanceAs (Decidable ((_ → _) ∧ (_ → _)))
  | .unmap lease _, w =>
    inferInstanceAs (Decidable (∀ k ∈ w.dma.physMap.lookup lease.phys, ∀ e ∈ w.dma.entry k,
      ¬ 1 < e.refcnt → ∀ m ∈ w.dma.live, m.phys = lease.phys → m.key = k))

/-- After a sector was used, it is mapped again. -/
theorem sector_again :
    AllOrNothing (sector 1) (mapped 0x8000)
      (Runs.run step [.map (sector 1) (mapped 0x9000), .unmap ⟨0x9000, sector 1⟩ 0] {}).dma := by
  rw [all_or_nothing_iff (by decide)]
  decide

/-- Eight sectors from the same offset. -/
def eightSectors : Region := { sector 1 with numSectors := 8 }

/-- A request for eight sectors gets the address at which one is mapped; and a mapping of one of
eight sectors is an error and stays. -/
theorem short_mappings :
    ¬ AllOrNothing eightSectors (mapped 0)
      (Runs.run step [.map (sector 1) (mapped 0x8000)] {}).dma ∧
    ¬ AllOrNothing eightSectors (mapped 0x8000) (Runs.run step [] {}).dma := by
  have one : Exact (Runs.run step [.map (sector 1) (mapped 0x8000)] {}).dma :=
    exact_step (.map (sector 1) (mapped 0x8000)) {} exact_start (by decide)
  apply And.intro
  · rw [one.allOrNothing_iff]
    decide
  · rw [Exact.allOrNothing_iff (w := Runs.run step [] {}) exact_start]
    decide

end DmaMap

end Emmc
