import Mathlib.Data.BitVec

/-!
# Byte memory and regions

Memory is a function from `w`-bit addresses to bytes; addresses wrap around. A `Region` is a start
address with a size.

* `read` and `write` copy a region as a whole; `read_write_self` and `read_write_of_disjoint` say
  what is read back, `write_of_outside` is the frame.
* `gather` and `scatter` do the same with a list of regions, one after the other. A list may be cut
  into smaller regions without changing either (`Covers`).
* `gather_scatter`: what was scattered over disjoint regions is gathered again.
* `cut` divides a region into pieces of limited size.
-/

/-- A stretch of addresses. -/
structure Region (w : Nat) where
  addr : BitVec w
  size : Nat
deriving DecidableEq, Repr

namespace Region

variable {w : Nat}

/-- The address belongs to the region. -/
def Mem (r : Region w) (x : BitVec w) : Prop := (x - r.addr).toNat < r.size

/-- No address belongs to both. -/
def Disjoint (r s : Region w) : Prop := ∀ x, r.Mem x → ¬ s.Mem x

theorem Disjoint.symm {r s : Region w} (apart : r.Disjoint s) : s.Disjoint r :=
  fun x inS inR => apart x inR inS

/-- A part of a region. -/
def Within (r s : Region w) : Prop := ∀ x, r.Mem x → s.Mem x

theorem Disjoint.mono {r r' s s' : Region w} (apart : r.Disjoint s) (left : r'.Within r)
    (right : s'.Within s) : r'.Disjoint s' :=
  fun x inR inS => apart x (left x inR) (right x inS)

theorem mem_iff {r : Region w} (fits : r.size ≤ 2 ^ w) {x : BitVec w} :
    r.Mem x ↔ ∃ i < r.size, x = r.addr + BitVec.ofNat w i := by
  apply Iff.intro
  · intro inside
    refine ⟨(x - r.addr).toNat, inside, ?_⟩
    rw [BitVec.ofNat_toNat, BitVec.setWidth_eq, BitVec.add_comm, BitVec.sub_add_cancel]
  · intro given
    rcases given with ⟨i, less, rfl⟩
    have bound : i < 2 ^ w := Nat.lt_of_lt_of_le less fits
    rw [Mem, BitVec.add_comm, BitVec.add_sub_cancel, BitVec.toNat_ofNat, Nat.mod_eq_of_lt bound]
    exact less

/-- The `i`-th address of a region. -/
theorem sub_addr {r : Region w} {i : Nat} (bound : i < 2 ^ w) :
    (r.addr + BitVec.ofNat w i - r.addr).toNat = i := by
  rw [BitVec.add_comm, BitVec.add_sub_cancel, BitVec.toNat_ofNat, Nat.mod_eq_of_lt bound]

/-- Two stretches that are counted from the same address. -/
theorem disjoint_of_offsets (base : BitVec w) {i n j m : Nat} (order : i + n ≤ j)
    (fits : j + m ≤ 2 ^ w) :
    (⟨base + BitVec.ofNat w i, n⟩ : Region w).Disjoint ⟨base + BitVec.ofNat w j, m⟩ := by
  intro x left right
  obtain ⟨k, less, same⟩ := (mem_iff (show n ≤ 2 ^ w by omega)).mp left
  obtain ⟨l, less', same'⟩ := (mem_iff (show m ≤ 2 ^ w by omega)).mp right
  simp only at less less'
  rw [same, BitVec.add_assoc, BitVec.add_assoc, BitVec.add_right_inj, ← BitVec.ofNat_add,
    ← BitVec.ofNat_add] at same'
  have equal := congrArg BitVec.toNat same'
  rw [BitVec.toNat_ofNat, BitVec.toNat_ofNat, Nat.mod_eq_of_lt (show i + k < 2 ^ w by omega),
    Nat.mod_eq_of_lt (show j + l < 2 ^ w by omega)] at equal
  omega

theorem within_of_offsets (base : BitVec w) {i n j m : Nat} (start : j ≤ i) (stop : i + n ≤ j + m)
    (fits : m ≤ 2 ^ w) :
    (⟨base + BitVec.ofNat w i, n⟩ : Region w).Within ⟨base + BitVec.ofNat w j, m⟩ := by
  intro x inside
  obtain ⟨k, less, rfl⟩ := (mem_iff (show n ≤ 2 ^ w by omega)).mp inside
  simp only at less ⊢
  refine (mem_iff fits).mpr ⟨i - j + k, show i - j + k < m by omega, ?_⟩
  rw [BitVec.add_assoc, BitVec.add_assoc, ← BitVec.ofNat_add, ← BitVec.ofNat_add]
  congr 2
  omega

/-- Two stretches that do not wrap around. -/
theorem disjoint_of_le {r s : Region w} (order : r.addr.toNat + r.size ≤ s.addr.toNat)
    (fits : s.addr.toNat + s.size ≤ 2 ^ w) : r.Disjoint s := by
  have apart := disjoint_of_offsets (0#w) order fits
  rwa [BitVec.ofNat_toNat, BitVec.ofNat_toNat, BitVec.setWidth_eq, BitVec.setWidth_eq,
    BitVec.zero_add, BitVec.zero_add] at apart

end Region

namespace Memory

variable {w : Nat} {β : Type}

/-- The bytes of a region. -/
def read (m : BitVec w → β) (r : Region w) : List β :=
  (List.range r.size).map fun i => m (r.addr + BitVec.ofNat w i)

/-- Copy bytes to an address and those behind it. -/
def write (m : BitVec w → β) (addr : BitVec w) (bytes : List β) : BitVec w → β := fun x =>
  bytes.getD (x - addr).toNat (m x)

@[simp] theorem length_read (m : BitVec w → β) (r : Region w) : (read m r).length = r.size := by
  rw [read, List.length_map, List.length_range]

theorem read_congr {m m' : BitVec w → β} {r : Region w} (fits : r.size ≤ 2 ^ w)
    (same : ∀ x, r.Mem x → m x = m' x) : read m r = read m' r := by
  refine List.map_congr_left fun i member => same _ ?_
  exact (Region.mem_iff fits).mpr ⟨i, List.mem_range.mp member, rfl⟩

theorem write_of_outside {m : BitVec w → β} {addr x : BitVec w} {bytes : List β}
    (outside : ¬ (⟨addr, bytes.length⟩ : Region w).Mem x) : write m addr bytes x = m x := by
  rw [write, List.getD_eq_getElem?_getD, List.getElem?_eq_none (Nat.le_of_not_lt outside)]
  rfl

theorem write_of_mem {m : BitVec w → β} {addr x : BitVec w} {bytes : List β}
    (inside : (x - addr).toNat < bytes.length) :
    write m addr bytes x = bytes.get ⟨(x - addr).toNat, inside⟩ := by
  rw [write, List.getD_eq_getElem?_getD, List.getElem?_eq_getElem inside]
  rfl

/-- What was written is read back. -/
theorem read_write_self (m : BitVec w → β) (addr : BitVec w) {bytes : List β}
    (fits : bytes.length ≤ 2 ^ w) : read (write m addr bytes) ⟨addr, bytes.length⟩ = bytes := by
  apply List.ext_get
  · exact length_read _ _
  · intro i left right
    have bound : i < 2 ^ w := Nat.lt_of_lt_of_le right fits
    have index : (addr + BitVec.ofNat w i - addr).toNat = i :=
      Region.sub_addr (r := ⟨addr, 0⟩) bound
    have inside : (addr + BitVec.ofNat w i - addr).toNat < bytes.length := by rw [index]; exact right
    simp only [read, List.get_eq_getElem, List.getElem_map, List.getElem_range]
    rw [write_of_mem inside]
    simp only [List.get_eq_getElem, index]

theorem read_write_of_disjoint {m : BitVec w → β} {addr : BitVec w} {bytes : List β}
    {r : Region w} (fits : r.size ≤ 2 ^ w)
    (apart : r.Disjoint ⟨addr, bytes.length⟩) : read (write m addr bytes) r = read m r :=
  read_congr fits fun x inside => write_of_outside (apart x inside)

/-! ## Lists of regions -/

/-- The bytes of all regions, in order. -/
def gather (m : BitVec w → β) (regions : List (Region w)) : List β := regions.flatMap (read m)

/-- Distribute a stream over the regions, in order. -/
def scatter (m : BitVec w → β) : List (Region w) → List β → BitVec w → β
  | [], _ => m
  | r :: regions, stream =>
    scatter (write m r.addr (stream.take r.size)) regions (stream.drop r.size)

/-- Number of bytes of all regions. -/
def total (regions : List (Region w)) : Nat := (regions.map Region.size).sum

@[simp] theorem gather_nil (m : BitVec w → β) : gather m [] = [] := rfl

@[simp] theorem gather_cons (m : BitVec w → β) (r : Region w) (regions : List (Region w)) :
    gather m (r :: regions) = read m r ++ gather m regions := rfl

theorem gather_append (m : BitVec w → β) (front back : List (Region w)) :
    gather m (front ++ back) = gather m front ++ gather m back := List.flatMap_append

@[simp] theorem total_nil : total ([] : List (Region w)) = 0 := rfl

@[simp] theorem total_cons (r : Region w) (regions : List (Region w)) :
    total (r :: regions) = r.size + total regions := rfl

theorem length_gather (m : BitVec w → β) (regions : List (Region w)) :
    (gather m regions).length = total regions := by
  induction regions with
  | nil => rfl
  | cons r regions ih => rw [gather_cons, List.length_append, length_read, ih, total_cons]

/-- Each region holds its slice of what is gathered. -/
theorem read_of_gather {m : BitVec w → β} {front back : List (Region w)} {r : Region w}
    {stream : List β} (whole : gather m (front ++ r :: back) = stream) :
    read m r = (stream.drop (total front)).take r.size := by
  rw [← whole, gather_append, gather_cons, ← length_gather m front, List.drop_left]
  have size := length_read m r
  rw [← size, List.take_left]

theorem gather_congr {m m' : BitVec w → β} {regions : List (Region w)}
    (same : ∀ r ∈ regions, read m r = read m' r) : gather m regions = gather m' regions := by
  induction regions with
  | nil => rfl
  | cons r regions ih =>
    rw [gather_cons, gather_cons, same r List.mem_cons_self,
      ih fun r member => same r (List.mem_cons_of_mem _ member)]

theorem scatter_append (m : BitVec w → β) (front back : List (Region w)) (stream : List β) :
    scatter m (front ++ back) stream =
      scatter (scatter m front stream) back (stream.drop (total front)) := by
  induction front generalizing m stream with
  | nil => rfl
  | cons r front ih =>
    rw [List.cons_append, scatter, ih, scatter, total_cons, List.drop_drop]

theorem scatter_of_outside {m : BitVec w → β} {regions : List (Region w)} {stream : List β}
    {x : BitVec w} (outside : ∀ r ∈ regions, ¬ r.Mem x) : scatter m regions stream x = m x := by
  induction regions generalizing m stream with
  | nil => rfl
  | cons r regions ih =>
    rw [scatter, ih fun r member => outside r (List.mem_cons_of_mem _ member)]
    refine write_of_outside fun inside => outside r List.mem_cons_self ?_
    exact Nat.lt_of_lt_of_le inside (List.length_take_le _ _)

theorem read_scatter_of_disjoint {m : BitVec w → β} {regions : List (Region w)} {stream : List β}
    {r : Region w} (fits : r.size ≤ 2 ^ w) (apart : ∀ s ∈ regions, r.Disjoint s) :
    read (scatter m regions stream) r = read m r :=
  read_congr fits fun x inside => scatter_of_outside fun s member => apart s member x inside

/-- What was scattered over disjoint regions is gathered again. -/
theorem gather_scatter {m : BitVec w → β} {regions : List (Region w)} {stream : List β}
    (fits : ∀ r ∈ regions, r.size ≤ 2 ^ w) (apart : regions.Pairwise Region.Disjoint)
    (length : stream.length = total regions) :
    gather (scatter m regions stream) regions = stream := by
  induction regions generalizing m stream with
  | nil =>
    rw [total_nil, List.length_eq_zero_iff] at length
    rw [length]
    rfl
  | cons r regions ih =>
    rw [total_cons] at length
    obtain ⟨first, later⟩ := List.pairwise_cons.mp apart
    have size : (stream.take r.size).length = r.size := by
      rw [List.length_take, length, Nat.min_eq_left (Nat.le_add_right _ _)]
    have small := fits r List.mem_cons_self
    have kept : read (scatter m (r :: regions) stream) r = stream.take r.size := by
      rw [scatter, read_scatter_of_disjoint small first]
      have room : (stream.take r.size).length ≤ 2 ^ w := by rw [size]; exact small
      have back := read_write_self m r.addr room
      rwa [size] at back
    rw [gather_cons, kept, scatter, ih (fun r member => fits r (List.mem_cons_of_mem _ member)) later]
    · exact List.take_append_drop _ _
    · rw [List.length_drop, length, Nat.add_sub_cancel_left]

/-! ## Cutting regions -/

/-- `parts` is a region cut into consecutive pieces. -/
inductive Covers : Region w → List (Region w) → Prop
  | nil {addr : BitVec w} : Covers ⟨addr, 0⟩ []
  | cons {addr : BitVec w} {n k : Nat} {parts : List (Region w)}
      (rest : Covers ⟨addr + BitVec.ofNat w n, k⟩ parts) :
      Covers ⟨addr, n + k⟩ (⟨addr, n⟩ :: parts)

theorem Covers.total {r : Region w} {parts : List (Region w)} (covers : Covers r parts) :
    Memory.total parts = r.size := by
  induction covers with
  | nil => rfl
  | cons rest ih => rw [total_cons, ih]

theorem read_add (m : BitVec w → β) (addr : BitVec w) (n k : Nat) :
    read m ⟨addr, n + k⟩ = read m ⟨addr, n⟩ ++ read m ⟨addr + BitVec.ofNat w n, k⟩ := by
  simp only [read, List.range_add, List.map_append, List.map_map]
  refine congrArg _ (List.map_congr_left fun i _ => ?_)
  simp only [Function.comp_apply, BitVec.ofNat_add, BitVec.add_assoc]

/-- Reading the pieces reads the region. -/
theorem Covers.gather {r : Region w} {parts : List (Region w)} (covers : Covers r parts)
    (m : BitVec w → β) : Memory.gather m parts = read m r := by
  induction covers with
  | nil => rfl
  | cons rest ih => rw [gather_cons, ih, read_add]

theorem toNat_sub_add (x addr : BitVec w) {n : Nat} (bound : n < 2 ^ w) :
    (x - (addr + BitVec.ofNat w n)).toNat =
      if n ≤ (x - addr).toNat then (x - addr).toNat - n else (x - addr).toNat + 2 ^ w - n := by
  have split : x - (addr + BitVec.ofNat w n) = x - addr - BitVec.ofNat w n := by
    exact (BitVec.sub_sub ..).symm
  rw [split, BitVec.toNat_sub, BitVec.toNat_ofNat, Nat.mod_eq_of_lt bound]
  have less := (x - addr).isLt
  split
  · rename_i low
    rw [show 2 ^ w - n + (x - addr).toNat = (x - addr).toNat - n + 2 ^ w by omega,
      Nat.add_mod_right, Nat.mod_eq_of_lt (by omega)]
  · rw [Nat.mod_eq_of_lt (by omega)]
    omega

/-- Writing in two steps. -/
theorem write_append {m : BitVec w → β} {addr : BitVec w} {front back : List β}
    (fits : (front ++ back).length ≤ 2 ^ w) :
    write m addr (front ++ back) =
      write (write m addr front) (addr + BitVec.ofNat w front.length) back := by
  rw [List.length_append] at fits
  funext x
  cases back with
  | nil => rw [List.append_nil]; rfl
  | cons b back =>
    have bound : front.length < 2 ^ w := by
      rw [List.length_cons] at fits
      omega
    have less := (x - addr).isLt
    simp only [write, List.getD_eq_getElem?_getD, toNat_sub_add x addr bound]
    by_cases low : front.length ≤ (x - addr).toNat
    · rw [if_pos low, List.getElem?_append_right low, List.getElem?_eq_none low]
      rfl
    · have past : (b :: back).length ≤ (x - addr).toNat + 2 ^ w - front.length := by omega
      rw [if_neg low, List.getElem?_append_left (by omega), List.getElem?_eq_none past]
      rfl

/-- Writing the pieces writes the region. -/
theorem Covers.scatter {r : Region w} {parts : List (Region w)} (covers : Covers r parts)
    (fits : r.size ≤ 2 ^ w) (m : BitVec w → β) {stream : List β} (length : r.size ≤ stream.length) :
    Memory.scatter m parts stream = write m r.addr (stream.take r.size) := by
  induction covers generalizing m stream with
  | nil => rfl
  | @cons addr n k parts rest ih =>
    have first : (stream.take n).length = n := by
      rw [List.length_take]
      exact Nat.min_eq_left (Nat.le_trans (Nat.le_add_right n k) length)
    have split : stream.take (n + k) = stream.take n ++ (stream.drop n).take k := List.take_add
    rw [Memory.scatter, ih (Nat.le_trans (Nat.le_add_left k n) fits) _
      (by rw [List.length_drop]; exact Nat.le_sub_of_add_le (by rwa [Nat.add_comm])), split,
      write_append]
    · rw [first]
    · rw [← split, List.length_take]
      exact Nat.le_trans (Nat.min_le_left _ _) fits

/-- Where a piece lies. -/
theorem Covers.mem {r p : Region w} {parts : List (Region w)} (covers : Covers r parts)
    (member : p ∈ parts) :
    ∃ k, p.addr = r.addr + BitVec.ofNat w k ∧ k + p.size ≤ r.size := by
  induction covers with
  | nil => exact absurd member List.not_mem_nil
  | @cons addr n k parts rest ih =>
    rcases List.mem_cons.mp member with rfl | later
    · exact ⟨0, (BitVec.add_zero _).symm, by simp⟩
    · obtain ⟨offset, start, inside⟩ := ih later
      refine ⟨n + offset, ?_, ?_⟩
      · rw [start, BitVec.ofNat_add, BitVec.add_assoc]
      · rw [Nat.add_assoc]
        exact Nat.add_le_add_left inside n

/-- A piece that is not empty starts inside of the region. -/
theorem Covers.mem_addr {r p : Region w} {parts : List (Region w)} (covers : Covers r parts)
    (fits : r.size ≤ 2 ^ w) (member : p ∈ parts) (some : 0 < p.size) : r.Mem p.addr := by
  obtain ⟨k, start, inside⟩ := covers.mem member
  exact (Region.mem_iff fits).mpr ⟨k, by omega, start⟩

/-- All pieces lie below a bound exactly if the region does. -/
theorem Covers.bounded_iff {r : Region w} {parts : List (Region w)} (covers : Covers r parts)
    (full : ∀ p ∈ parts, 0 < p.size) {bound : Nat} (small : bound < 2 ^ w) :
    (∀ p ∈ parts, p.addr.toNat + p.size ≤ bound) ↔
      r.size = 0 ∨ r.addr.toNat + r.size ≤ bound := by
  induction covers with
  | nil => exact iff_of_true (fun _ member => absurd member List.not_mem_nil) (Or.inl rfl)
  | @cons addr n k parts rest ih =>
    have later := ih fun p member => full p (List.mem_cons_of_mem _ member)
    have first : 0 < n := full _ List.mem_cons_self
    simp only [List.forall_mem_cons, later]
    have next (inside : addr.toNat + n ≤ bound) :
        (addr + BitVec.ofNat w n).toNat = addr.toNat + n := by
      rw [BitVec.toNat_add, BitVec.toNat_ofNat, Nat.add_mod_mod]
      exact Nat.mod_eq_of_lt (Nat.lt_of_le_of_lt inside small)
    apply Iff.intro
    · intro given
      rcases given with ⟨inside, none | beyond⟩
      · exact Or.inr (by omega)
      · rw [next inside] at beyond
        exact Or.inr (by omega)
    · intro whole
      have inside : addr.toNat + (n + k) ≤ bound := by
        rcases whole with none | inside
        · omega
        · exact inside
      have start : addr.toNat + n ≤ bound := by omega
      refine ⟨start, Or.inr ?_⟩
      rw [next start]
      omega

/-- Cut a region into pieces of at most `n` bytes. -/
def cut (n : Nat) : Nat → Region w → List (Region w)
  | 0, _ => []
  | fuel + 1, r =>
    if r.size = 0 then []
    else
      ⟨r.addr, min r.size n⟩ ::
        cut n fuel ⟨r.addr + BitVec.ofNat w (min r.size n), r.size - min r.size n⟩

theorem cut_succ (n fuel : Nat) (r : Region w) : cut n (fuel + 1) r =
    if r.size = 0 then []
    else
      ⟨r.addr, min r.size n⟩ ::
        cut n fuel ⟨r.addr + BitVec.ofNat w (min r.size n), r.size - min r.size n⟩ := rfl

theorem cut_of_empty (n fuel : Nat) {r : Region w} (empty : r.size = 0) : cut n fuel r = [] := by
  cases fuel with
  | zero => rfl
  | succ fuel => rw [cut_succ, if_pos empty]

theorem covers_cut {n : Nat} (positive : 0 < n) {fuel : Nat} {r : Region w}
    (enough : r.size ≤ fuel) : Covers r (cut n fuel r) := by
  induction fuel generalizing r with
  | zero =>
    rcases r with ⟨addr, size⟩
    cases Nat.le_zero.mp enough
    exact Covers.nil
  | succ fuel ih =>
    rcases r with ⟨addr, size⟩
    rw [cut_succ]
    split
    · rename_i empty
      cases (show size = 0 from empty)
      exact Covers.nil
    · rename_i some
      have some' : size ≠ 0 := some
      have less : min size n ≤ size := Nat.min_le_left _ _
      have sum : size = min size n + (size - min size n) := by omega
      have step : 0 < min size n := Nat.lt_min.mpr ⟨Nat.pos_of_ne_zero some', positive⟩
      have rest := ih (r := ⟨addr + BitVec.ofNat w (min size n), size - min size n⟩)
        (Nat.le_of_lt_succ (Nat.lt_of_lt_of_le (Nat.sub_lt (Nat.pos_of_ne_zero some') step) enough))
      have whole := Covers.cons rest
      rwa [← sum] at whole

theorem size_of_mem_cut {n : Nat} (positive : 0 < n) {fuel : Nat} {r p : Region w}
    (member : p ∈ cut n fuel r) : 0 < p.size ∧ p.size ≤ n := by
  induction fuel generalizing r with
  | zero => exact absurd member List.not_mem_nil
  | succ fuel ih =>
    rw [cut_succ] at member
    split at member
    · exact absurd member List.not_mem_nil
    · rename_i some
      rcases List.mem_cons.mp member with rfl | later
      · exact ⟨Nat.lt_min.mpr ⟨Nat.pos_of_ne_zero some, positive⟩, Nat.min_le_right _ _⟩
      · exact ih later

/-- All pieces but the last are of full size. -/
theorem length_cut {n : Nat} (fuel : Nat) (r : Region w) (positive : 0 < n) :
    (cut n fuel r).length * n < r.size + n := by
  induction fuel generalizing r with
  | zero =>
    rw [cut, List.length_nil]
    omega
  | succ fuel ih =>
    rw [cut_succ]
    split
    · rw [List.length_nil]
      omega
    · rename_i some
      have rest := ih ⟨r.addr + BitVec.ofNat w (min r.size n), r.size - min r.size n⟩
      rw [List.length_cons, Nat.succ_mul]
      simp only at rest
      rcases Nat.le_total r.size n with small | large
      · rw [Nat.min_eq_left small, cut_of_empty _ _ (Nat.sub_self _), List.length_nil, Nat.zero_mul]
        exact Nat.add_lt_add_right (Nat.pos_of_ne_zero some) n
      · rw [Nat.min_eq_right large] at rest ⊢
        omega

/-- A region that is not empty has a piece. -/
theorem cut_ne_nil {n fuel : Nat} {r : Region w} (some : r.size ≠ 0) (enough : r.size ≤ fuel) :
    cut n fuel r ≠ [] := by
  cases fuel with
  | zero => exact absurd (Nat.le_zero.mp enough) some
  | succ fuel =>
    rw [cut_succ, if_neg some]
    exact List.cons_ne_nil _ _

/-- The pieces in closed form. -/
theorem cut_eq_map {n : Nat} (positive : 0 < n) {fuel : Nat} {r : Region w}
    (enough : r.size ≤ fuel) : cut n fuel r =
      (List.range ((r.size + n - 1) / n)).map fun k =>
        ⟨r.addr + BitVec.ofNat w (k * n), min (r.size - k * n) n⟩ := by
  have below : n - 1 < n := Nat.sub_lt positive Nat.one_pos
  induction fuel generalizing r with
  | zero =>
    rw [Nat.le_zero.mp enough, Nat.zero_add, Nat.div_eq_of_lt below]
    rfl
  | succ fuel ih =>
    rw [cut_succ]
    split
    · rename_i empty
      rw [empty, Nat.zero_add, Nat.div_eq_of_lt below]
      rfl
    · rename_i some
      have count : (r.size + n - 1) / n = (r.size - min r.size n + n - 1) / n + 1 := by
        rcases Nat.le_total r.size n with small | large
        · rw [Nat.min_eq_left small, Nat.sub_self, Nat.zero_add,
            Nat.div_eq_of_lt below]
          exact Nat.div_eq_of_lt_le (by omega) (by omega)
        · rw [Nat.min_eq_right large, ← Nat.add_div_right _ positive]
          congr 1
          omega
      rw [count, List.range_succ_eq_map, List.map_cons, List.map_map, ih]
      · have first : r.addr = r.addr + BitVec.ofNat w (0 * n) := by
          rw [Nat.zero_mul]
          exact (BitVec.add_zero _).symm
        rw [← first, Nat.zero_mul, Nat.sub_zero]
        refine congrArg _ (List.map_congr_left fun k member => ?_)
        have less := List.mem_range.mp member
        simp only [Function.comp_apply, Nat.succ_mul]
        rcases Nat.le_total r.size n with small | large
        · rw [Nat.min_eq_left small, Nat.sub_self, Nat.zero_add,
            Nat.div_eq_of_lt below] at less
          exact absurd less (Nat.not_lt_zero k)
        · rw [Nat.min_eq_right large, Nat.sub_sub, Nat.add_comm n (k * n), BitVec.add_assoc,
            ← BitVec.ofNat_add, Nat.add_comm n (k * n)]
      · have less : min r.size n ≤ r.size := Nat.min_le_left _ _
        have step : 0 < min r.size n := Nat.lt_min.mpr ⟨Nat.pos_of_ne_zero some, positive⟩
        simp only
        omega

end Memory
