import Emmc.Cmd

/-!
# What the card has to see

The commands of an in/out request as the card receives them. `Tiles` says that they move the sectors
from a given one on, chunk by chunk, and how each chunk is bounded.

* a chunk of one sector may be moved by CMD17/CMD24, which needs no bound;
* otherwise CMD18/CMD25 moves it, and CMD23 announced its size just before, or the controller does
  so (`autoCmd23`), or CMD12 stops it just behind.
* `Tiles.boundedOnce`: never by two of these.
-/

namespace Emmc

open Cmd (Issue)

/-- The argument of a data command for a sector: what fits into 32 bits. -/
def cardAddr (addrMult : U64) (sector : Nat) : U32 := BitVec.ofNat 32 (sector * addrMult.toNat)

variable (addrMult : U64) (read : Bool)

/-- A command that moves one sector. -/
structure Cmd.Issue.Single (sector : Nat) (i : Issue) : Prop where
  cmd : i.cmd = if read then Mmc.cmd17ReadSingleBlock else Mmc.cmd24WriteBlock
  arg : i.arg = cardAddr addrMult sector
  count : i.blockcnt = 1
  data : i.hasData = true
  noAuto : i.autoCmd23 = false

/-- A command that moves `n` sectors. -/
structure Cmd.Issue.Multiple (sector n : Nat) (auto : Bool) (i : Issue) : Prop where
  cmd : i.cmd = if read then Mmc.cmd18ReadMultipleBlock else Mmc.cmd25WriteMultipleBlock
  arg : i.arg = cardAddr addrMult sector
  count : i.blockcnt.toNat = n
  data : i.hasData = true
  auto : i.autoCmd23 = auto

/-- CMD23 for `n` sectors. -/
structure Cmd.Issue.Announce (n : Nat) (i : Issue) : Prop where
  cmd : i.cmd = Mmc.cmd23SetBlockCount
  arg : i.arg.toNat = n

/-- CMD12 of the matching direction. -/
def Cmd.Issue.Stop (i : Issue) : Prop :=
  i.cmd = if read then Mmc.cmd12StopTransmissionRd else Mmc.cmd12StopTransmissionWr

/-- The commands move the sectors from `sector` on, in chunks of the given sizes, in order and
without gap or overlap. -/
inductive Tiles : Nat → List Nat → List Issue → Prop
  | done {sector : Nat} : Tiles sector [] []
  | single {sector : Nat} {sizes : List Nat} {i : Issue} {issues : List Issue}
      (move : Issue.Single addrMult read sector i) (rest : Tiles (sector + 1) sizes issues) :
      Tiles sector (1 :: sizes) (i :: issues)
  | announced {sector n : Nat} {sizes : List Nat} {a i : Issue} {issues : List Issue}
      (announce : Issue.Announce n a) (move : Issue.Multiple addrMult read sector n false i)
      (rest : Tiles (sector + n) sizes issues) : Tiles sector (n :: sizes) (a :: i :: issues)
  | auto {sector n : Nat} {sizes : List Nat} {i : Issue} {issues : List Issue}
      (move : Issue.Multiple addrMult read sector n true i)
      (rest : Tiles (sector + n) sizes issues) : Tiles sector (n :: sizes) (i :: issues)
  | stopped {sector n : Nat} {sizes : List Nat} {i s : Issue} {issues : List Issue}
      (move : Issue.Multiple addrMult read sector n false i) (stop : Issue.Stop read s)
      (rest : Tiles (sector + n) sizes issues) : Tiles sector (n :: sizes) (i :: s :: issues)

/-! ## Exactly one bound -/

namespace Cmd.Issue

def isMultiple (i : Issue) : Bool :=
  i.cmd = Mmc.cmd18ReadMultipleBlock ∨ i.cmd = Mmc.cmd25WriteMultipleBlock

/-- `i` is CMD23 with the block count of `next`. -/
def announces (i next : Issue) : Bool :=
  i.cmd = Mmc.cmd23SetBlockCount ∧ i.arg = next.blockcnt

def stops (i : Issue) : Bool :=
  i.cmd = if read then Mmc.cmd12StopTransmissionRd else Mmc.cmd12StopTransmissionWr

/-- Whether the block count of `i` is announced just before, announced by the controller, or
enforced just behind. -/
def bounds (prev next : Option Issue) (i : Issue) : List Bool :=
  [prev.any (announces · i), i.autoCmd23, next.any (stops read)]

/-- Exactly one mechanism bounds each multiple block command. -/
def BoundedOnce : Option Issue → List Issue → Prop
  | _, [] => True
  | prev, i :: rest =>
    (isMultiple i = true → (bounds read prev rest.head? i).count true = 1) ∧
      BoundedOnce (some i) rest

variable {addrMult read}

/-- Not CMD23 and not CMD12. -/
def Moves (i : Issue) : Prop :=
  i.cmd ≠ Mmc.cmd23SetBlockCount ∧ i.cmd ≠ Mmc.cmd12StopTransmissionRd ∧
    i.cmd ≠ Mmc.cmd12StopTransmissionWr

/-- A transfer of a single sector moves data, and needs no count. -/
theorem Single.moves {sector : Nat} {i : Issue} (move : Single addrMult read sector i) :
    Moves i ∧ isMultiple i = false := by
  rw [Moves, isMultiple, move.cmd]
  cases read <;> decide

theorem Multiple.moves {sector n : Nat} {auto : Bool} {i : Issue}
    (move : Multiple addrMult read sector n auto i) : Moves i := by
  rw [Moves, move.cmd]
  cases read <;> decide

theorem Moves.not_announces {i : Issue} (moves : Moves i) (next : Issue) :
    announces i next = false := by
  simp [announces, moves.1]

theorem Moves.not_stops {i : Issue} (moves : Moves i) : stops read i = false := by
  cases read <;> simp [stops, moves.2.1, moves.2.2]

/-- CMD23 is no CMD12. -/
theorem Announce.not_stops {n : Nat} {i : Issue} (announce : Announce n i) :
    stops read i = false := by
  rw [stops, announce.cmd]
  cases read <;> decide

theorem Announce.not_multiple {n : Nat} {i : Issue} (announce : Announce n i) :
    isMultiple i = false := by
  rw [isMultiple, announce.cmd]
  decide

theorem Stop.not_multiple {i : Issue} (stop : Stop read i) : isMultiple i = false := by
  rw [isMultiple, show i.cmd = _ from stop]
  cases read <;> decide

/-- And CMD12 announces nothing. -/
theorem Stop.not_announces {i : Issue} (stop : Stop read i) (next : Issue) :
    announces i next = false := by
  have other : i.cmd ≠ Mmc.cmd23SetBlockCount := by
    rw [show i.cmd = _ from stop]
    cases read <;> decide
  simp [announces, other]

/-- CMD23 announces the transfer behind it if both have the same count. -/
theorem Announce.announces {sector n : Nat} {auto : Bool} {a i : Issue} (announce : Announce n a)
    (move : Multiple addrMult read sector n auto i) : announces a i = true := by
  have same : a.arg = i.blockcnt := BitVec.eq_of_toNat_eq (announce.arg.trans move.count.symm)
  simp [Issue.announces, announce.cmd, same]

end Cmd.Issue

open Cmd.Issue

variable {addrMult read}

/-- What follows a chunk does not stop it. -/
theorem Tiles.head_not_stops {sector : Nat} {sizes : List Nat} {issues : List Issue}
    (tiles : Tiles addrMult read sector sizes issues) : issues.head?.any (stops read) = false := by
  cases tiles with
  | done => rfl
  | single move rest => exact move.moves.1.not_stops
  | announced announce move rest => exact announce.not_stops
  | auto move rest => exact move.moves.not_stops
  | stopped move stop rest => exact move.moves.not_stops

/-- Each multiple block command is bounded once, behind any command that announces nothing. -/
theorem Tiles.boundedOnce {sector : Nat} {sizes : List Nat} {issues : List Issue}
    (tiles : Tiles addrMult read sector sizes issues) {prev : Option Issue}
    (silent : ∀ next, prev.any (announces · next) = false) : BoundedOnce read prev issues := by
  induction tiles generalizing prev with
  | done => trivial
  | single move rest ih =>
    obtain ⟨moves, notMultiple⟩ := move.moves
    exact ⟨fun multiple => absurd (notMultiple.symm.trans multiple) (by decide),
      ih moves.not_announces⟩
  | announced announce move rest ih =>
    refine ⟨fun multiple => absurd (announce.not_multiple.symm.trans multiple) (by decide), fun _ => ?_,
      ih move.moves.not_announces⟩
    simp [bounds, announce.announces move, move.auto, rest.head_not_stops]
  | auto move rest ih =>
    refine ⟨fun _ => ?_, ih move.moves.not_announces⟩
    simp [bounds, silent, move.auto, rest.head_not_stops]
  | stopped move stop rest ih =>
    refine ⟨fun _ => ?_, fun multiple => absurd (stop.not_multiple.symm.trans multiple) (by decide),
      ih stop.not_announces⟩
    have stops : stops read _ = true := decide_eq_true stop
    simp [bounds, silent, move.auto, stops]

/-- There is always a way to move the rest. -/
theorem Tiles.exists {sizes : List Nat} (small : ∀ n ∈ sizes, n < 2 ^ 32) (sector : Nat) :
    ∃ issues, Tiles addrMult read sector sizes issues := by
  induction sizes generalizing sector with
  | nil => exact ⟨[], .done⟩
  | cons n sizes ih =>
    obtain ⟨issues, rest⟩ := ih (fun n member => small n (List.mem_cons_of_mem _ member))
      (sector + n)
    have bound := small n List.mem_cons_self
    refine ⟨⟨_, cardAddr addrMult sector, BitVec.ofNat 32 n, true, true⟩ :: issues,
      .auto ⟨rfl, rfl, ?_, rfl, rfl⟩ rest⟩
    rw [BitVec.toNat_ofNat, Nat.mod_eq_of_lt bound]

end Emmc
