import Emmc.Construct
import Emmc.Lib.Entries

/-!
# Finding the controllers

`createDev` looks at one device of the bus: which driver knows it, where its registers and its interrupt
are, to which DMA domain it belongs. Devices of one domain share a DMA space.

* `nopciDev_found`, `pciDev_probed`: where a device is found.
* `createDev_spec`: everything that can become of one device.
* `discovered_devices`: every device that is created works with the space of its own domain.
* `discovery_ends_iff`: which devices are only skipped, and which end the driver.

What the bus says is given, and so are the answers of the system; a capability that is allocated is not in
use. Log output is left out.
-/

namespace Emmc

open Throwing Entries Construct

namespace Factory

inductive ResourceType
  | mem
  | irq
  | dmaDomain
  | other
deriving DecidableEq, Repr

/-- `l4vbus_resource_t` -/
structure Resource where
  type : ResourceType
  start : U64
  last : U64
  flags : U32
deriving DecidableEq, Repr

inductive IrqMode
  | levelHigh
  | edge
  | given (flags : U32)
deriving DecidableEq, Repr

/-- The registers and the interrupt of a device, zero as long as they are not known. -/
structure Place where
  mmioAddr : U64 := 0
  mmioSize : U64 := 0
  irqNum : U32 := 0
  irqMode : IrqMode := .levelHigh
deriving DecidableEq, Repr

/-! ## Devices with resources -/

/-- The answers to `get_resource`. -/
abbrev Resources := List (Except RuntimeError Resource)

def takeResource (p : Place) (res : Resource) : Place :=
  match res.type with
  | .mem =>
    if p.mmioAddr = 0 then
      { p with mmioAddr := res.start, mmioSize := res.last - res.start + 1 }
    else p
  | .irq =>
    if p.irqNum = 0 then
      { p with irqNum := res.start.setWidth 32, irqMode := .given res.flags }
    else p
  | .dmaDomain | .other => p

def resourceLoop : Resources → Place → Except RuntimeError Place
  | [], p => .ok p
  | answer :: rest, p =>
    if p.mmioAddr = 0 ∨ p.irqNum = 0 then do
      let res ← answer
      resourceLoop rest (takeResource p res)
    else .ok p

/-- The checks behind the loop. -/
def known (p : Place) : Except RuntimeError (Option Place) :=
  if p.mmioAddr = 0 then
    .ok none
  else if p.irqNum = 0 then
    .ok none
  else
    .ok (some p)

def nopciDev (answers : Resources) : Except RuntimeError (Option Place) := do
  known (← resourceLoop answers {})

/-- `-1` is the domain of the bus. -/
def dmaDomain : Resources → Except RuntimeError U64
  | [] => .ok (~~~0)
  | answer :: rest => do
    let res ← answer
    if res.type = .dmaDomain then
      return res.start
    else
      dmaDomain rest

/-! What a device is given by its resources is the first one of a kind that is not at zero. -/

/-- A kind of resource, and what is known of it at a place. -/
structure Kind (α β : Type) [Zero α] [DecidableEq α] where
  type : ResourceType
  key : Place → α
  value : Place → β
  keyOf : Resource → α
  valueOf : Resource → β
  moved : ∀ p res, key p = 0 → res.type = type →
    key (takeResource p res) = keyOf res ∧ value (takeResource p res) = valueOf res
  kept : ∀ p res, key p ≠ 0 ∨ res.type ≠ type →
    key (takeResource p res) = key p ∧ value (takeResource p res) = value p

def regs : Kind U64 U64 where
  type := .mem
  key := Place.mmioAddr
  value := Place.mmioSize
  keyOf := Resource.start
  valueOf res := res.last - res.start + 1
  moved p res zero type := by
    unfold takeResource
    rw [type]
    dsimp only
    rw [if_pos zero]
    exact ⟨rfl, rfl⟩
  kept p res other := by
    unfold takeResource
    cases type : res.type with
    | mem =>
      dsimp only
      rw [if_neg (other.resolve_right fun none => none type)]
      exact ⟨rfl, rfl⟩
    | irq =>
      dsimp only
      split <;> exact ⟨rfl, rfl⟩
    | dmaDomain => exact ⟨rfl, rfl⟩
    | other => exact ⟨rfl, rfl⟩

def irq : Kind U32 IrqMode where
  type := .irq
  key := Place.irqNum
  value := Place.irqMode
  keyOf res := res.start.setWidth 32
  valueOf res := .given res.flags
  moved p res zero type := by
    unfold takeResource
    rw [type]
    dsimp only
    rw [if_pos zero]
    exact ⟨rfl, rfl⟩
  kept p res other := by
    unfold takeResource
    cases type : res.type with
    | mem =>
      dsimp only
      split <;> exact ⟨rfl, rfl⟩
    | irq =>
      dsimp only
      rw [if_neg (other.resolve_right fun none => none type)]
      exact ⟨rfl, rfl⟩
    | dmaDomain => exact ⟨rfl, rfl⟩
    | other => exact ⟨rfl, rfl⟩

section Kind

variable {α β : Type} [Zero α] [DecidableEq α] {k : Kind α β} {read : List Resource} {p : Place}

def Kind.first (k : Kind α β) (read : List Resource) : Option Resource :=
  read.find? fun res => res.type = k.type ∧ k.keyOf res ≠ 0

/-- The place is known from what was read. -/
structure Taken (k : Kind α β) (read : List Resource) (p : Place) : Prop where
  missing : k.first read = none → k.key p = 0
  found : ∀ res, k.first read = some res → k.key p = k.keyOf res ∧ k.value p = k.valueOf res

theorem taken_start (zero : k.key {} = 0) : Taken k [] {} where
  missing _ := zero
  found _ absurd := by cases absurd

/-- The resource that is taken is of its kind, and not at zero. -/
theorem first_ne_zero {res : Resource} (found : k.first read = some res) :
    res.type = k.type ∧ k.keyOf res ≠ 0 := by
  unfold Kind.first at found
  have there := List.find?_some found
  exact of_decide_eq_true there

/-- The place is still at zero exactly when no resource of the kind was read. -/
theorem Taken.zero_iff (taken : Taken k read p) : k.key p = 0 ↔ k.first read = none := by
  refine ⟨fun zero => ?_, taken.missing⟩
  cases found : k.first read with
  | none => rfl
  | some res => exact absurd ((taken.found res found).1.symm.trans zero) (first_ne_zero found).2

/-- The next resource is taken if it is the first one of its kind. -/
theorem Taken.concat (taken : Taken k read p) (res : Resource) :
    Taken k (read ++ [res]) (takeResource p res) := by
  have longer : k.first (read ++ [res]) =
      (k.first read).or (if res.type = k.type ∧ k.keyOf res ≠ 0 then some res else none) := by
    unfold Kind.first
    rw [List.find?_append, List.find?_singleton]
    simp only [decide_eq_true_eq]
  cases before : k.first read with
  | some first =>
    have known : k.key p ≠ 0 := by
      rw [Ne, taken.zero_iff, before]
      exact Option.some_ne_none first
    have same := k.kept p res (Or.inl known)
    have there := taken.found first before
    rw [before, Option.some_or] at longer
    constructor
    · rw [longer]
      exact nofun
    · rw [longer]
      rintro _ ⟨⟩
      exact ⟨same.1.trans there.1, same.2.trans there.2⟩
  | none =>
    have zero := taken.missing before
    rw [before, Option.none_or] at longer
    by_cases type : res.type = k.type
    · have moved := k.moved p res zero type
      constructor
      · intro missing
        rw [longer] at missing
        by_contra other
        rw [moved.1] at other
        rw [if_pos ⟨type, other⟩] at missing
        cases missing
      · intro res' found
        rw [longer] at found
        split at found
        · cases found
          exact moved
        · cases found
    · have same := k.kept p res (Or.inr type)
      rw [if_neg fun both => type both.1] at longer
      constructor
      · exact fun _ => same.1.trans zero
      · rw [longer]
        exact nofun

end Kind

/-- What `nopciDev` makes of the answers: it reads them until registers and interrupt are known. -/
inductive Found (answers : Resources) : Except RuntimeError (Option Place) → Prop
  | here {read : List Resource} {rest : Resources} {m i : Resource} :
    answers = read.map .ok ++ rest → regs.first read = some m → irq.first read = some i →
    Found answers (.ok (some ⟨m.start, m.last - m.start + 1, i.start.setWidth 32, .given i.flags⟩))
  | nowhere {read : List Resource} :
    answers = read.map .ok → regs.first read = none ∨ irq.first read = none → Found answers (.ok none)
  | unread {read : List Resource} {rest : Resources} {e : RuntimeError} :
    answers = read.map .ok ++ .error e :: rest → regs.first read = none ∨ irq.first read = none →
    Found answers (.error e)

/-- When the loop ends, either both resources are there or no more come. -/
theorem found_known {answers : Resources} {read : List Resource} {rest : Resources} {p : Place}
    (whole : answers = read.map .ok ++ rest) (mem : Taken regs read p) (int : Taken irq read p)
    (ended : (p.mmioAddr ≠ 0 ∧ p.irqNum ≠ 0) ∨ rest = []) : Found answers (known p) := by
  have nowhere : regs.first read = none ∨ irq.first read = none → p.mmioAddr = 0 ∨ p.irqNum = 0 →
      Found answers (.ok none) := by
    intro missing zero
    have last : rest = [] := ended.resolve_left fun both => zero.elim both.1 both.2
    rw [last, List.append_nil] at whole
    exact .nowhere whole missing
  unfold known
  split
  · rename_i zero
    exact nowhere (Or.inl (mem.zero_iff.mp zero)) (Or.inl zero)
  rename_i addr
  split
  · rename_i zero
    exact nowhere (Or.inr (int.zero_iff.mp zero)) (Or.inr zero)
  rename_i num
  cases m : regs.first read with
  | none => exact absurd (mem.missing m) addr
  | some first =>
    cases i : irq.first read with
    | none => exact absurd (int.missing i) num
    | some first' =>
      have same : p = ⟨first.start, first.last - first.start + 1, first'.start.setWidth 32,
          .given first'.flags⟩ := by
        have atRegs := mem.found first m
        have atIrq := int.found first' i
        cases p
        simp only [regs, irq] at atRegs atIrq
        rw [atRegs.1, atRegs.2, atIrq.1, atIrq.2]
      rw [same]
      exact .here whole m i

/-- By induction on the resources that are left; an error of the bus ends the loop. -/
theorem resourceLoop_found {answers : Resources} (rest : Resources) {read : List Resource} {p : Place}
    (whole : answers = read.map .ok ++ rest) (mem : Taken regs read p) (int : Taken irq read p) :
    Found answers (resourceLoop rest p >>= known) := by
  induction rest generalizing read p with
  | nil => exact found_known whole mem int (Or.inr rfl)
  | cons answer rest ih =>
    unfold resourceLoop
    split
    · rename_i missing
      cases answer with
      | ok res =>
        have longer : answers = (read ++ [res]).map .ok ++ rest := by
          rw [whole, List.map_append, List.append_assoc]
          rfl
        exact ih longer (mem.concat res) (int.concat res)
      | error e => exact .unread whole (missing.imp mem.zero_iff.mp int.zero_iff.mp)
    · rename_i both
      exact found_known whole mem int (Or.inl (not_or.mp both))

/-- A device without PCI is at its first registers and its first interrupt. -/
theorem nopciDev_found (answers : Resources) : Found answers (nopciDev answers) :=
  have whole : answers = ([] : List Resource).map .ok ++ answers := rfl
  resourceLoop_found answers whole (taken_start rfl) (taken_start rfl)

/-! ## PCI devices -/

/-- What `Pci_dev` does with the configuration space `σ`. -/
structure Pci (σ : Type) where
  cfgRead : U32 → EStateM RuntimeError σ U32
  cfgWrite : U32 → U32 → EStateM RuntimeError σ Unit
  /-- The interrupt, and whether its trigger is not zero. -/
  irqEnable : EStateM RuntimeError σ (U32 × Bool)

def bar0 : U32 := 0x10
def cfgCommand : U32 := 0x04

def pciDev {σ : Type} (dev : Pci σ) : EStateM RuntimeError σ Place := do
  let addr ← dev.cfgRead bar0
  dev.cfgWrite bar0 (~~~0)
  let size ← dev.cfgRead bar0
  dev.cfgWrite bar0 addr
  if size &&& 1 ≠ 0 then
    throw ⟨-L4.einval, "First PCI BAR maps into memory"⟩
  if size &&& 6 ≠ 0 then
    throw ⟨-L4.einval, "First PCI BAR is 32-bits wide"⟩
  let cmd ← dev.cfgRead cfgCommand
  if cmd &&& 4 = 0 then
    dev.cfgWrite cfgCommand (cmd ||| 4)
  let (irqNum, trigger) ← dev.irqEnable
  return {
    mmioAddr := (addr &&& ~~~0xf).setWidth 64
    mmioSize := (-(size &&& ~~~0xf)).setWidth 64
    irqNum := irqNum
    irqMode := if trigger then .edge else .levelHigh }

/-- A configuration space in which only the bits of `mask` can be written to the first BAR. -/
structure Regular {σ : Type} (dev : Pci σ) (bar command : σ → U32) (mask : U32) : Prop where
  readBar : ∀ s, wp (dev.cfgRead bar0)
    (fun v s' => v = bar s ∧ bar s' = bar s ∧ command s' = command s) (fun _ s' => bar s' = bar s) s
  writeBar : ∀ v s, wp (dev.cfgWrite bar0 v)
    (fun _ s' => bar s' = (v &&& mask) ||| (bar s &&& ~~~mask) ∧ command s' = command s)
    (fun _ s' => bar s' = bar s) s
  readCommand : ∀ s, wp (dev.cfgRead cfgCommand)
    (fun v s' => v = command s ∧ bar s' = bar s ∧ command s' = command s) (fun _ s' => bar s' = bar s) s
  writeCommand : ∀ v s, wp (dev.cfgWrite cfgCommand v)
    (fun _ s' => bar s' = bar s ∧ command s' = v) (fun _ s' => bar s' = bar s) s
  irqEnable : ∀ s, wp dev.irqEnable
    (fun _ s' => bar s' = bar s ∧ command s' = command s) (fun _ s' => bar s' = bar s) s

/-- The BAR while its size is read. -/
def sizing (mask bar : U32) : U32 := mask ||| (bar &&& ~~~mask)

/-- The code writes ones and reads back what the fixed low bits leave. -/
theorem sizing_written (mask bar : U32) : (~~~0 &&& mask) ||| (bar &&& ~~~mask) = sizing mask bar := by
  have ones : (~~~0 : U32) = BitVec.allOnes 32 := rfl
  rw [ones, BitVec.allOnes_and]
  rfl

/-- The address is put back behind the sizing. -/
theorem sizing_restored (mask bar : U32) : (bar &&& mask) ||| (sizing mask bar &&& ~~~mask) = bar := by
  unfold sizing
  ext i
  simp only [BitVec.getElem_or, BitVec.getElem_and, BitVec.getElem_not]
  cases bar[i] <;> cases mask[i] <;> rfl

/-- Flags that are clear in the sized value are clear in the register. -/
theorem sizing_flags {mask bar flags : U32} (none : sizing mask bar &&& flags = 0) : bar &&& flags = 0 := by
  have bits : sizing mask bar = mask ||| bar := by
    unfold sizing
    ext i
    simp only [BitVec.getElem_or, BitVec.getElem_and, BitVec.getElem_not]
    cases bar[i] <;> cases mask[i] <;> rfl
  rw [bits, BitVec.and_comm, BitVec.and_or_distrib_left] at none
  rw [BitVec.and_comm]
  exact (BitVec.or_eq_zero_iff.mp none).2

/-- Behind the flags only what can be written is not zero. -/
theorem sizing_masked {mask bar : U32} (flags : mask &&& 0xf = 0) (fixed : bar &&& ~~~mask &&& ~~~0xf = 0) :
    sizing mask bar &&& ~~~0xf = mask := by
  have kept : mask &&& ~~~0xf = mask := by
    have split : mask = (mask &&& 0xf) ||| (mask &&& ~~~0xf) := by
      ext i
      simp only [BitVec.getElem_or, BitVec.getElem_and, BitVec.getElem_not]
      cases mask[i] <;> simp
    rw [flags] at split
    exact (split.trans BitVec.zero_or).symm
  unfold sizing
  rw [BitVec.and_comm, BitVec.and_or_distrib_left, BitVec.and_comm, kept, BitVec.and_comm, fixed]
  exact BitVec.or_zero

theorem master_enabled (cmd : U32) : (cmd ||| 4) &&& 4 ≠ 0 := by
  rw [BitVec.and_comm, BitVec.and_or_distrib_left, BitVec.and_self]
  intro zero
  exact absurd (BitVec.or_eq_zero_iff.mp zero).2 (by decide)

/-- A device is found where its BAR is, which is a 32-bit memory BAR and as before; and the device may
access the memory. If something is thrown, the BAR may still be the one whose size was read. -/
theorem pciDev_probed {σ : Type} {dev : Pci σ} {bar command : σ → U32} {mask : U32}
    (regular : Regular dev bar command mask) (s : σ) (flags : mask &&& 0xf = 0)
    (fixed : bar s &&& ~~~mask &&& ~~~0xf = 0) :
    wp (pciDev dev)
      (fun place s' => bar s' = bar s ∧ command s' &&& 4 ≠ 0 ∧ bar s &&& 7 = 0 ∧
        place.mmioAddr = (bar s &&& ~~~0xf).setWidth 64 ∧ place.mmioSize = (-mask).setWidth 64)
      (fun _ s' => bar s' = bar s ∨ bar s' = sizing mask (bar s)) s := by
  unfold pciDev
  apply ((regular.readBar s).mono (fun _ _ post => post) fun _ _ same => Or.inl same).bind
  rintro _ s₁ ⟨rfl, bar₁, -⟩
  apply ((regular.writeBar _ s₁).mono (fun _ _ post => post) fun _ _ same => Or.inl (same.trans bar₁)).bind
  rintro _ s₂ ⟨bar₂, -⟩
  rw [bar₁, sizing_written] at bar₂
  apply ((regular.readBar s₂).mono (fun _ _ post => post) fun _ _ same => Or.inr (same.trans bar₂)).bind
  rintro _ s₃ ⟨rfl, bar₃, -⟩
  rw [bar₂] at bar₃ ⊢
  apply ((regular.writeBar _ s₃).mono (fun _ _ post => post) fun _ _ same => Or.inr (same.trans bar₃)).bind
  rintro _ s₄ ⟨bar₄, -⟩
  rw [bar₃, sizing_restored] at bar₄
  dsimp only
  rw [wp_ite]
  refine ⟨fun _ => Or.inl bar₄, fun memory => ?_⟩
  rw [wp_ite]
  refine ⟨fun _ => Or.inl bar₄, fun narrow => ?_⟩
  have size := congrArg (fun size => (-size).setWidth 64) (sizing_masked flags fixed)
  have type : bar s &&& 7 = 0 := by
    have both : (7 : U32) = 1 ||| 6 := rfl
    have sized : sizing mask (bar s) &&& 7 = 0 := by
      rw [both, BitVec.and_or_distrib_left, not_not.mp memory, not_not.mp narrow]
      rfl
    exact sizing_flags sized
  apply ((regular.readCommand s₄).mono (fun _ _ post => post) fun _ _ same =>
    Or.inl (same.trans bar₄)).bind
  rintro _ s₅ ⟨rfl, bar₅, command₅⟩
  rw [bar₄] at bar₅
  have enabled : ∀ s₆, bar s₆ = bar s → command s₆ &&& 4 ≠ 0 →
      wp dev.irqEnable (fun _ s' => bar s' = bar s ∧ command s' &&& 4 ≠ 0)
        (fun _ s' => bar s' = bar s ∨ bar s' = sizing mask (bar s)) s₆ := by
    intro s₆ bar₆ master
    apply (regular.irqEnable s₆).mono
    · rintro _ s₇ ⟨bar₇, command₇⟩
      rw [bar₇, command₇]
      exact ⟨bar₆, master⟩
    · exact fun _ _ same => Or.inl (same.trans bar₆)
  rw [wp_ite]
  refine ⟨fun _ => ?_, fun master => ?_⟩
  · apply ((regular.writeCommand _ s₅).mono (fun _ _ post => post) fun _ _ same =>
      Or.inl (same.trans bar₅)).bind
    rintro _ s₆ ⟨bar₆, command₆⟩
    apply (enabled s₆ (bar₆.trans bar₅) (by rw [command₆]; exact master_enabled _)).bind
    exact fun _ _ post => ⟨post.1, post.2, type, rfl, size⟩
  · apply (enabled s₅ bar₅ (by rw [command₅]; exact master)).bind
    exact fun _ _ post => ⟨post.1, post.2, type, rfl, size⟩

/-- A controller with 4 KiB of registers whose configuration can always be accessed. -/
def plainPci : Pci (U32 × U32) where
  cfgRead reg := fun s => .ok (if reg = bar0 then s.1 else s.2) s
  cfgWrite reg v := fun s =>
    .ok () (if reg = bar0 then ((v &&& 0xfffff000) ||| (s.1 &&& ~~~0xfffff000), s.2) else (s.1, v))
  irqEnable := return (11, false)

/-- A memory BAR of one page. -/
theorem plainPci_probed :
    wp (pciDev plainPci)
      (fun place s' => s'.1 = 0xfe001000 ∧ s'.2 &&& 4 ≠ 0 ∧ (0xfe001000 : U32) &&& 7 = 0 ∧
        place.mmioAddr = ((0xfe001000 : U32) &&& ~~~0xf).setWidth 64 ∧
        place.mmioSize = (-(0xfffff000 : U32)).setWidth 64)
      (fun _ s' => s'.1 = 0xfe001000 ∨ s'.1 = sizing 0xfffff000 0xfe001000) (0xfe001000, 2) := by
  have regular : Regular plainPci Prod.fst Prod.snd 0xfffff000 := by
    constructor
    · exact fun _ => ⟨rfl, rfl, rfl⟩
    · exact fun _ _ => ⟨rfl, rfl⟩
    · exact fun _ => ⟨rfl, rfl, rfl⟩
    · exact fun _ _ => ⟨rfl, rfl⟩
    · exact fun _ => ⟨rfl, rfl⟩
  have fixed : (0xfe001000 : U32) &&& ~~~0xfffff000 &&& ~~~0xf = 0 := by decide
  exact pciDev_probed regular (0xfe001000, 2) (by decide) fixed

/-! ## The drivers -/

/-- The objects `f_sdhci_plain` to `f_sdhi_emu`. -/
inductive Driver
  | plain
  | iproc
  | usdhc
  | rcar3
  | emu
deriving DecidableEq, Repr

namespace Driver

def controller : Driver → Controller
  | plain => .sdhci .plain
  | iproc => .sdhci .bcm2711
  | usdhc => .sdhci .usdhc
  | rcar3 | emu => .sdhi

def guessClock : Driver → U64 → Except RuntimeError U32
  | iproc, mmioAddr => .ok (if mmioAddr = 0xfe340000 then 100000000 else 0)
  | usdhc, mmioAddr =>
    if mmioAddr = 0x30b40000 then .ok 400000000
    else if mmioAddr = 0x30b50000 then .ok 200000000
    else if mmioAddr = 0x30b60000 then .ok 200000000
    else if mmioAddr = 0x5b010000 then .ok 396000000
    else if mmioAddr = 0x5b020000 then .ok 198000000
    else if mmioAddr = 0x5b030000 then .ok 198000000
    else if mmioAddr = 0x402f0000 then .ok 400000000
    else .error ⟨-L4.einval, "Unknown host clock"⟩
  | plain, _ | rcar3, _ | emu, _ => .ok 0

/-- Only these need the clock generator. -/
def needsCpg : Driver → Bool
  | rcar3 | emu => true
  | plain | iproc | usdhc => false

end Driver

/-- The drivers that have registered, in the order of the lists. -/
structure Types where
  nopci : List (String × Driver)
  pci : List (U32 × Driver)

/-! ## Creating a device -/

/-- What a device of the bus says when it is asked. -/
inductive Identity
  | nopci (isCompatible : String → Bool)
  | pci {σ : Type} (dev : Pci σ) (cfg : σ) (vendorDevice classCode : Except RuntimeError U32)

/-- A device of the bus, with what the system answers while it is created. -/
structure BusDevice (Space : Type) where
  identity : Identity
  resources : Resources
  /-- A capability that is not among those in use. -/
  alloc : (used : List Space) → Except RuntimeError { space : Space // space ∉ used }
  createSpace : Except RuntimeError Unit
  assignDomain : Except RuntimeError Unit
  initCpg : Except RuntimeError Unit
  env : Env

/-- A device that was created. -/
structure Made (Space : Type) where
  nr : U32
  place : Place
  domain : U64
  dma : Space
  built : Built

/-- What `create_dev` and its callers keep between two devices. -/
structure State (Space : Type) where
  /-- The domains that have a space, and the spaces. -/
  spaces : List (U64 × Space) := []
  deviceNr : U32 := 0
  devices : List (Made Space) := []

variable {Space : Type}

abbrev FactoryM (Space : Type) := EStateM Failure (State Space)

def orThrow {α : Type} : BuildM α → FactoryM Space α
  | .ok a => return a
  | .error e => throw e

def chksys {α : Type} (answer : Except RuntimeError α) : FactoryM Space α := orThrow (external answer)

def locate (types : Types) (dev : BusDevice Space) : Except RuntimeError (Option (Driver × Place)) :=
  match dev.identity with
  | .pci pci cfg vendorDevice classCode =>
    match vendorDevice with
    | .error _ => .ok none
    | .ok _ => do
      let classCode ← classCode
      match types.pci.find? (fun t => classCode >>> 8 = t.1) with
      | none => return none
      | some t =>
        match pciDev pci cfg with
        | .ok place _ => return some (t.2, place)
        | .error e _ => throw e
  | .nopci isCompatible =>
    match types.nopci.find? (fun t => isCompatible t.1) with
    | none => .ok none
    | some t => return (← nopciDev dev.resources).map (t.2, ·)

def createDmaSpace (dev : BusDevice Space) (id : U64) : FactoryM Space Space := do
  let s ← get
  match s.spaces.lookup id with
  | some dma => return dma
  | none =>
    let dma ← chksys (dev.alloc (s.spaces.map (·.2)))
    chksys dev.createSpace
    chksys dev.assignDomain
    modify fun s => { s with spaces := (id, dma.1) :: s.spaces }
    return dma.1

def hostClock (guessed : U32) : U32 := if guessed ≠ 0 then guessed else 400000

/-- `Factory::create` of the driver. -/
def create (dev : BusDevice Space) (driver : Driver) (maxSeg clock : U32) : FactoryM Space Built := do
  if driver.needsCpg then
    chksys dev.initCpg
  orThrow (construct driver.controller clock maxSeg dev.env)

/-- An exception is a reason to skip the device; a division by zero is not an exception. -/
def skip : Failure → FactoryM Space (Option (Made Space))
  | .exception _ => return none
  | .divisionByZero => throw .divisionByZero

/-- The block whose exceptions are caught. -/
def tryCreate (maxSeg : U32) (dev : BusDevice Space) (driver : Driver) (place : Place) (domain : U64)
    (clock : U32) : FactoryM Space (Option (Made Space)) := do
  let dma ← createDmaSpace dev domain
  let nr := (← get).deviceNr
  modify fun s => { s with deviceNr := s.deviceNr + 1 }
  let built ← create dev driver maxSeg clock
  return some { nr, place, domain, dma, built }

def createDev (types : Types) (maxSeg : U32) (dev : BusDevice Space) :
    FactoryM Space (Option (Made Space)) := do
  match ← chksys (locate types dev) with
  | none => return none
  | some (driver, place) =>
    let domain ← chksys (dmaDomain dev.resources)
    let clock := hostClock (← chksys (driver.guessClock place.mmioAddr))
    tryCatch (tryCreate maxSeg dev driver place domain clock) skip

/-- The loop of `device_discovery`. -/
def discovery (types : Types) (maxSeg : U32) (devs : List (BusDevice Space)) : FactoryM Space Unit :=
  forM devs fun dev => do
    match ← createDev types maxSeg dev with
    | some made => modify fun s => { s with devices := s.devices ++ [made] }
    | none => return ()

/-! ## What becomes of a device -/

section Results

variable (types : Types) (maxSeg : U32)

/-- Where the registers and the interrupt of a device are. -/
inductive Located (dev : BusDevice Space) : Place → Prop
  | resources {isCompatible : String → Bool} {read : List Resource} {rest : Resources} {m i : Resource} :
    dev.identity = .nopci isCompatible → dev.resources = read.map .ok ++ rest →
    regs.first read = some m → irq.first read = some i →
    Located dev ⟨m.start, m.last - m.start + 1, i.start.setWidth 32, .given i.flags⟩
  | pci {σ : Type} {pci : Pci σ} {cfg cfg' : σ} {vendorDevice classCode : Except RuntimeError U32}
    {place : Place} : dev.identity = .pci pci cfg vendorDevice classCode →
    pciDev pci cfg = .ok place cfg' → Located dev place

/-- The device was created for this one of the bus. -/
structure Origin (dev : BusDevice Space) (made : Made Space) : Prop where
  place : Located dev made.place
  domain : dmaDomain dev.resources = .ok made.domain
  driver : ∃ driver guessed, locate types dev = .ok (some (driver, made.place)) ∧
    driver.guessClock made.place.mmioAddr = .ok guessed ∧
    construct driver.controller (hostClock guessed) maxSeg dev.env = .ok made.built

/-- The failures that are not caught. -/
inductive Fatal (dev : BusDevice Space) : Prop
  | place {e : RuntimeError} : locate types dev = .error e → Fatal dev
  | domain {driver : Driver} {place : Place} {e : RuntimeError} :
    locate types dev = .ok (some (driver, place)) → dmaDomain dev.resources = .error e → Fatal dev
  | clock {driver : Driver} {place : Place} {e : RuntimeError} :
    locate types dev = .ok (some (driver, place)) → driver.guessClock place.mmioAddr = .error e → Fatal dev

/-- Everything that the device asks for is given. -/
structure Answered (dev : BusDevice Space) : Prop where
  alloc : ∀ used, ∃ space, dev.alloc used = .ok space
  createSpace : dev.createSpace = .ok ()
  assignDomain : dev.assignDomain = .ok ()
  initCpg : dev.initCpg = .ok ()

/-- A device that a driver knows, and that it can drive. -/
structure Usable (dev : BusDevice Space) : Prop where
  answered : Answered dev
  built : ∃ driver place guessed built, locate types dev = .ok (some (driver, place)) ∧
    driver.guessClock place.mmioAddr = .ok guessed ∧
    construct driver.controller (hostClock guessed) maxSeg dev.env = .ok built

/-- The construction of the device, by the driver that is found for it, divides by zero. -/
def DividesByZero (dev : BusDevice Space) : Prop :=
  ∃ driver place guessed, locate types dev = .ok (some (driver, place)) ∧
    driver.guessClock place.mmioAddr = .ok guessed ∧
    Divides (construct driver.controller (hostClock guessed) maxSeg dev.env)

end Results

variable {types : Types} {maxSeg : U32} {dev : BusDevice Space} {s s' : State Space}

/-- Each domain has one space, of its own. -/
structure Bound (s : State Space) : Prop where
  domains : (s.spaces.map (·.1)).Nodup
  apart : (s.spaces.map (·.2)).Nodup

/-- No domain gets another space, and the devices are still the same. -/
structure Later (s s' : State Space) : Prop where
  bound : Bound s'
  spaces : ∀ id dma, s.spaces.lookup id = some dma → s'.spaces.lookup id = some dma
  devices : s'.devices = s.devices

/-- Nothing has changed. -/
theorem Bound.later (bound : Bound s) : Later s s := ⟨bound, fun _ _ same => same, rfl⟩

/-- A domain that was not bound gets a space of its own. -/
theorem Bound.bind (bound : Bound s) {id : U64} (unbound : s.spaces.lookup id = none) {dma : Space}
    (fresh : dma ∉ s.spaces.map (·.2)) : Later s { s with spaces := (id, dma) :: s.spaces } where
  bound := by
    constructor
    · rw [List.map_cons, List.nodup_cons]
      refine ⟨fun member => ?_, bound.domains⟩
      obtain ⟨entry, there, same⟩ := List.mem_map.mp member
      have other := List.lookup_eq_none_iff.mp unbound entry there
      rw [same] at other
      simp at other
    · rw [List.map_cons, List.nodup_cons]
      exact ⟨fresh, bound.apart⟩
  spaces id' dma' there := by
    rw [List.lookup_cons]
    by_cases same : id' = id
    · rw [same, unbound] at there
      cases there
    · rw [beq_eq_false_iff_ne.mpr same]
      exact there
  devices := rfl

/-- Domains with the same space are the same. -/
theorem Bound.domain_eq (bound : Bound s) {id id' : U64} {dma : Space}
    (here : s.spaces.lookup id = some dma) (there : s.spaces.lookup id' = some dma) : id = id' := by
  have member : ∀ {id}, s.spaces.lookup id = some dma → (id, dma) ∈ s.spaces := by
    intro id found
    obtain ⟨front, back, whole, -⟩ := List.lookup_eq_some_iff.mp found
    rw [whole]
    exact List.mem_append_right _ List.mem_cons_self
  have same := List.inj_on_of_nodup_map bound.apart (member here) (member there) rfl
  exact congrArg Prod.fst same

/-! ## The functions -/

/-- A device is only located where its resources or its BAR say. -/
theorem located_of_locate {driver : Driver} {place : Place}
    (located : locate types dev = .ok (some (driver, place))) : Located dev place := by
  unfold locate at located
  cases identity : dev.identity with
  | pci pci cfg vendorDevice classCode =>
    rw [identity] at located
    cases vendorDevice with
    | error e => cases located
    | ok vendor =>
      cases classCode with
      | error e => cases located
      | ok code =>
        dsimp only [bind, Except.bind] at located
        split at located
        · cases located
        · split at located
          · rename_i probed
            cases located
            exact .pci identity probed
          · cases located
  | nopci isCompatible =>
    rw [identity] at located
    dsimp only at located
    split at located
    · cases located
    · have found := nopciDev_found dev.resources
      cases known : nopciDev dev.resources with
      | error e =>
        rw [known] at located
        cases located
      | ok place? =>
        rw [known] at located found
        cases found with
        | here whole m i =>
          cases located
          exact .resources identity whole m i
        | nowhere => cases located

/-- A construction fails with its own failure. -/
theorem wp_orThrow {α : Type} {x : BuildM α} {Q : α → State Space → Prop}
    {E : Failure → State Space → Prop} :
    wp (orThrow x) Q E s ↔ (∀ a, x = .ok a → Q a s) ∧ ∀ e, x = .error e → E e s := by
  cases x with
  | ok a =>
    apply Iff.intro
    · intro post
      refine ⟨fun b same => ?_, nofun⟩
      cases same
      exact post
    · exact fun post => post.1 a rfl
  | error e =>
    apply Iff.intro
    · intro post
      refine ⟨nofun, fun b same => ?_⟩
      cases same
      exact post
    · exact fun post => post.2 e rfl

/-- An error of a service is thrown on. -/
theorem wp_chksys {α : Type} {x : Except RuntimeError α} {Q : α → State Space → Prop}
    {E : Failure → State Space → Prop} :
    wp (chksys x) Q E s ↔ (∀ a, x = .ok a → Q a s) ∧ ∀ e, x = .error e → E (.exception e) s := by
  unfold chksys
  rw [wp_orThrow]
  cases x <;> simp [external]

/-- Either the space of the domain is there, or something was refused. -/
theorem createDmaSpace_spec (bound : Bound s) (id : U64) :
    wp (createDmaSpace dev id) (fun dma s' => Later s s' ∧ s'.spaces.lookup id = some dma)
      (fun e s' => Later s s' ∧ e ≠ .divisionByZero ∧ ¬ Answered dev) s := by
  unfold createDmaSpace
  rw [wp_bind, wp_get]
  cases there : s.spaces.lookup id with
  | some dma => exact ⟨bound.later, there⟩
  | none =>
    dsimp only
    rw [wp_bind, wp_chksys]
    refine ⟨fun dma _ => ?_, fun e refused => ⟨bound.later, nofun, fun answered => ?_⟩⟩
    · rw [wp_bind, wp_chksys]
      refine ⟨fun _ _ => ?_, fun e refused => ⟨bound.later, nofun, fun answered => ?_⟩⟩
      · rw [wp_bind, wp_chksys]
        refine ⟨fun _ _ => ?_, fun e refused => ⟨bound.later, nofun, fun answered => ?_⟩⟩
        · exact ⟨bound.bind there dma.2, List.lookup_cons_self⟩
        · rw [answered.assignDomain] at refused
          cases refused
      · rw [answered.createSpace] at refused
        cases refused
    · obtain ⟨space, given⟩ := answered.alloc (s.spaces.map (·.2))
      rw [given] at refused
      cases refused

/-- The constructor runs once, on the answers of the device; the spaces are not touched by it. -/
theorem create_spec (driver : Driver) (clock : U32) :
    wp (create dev driver maxSeg clock)
      (fun built s' => s' = s ∧ construct driver.controller clock maxSeg dev.env = .ok built)
      (fun e s' => s' = s ∧
        (e = .divisionByZero → Divides (construct driver.controller clock maxSeg dev.env)) ∧
        (Answered dev → construct driver.controller clock maxSeg dev.env = .error e)) s := by
  have constructed : wp (orThrow (construct driver.controller clock maxSeg dev.env))
      (fun built s' => s' = s ∧ construct driver.controller clock maxSeg dev.env = .ok built)
      (fun e s' => s' = s ∧
        (e = .divisionByZero → Divides (construct driver.controller clock maxSeg dev.env)) ∧
        (Answered dev → construct driver.controller clock maxSeg dev.env = .error e)) s := by
    refine wp_orThrow.mpr ⟨fun built ok => ⟨rfl, ok⟩, fun e thrown => ⟨rfl, fun zero => ?_, fun _ => thrown⟩⟩
    rw [zero] at thrown
    exact thrown
  unfold create
  dsimp only
  rw [wp_ite]
  refine ⟨fun _ => ?_, fun _ => constructed⟩
  rw [wp_bind, wp_chksys]
  refine ⟨fun _ _ => constructed, fun e refused => ⟨rfl, nofun, fun answered => ?_⟩⟩
  rw [answered.initCpg] at refused
  cases refused

/-- A space is taken from the domain, or bound to it, before the device is created; it stays if the creation
throws. -/
theorem tryCreate_spec (bound : Bound s) {driver : Driver} {place : Place} {domain : U64} {guessed : U32}
    (located : locate types dev = .ok (some (driver, place))) (known : dmaDomain dev.resources = .ok domain)
    (clock : driver.guessClock place.mmioAddr = .ok guessed) :
    wp (tryCreate maxSeg dev driver place domain (hostClock guessed))
      (fun made? s' => Later s s' ∧ ∃ made, made? = some made ∧ Origin types maxSeg dev made ∧
        s'.spaces.lookup made.domain = some made.dma)
      (fun e s' => Later s s' ∧ (e = .divisionByZero → DividesByZero types maxSeg dev) ∧
        ¬ Usable types maxSeg dev) s := by
  unfold tryCreate
  rw [wp_bind]
  apply (createDmaSpace_spec bound domain).mono
  · rintro dma s₁ ⟨later, found⟩
    rw [wp_bind, wp_get, wp_bind, wp_modify, wp_bind]
    have later' : Later s { s₁ with deviceNr := s₁.deviceNr + 1 } :=
      ⟨⟨later.bound.domains, later.bound.apart⟩, later.spaces, later.devices⟩
    apply (create_spec driver (hostClock guessed)).mono
    · rintro built _ ⟨rfl, constructed⟩
      exact ⟨later', _, rfl,
        ⟨located_of_locate located, known, driver, guessed, located, clock, constructed⟩, found⟩
    · rintro e _ ⟨rfl, zero, thrown⟩
      refine ⟨later', fun e => ⟨driver, place, guessed, located, clock, zero e⟩, fun usable => ?_⟩
      obtain ⟨driver', place', guessed', built, located', clock', constructed⟩ := usable.built
      rw [located] at located'
      cases located'
      rw [clock] at clock'
      cases clock'
      rw [thrown usable.answered] at constructed
      cases constructed
  · rintro e s₁ ⟨later, exception, refused⟩
    exact ⟨later, fun zero => absurd zero exception, fun usable => refused usable.answered⟩

/-- Everything that can become of a device. -/
theorem createDev_spec (bound : Bound s) :
    wp (createDev types maxSeg dev)
      (fun made? s' => Later s s' ∧ ¬ Fatal types dev ∧
        (∀ made, made? = some made → Origin types maxSeg dev made ∧
          s'.spaces.lookup made.domain = some made.dma) ∧
        (Usable types maxSeg dev → ∃ made, made? = some made))
      (fun e s' => Later s s' ∧
        ((e = .divisionByZero ∧ DividesByZero types maxSeg dev) ∨ Fatal types dev)) s := by
  unfold createDev
  rw [wp_bind, wp_chksys]
  refine ⟨fun located? here => ?_, fun e missing => ⟨bound.later, Or.inr (.place missing)⟩⟩
  cases located? with
  | none =>
    refine ⟨bound.later, fun fatal => ?_, nofun, fun usable => ?_⟩
    · cases fatal with
      | place e => rw [here] at e; cases e
      | domain e _ => rw [here] at e; cases e
      | clock e _ => rw [here] at e; cases e
    · obtain ⟨_, _, _, _, e, -⟩ := usable.built
      rw [here] at e
      cases e
  | some located =>
    obtain ⟨driver, place⟩ := located
    dsimp only
    rw [wp_bind, wp_chksys]
    refine ⟨fun domain known => ?_, fun e unknown => ⟨bound.later, Or.inr (.domain here unknown)⟩⟩
    rw [wp_bind, wp_chksys]
    refine ⟨fun guessed clock => ?_, fun e unknown => ⟨bound.later, Or.inr (.clock here unknown)⟩⟩
    have survives : ¬ Fatal types dev := by
      intro fatal
      cases fatal with
      | place e => rw [here] at e; cases e
      | domain _ e => rw [known] at e; cases e
      | clock e unknown =>
        rw [here] at e
        cases e
        rw [clock] at unknown
        cases unknown
    rw [wp_tryCatch]
    apply (tryCreate_spec bound here known clock).mono
    · rintro _ s₁ ⟨later, made, rfl, origin, found⟩
      refine ⟨later, survives, fun other same => ?_, fun _ => ⟨made, rfl⟩⟩
      cases same
      exact ⟨origin, found⟩
    · rintro e s₁ ⟨later, zero, refused⟩
      cases e with
      | exception e => exact ⟨later, survives, nofun, fun usable => absurd usable refused⟩
      | divisionByZero => exact ⟨later, Or.inl ⟨rfl, zero rfl⟩⟩

/-! ## The whole bus -/

/-- Every device was created for one of the bus, and works with the space of its domain. -/
structure Sound (types : Types) (maxSeg : U32) (devs : List (BusDevice Space)) (s : State Space) :
    Prop where
  bound : Bound s
  origin : ∀ made ∈ s.devices, ∃ dev ∈ devs, Origin types maxSeg dev made
  space : ∀ made ∈ s.devices, s.spaces.lookup made.domain = some made.dma

/-- Before the scan there are no devices and no spaces. -/
theorem sound_start (devs : List (BusDevice Space)) : Sound types maxSeg devs {} where
  bound := ⟨List.nodup_nil, List.nodup_nil⟩
  origin _ absurd := (List.not_mem_nil absurd).elim
  space _ absurd := (List.not_mem_nil absurd).elim

/-- What is known of the devices stays when more spaces are bound. -/
theorem Sound.later {devs : List (BusDevice Space)} (sound : Sound types maxSeg devs s)
    (later : Later s s') : Sound types maxSeg devs s' where
  bound := later.bound
  origin made member := by
    rw [later.devices] at member
    exact sound.origin made member
  space made member := by
    rw [later.devices] at member
    exact later.spaces _ _ (sound.space made member)

/-- A device joins with the space of its domain. -/
theorem Sound.add {devs : List (BusDevice Space)} (sound : Sound types maxSeg devs s)
    (member : dev ∈ devs) {made : Made Space} (origin : Origin types maxSeg dev made)
    (found : s.spaces.lookup made.domain = some made.dma) :
    Sound types maxSeg devs { s with devices := s.devices ++ [made] } where
  bound := ⟨sound.bound.domains, sound.bound.apart⟩
  origin := forall_concat sound.origin ⟨dev, member, origin⟩
  space := forall_concat sound.space found

/-- None of these ended the driver, and those that are usable were created. -/
def Passed (types : Types) (maxSeg : U32) (read : List (BusDevice Space)) (s : State Space) : Prop :=
  ∀ dev ∈ read, ¬ Fatal types dev ∧
    (Usable types maxSeg dev → ∃ made ∈ s.devices, Origin types maxSeg dev made)

/-- One more device was looked at. -/
theorem Passed.concat {read : List (BusDevice Space)} (passed : Passed types maxSeg read s)
    (more : ∀ made ∈ s.devices, made ∈ s'.devices) (survives : ¬ Fatal types dev)
    (created : Usable types maxSeg dev → ∃ made ∈ s'.devices, Origin types maxSeg dev made) :
    Passed types maxSeg (read ++ [dev]) s' := by
  unfold Passed
  refine forall_concat (fun dev member => ?_) ⟨survives, created⟩
  obtain ⟨survives, created⟩ := passed dev member
  refine ⟨survives, fun usable => ?_⟩
  obtain ⟨made, there, origin⟩ := created usable
  exact ⟨made, more made there, origin⟩

/-- By induction on the devices of the bus, on both exits. -/
theorem discovery_spec (types : Types) (maxSeg : U32) (devs : List (BusDevice Space)) :
    wp (discovery types maxSeg devs)
      (fun _ s => Sound types maxSeg devs s ∧ Passed types maxSeg devs s)
      (fun _ s => Sound types maxSeg devs s ∧
        ∃ dev ∈ devs, DividesByZero types maxSeg dev ∨ Fatal types dev)
      {} := by
  unfold discovery
  apply wp_forM (I := fun read s => Sound types maxSeg devs s ∧ Passed types maxSeg read s)
  · rintro read dev rest s whole ⟨sound, passed⟩
    have member : dev ∈ devs := by
      rw [whole]
      exact List.mem_append_right _ List.mem_cons_self
    rw [wp_bind]
    apply (createDev_spec sound.bound).mono
    · rintro made? s₁ ⟨later, survives, created, usable⟩
      have sound' := sound.later later
      cases made? with
      | none =>
        refine ⟨sound', passed.concat ?_ survives fun able => ?_⟩
        · rw [later.devices]
          exact fun _ there => there
        · obtain ⟨_, absurd⟩ := usable able
          cases absurd
      | some made =>
        obtain ⟨origin, found⟩ := created made rfl
        refine ⟨sound'.add member origin found, passed.concat ?_ survives fun _ => ?_⟩
        · rw [← later.devices]
          exact fun _ there => List.mem_append_left _ there
        · exact ⟨made, List.mem_append_right _ (List.mem_singleton_self _), origin⟩
    · rintro e s₁ ⟨later, cause⟩
      exact ⟨sound.later later, dev, member, cause.imp (·.2) id⟩
  · exact ⟨sound_start devs, fun _ absurd => (List.not_mem_nil absurd).elim⟩

/-- However the discovery ends, the devices that were created are devices of the bus, and two of them share
a DMA space exactly if they belong to the same domain. -/
theorem discovered_devices (types : Types) (maxSeg : U32) (devs : List (BusDevice Space)) :
    (∀ made ∈ (after (discovery types maxSeg devs) {}).devices,
      ∃ dev ∈ devs, Origin types maxSeg dev made) ∧
    ∀ made ∈ (after (discovery types maxSeg devs) {}).devices,
      ∀ made' ∈ (after (discovery types maxSeg devs) {}).devices,
        made.dma = made'.dma ↔ made.domain = made'.domain := by
  have sound : Sound types maxSeg devs (after (discovery types maxSeg devs) {}) :=
    after_of_wp ((discovery_spec types maxSeg devs).mono (fun _ _ post => post.1) fun _ _ post => post.1)
  refine ⟨sound.origin, fun made member made' member' => ?_⟩
  have found := sound.space made member
  have found' := sound.space made' member'
  apply Iff.intro
  · intro same
    rw [← same] at found'
    exact sound.bound.domain_eq found found'
  · intro same
    rw [← same, found] at found'
    exact Option.some.inj found'

/-- Where no construction divides by zero, the discovery comes to its end exactly if no device of the bus
is fatal; then all usable devices were created, whatever became of the others. -/
theorem discovery_ends_iff {types : Types} {maxSeg : U32} {devs : List (BusDevice Space)}
    (divides : ∀ dev ∈ devs, ¬ DividesByZero types maxSeg dev) :
    (returns (discovery types maxSeg devs) {} ↔ ∀ dev ∈ devs, ¬ Fatal types dev) ∧
      (returns (discovery types maxSeg devs) {} → ∀ dev ∈ devs, Usable types maxSeg dev →
        ∃ made ∈ (after (discovery types maxSeg devs) {}).devices, Origin types maxSeg dev made) := by
  have spec := discovery_spec types maxSeg devs
  have passed : returns (discovery types maxSeg devs) {} →
      Passed types maxSeg devs (after (discovery types maxSeg devs) {}) := by
    intro ends
    unfold wp at spec
    unfold returns wp at ends
    unfold after
    cases run : discovery types maxSeg devs {} with
    | ok _ s =>
      rw [run] at spec
      exact spec.2
    | error e s =>
      rw [run] at ends
      exact ends.elim
  refine ⟨⟨fun ends dev member => (passed ends dev member).1, fun survives => ?_⟩,
    fun ends dev member => (passed ends dev member).2⟩
  apply spec.mono (fun _ _ _ => trivial)
  rintro _ _ ⟨-, dev, member, zero | fatal⟩
  · exact divides dev member zero
  · exact survives dev member fatal

/-- The drivers of the repository; the order of the files is the linker's. -/
def registered : Types where
  nopci := [("renesas,sdhi-r8a7796", .emu), ("renesas,sdhi-r8a7795", .rcar3), ("nxp,s32cc-usdhc", .usdhc),
    ("nxp,s32g2-usdhc", .usdhc), ("fsl,s32gen1-usdhc", .usdhc), ("fsl,imx7d-usdhc", .usdhc),
    ("fsl,imx8qm-usdhc", .usdhc), ("fsl,imx8mq-usdhc", .usdhc), ("brcm,bcm2711-emmc2", .iproc)]
  pci := [(0x80501, .plain)]

/-- A uSDHC with its registers at the address. -/
def usdhcAt (mmioAddr : U64) : BusDevice Nat where
  identity := .nopci fun compatible => compatible = "fsl,imx8mq-usdhc"
  resources := [.ok ⟨.mem, mmioAddr, mmioAddr + 0xffff, 0⟩, .ok ⟨.irq, 54, 54, 0⟩]
  alloc used :=
    -- There is one capability.
    if taken : 0 ∈ used then .error ⟨-L4.enomem, "Allocate capability for DMA space."⟩ else .ok ⟨0, taken⟩
  createSpace := .ok ()
  assignDomain := .ok ()
  initCpg := .ok ()
  env := fresh

/-- The clock of a uSDHC at an unknown address is not known, and then the whole driver ends. -/
theorem unknown_usdhc_ends :
    ¬ returns (discovery registered 64 [usdhcAt 0x30b40000, usdhcAt 0x30b70000]) {} := by
  have divides : ∀ dev ∈ [usdhcAt 0x30b40000, usdhcAt 0x30b70000], ¬ DividesByZero registered 64 dev := by
    rintro dev member ⟨driver, place, guessed, located, -, zero⟩
    have usdhc : driver = .usdhc := by
      rcases List.mem_pair.mp member with rfl | rfl
      all_goals
        cases located
        rfl
    rw [usdhc] at zero
    rcases construct_divides.mp zero with zero | ⟨none, -⟩
    · cases zero.bcm
    · cases none
  intro ends
  have survives : ∀ dev ∈ [usdhcAt 0x30b40000, usdhcAt 0x30b70000], ¬ Fatal registered dev :=
    (discovery_ends_iff divides).1.mp ends
  exact survives _ (List.mem_cons_of_mem _ (List.mem_singleton_self _)) (.clock rfl rfl)

end Factory

end Emmc
