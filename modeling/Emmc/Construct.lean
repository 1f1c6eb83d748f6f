import Mathlib.Data.BitVec
import Emmc.SetClock

/-!
# Construction of a device

The constructors of the drivers and of `Device`, as far as they compute something or may throw. What the
system answers (memory, capabilities, the revision of the board) is in `Env`; a division by zero is a
failure of its own.

* `construct`: from the mapping of the registers to the maximum segment size in the last message.
* `construct_divides`: when a divisor is zero; `construct_sound_iff` says so of the command line.
* `construct_config`: what is built of an SDHCI controller is a configuration.
-/

namespace Emmc

namespace Sdhci

namespace RegCap1Sdhci

def bit64V3 : Bitfield 32 := .bit 28
def baseFreq : Bitfield 32 := { lsb := 8, msb := 15 }

end RegCap1Sdhci

end Sdhci

namespace Construct

inductive Failure
  | exception (e : RuntimeError)
  | divisionByZero

abbrev BuildM := Except Failure

def fail {α : Type} (text : String) : BuildM α := .error (.exception ⟨-L4.einval, text⟩)

/-- Throw if the condition holds. -/
def failIf (bad : Prop) [Decidable bad] (text : String) : BuildM Unit :=
  if bad then fail text else .ok ()

/-- What a call of the system returned or threw. -/
def external {α : Type} : Except RuntimeError α → BuildM α
  | .ok a => .ok a
  | .error e => .error (.exception e)

def divide {w : Nat} (a b : BitVec w) : BuildM (BitVec w) :=
  if b = 0 then .error .divisionByZero else .ok (a / b)

/-! ## Arguments -/

/-- The argument of `--max-seg`, as `atoi` returns it. -/
def acceptMaxSeg (i : Int) : Option U32 :=
  if i < 0 ∨ i > 128 then none else some (BitVec.ofInt 32 i)

/-- `parse_args`, as far as it sets `max_seg`: every `--max-seg` replaces the value. -/
def parseMaxSeg (args : List Int) : Option U32 := args.foldlM (fun _ i => acceptMaxSeg i) 64

inductive Controller
  | sdhci (type : SdhciType)
  | sdhi
deriving DecidableEq

/-- The capability `bbds`. -/
structure BounceCap where
  size : U64
  map : Except RuntimeError Mapping
  attach : Except RuntimeError U64

structure Env where
  mapRegs : Except RuntimeError Unit
  /-- DMA address of the memory for descriptors of the given size. -/
  descMem : U64 → Except RuntimeError U64
  tscAvailable : Bool
  cap1 : U32
  sysCtrl : U32
  boardRev : Except RuntimeError SocRev
  ioBuf : Except RuntimeError U64
  irq : Except RuntimeError Unit
  bbds : Option BounceCap

/-! ## The drivers -/

structure Driver where
  hostClock : U32
  writeDelay : U32 := 0
  dmaLimit : U64 := ~~~0
  adma2DescPhys : U64 := 0
  adma2Is64 : Bool := false

section Sdhci

variable (type : SdhciType) (hostClock maxSeg : U32) (env : Env)

def adma2Is64 : Bool := Sdhci.RegCap1Sdhci.bit64V3.test env.cap1

def baseFreq : U32 := Sdhci.RegCap1Sdhci.baseFreq.get env.cap1

def descMemSize : U64 := BitVec.ofNat 64 (Sdhci.adma2DescMemSize type (adma2Is64 env) maxSeg.toNat)

/-- The host clock and the write delay. -/
def initialClock : BuildM (U32 × U32) :=
  if type = .bcm2711 then
    if !env.tscAvailable then fail "Iproc/Bcm2711 require fine-grained clock"
    else if baseFreq env > 0 then do
      let hostClock : U32 := 1000000 * baseFreq env
      let sdClock ← divide hostClock (Sdhci.RegSysCtrl.clockBaseDivider10 env.sysCtrl)
      let writeDelay ← divide (4000000 + sdClock - 1) sdClock
      return (hostClock, writeDelay)
    else return (hostClock, 10)
  else return (hostClock, 0)

/-- `init_platform` -/
def platform : BuildM Platform :=
  match type with
  | .bcm2711 => (external env.boardRev).map (initPlatform .bcm2711)
  | .plain | .usdhc => .ok .fullRange

def sdhciDriver : BuildM Driver := do
  external env.mapRegs
  let descPhys ← external (env.descMem (descMemSize type maxSeg env))
  let clock ← initialClock type hostClock env
  let p ← platform type env
  failIf (dmaAccessible p.dmaLimit descPhys (descMemSize type maxSeg env) = false)
    ("ADMA2 descriptors at " ++ hex08 descPhys ++ "-" ++
      hex08 (descPhys + descMemSize type maxSeg env) ++ " not accessible by DMA")
  return { hostClock := clock.1, writeDelay := clock.2, dmaLimit := p.dmaLimit
           adma2DescPhys := descPhys, adma2Is64 := adma2Is64 env }

end Sdhci

def driver (ctrl : Controller) (hostClock maxSeg : U32) (env : Env) : BuildM Driver :=
  match ctrl with
  | .sdhci type => sdhciDriver type hostClock maxSeg env
  | .sdhi => do
    external env.mapRegs
    return { hostClock }

/-! ## The device -/

structure Bounce where
  phys : U64 := 0
  virt : U64 := 0
  size : U64 := 0

def setupBounceBuffer (dmaLimit : U64) (maxSeg : U32) (cap : BounceCap) : BuildM Bounce := do
  failIf (cap.size.toNat < 64 <<< 10) "Bounce buffer smaller than 64K"
  let map ← external cap.map
  failIf (map.size ≠ cap.size) "Bounce buffer contiguous"
  let virt ← external cap.attach
  let perSegment ← divide map.size (maxSeg.setWidth 64)
  failIf (perSegment.toNat < L4.pageSize) "Bounce buffer is too small for max seg count"
  failIf (dmaAccessible dmaLimit map.phys map.size = false)
    ("Bounce buffer at " ++ hex08 map.phys ++ "-" ++ hex08 (map.phys + map.size) ++
      " not accessible by DMA")
  return { phys := map.phys, virt, size := map.size }

def bounceBufferIfRequired : Controller → Bool
  | .sdhci _ => true
  | .sdhi => false

def claimBounceBuffer (ctrl : Controller) (dmaLimit : U64) (maxSeg : U32) (env : Env) :
    BuildM Bounce :=
  match env.bbds with
  | some cap =>
    if bounceBufferIfRequired ctrl then setupBounceBuffer dmaLimit maxSeg cap else .ok {}
  | none => .ok {}

def maxInoutReqSize : Controller → U64
  | .sdhci type => BitVec.ofNat 64 (Sdhci.maxInoutReqSize type)
  | .sdhi => 4 <<< 20

/-- `Device::max_size` -/
def maxSize (ctrl : Controller) (bb : Bounce) (maxSeg : U32) : BuildM U64 := do
  let sz := if bb.size ≠ 0 then bb.size else maxInoutReqSize ctrl
  let perSegment ← divide sz (maxSeg.setWidth 64)
  return perSegment &&& ~~~(512 - 1)

structure Built where
  drv : Driver
  bb : Bounce
  maxSize : U64

def construct (ctrl : Controller) (hostClock maxSeg : U32) (env : Env) : BuildM Built := do
  let drv ← driver ctrl hostClock maxSeg env
  let ioPhys ← external env.ioBuf
  failIf (dmaAccessible drv.dmaLimit ioPhys 512 = false)
    ("IO buffer at " ++ hex08 ioPhys ++ "-" ++ hex08 (ioPhys + 512) ++ " not accessible by DMA")
  external env.irq
  let bb ← claimBounceBuffer ctrl drv.dmaLimit maxSeg env
  let maxSize ← maxSize ctrl bb maxSeg
  return { drv, bb, maxSize }

/-! ## Where a division by zero comes from -/

/-- The computation divides by zero. -/
def Divides {α : Type} (x : BuildM α) : Prop := x = .error .divisionByZero

section Rules

variable {α β : Type} {x : BuildM α} {f : α → BuildM β}

/-- A sequence divides by zero in its first part, or in its second one behind a first part that succeeds. -/
theorem divides_bind : Divides (x >>= f) ↔ Divides x ∨ ∃ a, x = .ok a ∧ Divides (f a) := by
  unfold Divides
  cases x with
  | ok a =>
    apply Iff.intro
    · exact fun divides => Or.inr ⟨a, rfl, divides⟩
    · intro given
      rcases given with absurd | ⟨a, same, divides⟩
      · cases absurd
      · cases same
        exact divides
  | error e =>
    apply Iff.intro
    · intro divides
      cases divides
      exact Or.inl rfl
    · intro given
      rcases given with same | ⟨a, absurd, -⟩
      · cases same
        rfl
      · cases absurd

/-- It succeeds only if both parts do. -/
theorem ok_bind {b : β} : (x >>= f) = .ok b ↔ ∃ a, x = .ok a ∧ f a = .ok b := by
  cases x with
  | ok a =>
    apply Iff.intro
    · exact fun ok => ⟨a, rfl, ok⟩
    · intro given
      rcases given with ⟨a, same, ok⟩
      cases same
      exact ok
  | error e =>
    apply Iff.intro
    · intro absurd
      cases absurd
    · intro given
      rcases given with ⟨a, absurd, -⟩
      cases absurd

/-- Only the branch that is taken can divide. -/
theorem divides_ite {c : Prop} [Decidable c] {y : BuildM α} :
    Divides (if c then x else y) ↔ (c ∧ Divides x) ∨ (¬ c ∧ Divides y) := by
  split
  · rename_i yes
    simp [yes]
  · rename_i no
    simp [no]

theorem not_divides_ok (a : α) : ¬ Divides (.ok a : BuildM α) := by
  unfold Divides
  intro absurd
  cases absurd

theorem not_divides_pure (a : α) : ¬ Divides (pure a : BuildM α) := not_divides_ok a

/-- An exception is another way to fail than a division by zero. -/
theorem not_divides_fail (text : String) : ¬ Divides (fail text : BuildM α) := by
  unfold Divides fail
  intro absurd
  cases absurd

/-- A construction that throws leaves no object behind. -/
theorem fail_ne_ok (text : String) (a : α) : (fail text : BuildM α) ≠ .ok a := by
  unfold fail
  intro absurd
  cases absurd

/-- A check compares and does not divide. -/
theorem not_divides_failIf (bad : Prop) [Decidable bad] (text : String) :
    ¬ Divides (failIf bad text) := by
  unfold failIf
  split
  · exact not_divides_fail text
  · exact not_divides_ok ()

/-- A check is passed exactly when what it looks for is absent. -/
theorem failIf_ok {bad : Prop} [Decidable bad] {text : String} {u : Unit} :
    failIf bad text = .ok u ↔ ¬ bad := by
  unfold failIf
  split
  · rename_i yes
    exact ⟨fun absurd => (fail_ne_ok _ _ absurd).elim, fun no => absurd yes no⟩
  · rename_i no
    exact ⟨fun _ => no, fun _ => rfl⟩

/-- What the services answer can fail, but it divides nothing here. -/
theorem not_divides_external (outcome : Except RuntimeError α) : ¬ Divides (external outcome) := by
  unfold Divides
  cases outcome <;> intro absurd <;> cases absurd

theorem external_ok {outcome : Except RuntimeError α} {a : α} :
    external outcome = .ok a ↔ outcome = .ok a := by
  cases outcome with
  | ok b =>
    apply Iff.intro
    · intro same
      cases same
      rfl
    · intro same
      cases same
      rfl
  | error e =>
    apply Iff.intro
    · intro absurd
      cases absurd
    · intro absurd
      cases absurd

/-- The divisor is the only thing that decides. -/
theorem divides_divide {w : Nat} {a b : BitVec w} : Divides (divide a b) ↔ b = 0 := by
  unfold divide
  rw [divides_ite]
  apply Iff.intro
  · intro given
    rcases given with ⟨zero, -⟩ | ⟨-, absurd⟩
    · exact zero
    · exact (not_divides_ok _ absurd).elim
  · exact fun zero => Or.inl ⟨zero, rfl⟩

/-- With another divisor the quotient is the one of the machine. -/
theorem divide_ok {w : Nat} {a b c : BitVec w} : divide a b = .ok c ↔ b ≠ 0 ∧ a / b = c := by
  unfold divide
  split
  · rename_i zero
    apply Iff.intro
    · intro absurd
      cases absurd
    · exact fun both => absurd zero both.1
  · rename_i some
    apply Iff.intro
    · intro same
      cases same
      exact ⟨some, rfl⟩
    · intro given
      rcases given with ⟨-, rfl⟩
      rfl

end Rules

/-! ### The initial clock -/

section Clock

variable {type : SdhciType} {hostClock : U32} {env : Env}

/-- The second divisor is not zero. -/
theorem sdClock_ne_zero {base divider : U32} (some : base > 0) (small : base.toNat < 256)
    (narrow : divider.toNat < 2048) (nonzero : divider ≠ 0) : 1000000 * base / divider ≠ 0 := by
  have positive : 0 < base.toNat := BitVec.lt_def.mp some
  have divisor : divider.toNat ≠ 0 := fun zero => nonzero (BitVec.eq_of_toNat_eq zero)
  intro zero
  have value := congrArg BitVec.toNat zero
  have product : (1000000 * base).toNat = 1000000 * base.toNat :=
    BitVec.toNat_mul_of_lt (show 1000000 * base.toNat < _ by omega)
  rw [BitVec.toNat_udiv, product] at value
  have none : 1000000 * base.toNat / divider.toNat = 0 := value
  rw [Nat.div_eq_zero_iff] at none
  omega

/-- The divisor from the system control register. -/
structure ZeroDivider (type : SdhciType) (env : Env) : Prop where
  type : type = .bcm2711
  tsc : env.tscAvailable = true
  capable : baseFreq env > 0
  divider : Sdhci.RegSysCtrl.clockBaseDivider10 env.sysCtrl = 0

/-- The decoder yields twice a field of ten bits. -/
theorem clockBaseDivider10_lt (raw : U32) :
    (Sdhci.RegSysCtrl.clockBaseDivider10 raw).toNat < 2048 := by
  have low : (Sdhci.RegSysCtrl.clkFreq8.get raw).toNat < 256 := Bitfield.toNat_get_lt _ raw
  have high : (Sdhci.RegSysCtrl.clkFreqMs2.get raw).toNat < 4 := Bitfield.toNat_get_lt _ raw
  rw [(Sdhci.clockBaseDivider10_fits raw).2]
  omega

theorem baseFreq_lt : (baseFreq env).toNat < 256 := Sdhci.RegCap1Sdhci.baseFreq.toNat_get_lt env.cap1

variable (hostClock) in
/-- Of the two divisions, only the first one can be by zero: it divides by the decoded field. -/
theorem initialClock_divides : Divides (initialClock type hostClock env) ↔ ZeroDivider type env := by
  unfold initialClock
  simp only [divides_ite, divides_bind, divides_divide, divide_ok, not_divides_fail, not_divides_pure,
    and_false, or_false, false_or, exists_false, Bool.not_eq_true', Bool.not_eq_false]
  apply Iff.intro
  · intro given
    rcases given with ⟨bcm, tsc, capable, zero | ⟨sdClock, ⟨nonzero, rfl⟩, zero⟩⟩
    · exact ⟨bcm, tsc, capable, zero⟩
    · exact (sdClock_ne_zero capable baseFreq_lt (clockBaseDivider10_lt _) nonzero zero).elim
  · intro given
    rcases given with ⟨bcm, tsc, capable, zero⟩
    exact ⟨bcm, tsc, capable, Or.inl zero⟩

variable (hostClock) in
/-- The initial clock is there unless a bcm2711 has no time stamp counter or a divisor is zero. -/
theorem initialClock_ok : (∃ clock, initialClock type hostClock env = .ok clock) ↔
    (type = .bcm2711 → env.tscAvailable = true) ∧ ¬ ZeroDivider type env := by
  apply Iff.intro
  · intro given
    rcases given with ⟨clock, ok⟩
    apply And.intro
    · intro bcm
      by_contra off
      unfold initialClock at ok
      rw [if_pos bcm, if_pos (by simpa using off)] at ok
      exact fail_ne_ok _ _ ok
    · intro zero
      have divides := (initialClock_divides hostClock).mpr zero
      unfold Divides at divides
      rw [ok] at divides
      cases divides
  · intro given
    rcases given with ⟨tsc, nonzero⟩
    unfold initialClock
    split
    · rename_i bcm
      rw [if_neg (by rw [tsc bcm]; exact Bool.false_ne_true)]
      split
      · rename_i capable
        have divider : Sdhci.RegSysCtrl.clockBaseDivider10 env.sysCtrl ≠ 0 :=
          fun zero => nonzero ⟨bcm, tsc bcm, capable, zero⟩
        have sdClock := sdClock_ne_zero capable baseFreq_lt (clockBaseDivider10_lt _) divider
        exact ⟨_, ok_bind.mpr ⟨_, divide_ok.mpr ⟨divider, rfl⟩,
          ok_bind.mpr ⟨_, divide_ok.mpr ⟨sdClock, rfl⟩, rfl⟩⟩⟩
      · exact ⟨_, rfl⟩
    · exact ⟨_, rfl⟩

end Clock

/-! ### The driver -/

section Driver

/-- The platform is set up with `p`. -/
def PlatformUp (type : SdhciType) (env : Env) (p : Platform) : Prop :=
  match type with
  | .bcm2711 => ∃ rev, env.boardRev = .ok rev ∧ initPlatform .bcm2711 rev = p
  | .plain | .usdhc => p = .fullRange

/-- The constructor of the driver returns, with this DMA limit. -/
def DriverUp (maxSeg : U32) (env : Env) (dmaLimit : U64) : Controller → Prop
  | .sdhci type => env.mapRegs = .ok () ∧
    (∃ descPhys, env.descMem (descMemSize type maxSeg env) = .ok descPhys ∧
      dmaAccessible dmaLimit descPhys (descMemSize type maxSeg env) = true) ∧
    ((type = .bcm2711 → env.tscAvailable = true) ∧ ¬ ZeroDivider type env) ∧
    ∃ p, PlatformUp type env p ∧ p.dmaLimit = dmaLimit
  | .sdhi => env.mapRegs = .ok () ∧ dmaLimit = ~~~0

variable {type : SdhciType} {maxSeg : U32} {env : Env}

/-- The firmware of a bcm2711 must have answered; the other controllers need nothing. -/
theorem platform_ok {p : Platform} : platform type env = .ok p ↔ PlatformUp type env p := by
  cases type with
  | bcm2711 =>
    unfold platform PlatformUp
    cases env.boardRev with
    | ok rev =>
      apply Iff.intro
      · intro same
        cases same
        exact ⟨rev, rfl, rfl⟩
      · intro given
        rcases given with ⟨rev, same, rfl⟩
        cases same
        rfl
    | error e =>
      apply Iff.intro
      · intro absurd
        cases absurd
      · intro given
        rcases given with ⟨rev, absurd, -⟩
        cases absurd
  | plain => exact ⟨fun same => (Except.ok.inj same).symm, fun same => congrArg _ same.symm⟩
  | usdhc => exact ⟨fun same => (Except.ok.inj same).symm, fun same => congrArg _ same.symm⟩

/-- The platform has no quotients. -/
theorem not_divides_platform : ¬ Divides (platform type env) := by
  unfold platform Divides
  cases type with
  | bcm2711 => cases env.boardRev <;> intro absurd <;> cases absurd
  | plain => exact not_divides_ok _
  | usdhc => exact not_divides_ok _

/-- A driver divides by zero behind the two steps that come first: its registers are mapped and its
descriptors have memory. -/
theorem driver_divides (ctrl : Controller) (hostClock : U32) :
    Divides (driver ctrl hostClock maxSeg env) ↔ ∃ type, ctrl = .sdhci type ∧
      env.mapRegs = .ok () ∧ (∃ descPhys, env.descMem (descMemSize type maxSeg env) = .ok descPhys) ∧
      ZeroDivider type env := by
  cases ctrl with
  | sdhi =>
    unfold driver
    simp only [divides_bind, not_divides_external, not_divides_pure, and_false, exists_false, or_false,
      reduceCtorEq, false_and]
  | sdhci type =>
    unfold driver sdhciDriver
    simp only [divides_bind, not_divides_external, not_divides_pure, not_divides_failIf,
      not_divides_platform, initialClock_divides, external_ok, and_false, exists_false, or_false,
      false_or, Controller.sdhci.injEq]
    apply Iff.intro
    · intro given
      rcases given with ⟨_, mapped, descPhys, allocated, zero⟩
      exact ⟨type, rfl, mapped, ⟨descPhys, allocated⟩, zero⟩
    · intro given
      rcases given with ⟨_, rfl, mapped, ⟨descPhys, allocated⟩, zero⟩
      exact ⟨(), mapped, descPhys, allocated, zero⟩

/-- A driver is built exactly when all its steps succeed, and then its limit for DMA is that of the
platform. -/
theorem driver_ok (ctrl : Controller) (hostClock : U32) {dmaLimit : U64} :
    (∃ d, driver ctrl hostClock maxSeg env = .ok d ∧ d.dmaLimit = dmaLimit) ↔
      DriverUp maxSeg env dmaLimit ctrl := by
  cases ctrl with
  | sdhi =>
    unfold driver DriverUp
    apply Iff.intro
    · intro given
      rcases given with ⟨d, built, rfl⟩
      obtain ⟨_, mapped, same⟩ := ok_bind.mp built
      cases same
      exact ⟨external_ok.mp mapped, rfl⟩
    · intro given
      rcases given with ⟨mapped, rfl⟩
      exact ⟨_, ok_bind.mpr ⟨(), external_ok.mpr mapped, rfl⟩, rfl⟩
  | sdhci type =>
    unfold driver sdhciDriver
    apply Iff.intro
    · intro given
      rcases given with ⟨d, built, rfl⟩
      obtain ⟨_, mapped, built⟩ := ok_bind.mp built
      obtain ⟨descPhys, allocated, built⟩ := ok_bind.mp built
      obtain ⟨clock, running, built⟩ := ok_bind.mp built
      obtain ⟨p, board, built⟩ := ok_bind.mp built
      obtain ⟨_, inside, same⟩ := ok_bind.mp built
      cases same
      exact ⟨external_ok.mp mapped,
        ⟨descPhys, external_ok.mp allocated, Bool.not_eq_false _ |>.mp (failIf_ok.mp inside)⟩,
        (initialClock_ok hostClock).mp ⟨clock, running⟩, p, platform_ok.mp board, rfl⟩
    · intro given
      rcases given with ⟨mapped, ⟨descPhys, allocated, inside⟩, fine, p, board, rfl⟩
      obtain ⟨clock, running⟩ := (initialClock_ok hostClock).mpr fine
      refine ⟨_, ok_bind.mpr ⟨(), external_ok.mpr mapped, ok_bind.mpr ⟨descPhys,
        external_ok.mpr allocated, ok_bind.mpr ⟨clock, running, ok_bind.mpr ⟨p,
        platform_ok.mpr board, ok_bind.mpr ⟨(), failIf_ok.mpr ?_, rfl⟩⟩⟩⟩⟩, rfl⟩
      rw [inside]
      exact Bool.true_eq_false_eq_False

end Driver

/-! ### The device -/

/-- The IO buffer and the interrupt are set up. -/
def DeviceUp (env : Env) (dmaLimit : U64) : Prop :=
  (∃ ioPhys, env.ioBuf = .ok ioPhys ∧ dmaAccessible dmaLimit ioPhys 512 = true) ∧ env.irq = .ok ()

/-- No bounce buffer is used, or it is mapped and attached. -/
def BounceUp (ctrl : Controller) (env : Env) : Prop :=
  ∀ cap, env.bbds = some cap → bounceBufferIfRequired ctrl = true →
    64 <<< 10 ≤ cap.size.toNat ∧ (∃ map, cap.map = .ok map ∧ map.size = cap.size) ∧
      ∃ virt, cap.attach = .ok virt

section Device

variable {maxSeg : U32}

/-- The divisor is widened before the division, and zero stays zero. -/
theorem setWidth_eq_zero : maxSeg.setWidth 64 = 0 ↔ maxSeg = 0 := by
  apply Iff.intro
  · intro zero
    apply BitVec.eq_of_toNat_eq
    have value := congrArg BitVec.toNat zero
    rw [BitVec.toNat_setWidth_of_le (by decide)] at value
    exact value
  · intro zero
    rw [zero]
    rfl

/-- The bounce buffer is split among the segments after it was found large enough, mapped and attached. -/
theorem setupBounceBuffer_divides {dmaLimit : U64} {cap : BounceCap} :
    Divides (setupBounceBuffer dmaLimit maxSeg cap) ↔
      (64 <<< 10 ≤ cap.size.toNat ∧ (∃ map, cap.map = .ok map ∧ map.size = cap.size) ∧
        ∃ virt, cap.attach = .ok virt) ∧ maxSeg = 0 := by
  unfold setupBounceBuffer
  simp only [divides_bind, divides_divide, not_divides_external, not_divides_pure, not_divides_failIf,
    external_ok, failIf_ok, and_false, exists_false, or_false, false_or, setWidth_eq_zero,
    Nat.not_lt, not_not, exists_const]
  apply Iff.intro
  · intro given
    rcases given with ⟨large, map, mapped, same, virt, attached, zero⟩
    exact ⟨⟨large, ⟨map, mapped, same⟩, virt, attached⟩, zero⟩
  · intro given
    rcases given with ⟨⟨large, ⟨map, mapped, same⟩, virt, attached⟩, zero⟩
    exact ⟨large, map, mapped, same, virt, attached, zero⟩

/-- The largest request is split among the segments as well, with or without a bounce buffer. -/
theorem maxSize_divides {ctrl : Controller} {bb : Bounce} :
    Divides (maxSize ctrl bb maxSeg) ↔ maxSeg = 0 := by
  unfold maxSize
  simp only [divides_bind, divides_divide, not_divides_pure, and_false, exists_false, or_false,
    setWidth_eq_zero]

/-- The two divisions by the number of segments. -/
theorem segments_divide {ctrl : Controller} {dmaLimit : U64} {env : Env} :
    (Divides (claimBounceBuffer ctrl dmaLimit maxSeg env) ∨
      ∃ bb, claimBounceBuffer ctrl dmaLimit maxSeg env = .ok bb ∧ Divides (maxSize ctrl bb maxSeg)) ↔
      BounceUp ctrl env ∧ maxSeg = 0 := by
  unfold claimBounceBuffer BounceUp
  simp only [maxSize_divides]
  cases env.bbds with
  | none =>
    apply Iff.intro
    · intro given
      rcases given with absurd | ⟨bb, -, zero⟩
      · exact (not_divides_ok _ absurd).elim
      · exact ⟨fun _ absurd => (Option.some_ne_none _ absurd.symm).elim, zero⟩
    · exact fun both => Or.inr ⟨{}, rfl, both.2⟩
  | some cap =>
    cases required : bounceBufferIfRequired ctrl with
    | false =>
      apply Iff.intro
      · intro given
        rcases given with absurd | ⟨bb, -, zero⟩
        · exact (not_divides_ok _ absurd).elim
        · exact ⟨fun _ _ absurd => (Bool.false_ne_true absurd).elim, zero⟩
      · exact fun both => Or.inr ⟨{}, rfl, both.2⟩
    | true =>
      show (Divides (setupBounceBuffer dmaLimit maxSeg cap) ∨
        ∃ bb, setupBounceBuffer dmaLimit maxSeg cap = .ok bb ∧ maxSeg = 0) ↔ _
      rw [setupBounceBuffer_divides]
      apply Iff.intro
      · intro given
        rcases given with ⟨up, zero⟩ | ⟨bb, built, zero⟩
        · exact ⟨fun _ same _ => Option.some.inj same ▸ up, zero⟩
        · -- with no segments the division before the return is by zero
          unfold setupBounceBuffer at built
          obtain ⟨_, -, built⟩ := ok_bind.mp built
          obtain ⟨map, -, built⟩ := ok_bind.mp built
          obtain ⟨_, -, built⟩ := ok_bind.mp built
          obtain ⟨virt, -, built⟩ := ok_bind.mp built
          obtain ⟨perSegment, divided, -⟩ := ok_bind.mp built
          exact absurd (setWidth_eq_zero.mpr zero) (divide_ok.mp divided).1
      · intro given
        rcases given with ⟨up, zero⟩
        exact Or.inl ⟨up cap rfl rfl, zero⟩

end Device

/-! ### The result -/

/-- The construction comes to the divisor of the clock, and it is zero. -/
structure ZeroClock (ctrl : Controller) (maxSeg : U32) (env : Env) : Prop where
  bcm : ctrl = .sdhci .bcm2711
  mapped : env.mapRegs = .ok ()
  allocated : ∃ descPhys, env.descMem (descMemSize .bcm2711 maxSeg env) = .ok descPhys
  zero : ZeroDivider .bcm2711 env

/-- Nothing fails before the construction divides by the number of segments. -/
structure ReachesSegments (ctrl : Controller) (maxSeg : U32) (env : Env) : Prop where
  up : ∃ dmaLimit, DriverUp maxSeg env dmaLimit ctrl ∧ DeviceUp env dmaLimit
  bounce : BounceUp ctrl env

/-- A construction divides by zero in the driver's clock or by the number of segments, and nowhere else. -/
theorem construct_divides {ctrl : Controller} {hostClock maxSeg : U32} {env : Env} :
    Divides (construct ctrl hostClock maxSeg env) ↔
      ZeroClock ctrl maxSeg env ∨ (maxSeg = 0 ∧ ReachesSegments ctrl maxSeg env) := by
  unfold construct
  rw [divides_bind, driver_divides]
  have clock : (∃ type, ctrl = .sdhci type ∧ env.mapRegs = .ok () ∧
      (∃ descPhys, env.descMem (descMemSize type maxSeg env) = .ok descPhys) ∧
      ZeroDivider type env) ↔ ZeroClock ctrl maxSeg env := by
    apply Iff.intro
    · intro given
      rcases given with ⟨type, rfl, mapped, allocated, zero⟩
      cases zero.type
      exact ⟨rfl, mapped, allocated, zero⟩
    · intro given
      rcases given with ⟨rfl, mapped, allocated, zero⟩
      exact ⟨.bcm2711, rfl, mapped, allocated, zero⟩
  rw [clock]
  apply or_congr_right
  apply Iff.intro
  · intro given
    rcases given with ⟨drv, built, divides⟩
    have up := (driver_ok ctrl hostClock).mp ⟨drv, built, rfl⟩
    rcases divides_bind.mp divides with absurd | ⟨ioPhys, allocated, divides⟩
    · exact (not_divides_external _ absurd).elim
    rcases divides_bind.mp divides with absurd | ⟨_, inside, divides⟩
    · exact (not_divides_failIf _ _ absurd).elim
    rcases divides_bind.mp divides with absurd | ⟨_, bound, divides⟩
    · exact (not_divides_external _ absurd).elim
    simp only [divides_bind, not_divides_pure, and_false, exists_false, or_false] at divides
    obtain ⟨bounce, none⟩ := segments_divide.mp divides
    refine ⟨none, ⟨drv.dmaLimit, up, ⟨ioPhys, external_ok.mp allocated, ?_⟩,
      external_ok.mp bound⟩, bounce⟩
    simpa using failIf_ok.mp inside
  · intro given
    rcases given with ⟨none, ⟨dmaLimit, up, ⟨ioPhys, allocated, inside⟩, bound⟩, bounce⟩
    obtain ⟨drv, built, rfl⟩ := (driver_ok ctrl hostClock).mpr up
    refine ⟨drv, built, ?_⟩
    refine divides_bind.mpr (Or.inr ⟨ioPhys, external_ok.mpr allocated, ?_⟩)
    refine divides_bind.mpr (Or.inr ⟨(), failIf_ok.mpr ?_, ?_⟩)
    · rw [inside]
      exact Bool.true_eq_false_eq_False
    refine divides_bind.mpr (Or.inr ⟨(), external_ok.mpr bound, ?_⟩)
    simp only [divides_bind, not_divides_pure, and_false, exists_false, or_false]
    exact segments_divide.mpr ⟨bounce, none⟩

/-- A zero is not rejected, and no other value becomes zero in 32 bits. -/
theorem acceptMaxSeg_zero {i : Int} {maxSeg : U32} (accepted : acceptMaxSeg i = some maxSeg) :
    maxSeg = 0 ↔ i = 0 := by
  unfold acceptMaxSeg at accepted
  split at accepted
  · cases accepted
  · rename_i inside
    cases accepted
    have value : (BitVec.ofInt 32 i).toNat = i.toNat := by
      rw [BitVec.toNat_ofInt]
      omega
    apply Iff.intro
    · intro zero
      rw [zero] at value
      have none : 0 = i.toNat := value
      omega
    · intro zero
      rw [zero]
      rfl

/-- The last `--max-seg` counts. -/
theorem parseMaxSeg_last {args : List Int} {maxSeg : U32} (accepted : parseMaxSeg args = some maxSeg) :
    (args = [] ∧ maxSeg = 64) ∨ ∃ last, args.getLast? = some last ∧ acceptMaxSeg last = some maxSeg := by
  unfold parseMaxSeg at accepted
  cases args using List.reverseRecOn with
  | nil =>
    cases accepted
    exact Or.inl ⟨rfl, rfl⟩
  | append_singleton front last =>
    rw [List.foldlM_append] at accepted
    obtain ⟨before, -, accepted⟩ := Option.bind_eq_some_iff.mp accepted
    rw [List.foldlM_cons] at accepted
    obtain ⟨after, taken, same⟩ := Option.bind_eq_some_iff.mp accepted
    cases same
    exact Or.inr ⟨last, List.getLast?_concat, taken⟩

/-- What `--max-seg` leaves behind. -/
theorem parseMaxSeg_zero {args : List Int} {maxSeg : U32}
    (accepted : parseMaxSeg args = some maxSeg) : maxSeg = 0 ↔ args.getLast? = some 0 := by
  rcases parseMaxSeg_last accepted with ⟨rfl, rfl⟩ | ⟨last, there, taken⟩
  · decide
  · rw [there, Option.some_inj]
    exact acceptMaxSeg_zero taken

/-- No division by zero is reached if and only if the decoder of the clock is not zero where it is a
divisor, and the last `--max-seg` is not zero where the construction comes to the segments. -/
theorem construct_sound_iff {args : List Int} {maxSeg : U32}
    (accepted : parseMaxSeg args = some maxSeg) (ctrl : Controller) (hostClock : U32) (env : Env) :
    ¬ Divides (construct ctrl hostClock maxSeg env) ↔
      ¬ ZeroClock ctrl maxSeg env ∧
        ¬ (args.getLast? = some 0 ∧ ReachesSegments ctrl maxSeg env) := by
  rw [construct_divides, parseMaxSeg_zero accepted]
  exact not_or

/-! ## Configurations -/

/-- The configuration is the one of the device that was built. -/
structure Configures (s : Sdhci) (type : SdhciType) (maxSeg : U32) (built : Built) : Prop where
  type : s.type = type
  maxSeg : s.maxSeg = maxSeg.toNat
  dmaLimit : s.dmaLimit = built.drv.dmaLimit
  adma2Is64 : s.adma2Is64 = built.drv.adma2Is64
  adma2DescPhys : s.adma2DescPhys = built.drv.adma2DescPhys
  bbPhys : s.bbPhys = built.bb.phys
  bbVirt : s.bbVirt = built.bb.virt
  bbSize : s.bbSize = built.bb.size

/-- What is accepted is at most 128. -/
theorem acceptMaxSeg_le {i : Int} {maxSeg : U32} (accepted : acceptMaxSeg i = some maxSeg) :
    maxSeg.toNat ≤ 128 := by
  unfold acceptMaxSeg at accepted
  split at accepted
  · cases accepted
  · cases accepted
    rw [BitVec.toNat_ofInt]
    omega

/-- So is the default, 64, that stays without an option. -/
theorem parseMaxSeg_le {args : List Int} {maxSeg : U32} (accepted : parseMaxSeg args = some maxSeg) :
    maxSeg.toNat ≤ 128 := by
  rcases parseMaxSeg_last accepted with ⟨-, rfl⟩ | ⟨last, -, taken⟩
  · decide
  · exact acceptMaxSeg_le taken

/-- What the driver has checked of the descriptors. -/
theorem sdhciDriver_checked {type : SdhciType} {hostClock maxSeg : U32} {env : Env} {d : Driver}
    (built : sdhciDriver type hostClock maxSeg env = .ok d) :
    ∃ rev, (initPlatform type rev).dmaLimit = d.dmaLimit ∧
      dmaAccessible d.dmaLimit d.adma2DescPhys
        (BitVec.ofNat 64 (Sdhci.adma2DescMemSize type d.adma2Is64 maxSeg.toNat)) = true := by
  unfold sdhciDriver at built
  obtain ⟨_, -, built⟩ := ok_bind.mp built
  obtain ⟨descPhys, -, built⟩ := ok_bind.mp built
  obtain ⟨clock, -, built⟩ := ok_bind.mp built
  obtain ⟨p, board, built⟩ := ok_bind.mp built
  obtain ⟨_, inside, same⟩ := ok_bind.mp built
  cases same
  have accessible := Bool.not_eq_false _ |>.mp (failIf_ok.mp inside)
  have up := platform_ok.mp board
  cases type with
  | bcm2711 =>
    obtain ⟨rev, -, same⟩ := up
    exact ⟨rev, by rw [same], accessible⟩
  | plain => exact ⟨⟨false, 0, 0⟩, by rw [up]; rfl, accessible⟩
  | usdhc => exact ⟨⟨false, 0, 0⟩, by rw [up]; rfl, accessible⟩

/-- What has been checked of the bounce buffer, if there is one. -/
theorem claimBounceBuffer_checked {ctrl : Controller} {dmaLimit : U64} {maxSeg : U32} {env : Env}
    {bb : Bounce} (claimed : claimBounceBuffer ctrl dmaLimit maxSeg env = .ok bb) :
    bb.size ≠ 0 → 64 <<< 10 ≤ bb.size.toNat ∧ L4.pageSize ≤ bb.size.toNat / maxSeg.toNat ∧
      bb.phys.toNat + bb.size.toNat ≤ 2 ^ 64 ∧ dmaAccessible dmaLimit bb.phys bb.size = true := by
  intro provided
  unfold claimBounceBuffer at claimed
  split at claimed
  · split at claimed
    · unfold setupBounceBuffer at claimed
      obtain ⟨_, large, claimed⟩ := ok_bind.mp claimed
      obtain ⟨map, -, claimed⟩ := ok_bind.mp claimed
      obtain ⟨_, contiguous, claimed⟩ := ok_bind.mp claimed
      obtain ⟨virt, -, claimed⟩ := ok_bind.mp claimed
      obtain ⟨perSegment, divided, claimed⟩ := ok_bind.mp claimed
      obtain ⟨_, pages, claimed⟩ := ok_bind.mp claimed
      obtain ⟨_, inside, result⟩ := ok_bind.mp claimed
      cases result
      refine ⟨?_, ?_, map.fits, Bool.not_eq_false _ |>.mp (failIf_ok.mp inside)⟩
      · show 64 <<< 10 ≤ map.size.toNat
        rw [not_not.mp (failIf_ok.mp contiguous)]
        exact Nat.le_of_not_lt (failIf_ok.mp large)
      · have quotient : perSegment.toNat = map.size.toNat / maxSeg.toNat := by
          rw [← (divide_ok.mp divided).2, BitVec.toNat_udiv, BitVec.toNat_setWidth_of_le (by decide)]
        show L4.pageSize ≤ map.size.toNat / maxSeg.toNat
        rw [← quotient]
        exact Nat.le_of_not_lt (failIf_ok.mp pages)
    · cases claimed
      exact absurd rfl provided
  · cases claimed
    exact absurd rfl provided

/-- A construction that succeeds has checked everything that a configuration promises. -/
theorem construct_config {args : List Int} {type : SdhciType} {hostClock maxSeg : U32} {env : Env}
    {built : Built} (accepted : parseMaxSeg args = some maxSeg)
    (done : construct (.sdhci type) hostClock maxSeg env = .ok built) :
    ∃ s : Sdhci, Configures s type maxSeg built := by
  unfold construct at done
  obtain ⟨drv, up, done⟩ := ok_bind.mp done
  obtain ⟨_, -, done⟩ := ok_bind.mp done
  obtain ⟨_, -, done⟩ := ok_bind.mp done
  obtain ⟨_, -, done⟩ := ok_bind.mp done
  obtain ⟨bb, claimed, done⟩ := ok_bind.mp done
  obtain ⟨size, sized, same⟩ := ok_bind.mp done
  cases same
  unfold maxSize at sized
  obtain ⟨_, divided, -⟩ := ok_bind.mp sized
  obtain ⟨rev, limit, descriptors⟩ := sdhciDriver_checked up
  have bounce := claimBounceBuffer_checked claimed
  have some : 0 < maxSeg.toNat := by
    apply Nat.pos_of_ne_zero
    intro zero
    apply (divide_ok.mp divided).1
    rw [BitVec.eq_of_toNat_eq (y := (0 : U32)) zero]
    rfl
  rw [← limit] at descriptors bounce
  exact ⟨{ type, socRev := rev, maxSeg := maxSeg.toNat, adma2Is64 := drv.adma2Is64,
           adma2DescPhys := drv.adma2DescPhys, bbPhys := bb.phys, bbVirt := bb.virt, bbSize := bb.size,
           segments := ⟨some, parseMaxSeg_le accepted⟩, descriptors, bounce },
    rfl, rfl, limit, rfl, rfl, rfl, rfl, rfl⟩

/-! ## Zero divisors -/

/-- A board that was started with the clock field at zero. -/
def fresh : Env where
  mapRegs := .ok ()
  descMem := fun _ => .ok 0x10000
  tscAvailable := true
  cap1 := 0x6400
  sysCtrl := 0
  boardRev := .ok { newStyle := true, type := 0x11, revision := 3 }
  ioBuf := .ok 0x2000
  irq := .ok ()
  bbds := none

/-- The equivalence at a uSDHC whose decoder is not zero. -/
theorem construct_sound_fresh :
    ¬ Divides (construct (.sdhci .usdhc) 400000000 64 fresh) ↔
      ¬ ZeroClock (.sdhci .usdhc) 64 fresh ∧
        ¬ ((([64] : List Int).getLast? = some 0) ∧ ReachesSegments (.sdhci .usdhc) 64 fresh) :=
  construct_sound_iff (by decide) _ _ _

/-- Without an option the clock divides by zero, and with `--max-seg=0` another driver does. -/
theorem construct_divides_by_zero :
    (parseMaxSeg [] = some 64 ∧ Divides (construct (.sdhci .bcm2711) 0 64 fresh)) ∧
      (parseMaxSeg [0] = some 0 ∧ Divides (construct .sdhi 0 0 fresh)) :=
  ⟨⟨rfl, rfl⟩, ⟨rfl, rfl⟩⟩

end Construct

end Emmc
