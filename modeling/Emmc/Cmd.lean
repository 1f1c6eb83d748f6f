import Emmc.Mmc

/-!
# eMMC command context

`Cmd` is the context of one command slot. A setup command is initialised by `initArg` and executed
synchronously; an in/out request is initialised by `initInout` and then turns its slot into one
command after the other (`reinitInoutNodata`, `reinitInoutData`) until the block list is done.
-/

namespace Emmc

/-- One segment of an in/out request. The C++ list is linked by `next`; here a list of blocks. -/
structure Block where
  dmaAddr : U64
  virtAddr : U64
  numSectors : U32
deriving DecidableEq, Repr

/-- The completion callback handed over with a request, by the name its caller gave it. -/
abbrev Callback := Nat

inductive Status
  | success
  | progressCmd
  | progressData
  | dataPartial
  | tuningProgress
  | uninitialized
  | readyForSubmit
  | error
  | cmdTimeout
  | cmdError
  | dataError
  | tuningFailed
deriving DecidableEq, Repr

/-- The numbers of `Cmd::Status`: errors, and commands not submitted yet, are negative. -/
def Status.toInt : Status → Int
  | .success => 0
  | .progressCmd => 1
  | .progressData => 2
  | .dataPartial => 3
  | .tuningProgress => 4
  | .uninitialized => -1
  | .readyForSubmit => -2
  | .error => -3
  | .cmdTimeout => -4
  | .cmdError => -5
  | .dataError => -6
  | .tuningFailed => -7

/-- The one-bit fields of `Cmd::Flags`. -/
structure Flags where
  readFromBounceBuffer : Bool := false
  appCmd : Bool := false
  autoCmd23 : Bool := false
  inoutRead : Bool := false
  inoutCmd12 : Bool := false
  inout : Bool := false
  expectedError : Bool := false
  hasR1Response : Bool := false
  statusAfterSwitch : Bool := false
  hasData : Bool := false
  enqueued : Bool := false
deriving DecidableEq, Repr

/-- Reset all flags except `enqueued`. -/
def Flags.reset (flags : Flags) : Flags := { enqueued := flags.enqueued }

/-- A response has four words. -/
instance neZero_four : NeZero 4 := ⟨by decide⟩

structure Cmd where
  status : Status := .uninitialized
  statusCmd12 : Status := .uninitialized
  cmd : U32 := 0
  arg : U32 := 0
  flags : Flags := {}
  blockcnt : U32 := 0
  blocksize : U32 := 0
  dataPhys : U32 := 0
  dataVirt : U64 := 0
  resp : Fin 4 → U32 := fun _ => 0
  sector : U32 := 0
  sectorsDone : U32 := 0
  blocks : List Block := []
  cbIo : Option Callback := none

namespace Cmd

instance : Inhabited Cmd := ⟨{}⟩

def error (c : Cmd) : Bool := c.status.toInt < 0

/-- The command was submitted and ended with an error. -/
def failed (c : Cmd) : Bool := c.status.toInt < -2

def checkError (c : Cmd) (text : String) : Except RuntimeError Unit :=
  if c.error then .error ⟨-L4.eio, text⟩ else .ok ()

def progress (c : Cmd) : Bool := c.status = .progressCmd ∨ c.status = .progressData

/-- Command with argument. -/
def initArg (c : Cmd) (cmdVal argVal : U32) : Cmd :=
  { c with cmd := cmdVal, arg := argVal, flags := c.flags.reset, status := .readyForSubmit }

/-- Command for single data transfer. -/
def initData (c : Cmd) (cmdVal argVal blocksizeVal : U32) (dataPhysVal dataVirtVal : U64) :
    Except RuntimeError Cmd :=
  let c := { c with
    cmd := cmdVal
    arg := argVal
    flags := { c.flags.reset with hasData := true }
    blockcnt := 1
    blocksize := blocksizeVal }
  -- The test looks at the member, not at the new address.
  if c.dataPhys.setWidth 64 &&& 0xffffffff00000000 ≠ 0 then
    .error ⟨-L4.enomem, "Physical address beyond 4G"⟩
  else
    .ok { c with
      dataPhys := (dataPhysVal &&& 0xffffffff).setWidth 32
      dataVirt := dataVirtVal
      blocks := []
      status := .readyForSubmit }

/-- The guard of `Cmd::init_data` tests the upper half of a word of 32 bits. -/
theorem initData_ok (c : Cmd) (cmdVal argVal blocksizeVal : U32) (dataPhysVal dataVirtVal : U64) :
    c.initData cmdVal argVal blocksizeVal dataPhysVal dataVirtVal = .ok
      { c with
        cmd := cmdVal
        arg := argVal
        flags := { c.flags.reset with hasData := true }
        blockcnt := 1
        blocksize := blocksizeVal
        dataPhys := dataPhysVal.setWidth 32
        dataVirt := dataVirtVal
        blocks := []
        status := .readyForSubmit } := by
  have upper : c.dataPhys.setWidth 64 &&& (0xffffffff00000000 : U64) = 0 := by
    apply BitVec.eq_of_getLsbD_eq
    intro i bound
    have mask : (0xffffffff00000000 : U64) = (0xffffffff : U64) <<< 32 := rfl
    rw [mask, BitVec.getLsbD_and, BitVec.getLsbD_setWidth, BitVec.getLsbD_shiftLeft]
    by_cases low : i < 32
    · simp [low]
    · simp [BitVec.getLsbD_of_ge c.dataPhys i (Nat.le_of_not_lt low)]
  have lower : (dataPhysVal &&& 0xffffffff).setWidth 32 = dataPhysVal.setWidth 32 := by
    apply BitVec.eq_of_getLsbD_eq
    intro i bound
    have mask : (0xffffffff : U64) = BitVec.ofNat 64 (2 ^ 32 - 1) := rfl
    rw [mask, BitVec.getLsbD_setWidth, BitVec.getLsbD_setWidth, BitVec.getLsbD_and,
      BitVec.getLsbD_ofNat, Nat.testBit_two_pow_sub_one]
    have wide : i < 64 := by omega
    simp [bound, wide]
  rw [Cmd.initData, if_neg (not_not.mpr upper), lower]

/-- CMD13 is executed after this CMD6. -/
def markStatusAfterSwitch (c : Cmd) : Cmd :=
  { c with flags := { c.flags with statusAfterSwitch := true } }

/-- Command for handling multiple MMC commands of an in/out request. -/
def initInout (c : Cmd) (sectorVal : U64) (blocksVal : List Block) (cbIoVal : Option Callback)
    (inoutRead : Bool) : Cmd :=
  { c with
    cmd := 0
    flags := { c.flags.reset with inout := true, inoutRead := inoutRead }
    sector := sectorVal.setWidth 32
    sectorsDone := 0
    blocks := blocksVal
    cbIo := cbIoVal }

/-- In/out command without data (CMD23, CMD12). -/
def reinitInoutNodata (c : Cmd) (cmdVal argVal : U32) : Cmd :=
  { c with
    cmd := cmdVal
    arg := argVal
    flags := { c.flags with hasData := false }
    status := .readyForSubmit }

/-- In/out command with data (CMD17, CMD18, CMD24, CMD25). -/
def reinitInoutData (c : Cmd) (cmdVal argVal blockcntVal blocksizeVal : U32)
    (autoCmd23 : Bool) : Cmd :=
  { c with
    cmd := cmdVal
    arg := argVal
    blockcnt := blockcntVal
    blocksize := blocksizeVal
    flags := { c.flags with hasData := true, autoCmd23 := autoCmd23 }
    status := .readyForSubmit }

def cmdIdx (c : Cmd) : U32 := c.cmd &&& Mmc.idxMask

def isCmd12 (c : Cmd) : Bool :=
  c.cmd = Mmc.cmd12StopTransmissionRd ∨ c.cmd = Mmc.cmd12StopTransmissionWr

def isTuning (c : Cmd) : Bool :=
  c.cmd = Mmc.cmd19SendTuningBlock ∨ c.cmd = Mmc.cmd21SendTuningBlock

/-- The device status of a command with an R1 response. -/
def mmcStatus (c : Cmd) : Except RuntimeError U32 :=
  if c.flags.hasR1Response then .ok (c.resp 0)
  else .error ⟨-L4.einval, "Status without response"⟩

/-- The command ended well but the device reports a switch error. -/
def switchError (c : Cmd) : Bool :=
  c.status = .success ∧ c.flags.hasR1Response ∧ Mmc.DeviceStatus.switchError.test (c.resp 0)

/-- The errors a device reports when it does not carry out a command of an in/out request. -/
def requestErrors : List (Bitfield 32) :=
  [Mmc.DeviceStatus.addressOutOfRange, Mmc.DeviceStatus.addressMisalign,
    Mmc.DeviceStatus.blockLenError, Mmc.DeviceStatus.wpViolation,
    Mmc.DeviceStatus.illegalCommand, Mmc.DeviceStatus.deviceEccFailed, Mmc.DeviceStatus.ccError,
    Mmc.DeviceStatus.error]

/-- The command ended well but its response carries an error of the device. -/
def Rejected (c : Cmd) : Prop :=
  c.status = .success ∧ ∃ status, c.mmcStatus = .ok status ∧ requestErrors.any (·.test status)

/-- What `Cmd::destruct` leaves in a slot after the queue has let go of it. -/
def invalidate (c : Cmd) : Cmd :=
  { c with
    status := .error
    cmd := ~~~0
    arg := 0
    flags := c.flags.reset
    cbIo := none }

/-- What reaches the card with a submitted command. -/
structure Issue where
  cmd : U32
  arg : U32
  blockcnt : U32
  hasData : Bool
  autoCmd23 : Bool
deriving DecidableEq, Repr

def issue (c : Cmd) : Issue :=
  { cmd := c.cmd
    arg := c.arg
    blockcnt := c.blockcnt
    hasData := c.flags.hasData
    autoCmd23 := c.flags.autoCmd23 }

/-- `c'` is the command `c` while the driver works on it: only its status, its response, its DMA
position and its bounce buffer mark may differ. -/
structure SameRequest (c c' : Cmd) : Prop where
  cmd : c'.cmd = c.cmd
  arg : c'.arg = c.arg
  blocksize : c'.blocksize = c.blocksize
  sector : c'.sector = c.sector
  sectorsDone : c'.sectorsDone = c.sectorsDone
  blocks : c'.blocks = c.blocks
  cbIo : c'.cbIo = c.cbIo
  statusCmd12 : c'.statusCmd12 = c.statusCmd12
  enqueued : c'.flags.enqueued = c.flags.enqueued
  inout : c'.flags.inout = c.flags.inout
  inoutRead : c'.flags.inoutRead = c.flags.inoutRead
  inoutCmd12 : c'.flags.inoutCmd12 = c.flags.inoutCmd12
  hasData : c'.flags.hasData = c.flags.hasData
  autoCmd23 : c'.flags.autoCmd23 = c.flags.autoCmd23

theorem SameRequest.refl (c : Cmd) : SameRequest c c := by
  constructor <;> rfl

/-- Two steps of the driver within a request are within the request. -/
theorem SameRequest.trans {c c' c'' : Cmd} (first : SameRequest c c')
    (second : SameRequest c' c'') : SameRequest c c'' where
  cmd := second.cmd.trans first.cmd
  arg := second.arg.trans first.arg
  blocksize := second.blocksize.trans first.blocksize
  sector := second.sector.trans first.sector
  sectorsDone := second.sectorsDone.trans first.sectorsDone
  blocks := second.blocks.trans first.blocks
  cbIo := second.cbIo.trans first.cbIo
  statusCmd12 := second.statusCmd12.trans first.statusCmd12
  enqueued := second.enqueued.trans first.enqueued
  inout := second.inout.trans first.inout
  inoutRead := second.inoutRead.trans first.inoutRead
  inoutCmd12 := second.inoutCmd12.trans first.inoutCmd12
  hasData := second.hasData.trans first.hasData
  autoCmd23 := second.autoCmd23.trans first.autoCmd23

/-- `c'` is `c` but for its status, its response and its DMA position. -/
def Reaches (c : Cmd) (status : Status) (c' : Cmd) : Prop :=
  c.SameRequest c' ∧ c'.status = status

/-- Setting the status reaches it. -/
theorem reaches_status (c : Cmd) (status : Status) : Reaches c status { c with status := status } :=
  ⟨by constructor <;> rfl, rfl⟩

/-- `c'` belongs to the same request as `c`. -/
structure SameOwner (c c' : Cmd) : Prop where
  enqueued : c'.flags.enqueued = c.flags.enqueued
  inout : c'.flags.inout = c.flags.inout
  inoutRead : c'.flags.inoutRead = c.flags.inoutRead
  cbIo : c'.cbIo = c.cbIo

theorem SameOwner.refl (c : Cmd) : SameOwner c c := ⟨rfl, rfl, rfl, rfl⟩

theorem SameOwner.trans {c c' c'' : Cmd} (first : SameOwner c c') (second : SameOwner c' c'') :
    SameOwner c c'' :=
  ⟨second.enqueued.trans first.enqueued, second.inout.trans first.inout,
    second.inoutRead.trans first.inoutRead, second.cbIo.trans first.cbIo⟩

/-! ## Statuses -/

theorem error_iff (c : Cmd) : c.error = true ↔ c.status.toInt < 0 := by
  simp [error]

/-- A command is in progress in its command phase and in its data phase. -/
theorem progress_iff (c : Cmd) :
    c.progress = true ↔ c.status = .progressCmd ∨ c.status = .progressData := by
  simp [progress]

/-- No command of an in/out request is a tuning command. -/
theorem isTuning_of_inout {c : Cmd} (member : c.cmd ∈ Mmc.inoutCommands) :
    c.isTuning = false := by
  simp only [Mmc.inoutCommands, Mmc.transferCommands, List.mem_append, List.mem_cons,
    List.not_mem_nil, or_false, or_assoc] at member
  rcases member with word | word | word | word | word | word | word <;>
    rw [isTuning, word] <;> rfl

theorem error_of_failed {c : Cmd} (failed : c.failed = true) : c.error = true := by
  simp only [Cmd.failed, decide_eq_true_eq] at failed
  simp only [error, decide_eq_true_eq]
  omega

/-- A failed command is not waiting for submission. -/
theorem not_ready_of_failed {c : Cmd} (failed : c.failed = true) :
    c.status ≠ .readyForSubmit := by
  intro ready
  simp [Cmd.failed, ready, Status.toInt] at failed

/-- A command in progress is not an error. -/
theorem error_eq_false_of_progress {c : Cmd} (busy : c.progress = true) : c.error = false := by
  rcases (progress_iff c).1 busy with status | status <;> simp [error, status, Status.toInt]

end Cmd

end Emmc
