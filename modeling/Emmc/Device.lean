import Emmc.CmdQueue
import Emmc.Drv
import Emmc.Lib.Runs

/-!
# The block device

`Device` is the state of the device in operation: its command queue, its controller, whether its
interrupt line is masked, a log of what happened, and the codes that callers of `inoutData` got (both
newest first). The operations are those of the source: `inoutData`, `handleIrq` and `flush`, with the
functions they are built from.

* The functions that turn a finished command into the next one (`inoutWork` and below) only touch
  the command and are pure. Where the source calls the callback at the end of such a function, they
  return `workDone` with the arguments of the call, and `handleIrqInout` makes it.
* A callback may call `inoutData` again; an interrupt therefore comes with the requests that are
  made from inside the callback, should there be one.
* `step` is one operation called from the server loop; a run is a `Runs.run` of it.

Sizes are those of a 64-bit `l4_size_t`. Statistics and log output are left out.
-/

namespace Emmc

open Throwing

/-- What the initialisation found out about the device, and the configured segment limit. -/
structure DeviceInfo where
  maxSeg : Nat
  addrMult : U64 := 1
  rca : U16 := 1
  hasCmd23 : Bool := true
  hasCache : Bool := false
  /-- Error code of a failed interrupt receive operation. -/
  recvError : Int := -1

/-- An in/out request: at least one block. -/
structure Request where
  sector : U64
  first : Block
  rest : List Block
  cb : Option Callback
  read : Bool

namespace Request

def blocks (req : Request) : List Block := req.first :: req.rest

end Request

/-- What happens to commands and requests. -/
inductive Event
  /-- A command was submitted to the controller. -/
  | submitted (slot : Slot) (issue : Cmd.Issue)
  /-- An interrupt ended a command that was in flight. -/
  | ended (slot : Slot) (cmd : U32) (status : Status) (resp0 : U32)
  /-- A command was executed synchronously, with the response if one was fetched. -/
  | executed (cmd : U32) (status : Status) (resp0 : Option U32)
  /-- A driver function threw. -/
  | threw (slot : Slot)
  /-- The callback of a request was called. -/
  | callback (slot : Slot) (cb : Callback) (code : Int) (size : U64)
  /-- The callback of a flush was called. -/
  | flushed (cb : Callback) (code : Int)
  /-- `inoutData` returned; the slot is the one the request was given. -/
  | returned (slot : Option Slot) (cb : Option Callback) (code : Int)
deriving DecidableEq

structure Device (H Irq : Type) where
  queue : CmdQueue := {}
  hw : H
  irqMasked : Bool := true
  /-- Interrupts a synchronous execution is going to receive. -/
  irqs : List Irq := []
  log : List Event := []
  /-- The codes that the callers of `inoutData` got, with the callback they gave, newest first. -/
  replies : List (Option Callback × Int) := []

/-- What is left to do for an in/out request: `workDone` carries the arguments of the callback. -/
inductive WorkStatus
  | workDone (code : Int) (size : U64)
  | moreWork
deriving DecidableEq, Repr

variable {H Irq : Type}

abbrev DeviceM (H Irq : Type) := EStateM RuntimeError (Device H Irq)

namespace Device

def sectorSize : Nat := 512

/-! ## Access to the parts of the state -/

def setCmd (d : Device H Irq) (slot : Slot) (c : Cmd) : Device H Irq :=
  { d with queue := d.queue.setCmd slot c }

def modifyCmd (slot : Slot) (f : Cmd → Cmd) : DeviceM H Irq Unit :=
  modify fun d => d.setCmd slot (f (d.queue.cmds slot))

def onQueue {α : Type} (m : EStateM RuntimeError CmdQueue α) : DeviceM H Irq α :=
  zoom (fun d => d.queue) (fun q d => { d with queue := q }) m

def emit (event : Event) : DeviceM H Irq Unit :=
  modify fun d => { d with log := event :: d.log }

/-- Run a driver function on the command in a slot. -/
def onCmd (slot : Slot) (m : Action H Unit) : DeviceM H Irq Unit :=
  tryCatch
    (zoom (fun d => (d.queue.cmds slot, d.hw))
      (fun t d => { d with queue := d.queue.setCmd slot t.1, hw := t.2 }) m)
    fun e => do
      emit (.threw slot)
      throw e

def unmaskInterrupt : DeviceM H Irq Unit :=
  modify fun d => { d with irqMasked := false }

variable (drv : HwDrv H Irq) (info : DeviceInfo)

/-- Submit a command to the controller and return immediately. -/
def cmdSubmitOnAvail (slot : Slot) : DeviceM H Irq Unit := do
  onCmd slot drv.cmdSubmit
  emit (.submitted slot ((← get).queue.cmds slot).issue)

/-- Submit the command at the head of the queue if it waits for that. -/
def drvCmdQueueKick : DeviceM H Irq Bool := do
  let q := (← get).queue
  match q.working? with
  | some slot =>
    if (q.cmds slot).status = .readyForSubmit then
      cmdSubmitOnAvail drv slot
      return true
    else
      return false
  | none => return false

def cmdQueueKick : DeviceM H Irq Unit := do
  if ← drvCmdQueueKick drv then unmaskInterrupt

/-! ## From one command of a request to the next -/

/-- Maximum size of one segment of a request, a multiple of the sector size. -/
def maxSize : Nat :=
  let sz := if drv.bounceBufferSize ≠ 0 then drv.bounceBufferSize else drv.maxInoutReqSize
  sz / info.maxSeg / sectorSize * sectorSize

def bytesTransferred (c : Cmd) : U64 :=
  c.sectorsDone.setWidth 64 * BitVec.ofNat 64 sectorSize

/-- The argument of a data command: `cmd->sector * _addr_mult`, truncated to 32 bits. -/
def sectorArg (c : Cmd) : U32 := (c.sector.setWidth 64 * info.addrMult).setWidth 32

def multipleBlock (c : Cmd) : U32 :=
  if c.flags.inoutRead then Mmc.cmd18ReadMultipleBlock else Mmc.cmd25WriteMultipleBlock

/-- CMD12 has to follow the data command unless CMD23 bounds it. -/
def markCmd12 (c : Cmd) : Cmd :=
  if info.hasCmd23 then c else { c with flags := { c.flags with inoutCmd12 := true } }

/-- Number of sectors of a block list, in 32 bits. -/
def totalSectors (blocks : List Block) : U32 := blocks.foldl (fun n b => n + b.numSectors) 0

def setBlockCountAdma2 (c : Cmd) : Cmd :=
  let numSectors := totalSectors c.blocks
  if !info.hasCmd23 || drv.autoCmd23 then
    markCmd12 info
      (c.reinitInoutData (multipleBlock c) (sectorArg info c) numSectors 512
        (info.hasCmd23 && drv.autoCmd23))
  else
    { c with blockcnt := numSectors }.reinitInoutNodata Mmc.cmd23SetBlockCount
      (Mmc.ArgCmd23SetBlockCount.blocks.set 0 numSectors)

/-- Either the transfer is finished, or CMD23 went ahead of the data command. -/
def handleIrqInoutAdma2 (c : Cmd) : Cmd × WorkStatus :=
  if c.cmd ≠ Mmc.cmd23SetBlockCount then
    (c, .workDone L4.eok (bytesTransferred c))
  else
    (markCmd12 info
      (c.reinitInoutData (multipleBlock c) (sectorArg info c) c.blockcnt 512 false), .moreWork)

def transferBlockSdma (c : Cmd) : Cmd × WorkStatus :=
  match c.blocks with
  | [] => (c, .workDone L4.eok (bytesTransferred c))
  | b :: _ =>
    if b.numSectors = 1 then
      (c.reinitInoutData
        (if c.flags.inoutRead then Mmc.cmd17ReadSingleBlock else Mmc.cmd24WriteBlock)
        (sectorArg info c) 1 512 false, .moreWork)
    else if info.hasCmd23 ∧ c.cmd ≠ Mmc.cmd23SetBlockCount then
      (c.reinitInoutNodata Mmc.cmd23SetBlockCount
        (Mmc.ArgCmd23SetBlockCount.blocks.set 0 b.numSectors), .moreWork)
    else
      (markCmd12 info
        (c.reinitInoutData (multipleBlock c) (sectorArg info c) b.numSectors 512 false), .moreWork)

/-- Go to the next block with sectors, counting the finished one. -/
def nextBlock (c : Cmd) : Cmd :=
  match c.blocks with
  | [] => c
  | b :: rest =>
    { c with
      sector := c.sector + b.numSectors
      sectorsDone := c.sectorsDone + b.numSectors
      blocks := rest.dropWhile fun b => b.numSectors = 0 }

def handleIrqInoutSdma (c : Cmd) : Cmd × WorkStatus :=
  if c.status = .success ∧ c.cmd ≠ Mmc.cmd23SetBlockCount then
    transferBlockSdma info (nextBlock c)
  else
    transferBlockSdma info c

/-- The command after it ended: CMD12 follows, or the request failed, or it goes on. -/
def inoutWork (c : Cmd) : Cmd × WorkStatus :=
  if c.flags.inoutCmd12 ∧ !drv.autoCmd12 then
    ({ c with flags := { c.flags with inoutCmd12 := false }, statusCmd12 := c.status
      }.reinitInoutNodata
        (if c.flags.inoutRead then Mmc.cmd12StopTransmissionRd else Mmc.cmd12StopTransmissionWr) 0,
      .moreWork)
  else
    let c := if c.isCmd12 then { c with status := c.statusCmd12 } else c
    if c.error then
      (c, .workDone (-L4.eio) (bytesTransferred c))
    else if drv.dmaAdma2 then
      handleIrqInoutAdma2 info c
    else
      handleIrqInoutSdma info c

/-! ## In/out requests -/

/-- One of the segments is larger than advertised. -/
def oversized (req : Request) : Bool :=
  req.blocks.any fun b => b.numSectors.toNat * sectorSize > maxSize drv info

/-- The part of `inoutData` under `try`. In SDMA mode the block list is not empty, hence there is
more work and no callback. -/
def submitRequest (slot : Slot) (req : Request) : DeviceM H Irq Unit := do
  modifyCmd slot fun c => { c with cbIo := req.cb }
  if oversized drv info req then
    throw ⟨-L4.einval, "Segment size in inout_data()"⟩
  modifyCmd slot fun c => c.initInout req.sector req.blocks req.cb req.read
  if drv.dmaAdma2 then
    modifyCmd slot (setBlockCountAdma2 drv info)
  else
    modifyCmd slot fun c => (transferBlockSdma info c).1
  cmdQueueKick drv

/-- The handler of `inoutData`. -/
def cleanUp (slot : Slot) : DeviceM H Irq Int := do
  onQueue (CmdQueue.retire slot)
  cmdQueueKick drv
  return -L4.einval

def inoutData (req : Request) : DeviceM H Irq Int := do
  match ← onQueue CmdQueue.createCmd with
  | none =>
    emit (.returned none req.cb (-L4.ebusy))
    return -L4.ebusy
  | some slot =>
    let code ← tryCatch
      (do
        submitRequest drv info slot req
        return L4.eok)
      fun _ => cleanUp drv slot
    emit (.returned (some slot) req.cb code)
    return code

/-- A client calls `inoutData` and learns the code. -/
def callInout (req : Request) : DeviceM H Irq Unit := do
  let code ← inoutData drv info req
  modify fun d => { d with replies := (req.cb, code) :: d.replies }

/-- The calls of `inoutData` made by a callback. -/
def inoutAll : List Request → DeviceM H Irq Unit
  | [] => return ()
  | req :: reqs => do
    callInout drv info req
    inoutAll reqs

/-! ## Interrupts -/

def handleIrqInout (slot : Slot) (nested : List Request) : DeviceM H Irq Unit := do
  let c := (← get).queue.cmds slot
  match c.cbIo with
  | none => throw ⟨-L4.einval, "No context for async command"⟩
  | some cb =>
    modifyCmd slot fun _ => (inoutWork drv info c).1
    match (inoutWork drv info c).2 with
    | .moreWork => cmdQueueKick drv
    | .workDone code size =>
      emit (.callback slot cb code size)
      inoutAll drv info nested
      onQueue (CmdQueue.retire slot)
      cmdQueueKick drv

/-- The driver's `handle_irq` for the command in `slot`. -/
def drvHandleIrq (slot : Slot) : DeviceM H Irq Unit := do
  let before := (← get).queue.cmds slot
  onCmd slot drv.handleIrq
  let c := (← get).queue.cmds slot
  if before.progress && !c.progress then
    emit (.ended slot c.cmd c.status (c.resp 0))

/-- The part of `handleIrq` under `try`. -/
def dispatchIrq (nested : List Request) : DeviceM H Irq Unit := do
  match (← get).queue.working? with
  | none => return ()
  | some slot =>
    drvHandleIrq drv slot
    let c := (← get).queue.cmds slot
    if c.progress then
      unmaskInterrupt
    else if c.flags.inout then
      handleIrqInout drv info slot nested
    else
      cmdQueueKick drv

/-- The delivery of an interrupt masks the line; an exception is only reported. -/
def handleIrq (irq : Irq) (nested : List Request) : DeviceM H Irq Unit := do
  modify fun d => { d with irqMasked := true, hw := drv.present irq d.hw }
  tryCatch (dispatchIrq drv info nested) fun _ => return ()

/-! ## Flush -/

/-- Execute the command in a slot synchronously. -/
def cmdExec (slot : Slot) : DeviceM H Irq Unit := do
  zoom (fun d => (⟨d.queue.cmds slot, d.hw, d.irqs⟩ : HwOps.Sync H Irq))
    (fun s d => { d with queue := d.queue.setCmd slot s.cmd, hw := s.hw, irqs := s.irqs })
    (drv.cmdExec info.recvError)
  let c := (← get).queue.cmds slot
  emit (.executed c.cmd c.status (if c.flags.hasR1Response then some (c.resp 0) else none))

/-- The CMD13 polls after a switch. -/
def pollSwitch (slot : Slot) : Nat → DeviceM H Irq Unit
  | 0 => return ()
  | polls + 1 => do
    modifyCmd slot (·.initArg Mmc.cmd13SendStatus (info.rca.setWidth 32 <<< 16))
    cmdExec drv info slot
    let c := (← get).queue.cmds slot
    if c.error || c.switchError then
      return ()
    else
      match c.mmcStatus with
      | .error e => throw e
      | .ok status =>
        if Mmc.DeviceStatus.readyForData.test status then
          return ()
        else
          pollSwitch slot polls

def execMmcSwitch (slot : Slot) (idx val : U8) : DeviceM H Irq Unit := do
  let a6 := Mmc.ArgCmd6Switch.access.set 0 Mmc.ArgCmd6Switch.writeByte
  let a6 := Mmc.ArgCmd6Switch.index.set a6 (idx.setWidth 32)
  let a6 := Mmc.ArgCmd6Switch.value.set a6 (val.setWidth 32)
  let a6 := Mmc.ArgCmd6Switch.cmdset.set a6 0
  modifyCmd slot (·.initArg Mmc.cmd6Switch a6)
  modifyCmd slot (·.markStatusAfterSwitch)
  cmdExec drv info slot
  if ((← get).queue.cmds slot).status = .success then
    pollSwitch drv info slot 50

/-- The part of `flush` under `try`. -/
def flushSlot (slot : Slot) : DeviceM H Irq Unit := do
  execMmcSwitch drv info slot Mmc.Ec32FlushCache.index (Mmc.Ec32FlushCache.flush.set 0 1)
  match ((← get).queue.cmds slot).checkError "CMD6: SWITCH/FLUSH_CACHE" with
  | .error e => throw e
  | .ok _ => onQueue (CmdQueue.retire slot)

/-- Flush the device cache synchronously. -/
def flush (cb : Callback) : DeviceM H Irq Int := do
  if !info.hasCache then
    emit (.flushed cb L4.eok)
    return L4.eok
  else
    match ← onQueue CmdQueue.createCmd with
    | none => return -L4.ebusy
    | some slot =>
      let code ← tryCatch
        (do
          flushSlot drv info slot
          return L4.eok)
        fun _ => do
          onQueue (CmdQueue.retire slot)
          return -L4.einval
      if code = L4.eok then emit (.flushed cb L4.eok)
      return code

/-! ## Runs -/

/-- What the server loop calls. -/
inductive Op (Irq : Type)
  | inout (req : Request)
  | irq (irq : Irq) (nested : List Request)
  | flush (irqs : List Irq) (cb : Callback)

def exec : Op Irq → DeviceM H Irq Unit
  | .inout req => callInout drv info req
  | .irq irq nested => handleIrq drv info irq nested
  | .flush irqs cb => do
    modify fun d => { d with irqs := irqs }
    let _ ← flush drv info cb

/-- One operation; an exception that escapes it leaves the state it had reached. -/
def step (op : Op Irq) (d : Device H Irq) : Device H Irq := after (exec drv info op) d

/-- The device after initialisation. -/
def start (h : H) : Device H Irq := { hw := h }

end Device

end Emmc
