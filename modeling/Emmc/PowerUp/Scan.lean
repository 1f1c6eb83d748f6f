import Emmc.Card
import Emmc.CmdQueue
import Emmc.PowerUp.Sd
import Emmc.Sdhci.Config

/-!
# Looking for a card

`start_device_scan` up to the point where the server loop takes over: `reset_sdio`, `power_up_sd` and
`power_up_mmc`. What the device keeps of the card is `Medium`, the third component of the state; the two
mode loops have their own traces (`traced`).

* `Driver`: a `Host` with what the rest of the initialisation asks of it.
* `sdIdentify`, `sdReadRegisters`: an SD card up to the check function of CMD6.
* `mmcIdentify`, `mmcConfigure`: an eMMC device up to its mode loop.
* `startDeviceScan`: the whole, in a slot of the command queue.

The interrupt object, the hand-over to the server loop, statistics and log output are left out.
-/

namespace Emmc

open Throwing

namespace Mmc

def respR5 : U32 := rspPresent ||| rspCheckCrc ||| rspHasOpcode
def respR6 : U32 := rspPresent ||| rspCheckCrc ||| rspHasOpcode
def respR7 : U32 := rspPresent ||| rspCheckCrc ||| rspHasOpcode

def cmd0GoIdleState : U32 := 0 ||| bc
def cmd1SendOpCond : U32 := 1 ||| bcr ||| respR3 ||| dirRead
def cmd2AllSendCid : U32 := 2 ||| bcr ||| respR2
def cmd3SendRelativeAddr : U32 := 3 ||| ac ||| respR6
def cmd3SetRelativeAddr : U32 := 3 ||| ac ||| respR1
def cmd7SelectCard : U32 := 7 ||| ac ||| respR1
def cmd8SendIfCond : U32 := 8 ||| bcr ||| respR7
def cmd9SendCsd : U32 := 9 ||| ac ||| respR2
def cmd11VoltageSwitch : U32 := 11 ||| ac ||| respR1
def cmd16SetBlocklen : U32 := 16 ||| ac ||| respR1
def cmd52IoRwDirect : U32 := 52 ||| ac ||| respR5
def acmd13SdStatus : U32 := 13 ||| adtc ||| respR1 ||| dirRead
def acmd41SdAppOpCond : U32 := 41 ||| bcr ||| respR3
def acmd51SendScr : U32 := 51 ||| adtc ||| respR1 ||| dirRead

namespace DeviceStatus

def deviceIsLocked : Bitfield 32 := .bit 25

end DeviceStatus

/-! ## Arguments -/

namespace ArgCmd8SendIfCond

def checkPattern : Bitfield 32 := { lsb := 0, msb := 7 }
def voltageSuppl : Bitfield 32 := { lsb := 8, msb := 11 }

def volt2736 : U32 := 1

end ArgCmd8SendIfCond

namespace ArgAcmd41SdSendOp

def s18r : Bitfield 32 := .bit 24
def xpc : Bitfield 32 := .bit 28
def hcs : Bitfield 32 := .bit 30

end ArgAcmd41SdSendOp

namespace ArgCmd52IoRwDirect

def writeData : Bitfield 32 := { lsb := 0, msb := 7 }
def address : Bitfield 32 := { lsb := 9, msb := 25 }
def function : Bitfield 32 := { lsb := 28, msb := 30 }
def write : Bitfield 32 := .bit 31

/-- I/O card reset. -/
def sdioCccrAbort : U32 := 6

end ArgCmd52IoRwDirect

/-! ## Registers of the card -/

namespace RegOcr

/-- The voltage windows that an SD card and the controller may have in common, from 3.6 V down. The
argument of ACMD41 has them at the same places. -/
def windows : List (Bitfield 32) :=
  [.bit 23, .bit 22, .bit 21, .bit 20, .bit 19, .bit 18, .bit 17, .bit 16, .bit 15]

def s18a : Bitfield 32 := .bit 24
def notBusy : Bitfield 32 := .bit 31

end RegOcr

namespace RegCid

def byte3 : Bitfield 32 := { lsb := 24, msb := 31 }
def byte2 : Bitfield 32 := { lsb := 16, msb := 23 }
def byte1 : Bitfield 32 := { lsb := 8, msb := 15 }
def byte0 : Bitfield 32 := { lsb := 0, msb := 7 }

/-- `sd.psn` -/
def psnSd (raw : Fin 4 → U32) : U32 :=
  byte2.get (raw 2) <<< 24 ||| byte1.get (raw 2) <<< 16 ||| byte0.get (raw 2) <<< 8 |||
    byte3.get (raw 3)

/-- `mmc.psn` -/
def psnMmc (raw : Fin 4 → U32) : U32 :=
  byte1.get (raw 2) <<< 24 ||| byte0.get (raw 2) <<< 16 ||| byte3.get (raw 3) <<< 8 |||
    byte2.get (raw 3)

end RegCid

namespace RegCsd

def specVersField : Bitfield 32 := { lsb := 26, msb := 29 }

def ofResponse (resp : Fin 4 → U32) : RegCsd := { raw0 := resp 0, raw1 := resp 1, raw2 := resp 2 }

/-- `s3.spec_vers` -/
def specVers (csd : RegCsd) : U32 := specVersField.get csd.raw0

end RegCsd

namespace RegScr

/-- The eight bytes of the register, the first one on top. -/
def ofBytes (bytes : Nat → U8) : U64 :=
  (List.range 8).foldl (fun raw i => raw <<< 8 ||| (bytes i).setWidth 64) 0

def sdSpec : Bitfield 64 := { lsb := 56, msb := 59 }
def sdBusWidth4 : Bitfield 64 := .bit 50
def sdSpec3 : Bitfield 64 := .bit 47
def sdSpec4 : Bitfield 64 := .bit 42
def sdSpecx : Bitfield 64 := { lsb := 38, msb := 41 }
def cmd23Support : Bitfield 64 := .bit 33

/-- `sd_spec_vers` -/
def sdSpecVers (raw : U64) : Nat :=
  let vers := sdSpec.get raw <<< 12 ||| sdSpec3.get raw <<< 8 ||| sdSpec4.get raw <<< 4 |||
    sdSpecx.get raw
  if vers = 0x0000 then 100
  else if vers = 0x1000 then 110
  else if vers = 0x2000 then 200
  else if vers = 0x2100 then 300
  else if vers = 0x2110 then 400
  else if vers = 0x2101 ∨ vers = 0x2111 then 500
  else if vers = 0x2102 ∨ vers = 0x2112 then 600
  else 0

end RegScr

namespace RegEcsd

/-- Four bytes of the extended CSD, the first one lowest. -/
def word (bytes : Nat → U8) (index : Nat) : U32 :=
  (bytes index).setWidth 32 ||| (bytes (index + 1)).setWidth 32 <<< 8 |||
    (bytes (index + 2)).setWidth 32 <<< 16 ||| (bytes (index + 3)).setWidth 32 <<< 24

/-- `ec192_ext_csd_rev.mmc_rev` -/
def mmcRev (raw : U8) : U32 :=
  if raw.toNat ≤ 4 then raw.setWidth 32 + 400
  else if raw = 5 then 441
  else if raw = 6 then 451
  else if raw = 7 then 500
  else if raw = 8 then 510
  else 0

end RegEcsd

namespace Ec33CacheCtrl

def index : U8 := 33
def cacheEn : Bitfield 8 := .bit 0

end Ec33CacheCtrl

namespace Ec34PowerOffNotification

def index : U8 := 34
def notify : Bitfield 8 := { lsb := 0, msb := 7 }

def poweredOn : U8 := 1

end Ec34PowerOffNotification

namespace Ec161HpiMgmt

def index : U8 := 161
def hpiEn : Bitfield 8 := .bit 0

end Ec161HpiMgmt

namespace Ec163BkopsEn

def index : U8 := 163
def autoEn : Bitfield 8 := .bit 1

end Ec163BkopsEn

namespace Ec175EraseGroupDef

def index : U8 := 175
def enable : Bitfield 8 := .bit 0

end Ec175EraseGroupDef

end Mmc

namespace PowerUp

open Mmc

/-- `Medium_type` -/
inductive MediumType
  | unknown
  | sd
  | mmc
deriving DecidableEq, Repr

/-- The members of the device that the initialisation fills in. -/
structure Medium where
  hid : String := ""
  addrMult : U64 := 1
  numSectors : U64 := 0
  rca : U16 := 1
  mmcRev : U32 := 0
  type : MediumType := .unknown
  hasCmd23 : Bool := true
  deviceTypeSelected : U8 := 0
  enhStrobe : Bool := false
  hasCache : Bool := false
  sizeUser : U64 := 0
  sizeBoot12 : U64 := 0
  sizeRpmb : U64 := 0
  sdTiming : Timing := .legacy
deriving DecidableEq

/-- `Device_type_disable` -/
structure DeviceTypeDisable where
  mmc : U8 := 0
  sd : U32 := 0

/-- A driver for the whole initialisation. -/
structure Driver (σ : Type) extends Host σ where
  init : EStateM RuntimeError σ Unit
  /-- `supp_uhs_timings(Uhs_modes)` -/
  suppUhsModes : Bool
  xpcSupported : Voltage → Bool
  supportedVoltage : U32
  /-- A command that was executed is not in flight any more. -/
  decides : ∀ c h, c.isTuning = false →
    wp cmdExec (fun _ t => t.1.status = .success ∨ t.1.error = true) (fun _ _ => True) (c, h)
  /-- The driver leaves the part of the command alone that belongs to the device. -/
  sparesRequest : ∀ c h,
    wp cmdExec (fun _ t => c.SameRequest t.1) (fun _ t => c.SameRequest t.1) (c, h)

/-- The device while it is initialised. -/
abbrev InitM (σ : Type) := PowerUpM σ Medium

section Common

variable {σ τ : Type} (host : Host σ)

/-- Run a computation with a trace of its own. -/
def traced {α : Type} (trace : τ) (m : PowerUpM σ τ α) : InitM σ α :=
  zoom (fun s => { cmd := s.cmd, hw := s.hw, trace := trace })
    (fun t s => { s with cmd := t.cmd, hw := t.hw }) m

/-- A command with argument, executed synchronously. -/
def exec (word arg : U32) : PowerUpM σ τ Unit := do
  modifyCmd (·.initArg word arg)
  cmdExec host

/-- The same, its error throws. -/
def execChecked (word arg : U32) (text : String) : PowerUpM σ τ Unit := do
  exec host word arg
  checkError text

/-- A command that the card may not know. -/
def execExpectingError (word arg : U32) : PowerUpM σ τ Unit := do
  modifyCmd (·.initArg word arg)
  modifyCmd fun c => { c with flags := { c.flags with expectedError := true } }
  cmdExec host

/-- A command with data in the I/O buffer. -/
def execData (word arg blocksize : U32) (virt : U64) : PowerUpM σ τ Unit := do
  initData host word arg blocksize virt
  cmdExec host

/-- The response the command has left. -/
def response (i : Fin 4) : PowerUpM σ τ U32 := return (← get).cmd.resp i

/-- `cmd->mmc_status()` -/
def mmcStatus : PowerUpM σ τ U32 := do
  match (← get).cmd.mmcStatus with
  | .error e => throw e
  | .ok status => return status

/-- The device that was selected must not be locked. -/
def checkLocked : PowerUpM σ τ Unit := do
  if DeviceStatus.deviceIsLocked.test (← mmcStatus) then
    throw ⟨-L4.eio, "Device is locked!"⟩

/-- An application command with data in the I/O buffer. -/
def mmcAppCmdData (rca : U16) (word arg datalen : U32) : PowerUpM σ τ Unit := do
  modifyCmd (·.initArg Mmc.cmd55AppCmd (rca.setWidth 32 <<< 16))
  cmdExec host
  if !(← get).cmd.error then
    initData host word arg datalen host.ioVirt
    modifyCmd fun c => { c with flags := { c.flags with appCmd := true } }
    cmdExec host

end Common

variable {σ : Type} (drv : Driver σ)

/-- `_rca << 16` -/
def rcaArg : InitM σ U32 := return (← get).trace.rca.setWidth 32 <<< 16

/-- The voltages that device and controller have in common. -/
def adaptOcr (ocrDev : U32) : U32 :=
  let arg := RegOcr.windows.foldl
    (fun arg window => window.put arg (window.test ocrDev && window.test drv.supportedVoltage)) 0
  ArgAcmd41SdSendOp.hcs.put arg true

/-- The argument of CMD8. -/
def ifCondArg : U32 :=
  ArgCmd8SendIfCond.voltageSuppl.set (ArgCmd8SendIfCond.checkPattern.set 0 0xaa)
    ArgCmd8SendIfCond.volt2736

/-- The arguments of the two CMD52 that reset an SDIO card. -/
def a52Read : U32 :=
  let a52 := ArgCmd52IoRwDirect.address.set 0 ArgCmd52IoRwDirect.sdioCccrAbort
  let a52 := ArgCmd52IoRwDirect.function.set a52 0
  ArgCmd52IoRwDirect.write.put a52 false

def a52Write : U32 :=
  let a52 := ArgCmd52IoRwDirect.writeData.set 0 8
  let a52 := ArgCmd52IoRwDirect.address.set a52 ArgCmd52IoRwDirect.sdioCccrAbort
  let a52 := ArgCmd52IoRwDirect.function.set a52 0
  ArgCmd52IoRwDirect.write.put a52 true

def resetSdio : InitM σ Unit := do
  execExpectingError drv.toHost cmd52IoRwDirect a52Read
  if !(← get).cmd.error then
    throw ⟨-L4.eio, "IO_RW_DIRECT (read) succeeded"⟩
  execExpectingError drv.toHost cmd52IoRwDirect a52Write

/-! ## SD cards -/

/-- ACMD41 until the card is not busy. -/
def sdWaitReady (a41 : U32) : Nat → InitM σ Unit
  | 0 => return ()
  | rounds + 1 => do
    mmcAppCmd drv.toHost (← get).trace.rca acmd41SdAppOpCond a41
    checkError "ACMD41: SD_APP_OP_COND-2"
    if !RegOcr.notBusy.test (← response 0) then
      onHw (drv.delay 5)
      sdWaitReady a41 rounds

/-- The switch to 1.8 V behind CMD11; the result is false when the card did not start it. -/
def sdVoltageSwitch : InitM σ Bool := do
  execChecked drv.toHost cmd11VoltageSwitch 0 "CMD11: VOLTAGE_SWITCH"
  if DeviceStatus.error.test (← mmcStatus) then
    throw ⟨-L4.einval, "CMD11 status error"⟩
  if ← onHw drv.cardBusy then
    onHw (drv.delay 2)
    onHw (drv.setClockAndTiming 0 .legacy false)
    onHw (drv.setVoltage .v180)
    onHw (drv.delay 5)
    onHw (drv.setClockAndTiming (400 * kHz) .uhsSdr12 false)
    onHw (drv.delay 5)
    if ← onHw drv.cardBusy then
      throw ⟨-L4.einval, "Still busy after set voltage"⟩
    onHw (drv.delay 5)
    return true
  else
    return false

/-- One iteration of the loop around the voltage switch: `none` to try again, or `v18`. -/
def sdIdentifyRound (a41 : U32) : InitM σ (Option Bool) := do
  onHw (drv.setBusWidth .width1bit)
  onHw (drv.setClockAndTiming (400 * kHz) .legacy false)
  execChecked drv.toHost cmd0GoIdleState 0 "CMD0: GO_IDLE"
  execChecked drv.toHost cmd8SendIfCond ifCondArg "CMD8: SEND_IF_COND"
  sdWaitReady drv a41 100
  let ocr ← response 0
  if !RegOcr.notBusy.test ocr then
    throw ⟨-L4.einval, "Card still busy"⟩
  note fun m => { m with addrMult := if RegOcr.ccs.test ocr then 1 else 512 }
  if RegOcr.ccs.test ocr && RegOcr.s18a.test ocr then
    if ← sdVoltageSwitch drv then return some true else return none
  else
    return some false

/-- The loop itself; `v18` stays false when no iteration breaks. -/
def sdIdentify (a41 : U32) : Nat → InitM σ Bool
  | 0 => return false
  | rounds + 1 => do
    match ← sdIdentifyRound drv a41 with
    | some v18 => return v18
    | none => sdIdentify a41 rounds

/-- From the ready card to the card in the transfer state. -/
def sdSelectCard : InitM σ Unit := do
  execChecked drv.toHost cmd2AllSendCid 0 "CMD2: ALL_SEND_CID"
  let cid := (← get).cmd.resp
  note fun m => { m with hid := hex08 ((RegCid.psnSd cid).setWidth 64) }
  execChecked drv.toHost cmd3SendRelativeAddr 0 "CMD3: SEND_RELATIVE_ADDR"
  let resp ← response 0
  note fun m => { m with rca := (resp >>> 16).setWidth 16 }
  execChecked drv.toHost cmd9SendCsd (← rcaArg) "CMD9: SEND_CSD"
  let csd := RegCsd.ofResponse (← get).cmd.resp
  note fun m => { m with numSectors := deviceSize csd / 512 }
  execChecked drv.toHost cmd7SelectCard (← rcaArg) "CMD7: SELECT_CARD"
  checkLocked

/-- SCR and SSR; the result is `has_bus_4bit`. -/
def sdReadRegisters : InitM σ Bool := do
  mmcAppCmdData drv.toHost (← get).trace.rca acmd51SendScr 0 8
  checkError "ACMD51: SEND_SCR"
  let scr := RegScr.ofBytes (drv.ioBuf (← get).hw)
  if RegScr.sdSpecVers scr < 300 then
    throw ⟨-L4.einval, "SD spec < 3.0, adapt implementation"⟩
  note fun m => { m with hasCmd23 := RegScr.cmd23Support.test scr }
  mmcAppCmdData drv.toHost (← get).trace.rca acmd13SdStatus 0 64
  checkError "ACMD13: SD_STATUS"
  return RegScr.sdBusWidth4.test scr

/-- The argument of ACMD41 for a card with the given OCR. -/
def sdOpCondArg (ocr : U32) : U32 :=
  let a41 := adaptOcr drv ocr
  if drv.suppUhsModes then
    let a41 := ArgAcmd41SdSendOp.s18r.put a41 true
    if drv.xpcSupported .v180 then ArgAcmd41SdSendOp.xpc.put a41 true else a41
  else
    if drv.xpcSupported .v330 then ArgAcmd41SdSendOp.xpc.put a41 true else a41

/-- The result is false when there is no SD card. -/
def powerUpSd (disable : DeviceTypeDisable) : InitM σ Bool := do
  note fun m => { m with rca := 0 }
  mmcAppCmd drv.toHost (← get).trace.rca acmd41SdAppOpCond 0
  if (← get).cmd.error then
    return false
  let v18 ← sdIdentify drv (sdOpCondArg drv (← response 0)) 10
  sdSelectCard drv
  let hasBus4bit ← sdReadRegisters drv
  let rca := (← get).trace.rca
  match ← traced [] (sdNegotiate drv.toHost rca v18 hasBus4bit disable.sd 6) with
  | some timing =>
    note fun m => { m with sdTiming := timing, type := .sd }
    return true
  -- Not reached: the loop is left within six iterations (`sdNegotiate_left`).
  | none => return false

/-! ## eMMC devices -/

/-- CMD1 until the device is not busy. -/
def mmcWaitReady (a41 : U32) : Nat → InitM σ Unit
  | 0 => return ()
  | rounds + 1 => do
    execChecked drv.toHost cmd1SendOpCond a41 "CMD1: SEND_OP_COND"
    let ocr ← response 0
    if ¬(ocr ≠ 0x00ff8080 ∧ ocr ≠ 0x40ff8080 ∧ RegOcr.notBusy.test ocr) then
      onHw (drv.delay 5)
      mmcWaitReady a41 rounds

/-- CMD2 until it succeeds. -/
def mmcAllSendCid : Nat → InitM σ Unit
  | 0 => return ()
  | rounds + 1 => do
    exec drv.toHost cmd2AllSendCid 0
    if (← get).cmd.status ≠ .success then
      mmcAllSendCid rounds

/-- From the probe to the device in the transfer state, its extended CSD in the I/O buffer. -/
def mmcIdentify (ocr : U32) : InitM σ Unit := do
  execChecked drv.toHost cmd0GoIdleState 0 "CMD0: GO_IDLE"
  mmcWaitReady drv (adaptOcr drv ocr) 100
  let ocr ← response 0
  if !RegOcr.notBusy.test ocr then
    throw ⟨-L4.eio, "Device still busy."⟩
  note fun m => { m with addrMult := if RegOcr.ccs.test ocr then 1 else 512 }
  mmcAllSendCid drv 5
  checkError "CMD2: ALL_SEND_CID"
  let cid := (← get).cmd.resp
  note fun m => { m with hid := hex08 ((RegCid.psnMmc cid).setWidth 64) }
  execChecked drv.toHost cmd3SetRelativeAddr (← rcaArg) "CMD3: SET_RELATIVE_ADDR"
  execChecked drv.toHost cmd9SendCsd (← rcaArg) "CMD9: SEND_CSD"
  if (RegCsd.ofResponse (← get).cmd.resp).specVers.toNat < 4 then
    throw ⟨-L4.einval, "eMMC device too old."⟩
  execChecked drv.toHost cmd7SelectCard (← rcaArg) "CMD7: SELECT_CARD"
  checkLocked
  execData drv.toHost cmd8SendExtCsd 0 512 0
  checkError "CMD8: SEND_EXT_CSD"

/-- A byte of the extended CSD is written; an error throws. -/
def mmcSwitch (idx val : U8) (text : String) : InitM σ Unit := do
  execMmcSwitch drv.toHost (← get).trace.rca idx val
  checkError text

/-- What is set up before the mode loop; the result is the device type that was reported. -/
def mmcConfigure : InitM σ U8 := do
  let ecsd := drv.ioBuf (← get).hw
  let secCount := RegEcsd.word ecsd 212
  note fun m => { m with
    mmcRev := RegEcsd.mmcRev (ecsd 192)
    numSectors := secCount.setWidth 64
    sizeUser := secCount.setWidth 64 <<< 9
    sizeBoot12 := (ecsd 226).setWidth 64 <<< 17
    sizeRpmb := (ecsd 168).setWidth 64 <<< 17
    enhStrobe := ecsd 184 ≠ 0 }
  mmcSwitch drv Ec175EraseGroupDef.index (Ec175EraseGroupDef.enable.put 0 true)
    "CMD6: SWITCH/ERASE_GROUP_DEF"
  execChecked drv.toHost cmd16SetBlocklen 512 "CMD16: SET_BLOCK_LENGTH"
  mmcSwitch drv Ec34PowerOffNotification.index
    (Ec34PowerOffNotification.notify.set 0 Ec34PowerOffNotification.poweredOn)
    "CMD6: SWITCH/POWER_OFF_NOTIFICATION"
  mmcSwitch drv Ec161HpiMgmt.index (Ec161HpiMgmt.hpiEn.put 0 false) "CMD6: SWITCH/HPI_MGMT"
  -- The I/O buffer still holds the extended CSD: the switches have no data.
  if RegEcsd.word (drv.ioBuf (← get).hw) 249 ≠ 0 then
    note fun m => { m with hasCache := true }
    mmcSwitch drv Ec33CacheCtrl.index (Ec33CacheCtrl.cacheEn.put 0 true)
      "CMD6: SWITCH/ENABLE_CACHE"
  mmcSwitch drv Ec163BkopsEn.index (Ec163BkopsEn.autoEn.put 0 true) "CMD6: SWITCH/BKOPS"
  return ecsd 196

/-- The result is false when there is no eMMC device. -/
def powerUpMmc (disable : DeviceTypeDisable) : InitM σ Bool := do
  exec drv.toHost cmd1SendOpCond 0
  if (← get).cmd.error then
    return false
  mmcIdentify drv (← response 0)
  let deviceType ← mmcConfigure drv
  let m := (← get).trace
  match ← traced {} (mmcModeLoop drv.toHost m.rca deviceType disable.mmc m.enhStrobe 6) with
  | some selected =>
    note fun m => { m with deviceTypeSelected := selected, type := .mmc }
    return true
  -- Not reached: the loop is left within six iterations (`mmcModeLoop_left`).
  | none => return false

/-! ## The scan -/

/-- CMD0 and CMD8 in the two iterations before the card is powered up. -/
def goIdle (i : Nat) : Nat → InitM σ Unit
  | 0 => return ()
  | rounds + 1 => do
    execChecked drv.toHost cmd0GoIdleState 0 "CMD0: GO_IDLE"
    execExpectingError drv.toHost cmd8SendIfCond ifCondArg
    let status := (← get).cmd.status
    if ¬(status = .success ∨ status = .cmdTimeout) then
      if i > 0 then
        throw ⟨-L4.eio, "Unusable card"⟩
      goIdle (i + 1) rounds

/-- The part of the scan under `try`. -/
def initCard (disable : DeviceTypeDisable) : InitM σ Unit := do
  onHw (drv.setVoltage .v330)
  onHw (drv.delay voltageDelayMs)
  onHw (drv.setBusWidth .width1bit)
  onHw (drv.setClockAndTiming (400 * kHz) .legacy false)
  goIdle drv 0 2
  if !(← powerUpSd drv disable) then
    if !(← powerUpMmc drv disable) then
      throw ⟨-L4.eio, "Neither SD nor eMMC."⟩

/-- The device while it looks for a card. -/
structure Scan (σ : Type) where
  queue : CmdQueue := {}
  hw : σ
  medium : Medium := {}

abbrev ScanM (σ : Type) := EStateM RuntimeError (Scan σ)

def onQueue {α : Type} (m : EStateM RuntimeError CmdQueue α) : ScanM σ α :=
  zoom (fun s => s.queue) (fun q s => { s with queue := q }) m

def onDrv {α : Type} (m : EStateM RuntimeError σ α) : ScanM σ α :=
  zoom (fun s => s.hw) (fun h s => { s with hw := h }) m

/-- Run a part of the initialisation with the command in a slot. -/
def onSlot {α : Type} (slot : Slot) (m : InitM σ α) : ScanM σ α :=
  zoom (fun s => { cmd := s.queue.cmds slot, hw := s.hw, trace := s.medium })
    (fun t s => { s with queue := s.queue.setCmd slot t.cmd, hw := t.hw, medium := t.trace }) m

/-- The thread that initialises the card. The result says whether the device is there, and the callback is
to be called. -/
def initThread (disable : DeviceTypeDisable) (slot : Slot) : ScanM σ Bool :=
  tryCatch (do
      onSlot slot (initCard drv disable)
      onQueue (CmdQueue.retire slot)
      return true)
    fun _ => do
      onQueue (CmdQueue.retire slot)
      return false

/-- What is thrown before the thread is started leaves the scan. -/
def startDeviceScan (disable : DeviceTypeDisable) : ScanM σ Bool := do
  onDrv drv.init
  match ← onQueue CmdQueue.createCmd with
  | none => return false
  | some slot =>
    onSlot slot (onHw (drv.setClockAndTiming (400 * kHz) .legacy false))
    onSlot slot (resetSdio drv)
    initThread drv disable slot

end PowerUp

end Emmc
