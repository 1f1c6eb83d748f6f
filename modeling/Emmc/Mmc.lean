import Emmc.Lib.Bitfield

/-!
# The MMC command set

Command words, command arguments and the device status of an R1 response, as the driver's class
`Mmc` encodes them. A command word carries the command index, the command type and the features of
the expected response.
-/

namespace Emmc

abbrev U8 := BitVec 8
abbrev U16 := BitVec 16
abbrev U32 := BitVec 32
abbrev U64 := BitVec 64

/-- A thrown `L4::Runtime_error`: the error code and its text. -/
structure RuntimeError where
  code : Int
  text : String
deriving DecidableEq, Repr

namespace L4

def eok : Int := 0
def enoent : Int := 2
def eio : Int := 5
def enomem : Int := 12
def ebusy : Int := 16
def einval : Int := 22

/-- Size of a memory page. -/
def pageSize : Nat := 4096

/-- Round up to the next page boundary. -/
def roundPage (n : Nat) : Nat := (n + pageSize - 1) / pageSize * pageSize

end L4

namespace Mmc

/-! ## Command words -/

def bc : U32 := 0 <<< 6
def bcr : U32 := 1 <<< 6
def ac : U32 := 2 <<< 6
def adtc : U32 := 3 <<< 6

def idxMask : U32 := 0x3f
def rspPresent : U32 := 1 <<< 8
def rspCheckCrc : U32 := 1 <<< 9
def rsp136Bits : U32 := 1 <<< 10
def rspCheckBusy : U32 := 1 <<< 11
def rspHasOpcode : U32 := 1 <<< 12
def dirRead : U32 := 1 <<< 13

def rspNone : U32 := 0
def rspMask : U32 :=
  rspPresent ||| rspCheckCrc ||| rsp136Bits ||| rspCheckBusy ||| rspHasOpcode

def respR1 : U32 := rspPresent ||| rspCheckCrc ||| rspHasOpcode
def respR1b : U32 := rspPresent ||| rspCheckCrc ||| rspHasOpcode ||| rspCheckBusy
def respR2 : U32 := rspPresent ||| rsp136Bits ||| rspCheckCrc
def respR3 : U32 := rspPresent

def cmd6Switch : U32 := 6 ||| ac ||| respR1b ||| dirRead
def cmd8SendExtCsd : U32 := 8 ||| adtc ||| respR1 ||| dirRead
def cmd12StopTransmissionRd : U32 := 12 ||| ac ||| respR1
def cmd12StopTransmissionWr : U32 := 12 ||| ac ||| respR1b
def cmd13SendStatus : U32 := 13 ||| ac ||| respR1 ||| dirRead
def cmd17ReadSingleBlock : U32 := 17 ||| adtc ||| respR1 ||| dirRead
def cmd18ReadMultipleBlock : U32 := 18 ||| adtc ||| respR1 ||| dirRead
def cmd19SendTuningBlock : U32 := 19 ||| adtc ||| respR1 ||| dirRead
def cmd21SendTuningBlock : U32 := 21 ||| adtc ||| respR1 ||| dirRead
def cmd23SetBlockCount : U32 := 23 ||| ac ||| respR1
def cmd24WriteBlock : U32 := 24 ||| adtc ||| respR1
def cmd25WriteMultipleBlock : U32 := 25 ||| adtc ||| respR1

/-- The commands that move the data of an in/out request or announce it. -/
def transferCommands : List U32 :=
  [cmd17ReadSingleBlock, cmd18ReadMultipleBlock, cmd23SetBlockCount, cmd24WriteBlock,
    cmd25WriteMultipleBlock]

/-- The commands an in/out request consists of. -/
def inoutCommands : List U32 :=
  transferCommands ++ [cmd12StopTransmissionRd, cmd12StopTransmissionWr]

/-! ## Command arguments -/

namespace ArgCmd6Switch

def access : Bitfield 32 := { lsb := 24, msb := 25 }
def index : Bitfield 32 := { lsb := 16, msb := 23 }
def value : Bitfield 32 := { lsb := 8, msb := 15 }
def cmdset : Bitfield 32 := { lsb := 0, msb := 2 }

def writeByte : U32 := 3

end ArgCmd6Switch

namespace ArgCmd23SetBlockCount

def blocks : Bitfield 32 := { lsb := 0, msb := 15 }

end ArgCmd23SetBlockCount

/-! ## Extended CSD registers -/

namespace Ec32FlushCache

def index : U8 := 32
def flush : Bitfield 8 := { lsb := 0, msb := 0 }

end Ec32FlushCache

/-! ## Device status -/

namespace DeviceStatus

def addressOutOfRange : Bitfield 32 := { lsb := 31, msb := 31 }
def addressMisalign : Bitfield 32 := { lsb := 30, msb := 30 }
def blockLenError : Bitfield 32 := { lsb := 29, msb := 29 }
def wpViolation : Bitfield 32 := { lsb := 26, msb := 26 }
def illegalCommand : Bitfield 32 := { lsb := 22, msb := 22 }
def deviceEccFailed : Bitfield 32 := { lsb := 21, msb := 21 }
def ccError : Bitfield 32 := { lsb := 20, msb := 20 }
def error : Bitfield 32 := { lsb := 19, msb := 19 }
def currentState : Bitfield 32 := { lsb := 9, msb := 12 }
def readyForData : Bitfield 32 := { lsb := 8, msb := 8 }
def switchError : Bitfield 32 := { lsb := 7, msb := 7 }

end DeviceStatus

end Mmc

end Emmc
