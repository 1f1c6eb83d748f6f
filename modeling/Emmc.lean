import Emmc.Lib.Throwing
import Emmc.Lib.Runs
import Emmc.Cmd
import Emmc.CmdQueue
import Emmc.Drv
import Emmc.Device
import Emmc.Device.Fifo
import Emmc.Device.Flush
import Emmc.Device.Atomic
import Emmc.Device.Served
import Emmc.Device.Completion
import Emmc.Device.Protocol
import Emmc.Lib.Memory
import Emmc.Sdhci.Reg
import Emmc.Sdhci.Config
import Emmc.Sdhci.Hw
import Emmc.Sdhci.Adma2
import Emmc.Sdhci.Submit
import Emmc.Sdhci.Irq
import Emmc.Sdhci.Capacity
import Emmc.Sdhci.Range
import Emmc.Sdhci.Scatter
import Emmc.Clock
import Emmc.Sdhci.Flush
import Emmc.Server
import Emmc.Device.Slots
import Emmc.Device.Bytes
import Emmc.Device.Life
import Emmc.Sdhci.Phases
import Emmc.Sdhci.Storm
import Emmc.DmaMap
import Emmc.Discovery
import Emmc.Sdhi.Hw
import Emmc.Sdhi.Submit
import Emmc.Sdhi.Irq
import Emmc.Device.Empty
import Emmc.Sdhci.Empty
import Emmc.CmdQueue.Calls
import Emmc.Sdhci.Sdma
import Emmc.Lib.Search
import Emmc.SetClock
import Emmc.Construct
import Emmc.Card
import Emmc.Device.Address
import Emmc.Lib.Retry
import Emmc.PowerUp
import Emmc.PowerUp.Mmc
import Emmc.PowerUp.Fallback
import Emmc.PowerUp.Sd
import Emmc.PowerUp.Applied
import Emmc.Lib.Watch
import Emmc.PowerUp.Scan
import Emmc.PowerUp.Calls
import Emmc.PowerUp.Identify
import Emmc.PowerUp.Transfer
import Emmc.PowerUp.Sends
import Emmc.PowerUp.Order
import Emmc.PowerUp.Described
import Emmc.Boot
import Emmc.Lib.Slice
import Emmc.Response
import Emmc.Sdhci.Settings
import Emmc.Sdhci.Scan
import Emmc.Sdhi.Scan
import Emmc.CommandLine
import Emmc.Factory
