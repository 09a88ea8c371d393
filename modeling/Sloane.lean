import Sloane.Lib.Run
import Sloane.Lib.BoundedTable
import Sloane.WifiHal.HalTables
import Sloane.BtVendor.InitThread
import Sloane.BtVendor.Terminate
import Sloane.WifiHal.CancelCmd
import Sloane.WifiHal.StartCmd
import Sloane.Btremoted.MainBuf
import Sloane.Btremoted.MainLoop
import Sloane.Btremoted.PlcTime
import Sloane.Btremoted.Sessions
import Sloane.Btremoted.VoiceStream
import Sloane.GuiExt.Bookkeeping
import Sloane.GuiExt.CacheAgreement
import Sloane.Hci.H4Protocol
import Sloane.Hci.RoundTrip
import Sloane.BtVendor.FwConfig
import Sloane.BtVendor.FwEarned
import Sloane.BtVendor.FwOnce
import Sloane.Btremoted.Pairing
import Sloane.GuiExt.Consumers
import Sloane.GuiExt.Lifetime
import Sloane.GuiExt.PoolTable
import Sloane.Hci.FdWatcher
import Sloane.Hci.LowPower
import Sloane.Lib.Tokens
import Sloane.LightsHal.Leds
import Sloane.LightsHal.Speaker
import Sloane.WifiHal.RefCounts
import Sloane.WifiHal.Shutdown
import Sloane.GuiExt.DumpTunnels
import Sloane.GuiExt.Marshalling
import Sloane.Hci.MctProtocol
import Sloane.Hci.VendorInterface
import Sloane.BtVendor.RunHistory
import Sloane.BtVendor.AddrProgrammed
import Sloane.BtVendor.CommandComplete
import Sloane.WifiHal.RttResult
import Sloane.WifiHal.RttEvents
import Sloane.WifiHal.RttBalance
import Sloane.Hci.WritevSafely
import Sloane.WifiHal.CleanupLoop
import Sloane.WifiHal.Interfaces
import Sloane.WifiHal.FullScan
import Sloane.WifiHal.ApEvents
import Sloane.WifiHal.EpnoEvents
import Sloane.WifiHal.PasspointEvents
import Sloane.WifiHal.PasspointList
import Sloane.WifiHal.NlIterator
import Sloane.WifiHal.ListReplies
import Sloane.WifiHal.ScanResults
import Sloane.Lib.BitReads
import Sloane.Btremoted.Backlog
import Sloane.Btremoted.GoodFrame
import Sloane.Btremoted.SbcBits
import Sloane.Btremoted.SbcUnpack
import Sloane.Btremoted.SbcDecode
import Sloane.Btremoted.FirstPacket
import Sloane.GuiExt.ProducerDeath
import Sloane.GuiExt.AcquireBuffer
import Sloane.GuiExt.SlotKeys
import Sloane.Lib.Strides
import Sloane.UiExt.DrawLine
import Sloane.UiExt.RWTable
import Sloane.UiExt.FpsCounter
import Sloane.Lib.FrameCode
import Sloane.Hci.WriteSafely
import Sloane.Hci.CommandPacket
import Sloane.BtVendor.InitWire
import Sloane.Lib.WindowRing
import Sloane.Lib.BitPack
import Sloane.Btremoted.SbcSynthesis
import Sloane.Btremoted.SbcBounds
import Sloane.Btremoted.SbcLayout
import Sloane.Btremoted.SbcPack
import Sloane.Btremoted.SbcCrc
import Sloane.Btremoted.SbcFields
import Sloane.Btremoted.SbcQuantize
import Sloane.Btremoted.SbcInside
import Sloane.Btremoted.SbcRoundTrip
import Sloane.Btremoted.SbcEncode
import Sloane.Lib.Fill
import Sloane.Btremoted.PlcConceal
import Sloane.Btremoted.PlcFresh
import Sloane.Btremoted.VoicePath
import Sloane.Lib.AttrTree
import Sloane.WifiHal.SetupRequests
import Sloane.WifiHal.RequestRoundTrip
import Sloane.WifiHal.CmdSocket
import Sloane.BtVendor.StartupWire
