import Cc3501eBridge.Lib.Replay
import Cc3501eBridge.NoLostJob
import Cc3501eBridge.RecvReplay
import Cc3501eBridge.SendOnce
import Cc3501eBridge.OwnResult
import Cc3501eBridge.StaleRecv
import Cc3501eBridge.Lib.Lease
import Cc3501eBridge.Lib.RingBuffer
import Cc3501eBridge.RingLease
import Cc3501eBridge.RingStream
import Cc3501eBridge.Frame
import Cc3501eBridge.ReplyFrame
import Cc3501eBridge.RequestGate
import Cc3501eBridge.Lib.Padding
import Cc3501eBridge.ReplyData
import Cc3501eBridge.SpiSlave
import Cc3501eBridge.SpiLink
import Cc3501eBridge.LatchReplay
import Cc3501eBridge.Seams
import Cc3501eBridge.OtaAbort
import Cc3501eBridge.EventQueue
import Cc3501eBridge.RingOwner
import Cc3501eBridge.RingVerdict
import Cc3501eBridge.RecvOnce
import Cc3501eBridge.WifiEvents
import Cc3501eBridge.WifiStatus
import Cc3501eBridge.JobBytes
import Cc3501eBridge.ReplyFits
import Cc3501eBridge.CorruptFrame
import Cc3501eBridge.ResetAck
import Cc3501eBridge.BootMode
import Cc3501eBridge.OtaWindow
import Cc3501eBridge.Spi1Once
import Cc3501eBridge.GattcOutcome
import Cc3501eBridge.GapLink
import Cc3501eBridge.GattRegister
import Cc3501eBridge.BleScan
import Cc3501eBridge.GattRetry
import Cc3501eBridge.TransferOwner
import Cc3501eBridge.Gpio
import Cc3501eBridge.Lib.Polling
import Cc3501eBridge.AssocWait
import Cc3501eBridge.SockConnect
import Cc3501eBridge.Lib.BitMask
import Cc3501eBridge.Lib.Atomic
import Cc3501eBridge.PowerRequests
import Cc3501eBridge.PowerPresets
import Cc3501eBridge.SoftAp
import Cc3501eBridge.ConnectVerdict
import Cc3501eBridge.ListenTable
import Cc3501eBridge.QuietRearm
import Cc3501eBridge.ResyncHeal
import Cc3501eBridge.Spi1Windows
import Cc3501eBridge.CrcStatics
import Cc3501eBridge.SockEof
import Cc3501eBridge.Lib.Progress
import Cc3501eBridge.DrainProgress
import Cc3501eBridge.DiagStats
import Cc3501eBridge.BootRecord
import Cc3501eBridge.Spi1Bus
import Cc3501eBridge.DrainTail
