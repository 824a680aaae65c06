import Cc3501eBridge.Lib.Crc16
import Cc3501eBridge.Worker
import Cc3501eBridge.EventRing
import Cc3501eBridge.RxRing

/-!
# The firmware state

The statics of the protocol translation units, grouped as the source groups them, and the part of
the hardware abstraction layer that request handlers call directly.

The HAL is an interface (`hal/cc3501e_hw.h`) with two backends, so it is a parameter here: `η` is
whatever state a backend keeps and `HalOps` its functions, each reading and replacing that state.
Only the functions a handler calls *inside* a dispatch are listed; the blocking bodies run by the
drain are environment steps of `System`.  The receive ring of the TI backend is kept out of `η`, as
a state of its own, because statements about sockets are statements about it.
-/

namespace Cc3501eBridge

/-! ## Statics -/

/-- `s_retry_latch` and its hit counter (`protocol.c`); `data` are the `len` bytes in use. -/
structure RetryLatch where
  valid : Bool
  cmd : Cmd
  seq : UInt8
  status : Resp
  data : List UInt8
  /-- `g_retry_latch_hits`. -/
  hits : UInt32

/-- The `SOCK_SEND` reply cache (`protocol_sockets.c`). -/
structure SendCache where
  cached : Bool
  seq : UInt8
  status : Resp
  /-- `g_sock_send_reply[2]`. -/
  reply : List UInt8

/-- What identifies a receive: header sequence number, handle and requested length.  The source
keeps the three as separate variables, once for the worker cache (`g_sock_recv_wk_*`) and once for
the last request offered to the ring (`last_recv_*`), and always compares all three. -/
structure RecvKey where
  seq : UInt8
  handle : UInt16
  maxLen : UInt16
  deriving DecidableEq, Repr

/-- The worker-fallback `SOCK_RECV` reply cache and `g_sock_recv_job_seq`. -/
structure RecvCache where
  cached : Bool
  key : RecvKey
  status : Resp
  replyLen : Nat
  /-- `g_sock_recv_wk_reply[CC3501E_REPLY_DATA_MAX]`. -/
  reply : Buf
  jobSeq : UInt8

/-- `protocol_spi.c`'s statics. -/
structure Spi1 where
  configured : Bool
  csHeld : Bool
  deriving DecidableEq

/-- `protocol.c`'s diagnostics. -/
structure Stats where
  framesOk : UInt32
  framesErr : UInt32
  lastError : Resp
  deriving DecidableEq

/-- The firmware's memory as request handlers and the drain share it. -/
structure Fw (η : Type) where
  worker : Worker
  latch : RetryLatch
  /-- `s_current_req_seq`. -/
  currentReqSeq : UInt8
  send : SendCache
  recv : RecvCache
  /-- `last_recv_seq`, `last_recv_handle`, `last_recv_max_len`. -/
  last : RecvKey
  rx : RxRing
  spi1 : Spi1
  /-- `g_stream_bytes`. -/
  streamBytes : UInt32
  events : EventRing
  crc : Crc16.Memo
  stats : Stats
  hal : η

/-! ## The HAL a handler calls inline -/

/-- The functions of `cc3501e_hw.h` and `transport.h` that handlers call inside a dispatch. -/
structure HalOps (η : Type) where
  requestReset : η → η
  setLogLevel : η → UInt8 → Int × η
  resetCause : η → UInt8
  radioRole : η → UInt8
  uptimeMs : η → UInt32
  freeHeapBytes : η → UInt32
  wifiLastEventId : η → UInt32
  /-- `cc3501e_hw_ota_fault`: stage and low byte of the last PSA status. -/
  otaFault : η → UInt8 × UInt8
  /-- `bridge_transport_spi_boot_mark`. -/
  bootMark : η → UInt8
  /-- `cc3501e_hw_wifi_dhcp_diag`: state and flags. -/
  wifiDhcpDiag : η → UInt8 × UInt8
  gpioConfigure : η → UInt8 → UInt8 → UInt8 → Int × η
  gpioWrite : η → UInt8 → UInt8 → Int × η
  /-- `cc3501e_hw_gpio_read`: return code and level. -/
  gpioRead : η → UInt8 → Int × UInt8 × η
  gpioSetInterrupt : η → UInt8 → UInt8 → UInt8 → Int × η
  camEnable : η → UInt8 → UInt8 → Int × η
  setPowerPolicy : η → UInt8 → UInt8 → UInt32 → Int × η
  powerRadioOk : η → Bool
  otaBegin : η → UInt32 → Int × η
  otaWrite : η → UInt32 → List UInt8 → Int × η
  otaFinish : η → Int × η
  otaAbort : η → Int × η
  otaPromote : η → Int × η
  /-- `cc3501e_hw_ota_status`: return code, state, bytes written, total length. -/
  otaStatus : η → Int × UInt8 × UInt32 × UInt32
  otaRebootRc : η → UInt8
  otaFlushPending : η → Bool
  otaPending : η → UInt8
  /-- `bridge_transport_spi_polled`. -/
  polled : η → Bool
  /-- `bridge_transport_spi_phase`. -/
  phase : η → UInt8
  requestPolledBoot : η → Bool × η
  clearPolledBoot : η → Bool × η
  wifiScanStop : η → Int × η
  wifiMarkConnecting : η → η
  /-- `cc3501e_hw_wifi_get_ip`: return code and the four address bytes. -/
  wifiGetIp : η → UInt8 → Int × (UInt8 × UInt8 × UInt8 × UInt8)
  /-- `cc3501e_hw_wifi_conn_status`: state, failure reason, RSSI byte. -/
  wifiConnStatus : η → UInt8 × UInt8 × UInt8
  wifiLastReason : η → UInt16

/-- Everything the firmware is compiled against. -/
structure Env (η : Type) where
  hdr : Header
  build : Build
  hal : HalOps η

/-- The outcome of a handler: a response code and the reply data it wrote. -/
structure Reply where
  status : Resp
  data : List UInt8
  deriving DecidableEq, Repr

/-- A reply without data. -/
def Reply.bare (status : Resp) : Reply := { status := status, data := [] }

@[simp] theorem Reply.bare_status (status : Resp) : (Reply.bare status).status = status := rfl

namespace Fw

variable {η : Type}

/-- The statics as the C runtime and `main`'s initialisers leave them, with the CRC table that
`spi_open_and_arm` builds before the slave is armed for the first time. -/
def boot (hal : η) : Fw η where
  worker := .init
  latch := { valid := false, cmd := .ping, seq := 0, status := .ok, data := [], hits := 0 }
  currentReqSeq := 0
  send := { cached := false, seq := 0, status := .ok, reply := [0, 0] }
  recv := { cached := false, key := { seq := 0, handle := 0, maxLen := 0 }, status := .ok,
            replyLen := 0, reply := .zero, jobSeq := 0 }
  last := { seq := 0, handle := 0, maxLen := 0 }
  rx := .init
  spi1 := { configured := false, csHeld := false }
  streamBytes := 0
  events := .init
  crc := .build
  stats := { framesOk := 0, framesErr := 0, lastError := .ok }
  hal := hal

end Fw

end Cc3501eBridge
