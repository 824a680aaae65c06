import Cc3501eBridge.Lib.Bytes
import Mathlib.Logic.Function.Basic

/-!
# The wire contract

The opcodes, response codes and sizes of the bridge protocol.  The firmware takes them from the
header `<alp/protocol/cc3501e.h>` of another repository; what its own source states of that header
(sizes, the codes its comments and tests spell out) is fixed here, and every value it only uses by
name is a field of `Header`.  The one thing relied on about the opcode values is that they are
pairwise different: a `switch` with two equal case labels does not compile.

`Build` collects the build switches the modelled functions look at.  The model is of the
`CC3501E_WIFI` build: a submitted job stays queued until the drain takes it.
-/

namespace Cc3501eBridge

/-! ## Sizes -/

/-- `ALP_CC3501E_HEADER_BYTES`: opcode, flags, payload length (little endian). -/
def headerBytes : Nat := 4

/-- `ALP_CC3501E_MAX_PAYLOAD`. -/
def maxPayload : Nat := 4096

/-- `ALP_CC3501E_CRC_BYTES`. -/
def crcBytes : Nat := 2

/-- `CC3501E_FRAME_MAX_BYTES`. -/
def frameMaxBytes : Nat := headerBytes + maxPayload

/-- `CC3501E_REPLY_STATUS_OFF`. -/
def replyStatusOff : Nat := headerBytes

/-- `CC3501E_REPLY_DATA_OFF`. -/
def replyDataOff : Nat := headerBytes + 1

/-- `CC3501E_REPLY_PAD`. -/
def replyPad : Nat := 8

/-- `ALP_CC3501E_SPI1_MAX_XFER`. -/
def spi1MaxXfer : Nat := 4088

/-- `ALP_CC3501E_OTA_MAX_CHUNK`. -/
def otaMaxChunk : Nat := maxPayload - 4

/-- `ALP_CC3501E_BLE_GATT_MAX_CHARS`. -/
def bleGattMaxChars : Nat := 8

/-! ## Opcodes and response codes -/

/-- The opcodes `protocol_dispatch` knows, in the order of its `switch`. -/
inductive Cmd
  | ping | getVersion | getMac | reset | getDiagInfo | getPendingEvents | getCapabilities
  | otaBegin | otaWrite | otaFinish | otaAbort | otaStatus | otaPromote | otaUpdateMode
  | streamWrite
  | gpioConfigure | gpioWrite | gpioRead | gpioSetInterrupt
  | spi1Configure | spi1Transfer | spi1Release
  | camEnable | camDisable
  | wifiScanStart | wifiScanStop | wifiConnectSta | wifiDisconnect | wifiApStart | wifiApStop
  | wifiGetRssi | wifiGetIp | wifiStatus
  | sockOpen | sockConnect | sockSend | sockRecv | sockClose | sockBind | sockListen
  | bleEnable | bleDisable | bleAdvStart | bleAdvStop | bleScanStart | bleScanStop | bleConnect
  | bleDisconnect | bleGattRegister | bleGattNotify | bleGattRead | bleGattWrite
  | powerPolicy | diagGetStats | diagLogLevel
  deriving DecidableEq, Repr

namespace Cmd

/-- Every opcode, once. -/
def all : List Cmd :=
  [ping, getVersion, getMac, reset, getDiagInfo, getPendingEvents, getCapabilities,
   otaBegin, otaWrite, otaFinish, otaAbort, otaStatus, otaPromote, otaUpdateMode, streamWrite,
   gpioConfigure, gpioWrite, gpioRead, gpioSetInterrupt, spi1Configure, spi1Transfer, spi1Release,
   camEnable, camDisable, wifiScanStart, wifiScanStop, wifiConnectSta, wifiDisconnect, wifiApStart,
   wifiApStop, wifiGetRssi, wifiGetIp, wifiStatus, sockOpen, sockConnect, sockSend, sockRecv,
   sockClose, sockBind, sockListen, bleEnable, bleDisable, bleAdvStart, bleAdvStop, bleScanStart,
   bleScanStop, bleConnect, bleDisconnect, bleGattRegister, bleGattNotify, bleGattRead,
   bleGattWrite, powerPolicy, diagGetStats, diagLogLevel]

theorem mem_all (c : Cmd) : c ∈ all := by cases c <;> decide

/-- The opcodes whose worker job carries the request's payload. -/
def carriesPayload : Cmd → Bool
  | spi1Configure | spi1Transfer | wifiConnectSta | wifiApStart | sockOpen | sockConnect | sockSend
  | sockRecv | sockClose | sockBind | sockListen | bleAdvStart | bleConnect | bleGattRegister
  | bleGattNotify | bleGattRead | bleGattWrite => true
  | _ => false

end Cmd

/-- The response codes the firmware emits (`alp_cc3501e_resp_t`). -/
inductive Resp
  | ok | errInvalid | errBusy | errNotReady | errNoMem | errRadio | errProtocol | errState
  deriving DecidableEq, Repr

/-! ## Return codes of the HAL bodies -/

/-- `CC3501E_HW_OK`. -/
def hwOk : Int := 0

/-- `CC3501E_HW_BUSY`. -/
def hwBusy : Int := 1

/-- `CC3501E_HW_ERR_NOTIMPL`. -/
def hwErrNotimpl : Int := -1

/-- `CC3501E_HW_ERR_IO`. -/
def hwErrIo : Int := -2

/-- `CC3501E_HW_ERR_INVAL`. -/
def hwErrInval : Int := -3

/-- `CC3501E_HW_ERR_STATE`. -/
def hwErrState : Int := -4

/-- `CC3501E_HW_ERR_NO_MEM`. -/
def hwErrNoMem : Int := -5

/-- `hw_to_resp`: how an inline handler maps a HAL return code. -/
def hwToResp (rv : Int) : Resp :=
  if rv = hwOk then .ok
  else if rv = hwBusy then .errBusy
  else if rv = hwErrNotimpl then .errNotReady
  else if rv = hwErrInval then .errInvalid
  else .errRadio

/-! ## The external header -/

/-- What the firmware takes by name from `<alp/protocol/cc3501e.h>`. -/
structure Header where
  /-- The opcode byte of each command. -/
  opcode : Cmd → UInt8
  opcode_injective : Function.Injective opcode
  /-- The status byte of each response code. -/
  respByte : Resp → UInt8
  /-- `ALP_CC3501E_PROTOCOL_VERSION` and `ALP_CC3501E_PROTOCOL_MAJOR_LEGACY`. -/
  protocolVersion : UInt16
  protocolMajorLegacy : UInt16
  /-- The capability bits, by the subsystem that reports them. -/
  capEvents : UInt32
  capDiagStats : UInt32
  capOta : UInt32
  capGpioProxy : UInt32
  capCamera : UInt32
  capPowerPolicy : UInt32
  capWifiSta : UInt32
  capWifiAp : UInt32
  capSockClient : UInt32
  capSockListen : UInt32
  capSpi1Master : UInt32
  capBle : UInt32
  evtSockAccepted : UInt8
  sockFamilyIpv4 : UInt8
  wifiIfaceSta : UInt8
  wifiIfaceAp : UInt8
  spi1Cs1 : UInt8
  spi1XferCsHold : UInt8
  spi1XferNoRx : UInt8
  spi1XferNoTx : UInt8
  bleGattRegisterVersion : UInt8
  /-- `sizeof(alp_cc3501e_wifi_connect_t)` and where its three used fields lie. -/
  wifiConnectBytes : Nat
  ssidLenOff : Nat
  pskLenOff : Nat
  securityOff : Nat

/-- `ALP_CC3501E_RESP_OK_LEGACY`, the success byte of the wire without CRC. -/
def respOkLegacy : UInt8 := 0x00

/-- The build switches that reach the modelled functions. -/
structure Build where
  /-- `CC3501E_WIRE_CRC`. -/
  wireCrc : Bool
  /-- `CC3501E_HAL_STUB`. -/
  halStub : Bool
  /-- `CC3501E_BLE`. -/
  ble : Bool
  /-- `CC3501E_BRIDGE_FW_VERSION_U16`. -/
  fwVersion : UInt16

namespace Header

variable (H : Header)

/-- The command an opcode byte selects, if any (`protocol_dispatch`'s `switch`). -/
def decode (b : UInt8) : Option Cmd := Cmd.all.find? fun c => H.opcode c == b

@[simp] theorem decode_opcode (c : Cmd) : H.decode (H.opcode c) = some c := by
  obtain ⟨c', hc'⟩ : ∃ c', H.decode (H.opcode c) = some c' := by
    rw [← Option.isSome_iff_exists]
    exact List.find?_isSome.mpr ⟨c, c.mem_all, by simp⟩
  have : H.opcode c' = H.opcode c := by simpa using List.find?_some hc'
  rw [hc', H.opcode_injective this]

end Header

namespace Build

variable (B : Build)

/-- `CC3501E_REPLY_DATA_MAX`: the data a reply can carry beside the status byte and the CRC. -/
def replyDataMax : Nat := if B.wireCrc then maxPayload - 1 - crcBytes else maxPayload - 1

/-- `CC3501E_SPI1_MAX_XFER_V4`. -/
def spi1MaxXferV4 : Nat := if B.wireCrc then spi1MaxXfer - crcBytes else spi1MaxXfer

/-- `CC3501E_OTA_MAX_CHUNK_V4`. -/
def otaMaxChunkV4 : Nat := if B.wireCrc then otaMaxChunk - crcBytes else otaMaxChunk

theorem replyDataMax_le : B.replyDataMax ≤ 4095 := by
  unfold replyDataMax
  split <;> decide

end Build

end Cc3501eBridge
