import Cc3501eBridge.System
import Mathlib.Data.List.Nodup

/-!
# A concrete environment

One header, one build and one HAL to evaluate the model at.  The opcodes, response bytes and
capability bits are those that comments and the vector generator of the source spell out; values
it never writes down fill the gaps.  Nothing general depends on this module: it serves the concrete
runs that show hypotheses can be met and claims can fail.
-/

namespace Cc3501eBridge

/-- The opcode bytes. -/
def Cmd.referenceOpcode : Cmd → UInt8
  | .ping => 0x00 | .getVersion => 0x01 | .reset => 0x02 | .getMac => 0x03 | .getDiagInfo => 0x04
  | .getPendingEvents => 0x05 | .getCapabilities => 0x06
  | .wifiScanStart => 0x10 | .wifiScanStop => 0x11 | .wifiConnectSta => 0x12
  | .wifiDisconnect => 0x13 | .wifiApStart => 0x14 | .wifiApStop => 0x15 | .wifiGetRssi => 0x16
  | .wifiGetIp => 0x17 | .wifiStatus => 0x1B
  | .sockOpen => 0x20 | .sockConnect => 0x21 | .sockSend => 0x22 | .sockRecv => 0x23
  | .sockClose => 0x24 | .sockBind => 0x25 | .sockListen => 0x26
  | .bleEnable => 0x30 | .bleDisable => 0x31 | .bleAdvStart => 0x32 | .bleAdvStop => 0x33
  | .bleScanStart => 0x34 | .bleScanStop => 0x35 | .bleConnect => 0x36 | .bleDisconnect => 0x37
  | .bleGattRegister => 0x38 | .bleGattNotify => 0x39 | .bleGattRead => 0x3A
  | .bleGattWrite => 0x3B
  | .otaBegin => 0x40 | .otaWrite => 0x41 | .otaFinish => 0x42 | .otaAbort => 0x43
  | .otaStatus => 0x44 | .streamWrite => 0x45 | .otaPromote => 0x46 | .otaUpdateMode => 0x47
  | .gpioConfigure => 0x50 | .gpioWrite => 0x51 | .gpioRead => 0x52 | .gpioSetInterrupt => 0x53
  | .spi1Configure => 0x55 | .spi1Transfer => 0x56 | .spi1Release => 0x57
  | .camEnable => 0x60 | .camDisable => 0x61 | .powerPolicy => 0x62
  | .diagGetStats => 0x70 | .diagLogLevel => 0x71

/-- The response bytes. -/
def Resp.referenceByte : Resp → UInt8
  | .ok => 0x5A | .errInvalid => 0x01 | .errBusy => 0x02 | .errNoMem => 0x03 | .errRadio => 0x04
  | .errNotReady => 0x05 | .errState => 0x06 | .errProtocol => 0x07

/-- The header. -/
def Header.reference : Header where
  opcode := Cmd.referenceOpcode
  opcode_injective := by
    have h : (Cmd.all.map Cmd.referenceOpcode).Nodup := by decide +kernel
    exact fun a b hab => List.inj_on_of_nodup_map h a.mem_all b.mem_all hab
  respByte := Resp.referenceByte
  protocolVersion := 0x0400
  protocolMajorLegacy := 3
  capWifiSta := 0x001
  capWifiAp := 0x002
  capSockClient := 0x004
  capSockListen := 0x008
  capBle := 0x010
  capOta := 0x020
  capGpioProxy := 0x040
  capSpi1Master := 0x080
  capCamera := 0x100
  capPowerPolicy := 0x200
  capDiagStats := 0x400
  capEvents := 0x800
  evtSockAccepted := 0x2C
  sockFamilyIpv4 := 0
  wifiIfaceSta := 0
  wifiIfaceAp := 1
  spi1Cs1 := 1
  spi1XferCsHold := 1
  spi1XferNoRx := 2
  spi1XferNoTx := 4
  bleGattRegisterVersion := 1
  wifiConnectBytes := 4
  ssidLenOff := 0
  pskLenOff := 1
  securityOff := 2

/-- A HAL without state on which every inline call succeeds. -/
def HalOps.reference : HalOps Unit where
  requestReset := id
  setLogLevel h _ := (hwOk, h)
  resetCause _ := 0
  radioRole _ := 0
  uptimeMs _ := 0
  freeHeapBytes _ := 0
  wifiLastEventId _ := 0
  otaFault _ := (0, 0)
  bootMark _ := 0
  wifiDhcpDiag _ := (0, 0)
  gpioConfigure h _ _ _ := (hwOk, h)
  gpioWrite h _ _ := (hwOk, h)
  gpioRead h _ := (hwOk, 0, h)
  gpioSetInterrupt h _ _ _ := (hwOk, h)
  camEnable h _ _ := (hwOk, h)
  setPowerPolicy h _ _ _ := (hwOk, h)
  powerRadioOk _ := true
  otaBegin h _ := (hwOk, h)
  otaWrite h _ _ := (hwOk, h)
  otaFinish h := (hwOk, h)
  otaAbort h := (hwOk, h)
  otaPromote h := (hwOk, h)
  otaStatus _ := (hwOk, 0, 0, 0)
  otaRebootRc _ := 0
  otaFlushPending _ := false
  otaPending _ := 0
  polled _ := false
  phase _ := 0
  requestPolledBoot h := (true, h)
  clearPolledBoot h := (true, h)
  wifiScanStop h := (hwOk, h)
  wifiMarkConnecting := id
  wifiGetIp _ _ := (hwOk, 0, 0, 0, 0)
  wifiConnStatus _ := (0, 0, 0)
  wifiLastReason _ := 0

/-- The Wi-Fi build with the CRC wire on that HAL. -/
def Env.reference : Env Unit where
  hdr := .reference
  build := { wireCrc := true, halStub := false, ble := true, fwVersion := 0x0400 }
  hal := .reference

/-- A request of opcode `c` with header sequence number `seq`, offered the usual reply room. -/
def Request.of (c : Cmd) (seq : UInt8) (payload : List UInt8) : Request where
  cmd := c.referenceOpcode
  flags := seq <<< 3
  payload := payload
  cap := Env.reference.build.replyDataMax

end Cc3501eBridge
