import Cc3501eBridge.Sockets

/-!
# The other request handlers

`protocol_meta.c`, `protocol_diag.c`, `protocol_gpio.c`, `protocol_camera.c`, `protocol_power.c`,
`protocol_ota.c`, `protocol_wifi.c`, `protocol_ble.c` and `protocol_spi.c`, each handler with its
length checks and the data it returns.  Inline handlers call the HAL and answer at once; the rest go
through `Routed`.  `SPI1_TRANSFER` is the one handler that polls the slot by itself.
-/

namespace Cc3501eBridge

variable {η : Type}

/-- The tail of an inline handler that only reports a HAL return code. -/
def Fw.report (fw : Fw η) (r : Int × η) : Fw η × Reply :=
  ({ fw with hal := r.2 }, .bare (hwToResp r.1))

/-! ## Link and identity -/

/-- `handle_ping`. -/
def handlePing (fw : Fw η) (req : List UInt8) : Fw η × Reply :=
  if req.length ≠ 0 then (fw, .bare .errInvalid) else (fw, .bare .ok)

/-- `CC3501E_FW_WIRE_VERSION`. -/
def fwWireVersion (E : Env η) : UInt16 :=
  if E.build.wireCrc then E.hdr.protocolVersion else (E.hdr.protocolMajorLegacy <<< 8) ||| 1

/-- `handle_get_version`. -/
def handleGetVersion (E : Env η) (fw : Fw η) (req : List UInt8) (replyCap : Nat) : Fw η × Reply :=
  if req.length ≠ 0 then (fw, .bare .errInvalid)
  else if replyCap < 2 then (fw, .bare .errNoMem)
  else (fw, { status := .ok, data := le16 (fwWireVersion E) })

/-- `cc3501e_build_capabilities`. -/
def buildCapabilities (E : Env η) : UInt32 :=
  let caps := E.hdr.capEvents ||| E.hdr.capDiagStats
  let caps := if E.build.halStub then caps
    else caps ||| E.hdr.capOta ||| E.hdr.capGpioProxy ||| E.hdr.capCamera ||| E.hdr.capPowerPolicy
  let caps := caps ||| E.hdr.capWifiSta ||| E.hdr.capWifiAp ||| E.hdr.capSockClient |||
    E.hdr.capSockListen ||| E.hdr.capSpi1Master
  if E.build.ble then caps ||| E.hdr.capBle else caps

/-- `handle_get_capabilities`. -/
def handleGetCapabilities (E : Env η) (fw : Fw η) (req : List UInt8) (replyCap : Nat) :
    Fw η × Reply :=
  if req.length ≠ 0 then (fw, .bare .errInvalid)
  else if replyCap < 8 then (fw, .bare .errNoMem)
  else (fw, { status := .ok, data := le32 (buildCapabilities E) ++ le32 0 })

/-- `handle_stream_write`. -/
def handleStreamWrite (fw : Fw η) (req : List UInt8) : Fw η × Reply :=
  ({ fw with streamBytes := fw.streamBytes + UInt32.ofNat req.length }, .bare .ok)

/-- `handle_get_mac`. -/
def handleGetMac (fw : Fw η) (req : List UInt8) (replyCap : Nat) : Fw η × Reply :=
  handleWorkerRouted fw .getMac 6 req replyCap

/-- `handle_reset`. -/
def handleReset (E : Env η) (fw : Fw η) (req : List UInt8) : Fw η × Reply :=
  if req.length ≠ 0 then (fw, .bare .errInvalid)
  else ({ fw with hal := E.hal.requestReset fw.hal }, .bare .ok)

/-! ## Diagnostics -/

/-- `handle_diag_log_level`. -/
def handleDiagLogLevel (E : Env η) (fw : Fw η) (req : List UInt8) : Fw η × Reply :=
  if req.length ≠ 1 then (fw, .bare .errInvalid)
  else fw.report (E.hal.setLogLevel fw.hal (byteAt req 0))

/-- `handle_diag_get_stats`. -/
def handleDiagGetStats (fw : Fw η) (req : List UInt8) (replyCap : Nat) : Fw η × Reply :=
  if req.length ≠ 0 then (fw, .bare .errInvalid)
  else if replyCap < 16 then (fw, .bare .errNoMem)
  else (fw, { status := .ok
              data := le32 fw.stats.framesOk ++ le32 fw.stats.framesErr ++ le32 fw.worker.execs ++
                le32 fw.latch.hits })

/-- `handle_get_diag_info`, in the build without the self-test and probe switches. -/
def handleGetDiagInfo (E : Env η) (fw : Fw η) (req : List UInt8) (replyCap : Nat) : Fw η × Reply :=
  if req.length ≠ 0 then (fw, .bare .errInvalid)
  else if replyCap < 16 then (fw, .bare .errNoMem)
  else
    let base := le16 E.build.fwVersion ++ [E.hal.resetCause fw.hal, E.hal.radioRole fw.hal] ++
      le32 (E.hal.uptimeMs fw.hal) ++ le32 (E.hal.freeHeapBytes fw.hal) ++
      [E.hdr.respByte fw.stats.lastError, (E.hal.wifiLastEventId fw.hal).toUInt8,
       (E.hal.otaFault fw.hal).2, E.hal.bootMark fw.hal]
    let dhcp := E.hal.wifiDhcpDiag fw.hal
    (fw, { status := .ok, data := if replyCap ≥ 18 then base ++ [dhcp.1, dhcp.2] else base })

/-- `handle_get_pending_events`. -/
def handleGetPendingEvents (fw : Fw η) (req : List UInt8) (replyCap : Nat) : Fw η × Reply :=
  if req.length ≠ 0 then (fw, .bare .errInvalid)
  else
    let (out, events) := eventRingDrain fw.events replyCap
    ({ fw with events := events }, { status := .ok, data := out })

/-! ## Pads, camera, power -/

/-- `handle_gpio_configure`. -/
def handleGpioConfigure (E : Env η) (fw : Fw η) (req : List UInt8) : Fw η × Reply :=
  if req.length ≠ 4 then (fw, .bare .errInvalid)
  else fw.report (E.hal.gpioConfigure fw.hal (byteAt req 0) (byteAt req 1) (byteAt req 2))

/-- `handle_gpio_write`. -/
def handleGpioWrite (E : Env η) (fw : Fw η) (req : List UInt8) : Fw η × Reply :=
  if req.length ≠ 4 then (fw, .bare .errInvalid)
  else fw.report (E.hal.gpioWrite fw.hal (byteAt req 0) (byteAt req 1))

/-- `handle_gpio_read`. -/
def handleGpioRead (E : Env η) (fw : Fw η) (req : List UInt8) (replyCap : Nat) : Fw η × Reply :=
  if req.length ≠ 1 then (fw, .bare .errInvalid)
  else if replyCap < 1 then (fw, .bare .errNoMem)
  else
    let (rv, level, hal) := E.hal.gpioRead fw.hal (byteAt req 0)
    ({ fw with hal := hal },
     { status := hwToResp rv, data := if hwToResp rv = .ok then [level] else [] })

/-- `handle_gpio_set_interrupt`. -/
def handleGpioSetInterrupt (E : Env η) (fw : Fw η) (req : List UInt8) : Fw η × Reply :=
  if req.length ≠ 4 then (fw, .bare .errInvalid)
  else fw.report (E.hal.gpioSetInterrupt fw.hal (byteAt req 0) (byteAt req 1) (byteAt req 2))

/-- The common body of `handle_cam_enable` and `handle_cam_disable`. -/
def handleCam (E : Env η) (fw : Fw η) (req : List UInt8) (on : UInt8) : Fw η × Reply :=
  if req.length ≠ 1 then (fw, .bare .errInvalid)
  else fw.report (E.hal.camEnable fw.hal (byteAt req 0) on)

/-- `handle_cam_enable`. -/
def handleCamEnable (E : Env η) (fw : Fw η) (req : List UInt8) : Fw η × Reply :=
  handleCam E fw req 1

/-- `handle_cam_disable`. -/
def handleCamDisable (E : Env η) (fw : Fw η) (req : List UInt8) : Fw η × Reply :=
  handleCam E fw req 0

/-- `handle_power_policy`. -/
def handlePowerPolicy (E : Env η) (fw : Fw η) (req : List UInt8) (replyCap : Nat) : Fw η × Reply :=
  if req.length ≠ 8 then (fw, .bare .errInvalid)
  else
    let idleMs := getLe32 (byteAt req 4) (byteAt req 5) (byteAt req 6) (byteAt req 7)
    let (rv, hal) := E.hal.setPowerPolicy fw.hal (byteAt req 0) (byteAt req 1) idleMs
    let data := if hwToResp rv = .ok ∧ replyCap ≥ 1 then
        [if E.hal.powerRadioOk hal then 1 else 0]
      else []
    ({ fw with hal := hal }, { status := hwToResp rv, data := data })

/-! ## Firmware update -/

/-- `handle_ota_begin`. -/
def handleOtaBegin (E : Env η) (fw : Fw η) (req : List UInt8) : Fw η × Reply :=
  if req.length ≠ 4 then (fw, .bare .errInvalid)
  else fw.report (E.hal.otaBegin fw.hal
    (getLe32 (byteAt req 0) (byteAt req 1) (byteAt req 2) (byteAt req 3)))

/-- `handle_ota_write`. -/
def handleOtaWrite (E : Env η) (fw : Fw η) (req : List UInt8) : Fw η × Reply :=
  if req.length < 5 ∨ req.length > 4 + E.build.otaMaxChunkV4 then (fw, .bare .errInvalid)
  else fw.report (E.hal.otaWrite fw.hal
    (getLe32 (byteAt req 0) (byteAt req 1) (byteAt req 2) (byteAt req 3)) (req.drop 4))

/-- The common body of the three argless OTA handlers. -/
def handleOtaArgless (fw : Fw η) (req : List UInt8) (op : η → Int × η) : Fw η × Reply :=
  if req.length ≠ 0 then (fw, .bare .errInvalid) else fw.report (op fw.hal)

/-- `handle_ota_finish`. -/
def handleOtaFinish (E : Env η) (fw : Fw η) (req : List UInt8) : Fw η × Reply :=
  handleOtaArgless fw req E.hal.otaFinish

/-- `handle_ota_abort`. -/
def handleOtaAbort (E : Env η) (fw : Fw η) (req : List UInt8) : Fw η × Reply :=
  handleOtaArgless fw req E.hal.otaAbort

/-- `handle_ota_promote`. -/
def handleOtaPromote (E : Env η) (fw : Fw η) (req : List UInt8) : Fw η × Reply :=
  handleOtaArgless fw req E.hal.otaPromote

/-- `handle_ota_update_mode`: the reply data is written before the mode change is tried, so a
refused change answers `STATE` with the four data bytes. -/
def handleOtaUpdateMode (E : Env η) (fw : Fw η) (req : List UInt8) (replyCap : Nat) :
    Fw η × Reply :=
  if req.length ≠ 1 then (fw, .bare .errInvalid)
  else if byteAt req 0 > 1 then (fw, .bare .errInvalid)
  else if replyCap < 4 then (fw, .bare .errNoMem)
  else
    let want : Bool := byteAt req 0 = 1
    let now := E.hal.polled fw.hal
    let data := [if now then 1 else 0, (E.hal.otaStatus fw.hal).2.1, 0, 0]
    if want = now then (fw, { status := .ok, data := data })
    else
      let (armed, hal) := if want then E.hal.requestPolledBoot fw.hal
        else E.hal.clearPolledBoot fw.hal
      if armed = false then ({ fw with hal := hal }, { status := .errState, data := data })
      else ({ fw with hal := E.hal.requestReset hal }, { status := .ok, data := data })

/-- `handle_ota_status`. -/
def handleOtaStatus (E : Env η) (fw : Fw η) (req : List UInt8) (replyCap : Nat) : Fw η × Reply :=
  if req.length ≠ 0 then (fw, .bare .errInvalid)
  else if replyCap < 16 then (fw, .bare .errNoMem)
  else
    let (rv, state, written, total) := E.hal.otaStatus fw.hal
    if rv ≠ hwOk then (fw, .bare (hwToResp rv))
    else
      let fs := (E.hal.otaFault fw.hal).1
      let mark := if fs ≠ 0 then fs
        else 0x40 ||| (if E.hal.polled fw.hal then 0x80 else 0) ||| E.hal.phase fw.hal
      (fw, { status := .ok
             data := [state, E.hal.otaRebootRc fw.hal,
                      if E.hal.otaFlushPending fw.hal then 1 else 0, mark] ++
               le32 written ++ le32 total ++ [E.hal.otaPending fw.hal, 0, 0, 0] })

/-! ## Wi-Fi -/

/-- `handle_wifi_scan_start`. -/
def handleWifiScanStart (fw : Fw η) (req : List UInt8) (replyCap : Nat) : Fw η × Reply :=
  handleWorkerRouted fw .wifiScanStart 0 req replyCap

/-- `handle_wifi_scan_stop`. -/
def handleWifiScanStop (E : Env η) (fw : Fw η) (req : List UInt8) : Fw η × Reply :=
  if req.length ≠ 0 then (fw, .bare .errInvalid) else fw.report (E.hal.wifiScanStop fw.hal)

/-- `wifi_join`: the common body of `handle_wifi_connect_sta` and `handle_wifi_ap_start`. -/
def wifiJoin (E : Env η) (fw : Fw η) (cmd : Cmd) (req : List UInt8) : Fw η × Reply :=
  if req.length < E.hdr.wifiConnectBytes then (fw, .bare .errInvalid)
  else if req.length ≠ E.hdr.wifiConnectBytes + (byteAt req E.hdr.ssidLenOff).toNat +
      (byteAt req E.hdr.pskLenOff).toNat then (fw, .bare .errInvalid)
  else handleWorkerRoutedPayload E fw cmd req

/-- `handle_wifi_connect_sta`. -/
def handleWifiConnectSta (E : Env η) (fw : Fw η) (req : List UInt8) : Fw η × Reply :=
  wifiJoin E fw .wifiConnectSta req

/-- `handle_wifi_ap_start`. -/
def handleWifiApStart (E : Env η) (fw : Fw η) (req : List UInt8) : Fw η × Reply :=
  wifiJoin E fw .wifiApStart req

/-- `handle_wifi_disconnect`. -/
def handleWifiDisconnect (fw : Fw η) (req : List UInt8) (replyCap : Nat) : Fw η × Reply :=
  if req.length ≠ 0 then (fw, .bare .errInvalid)
  else handleWorkerRouted fw .wifiDisconnect 0 req replyCap

/-- `handle_wifi_ap_stop`. -/
def handleWifiApStop (fw : Fw η) (req : List UInt8) (replyCap : Nat) : Fw η × Reply :=
  handleWorkerRouted fw .wifiApStop 0 req replyCap

/-- `handle_wifi_get_rssi`. -/
def handleWifiGetRssi (fw : Fw η) (req : List UInt8) (replyCap : Nat) : Fw η × Reply :=
  handleWorkerRouted fw .wifiGetRssi 1 req replyCap

/-- `handle_wifi_get_ip`. -/
def handleWifiGetIp (E : Env η) (fw : Fw η) (req : List UInt8) (replyCap : Nat) : Fw η × Reply :=
  if req.length > 1 then (fw, .bare .errInvalid)
  else
    let iface := if req.length = 1 then byteAt req 0 else E.hdr.wifiIfaceSta
    if iface ≠ E.hdr.wifiIfaceSta ∧ iface ≠ E.hdr.wifiIfaceAp then (fw, .bare .errInvalid)
    else if replyCap < 4 then (fw, .bare .errNoMem)
    else
      let (rv, a, b, c, d) := E.hal.wifiGetIp fw.hal iface
      (fw, { status := hwToResp rv, data := if hwToResp rv = .ok then [a, b, c, d] else [] })

/-- `handle_wifi_status`. -/
def handleWifiStatus (E : Env η) (fw : Fw η) (req : List UInt8) (replyCap : Nat) : Fw η × Reply :=
  if req.length ≠ 0 then (fw, .bare .errInvalid)
  else if replyCap < 4 then (fw, .bare .errNoMem)
  else
    let (state, failReason, rssi) := E.hal.wifiConnStatus fw.hal
    (fw, { status := .ok
           data := [state, failReason, rssi, (E.hal.wifiLastReason fw.hal).toUInt8] })

/-! ## Bluetooth -/

/-- `handle_ble_enable`. -/
def handleBleEnable (fw : Fw η) (req : List UInt8) (replyCap : Nat) : Fw η × Reply :=
  handleWorkerRouted fw .bleEnable 0 req replyCap

/-- `handle_ble_disable`. -/
def handleBleDisable (fw : Fw η) (req : List UInt8) (replyCap : Nat) : Fw η × Reply :=
  handleWorkerRouted fw .bleDisable 0 req replyCap

/-- `handle_ble_adv_start`: a 7-byte header whose last byte announces the advertising data. -/
def handleBleAdvStart (E : Env η) (fw : Fw η) (req : List UInt8) : Fw η × Reply :=
  if req.length < 7 then (fw, .bare .errInvalid)
  else if req.length ≠ 7 + (byteAt req 6).toNat then (fw, .bare .errInvalid)
  else handleWorkerRoutedPayload E fw .bleAdvStart req

/-- `handle_ble_adv_stop`. -/
def handleBleAdvStop (fw : Fw η) (req : List UInt8) (replyCap : Nat) : Fw η × Reply :=
  handleWorkerRouted fw .bleAdvStop 0 req replyCap

/-- `handle_ble_scan_start`. -/
def handleBleScanStart (fw : Fw η) (req : List UInt8) (replyCap : Nat) : Fw η × Reply :=
  handleWorkerRouted fw .bleScanStart 0 req replyCap

/-- `handle_ble_scan_stop`. -/
def handleBleScanStop (fw : Fw η) (req : List UInt8) (replyCap : Nat) : Fw η × Reply :=
  if req.length ≠ 0 then (fw, .bare .errInvalid)
  else handleWorkerRouted fw .bleScanStop 0 req replyCap

/-- `handle_ble_connect`. -/
def handleBleConnect (E : Env η) (fw : Fw η) (req : List UInt8) : Fw η × Reply :=
  if req.length ≠ 7 then (fw, .bare .errInvalid)
  else handleWorkerRoutedPayload E fw .bleConnect req

/-- `handle_ble_disconnect`. -/
def handleBleDisconnect (fw : Fw η) (req : List UInt8) (replyCap : Nat) : Fw η × Reply :=
  if req.length ≠ 0 then (fw, .bare .errInvalid)
  else handleWorkerRouted fw .bleDisconnect 0 req replyCap

/-- The characteristic loop of `ble_gatt_register_validate`: walk `n` records from `pos`. -/
def bleGattRegisterWalk (req : List UInt8) : Nat → Nat → Option Nat
  | 0, pos => some pos
  | n + 1, pos =>
      if pos + 16 + 1 + 2 > req.length then none
      else
        let pos := pos + 16 + 1 + 2 + (wordAt req (pos + 17)).toNat
        if pos > req.length then none else bleGattRegisterWalk req n pos

/-- `ble_gatt_register_validate`: the number of characteristics of a well-formed descriptor. -/
def bleGattRegisterValidate (E : Env η) (req : List UInt8) : Option Nat :=
  if req.length < 18 then none
  else if byteAt req 0 ≠ E.hdr.bleGattRegisterVersion then none
  else
    let numChars := (byteAt req 17).toNat
    if numChars = 0 ∨ numChars > bleGattMaxChars then none
    else match bleGattRegisterWalk req numChars 18 with
      | none => none
      | some pos => if pos ≠ req.length then none else some numChars

/-- `handle_ble_gatt_register`. -/
def handleBleGattRegister (E : Env η) (fw : Fw η) (req : List UInt8) (replyCap : Nat) :
    Fw η × Reply :=
  match bleGattRegisterValidate E req with
  | none => (fw, .bare .errInvalid)
  | some numChars =>
      handleWorkerRoutedPayloadReply fw .bleGattRegister req (2 + 2 * numChars) replyCap

/-- `handle_ble_gatt_notify`. -/
def handleBleGattNotify (E : Env η) (fw : Fw η) (req : List UInt8) : Fw η × Reply :=
  if req.length < 2 then (fw, .bare .errInvalid)
  else handleWorkerRoutedPayload E fw .bleGattNotify req

/-- `handle_ble_gatt_write`. -/
def handleBleGattWrite (E : Env η) (fw : Fw η) (req : List UInt8) : Fw η × Reply :=
  if req.length < 2 then (fw, .bare .errInvalid)
  else handleWorkerRoutedPayload E fw .bleGattWrite req

/-- `handle_ble_gatt_read`. -/
def handleBleGattRead (fw : Fw η) (req : List UInt8) (replyCap : Nat) : Fw η × Reply :=
  if req.length ≠ 2 then (fw, .bare .errInvalid)
  else handleWorkerRoutedPayloadReply fw .bleGattRead req 0 replyCap

/-! ## SPI1 passthrough -/

/-- `handle_spi1_configure`. -/
def handleSpi1Configure (E : Env η) (fw : Fw η) (req : List UInt8) (replyCap : Nat) :
    Fw η × Reply :=
  if req.length ≠ 8 then (fw, .bare .errInvalid)
  else if byteAt req 4 > 3 then (fw, .bare .errInvalid)
  else if byteAt req 5 ≠ 8 then (fw, .bare .errInvalid)
  else if byteAt req 6 > E.hdr.spi1Cs1 then (fw, .bare .errInvalid)
  else if fw.spi1.csHeld then (fw, .bare .errState)
  else
    let (fw, r) := handleWorkerRoutedPayloadReply fw .spi1Configure req 8 replyCap
    if r.status = .ok then ({ fw with spi1 := { configured := true, csHeld := false } }, r)
    else (fw, r)

/-- Whether `flags` has the bit `mask`. -/
def hasFlag (flags mask : UInt8) : Bool := flags &&& mask ≠ 0

/-- The request checks of `handle_spi1_transfer`. -/
def spi1TransferValid (E : Env η) (req : List UInt8) : Bool :=
  let flags := byteAt req 2
  let len := (wordAt req 0).toNat
  8 ≤ req.length &&
    (flags &&& ~~~(E.hdr.spi1XferCsHold ||| E.hdr.spi1XferNoRx ||| E.hdr.spi1XferNoTx) = 0 &&
      (len ≤ E.build.spi1MaxXferV4 &&
        req.length = if hasFlag flags E.hdr.spi1XferNoTx then 8 else 8 + len))

/-- The reply bytes an `SPI1_TRANSFER` needs. -/
def spi1TransferMinCap (E : Env η) (req : List UInt8) : Nat :=
  4 + if hasFlag (byteAt req 2) E.hdr.spi1XferNoRx then 0 else (wordAt req 0).toNat

/-- `handle_spi1_transfer`: a finished transfer of the same sequence number is answered and stays in
the slot for a retry; one of another number makes room for this request. -/
def handleSpi1Transfer (E : Env η) (fw : Fw η) (req : List UInt8) (replyCap : Nat) : Fw η × Reply :=
  if spi1TransferValid E req = false then (fw, .bare .errInvalid)
  else if fw.spi1.configured = false then (fw, .bare .errNotReady)
  else if replyCap < spi1TransferMinCap E req then (fw, .bare .errNoMem)
  else
    let (p, w) := workerPoll fw.worker .spi1Transfer replyCap
    let fw := { fw with worker := w }
    match p.st with
    | .done =>
        if 4 ≤ p.out.length ∧ byteAt p.out 3 = byteAt req 3 then
          ({ fw with spi1 := { fw.spi1 with
              csHeld := hasFlag (byteAt p.out 2) E.hdr.spi1XferCsHold } },
           { status := .ok, data := p.out })
        else
          (({ fw with worker := workerReset fw.worker } : Fw η).submitPayload .spi1Transfer req,
           .bare .errBusy)
    | .err =>
        let st : Resp := if p.err = Int8.ofInt hwErrNotimpl then .errNotReady
          else if p.err = Int8.ofInt hwErrInval then .errInvalid
          else .errState
        ({ fw with
            worker := workerReset fw.worker
            spi1 := { fw.spi1 with csHeld := false } }, .bare st)
    | .idle => (fw.submitPayload .spi1Transfer req, .bare .errBusy)
    | _ => (fw, .bare .errBusy)

/-- `handle_spi1_release`. -/
def handleSpi1Release (fw : Fw η) (req : List UInt8) (replyCap : Nat) : Fw η × Reply :=
  if req.length ≠ 0 then (fw, .bare .errInvalid)
  else
    let (fw, r) := handleWorkerRouted fw .spi1Release 0 req replyCap
    if r.status ≠ .errBusy then ({ fw with spi1 := { configured := false, csHeld := false } }, r)
    else (fw, r)

end Cc3501eBridge
