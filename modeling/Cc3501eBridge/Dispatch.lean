import Cc3501eBridge.Handlers

/-!
# Dispatch

`protocol_dispatch`: latch the request's sequence number and hand the payload to the opcode's
handler.  The rest of the file says what a dispatch may touch.  All opcodes but three are *plain*:
they make one step on the job slot and leave the socket caches, the receive ring, the CRC table and
the frame counters alone.  `SOCK_SEND`, `SOCK_RECV` and `SOCK_CLOSE` also touch the caches; what
they do to them is stated one by one.
-/

namespace Cc3501eBridge

variable {η : Type}

/-- The request sequence number in a header's flags byte. -/
def reqSeq (flags : UInt8) : UInt8 := (flags >>> 3) &&& 0x1F

/-- The handler of an opcode. -/
def handle (E : Env η) (c : Cmd) (fw : Fw η) (req : List UInt8) (cap : Nat) : Fw η × Reply :=
  match c with
  | .ping => handlePing fw req
  | .getVersion => handleGetVersion E fw req cap
  | .getMac => handleGetMac fw req cap
  | .reset => handleReset E fw req
  | .getDiagInfo => handleGetDiagInfo E fw req cap
  | .getPendingEvents => handleGetPendingEvents fw req cap
  | .getCapabilities => handleGetCapabilities E fw req cap
  | .otaBegin => handleOtaBegin E fw req
  | .otaWrite => handleOtaWrite E fw req
  | .otaFinish => handleOtaFinish E fw req
  | .otaAbort => handleOtaAbort E fw req
  | .otaStatus => handleOtaStatus E fw req cap
  | .otaPromote => handleOtaPromote E fw req
  | .otaUpdateMode => handleOtaUpdateMode E fw req cap
  | .streamWrite => handleStreamWrite fw req
  | .gpioConfigure => handleGpioConfigure E fw req
  | .gpioWrite => handleGpioWrite E fw req
  | .gpioRead => handleGpioRead E fw req cap
  | .gpioSetInterrupt => handleGpioSetInterrupt E fw req
  | .spi1Configure => handleSpi1Configure E fw req cap
  | .spi1Transfer => handleSpi1Transfer E fw req cap
  | .spi1Release => handleSpi1Release fw req cap
  | .camEnable => handleCamEnable E fw req
  | .camDisable => handleCamDisable E fw req
  | .wifiScanStart => handleWifiScanStart fw req cap
  | .wifiScanStop => handleWifiScanStop E fw req
  | .wifiConnectSta => handleWifiConnectSta E fw req
  | .wifiDisconnect => handleWifiDisconnect fw req cap
  | .wifiApStart => handleWifiApStart E fw req
  | .wifiApStop => handleWifiApStop fw req cap
  | .wifiGetRssi => handleWifiGetRssi fw req cap
  | .wifiGetIp => handleWifiGetIp E fw req cap
  | .wifiStatus => handleWifiStatus E fw req cap
  | .sockOpen => handleSockOpen E fw req cap
  | .sockConnect => handleSockConnect E fw req
  | .sockSend => handleSockSend fw req cap
  | .sockRecv => handleSockRecv fw req cap
  | .sockClose => handleSockClose E fw req
  | .sockBind => handleSockBind E fw req
  | .sockListen => handleSockListen E fw req
  | .bleEnable => handleBleEnable fw req cap
  | .bleDisable => handleBleDisable fw req cap
  | .bleAdvStart => handleBleAdvStart E fw req
  | .bleAdvStop => handleBleAdvStop fw req cap
  | .bleScanStart => handleBleScanStart fw req cap
  | .bleScanStop => handleBleScanStop fw req cap
  | .bleConnect => handleBleConnect E fw req
  | .bleDisconnect => handleBleDisconnect fw req cap
  | .bleGattRegister => handleBleGattRegister E fw req cap
  | .bleGattNotify => handleBleGattNotify E fw req
  | .bleGattRead => handleBleGattRead fw req cap
  | .bleGattWrite => handleBleGattWrite E fw req
  | .powerPolicy => handlePowerPolicy E fw req cap
  | .diagGetStats => handleDiagGetStats fw req cap
  | .diagLogLevel => handleDiagLogLevel E fw req

/-- `protocol_dispatch`. -/
def protocolDispatch (E : Env η) (fw : Fw η) (cmd flags : UInt8) (req : List UInt8) (cap : Nat) :
    Fw η × Reply :=
  let fw := { fw with currentReqSeq := reqSeq flags }
  match E.hdr.decode cmd with
  | none => (fw, .bare .errInvalid)
  | some c => handle E c fw req cap

/-! ## What a dispatch may touch -/

/-- The part of the state that plain requests leave alone. -/
structure Side where
  send : SendCache
  recv : RecvCache
  last : RecvKey
  rx : RxRing
  crc : Crc16.Memo
  stats : Stats
  currentReqSeq : UInt8

/-- The caches, the rings, the CRC table, the frame counters and the request's sequence number. -/
def Fw.side (fw : Fw η) : Side where
  send := fw.send
  recv := fw.recv
  last := fw.last
  rx := fw.rx
  crc := fw.crc
  stats := fw.stats
  currentReqSeq := fw.currentReqSeq

/-- Everything but the job slot, the latch, the pass-through flags, the events and the HAL is as
before. -/
def Quiet (fw fw' : Fw η) : Prop := fw'.side = fw.side

namespace Quiet

variable {fw fw' fw'' : Fw η}

theorem trans (h : Quiet fw fw') (h' : Quiet fw' fw'') : Quiet fw fw'' := Eq.trans h' h

theorem send (h : Quiet fw fw') : fw'.send = fw.send := congrArg Side.send h

theorem recv (h : Quiet fw fw') : fw'.recv = fw.recv := congrArg Side.recv h

theorem last (h : Quiet fw fw') : fw'.last = fw.last := congrArg Side.last h

theorem rx (h : Quiet fw fw') : fw'.rx = fw.rx := congrArg Side.rx h

theorem crc (h : Quiet fw fw') : fw'.crc = fw.crc := congrArg Side.crc h

theorem stats (h : Quiet fw fw') : fw'.stats = fw.stats := congrArg Side.stats h

end Quiet

/-- A plain request: one step on the slot, nothing on the caches and rings. -/
structure Plain (c : Cmd) (req : List UInt8) (fw : Fw η) (out : Fw η × Reply) : Prop where
  slot : SlotStep c req fw.worker out.1.worker
  quiet : Quiet fw out.1

namespace Plain

variable {c : Cmd} {req : List UInt8} {fw : Fw η} {r : Reply} {cap minCap : Nat}

/-- The handler answered without touching anything. -/
theorem refl : Plain c req fw (fw, r) := ⟨.keep, rfl⟩

/-- The handler only called the HAL. -/
theorem hal (h : η) : Plain c req fw ({ fw with hal := h }, r) := ⟨.keep, rfl⟩

theorem report (x : Int × η) : Plain c req fw (fw.report x) := .hal x.2

/-- However a routed request ends, it is plain if its idle arm is. -/
theorem of_outcome {onIdle : Fw η → Fw η} {out : Fw η × Reply}
    (h : RoutedOutcome fw c cap onIdle out)
    (hidle : ∀ fw₁ : Fw η, SlotStep c req fw₁.worker (onIdle fw₁).worker ∧ Quiet fw₁ (onIdle fw₁)) :
    Plain c req fw out := by
  cases h with
  | latched _ => exact ⟨.keep, rfl⟩
  | collected _ _ ht => exact ⟨.free ht, rfl⟩
  | @submitted l w _ _ hw =>
      obtain ⟨hs, hq⟩ := hidle { fw with latch := l, worker := w }
      have hq' : Quiet fw (onIdle { fw with latch := l, worker := w }) := Quiet.trans rfl hq
      rcases hw with rfl | ⟨-, ht, rfl⟩
      · exact ⟨hs, hq'⟩
      · exact ⟨hs.of_reset ht, hq'⟩
  | busy _ _ => exact ⟨.keep, rfl⟩

theorem workerRouted (hc : c.carriesPayload = false) :
    Plain c req fw (handleWorkerRouted fw c minCap req cap) := by
  unfold handleWorkerRouted
  split_ifs
  · exact .refl
  · exact .refl
  · exact .of_outcome (routedPoll_outcome _ _ _ _) fun fw₁ => ⟨workerSubmit_slotStep _ _ hc, rfl⟩

theorem workerRoutedPayload (E : Env η) (hc : c.carriesPayload = true) :
    Plain c req fw (handleWorkerRoutedPayload E fw c req) := by
  refine .of_outcome (routedPoll_outcome _ _ _ _) fun fw₁ => ⟨?_, ?_⟩
  · split_ifs <;> exact workerSubmitPayload_slotStep _ _ hc
  · split_ifs <;> rfl

theorem workerRoutedPayloadReply (hc : c.carriesPayload = true) (hr : c ≠ .sockRecv) :
    Plain c req fw (handleWorkerRoutedPayloadReply fw c req minCap cap) := by
  unfold handleWorkerRoutedPayloadReply
  split_ifs
  · exact .refl
  · exact .of_outcome (routedPoll_outcome _ _ _ _) fun fw₁ => ⟨workerSubmitPayload_slotStep _ _ hc, rfl⟩

theorem ite {p : Prop} [Decidable p] {a b : Fw η × Reply} (ha : Plain c req fw a)
    (hb : Plain c req fw b) : Plain c req fw (if p then a else b) := by
  split_ifs
  · exact ha
  · exact hb

/-- What follows a plain request without touching slot, caches or rings. -/
theorem andThen {out out' : Fw η × Reply} (h : Plain c req fw out)
    (hw : out'.1.worker = out.1.worker) (hq : Quiet out.1 out'.1) : Plain c req fw out' :=
  ⟨by rw [hw]; exact h.slot, h.quiet.trans hq⟩

end Plain

section PlainHandlers

variable (E : Env η) (fw : Fw η) (req : List UInt8) (cap : Nat)

theorem handleSpi1Configure_plain :
    Plain .spi1Configure req fw (handleSpi1Configure E fw req cap) := by
  unfold handleSpi1Configure
  refine .ite .refl (.ite .refl (.ite .refl (.ite .refl (.ite .refl ?_))))
  have h : Plain .spi1Configure req fw (handleWorkerRoutedPayloadReply fw .spi1Configure req 8 cap) :=
    .workerRoutedPayloadReply rfl (by decide)
  exact .ite (h.andThen rfl rfl) h

theorem handleSpi1Release_plain : Plain .spi1Release req fw (handleSpi1Release fw req cap) := by
  unfold handleSpi1Release
  refine .ite .refl ?_
  have h : Plain .spi1Release req fw (handleWorkerRouted fw .spi1Release 0 req cap) := .workerRouted rfl
  exact .ite (h.andThen rfl rfl) h

theorem handleSpi1Transfer_plain : Plain .spi1Transfer req fw (handleSpi1Transfer E fw req cap) := by
  unfold handleSpi1Transfer
  refine .ite .refl (.ite .refl (.ite .refl ?_))
  rcases workerPoll_cases fw.worker .spi1Transfer cap with
    ⟨hi, hp⟩ | ⟨hc, ht, hp⟩ | ⟨hf, st, hst, hp⟩ | ⟨hc, hd, hlen, hp⟩ | ⟨hc, hd, hlen, hp⟩ |
    ⟨hc, he, hp⟩
  · simp only [hp]
    exact ⟨workerSubmitPayload_slotStep _ _ rfl, rfl⟩
  · simp only [hp]
    exact ⟨(workerSubmitPayload_slotStep _ _ rfl).of_reset ht, rfl⟩
  · rcases hst with rfl | rfl <;> simp only [hp] <;> exact ⟨.keep, rfl⟩
  · simp only [hp]
    exact ⟨.free (.inl hd), rfl⟩
  · simp only [hp]
    refine .ite ⟨.keep, rfl⟩ ⟨?_, rfl⟩
    exact (workerSubmitPayload_slotStep _ _ rfl).of_reset (.inl hd)
  · simp only [hp]
    exact ⟨.free (.inr he), rfl⟩

theorem handleOtaUpdateMode_plain (c : Cmd) :
    Plain c req fw (handleOtaUpdateMode E fw req cap) := by
  unfold handleOtaUpdateMode
  refine .ite .refl (.ite .refl (.ite .refl ?_))
  exact .ite .refl (.ite (.hal _) (.hal _))

theorem handleBleGattRegister_plain :
    Plain .bleGattRegister req fw (handleBleGattRegister E fw req cap) := by
  unfold handleBleGattRegister
  cases bleGattRegisterValidate E req with
  | none => exact .refl
  | some n => exact .workerRoutedPayloadReply rfl (by decide)

/-- Every opcode but `SOCK_SEND`, `SOCK_RECV` and `SOCK_CLOSE` is plain. -/
theorem handle_plain {c : Cmd} (h : c ≠ .sockSend ∧ c ≠ .sockRecv ∧ c ≠ .sockClose) :
    Plain c req fw (handle E c fw req cap) := by
  cases c with
  | ping => exact .ite .refl .refl
  | getVersion => exact .ite .refl (.ite .refl .refl)
  | getMac => exact .workerRouted rfl
  | reset => exact .ite .refl (.hal _)
  | getDiagInfo => exact .ite .refl (.ite .refl .refl)
  | getPendingEvents => exact .ite .refl ⟨.keep, rfl⟩
  | getCapabilities => exact .ite .refl (.ite .refl .refl)
  | otaBegin => exact .ite .refl (.report _)
  | otaWrite => exact .ite .refl (.report _)
  | otaFinish => exact .ite .refl (.report _)
  | otaAbort => exact .ite .refl (.report _)
  | otaStatus => exact .ite .refl (.ite .refl (.ite .refl .refl))
  | otaPromote => exact .ite .refl (.report _)
  | otaUpdateMode => exact handleOtaUpdateMode_plain E fw req cap _
  | streamWrite => exact ⟨.keep, rfl⟩
  | gpioConfigure => exact .ite .refl (.report _)
  | gpioWrite => exact .ite .refl (.report _)
  | gpioRead => exact .ite .refl (.ite .refl (.hal _))
  | gpioSetInterrupt => exact .ite .refl (.report _)
  | spi1Configure => exact handleSpi1Configure_plain E fw req cap
  | spi1Transfer => exact handleSpi1Transfer_plain E fw req cap
  | spi1Release => exact handleSpi1Release_plain fw req cap
  | camEnable => exact .ite .refl (.report _)
  | camDisable => exact .ite .refl (.report _)
  | wifiScanStart => exact .workerRouted rfl
  | wifiScanStop => exact .ite .refl (.report _)
  | wifiConnectSta => exact .ite .refl (.ite .refl (.workerRoutedPayload E rfl))
  | wifiDisconnect => exact .ite .refl (.workerRouted rfl)
  | wifiApStart => exact .ite .refl (.ite .refl (.workerRoutedPayload E rfl))
  | wifiApStop => exact .workerRouted rfl
  | wifiGetRssi => exact .workerRouted rfl
  | wifiGetIp => exact .ite .refl (.ite .refl (.ite .refl .refl))
  | wifiStatus => exact .ite .refl (.ite .refl .refl)
  | sockOpen => exact .ite .refl (.ite .refl (.workerRoutedPayloadReply rfl (by decide)))
  | sockConnect => exact .ite .refl (.ite .refl (.workerRoutedPayload E rfl))
  | sockSend => exact absurd rfl h.1
  | sockRecv => exact absurd rfl h.2.1
  | sockClose => exact absurd rfl h.2.2
  | sockBind => exact .ite .refl (.ite .refl (.workerRoutedPayload E rfl))
  | sockListen => exact .ite .refl (.ite .refl (.workerRoutedPayload E rfl))
  | bleEnable => exact .workerRouted rfl
  | bleDisable => exact .workerRouted rfl
  | bleAdvStart => exact .ite .refl (.ite .refl (.workerRoutedPayload E rfl))
  | bleAdvStop => exact .workerRouted rfl
  | bleScanStart => exact .workerRouted rfl
  | bleScanStop => exact .ite .refl (.workerRouted rfl)
  | bleConnect => exact .ite .refl (.workerRoutedPayload E rfl)
  | bleDisconnect => exact .ite .refl (.workerRouted rfl)
  | bleGattRegister => exact handleBleGattRegister_plain E fw req cap
  | bleGattNotify => exact .ite .refl (.workerRoutedPayload E rfl)
  | bleGattRead => exact .ite .refl (.workerRoutedPayloadReply rfl (by decide))
  | bleGattWrite => exact .ite .refl (.workerRoutedPayload E rfl)
  | powerPolicy => exact .ite .refl (.hal _)
  | diagGetStats => exact .ite .refl (.ite .refl .refl)
  | diagLogLevel => exact .ite .refl (.report _)

end PlainHandlers

end Cc3501eBridge
