import Cc3501eBridge.Outcomes

/-!
# What a dispatch does to the event ring and the HAL

`Dispatch` and `Outcomes` say what a dispatch does to the slot, the caches and the receive ring.
The rest of the state a handler can reach is the event ring, which only `GET_PENDING_EVENTS` drains,
and the HAL.  There a handler can do what the functions of `HalOps` do; `HalOps.Within R` says that
they all stay within the relation `R`, and then so does every dispatch.  The one function left out,
`cc3501e_hw_wifi_mark_connecting`, is called only when a `WIFI_CONNECT_STA` is queued.
-/

namespace Cc3501eBridge

variable {η : Type}

/-- Every function a handler calls, but for the mark of a queued connect, stays within `R`. -/
structure HalOps.Within (ops : HalOps η) (R : η → η → Prop) : Prop where
  refl : ∀ h, R h h
  trans : ∀ h h' h'', R h h' → R h' h'' → R h h''
  requestReset : ∀ h, R h (ops.requestReset h)
  setLogLevel : ∀ h v, R h (ops.setLogLevel h v).2
  gpioConfigure : ∀ h a b c, R h (ops.gpioConfigure h a b c).2
  gpioWrite : ∀ h a b, R h (ops.gpioWrite h a b).2
  gpioRead : ∀ h a, R h (ops.gpioRead h a).2.2
  gpioSetInterrupt : ∀ h a b c, R h (ops.gpioSetInterrupt h a b c).2
  camEnable : ∀ h a b, R h (ops.camEnable h a b).2
  setPowerPolicy : ∀ h a b c, R h (ops.setPowerPolicy h a b c).2
  otaBegin : ∀ h n, R h (ops.otaBegin h n).2
  otaWrite : ∀ h n bytes, R h (ops.otaWrite h n bytes).2
  otaFinish : ∀ h, R h (ops.otaFinish h).2
  otaAbort : ∀ h, R h (ops.otaAbort h).2
  otaPromote : ∀ h, R h (ops.otaPromote h).2
  requestPolledBoot : ∀ h, R h (ops.requestPolledBoot h).2
  clearPolledBoot : ∀ h, R h (ops.clearPolledBoot h).2
  wifiScanStop : ∀ h, R h (ops.wifiScanStop h).2

/-- Nothing is required of the HAL. -/
theorem HalOps.within_true (ops : HalOps η) : ops.Within fun _ _ => True := by
  constructor <;> intros <;> trivial

/-- The event ring is as it was, and the HAL has moved within `R`. -/
structure Keeps (R : η → η → Prop) (fw : Fw η) (out : Fw η × Reply) : Prop where
  events : out.1.events = fw.events
  moves : R fw.hal out.1.hal

namespace Keeps

variable {E : Env η} {R : η → η → Prop} {c : Cmd} {fw fw₁ : Fw η} {r : Reply} {req : List UInt8}
  {cap minCap : Nat}

theorem of_eq (hR : E.hal.Within R) {out : Fw η × Reply} (hev : out.1.events = fw.events)
    (hhal : out.1.hal = fw.hal) : Keeps R fw out := ⟨hev, by rw [hhal]; exact hR.refl _⟩

theorem refl (hR : E.hal.Within R) : Keeps R fw (fw, r) := .of_eq hR rfl rfl

theorem hal {h : η} (h' : R fw.hal h) : Keeps R fw ({ fw with hal := h }, r) := ⟨rfl, h'⟩

theorem report {x : Int × η} (h : R fw.hal x.2) : Keeps R fw (fw.report x) := .hal h

theorem ite {p : Prop} [Decidable p] {a b : Fw η × Reply} (ha : Keeps R fw a) (hb : Keeps R fw b) :
    Keeps R fw (if p then a else b) := by
  split_ifs
  · exact ha
  · exact hb

/-- However a routed request ends, it touches neither ring nor HAL if its idle arm does not. -/
theorem of_outcome (hR : E.hal.Within R) {onIdle : Fw η → Fw η} {out : Fw η × Reply}
    (h : RoutedOutcome fw c cap onIdle out)
    (hidle : ∀ fw : Fw η, (onIdle fw).events = fw.events ∧ (onIdle fw).hal = fw.hal) :
    Keeps R fw out := by
  cases h with
  | latched _ => exact .of_eq hR rfl rfl
  | collected _ _ _ => exact .of_eq hR rfl rfl
  | @submitted l w _ _ _ => exact .of_eq hR (hidle _).1 (hidle _).2
  | busy _ _ => exact .of_eq hR rfl rfl

theorem workerRouted (hR : E.hal.Within R) : Keeps R fw (handleWorkerRouted fw c minCap req cap) :=
  .ite (.refl hR) (.ite (.refl hR) (.of_outcome hR (routedPoll_outcome _ _ _ _) fun _ => ⟨rfl, rfl⟩))

theorem workerRoutedPayload (hR : E.hal.Within R) (hc : c ≠ .wifiConnectSta) :
    Keeps R fw (handleWorkerRoutedPayload E fw c req) := by
  refine .of_outcome hR (routedPoll_outcome _ _ _ _) fun fw₁ => ?_
  simp only [if_neg hc]
  exact ⟨rfl, rfl⟩

theorem workerRoutedPayloadReply (hR : E.hal.Within R) :
    Keeps R fw (handleWorkerRoutedPayloadReply fw c req minCap cap) := by
  refine .ite (.refl hR) (.of_outcome hR (routedPoll_outcome _ _ _ _) fun fw₁ => ?_)
  simp only [Fw.submitPayload]
  split_ifs <;> exact ⟨rfl, rfl⟩

/-- What follows a handler without touching ring or HAL. -/
theorem andThen {out out' : Fw η × Reply} (h : Keeps R fw out)
    (hev : out'.1.events = out.1.events) (hhal : out'.1.hal = out.1.hal) : Keeps R fw out' :=
  ⟨hev.trans h.events, by rw [hhal]; exact h.moves⟩

end Keeps

section Handlers

variable {E : Env η} {R : η → η → Prop} (hR : E.hal.Within R) (fw : Fw η) (req : List UInt8)
  (cap : Nat)

include hR

theorem handleOtaUpdateMode_keeps : Keeps R fw (handleOtaUpdateMode E fw req cap) := by
  unfold handleOtaUpdateMode
  refine .ite (.refl hR) (.ite (.refl hR) (.ite (.refl hR) (.ite (.refl hR) ?_)))
  have hmode : R fw.hal (if (byteAt req 0 = 1 : Bool) then E.hal.requestPolledBoot fw.hal
      else E.hal.clearPolledBoot fw.hal).2 := by
    split_ifs
    · exact hR.requestPolledBoot _
    · exact hR.clearPolledBoot _
  exact .ite (.hal hmode) (.hal (hR.trans _ _ _ hmode (hR.requestReset _)))

theorem handleSpi1Configure_keeps : Keeps R fw (handleSpi1Configure E fw req cap) := by
  unfold handleSpi1Configure
  refine .ite (.refl hR) (.ite (.refl hR) (.ite (.refl hR) (.ite (.refl hR) (.ite (.refl hR) ?_))))
  have h : Keeps R fw (handleWorkerRoutedPayloadReply fw .spi1Configure req 8 cap) :=
    .workerRoutedPayloadReply hR
  exact .ite (h.andThen rfl rfl) h

theorem handleSpi1Release_keeps : Keeps R fw (handleSpi1Release fw req cap) := by
  unfold handleSpi1Release
  have h : Keeps R fw (handleWorkerRouted fw .spi1Release 0 req cap) := .workerRouted hR
  exact .ite (.refl hR) (.ite (h.andThen rfl rfl) h)

theorem handleSpi1Transfer_keeps : Keeps R fw (handleSpi1Transfer E fw req cap) := by
  unfold handleSpi1Transfer
  refine .ite (.refl hR) (.ite (.refl hR) (.ite (.refl hR) ?_))
  simp only
  split
  · split_ifs <;> exact .of_eq hR rfl rfl
  · exact .of_eq hR rfl rfl
  · exact .of_eq hR rfl rfl
  · exact .of_eq hR rfl rfl

theorem handleBleGattRegister_keeps : Keeps R fw (handleBleGattRegister E fw req cap) := by
  unfold handleBleGattRegister
  cases bleGattRegisterValidate E req with
  | none => exact .refl hR
  | some n => exact .workerRoutedPayloadReply hR

theorem handleSockSend_keeps : Keeps R fw (handleSockSend fw req cap) := by
  have h := handleSockSend_outcome fw req cap
  generalize handleSockSend fw req cap = out at h
  cases h with
  | invalid _ => exact .refl hR
  | cached _ _ _ => exact .of_eq hR rfl rfl
  | noMem _ _ _ _ => exact .of_eq hR rfl rfl
  | routed _ _ _ hfw ho =>
      have h := Keeps.of_outcome hR ho fun _ => ⟨rfl, rfl⟩
      subst hfw
      exact ⟨h.events, h.moves⟩

theorem handleSockRecv_keeps : Keeps R fw (handleSockRecv fw req cap) := by
  have h := handleSockRecv_outcome fw req cap
  generalize handleSockRecv fw req cap = out at h
  cases h <;> exact .of_eq hR rfl rfl

theorem handleSockClose_keeps : Keeps R fw (handleSockClose E fw req) := by
  refine .ite (.refl hR) ?_
  have h : Keeps R { fw with recv := fw.recv.forgetHandle (wordAt req 0) }
      (handleWorkerRoutedPayload E { fw with recv := fw.recv.forgetHandle (wordAt req 0) }
        .sockClose req) := .workerRoutedPayload hR (by decide)
  exact ⟨h.events, h.moves⟩

/-- `GET_PENDING_EVENTS` apart, no opcode touches the event ring; and a queued connect apart, none
does more to the HAL than its functions do. -/
theorem handle_keeps {c : Cmd} (h : c ≠ .getPendingEvents ∧ c ≠ .wifiConnectSta) :
    Keeps R fw (handle E c fw req cap) := by
  cases c with
  | getPendingEvents => exact absurd rfl h.1
  | wifiConnectSta => exact absurd rfl h.2
  | ping => exact .ite (.refl hR) (.refl hR)
  | getVersion => exact .ite (.refl hR) (.ite (.refl hR) (.refl hR))
  | getMac => exact .workerRouted hR
  | reset => exact .ite (.refl hR) (.hal (hR.requestReset _))
  | getDiagInfo => exact .ite (.refl hR) (.ite (.refl hR) (.refl hR))
  | getCapabilities => exact .ite (.refl hR) (.ite (.refl hR) (.refl hR))
  | otaBegin => exact .ite (.refl hR) (.report (hR.otaBegin _ _))
  | otaWrite => exact .ite (.refl hR) (.report (hR.otaWrite _ _ _))
  | otaFinish => exact .ite (.refl hR) (.report (hR.otaFinish _))
  | otaAbort => exact .ite (.refl hR) (.report (hR.otaAbort _))
  | otaStatus => exact .ite (.refl hR) (.ite (.refl hR) (.ite (.refl hR) (.refl hR)))
  | otaPromote => exact .ite (.refl hR) (.report (hR.otaPromote _))
  | otaUpdateMode => exact handleOtaUpdateMode_keeps hR fw req cap
  | streamWrite => exact .of_eq hR rfl rfl
  | gpioConfigure => exact .ite (.refl hR) (.report (hR.gpioConfigure _ _ _ _))
  | gpioWrite => exact .ite (.refl hR) (.report (hR.gpioWrite _ _ _))
  | gpioRead => exact .ite (.refl hR) (.ite (.refl hR) (.hal (hR.gpioRead _ _)))
  | gpioSetInterrupt => exact .ite (.refl hR) (.report (hR.gpioSetInterrupt _ _ _ _))
  | spi1Configure => exact handleSpi1Configure_keeps hR fw req cap
  | spi1Transfer => exact handleSpi1Transfer_keeps hR fw req cap
  | spi1Release => exact handleSpi1Release_keeps hR fw req cap
  | camEnable => exact .ite (.refl hR) (.report (hR.camEnable _ _ _))
  | camDisable => exact .ite (.refl hR) (.report (hR.camEnable _ _ _))
  | wifiScanStart => exact .workerRouted hR
  | wifiScanStop => exact .ite (.refl hR) (.report (hR.wifiScanStop _))
  | wifiDisconnect => exact .ite (.refl hR) (.workerRouted hR)
  | wifiApStart => exact .ite (.refl hR) (.ite (.refl hR) (.workerRoutedPayload hR (by decide)))
  | wifiApStop => exact .workerRouted hR
  | wifiGetRssi => exact .workerRouted hR
  | wifiGetIp => exact .ite (.refl hR) (.ite (.refl hR) (.ite (.refl hR) (.refl hR)))
  | wifiStatus => exact .ite (.refl hR) (.ite (.refl hR) (.refl hR))
  | sockOpen => exact .ite (.refl hR) (.ite (.refl hR) (.workerRoutedPayloadReply hR))
  | sockConnect => exact .ite (.refl hR) (.ite (.refl hR) (.workerRoutedPayload hR (by decide)))
  | sockSend => exact handleSockSend_keeps hR fw req cap
  | sockRecv => exact handleSockRecv_keeps hR fw req cap
  | sockClose => exact handleSockClose_keeps hR fw req
  | sockBind => exact .ite (.refl hR) (.ite (.refl hR) (.workerRoutedPayload hR (by decide)))
  | sockListen => exact .ite (.refl hR) (.ite (.refl hR) (.workerRoutedPayload hR (by decide)))
  | bleEnable => exact .workerRouted hR
  | bleDisable => exact .workerRouted hR
  | bleAdvStart => exact .ite (.refl hR) (.ite (.refl hR) (.workerRoutedPayload hR (by decide)))
  | bleAdvStop => exact .workerRouted hR
  | bleScanStart => exact .workerRouted hR
  | bleScanStop => exact .ite (.refl hR) (.workerRouted hR)
  | bleConnect => exact .ite (.refl hR) (.workerRoutedPayload hR (by decide))
  | bleDisconnect => exact .ite (.refl hR) (.workerRouted hR)
  | bleGattRegister => exact handleBleGattRegister_keeps hR fw req cap
  | bleGattNotify => exact .ite (.refl hR) (.workerRoutedPayload hR (by decide))
  | bleGattRead => exact .ite (.refl hR) (.workerRoutedPayloadReply hR)
  | bleGattWrite => exact .ite (.refl hR) (.workerRoutedPayload hR (by decide))
  | powerPolicy => exact .ite (.refl hR) (.hal (hR.setPowerPolicy _ _ _ _))
  | diagGetStats => exact .ite (.refl hR) (.ite (.refl hR) (.refl hR))
  | diagLogLevel => exact .ite (.refl hR) (.report (hR.setLogLevel _ _))

end Handlers

/-! ## A queued connect -/

section

variable {E : Env η} {fw : Fw η} {req : List UInt8}

/-- A `WIFI_CONNECT_STA` leaves the event ring alone.  It tells the HAL that a connect is pending
exactly if it finds a slot without a job in flight, and is then the one to queue. -/
theorem handleWifiConnectSta_cases :
    (handleWifiConnectSta E fw req).1.events = fw.events ∧
      ((handleWifiConnectSta E fw req).1.hal = fw.hal ∧
          ((handleWifiConnectSta E fw req).1.worker = fw.worker ∨
            (handleWifiConnectSta E fw req).1.worker = workerReset fw.worker) ∨
        ¬ fw.worker.job.InFlight ∧
          (handleWifiConnectSta E fw req).1.hal = E.hal.wifiMarkConnecting fw.hal) := by
  unfold handleWifiConnectSta wifiJoin
  split_ifs
  · exact ⟨rfl, .inl ⟨rfl, .inl rfl⟩⟩
  · exact ⟨rfl, .inl ⟨rfl, .inl rfl⟩⟩
  · unfold handleWorkerRoutedPayload
    have h := routedPoll_outcome fw .wifiConnectSta 0 fun fw : Fw η =>
      (if Cmd.wifiConnectSta = .wifiConnectSta then
          { fw with hal := E.hal.wifiMarkConnecting fw.hal }
        else fw).submitPayload .wifiConnectSta req
    generalize routedPoll fw .wifiConnectSta 0 _ = out at h
    cases h with
    | latched _ => exact ⟨rfl, .inl ⟨rfl, .inl rfl⟩⟩
    | collected _ _ _ => exact ⟨rfl, .inl ⟨rfl, .inr rfl⟩⟩
    | submitted _ hi hw =>
        refine ⟨rfl, .inr ⟨fun hf => ?_, rfl⟩⟩
        rcases hw with rfl | ⟨-, ht, -⟩
        · exact hf.ne_idle hi
        · exact ht.not_inFlight hf
    | busy _ _ => exact ⟨rfl, .inl ⟨rfl, .inl rfl⟩⟩

end

end Cc3501eBridge
