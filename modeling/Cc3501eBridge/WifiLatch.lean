import Cc3501eBridge.Effects
import Cc3501eBridge.SlotInv
import Cc3501eBridge.Wifi

/-!
# The firmware with its Wi-Fi bodies

`wifiSystem` is the machine `system` with the Wi-Fi part of the HAL spelled out: while the drain is
inside a scan, a connect or a disconnect, the micro-steps of that body take the place of the opaque
return, and every step is a step of `system`.  A publication is the write of the latch's state; the
history records the values that were stored with it.

The second half says who writes the connection-status latch: a connect and a disconnect through
`wifi_conn_set`, and the dispatch that queues a connect.  No other statement, handler or callback
touches it.
-/

namespace Cc3501eBridge

variable {ρ : Type}

open Trace Machine

/-! ## The HAL with its Wi-Fi part -/

/-- The codes of the protocol header. -/
structure WifiCodes where
  state : WifiConnState → UInt8
  fail : WifiFail → UInt8
  evtConnected : UInt8
  evtDisconnected : UInt8
  state_inj : Function.Injective state
  fail_inj : Function.Injective fail

/-- A function of the rest of the HAL. -/
def besideWifi (f : ρ → Int × ρ) (h : Wifi × ρ) : Int × Wifi × ρ := ((f h.2).1, h.1, (f h.2).2)

/-- The HAL whose Wi-Fi functions are those of the source. -/
def HalOps.withWifi (ops : HalOps ρ) (C : WifiCodes) : HalOps (Wifi × ρ) where
  requestReset h := (h.1, ops.requestReset h.2)
  setLogLevel h v := besideWifi (ops.setLogLevel · v) h
  resetCause h := ops.resetCause h.2
  radioRole h := ops.radioRole h.2
  uptimeMs h := ops.uptimeMs h.2
  freeHeapBytes h := ops.freeHeapBytes h.2
  wifiLastEventId h := ops.wifiLastEventId h.2
  otaFault h := ops.otaFault h.2
  bootMark h := ops.bootMark h.2
  wifiDhcpDiag h := ops.wifiDhcpDiag h.2
  gpioConfigure h a b c := besideWifi (ops.gpioConfigure · a b c) h
  gpioWrite h a b := besideWifi (ops.gpioWrite · a b) h
  gpioRead h a := ((ops.gpioRead h.2 a).1, (ops.gpioRead h.2 a).2.1, h.1, (ops.gpioRead h.2 a).2.2)
  gpioSetInterrupt h a b c := besideWifi (ops.gpioSetInterrupt · a b c) h
  camEnable h a b := besideWifi (ops.camEnable · a b) h
  setPowerPolicy h a b c := besideWifi (ops.setPowerPolicy · a b c) h
  powerRadioOk h := ops.powerRadioOk h.2
  otaBegin h n := besideWifi (ops.otaBegin · n) h
  otaWrite h n bytes := besideWifi (ops.otaWrite · n bytes) h
  otaFinish h := besideWifi ops.otaFinish h
  otaAbort h := besideWifi ops.otaAbort h
  otaPromote h := besideWifi ops.otaPromote h
  otaStatus h := ops.otaStatus h.2
  otaRebootRc h := ops.otaRebootRc h.2
  otaFlushPending h := ops.otaFlushPending h.2
  otaPending h := ops.otaPending h.2
  polled h := ops.polled h.2
  phase h := ops.phase h.2
  requestPolledBoot h := ((ops.requestPolledBoot h.2).1, h.1, (ops.requestPolledBoot h.2).2)
  clearPolledBoot h := ((ops.clearPolledBoot h.2).1, h.1, (ops.clearPolledBoot h.2).2)
  wifiScanStop h := (hwOk, h)
  wifiMarkConnecting h := (hwWifiMarkConnecting h.1, h.2)
  wifiGetIp h iface := ops.wifiGetIp h.2 iface
  wifiConnStatus h :=
    (C.state h.1.conn.state, C.fail h.1.conn.failReason, h.1.conn.rssi.toUInt8)
  wifiLastReason h := h.1.conn.reason.toUInt16

/-- The firmware compiled against that HAL. -/
def Env.withWifi (E : Env ρ) (C : WifiCodes) : Env (Wifi × ρ) where
  hdr := E.hdr
  build := E.build
  hal := E.hal.withWifi C

/-! ## The machine -/

/-- The firmware and the Wi-Fi body under way. -/
structure WifiSys (ρ : Type) where
  sys : Sys (Wifi × ρ)
  body : Option WifiPc

/-- The latch and what surrounds it. -/
def WifiSys.wifi (s : WifiSys ρ) : Wifi := s.sys.fw.hal.1

inductive WifiSysAct (ρ : Type)
  | /-- A step of the firmware outside the bodies. -/
    sys (a : Act (Wifi × ρ))
  | /-- A step of the body under way. -/
    body (a : Answer)
  | /-- The driver delivers an event. -/
    event (e : WlanEvent)

/-- What a step shows: the event of the firmware and the publication, if it was one. -/
structure WifiSysEv where
  ev : Ev
  pub : Option Publication := none
  deriving DecidableEq, Repr

/-- A Wi-Fi body returns through its own steps, and nobody else writes the latch. -/
def WifiSys.allows (s : WifiSys ρ) : Act (Wifi × ρ) → Bool
  | .ret _ => s.body = none
  | .hal h => h.1.conn = s.wifi.conn
  | _ => true

/-- The publication a body's step makes. -/
def WifiOut.publication : WifiOut → Option Publication
  | .published p => some p
  | _ => none

/-- What a body's step is to the firmware. -/
def WifiOut.act (C : WifiCodes) (h : Wifi × ρ) : WifiOut → Act (Wifi × ρ)
  | .returned r => .ret r
  | .pushed connected => .event (if connected then C.evtConnected else C.evtDisconnected) []
  | _ => .hal h

/-- The body that a step of the drain enters. -/
def WifiSys.entered (s : WifiSys ρ) : Ev → Option WifiPc
  | .exec _ call => call.wifiEntry
  | _ => s.body

/-- One step. -/
def wifiSysStep (E : Env ρ) (C : WifiCodes) (L : WifiLimits) (s : WifiSys ρ) :
    WifiSysAct ρ → Option (WifiSys ρ × WifiSysEv)
  | .sys a =>
      if s.allows a then do
        let (sys, e) ← sysStep (E.withWifi C) s.sys a
        return ({ sys := sys, body := s.entered e }, { ev := e })
      else none
  | .event e => do
      let (sys, ev) ← sysStep (E.withWifi C) s.sys (.hal (wifiEventCb L s.wifi e, s.sys.fw.hal.2))
      return ({ s with sys := sys }, { ev := ev })
  | .body a => do
      let (w, pc, out) ← bodyStep L s.wifi a (← s.body)
      let (sys, e) ← sysStep (E.withWifi C) s.sys (out.act C (w, s.sys.fw.hal.2))
      return ({ sys := sys, body := pc }, { ev := e, pub := out.publication })

/-- The firmware with its Wi-Fi bodies as a machine. -/
def wifiSystem (E : Env ρ) (C : WifiCodes) (L : WifiLimits) :
    Machine (WifiSys ρ) (WifiSysAct ρ) WifiSysEv where
  step := wifiSysStep E C L

/-- The state in which the main loop starts. -/
def WifiSys.boot (rest : ρ) : WifiSys ρ where
  sys := .boot (.boot, rest)
  body := none

/-! ## What the bodies do to the latch -/

/-- A connect before its publication. -/
def WifiPc.attempting : WifiPc → Bool
  | .connectStart _ | .connectLazy | .connectRole | .connectClear _ | .connectStatus _
  | .connectTag _ | .connectCall _ | .connectWait _ | .connectTimeout | .connectJudge _
  | .connectReason _ | .retryBudget _ | .retryClear _ | .retryDisconnect _ | .retryOwn _
  | .retryWait _ | .networkSetUp | .lease | .noLease => true
  | _ => false

/-- The first pass a connect remembers. -/
def WifiPc.first : WifiPc → Option FirstPass
  | .connectClear first | .connectStatus first | .connectTag first | .connectCall first
  | .connectWait first | .connectJudge first | .connectReason first => first
  | .retryClear first | .retryDisconnect first | .retryOwn first | .retryWait first => some first
  | _ => none

/-- A connect before its publication; a pass it remembers has failed for a reason. -/
def WifiPc.Attempt (pc : WifiPc) : Prop :=
  pc.attempting = true ∧ ∀ f ∈ pc.first, f.failReason ≠ .none

/-- The outcome of a connect: a connection, or a failure with its reason. -/
def Publication.Sound (p : Publication) : Prop :=
  p.state = .connected ∧ p.failReason = .none ∨ p.state = .connFailed ∧ p.failReason ≠ .none

/-- A step that neither publishes, pushes nor returns. -/
def WifiOut.quiet : WifiOut → Bool
  | .tau | .called _ _ | .setUp => true
  | _ => false

/-- A step that leaves the latch alone and goes on to a statement with `Q`. -/
def GoesTo (w w' : Wifi) (pc' : Option WifiPc) (out : WifiOut) (Q : WifiPc → Prop) : Prop :=
  w'.conn = w.conn ∧ out.quiet = true ∧ ∃ pc'', pc' = some pc'' ∧ Q pc''

section Bodies

variable {L : WifiLimits} {w w' : Wifi} {a : Answer} {pc : WifiPc} {pc' : Option WifiPc}
  {out : WifiOut}

theorem hwWifiLazyStart_conn {rv : Int} (h : hwWifiLazyStart w a = some (w', rv)) :
    w'.conn = w.conn := by
  unfold hwWifiLazyStart at h
  split_ifs at h
  · obtain ⟨rfl, -⟩ := by simpa using h
    rfl
  · split at h
    · split_ifs at h <;> (obtain ⟨rfl, -⟩ := by simpa using h) <;> rfl
    · simp at h

theorem hwWifiEnsureStaRole_conn {rv : Int} (h : hwWifiEnsureStaRole w a = some (w', rv)) :
    w'.conn = w.conn := by
  unfold hwWifiEnsureStaRole at h
  split_ifs at h
  · obtain ⟨rfl, -⟩ := by simpa using h
    rfl
  · split at h
    · split_ifs at h <;> (obtain ⟨rfl, -⟩ := by simpa using h) <;> rfl
    · simp at h

/-- An attempt goes on or is published. -/
def WifiPc.AttemptOr (pc : WifiPc) : Prop :=
  pc.Attempt ∨ ∃ p after, pc = .connSet .failReason p after ∧ p.Sound

theorem attemptOr_failed {failReason : WifiFail} {reason : Int16} {after : AfterSet}
    (h : failReason ≠ .none) : (connectFailed failReason reason after).AttemptOr :=
  .inr ⟨_, _, rfl, .inr ⟨rfl, h⟩⟩

theorem attemptOr_break {failReason : WifiFail} {reason : Int16} (h : failReason ≠ .none) :
    (connectBreak failReason reason).AttemptOr := attemptOr_failed h

/-- A step of a connect before its publication. -/
theorem connectStep_attempt (hpc : pc.Attempt) (hs : connectStep w a pc = some (w', pc', out)) :
    GoesTo w w' pc' out WifiPc.AttemptOr := by
  obtain ⟨hat, hfirst⟩ := hpc
  cases pc with
  | connectStart ssidLen =>
      obtain ⟨rfl, rfl, rfl⟩ := by simpa [connectStep] using hs
      refine ⟨rfl, rfl, _, rfl, ?_⟩
      split_ifs
      · exact attemptOr_failed (by decide)
      · exact .inl ⟨rfl, nofun⟩
  | connectLazy =>
      simp only [connectStep] at hs
      split_ifs at hs
      · obtain ⟨rfl, rfl, rfl⟩ := by simpa using hs
        exact ⟨rfl, rfl, _, rfl, .inl ⟨rfl, nofun⟩⟩
      · simp only [Option.bind_eq_bind, Option.bind_eq_some_iff, Prod.exists] at hs
        obtain ⟨w₁, rv, hstart, hs⟩ := hs
        obtain ⟨rfl, rfl, rfl⟩ := by simpa using hs
        refine ⟨hwWifiLazyStart_conn hstart, rfl, _, rfl, ?_⟩
        split_ifs
        · exact .inl ⟨rfl, nofun⟩
        · exact attemptOr_failed (by decide)
  | connectRole =>
      simp only [connectStep, Option.bind_eq_bind, Option.bind_eq_some_iff, Prod.exists] at hs
      obtain ⟨w₁, rv, hrole, hs⟩ := hs
      obtain ⟨rfl, rfl, rfl⟩ := by simpa using hs
      refine ⟨hwWifiEnsureStaRole_conn hrole, rfl, _, rfl, ?_⟩
      split_ifs
      · exact .inl ⟨rfl, nofun⟩
      · exact attemptOr_failed (by decide)
  | connectClear first | connectStatus first | connectTag first =>
      obtain ⟨rfl, rfl, rfl⟩ := by simpa [connectStep] using hs
      exact ⟨rfl, rfl, _, rfl, .inl ⟨rfl, hfirst⟩⟩
  | connectCall first =>
      simp only [connectStep] at hs
      cases a with
      | rv n =>
          obtain ⟨rfl, rfl, rfl⟩ := by simpa using hs
          refine ⟨rfl, rfl, _, rfl, ?_⟩
          split_ifs
          · exact .inl ⟨rfl, hfirst⟩
          · cases first with
            | none => exact attemptOr_break (by decide)
            | some first => exact attemptOr_break (hfirst first rfl)
      | _ => simp at hs
  | connectWait first =>
      simp only [connectStep] at hs
      cases a with
      | signalled =>
          simp only at hs
          split_ifs at hs
          obtain ⟨rfl, rfl, rfl⟩ := by simpa using hs
          exact ⟨rfl, rfl, _, rfl, .inl ⟨rfl, hfirst⟩⟩
      | expired =>
          obtain ⟨rfl, rfl, rfl⟩ := by simpa using hs
          exact ⟨rfl, rfl, _, rfl, .inl ⟨rfl, hfirst⟩⟩
      | timedOut =>
          obtain ⟨rfl, rfl, rfl⟩ := by simpa using hs
          refine ⟨rfl, rfl, _, rfl, ?_⟩
          cases first with
          | none => exact .inl ⟨rfl, nofun⟩
          | some first => exact attemptOr_break (hfirst first rfl)
      | _ => simp at hs
  | connectTimeout =>
      obtain ⟨rfl, rfl, rfl⟩ := by simpa [connectStep] using hs
      exact ⟨rfl, rfl, _, rfl, attemptOr_break (by decide)⟩
  | connectJudge first =>
      obtain ⟨rfl, rfl, rfl⟩ := by simpa [connectStep] using hs
      refine ⟨rfl, rfl, _, rfl, .inl ?_⟩
      split_ifs
      · exact ⟨rfl, nofun⟩
      · exact ⟨rfl, hfirst⟩
  | connectReason first =>
      obtain ⟨rfl, rfl, rfl⟩ := by simpa [connectStep] using hs
      refine ⟨rfl, rfl, _, rfl, ?_⟩
      cases first with
      | none =>
          dsimp only
          split_ifs
          · exact .inl ⟨rfl, nofun⟩
          · exact attemptOr_break (by decide)
      | some first =>
          dsimp only
          split_ifs
          · exact attemptOr_break (hfirst first rfl)
          · exact attemptOr_break (by decide)
  | retryBudget tag =>
      simp only [connectStep] at hs
      cases a with
      | yes =>
          obtain ⟨rfl, rfl, rfl⟩ := by simpa using hs
          refine ⟨rfl, rfl, _, rfl, .inl ⟨rfl, ?_⟩⟩
          rintro f ⟨⟩
          exact WifiFail.noConfusion
      | no =>
          obtain ⟨rfl, rfl, rfl⟩ := by simpa using hs
          exact ⟨rfl, rfl, _, rfl, attemptOr_break (by decide)⟩
      | _ => simp at hs
  | retryClear first | retryOwn first =>
      obtain ⟨rfl, rfl, rfl⟩ := by simpa [connectStep] using hs
      exact ⟨rfl, rfl, _, rfl, .inl ⟨rfl, hfirst⟩⟩
  | retryDisconnect first =>
      simp only [connectStep] at hs
      split_ifs at hs
      · obtain ⟨rfl, rfl, rfl⟩ := by simpa using hs
        exact ⟨rfl, rfl, _, rfl, .inl ⟨rfl, hfirst⟩⟩
      · cases a with
        | rv n =>
            obtain ⟨rfl, rfl, rfl⟩ := by simpa using hs
            exact ⟨rfl, rfl, _, rfl, .inl ⟨rfl, hfirst⟩⟩
        | _ => simp at hs
  | retryWait first =>
      simp only [connectStep] at hs
      cases a with
      | signalled =>
          simp only at hs
          split_ifs at hs
          obtain ⟨rfl, rfl, rfl⟩ := by simpa using hs
          exact ⟨rfl, rfl, _, rfl, .inl ⟨rfl, hfirst⟩⟩
      | timedOut =>
          obtain ⟨rfl, rfl, rfl⟩ := by simpa using hs
          exact ⟨rfl, rfl, _, rfl, .inl ⟨rfl, hfirst⟩⟩
      | _ => simp at hs
  | networkSetUp =>
      obtain ⟨rfl, rfl, rfl⟩ := by simpa [connectStep] using hs
      exact ⟨rfl, rfl, _, rfl, .inl ⟨rfl, nofun⟩⟩
  | lease =>
      simp only [connectStep] at hs
      cases a with
      | yes =>
          obtain ⟨rfl, rfl, rfl⟩ := by simpa using hs
          exact ⟨rfl, rfl, _, rfl, .inr ⟨_, _, rfl, .inl ⟨rfl, rfl⟩⟩⟩
      | no =>
          obtain ⟨rfl, rfl, rfl⟩ := by simpa using hs
          exact ⟨rfl, rfl, _, rfl, .inl ⟨rfl, nofun⟩⟩
      | _ => simp at hs
  | noLease =>
      obtain ⟨rfl, rfl, rfl⟩ := by simpa [connectStep] using hs
      exact ⟨rfl, rfl, _, rfl, attemptOr_failed (by decide)⟩
  | _ => simp [WifiPc.attempting] at hat

/-- A scan. -/
def WifiPc.scanning : WifiPc → Bool
  | .scanStart _ | .scanRole _ | .scanCount _ _ | .scanClear _ _ | .scanBefore _ _ | .scanCall _ _ _
  | .scanWait _ _ | .scanDiag _ | .packStart _ | .packNext _ _ _ _ | .packCopy _ _ _ _ _ _ => true
  | _ => false

/-- The cleanup behind a failed connect. -/
def WifiPc.cleaning : WifiPc → Bool
  | .clearStale _ | .clearStaleOwn _ => true
  | _ => false

/-- A disconnect before its publication. -/
def WifiPc.disconnecting : WifiPc → Bool
  | .disconnectStart | .disconnectOwn _ => true
  | _ => false

/-- The body is about to return. -/
def WifiPc.Returning (pc : WifiPc) : Prop := ∃ rv data, pc = .ret rv data

theorem scanStep_latch (hs : scanStep L w a pc = some (w', pc', out)) :
    GoesTo w w' pc' out fun pc => pc.scanning = true ∨ pc.Returning := by
  cases pc with
  | scanStart cap =>
      simp only [scanStep, Option.bind_eq_bind, Option.bind_eq_some_iff, Prod.exists] at hs
      obtain ⟨w₁, rv, hstart, hs⟩ := hs
      obtain ⟨rfl, rfl, rfl⟩ := by simpa using hs
      refine ⟨hwWifiLazyStart_conn hstart, rfl, _, rfl, ?_⟩
      split_ifs
      · exact .inl rfl
      · exact .inr ⟨_, _, rfl⟩
  | scanRole cap =>
      simp only [scanStep, Option.bind_eq_bind, Option.bind_eq_some_iff, Prod.exists] at hs
      obtain ⟨w₁, rv, hrole, hs⟩ := hs
      obtain ⟨rfl, rfl, rfl⟩ := by simpa using hs
      exact ⟨hwWifiEnsureStaRole_conn hrole, rfl, _, rfl, .inl rfl⟩
  | scanCount cap roleUp | scanClear cap roleUp | scanBefore cap roleUp | packStart cap =>
      obtain ⟨rfl, rfl, rfl⟩ := by simpa [scanStep] using hs
      exact ⟨rfl, rfl, _, rfl, .inl rfl⟩
  | scanCall cap roleUp cbBefore =>
      simp only [scanStep] at hs
      split_ifs at hs
      · obtain ⟨rfl, rfl, rfl⟩ := by simpa using hs
        exact ⟨rfl, rfl, _, rfl, .inr ⟨_, _, rfl⟩⟩
      · cases a with
        | rv n =>
            obtain ⟨rfl, rfl, rfl⟩ := by simpa using hs
            refine ⟨rfl, rfl, _, rfl, ?_⟩
            split_ifs
            · exact .inl rfl
            · exact .inr ⟨_, _, rfl⟩
        | _ => simp at hs
  | scanWait cap cbBefore =>
      simp only [scanStep] at hs
      cases a with
      | signalled =>
          simp only at hs
          split_ifs at hs
          obtain ⟨rfl, rfl, rfl⟩ := by simpa using hs
          exact ⟨rfl, rfl, _, rfl, .inl rfl⟩
      | timedOut =>
          obtain ⟨rfl, rfl, rfl⟩ := by simpa using hs
          exact ⟨rfl, rfl, _, rfl, .inl rfl⟩
      | _ => simp at hs
  | scanDiag cbBefore =>
      obtain ⟨rfl, rfl, rfl⟩ := by simpa [scanStep] using hs
      exact ⟨rfl, rfl, _, rfl, .inr ⟨_, _, rfl⟩⟩
  | packNext cap count i buf =>
      simp only [scanStep] at hs
      split_ifs at hs <;> obtain ⟨rfl, rfl, rfl⟩ := by simpa using hs
      · exact ⟨rfl, rfl, _, rfl, .inr ⟨_, _, rfl⟩⟩
      · exact ⟨rfl, rfl, _, rfl, .inl rfl⟩
      · exact ⟨rfl, rfl, _, rfl, .inr ⟨_, _, rfl⟩⟩
  | packCopy cap count i len j buf =>
      simp only [scanStep] at hs
      split_ifs at hs <;> obtain ⟨rfl, rfl, rfl⟩ := by simpa using hs
      · exact ⟨rfl, rfl, _, rfl, .inl rfl⟩
      · exact ⟨rfl, rfl, _, rfl, .inl rfl⟩
  | _ => simp [scanStep] at hs

theorem connectStep_cleaning (hpc : pc.cleaning = true)
    (hs : connectStep w a pc = some (w', pc', out)) :
    GoesTo w w' pc' out fun pc => pc.cleaning = true ∨ pc.Returning := by
  cases pc with
  | clearStale rv =>
      simp only [connectStep] at hs
      split_ifs at hs
      · obtain ⟨rfl, rfl, rfl⟩ := by simpa using hs
        exact ⟨rfl, rfl, _, rfl, .inr ⟨_, _, rfl⟩⟩
      · cases a with
        | rv n =>
            obtain ⟨rfl, rfl, rfl⟩ := by simpa using hs
            exact ⟨rfl, rfl, _, rfl, .inl rfl⟩
        | _ => simp at hs
  | clearStaleOwn rv =>
      obtain ⟨rfl, rfl, rfl⟩ := by simpa [connectStep] using hs
      exact ⟨rfl, rfl, _, rfl, .inr ⟨_, _, rfl⟩⟩
  | _ => simp [WifiPc.cleaning] at hpc

/-- What a disconnect publishes: the reason is the one already in the latch. -/
def retirement (w : Wifi) : Publication where
  state := .disconnected
  failReason := .none
  reason := w.conn.reason

theorem disconnectStep_latch (hs : disconnectStep w a pc = some (w', pc', out)) :
    GoesTo w w' pc' out fun pc => pc.disconnecting = true ∨ pc.Returning ∨
      ∃ after, pc = .connSet .failReason (retirement w) after := by
  cases pc with
  | disconnectStart =>
      simp only [disconnectStep] at hs
      split_ifs at hs
      · obtain ⟨rfl, rfl, rfl⟩ := by simpa using hs
        exact ⟨rfl, rfl, _, rfl, .inr (.inl ⟨_, _, rfl⟩)⟩
      · cases a with
        | rv n =>
            obtain ⟨rfl, rfl, rfl⟩ := by simpa using hs
            exact ⟨rfl, rfl, _, rfl, .inl rfl⟩
        | _ => simp at hs
  | disconnectOwn rv =>
      obtain ⟨rfl, rfl, rfl⟩ := by simpa [disconnectStep] using hs
      refine ⟨rfl, rfl, _, rfl, ?_⟩
      split_ifs
      · exact .inr (.inr ⟨_, rfl⟩)
      · exact .inr (.inl ⟨_, _, rfl⟩)
  | _ => simp [disconnectStep] at hs

theorem bodyStep_attempting (h : pc.attempting = true) :
    bodyStep L w a pc = connectStep w a pc := by
  cases pc <;> simp [WifiPc.attempting, bodyStep, scanStep, disconnectStep] at h ⊢

theorem bodyStep_cleaning (h : pc.cleaning = true) : bodyStep L w a pc = connectStep w a pc := by
  cases pc <;> simp [WifiPc.cleaning, bodyStep, scanStep, disconnectStep] at h ⊢

theorem bodyStep_scanning (h : pc.scanning = true) : bodyStep L w a pc = scanStep L w a pc := by
  cases pc <;> simp [WifiPc.scanning, bodyStep, connectStep, disconnectStep] at h ⊢

theorem bodyStep_disconnecting (h : pc.disconnecting = true) :
    bodyStep L w a pc = disconnectStep w a pc := by
  cases pc <;> simp [WifiPc.disconnecting, bodyStep, scanStep, connectStep] at h ⊢

end Bodies

/-! ## What reaches the latch -/

section

variable {E : Env ρ} {C : WifiCodes} {s s' : Sys (Wifi × ρ)} {e : Ev} {req : Request}
  {fw : Fw (Wifi × ρ)} {reply : Reply}

/-- Nothing a handler calls touches Wi-Fi, but for the mark of a queued connect. -/
theorem HalOps.withWifi_within (ops : HalOps ρ) :
    (ops.withWifi C).Within fun h h' => h'.1 = h.1 := by
  constructor
  case trans => exact fun _ _ _ h h' => h'.trans h
  all_goals intros; rfl

/-- A dispatch leaves Wi-Fi alone while a job is in flight.  Otherwise it may mark a connect, and
does if it queues one. -/
theorem dispatch_wifi
    (h : protocolDispatch (E.withWifi C) s.fw req.cmd req.flags req.payload req.cap = (fw, reply)) :
    fw.hal.1 = s.fw.hal.1 ∧ (fw.worker = s.fw.worker ∨
        (fw.worker.job.InFlight → fw.worker.job.jobCmd ≠ .wifiConnectSta)) ∨
      ¬ s.job.InFlight ∧ fw.hal.1 = hwWifiMarkConnecting s.fw.hal.1 := by
  rcases dispatch_cases h with ⟨-, rfl⟩ | ⟨c, hdec, hh⟩
  · exact .inl ⟨rfl, .inl rfl⟩
  · by_cases hc : c = .wifiConnectSta
    · subst hc
      have hcases := (@handleWifiConnectSta_cases _ (E.withWifi C) (s.fw.latchSeq req) req.payload).2
      rw [show handleWifiConnectSta (E.withWifi C) (s.fw.latchSeq req) req.payload = (fw, reply)
        from hh] at hcases
      rcases hcases with ⟨hhal, hw | hw⟩ | ⟨hf, hhal⟩
      · exact .inl ⟨by rw [hhal]; rfl, .inl hw⟩
      · refine .inl ⟨by rw [hhal]; rfl, .inr fun hf => absurd ?_ hf.ne_idle⟩
        exact congrArg (fun w : Worker => w.job.state) hw
      · exact .inr ⟨hf, by rw [hhal]; rfl⟩
    · have hhal : fw.hal.1 = s.fw.hal.1 := by
        by_cases hp : c = .getPendingEvents
        · subst hp
          change handleGetPendingEvents (s.fw.latchSeq req) req.payload req.cap = (fw, reply) at hh
          unfold handleGetPendingEvents at hh
          split_ifs at hh <;> obtain ⟨rfl, -⟩ := Prod.mk.inj hh <;> rfl
        · have hk := handle_keeps (E := E.withWifi C) (HalOps.withWifi_within E.hal)
            (s.fw.latchSeq req) req.payload req.cap ⟨hp, hc⟩
          rw [hh] at hk
          exact hk.moves
      refine .inl ⟨hhal, ?_⟩
      have hslot := @handle_slot _ (E.withWifi C) (s.fw.latchSeq req) req.payload req.cap c
      rw [hh] at hslot
      change SlotStep c req.payload s.fw.worker fw.worker at hslot
      generalize fw.worker = w' at hslot ⊢
      cases hslot with
      | keep => exact .inl rfl
      | free _ => exact .inr fun hf => absurd rfl hf.ne_idle
      | submit _ _ => exact .inr fun _ => hc
      | submitPayload _ _ _ => exact .inr fun _ => hc

/-- Outside a dispatch only the environment's own step moves the HAL. -/
theorem sysStep_hal {a : Act (Wifi × ρ)} (h : sysStep (E.withWifi C) s a = some (s', e)) :
    (∃ req, a = .dispatch req) ∨ a = .hal s'.fw.hal ∨ s'.fw.hal = s.fw.hal := by
  cases a with
  | dispatch req => exact .inl ⟨req, rfl⟩
  | hal x =>
      obtain ⟨rfl, -⟩ := by simpa [sysStep] using h
      exact .inr (.inl rfl)
  | task =>
      refine .inr (.inr ?_)
      simp only [sysStep, taskStep] at h
      split at h
      · split at h <;> (try split_ifs at h) <;> (try split at h) <;>
          (simp only [Option.some.injEq, Prod.mk.injEq, reduceCtorEq] at h) <;>
          (obtain ⟨rfl, -⟩ := h) <;> rfl
      · obtain ⟨rfl, -⟩ := by simpa using h
        rfl
  | _ =>
      refine .inr (.inr ?_)
      simp only [sysStep, retStep, lwipStep] at h
      (try split at h) <;> (try split_ifs at h) <;> (try split at h) <;> (try split_ifs at h) <;>
        (simp only [Option.some.injEq, Prod.mk.injEq, reduceCtorEq] at h) <;>
        (obtain ⟨rfl, -⟩ := h) <;> rfl

/-- Only a return shows one. -/
theorem act_of_ret {a : Act (Wifi × ρ)} {t : Nat} {call : HalCall} {r : HalRet}
    (h : sysStep (E.withWifi C) s a = some (s', .ret t call r)) : a = .ret r := by
  cases a with
  | ret r' =>
      simp only [sysStep, retStep] at h
      split at h <;> (try split_ifs at h) <;>
        simp only [Option.some.injEq, Prod.mk.injEq, reduceCtorEq, Ev.ret.injEq] at h <;>
        rw [h.2.2.2]
  | task =>
      simp only [sysStep, taskStep] at h
      split at h
      · split at h <;> (try split_ifs at h) <;> (try split at h) <;> simp at h
      · simp at h
  | _ =>
      simp only [sysStep, lwipStep] at h
      (try split at h) <;> (try split_ifs at h) <;> (try split at h) <;> (try split_ifs at h) <;>
        simp at h

/-- The callback stays away from the latch. -/
theorem wifiEventCb_conn (L : WifiLimits) (w : Wifi) (ev : WlanEvent) :
    (wifiEventCb L w ev).conn = w.conn := by
  have hrecord : ∀ (w : Wifi) (r : WifiRetryEvent) (n : Int16), (w.recordReason r n).conn = w.conn := by
    intro w r n
    unfold Wifi.recordReason
    split_ifs <;> rfl
  cases ev with
  | scanResult list => rfl
  | extendedScanResult list => cases list <;> rfl
  | connect status => rfl
  | disconnect reasonCode =>
      simp only [wifiEventCb, Wifi.signal]
      split_ifs
      · exact hrecord _ _ _
      · rfl
  | associationRejected status =>
      simp only [wifiEventCb, Wifi.signal]
      split_ifs <;> exact hrecord _ _ _
  | authenticationRejected status => exact hrecord _ _ _
  | other => rfl

end

end Cc3501eBridge
