import Cc3501eBridge.Lib.Atomic
import Cc3501eBridge.Wire

/-!
# Power policy, radio roles and what is asked of the radio

`POWER_POLICY` is answered in the interrupt that dispatches it: `cc3501e_hw_set_power_policy` only
latches what was asked and raises two dirty flags.  The bringup task serves the flags,
`cc3501e_hw_power_service`, between the bodies that bring the station role, the soft-AP and BLE up and
down, which also set the radio's sleep authorisation.

The state has two halves: what the interrupt writes (`PowerRequest`), and what only the task writes
(`PowerTask`).  The task's bodies are programs of atomic steps.  What they ask of the power manager
and of the radio is logged, call by call, in `PowerTask.log`; what these return comes with the call
of a body.  `inHelper` is not a variable of the source: it is set between the entry and the exit of
`pp_hold_constraint` and `pp_release_constraint`.
-/

namespace Cc3501eBridge

open Prog

/-! ## Presets -/

/-- The `policy` byte of `POWER_POLICY`. -/
inductive PowerPolicy where
  | performance
  | balanced
  | lowPower
  | deepSleep
  | unknown (code : UInt8)
  deriving DecidableEq, Repr

/-- One of the four presets. -/
def PowerPolicy.IsPreset : PowerPolicy → Prop
  | .unknown _ => False
  | _ => True

instance (p : PowerPolicy) : Decidable p.IsPreset := by
  cases p <;> unfold PowerPolicy.IsPreset <;> infer_instance

/-- `WLAN_SET_POWER_SAVE`: the station's own power-save mode. -/
inductive StationPowerSave where
  | active
  | autoPs
  | powerSave
  deriving DecidableEq, Repr

/-- `WLAN_SET_POWER_MANAGEMENT`: the device-wide sleep authorisation. -/
inductive PowerManagement where
  | alwaysActive
  | elp
  deriving DecidableEq, Repr

/-- `WakeUpEvent`. -/
inductive WakeUpEvent where
  | dtim
  | nDtim
  deriving DecidableEq, Repr

/-- `WlanLongSleepInterval`, the value of `WLAN_SET_LSI`. -/
structure LongSleepInterval where
  wakeUpEvent : WakeUpEvent
  listenInterval : UInt8
  deriving DecidableEq, Repr

/-- The `role` that `GET_DIAG_INFO` reports. -/
inductive RadioRole where
  | off
  | wifiSta
  | wifiAp
  deriving DecidableEq, Repr

/-- `pp_idle_ms_to_dtims`. -/
def ppIdleMsToDtims (idleMs : UInt32) : UInt8 :=
  let dtims := idleMs / 100
  let dtims := if dtims < 2 then 2 else dtims
  let dtims := if dtims > 255 then 255 else dtims
  dtims.toUInt8

/-! ## The state -/

/-- `PowerWFF3_DISALLOW_SLEEP` and `PowerWFF3_DISALLOW_IDLE`, two constraints of the power manager. -/
structure PowerIds where
  sleep : Nat
  idle : Nat
  sleep_lt : sleep < 8
  idle_lt : idle < 8
  ne : sleep ≠ idle

/-- `ap_role_latch_t`. -/
structure ApRoleLatch where
  pending : Bool := false
  up : Bool := false
  deriving DecidableEq, Repr

/-- `ap_role_latch_started`. -/
def ApRoleLatch.started (l : ApRoleLatch) (ok : Bool) : ApRoleLatch :=
  if ok then { l with pending := true } else l

/-- `ap_role_latch_publish`. -/
def ApRoleLatch.publish (l : ApRoleLatch) : ApRoleLatch :=
  if l.pending then { l with pending := false, up := true } else l

/-- `ap_role_latch_stopped`. -/
def ApRoleLatch.stopped (_ : ApRoleLatch) : ApRoleLatch := { pending := false, up := false }

/-- What the task asks of the power manager, the radio and the transport, with what the role calls
returned, and two calls inside the firmware. -/
inductive PowerCall where
  | enablePolicy
  | setConstraint (id : Nat)
  | releaseConstraint (id : Nat)
  /-- The entry of `pp_apply_radio`. -/
  | applyRadio (policy : PowerPolicy) (idleMs : UInt32)
  | setPowerSave (ps : StationPowerSave)
  | setPowerManagement (pm : PowerManagement)
  | setLsi (lsi : LongSleepInterval)
  | setStaWifiBand
  | wlanStart (rv : Int)
  | roleUpSta (rv : Int)
  | roleUpAp (rv : Int)
  | roleDownAp (rv : Int)
  | spiReinit
  /-- The return of `cc3501e_hw_wifi_ap_stop`. -/
  | apStopReturned (rv : Int)
  deriving DecidableEq, Repr

/-- What the interrupt writes. -/
structure PowerRequest where
  policyLatched : PowerPolicy := .balanced
  idleMsLatched : UInt32 := 0
  hostSetPolicy : Bool := false
  radioDirty : Bool := false
  coreDirty : Bool := false
  deriving DecidableEq, Repr

/-- What only the task writes. -/
structure PowerTask where
  /-- `pp_constraints_held`. -/
  constraintsHeld : BitVec 8 := 0
  policyEnabled : Bool := false
  radioOk : Bool := true
  wifiStarted : Bool := false
  wifiStaRoleUp : Bool := false
  wifiApLatch : ApRoleLatch := {}
  inHelper : Bool := false
  log : List PowerCall := []
  deriving DecidableEq, Repr

/-- The request and the task. -/
abbrev PowerState : Type := PowerRequest × PowerTask

/-- After reset. -/
def PowerState.boot : PowerState := ({}, {})

/-- `cc3501e_hw_radio_role`. -/
def PowerTask.radioRole (t : PowerTask) : RadioRole :=
  if t.wifiApLatch.up then .wifiAp else if t.wifiStaRoleUp then .wifiSta else .off

/-- A call is logged. -/
def PowerTask.called (t : PowerTask) (c : PowerCall) : PowerTask := { t with log := t.log ++ [c] }

/-- Make a call. -/
def powerCall (c : PowerCall) : Prog PowerTask Unit := modify (·.called c)

/-! ## The interrupt -/

/-- `ALP_CC3501E_WAKE_NONE`. -/
def wakeNone : UInt8 := 0

/-- `cc3501e_hw_set_power_policy`. -/
def hwSetPowerPolicy (policy : PowerPolicy) (wakeEvents : UInt8) (idleMsBeforeSleep : UInt32)
    (r : PowerRequest) : PowerRequest × Int :=
  if wakeEvents = wakeNone ∧ (policy = .lowPower ∨ policy = .deepSleep) then (r, hwErrInval)
  else
    ({ policyLatched := policy, hostSetPolicy := true, idleMsLatched := idleMsBeforeSleep,
       coreDirty := true, radioDirty := true }, hwOk)

/-! ## The core half -/

/-- `(uint8_t)(1u << id)`. -/
def constraintBit (id : Nat) : BitVec 8 := 1#8 <<< id

/-- The two helpers: if `pp_constraints_held` passes the test, a call is made and it changes. -/
def ppConstraint (test : BitVec 8 → Bool) (c : PowerCall) (f : BitVec 8 → BitVec 8) :
    Prog PowerTask Unit := do
  modify fun t => { t with inHelper := true }
  let held ← get (·.constraintsHeld)
  onlyIf (test held) do
    powerCall c
    modify fun t => { t with constraintsHeld := f t.constraintsHeld }
  modify fun t => { t with inHelper := false }

/-- `pp_hold_constraint`. -/
def ppHoldConstraint (id : Nat) : Prog PowerTask Unit :=
  ppConstraint (fun held => held &&& constraintBit id = 0) (.setConstraint id) (· ||| constraintBit id)

/-- `pp_release_constraint`. -/
def ppReleaseConstraint (id : Nat) : Prog PowerTask Unit :=
  ppConstraint (fun held => held &&& constraintBit id ≠ 0) (.releaseConstraint id)
    (· &&& ~~~constraintBit id)

/-- `pp_apply_core`. -/
def ppApplyCore (ids : PowerIds) (policy : PowerPolicy) : Prog PowerTask Unit := do
  let enabled ← get (·.policyEnabled)
  onlyIf (!enabled) do
    powerCall .enablePolicy
    modify fun t => { t with policyEnabled := true }
  match policy with
  | .performance => do
      ppHoldConstraint ids.sleep
      ppHoldConstraint ids.idle
  | .balanced | .lowPower | .deepSleep => do
      ppHoldConstraint ids.sleep
      ppReleaseConstraint ids.idle
  | .unknown _ => pure ()

/-! ## The radio half -/

/-- What `Wlan_Set` returns for each of the three settings. -/
structure WlanAnswers where
  powerSave : Int := 0
  powerManagement : Int := 0
  lsi : Int := 0

/-- The power-save mode and the sleep authorisation of a preset. -/
def radioPreset : PowerPolicy → Option (StationPowerSave × PowerManagement)
  | .performance => some (.active, .alwaysActive)
  | .balanced => some (.autoPs, .elp)
  | .lowPower => some (.powerSave, .elp)
  | .deepSleep => some (.powerSave, .elp)
  | .unknown _ => none

/-- The long sleep interval of a preset, for those that set one. -/
def presetLsi (policy : PowerPolicy) (idleMs : UInt32) : Option LongSleepInterval :=
  match policy with
  | .lowPower => some ⟨.dtim, 1⟩
  | .deepSleep => some ⟨.nDtim, ppIdleMsToDtims idleMs⟩
  | _ => none

/-- `pp_apply_radio`. -/
def ppApplyRadio (w : WlanAnswers) (policy : PowerPolicy) (idleMs : UInt32) : Prog PowerTask Bool := do
  powerCall (.applyRadio policy idleMs)
  match radioPreset policy with
  | none => pure false
  | some (ps, pm) => do
      let role ← get (·.radioRole)
      -- an AP has to keep beaconing, so that no preset may hand it a sleeping mode
      let overridden : Bool := role = .wifiAp ∧ pm ≠ .alwaysActive
      powerCall (.setPowerSave ps)
      powerCall (.setPowerManagement (if overridden then .alwaysActive else pm))
      let ok : Bool := w.powerSave ≥ 0 ∧ w.powerManagement ≥ 0
      match presetLsi policy idleMs with
      | none => pure (ok && !overridden)
      | some lsi => do
          powerCall (.setLsi lsi)
          pure (w.lsi ≥ 0 && ok && !overridden)

/-- `eff` of `pp_apply_radio_effective`: the two variables are read one after the other. -/
def ppEffective : Prog PowerState PowerPolicy := do
  let hostSet ← get (·.1.hostSetPolicy)
  if hostSet then get (·.1.policyLatched) else pure .performance

/-- `pp_apply_radio_effective`, which is also `cc3501e_hw_power_apply_radio_now`. -/
def ppApplyRadioEffective (w : WlanAnswers) : Prog PowerState Unit := do
  let up ← task (get (·.wifiStaRoleUp))
  if up then do
    let eff ← ppEffective
    let idleMs ← get (·.1.idleMsLatched)
    let ok ← task (ppApplyRadio w eff idleMs)
    task (modify fun t => { t with radioOk := ok })
  else task (modify fun t => { t with radioOk := true })

/-- The dirty flags are read and cleared with interrupts masked. -/
def PowerState.takeDirty (s : PowerState) : (Bool × Bool) × PowerState :=
  ((s.1.coreDirty, s.1.radioDirty), ({ s.1 with radioDirty := false, coreDirty := false }, s.2))

/-- `cc3501e_hw_power_service`. -/
def hwPowerService (ids : PowerIds) (w : WlanAnswers) : Prog PowerState Unit := do
  let dirty ← atomically PowerState.takeDirty
  onlyIf dirty.1 do
    let policy ← get (·.1.policyLatched)
    task (ppApplyCore ids policy)
  onlyIf dirty.2 (ppApplyRadioEffective w)

/-! ## Roles -/

/-- What bringing the Wi-Fi host up meets: `osi_SyncObjCreate` and `Wlan_Start`. -/
structure StartAnswers where
  syncObjCreate : Int := 0
  wlanStart : Int := 0

/-- `cc3501e_hw_wifi_lazy_start`. -/
def wifiLazyStart (a : StartAnswers) : Prog PowerTask Int := do
  let started ← get (·.wifiStarted)
  if started then pure hwOk
  else if a.syncObjCreate ≠ 0 then pure hwErrIo
  else do
    powerCall (.wlanStart a.wlanStart)
    powerCall .spiReinit
    if a.wlanStart ≠ 0 then pure hwErrIo
    else do
      modify fun t => { t with wifiStarted := true }
      pure hwOk

/-- `cc3501e_hw_wifi_ensure_sta_role`. -/
def wifiEnsureStaRole (a : StartAnswers) (roleUp : Int) (w : WlanAnswers) : Prog PowerState Int := do
  let up ← task (get (·.wifiStaRoleUp))
  if up then pure hwOk
  else do
    let rv ← task (wifiLazyStart a)
    if rv ≠ hwOk then pure rv
    else do
      task (powerCall .setStaWifiBand)
      task (powerCall (.roleUpSta roleUp))
      if roleUp < 0 then pure hwErrIo
      else do
        task (modify fun t => { t with wifiStaRoleUp := true })
        ppApplyRadioEffective w
        pure hwOk

/-- `cc3501e_hw_wifi_ap_start`; `ssidOk` is its check of `ssid` and `ssid_len`. -/
def wifiApStart (ssidOk : Bool) (a : StartAnswers) (roleUp : Int) : Prog PowerTask Int :=
  if !ssidOk then pure hwErrInval
  else do
    let rv ← wifiLazyStart a
    if rv ≠ hwOk then pure rv
    else do
      powerCall (.setPowerManagement .alwaysActive)
      powerCall (.roleUpAp roleUp)
      if roleUp ≠ 0 then pure hwErrIo
      else do
        modify fun t => { t with wifiApLatch := t.wifiApLatch.started true }
        pure hwOk

/-- The drain of `WIFI_AP_START` in `worker_run_pending`: the body, the re-init of the slave, and the
role is published. -/
def apStartDrain (ssidOk : Bool) (a : StartAnswers) (roleUp : Int) : Prog PowerTask Int := do
  let rv ← wifiApStart ssidOk a roleUp
  powerCall .spiReinit
  modify fun t => { t with wifiApLatch := t.wifiApLatch.publish }
  pure rv

/-- `cc3501e_hw_wifi_ap_stop`. -/
def wifiApStop (roleDown : Int) (w : WlanAnswers) : Prog PowerState Int := do
  let started ← task (get (·.wifiStarted))
  if !started then pure hwOk
  else do
    task (powerCall (.roleDownAp roleDown))
    if roleDown ≠ 0 then pure hwErrIo
    else do
      task (modify fun t => { t with wifiApLatch := t.wifiApLatch.stopped })
      ppApplyRadioEffective w
      pure hwOk

/-- The drain of `WIFI_AP_STOP`. -/
def apStopDrain (roleDown : Int) (w : WlanAnswers) : Prog PowerState Int := do
  let rv ← wifiApStop roleDown w
  task (powerCall (.apStopReturned rv))
  task (powerCall .spiReinit)
  pure rv

/-- `cc3501e_hw_ble_enable`; `enabled` is `cc3501e_nimble_host_is_enabled` before and after, and
`hostStart` what `cc3501e_nimble_host_start` returns. -/
def bleEnable (enabled : Bool × Bool) (a : StartAnswers) (hostStart : Int) : Prog PowerTask Int :=
  if enabled.1 then pure hwOk
  else do
    let rv ← wifiLazyStart a
    if rv ≠ hwOk then pure rv
    else do
      powerCall .spiReinit
      powerCall (.setPowerManagement .alwaysActive)
      powerCall .spiReinit
      if hostStart ≠ 0 ∨ !enabled.2 then pure hwErrIo else pure hwOk

/-! ## The machine -/

/-- What interrupts the task. -/
inductive PowerIrq where
  | powerPolicy (policy : PowerPolicy) (wakeEvents : UInt8) (idleMsBeforeSleep : UInt32)
  | getDiagInfo
  deriving DecidableEq, Repr

/-- What the task runs, with what it is answered. -/
inductive PowerOp where
  | powerService (w : WlanAnswers)
  | staRoleUp (a : StartAnswers) (roleUp : Int) (w : WlanAnswers)
  | apStart (ssidOk : Bool) (a : StartAnswers) (roleUp : Int)
  | apStop (roleDown : Int) (w : WlanAnswers)
  | bleEnable (enabled : Bool × Bool) (a : StartAnswers) (hostStart : Int)

/-- What a body does, and what it returns. -/
def PowerOp.body (ids : PowerIds) : PowerOp → Prog PowerState Int
  | .powerService w => do
      hwPowerService ids w
      pure hwOk
  | .staRoleUp a roleUp w => wifiEnsureStaRole a roleUp w
  | .apStart ssidOk a roleUp => task (apStartDrain ssidOk a roleUp)
  | .apStop roleDown w => apStopDrain roleDown w
  | .bleEnable enabled a hostStart => task (Cc3501eBridge.bleEnable enabled a hostStart)

/-- What an interrupt does; `GET_DIAG_INFO` reads `PowerTask.radioRole` and changes nothing. -/
def PowerIrq.run (s : PowerState) : PowerIrq → PowerState
  | .powerPolicy policy wakeEvents idleMs => ((hwSetPowerPolicy policy wakeEvents idleMs s.1).1, s.2)
  | .getDiagInfo => s

/-- The bringup task and the dispatch interrupt. -/
def powerTasks (ids : PowerIds) : Tasks PowerState PowerIrq PowerOp where
  interrupt i s := i.run s
  body k := do
    let _ ← k.body ids
    pure ()

/-- The policy and the idle budget of a request that was accepted. -/
def PowerIrq.accepted? : PowerIrq → Option (PowerPolicy × UInt32)
  | .powerPolicy policy wakeEvents idleMs =>
      if (hwSetPowerPolicy policy wakeEvents idleMs {}).2 = hwOk then some (policy, idleMs) else none
  | .getDiagInfo => none

end Cc3501eBridge
