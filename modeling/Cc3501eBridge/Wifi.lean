import Cc3501eBridge.ReplyData

/-!
# Wi-Fi scan, connect and disconnect

Three blocking bodies and one callback.  `wifi_event_cb` runs on the driver's thread, which preempts
the worker anywhere; it stores what an event carries and signals the one sync object all bodies wait
on.  The bodies `cc3501e_hw_wifi_scan`, `cc3501e_hw_wifi_connect_sta` and
`cc3501e_hw_wifi_disconnect` run on the worker, one at a time, and appear here as micro-steps
between which the callback or a dispatch can land: `bodyStep` takes one of them, and the variant of
`WifiPc` says which statement comes next and holds the locals it needs.  Copies are one step per
byte.

What the code does not decide is an `Answer`: the return values of the vendor's calls, whether a
wait is signalled or times out, what the clock says about the retry budget, whether a lease comes.
Steps that only delay (link healing, the retry's sleep) or re-arm the SPI slave are left out.
-/

namespace Cc3501eBridge

/-! ## The driver's events -/

/-- `WlanEvent_t`, as far as the callback reads it. -/
inductive WlanEvent
  | scanResult (list : List WlanNetworkEntry)
  | /-- The list is behind a pointer that may be null. -/
    extendedScanResult (list : Option (List WlanNetworkEntry))
  | connect (status : Int)
  | disconnect (reasonCode : Int16)
  | associationRejected (status : UInt16)
  | authenticationRejected (status : UInt16)
  | other

/-- Which event recorded a reason, `wifi_retry_event_t`. -/
inductive WifiRetryEvent
  | none | disconnect | associationRejected | authenticationRejected
  deriving DecidableEq, Repr

/-- `wifi_last_reason_tag`: one word, written and read as a whole. -/
structure WifiReasonTag where
  event : WifiRetryEvent := .none
  reason : Int16 := 0
  deriving DecidableEq, Repr

/-- `CC3501E_WLAN_STATUS_ASSOC_REJECTED_TEMPORARILY`. -/
def assocRejectedTemporarily : UInt16 := 30

/-- `WLAN_DISCONNECT_USER_INITIATED`. -/
def disconnectUserInitiated : Int16 := 200

/-- The vendor's constants: `WLAN_MAX_SCAN_COUNT` and the size of an entry's SSID array. -/
structure WifiLimits where
  scanCacheMax : Nat
  ssidBytes : Nat

/-! ## The state -/

/-- `alp_cc3501e_wifi_conn_state_t`. -/
inductive WifiConnState
  | disconnected | connecting | connected | connFailed
  deriving DecidableEq, Repr

/-- `alp_cc3501e_wifi_fail_t`. -/
inductive WifiFail
  | none | kick | timeout | rejected
  deriving DecidableEq, Repr

/-- The connection-status latch, `g_wifi_conn`. -/
structure WifiConn where
  state : WifiConnState := .disconnected
  failReason : WifiFail := .none
  rssi : Int8 := 0
  reason : Int16 := 0
  deriving DecidableEq, Repr

/-- What the bodies and the callback share. -/
structure Wifi where
  started : Bool := false
  staRoleUp : Bool := false
  /-- `wifi_event_sync` is signalled. -/
  eventSync : Bool := false
  lastStatus : Int := 0
  scanCount : Nat := 0
  scanCache : Nat → WlanNetworkEntry
  cbEventCount : UInt32 := 0
  lastReasonTag : WifiReasonTag := {}
  ownDisconnectIssued : Bool := false
  conn : WifiConn := {}

/-- Memory as the loader leaves it. -/
def Wifi.boot : Wifi where
  scanCache := fun _ =>
    { bssid := [], rssi := 0, channel := 0, securityInfo := 0, ssidLen := 0, ssid := fun _ => 0 }

/-- `wifi_conn_is_connecting`. -/
def wifiConnIsConnecting (w : Wifi) : Bool := w.conn.state = .connecting

/-- `cc3501e_hw_wifi_mark_connecting`. -/
def hwWifiMarkConnecting (w : Wifi) : Wifi :=
  { w with
    lastReasonTag := {}
    conn := { state := .connecting, failReason := .none, rssi := 0, reason := 0 } }

/-- `wifi_retry_should_restore_first_pass`. -/
def wifiRetryShouldRestoreFirstPass (retryPassReason : Int16) : Bool :=
  retryPassReason = 3 || retryPassReason = 0

/-- `wifi_retry_sanitize_reason`. -/
def wifiRetrySanitizeReason (reason : Int16) (ownDisconnectIssued : Bool) : Int16 :=
  if reason = 3 ∧ ownDisconnectIssued = true then 0 else reason

/-! ## The callback -/

/-- The entries a scan-result event leaves in the cache. -/
def WlanEvent.records (L : WifiLimits) : WlanEvent → List WlanNetworkEntry
  | .scanResult list => list.take L.scanCacheMax
  | .extendedScanResult (some list) => list.take L.scanCacheMax
  | _ => []

/-- Copy the entries of an event into the cache and count them. -/
def Wifi.cacheScan (w : Wifi) (recs : List WlanNetworkEntry) : Wifi :=
  { w with
    scanCache := fun i => recs[i]?.getD (w.scanCache i)
    scanCount := recs.length }

/-- Store a status and signal. -/
def Wifi.signal (w : Wifi) (status : Int) : Wifi :=
  { w with lastStatus := status, eventSync := true }

/-- Record a reason while an attempt is open. -/
def Wifi.recordReason (w : Wifi) (event : WifiRetryEvent) (reason : Int16) : Wifi :=
  if wifiConnIsConnecting w then { w with lastReasonTag := { event := event, reason := reason } }
  else w

/-- `wifi_event_cb`. -/
def wifiEventCb (L : WifiLimits) (w : Wifi) (e : WlanEvent) : Wifi :=
  let w := { w with cbEventCount := w.cbEventCount + 1 }
  match e with
  | .scanResult list => (w.cacheScan (list.take L.scanCacheMax)).signal 0
  | .extendedScanResult none => { w with scanCount := 0 }.signal (-77)
  | .extendedScanResult (some list) => (w.cacheScan (list.take L.scanCacheMax)).signal 0
  | .connect status => w.signal status
  | .disconnect reasonCode =>
      -- the first real code wins, and the vendor's placeholder is no code
      (if w.lastReasonTag.reason = 0 ∧ reasonCode ≠ disconnectUserInitiated then
          w.recordReason .disconnect reasonCode
        else w).signal (-1)
  | .associationRejected status =>
      let w := w.recordReason .associationRejected status.toInt16
      -- the vendor retries a temporary rejection by itself
      if status = assocRejectedTemporarily then w else w.signal (-1)
  | .authenticationRejected status =>
      (w.recordReason .authenticationRejected status.toInt16).signal (-1)
  | .other => w

/-! ## The bodies -/

/-- What the vendor, the clock and lwIP answer. -/
inductive Answer
  | /-- A call returns. -/
    rv (n : Int)
  | /-- A wait finds the sync object signalled. -/
    signalled
  | timedOut
  | /-- The deadline of the sliced wait has passed before its first slice. -/
    expired
  | /-- Time is left for a retry; a lease has come. -/
    yes
  | no
  deriving DecidableEq, Repr

/-- The arguments of `wifi_conn_set`; in the end the values it has stored. -/
structure Publication where
  state : WifiConnState
  failReason : WifiFail
  reason : Int16
  deriving DecidableEq, Repr

/-- What comes after `wifi_conn_set`. -/
inductive AfterSet
  | /-- `wifi_clear_stale_assoc`, then return. -/
    cleanup (rv : Int)
  | done (rv : Int)
  deriving DecidableEq, Repr

/-- The outcome of the first pass of a connect, kept for the case that the retry tells less. -/
structure FirstPass where
  failReason : WifiFail
  reasonCode : Int16
  deriving DecidableEq, Repr

/-- The statement of `wifi_conn_set` that comes next. -/
inductive SetStage
  | failReason | rssi | tag | reason | state | push
  deriving DecidableEq, Repr

/-- The statement of a body that comes next. -/
inductive WifiPc
  -- `cc3501e_hw_wifi_scan_run`
  | scanStart (cap : Nat)
  | scanRole (cap : Nat)
  | scanCount (cap : Nat) (roleUp : Bool)
  | scanClear (cap : Nat) (roleUp : Bool)
  | scanBefore (cap : Nat) (roleUp : Bool)
  | scanCall (cap : Nat) (roleUp : Bool) (cbBefore : UInt32)
  | scanWait (cap : Nat) (cbBefore : UInt32)
  | scanDiag (cbBefore : UInt32)
  -- `cc3501e_hw_wifi_scan`: the packing loop, `i` records done, then `j` bytes of the next
  | packStart (cap : Nat)
  | packNext (cap count i : Nat) (buf : List UInt8)
  | packCopy (cap count i : Nat) (len : UInt8) (j : Nat) (buf : List UInt8)
  -- `cc3501e_hw_wifi_connect_sta`: up to the loop
  | connectStart (ssidLen : Nat)
  | connectLazy
  | connectRole
  -- one pass of the loop, the second if there is a first pass to remember
  | connectClear (first : Option FirstPass)
  | connectStatus (first : Option FirstPass)
  | connectTag (first : Option FirstPass)
  | connectCall (first : Option FirstPass)
  | connectWait (first : Option FirstPass)
  | connectTimeout
  | connectJudge (first : Option FirstPass)
  | connectReason (first : Option FirstPass)
  | retryBudget (tag : WifiReasonTag)
  | retryClear (first : FirstPass)
  | retryDisconnect (first : FirstPass)
  | retryOwn (first : FirstPass)
  | retryWait (first : FirstPass)
  -- behind the loop
  | networkSetUp
  | lease
  | noLease
  -- `wifi_conn_set`
  | connSet (stage : SetStage) (p : Publication) (after : AfterSet)
  -- `wifi_clear_stale_assoc`
  | clearStale (rv : Int)
  | clearStaleOwn (rv : Int)
  -- `cc3501e_hw_wifi_disconnect`
  | disconnectStart
  | disconnectOwn (rv : Int)
  | ret (rv : Int) (data : List UInt8)
  deriving DecidableEq, Repr

/-- A request to the radio. -/
inductive RadioRequest
  | scan | connect | disconnect
  deriving DecidableEq, Repr

/-- What a step of a body shows. -/
inductive WifiOut
  | tau
  | called (request : RadioRequest) (rv : Int)
  | /-- `network_set_up`. -/
    setUp
  | /-- The state of the latch is written. -/
    published (p : Publication)
  | /-- An event is pushed, for a connection or the loss of one. -/
    pushed (connected : Bool)
  | returned (r : HalRet)
  deriving DecidableEq, Repr

/-- Where a body starts. -/
def HalCall.wifiEntry : HalCall → Option WifiPc
  | .wifiScan cap => some (.scanStart cap)
  | .wifiConnectSta ssid _ _ => some (.connectStart ssid.length)
  | .wifiDisconnect => some .disconnectStart
  | _ => none

/-- The record of an access point with `len` bytes of its SSID. -/
def WlanNetworkEntry.recordOf (e : WlanNetworkEntry) (len : UInt8) : List UInt8 :=
  fixBytes 6 e.bssid ++ [e.rssi.toUInt8, e.channel] ++ le16 e.securityInfo ++ [len] ++
    e.ssid.read 0 len.toNat

/-- `cc3501e_hw_wifi_lazy_start`. -/
def hwWifiLazyStart (w : Wifi) (a : Answer) : Option (Wifi × Int) :=
  if w.started then some (w, hwOk)
  else match a with
    | .rv n =>
        let w := { w with eventSync := false }
        some (if n = 0 then ({ w with started := true }, hwOk) else (w, hwErrIo))
    | _ => none

/-- `cc3501e_hw_wifi_ensure_sta_role` behind its lazy start. -/
def hwWifiEnsureStaRole (w : Wifi) (a : Answer) : Option (Wifi × Int) :=
  if w.staRoleUp then some (w, hwOk)
  else match a with
    | .rv n => some (if n < 0 then (w, hwErrIo) else ({ w with staRoleUp := true }, hwOk))
    | _ => none

/-- A connect that fails: publish, then `after`. -/
def connectFailed (failReason : WifiFail) (reason : Int16) (after : AfterSet) : WifiPc :=
  .connSet .failReason { state := .connFailed, failReason := failReason, reason := reason } after

/-- What the loop of a connect publishes when its pass ends with `failReason` and `reason`. -/
def connectBreak (failReason : WifiFail) (reason : Int16) : WifiPc :=
  connectFailed failReason reason (.cleanup hwErrIo)

/-- The first pass's outcome, published in place of the retry's. -/
def connectRestore (first : FirstPass) : WifiPc := connectBreak first.failReason first.reasonCode

/-- A scan and its packing loop. -/
def scanStep (L : WifiLimits) (w : Wifi) (a : Answer) :
    WifiPc → Option (Wifi × Option WifiPc × WifiOut)
  | .scanStart cap => do
      let (w, rv) ← hwWifiLazyStart w a
      return (w, some (if rv ≠ hwOk then .ret rv [] else .scanRole cap), .tau)
  | .scanRole cap => do
      let (w, rv) ← hwWifiEnsureStaRole w a
      return (w, some (.scanCount cap (rv = hwOk)), .tau)
  | .scanCount cap roleUp => some ({ w with scanCount := 0 }, some (.scanClear cap roleUp), .tau)
  | .scanClear cap roleUp =>
      some ({ w with eventSync := false }, some (.scanBefore cap roleUp), .tau)
  | .scanBefore cap roleUp => some (w, some (.scanCall cap roleUp w.cbEventCount), .tau)
  | .scanCall cap roleUp cbBefore =>
      if roleUp = false then some (w, some (.ret hwErrInval []), .tau)
      else match a with
        | .rv n => some (w, some (if n = 0 then .scanWait cap cbBefore else .ret hwErrInval []),
            .called .scan n)
        | _ => none
  | .scanWait cap cbBefore =>
      match a with
      | .signalled =>
          if w.eventSync then some ({ w with eventSync := false }, some (.packStart cap), .tau)
          else none
      | .timedOut => some (w, some (.scanDiag cbBefore), .tau)
      | _ => none
  | .scanDiag cbBefore =>
      some (w, some (.ret (if w.cbEventCount = cbBefore then hwErrNotimpl else hwErrIo) []), .tau)
  | .packStart cap => some (w, some (.packNext cap w.scanCount 0 []), .tau)
  | .packNext cap count i buf =>
      if i < count then
        let len := (w.scanCache i).wireSsidLen L.ssidBytes
        if buf.length + (11 + len.toNat) > cap then some (w, some (.ret hwOk buf), .tau)
        else some (w, some (.packCopy cap count i len 0 buf), .tau)
      else some (w, some (.ret hwOk buf), .tau)
  | .packCopy cap count i len j buf =>
      if j < 11 + len.toNat then
        let b := byteAt ((w.scanCache i).recordOf len) j
        some (w, some (.packCopy cap count i len (j + 1) (buf ++ [b])), .tau)
      else some (w, some (.packNext cap count (i + 1) buf), .tau)
  | _ => none

/-- A connect: the way to its loop, a pass of the loop, and the way from it. -/
def connectStep (w : Wifi) (a : Answer) : WifiPc → Option (Wifi × Option WifiPc × WifiOut)
  | .connectStart ssidLen =>
      some (w, some (if ssidLen = 0 then connectFailed .kick 0 (.done hwErrInval)
        else .connectLazy), .tau)
  | .connectLazy =>
      if w.staRoleUp then some (w, some (.connectClear none), .tau)
      else do
        let (w, rv) ← hwWifiLazyStart w a
        return (w, some (if rv ≠ hwOk then connectFailed .kick 0 (.done rv)
          else .connectRole), .tau)
  | .connectRole => do
      let (w, rv) ← hwWifiEnsureStaRole w a
      return (w, some (if rv ≠ hwOk then connectFailed .kick 0 (.done rv)
        else .connectClear none), .tau)
  | .connectClear first => some ({ w with eventSync := false }, some (.connectStatus first), .tau)
  | .connectStatus first => some ({ w with lastStatus := 0 }, some (.connectTag first), .tau)
  | .connectTag first => some ({ w with lastReasonTag := {} }, some (.connectCall first), .tau)
  | .connectCall first =>
      match a with
      | .rv n =>
          some (w, some (
            if n = 0 then .connectWait first
            else match first with
              | some first => connectRestore first
              | none => connectBreak .kick 0), .called .connect n)
      | _ => none
  | .connectWait first =>
      match a with
      | .signalled =>
          if w.eventSync then some ({ w with eventSync := false }, some (.connectJudge first), .tau)
          else none
      | .expired => some (w, some (.connectJudge first), .tau)
      | .timedOut =>
          some (w, some (match first with
            | some first => connectRestore first
            | none => .connectTimeout), .tau)
      | _ => none
  | .connectTimeout => some (w, some (connectBreak .timeout w.lastReasonTag.reason), .tau)
  | .connectJudge first =>
      some (w, some (if 0 ≤ w.lastStatus then .networkSetUp else .connectReason first), .tau)
  | .connectReason first =>
      let tag := w.lastReasonTag
      some (w, some (match first with
        | none =>
            if tag.reason = assocRejectedTemporarily.toInt16 then .retryBudget tag
            else connectBreak .rejected tag.reason
        | some first =>
            if wifiRetryShouldRestoreFirstPass tag.reason then connectRestore first
            else connectBreak .rejected tag.reason), .tau)
  | .retryBudget tag =>
      match a with
      | .yes =>
          some (w, some (.retryClear { failReason := .rejected, reasonCode := tag.reason }), .tau)
      | .no => some (w, some (connectBreak .rejected tag.reason), .tau)
      | _ => none
  | .retryClear first => some ({ w with eventSync := false }, some (.retryDisconnect first), .tau)
  | .retryDisconnect first =>
      if w.started = false then some (w, some (.retryWait first), .tau)
      else match a with
        | .rv n => some (w, some (.retryOwn first), .called .disconnect n)
        | _ => none
  | .retryOwn first => some ({ w with ownDisconnectIssued := true }, some (.retryWait first), .tau)
  | .retryWait first =>
      match a with
      | .signalled =>
          if w.eventSync then
            some ({ w with eventSync := false }, some (.connectClear (some first)), .tau)
          else none
      | .timedOut => some (w, some (.connectClear (some first)), .tau)
      | _ => none
  | .networkSetUp => some (w, some .lease, .setUp)
  | .lease =>
      match a with
      | .yes =>
          some (w, some (.connSet .failReason
            { state := .connected, failReason := .none, reason := 0 } (.done hwOk)), .tau)
      | .no => some (w, some .noLease, .tau)
      | _ => none
  | .noLease =>
      some (w, some (connectFailed .timeout w.lastReasonTag.reason (.done hwErrIo)), .tau)
  | .clearStale rv =>
      if w.started = false then some (w, some (.ret rv []), .tau)
      else match a with
        | .rv n => some (w, some (.clearStaleOwn rv), .called .disconnect n)
        | _ => none
  | .clearStaleOwn rv => some ({ w with ownDisconnectIssued := true }, some (.ret rv []), .tau)
  | _ => none

/-- `cc3501e_hw_wifi_disconnect`. -/
def disconnectStep (w : Wifi) (a : Answer) : WifiPc → Option (Wifi × Option WifiPc × WifiOut)
  | .disconnectStart =>
      if w.started = false then some (w, some (.ret hwOk []), .tau)
      else match a with
        | .rv n => some (w, some (.disconnectOwn n), .called .disconnect n)
        | _ => none
  | .disconnectOwn rv =>
      let w := { w with ownDisconnectIssued := true }
      some (w, some (if rv ≠ 0 then .ret hwErrIo []
        else .connSet .failReason
          { state := .disconnected, failReason := .none, reason := w.conn.reason }
          (.done hwOk)), .tau)
  | _ => none

/-- `wifi_conn_set`: detail first, state last. -/
def connSetStep (w : Wifi) (p : Publication) (after : AfterSet) :
    SetStage → Wifi × WifiPc × WifiOut
  | .failReason =>
      ({ w with conn := { w.conn with failReason := p.failReason } }, .connSet .rssi p after, .tau)
  | .rssi =>
      ({ w with conn := { w.conn with rssi := 0 } },
        .connSet (if p.state = .connected then .tag else .reason) p after, .tau)
  | .tag => ({ w with lastReasonTag := {} }, .connSet .reason p after, .tau)
  | .reason =>
      let reason :=
        if p.state = .connected then 0 else wifiRetrySanitizeReason p.reason w.ownDisconnectIssued
      ({ w with conn := { w.conn with reason := reason } },
        .connSet .state { p with reason := reason } after, .tau)
  | .state =>
      ({ w with conn := { w.conn with state := p.state } }, .connSet .push p after, .published p)
  | .push =>
      (w, match after with
        | .cleanup rv => .clearStale rv
        | .done rv => .ret rv [], .pushed (p.state = .connected))

/-- One step of a body; no statement is left once it has returned. -/
def bodyStep (L : WifiLimits) (w : Wifi) (a : Answer) (pc : WifiPc) :
    Option (Wifi × Option WifiPc × WifiOut) :=
  match pc with
  | .connSet stage p after =>
      let (w, pc, out) := connSetStep w p after stage
      some (w, some pc, out)
  | .ret rv data => some (w, none, .returned { rv := rv, data := data })
  | pc => (scanStep L w a pc).or ((connectStep w a pc).or (disconnectStep w a pc))

end Cc3501eBridge
