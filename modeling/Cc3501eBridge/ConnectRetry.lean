import Cc3501eBridge.Lib.Trace
import Cc3501eBridge.WifiLatch

/-!
# A connect and its retry, against the clock

`ConnectRun` is one run of `cc3501e_hw_wifi_connect_sta`.  Its statements are those of `bodyStep`; what
that leaves open is decided here as the source decides it: the deadline of the association wait and
the budget of the retry by the uptime, and the delay before the second pass by the event that
`first_pass_reason_event` has kept.  The callback lands between any two statements, and time passes as
it likes.

The history of a run shows what was written, loaded and called.  `ConnectAccount` sums it up: what the
pass that is under way has met, and what callbacks have recorded since the tag was last reset.
-/

namespace Cc3501eBridge

/-! ## The clock and the delays -/

/-- `CC3501E_WIFI_ASSOC_WAIT_MS`. -/
def wifiAssocWaitMs : UInt32 := 30000

/-- `CC3501E_WIFI_RETRY_DENYLIST_EXPIRY_MS`. -/
def wifiRetryDenylistExpiryMs : UInt32 := 10000

/-- `CC3501E_WIFI_RETRY_DENYLIST_DELAY_MS`. -/
def wifiRetryDenylistDelayMs : UInt32 := wifiRetryDenylistExpiryMs + 1000

/-- `CC3501E_WIFI_RETRY_COMEBACK_DELAY_MS`. -/
def wifiRetryComebackDelayMs : UInt32 := 1000

/-- `CC3501E_WIFI_RETRY_DISCONNECT_WAIT_MS`. -/
def wifiRetryDisconnectWaitMs : UInt32 := 2000

/-- `CC3501E_WIFI_RETRY_OVERHEAD_MS`. -/
def wifiRetryOverheadMs : UInt32 := wifiRetryDisconnectWaitMs + wifiRetryDenylistDelayMs

/-- `CC3501E_WIFI_RETRY_MIN_WAIT_MS`. -/
def wifiRetryMinWaitMs : UInt32 := 3000

/-- `wifi_retry_delay_ms`. -/
def wifiRetryDelayMs (event : WifiRetryEvent) (comebackDelayMs denylistDelayMs : UInt32) : UInt32 :=
  if event = .associationRejected then comebackDelayMs else denylistDelayMs

/-! ## The run -/

/-- Where a run stands: before a statement of the body, or at what the body leaves to the clock. -/
inductive ConnectPc
  | stmt (pc : WifiPc)
  | /-- `assoc_wait_start_ms` is read. -/
    start
  | /-- `wifi_assoc_wait_sliced` is entered. -/
    sliced (first : Option FirstPass) (waitMs : UInt32)
  | waiting (first : Option FirstPass) (waitMs startMs : UInt32)
  | /-- `wifi_sleep_sliced`, before the second pass. -/
    sleep (first : FirstPass) (delayMs : UInt32)
  | returned
  deriving DecidableEq, Repr

/-- A run: the memory it shares with the callback, the time and its locals. -/
structure ConnectRun where
  wifi : Wifi
  /-- In milliseconds; `cc3501e_hw_uptime_ms` wraps. -/
  now : Nat
  assocWaitStartMs : UInt32 := 0
  firstPassReasonEvent : WifiRetryEvent := .none
  pc : ConnectPc

/-- What a history shows. -/
inductive ConnectEv
  | /-- A callback, and the word it wrote to `wifi_last_reason_tag`. -/
    callback (e : WlanEvent) (wrote : Option WifiReasonTag)
  | passed (ms : Nat)
  | /-- The first pass begins, at this time. -/
    began (now : Nat)
  | tagReset
  | /-- `Wlan_Connect`. -/
    called (rv : Int)
  | /-- How the association wait ended. -/
    waited (a : Answer)
  | /-- `wifi_last_status` is loaded. -/
    judged (status : Int)
  | /-- `wifi_last_reason_tag` is loaded. -/
    loaded (tag : WifiReasonTag)
  | /-- The budget of the retry is checked, at this time. -/
    checked (now : Nat)
  | slept (delayMs : UInt32)
  | published (p : Publication)
  | tau

/-- The word a callback writes to `wifi_last_reason_tag`. -/
def wifiReasonWrite (w : Wifi) : WlanEvent → Option WifiReasonTag
  | .disconnect reasonCode =>
      if wifiConnIsConnecting w ∧ w.lastReasonTag.reason = 0 ∧ reasonCode ≠ disconnectUserInitiated
      then some { event := .disconnect, reason := reasonCode } else none
  | .associationRejected status =>
      if wifiConnIsConnecting w then
        some { event := .associationRejected, reason := status.toInt16 } else none
  | .authenticationRejected status =>
      if wifiConnIsConnecting w then
        some { event := .authenticationRejected, reason := status.toInt16 } else none
  | _ => none

namespace ConnectRun

/-- `cc3501e_hw_uptime_ms`. -/
def uptimeMs (s : ConnectRun) : UInt32 := UInt32.ofNat s.now

/-- The time since the first `Wlan_Connect`. -/
def elapsedMs (s : ConnectRun) : UInt32 := s.uptimeMs - s.assocWaitStartMs

/-- Where a statement leads: the clock is read before the first pass, and the second is put off. -/
def goto (s : ConnectRun) : Option WifiPc → ConnectPc
  | none => .returned
  | some (.connectClear none) => .start
  | some (.connectClear (some first)) => .sleep first
      (wifiRetryDelayMs s.firstPassReasonEvent wifiRetryComebackDelayMs wifiRetryDenylistDelayMs)
  | some pc => .stmt pc

/-- What a statement shows. -/
def shows (w : Wifi) (out : WifiOut) : WifiPc → ConnectEv
  | .connectTag _ | .connSet .tag _ _ => .tagReset
  | .connectJudge _ => .judged w.lastStatus
  | .connectReason _ | .connectTimeout | .noLease => .loaded w.lastReasonTag
  | _ => match out with
    | .called .connect rv => .called rv
    | .published p => .published p
    | _ => .tau

/-- A statement of the body, answered with `a`. -/
def stmt (L : WifiLimits) (s : ConnectRun) (a : Answer) (pc : WifiPc) (show' : WifiOut → ConnectEv) :
    Option (ConnectRun × ConnectEv) := do
  let (w, next, out) ← bodyStep L s.wifi a pc
  return ({ s with wifi := w, pc := s.goto next }, show' out)

/-- `CC3501E_WIFI_ASSOC_WAIT_MS` is not exhausted by what a retry takes. -/
def inBudget (s : ConnectRun) : Bool :=
  s.elapsedMs + (wifiRetryOverheadMs + wifiRetryMinWaitMs) ≤ wifiAssocWaitMs

/-- One step of the run. -/
def body (L : WifiLimits) (s : ConnectRun) (a : Answer) : Option (ConnectRun × ConnectEv) :=
  match s.pc with
  | .start =>
      some ({ s with assocWaitStartMs := s.uptimeMs, pc := .stmt (.connectClear none) }, .began s.now)
  | .stmt (.connectWait first) =>
      let waitMs := if s.elapsedMs < wifiAssocWaitMs then wifiAssocWaitMs - s.elapsedMs else 0
      if waitMs = 0 then s.stmt L .timedOut (.connectWait first) fun _ => .waited .timedOut
      else some ({ s with pc := .sliced first waitMs }, .tau)
  | .sliced first waitMs => some ({ s with pc := .waiting first waitMs s.uptimeMs }, .tau)
  | .waiting first waitMs startMs =>
      -- the wait returns `OSI_OK` unsignalled only past its deadline
      if a = .expired ∧ s.uptimeMs - startMs < waitMs then none
      else s.stmt L a (.connectWait first) fun _ => .waited a
  | .stmt (.retryBudget tag) =>
      if s.inBudget then
        { s with firstPassReasonEvent := tag.event }.stmt L .yes (.retryBudget tag)
          fun _ => .checked s.now
      else s.stmt L .no (.retryBudget tag) fun _ => .checked s.now
  | .sleep first delayMs =>
      some ({ s with pc := .stmt (.connectClear (some first)) }, .slept delayMs)
  | .stmt pc => s.stmt L a pc fun out => shows s.wifi out pc
  | .returned => none

/-- A run that is entered, with the memory as it is. -/
def entered (w : Wifi) (now ssidLen : Nat) : ConnectRun where
  wifi := w
  now := now
  pc := .stmt (.connectStart ssidLen)

end ConnectRun

/-- What a pass has met since its `Wlan_Connect`. -/
structure PassAccount where
  called : Option Int := none
  waited : Option Answer := none
  judged : Option Int := none
  /-- The words that were loaded, each with the callback that wrote it. -/
  loads : List (WifiReasonTag × Option WlanEvent) := []
  checkedAt : Option Nat := none
  slept : List UInt32 := []

/-- What a history tells. -/
structure ConnectAccount where
  /-- When the first pass began. -/
  began : Option Nat := none
  calls : Nat := 0
  pass : PassAccount := {}
  /-- The words callbacks have written since the tag was last reset, if it was. -/
  writes : Option (List (WlanEvent × WifiReasonTag)) := none
  published : List Publication := []

namespace ConnectAccount

variable (A : ConnectAccount)

/-- The callback that wrote the word the tag holds. -/
def writer : Option WlanEvent := ((A.writes.getD []).getLast?).map Prod.fst

/-- The codes recorded since the tag was last reset. -/
def codes : List Int16 := (A.writes.getD []).map fun x => x.2.reason

/-- The account of one more event. -/
def note : ConnectEv → ConnectAccount
  | .callback e (some tag) => { A with writes := A.writes.map (· ++ [(e, tag)]) }
  | .began now => { A with began := some now }
  | .tagReset => { A with writes := some [] }
  | .called rv => { A with calls := A.calls + 1, pass := { called := some rv } }
  | .waited a => { A with pass := { A.pass with waited := some a } }
  | .judged status => { A with pass := { A.pass with judged := some status } }
  | .loaded tag => { A with pass := { A.pass with loads := A.pass.loads ++ [(tag, A.writer)] } }
  | .checked now => { A with pass := { A.pass with checkedAt := some now } }
  | .slept delayMs => { A with pass := { A.pass with slept := A.pass.slept ++ [delayMs] } }
  | .published p => { A with published := A.published ++ [p] }
  | .callback _ none | .passed _ | .tau => A

end ConnectAccount

/-- The delay before the retry of a rejection that `e` recorded. -/
def WlanEvent.retryDelayMs : WlanEvent → UInt32
  | .associationRejected _ => wifiRetryComebackDelayMs
  | _ => wifiRetryDenylistDelayMs

/-- What a first pass has met that is followed by a second: it was woken with a negative status, the one
load of the tag held reason 30, at most 14 s had passed since it began, and the delay slept is that
of the event that recorded the reason. -/
structure RetryDue (A : ConnectAccount) : Prop where
  woken : A.pass.waited = some .signalled
  judged : ∃ status, A.pass.judged = some status ∧ status < 0
  loaded : ∃ tag e, A.pass.loads = [(tag, some e)] ∧ tag.reason = 30 ∧
    A.pass.slept = [e.retryDelayMs]
  inTime : ∃ t₀ t₁, A.began = some t₀ ∧ A.pass.checkedAt = some t₁ ∧ t₀ ≤ t₁ ∧ t₁ - t₀ ≤ 14000

/-- A second pass that was refused, timed out, or was rejected with a reason that tells less than the
first. -/
structure SecondToldLess (A : ConnectAccount) : Prop where
  second : A.calls = 2
  less : (∃ rv, A.pass.called = some rv ∧ rv ≠ 0) ∨ A.pass.waited = some .timedOut ∨
    ∃ status tag e, A.pass.judged = some status ∧ status < 0 ∧ A.pass.loads = [(tag, e)] ∧
      (tag.reason = 0 ∨ tag.reason = 3)

/-- The failure `p` is published for the right reason; `own` tells whether the firmware has issued a
`Wlan_Disconnect` of its own. -/
structure Verdict (A : ConnectAccount) (own : Bool) (p : Publication) : Prop where
  restored : SecondToldLess A → p.failReason = .rejected ∧ p.reason = 30
  recorded : ¬ SecondToldLess A → ∃ code, (code = 0 ∨ code ∈ A.codes) ∧
    p.reason = wifiRetrySanitizeReason code own

end Cc3501eBridge
