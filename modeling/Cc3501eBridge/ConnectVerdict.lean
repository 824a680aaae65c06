import Cc3501eBridge.ConnectRetry

/-!
# The verdict of a connect

The word in `wifi_last_reason_tag` is always the last one a callback has written since the reset
(`TagAccount`), so that a load gives a reason together with the event that recorded it.  `ConnectAt`
says, for each place in the run, what its account is; a callback and the passing of time keep it,
and each statement leads from one place to the next.
-/

namespace Cc3501eBridge

/-! ## The tag -/

/-- What `wifi_retry_event_t` calls an event that records a reason. -/
def WlanEvent.retryEvent : WlanEvent → WifiRetryEvent
  | .disconnect _ => .disconnect
  | .associationRejected _ => .associationRejected
  | .authenticationRejected _ => .authenticationRejected
  | _ => .none

/-- The tag holds the last word that was written, and each word names the event that wrote it. -/
structure TagAccount (tag : WifiReasonTag) (ws : List (WlanEvent × WifiReasonTag)) : Prop where
  last : tag = (ws.getLast?.map Prod.snd).getD {}
  events : ∀ x ∈ ws, x.2.event = x.1.retryEvent

section

variable {L : WifiLimits} {w w' : Wifi} {e : WlanEvent} {tag : WifiReasonTag}
  {ws : List (WlanEvent × WifiReasonTag)}

theorem wifiReasonWrite_event (h : wifiReasonWrite w e = some tag) : tag.event = e.retryEvent := by
  cases e <;> simp only [wifiReasonWrite, Option.ite_none_right_eq_some, reduceCtorEq] at h <;>
    obtain ⟨-, h⟩ := h <;> rw [← Option.some.inj h] <;> rfl

/-- What a callback leaves in the tag. -/
theorem wifiEventCb_lastReasonTag (L : WifiLimits) (w : Wifi) (e : WlanEvent) :
    (wifiEventCb L w e).lastReasonTag = (wifiReasonWrite w e).getD w.lastReasonTag := by
  have hrecord : ∀ (w : Wifi) (event : WifiRetryEvent) (reason : Int16),
      (w.recordReason event reason).lastReasonTag =
        if wifiConnIsConnecting w then { event := event, reason := reason } else w.lastReasonTag := by
    intro w event reason
    unfold Wifi.recordReason
    split_ifs <;> rfl
  have hconn : ∀ n, wifiConnIsConnecting { w with cbEventCount := n } = wifiConnIsConnecting w :=
    fun _ => rfl
  cases e with
  | disconnect reasonCode =>
      simp only [wifiEventCb, wifiReasonWrite, Wifi.signal]
      by_cases hr : w.lastReasonTag.reason = 0 ∧ reasonCode ≠ disconnectUserInitiated
      · rw [if_pos hr, hrecord, hconn]
        by_cases hc : wifiConnIsConnecting w = true <;> simp [hc, hr.1, hr.2]
      · rw [if_neg hr, if_neg fun h => hr h.2]
        rfl
  | associationRejected status =>
      simp only [wifiEventCb, wifiReasonWrite, Wifi.signal]
      by_cases hc : wifiConnIsConnecting w = true <;> split_ifs <;>
        simp [hrecord, hconn, hc]
  | authenticationRejected status =>
      simp only [wifiEventCb, wifiReasonWrite, Wifi.signal]
      by_cases hc : wifiConnIsConnecting w = true <;> simp [hrecord, hconn, hc]
  | extendedScanResult list => cases list <;> rfl
  | _ => rfl

theorem TagAccount.reset : TagAccount {} [] := ⟨rfl, nofun⟩

/-- A callback. -/
theorem TagAccount.callback (h : TagAccount w.lastReasonTag ws) :
    TagAccount (wifiEventCb L w e).lastReasonTag
      (ws ++ ((wifiReasonWrite w e).map (e, ·)).toList) := by
  rw [wifiEventCb_lastReasonTag]
  cases hw : wifiReasonWrite w e with
  | none => simpa using h
  | some tag =>
      refine ⟨by simp, fun x hx => ?_⟩
      rcases List.mem_append.mp hx with hx | hx
      · exact h.events x hx
      · obtain rfl : x = (e, tag) := by simpa using hx
        exact wifiReasonWrite_event hw

/-- The reason in the tag was recorded. -/
theorem TagAccount.recorded (h : TagAccount tag ws) :
    tag.reason = 0 ∨ tag.reason ∈ ws.map fun x => x.2.reason := by
  rw [h.last]
  cases hl : ws.getLast? with
  | none => exact .inl rfl
  | some x => exact .inr (List.mem_map.mpr ⟨x, List.mem_of_getLast? hl, rfl⟩)

/-- A reason in the tag has its event with it. -/
theorem TagAccount.writer (h : TagAccount tag ws) (hreason : tag.reason ≠ 0) :
    ∃ e, ws.getLast?.map Prod.fst = some e ∧ tag.event = e.retryEvent := by
  have hlast := h.last
  cases hl : ws.getLast? with
  | none =>
      rw [hl] at hlast
      exact absurd (congrArg WifiReasonTag.reason hlast) hreason
  | some x =>
      rw [hl] at hlast
      refine ⟨x.1, rfl, ?_⟩
      rw [hlast]
      exact h.events x (List.mem_of_getLast? hl)

end

/-! ## Where the run stands -/

/-- The verdict before it is sanitised. -/
structure Unsanitised (A : ConnectAccount) (p : Publication) : Prop where
  restored : SecondToldLess A → p.failReason = .rejected ∧ p.reason = 30
  recorded : ¬ SecondToldLess A → p.reason = 0 ∨ p.reason ∈ A.codes

/-- The outcome of a pass that has a second. -/
def firstRejected : FirstPass := { failReason := .rejected, reasonCode := 30 }

/-- Before the `Wlan_Connect` of a pass. -/
structure BeforeCall (first : Option FirstPass) (A : ConnectAccount) : Prop where
  began : A.began.isSome
  published : A.published = []
  first : first = none ∧ A.calls = 0 ∨ first = some firstRejected ∧ A.calls = 1 ∧ RetryDue A

/-- In a pass that has met `P`. -/
structure InPass (first : Option FirstPass) (A : ConnectAccount) (P : PassAccount) : Prop where
  pass : A.pass = P
  began : A.began.isSome
  published : A.published = []
  tagged : A.writes.isSome
  first : first = none ∧ A.calls = 1 ∨ first = some firstRejected ∧ A.calls = 2

/-- The pass was woken, or its wait has run past the deadline of the association. -/
def WokenOrLate (s : ConnectRun) (A : ConnectAccount) (a : Answer) : Prop :=
  a = .signalled ∨ a = .expired ∧ ∀ t₀, A.began = some t₀ → t₀ + 30000 ≤ s.now

/-- A first pass that has been rejected in time, with reason 30 recorded by `e`. -/
def CheckedInTime (A : ConnectAccount) (e : WlanEvent) : Prop :=
  ∃ status tag t₀ t₁, status < 0 ∧ tag.reason = 30 ∧ A.began = some t₀ ∧ t₀ ≤ t₁ ∧ t₁ - t₀ ≤ 14000 ∧
    InPass none A { called := some 0, waited := some .signalled, judged := some status,
                    loads := [(tag, some e)], checkedAt := some t₁ }

/-- A pass that has found the station associated. -/
structure AccountAssociated (A : ConnectAccount) : Prop where
  published : A.published = []
  calls : A.calls ≤ 2
  tagged : A.writes.isSome
  called : A.pass.called = some 0
  waited : A.pass.waited ≠ some .timedOut
  judged : ∃ status, A.pass.judged = some status ∧ 0 ≤ status

/-- One verdict has been published. -/
structure AccountConcluded (A : ConnectAccount) : Prop where
  published : ∃ p, A.published = [p]
  calls : A.calls ≤ 2

/-- The account of a run that stands at `pc`. -/
def ConnectAt (s : ConnectRun) (A : ConnectAccount) : ConnectPc → Prop
  | .stmt (.connectStart _) | .stmt .connectLazy | .stmt .connectRole | .start =>
      A.calls = 0 ∧ A.published = []
  | .stmt (.connectClear first) | .stmt (.connectStatus first) | .stmt (.connectTag first) =>
      BeforeCall first A
  | .stmt (.connectCall first) => BeforeCall first A ∧ A.writes.isSome
  | .stmt (.connectWait first) => InPass first A { called := some 0 }
  | .sliced first waitMs => InPass first A { called := some 0 } ∧
      ∀ t₀, A.began = some t₀ → t₀ + 30000 ≤ s.now + waitMs.toNat
  | .waiting first waitMs startMs => InPass first A { called := some 0 } ∧
      ∃ b, b ≤ s.now ∧ startMs = UInt32.ofNat b ∧
        ∀ t₀, A.began = some t₀ → t₀ ≤ b ∧ t₀ + 30000 ≤ b + waitMs.toNat
  | .stmt .connectTimeout => InPass none A { called := some 0, waited := some .timedOut }
  | .stmt (.connectJudge first) => ∃ a, WokenOrLate s A a ∧
      InPass first A { called := some 0, waited := some a }
  | .stmt (.connectReason first) => ∃ a status, WokenOrLate s A a ∧ status < 0 ∧
      InPass first A { called := some 0, waited := some a, judged := some status }
  | .stmt (.retryBudget tag) => ∃ a status e, WokenOrLate s A a ∧ status < 0 ∧ tag.reason = 30 ∧
      tag.event = e.retryEvent ∧ tag.reason ∈ A.codes ∧
      InPass none A { called := some 0, waited := some a, judged := some status,
                      loads := [(tag, some e)] }
  | .stmt (.retryClear first) | .stmt (.retryDisconnect first) | .stmt (.retryOwn first)
  | .stmt (.retryWait first) => first = firstRejected ∧
      ∃ e, s.firstPassReasonEvent = e.retryEvent ∧ CheckedInTime A e
  | .sleep first delayMs => first = firstRejected ∧
      ∃ e, delayMs = e.retryDelayMs ∧ CheckedInTime A e
  | .stmt .networkSetUp | .stmt .lease | .stmt .noLease => AccountAssociated A
  | .stmt (.connSet .tag p _) => A.published = [] ∧ A.calls ≤ 2 ∧ p.state = .connected
  | .stmt (.connSet .state p _) => A.published = [] ∧ A.calls ≤ 2 ∧
      (p.state = .connFailed → Verdict A s.wifi.ownDisconnectIssued p)
  | .stmt (.connSet .push _ _) => AccountConcluded A
  | .stmt (.connSet _ p _) => A.published = [] ∧ A.calls ≤ 2 ∧
      (p.state = .connFailed → Unsanitised A p)
  | .stmt (.clearStale _) | .stmt (.clearStaleOwn _) | .stmt (.ret _ _) | .returned => AccountConcluded A
  | .stmt _ => False

/-- What holds wherever the run stands. -/
structure ConnectKept (now₀ : Nat) (s : ConnectRun) (A : ConnectAccount) : Prop where
  now : now₀ ≤ s.now
  word : ∀ ws, A.writes = some ws → TagAccount s.wifi.lastReasonTag ws
  clock : ∀ t₀, A.began = some t₀ →
    s.assocWaitStartMs = UInt32.ofNat t₀ ∧ now₀ ≤ t₀ ∧ t₀ ≤ s.now

/-! ## The callback and the clock -/

/-- Words may have been added to the account. -/
structure AccountGrows (A A' : ConnectAccount) : Prop where
  began : A'.began = A.began
  calls : A'.calls = A.calls
  pass : A'.pass = A.pass
  published : A'.published = A.published
  tagged : A.writes.isSome → A'.writes.isSome
  codes : A.codes ⊆ A'.codes

section

variable {L : WifiLimits} {now₀ : Nat} {s s' : ConnectRun} {A A' : ConnectAccount} {a : Answer}
  {first : Option FirstPass} {P : PassAccount} {p : Publication} {e : WlanEvent} {pc : ConnectPc}
  {own : Bool}

theorem AccountGrows.refl (A : ConnectAccount) : AccountGrows A A :=
  ⟨rfl, rfl, rfl, rfl, id, fun _ h => h⟩

theorem RetryDue.grows (h : RetryDue A) (hg : AccountGrows A A') : RetryDue A' where
  woken := by rw [hg.pass]; exact h.woken
  judged := by rw [hg.pass]; exact h.judged
  loaded := by rw [hg.pass]; exact h.loaded
  inTime := by rw [hg.pass, hg.began]; exact h.inTime

theorem AccountGrows.secondToldLess (hg : AccountGrows A A') :
    SecondToldLess A' ↔ SecondToldLess A := by
  constructor <;> rintro ⟨hcalls, hless⟩
  · exact ⟨hg.calls ▸ hcalls, hg.pass ▸ hless⟩
  · exact ⟨hg.calls.trans hcalls, hg.pass.symm ▸ hless⟩

theorem Unsanitised.grows (h : Unsanitised A p) (hg : AccountGrows A A') : Unsanitised A' p where
  restored hless := h.restored (hg.secondToldLess.mp hless)
  recorded hmore := (h.recorded fun hless => hmore (hg.secondToldLess.mpr hless)).imp id (@hg.codes _)

theorem Verdict.grows (h : Verdict A own p) (hg : AccountGrows A A') : Verdict A' own p where
  restored hless := h.restored (hg.secondToldLess.mp hless)
  recorded hmore := by
    obtain ⟨code, hcode, hp⟩ := h.recorded fun hless => hmore (hg.secondToldLess.mpr hless)
    exact ⟨code, hcode.imp id (@hg.codes _), hp⟩

theorem BeforeCall.grows (h : BeforeCall first A) (hg : AccountGrows A A') : BeforeCall first A' where
  began := by rw [hg.began]; exact h.began
  published := hg.published.trans h.published
  first := by
    rw [hg.calls]
    exact h.first.imp id fun ⟨hf, hc, hd⟩ => ⟨hf, hc, hd.grows hg⟩

theorem InPass.grows (h : InPass first A P) (hg : AccountGrows A A') : InPass first A' P where
  pass := hg.pass.trans h.pass
  began := by rw [hg.began]; exact h.began
  published := hg.published.trans h.published
  tagged := hg.tagged h.tagged
  first := by rw [hg.calls]; exact h.first

theorem CheckedInTime.grows (h : CheckedInTime A e) (hg : AccountGrows A A') : CheckedInTime A' e := by
  obtain ⟨status, tag, t₀, t₁, hstatus, htag, hbegan, hle, hin, hp⟩ := h
  exact ⟨status, tag, t₀, t₁, hstatus, htag, hg.began.trans hbegan, hle, hin, hp.grows hg⟩

theorem AccountAssociated.grows (h : AccountAssociated A) (hg : AccountGrows A A') : AccountAssociated A' where
  published := hg.published.trans h.published
  calls := hg.calls.trans_le h.calls
  tagged := hg.tagged h.tagged
  called := by rw [hg.pass]; exact h.called
  waited := by rw [hg.pass]; exact h.waited
  judged := by rw [hg.pass]; exact h.judged

theorem AccountConcluded.grows (h : AccountConcluded A) (hg : AccountGrows A A') : AccountConcluded A' where
  published := by rw [hg.published]; exact h.published
  calls := hg.calls.trans_le h.calls

theorem WokenOrLate.grows (h : WokenOrLate s A a) (hg : AccountGrows A A') (hnow : s.now ≤ s'.now) :
    WokenOrLate s' A' a :=
  h.imp id fun ⟨ha, hlate⟩ => ⟨ha, fun t₀ h₀ => (hlate t₀ (hg.began ▸ h₀)).trans hnow⟩

/-- A callback or some time leaves the run where it stands. -/
theorem ConnectAt.grows (h : ConnectAt s A pc) (hg : AccountGrows A A') (hnow : s.now ≤ s'.now)
    (hevent : s'.firstPassReasonEvent = s.firstPassReasonEvent)
    (hown : s'.wifi.ownDisconnectIssued = s.wifi.ownDisconnectIssued) : ConnectAt s' A' pc := by
  have hfresh : A.calls = 0 ∧ A.published = [] → A'.calls = 0 ∧ A'.published = [] :=
    fun ⟨hc, hp⟩ => ⟨hg.calls.trans hc, hg.published.trans hp⟩
  have hopen : ∀ {C C' : Prop}, (C → C') → A.published = [] ∧ A.calls ≤ 2 ∧ C →
      A'.published = [] ∧ A'.calls ≤ 2 ∧ C' :=
    fun hC ⟨hp, hc, h⟩ => ⟨hg.published.trans hp, hg.calls.trans_le hc, hC h⟩
  match pc, h with
  | .start, h | .stmt (.connectStart _), h | .stmt .connectLazy, h | .stmt .connectRole, h =>
      exact hfresh h
  | .stmt (.connectClear _), h | .stmt (.connectStatus _), h | .stmt (.connectTag _), h =>
      exact BeforeCall.grows h hg
  | .stmt (.connectCall _), ⟨h, htag⟩ => exact ⟨h.grows hg, hg.tagged htag⟩
  | .stmt (.connectWait _), h | .stmt .connectTimeout, h => exact InPass.grows h hg
  | .sliced _ _, ⟨h, hdead⟩ =>
      exact ⟨h.grows hg, fun t₀ h₀ => (hdead t₀ (hg.began ▸ h₀)).trans (by omega)⟩
  | .waiting _ _ _, ⟨h, b, hb, hstart, hdead⟩ =>
      exact ⟨h.grows hg, b, hb.trans hnow, hstart, fun t₀ h₀ => hdead t₀ (hg.began ▸ h₀)⟩
  | .stmt (.connectJudge _), ⟨a, ha, h⟩ => exact ⟨a, ha.grows hg hnow, h.grows hg⟩
  | .stmt (.connectReason _), ⟨a, status, ha, hs, h⟩ =>
      exact ⟨a, status, ha.grows hg hnow, hs, h.grows hg⟩
  | .stmt (.retryBudget _), ⟨a, status, e, ha, hs, hreason, hev, hcode, h⟩ =>
      exact ⟨a, status, e, ha.grows hg hnow, hs, hreason, hev, hg.codes hcode, h.grows hg⟩
  | .stmt (.retryClear _), ⟨hf, e, hev, h⟩ | .stmt (.retryDisconnect _), ⟨hf, e, hev, h⟩
  | .stmt (.retryOwn _), ⟨hf, e, hev, h⟩ | .stmt (.retryWait _), ⟨hf, e, hev, h⟩ =>
      exact ⟨hf, e, hevent.trans hev, h.grows hg⟩
  | .sleep _ _, ⟨hf, e, hd, h⟩ => exact ⟨hf, e, hd, h.grows hg⟩
  | .stmt .networkSetUp, h | .stmt .lease, h | .stmt .noLease, h => exact AccountAssociated.grows h hg
  | .stmt (.connSet .tag _ _), h => exact hopen id h
  | .stmt (.connSet .state _ _), h =>
      refine hopen (fun hv hs => ?_) h
      rw [hown]
      exact (hv hs).grows hg
  | .stmt (.connSet .failReason _ _), h | .stmt (.connSet .rssi _ _), h
  | .stmt (.connSet .reason _ _), h => exact hopen (fun hu hs => (hu hs).grows hg) h
  | .stmt (.connSet .push _ _), h | .stmt (.clearStale _), h | .stmt (.clearStaleOwn _), h
  | .stmt (.ret _ _), h | .returned, h => exact AccountConcluded.grows h hg

end

/-! ## A statement of the body -/

section

variable {L : WifiLimits} {now₀ : Nat} {s s' : ConnectRun} {A A' : ConnectAccount} {a b : Answer}
  {first : Option FirstPass} {P : PassAccount} {p : Publication} {ev : ConnectEv} {pc : WifiPc} {w w' : Wifi}
  {show' : WifiOut → ConnectEv} {t₀ : Nat} {tag : WifiReasonTag}

/-- A step that touches neither the tag nor the clock. -/
theorem ConnectKept.same (h : ConnectKept now₀ s A) (hnow : s'.now = s.now)
    (hstart : s'.assocWaitStartMs = s.assocWaitStartMs)
    (htag : s'.wifi.lastReasonTag = s.wifi.lastReasonTag) (hbegan : A'.began = A.began)
    (hwrites : A'.writes = A.writes) : ConnectKept now₀ s' A' where
  now := hnow ▸ h.now
  word ws hws := htag ▸ h.word ws (hwrites ▸ hws)
  clock t₀ h₀ := by
    rw [hnow, hstart]
    exact h.clock t₀ (hbegan ▸ h₀)

/-- The reason in the tag was recorded since its reset. -/
theorem ConnectKept.recorded (h : ConnectKept now₀ s A) (htagged : A.writes.isSome) :
    s.wifi.lastReasonTag.reason = 0 ∨ s.wifi.lastReasonTag.reason ∈ A.codes := by
  obtain ⟨ws, hws⟩ := Option.isSome_iff_exists.mp htagged
  have hrec := (h.word ws hws).recorded
  rw [ConnectAccount.codes, hws]
  exact hrec

theorem ConnectKept.writer (h : ConnectKept now₀ s A) (htagged : A.writes.isSome)
    (hreason : s.wifi.lastReasonTag.reason ≠ 0) :
    ∃ e, A.writer = some e ∧ s.wifi.lastReasonTag.event = e.retryEvent := by
  obtain ⟨ws, hws⟩ := Option.isSome_iff_exists.mp htagged
  obtain ⟨e, he, hev⟩ := (h.word ws hws).writer hreason
  refine ⟨e, ?_, hev⟩
  rw [ConnectAccount.writer, hws]
  exact he

theorem UInt32.toNat_ofNat_sub {m n : Nat} (hle : n ≤ m) (hlt : m - n < 2 ^ 32) :
    (UInt32.ofNat m - UInt32.ofNat n).toNat = m - n := by
  rw [UInt32.toNat_sub, UInt32.toNat_ofNat', UInt32.toNat_ofNat']
  omega

/-- As long as the run is short, the clock does not lap itself. -/
theorem ConnectKept.elapsed (h : ConnectKept now₀ s A) (htime : s.now < now₀ + 2 ^ 31)
    (h₀ : A.began = some t₀) : t₀ ≤ s.now ∧ s.elapsedMs.toNat = s.now - t₀ := by
  obtain ⟨hstart, hge, hle⟩ := h.clock t₀ h₀
  refine ⟨hle, ?_⟩
  rw [ConnectRun.elapsedMs, ConnectRun.uptimeMs, hstart]
  exact UInt32.toNat_ofNat_sub hle (by omega)

/-! ## Verdicts -/

end

end Cc3501eBridge
