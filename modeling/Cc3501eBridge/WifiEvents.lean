import Cc3501eBridge.Lib.Trace
import Cc3501eBridge.Wifi

/-!
# Which event completes which request

Scan and connect share one sync object and one status word, and the callback signals for every
event, so which event ends which wait is decided by the order of clearing, resetting, calling and
delivering.  An event may come late: the cleanup of a connect that timed out asks for a disconnect
nobody waits for, and its event arrives when it likes, perhaps in the middle of the next run.

`wifiTask` runs the bodies one after another and delivers events anywhere in between, each of them
the consequence of a request the radio has accepted.  A scan or a connect is completed by its own
event as long as no other event falls into its window; `OwnWindow` names the windows.
-/

namespace Cc3501eBridge

open Machine

/-! ## The task and the radio -/

/-- Which requests the radio has accepted so far. -/
structure Radio where
  scan : Bool := false
  connect : Bool := false
  disconnect : Bool := false
  deriving DecidableEq, Repr

namespace Radio

/-- A call that returns zero is accepted. -/
def accept (r : Radio) : WifiOut → Radio
  | .called request rv =>
      if rv = 0 then
        match request with
        | .scan => { r with scan := true }
        | .connect => { r with connect := true }
        | .disconnect => { r with disconnect := true }
      else r
  | _ => r

/-- What an accepted request yields, sooner or later. -/
def yields (r : Radio) : WlanEvent → Bool
  | .scanResult _ | .extendedScanResult _ => r.scan
  | .connect _ | .associationRejected _ | .authenticationRejected _ => r.connect
  | .disconnect _ => r.connect || r.disconnect
  | .other => true

end Radio

/-- The worker's memory, the radio and the body under way. -/
structure WifiTask where
  wifi : Wifi
  radio : Radio := {}
  run : Option (HalCall × WifiPc) := none

inductive WifiAct
  | /-- A body is entered. -/
    start (call : HalCall)
  | /-- The body takes a step. -/
    body (a : Answer)
  | /-- The driver delivers an event. -/
    event (e : WlanEvent)
  | /-- A dispatch queues a connect. -/
    mark

inductive WifiEv
  | started (call : HalCall)
  | body (call : HalCall) (out : WifiOut)
  | delivered (e : WlanEvent)
  | marked

/-- One step of the worker in its environment. -/
def wifiStep (L : WifiLimits) (s : WifiTask) : WifiAct → Option (WifiTask × WifiEv)
  | .start call =>
      match s.run, call.wifiEntry with
      | none, some pc => some ({ s with run := some (call, pc) }, .started call)
      | _, _ => none
  | .body a =>
      match s.run with
      | some (call, pc) => do
          let (w, pc', out) ← bodyStep L s.wifi a pc
          return ({ wifi := w, radio := s.radio.accept out, run := pc'.map (call, ·) },
            .body call out)
      | none => none
  | .event e =>
      if s.radio.yields e then some ({ s with wifi := wifiEventCb L s.wifi e }, .delivered e)
      else none
  | .mark => some ({ s with wifi := hwWifiMarkConnecting s.wifi }, .marked)

/-- The worker as a machine. -/
def wifiTask (L : WifiLimits) : Machine WifiTask WifiAct WifiEv where
  step := wifiStep L

/-- Nothing started, nothing accepted. -/
def WifiTask.boot : WifiTask := { wifi := .boot }

/-! ## Events of a history -/

namespace WlanEvent

/-- `WLAN_EVENT_SCAN_RESULT` or `WLAN_EVENT_EXTENDED_SCAN_RESULT`. -/
def isScanResult : WlanEvent → Bool
  | .scanResult _ | .extendedScanResult _ => true
  | _ => false

/-- The status an event stores when it signals. -/
def status : WlanEvent → Option Int
  | .scanResult _ | .extendedScanResult (some _) => some 0
  | .extendedScanResult none => some (-77)
  | .connect status => some status
  | .disconnect _ | .authenticationRejected _ => some (-1)
  | .associationRejected status => if status = assocRejectedTemporarily then none else some (-1)
  | .other => none

/-- An event that passes for an association. -/
def looksConnected (e : WlanEvent) : Bool := e.status.any (0 ≤ ·)

/-- `WLAN_EVENT_CONNECT`. -/
def isConnect : WlanEvent → Bool
  | .connect _ => true
  | _ => false

end WlanEvent

/-- The events delivered since the body under way made its latest call of the given sort, if it has
made one. -/
def sinceCall (request : RadioRequest) (tr : List WifiEv) : Option (List WlanEvent) :=
  tr.foldl (fun acc e =>
    match e with
    | .started _ => none
    | .body _ (.called request' _) => if request' = request then some [] else acc
    | .delivered e => acc.map (· ++ [e])
    | _ => acc) none

/-- A scan that returns OK packs the records of a scan result delivered after its own call. -/
def ScanCompleted (L : WifiLimits) (tr : List WifiEv) (e : WifiEv) : Prop :=
  ∀ cap r, e = .body (.wifiScan cap) (.returned r) → r.rv = hwOk →
    ∃ evs, sinceCall .scan tr = some evs ∧ ∃ e ∈ evs, e.isScanResult = true ∧
      r.data = packScan cap 0 ((e.records L).map (·.record L.ssidBytes))

/-- A connect that goes on to `network_set_up` has seen a connect event since its latest call. -/
def ConnectCompleted (tr : List WifiEv) (e : WifiEv) : Prop :=
  ∀ call, e = .body call .setUp →
    ∃ evs, sinceCall .connect tr = some evs ∧ ∃ status, 0 ≤ status ∧ .connect status ∈ evs

/-! ## The windows -/

/-- What may be delivered while a body stands at `pc`.
A scan: nothing that signals between the clearing and the call, nothing but a scan result while the
wait has not been signalled, and no scan result once the packing has begun.  A connect: nothing that
signals between the clearing and the reset of the status, nothing that looks like an association
between that reset and the call, and from the call to the judgement only a connect event may. -/
def WifiPc.OwnWindow (w : Wifi) (e : WlanEvent) : WifiPc → Prop
  | .scanBefore _ _ | .scanCall _ _ _ => e.status = none
  | .scanWait _ _ => w.eventSync = false → e.status ≠ none → e.isScanResult = true
  | .packNext _ _ _ _ | .packCopy _ _ _ _ _ _ => e.isScanResult = false
  | .connectStatus _ => e.status = none
  | .connectTag _ | .connectCall _ => e.looksConnected = false
  | .connectWait _ | .connectJudge _ => e.looksConnected = true → e.isConnect = true
  | _ => True

/-- Events stay out of windows that are not theirs, and the sliced wait of a connect does not begin
after its deadline. -/
def OwnEvents (s : WifiTask) : WifiAct → Prop
  | .event e =>
      match s.run with
      | some (_, pc) => pc.OwnWindow s.wifi e
      | none => True
  | .body a => a ≠ .expired
  | _ => True

instance (w : Wifi) (e : WlanEvent) (pc : WifiPc) : Decidable (pc.OwnWindow w e) := by
  cases pc <;> unfold WifiPc.OwnWindow <;> infer_instance

instance (s : WifiTask) (act : WifiAct) : Decidable (OwnEvents s act) := by
  cases act with
  | event e => unfold OwnEvents; cases s.run <;> infer_instance
  | _ => unfold OwnEvents; infer_instance

/-! ## What the callback does -/

section

variable (L : WifiLimits) (w : Wifi) {e : WlanEvent}

theorem Wifi.recordReason_eq (event : WifiRetryEvent) (reason : Int16) :
    ∃ tag, w.recordReason event reason = { w with lastReasonTag := tag } := by
  unfold recordReason
  split_ifs
  · exact ⟨_, rfl⟩
  · exact ⟨w.lastReasonTag, rfl⟩

/-- An event that carries no status does not signal. -/
theorem wifiEventCb_of_none (h : e.status = none) :
    (wifiEventCb L w e).eventSync = w.eventSync ∧ (wifiEventCb L w e).lastStatus = w.lastStatus := by
  cases e with
  | associationRejected status =>
      have hs : status = assocRejectedTemporarily := by
        by_contra hne
        simp [WlanEvent.status, hne] at h
      subst hs
      obtain ⟨tag, htag⟩ := Wifi.recordReason_eq { w with cbEventCount := w.cbEventCount + 1 }
        .associationRejected assocRejectedTemporarily.toInt16
      simp [wifiEventCb, htag]
  | other => exact ⟨rfl, rfl⟩
  | extendedScanResult list => cases list <;> simp [WlanEvent.status] at h
  | _ => simp [WlanEvent.status] at h

/-- An event that carries a status stores it and signals. -/
theorem wifiEventCb_of_some {n : Int} (h : e.status = some n) :
    (wifiEventCb L w e).eventSync = true ∧ (wifiEventCb L w e).lastStatus = n := by
  cases e with
  | extendedScanResult list => cases list <;> exact ⟨rfl, Option.some.inj h⟩
  | associationRejected status =>
      have hs : status ≠ assocRejectedTemporarily := by
        rintro rfl
        simp [WlanEvent.status] at h
      rw [WlanEvent.status, if_neg hs] at h
      simp only [wifiEventCb, if_neg hs]
      exact ⟨rfl, Option.some.inj h⟩
  | other => simp [WlanEvent.status] at h
  | _ => exact ⟨rfl, Option.some.inj h⟩

/-- Only a scan result touches the cache. -/
theorem wifiEventCb_of_not_scan (h : e.isScanResult = false) :
    (wifiEventCb L w e).scanCount = w.scanCount ∧ (wifiEventCb L w e).scanCache = w.scanCache := by
  cases e with
  | scanResult list => simp [WlanEvent.isScanResult] at h
  | extendedScanResult list => simp [WlanEvent.isScanResult] at h
  | connect status => exact ⟨rfl, rfl⟩
  | disconnect reasonCode =>
      obtain ⟨tag, htag⟩ := Wifi.recordReason_eq { w with cbEventCount := w.cbEventCount + 1 }
        .disconnect reasonCode
      simp only [wifiEventCb, htag]
      split_ifs <;> exact ⟨rfl, rfl⟩
  | associationRejected status =>
      obtain ⟨tag, htag⟩ := Wifi.recordReason_eq { w with cbEventCount := w.cbEventCount + 1 }
        .associationRejected status.toInt16
      simp only [wifiEventCb, htag]
      split_ifs <;> exact ⟨rfl, rfl⟩
  | authenticationRejected status =>
      obtain ⟨tag, htag⟩ := Wifi.recordReason_eq { w with cbEventCount := w.cbEventCount + 1 }
        .authenticationRejected status.toInt16
      simp only [wifiEventCb, htag]
      exact ⟨rfl, rfl⟩
  | other => exact ⟨rfl, rfl⟩

/-- The cache holds the records of `e`. -/
def Wifi.Caches (w : Wifi) (e : WlanEvent) : Prop :=
  ∀ i r, (e.records L)[i]? = some r → w.scanCache i = r

/-- A scan result leaves its records in the cache, and their number. -/
theorem wifiEventCb_of_scan (h : e.isScanResult = true) :
    (wifiEventCb L w e).scanCount = (e.records L).length ∧ (wifiEventCb L w e).Caches L e := by
  cases e with
  | scanResult list =>
      refine ⟨rfl, fun i r hr => ?_⟩
      change ((list.take L.scanCacheMax)[i]?).getD _ = r
      rw [show (list.take L.scanCacheMax)[i]? = some r from hr]
      rfl
  | extendedScanResult list =>
      cases list with
      | none => exact ⟨rfl, fun i r hr => by simp [WlanEvent.records] at hr⟩
      | some list =>
          refine ⟨rfl, fun i r hr => ?_⟩
          change ((list.take L.scanCacheMax)[i]?).getD _ = r
          rw [show (list.take L.scanCacheMax)[i]? = some r from hr]
          rfl
  | _ => simp [WlanEvent.isScanResult] at h

end

/-! ## The invariant -/

/-- The wire form of an event's records. -/
def WlanEvent.wire (L : WifiLimits) (e : WlanEvent) : List (List UInt8) :=
  (e.records L).map (·.record L.ssidBytes)

section

variable (L : WifiLimits) (tr : List WifiEv) (w : Wifi)

/-- The cache holds a scan result delivered since the body's call. -/
def ResultCached : Prop :=
  ∃ evs, sinceCall .scan tr = some evs ∧
    ∃ e ∈ evs, e.isScanResult = true ∧ w.scanCount = (e.records L).length ∧ w.Caches L e

/-- A connect event has been delivered since the body's call. -/
def Associated : Prop :=
  ∃ evs, sinceCall .connect tr = some evs ∧ ∃ status, 0 ≤ status ∧ .connect status ∈ evs

/-- `i` records of a scan result delivered since the body's call are packed in `buf`. -/
def Packing (cap count i : Nat) (buf : List UInt8) (e : WlanEvent) : Prop :=
  (∃ evs, sinceCall .scan tr = some evs ∧ e ∈ evs) ∧ e.isScanResult = true ∧ w.Caches L e ∧
    count = (e.records L).length ∧
    buf ++ packScan cap buf.length ((e.wire L).drop i) = packScan cap 0 (e.wire L)

/-- What a run of `call` keeps true at each of its statements, as long as events stay out of foreign
windows. -/
def OwnInv (call : HalCall) : WifiPc → Prop
  | .scanStart cap | .scanRole cap | .scanCount cap _ | .scanClear cap _ => call = .wifiScan cap
  | .scanBefore cap _ | .scanCall cap _ _ => call = .wifiScan cap ∧ w.eventSync = false
  | .scanWait cap _ => call = .wifiScan cap ∧ sinceCall .scan tr ≠ none ∧
      (w.eventSync = true → ResultCached L tr w)
  | .scanDiag _ => ∃ cap, call = .wifiScan cap
  | .packStart cap => call = .wifiScan cap ∧ ResultCached L tr w
  | .packNext cap count i buf => call = .wifiScan cap ∧ ∃ e, Packing L tr w cap count i buf e
  | .packCopy cap count i len j buf => call = .wifiScan cap ∧
      ∃ e entry done, Packing L tr w cap count i done e ∧ (e.records L)[i]? = some entry ∧
        len = entry.wireSsidLen L.ssidBytes ∧
        buf = done ++ (entry.record L.ssidBytes).take j ∧
        done.length + (entry.record L.ssidBytes).length ≤ cap
  | .ret rv data => ∀ cap, call = .wifiScan cap → rv = hwOk →
      ∃ evs, sinceCall .scan tr = some evs ∧ ∃ e ∈ evs, e.isScanResult = true ∧
        data = packScan cap 0 (e.wire L)
  | .connectStatus _ => (∀ cap, call ≠ .wifiScan cap) ∧ w.eventSync = false
  | .connectTag _ | .connectCall _ =>
      (∀ cap, call ≠ .wifiScan cap) ∧ (w.eventSync = true → w.lastStatus < 0)
  | .connectWait _ => (∀ cap, call ≠ .wifiScan cap) ∧ sinceCall .connect tr ≠ none ∧
      (w.eventSync = true → w.lastStatus < 0 ∨ Associated tr)
  | .connectJudge _ => (∀ cap, call ≠ .wifiScan cap) ∧ sinceCall .connect tr ≠ none ∧
      (w.lastStatus < 0 ∨ Associated tr)
  | .networkSetUp => (∀ cap, call ≠ .wifiScan cap) ∧ Associated tr
  | _ => ∀ cap, call ≠ .wifiScan cap

end

section

variable {L : WifiLimits} {tr : List WifiEv} {w w' : Wifi} {call : HalCall} {pc : WifiPc}
  {e : WlanEvent} {request : RadioRequest}

theorem sinceCall_delivered :
    sinceCall request (tr ++ [.delivered e]) = (sinceCall request tr).map (· ++ [e]) := by
  simp [sinceCall]

theorem sinceCall_called {rv : Int} :
    sinceCall request (tr ++ [.body call (.called request rv)]) = some [] := by
  simp [sinceCall]

theorem sinceCall_body {out : WifiOut} (h : ∀ rv, out ≠ .called request rv) :
    sinceCall request (tr ++ [.body call out]) = sinceCall request tr := by
  cases out with
  | called request' rv =>
      have hne : request' ≠ request := by
        rintro rfl
        exact h rv rfl
      simp [sinceCall, hne]
  | _ => simp [sinceCall]

theorem sinceCall_marked : sinceCall request (tr ++ [.marked]) = sinceCall request tr := by
  simp [sinceCall]

/-! ### Delivering an event -/

theorem Associated.delivered (h : Associated tr) : Associated (tr ++ [.delivered e]) := by
  obtain ⟨evs, hevs, status, hs, hmem⟩ := h
  exact ⟨evs ++ [e], by rw [sinceCall_delivered, hevs]; rfl, status, hs, by simp [hmem]⟩

/-- A connect event with a good status, after the call. -/
theorem associated_of_connect {status : Int} (h : sinceCall .connect tr ≠ none) (hs : 0 ≤ status) :
    Associated (tr ++ [.delivered (.connect status)]) := by
  obtain ⟨evs, hevs⟩ := Option.ne_none_iff_exists'.mp h
  exact ⟨evs ++ [.connect status], by rw [sinceCall_delivered, hevs]; rfl, status, hs, by simp⟩

/-- Another event leaves a cached result cached. -/
theorem ResultCached.delivered (h : ResultCached L tr w) (he : e.isScanResult = false) :
    ResultCached L (tr ++ [.delivered e]) (wifiEventCb L w e) := by
  obtain ⟨evs, hevs, e', hmem, hscan, hcount, hcache⟩ := h
  obtain ⟨hc, hcc⟩ := wifiEventCb_of_not_scan L w he
  refine ⟨evs ++ [e], by rw [sinceCall_delivered, hevs]; rfl, e', by simp [hmem], hscan,
    hc.trans hcount, ?_⟩
  rwa [Wifi.Caches, hcc]

/-- A scan result after the call is cached. -/
theorem resultCached_of_scan (h : sinceCall .scan tr ≠ none) (he : e.isScanResult = true) :
    ResultCached L (tr ++ [.delivered e]) (wifiEventCb L w e) := by
  obtain ⟨evs, hevs⟩ := Option.ne_none_iff_exists'.mp h
  obtain ⟨hc, hcc⟩ := wifiEventCb_of_scan L w he
  exact ⟨evs ++ [e], by rw [sinceCall_delivered, hevs]; rfl, e, by simp, he, hc, hcc⟩

theorem ResultCached.deliver (h : ResultCached L tr w) :
    ResultCached L (tr ++ [.delivered e]) (wifiEventCb L w e) := by
  cases he : e.isScanResult with
  | false => exact h.delivered he
  | true =>
      obtain ⟨evs, hevs, -⟩ := h
      exact resultCached_of_scan (by simp [hevs]) he

theorem Packing.delivered {cap count i : Nat} {buf : List UInt8} {e' : WlanEvent}
    (h : Packing L tr w cap count i buf e') (he : e.isScanResult = false) :
    Packing L (tr ++ [.delivered e]) (wifiEventCb L w e) cap count i buf e' := by
  obtain ⟨⟨evs, hevs, hmem⟩, hscan, hcache, hcount, hbuf⟩ := h
  refine ⟨⟨evs ++ [e], by rw [sinceCall_delivered, hevs]; rfl, by simp [hmem]⟩, hscan, ?_, hcount,
    hbuf⟩
  rwa [Wifi.Caches, (wifiEventCb_of_not_scan L w he).2]

theorem sinceCall_delivered_ne_none (h : sinceCall request tr ≠ none) :
    sinceCall request (tr ++ [.delivered e]) ≠ none := by
  rw [sinceCall_delivered]
  simpa using h

/-- Before the call, nothing passes for an association. -/
theorem lastStatus_delivered (h : w.eventSync = true → w.lastStatus < 0)
    (he : e.looksConnected = false) :
    (wifiEventCb L w e).eventSync = true → (wifiEventCb L w e).lastStatus < 0 := by
  cases hs : e.status with
  | none =>
      obtain ⟨hsync, hlast⟩ := wifiEventCb_of_none L w hs
      rwa [hsync, hlast]
  | some n =>
      rw [(wifiEventCb_of_some L w hs).2]
      intro _
      simpa [WlanEvent.looksConnected, hs] using he

/-- After the call, what passes for an association is one. -/
theorem associated_of_some {n : Int} (hsince : sinceCall .connect tr ≠ none) (hs : e.status = some n)
    (he : e.looksConnected = true → e.isConnect = true) :
    (wifiEventCb L w e).lastStatus < 0 ∨ Associated (tr ++ [.delivered e]) := by
  rw [(wifiEventCb_of_some L w hs).2]
  rcases lt_or_ge n 0 with hn | hn
  · exact .inl hn
  · have hc := he (by simp [WlanEvent.looksConnected, hs, hn])
    cases e with
    | connect status =>
        obtain rfl : status = n := Option.some.inj hs
        exact .inr (associated_of_connect hsince hn)
    | _ => simp [WlanEvent.isConnect] at hc

theorem associated_delivered (hsince : sinceCall .connect tr ≠ none)
    (h : w.lastStatus < 0 ∨ Associated tr) (he : e.looksConnected = true → e.isConnect = true) :
    (wifiEventCb L w e).lastStatus < 0 ∨ Associated (tr ++ [.delivered e]) := by
  cases hs : e.status with
  | none =>
      rw [(wifiEventCb_of_none L w hs).2]
      exact h.imp_right .delivered
  | some n => exact associated_of_some hsince hs he

/-- The invariant survives an event that stays in its own windows. -/
theorem OwnInv.delivered (h : OwnInv L tr w call pc) (hg : pc.OwnWindow w e) :
    OwnInv L (tr ++ [.delivered e]) (wifiEventCb L w e) call pc := by
  cases pc with
  | scanBefore cap roleUp =>
      exact ⟨h.1, (wifiEventCb_of_none L w hg).1.trans h.2⟩
  | scanCall cap roleUp cbBefore =>
      exact ⟨h.1, (wifiEventCb_of_none L w hg).1.trans h.2⟩
  | scanWait cap cbBefore =>
      obtain ⟨hcall, hsince, hcached⟩ := h
      refine ⟨hcall, sinceCall_delivered_ne_none hsince, fun hsync => ?_⟩
      cases hw : w.eventSync with
      | true => exact (hcached hw).deliver
      | false =>
          refine resultCached_of_scan hsince (hg hw fun hn => ?_)
          rw [(wifiEventCb_of_none L w hn).1, hw] at hsync
          simp at hsync
  | packStart cap => exact ⟨h.1, h.2.deliver⟩
  | packNext cap count i buf =>
      obtain ⟨hcall, e', hp⟩ := h
      exact ⟨hcall, e', hp.delivered hg⟩
  | packCopy cap count i len j buf =>
      obtain ⟨hcall, e', entry, done, hp, hrest⟩ := h
      exact ⟨hcall, e', entry, done, hp.delivered hg, hrest⟩
  | ret rv data =>
      intro cap hcall hrv
      obtain ⟨evs, hevs, e', hmem, hrest⟩ := h cap hcall hrv
      exact ⟨evs ++ [e], by rw [sinceCall_delivered, hevs]; rfl, e', by simp [hmem], hrest⟩
  | connectStatus first => exact ⟨h.1, (wifiEventCb_of_none L w hg).1.trans h.2⟩
  | connectTag first => exact ⟨h.1, lastStatus_delivered h.2 hg⟩
  | connectCall first => exact ⟨h.1, lastStatus_delivered h.2 hg⟩
  | connectWait first =>
      obtain ⟨hcall, hsince, hassoc⟩ := h
      refine ⟨hcall, sinceCall_delivered_ne_none hsince, fun hsync => ?_⟩
      cases hs : e.status with
      | none =>
          rw [(wifiEventCb_of_none L w hs).1] at hsync
          exact associated_delivered hsince (hassoc hsync) hg
      | some n => exact associated_of_some hsince hs hg
  | connectJudge first =>
      obtain ⟨hcall, hsince, hassoc⟩ := h
      exact ⟨hcall, sinceCall_delivered_ne_none hsince, associated_delivered hsince hassoc hg⟩
  | networkSetUp => exact ⟨h.1, h.2.delivered⟩
  | _ => exact h

theorem ResultCached.marked (h : ResultCached L tr w) :
    ResultCached L (tr ++ [.marked]) (hwWifiMarkConnecting w) := by
  rw [ResultCached, sinceCall_marked]
  exact h

theorem Associated.marked (h : Associated tr) : Associated (tr ++ [.marked]) := by
  rw [Associated, sinceCall_marked]
  exact h

theorem Packing.marked {cap count i : Nat} {buf : List UInt8} (h : Packing L tr w cap count i buf e) :
    Packing L (tr ++ [.marked]) (hwWifiMarkConnecting w) cap count i buf e := by
  rw [Packing, sinceCall_marked]
  exact h

/-- The mark of a queued connect touches nothing a wait depends on. -/
theorem OwnInv.marked (h : OwnInv L tr w call pc) :
    OwnInv L (tr ++ [.marked]) (hwWifiMarkConnecting w) call pc := by
  cases pc with
  | scanWait cap cbBefore =>
      obtain ⟨hcall, hsince, hcached⟩ := h
      exact ⟨hcall, by rwa [sinceCall_marked], fun hsync => (hcached hsync).marked⟩
  | packStart cap => exact ⟨h.1, h.2.marked⟩
  | packNext cap count i buf =>
      obtain ⟨hcall, e, hpack⟩ := h
      exact ⟨hcall, e, hpack.marked⟩
  | packCopy cap count i len j buf =>
      obtain ⟨hcall, e, entry, done, hpack, hrest⟩ := h
      exact ⟨hcall, e, entry, done, hpack.marked, hrest⟩
  | ret rv data =>
      intro cap hcall hok
      rw [sinceCall_marked]
      exact h cap hcall hok
  | connectWait first =>
      obtain ⟨hcall, hsince, hassoc⟩ := h
      exact ⟨hcall, by rwa [sinceCall_marked], fun hsync => (hassoc hsync).imp_right .marked⟩
  | connectJudge first =>
      obtain ⟨hcall, hsince, hassoc⟩ := h
      exact ⟨hcall, by rwa [sinceCall_marked], hassoc.imp_right .marked⟩
  | networkSetUp => exact ⟨h.1, h.2.marked⟩
  | _ => exact h

/-! ### Taking a step -/

/-- What a step shows and leaves is right. -/
def Completes (L : WifiLimits) (tr : List WifiEv) (w' : Wifi) (call : HalCall) (pc' : Option WifiPc)
    (out : WifiOut) : Prop :=
  ScanCompleted L tr (.body call out) ∧ ConnectCompleted tr (.body call out) ∧
    ∀ pc'' ∈ pc', OwnInv L (tr ++ [.body call out]) w' call pc''

theorem Completes.tau (h : OwnInv L (tr ++ [.body call .tau]) w' call pc) :
    Completes L tr w' call (some pc) .tau := by
  refine ⟨nofun, nofun, ?_⟩
  rintro pc' ⟨⟩
  exact h

theorem Completes.called {rv : Int}
    (h : OwnInv L (tr ++ [.body call (.called request rv)]) w' call pc) :
    Completes L tr w' call (some pc) (.called request rv) := by
  refine ⟨nofun, nofun, ?_⟩
  rintro pc' ⟨⟩
  exact h

theorem sinceCall_tau : sinceCall request (tr ++ [.body call .tau]) = sinceCall request tr :=
  sinceCall_body nofun

/-- A step without a call keeps what was cached. -/
theorem ResultCached.tau (h : ResultCached L tr w) (hcount : w'.scanCount = w.scanCount)
    (hcache : w'.scanCache = w.scanCache) : ResultCached L (tr ++ [.body call .tau]) w' := by
  obtain ⟨evs, hevs, e, hmem, hscan, hc, hcc⟩ := h
  refine ⟨evs, by rwa [sinceCall_tau], e, hmem, hscan, hcount.trans hc, ?_⟩
  rwa [Wifi.Caches, hcache]

theorem Associated.tau (h : Associated tr) : Associated (tr ++ [.body call .tau]) := by
  obtain ⟨evs, hevs, hrest⟩ := h
  exact ⟨evs, by rwa [sinceCall_tau], hrest⟩

theorem Packing.tau {cap count i : Nat} {buf : List UInt8} (h : Packing L tr w cap count i buf e) :
    Packing L (tr ++ [.body call .tau]) w cap count i buf e := by
  obtain ⟨⟨evs, hevs, hmem⟩, hrest⟩ := h
  exact ⟨⟨evs, by rwa [sinceCall_tau], hmem⟩, hrest⟩

/-- A return of a scan that did not succeed promises nothing. -/
theorem ownInv_ret_error {rv : Int} {data : List UInt8} (h : rv ≠ hwOk) :
    OwnInv L tr w call (.ret rv data) := fun _ _ hrv => absurd hrv h

/-- Nor does a return of another body. -/
theorem ownInv_ret_other {rv : Int} {data : List UInt8} (h : ∀ cap, call ≠ .wifiScan cap) :
    OwnInv L tr w call (.ret rv data) := fun cap hcall => absurd hcall (h cap)

/-- What has been packed when the loop ends is the whole. -/
theorem Packing.ret {cap count i : Nat} {buf : List UInt8} (h : Packing L tr w cap count i buf e)
    (hcall : call = .wifiScan cap)
    (hend : packScan cap buf.length ((e.wire L).drop i) = []) :
    OwnInv L (tr ++ [.body call .tau]) w call (.ret hwOk buf) := by
  obtain ⟨⟨evs, hevs, hmem⟩, hscan, -, -, hbuf⟩ := h
  rintro cap' rfl -
  obtain rfl : cap' = cap := by simpa using hcall
  refine ⟨evs, by rwa [sinceCall_tau], e, hmem, hscan, ?_⟩
  rw [← hbuf, hend, List.append_nil]

theorem WlanNetworkEntry.recordOf_wire (ssidBytes : Nat) (entry : WlanNetworkEntry) :
    entry.recordOf (entry.wireSsidLen ssidBytes) = entry.record ssidBytes := rfl

theorem WlanNetworkEntry.length_record (ssidBytes : Nat) (entry : WlanNetworkEntry) :
    (entry.record ssidBytes).length = 11 + (entry.wireSsidLen ssidBytes).toNat := by
  simp [WlanNetworkEntry.record, Buf.read]
  omega

theorem WlanEvent.drop_wire {i : Nat} {entry : WlanNetworkEntry}
    (h : (e.records L)[i]? = some entry) :
    (e.wire L).drop i = entry.record L.ssidBytes :: (e.wire L).drop (i + 1) := by
  obtain ⟨hlt, rfl⟩ := List.getElem?_eq_some_iff.mp h
  have hlt' : i < (e.wire L).length := by simpa [WlanEvent.wire] using hlt
  rw [List.drop_eq_getElem_cons hlt']
  simp [WlanEvent.wire]

/-- The loop looks at its next record. -/
private theorem packNext_step {cap count i : Nat} {buf : List UInt8} {a : Answer}
    {pc' : Option WifiPc} {out : WifiOut} (h : OwnInv L tr w call (.packNext cap count i buf))
    (hs : scanStep L w a (.packNext cap count i buf) = some (w', pc', out)) :
    Completes L tr w' call pc' out := by
  obtain ⟨hcall, e, hp⟩ := h
  have hcount := hp.2.2.2.1
  simp only [scanStep] at hs
  split_ifs at hs with hi hfull
  · -- no room for it
    obtain ⟨rfl, rfl, rfl⟩ := by simpa using hs
    have hget : (e.records L)[i]? = some (e.records L)[i] := List.getElem?_eq_getElem (hcount ▸ hi)
    refine .tau (hp.ret hcall ?_)
    rw [WlanEvent.drop_wire hget, packScan, if_pos]
    rw [hp.2.2.1 i _ hget] at hfull
    rwa [WlanNetworkEntry.length_record]
  · obtain ⟨rfl, rfl, rfl⟩ := by simpa using hs
    have hget : (e.records L)[i]? = some (e.records L)[i] := List.getElem?_eq_getElem (hcount ▸ hi)
    have hentry := hp.2.2.1 i _ hget
    refine .tau ⟨hcall, e, (e.records L)[i], buf, hp.tau, hget, by rw [hentry], by simp, ?_⟩
    rw [hentry] at hfull
    rw [WlanNetworkEntry.length_record]
    omega
  · -- all are packed
    obtain ⟨rfl, rfl, rfl⟩ := by simpa using hs
    refine .tau (hp.ret hcall ?_)
    rw [List.drop_eq_nil_of_le (by simpa [WlanEvent.wire, ← hcount] using hi), packScan]

/-- The loop copies a byte, or is through with its record. -/
private theorem packCopy_step {cap count i j : Nat} {len : UInt8} {buf : List UInt8} {a : Answer}
    {pc' : Option WifiPc} {out : WifiOut} (h : OwnInv L tr w call (.packCopy cap count i len j buf))
    (hs : scanStep L w a (.packCopy cap count i len j buf) = some (w', pc', out)) :
    Completes L tr w' call pc' out := by
  obtain ⟨hcall, e, entry, done, hp, hget, rfl, rfl, hroom⟩ := h
  have hentry := hp.2.2.1 i _ hget
  have hlen := entry.length_record L.ssidBytes
  simp only [scanStep, hentry, WlanNetworkEntry.recordOf_wire, ← hlen] at hs
  split_ifs at hs with hj
  · obtain ⟨rfl, rfl, rfl⟩ := by simpa using hs
    refine .tau ⟨hcall, e, entry, done, hp.tau, hget, rfl, ?_, hroom⟩
    have hbyte : byteAt (entry.record L.ssidBytes) j = (entry.record L.ssidBytes)[j] := by
      rw [byteAt, List.getD_eq_getElem?_getD, List.getElem?_eq_getElem hj]
      rfl
    rw [List.take_add_one, List.getElem?_eq_getElem hj, hbyte]
    rfl
  · obtain ⟨rfl, rfl, rfl⟩ := by simpa using hs
    rw [List.take_of_length_le (by omega)]
    obtain ⟨hmem, hscan, hcache, hcount, hbuf⟩ :
        Packing L (tr ++ [.body call .tau]) w cap count i done e := hp.tau
    refine .tau ⟨hcall, e, hmem, hscan, hcache, hcount, ?_⟩
    rw [WlanEvent.drop_wire hget, packScan, if_neg (by omega)] at hbuf
    rw [← hbuf, List.append_assoc, List.length_append]

/-- A scan takes a step. -/
private theorem scanStep_completes {a : Answer} {pc' : Option WifiPc} {out : WifiOut}
    (h : OwnInv L tr w call pc) (hs : scanStep L w a pc = some (w', pc', out)) :
    Completes L tr w' call pc' out := by
  cases pc with
  | scanStart cap =>
      simp only [scanStep, Option.bind_eq_bind, Option.bind_eq_some_iff, Prod.exists] at hs
      obtain ⟨w₁, rv, -, hs⟩ := hs
      obtain ⟨rfl, rfl, rfl⟩ := by simpa using hs
      split_ifs with hrv
      · exact .tau h
      · exact .tau (ownInv_ret_error hrv)
  | scanRole cap =>
      simp only [scanStep, Option.bind_eq_bind, Option.bind_eq_some_iff, Prod.exists] at hs
      obtain ⟨w₁, rv, -, hs⟩ := hs
      obtain ⟨rfl, rfl, rfl⟩ := by simpa using hs
      exact .tau h
  | scanCount cap roleUp =>
      obtain ⟨rfl, rfl, rfl⟩ := by simpa [scanStep] using hs
      exact .tau h
  | scanClear cap roleUp =>
      obtain ⟨rfl, rfl, rfl⟩ := by simpa [scanStep] using hs
      exact .tau ⟨h, rfl⟩
  | scanBefore cap roleUp =>
      obtain ⟨rfl, rfl, rfl⟩ := by simpa [scanStep] using hs
      exact .tau h
  | scanCall cap roleUp cbBefore =>
      obtain ⟨hcall, hsync⟩ := h
      simp only [scanStep] at hs
      split_ifs at hs with hrole
      · obtain ⟨rfl, rfl, rfl⟩ := by simpa using hs
        exact .tau (ownInv_ret_error (by decide))
      · cases a with
        | rv n =>
            obtain ⟨rfl, rfl, rfl⟩ := by simpa using hs
            split_ifs
            · refine .called ⟨hcall, by simp [sinceCall_called], fun hsync' => ?_⟩
              rw [hsync] at hsync'
              simp at hsync'
            · exact .called (ownInv_ret_error (by decide))
        | _ => simp at hs
  | scanWait cap cbBefore =>
      obtain ⟨hcall, -, hcached⟩ := h
      simp only [scanStep] at hs
      cases a with
      | signalled =>
          simp only at hs
          split_ifs at hs with hsync
          obtain ⟨rfl, rfl, rfl⟩ := by simpa using hs
          exact .tau ⟨hcall, (hcached hsync).tau rfl rfl⟩
      | timedOut =>
          obtain ⟨rfl, rfl, rfl⟩ := by simpa using hs
          exact .tau ⟨cap, hcall⟩
      | _ => simp at hs
  | scanDiag cbBefore =>
      obtain ⟨rfl, rfl, rfl⟩ := by simpa [scanStep] using hs
      refine .tau (ownInv_ret_error ?_)
      split_ifs <;> decide
  | packStart cap =>
      obtain ⟨hcall, hcached⟩ := h
      obtain ⟨rfl, rfl, rfl⟩ := by simpa [scanStep] using hs
      obtain ⟨evs, hevs, e, hmem, hscan, hcount, hcache⟩ :
          ResultCached L (tr ++ [.body call .tau]) w := hcached.tau rfl rfl
      exact .tau ⟨hcall, e, ⟨evs, hevs, hmem⟩, hscan, hcache, hcount, by simp⟩
  | packNext cap count i buf => exact packNext_step h hs
  | packCopy cap count i len j buf => exact packCopy_step h hs
  | _ => simp [scanStep] at hs

/-- A connect takes a step. -/
private theorem connectStep_completes {a : Answer} {pc' : Option WifiPc} {out : WifiOut}
    (h : OwnInv L tr w call pc) (ha : a ≠ .expired) (hs : connectStep w a pc = some (w', pc', out)) :
    Completes L tr w' call pc' out := by
  cases pc with
  | connectStart ssidLen =>
      obtain ⟨rfl, rfl, rfl⟩ := by simpa [connectStep] using hs
      split_ifs <;> exact .tau h
  | connectLazy =>
      simp only [connectStep] at hs
      split_ifs at hs
      · obtain ⟨rfl, rfl, rfl⟩ := by simpa using hs
        exact .tau h
      · simp only [Option.bind_eq_bind, Option.bind_eq_some_iff, Prod.exists] at hs
        obtain ⟨w₁, rv, -, hs⟩ := hs
        obtain ⟨rfl, rfl, rfl⟩ := by simpa using hs
        split_ifs <;> exact .tau h
  | connectRole =>
      simp only [connectStep, Option.bind_eq_bind, Option.bind_eq_some_iff, Prod.exists] at hs
      obtain ⟨w₁, rv, -, hs⟩ := hs
      obtain ⟨rfl, rfl, rfl⟩ := by simpa using hs
      split_ifs <;> exact .tau h
  | connectClear first =>
      obtain ⟨rfl, rfl, rfl⟩ := by simpa [connectStep] using hs
      exact .tau ⟨h, rfl⟩
  | connectStatus first =>
      obtain ⟨hcall, hsync⟩ := h
      obtain ⟨rfl, rfl, rfl⟩ := by simpa [connectStep] using hs
      refine .tau ⟨hcall, fun hsync' => ?_⟩
      rw [hsync] at hsync'
      simp at hsync'
  | connectTag first =>
      obtain ⟨rfl, rfl, rfl⟩ := by simpa [connectStep] using hs
      exact .tau h
  | connectCall first =>
      obtain ⟨hcall, hstatus⟩ := h
      simp only [connectStep] at hs
      cases a with
      | rv n =>
          obtain ⟨rfl, rfl, rfl⟩ := by simpa using hs
          split_ifs
          · exact .called ⟨hcall, by simp [sinceCall_called], fun hsync => .inl (hstatus hsync)⟩
          · cases first <;> exact .called hcall
      | _ => simp at hs
  | connectWait first =>
      obtain ⟨hcall, hsince, hassoc⟩ := h
      simp only [connectStep] at hs
      cases a with
      | signalled =>
          simp only at hs
          split_ifs at hs with hsync
          obtain ⟨rfl, rfl, rfl⟩ := by simpa using hs
          exact .tau ⟨hcall, by rwa [sinceCall_tau], (hassoc hsync).imp_right .tau⟩
      | timedOut =>
          obtain ⟨rfl, rfl, rfl⟩ := by simpa using hs
          cases first <;> exact .tau hcall
      | expired => exact absurd rfl ha
      | _ => simp at hs
  | connectJudge first =>
      obtain ⟨hcall, -, hassoc⟩ := h
      obtain ⟨rfl, rfl, rfl⟩ := by simpa [connectStep] using hs
      split_ifs with hok
      · exact .tau ⟨hcall, (hassoc.resolve_left (by omega)).tau⟩
      · exact .tau hcall
  | connectReason first =>
      obtain ⟨rfl, rfl, rfl⟩ := by simpa [connectStep] using hs
      cases first <;> (dsimp only; split_ifs) <;> exact .tau h
  | networkSetUp =>
      obtain ⟨hcall, hassoc⟩ := h
      obtain ⟨rfl, rfl, rfl⟩ := by simpa [connectStep] using hs
      refine ⟨nofun, fun _ _ => hassoc, ?_⟩
      rintro pc'' ⟨⟩
      exact hcall
  | connectTimeout =>
      obtain ⟨rfl, rfl, rfl⟩ := by simpa [connectStep] using hs
      exact .tau h
  | retryBudget tag =>
      simp only [connectStep] at hs
      cases a with
      | yes | no =>
          obtain ⟨rfl, rfl, rfl⟩ := by simpa using hs
          exact .tau h
      | _ => simp at hs
  | retryClear first =>
      obtain ⟨rfl, rfl, rfl⟩ := by simpa [connectStep] using hs
      exact .tau h
  | retryDisconnect first =>
      simp only [connectStep] at hs
      split_ifs at hs
      · obtain ⟨rfl, rfl, rfl⟩ := by simpa using hs
        exact .tau h
      · cases a with
        | rv n =>
            obtain ⟨rfl, rfl, rfl⟩ := by simpa using hs
            exact .called h
        | _ => simp at hs
  | retryOwn first =>
      obtain ⟨rfl, rfl, rfl⟩ := by simpa [connectStep] using hs
      exact .tau h
  | retryWait first =>
      simp only [connectStep] at hs
      cases a with
      | signalled =>
          simp only at hs
          split_ifs at hs
          obtain ⟨rfl, rfl, rfl⟩ := by simpa using hs
          exact .tau h
      | timedOut =>
          obtain ⟨rfl, rfl, rfl⟩ := by simpa using hs
          exact .tau h
      | _ => simp at hs
  | lease =>
      simp only [connectStep] at hs
      cases a with
      | yes | no =>
          obtain ⟨rfl, rfl, rfl⟩ := by simpa using hs
          exact .tau h
      | _ => simp at hs
  | noLease =>
      obtain ⟨rfl, rfl, rfl⟩ := by simpa [connectStep] using hs
      exact .tau h
  | clearStale rv =>
      simp only [connectStep] at hs
      split_ifs at hs
      · obtain ⟨rfl, rfl, rfl⟩ := by simpa using hs
        exact .tau (ownInv_ret_other h)
      · cases a with
        | rv n =>
            obtain ⟨rfl, rfl, rfl⟩ := by simpa using hs
            exact .called h
        | _ => simp at hs
  | clearStaleOwn rv =>
      obtain ⟨rfl, rfl, rfl⟩ := by simpa [connectStep] using hs
      exact .tau (ownInv_ret_other h)
  | _ => simp [connectStep] at hs

private theorem disconnectStep_completes {a : Answer} {pc' : Option WifiPc} {out : WifiOut}
    (h : OwnInv L tr w call pc) (hs : disconnectStep w a pc = some (w', pc', out)) :
    Completes L tr w' call pc' out := by
  cases pc with
  | disconnectStart =>
      simp only [disconnectStep] at hs
      split_ifs at hs
      · obtain ⟨rfl, rfl, rfl⟩ := by simpa using hs
        exact .tau (ownInv_ret_other h)
      · cases a with
        | rv n =>
            obtain ⟨rfl, rfl, rfl⟩ := by simpa using hs
            exact .called h
        | _ => simp at hs
  | disconnectOwn rv =>
      obtain ⟨rfl, rfl, rfl⟩ := by simpa [disconnectStep] using hs
      split_ifs
      · exact .tau h
      · exact .tau (ownInv_ret_other h)
  | _ => simp [disconnectStep] at hs

private theorem connSetStep_completes {stage : SetStage} {p : Publication} {after : AfterSet}
    (h : ∀ cap, call ≠ .wifiScan cap) :
    Completes L tr (connSetStep w p after stage).1 call (some (connSetStep w p after stage).2.1)
      (connSetStep w p after stage).2.2 := by
  cases stage with
  | push =>
      refine ⟨nofun, nofun, ?_⟩
      rintro pc'' ⟨⟩
      cases after with
      | cleanup rv => exact h
      | done rv => exact ownInv_ret_other h
  | _ =>
      refine ⟨nofun, nofun, ?_⟩
      rintro pc'' ⟨⟩
      exact h

/-- The invariant survives a step of the body, and what the step completes, it completes rightly. -/
theorem OwnInv.body {a : Answer} {pc' : Option WifiPc} {out : WifiOut} (h : OwnInv L tr w call pc)
    (ha : a ≠ .expired) (hs : bodyStep L w a pc = some (w', pc', out)) :
    Completes L tr w' call pc' out := by
  have hor : ∀ {x y : Option (Wifi × Option WifiPc × WifiOut)} {r}, x.or y = some r →
      x = some r ∨ y = some r := by
    rintro (_ | x) y r hr
    · exact .inr hr
    · exact .inl hr
  unfold bodyStep at hs
  split at hs
  · obtain ⟨rfl, rfl, rfl⟩ := by simpa using hs
    exact connSetStep_completes h
  · next rv data =>
    obtain ⟨rfl, rfl, rfl⟩ := by simpa using hs
    refine ⟨?_, ?_, ?_⟩
    · rintro cap r heq hrv
      obtain ⟨rfl, rfl⟩ := by simpa using heq
      exact h cap rfl hrv
    · intro call' heq
      simp at heq
    · intro pc'' hpc
      simp at hpc
  · rcases hor hs with hs | hs
    · exact scanStep_completes h hs
    · rcases hor hs with hs | hs
      · exact connectStep_completes h ha hs
      · exact disconnectStep_completes h hs

end

/-! ## The guarantee -/

/-- What a guarded run keeps true. -/
def OwnRun (L : WifiLimits) (tr : List WifiEv) (s : WifiTask) : Prop :=
  ∀ call pc, s.run = some (call, pc) → OwnInv L tr s.wifi call pc

theorem OwnRun.step {L : WifiLimits} {tr : List WifiEv} {s s' : WifiTask} {act : WifiAct} {e : WifiEv}
    (h : OwnRun L tr s) (hg : OwnEvents s act) (hs : (wifiTask L).step s act = some (s', e)) :
    ScanCompleted L tr e ∧ ConnectCompleted tr e ∧ OwnRun L (tr ++ [e]) s' := by
  change wifiStep L s act = _ at hs
  cases act with
  | start call =>
      simp only [wifiStep] at hs
      split at hs
      · next pc hrun hentry =>
        obtain ⟨rfl, rfl⟩ := by simpa using hs
        refine ⟨nofun, nofun, ?_⟩
        rintro call' pc' heq
        obtain ⟨rfl, rfl⟩ := by simpa using heq
        cases call with
        | wifiScan cap =>
            obtain rfl : .scanStart cap = pc := by simpa [HalCall.wifiEntry] using hentry
            rfl
        | wifiConnectSta ssid psk security =>
            obtain rfl : .connectStart ssid.length = pc := by simpa [HalCall.wifiEntry] using hentry
            exact nofun
        | wifiDisconnect =>
            obtain rfl : .disconnectStart = pc := by simpa [HalCall.wifiEntry] using hentry
            exact nofun
        | _ => simp [HalCall.wifiEntry] at hentry
      · simp at hs
  | body a =>
      simp only [wifiStep] at hs
      split at hs
      · next call pc hrun =>
        simp only [Option.bind_eq_bind, Option.bind_eq_some_iff, Prod.exists] at hs
        obtain ⟨w, pc', out, hstep, hs⟩ := hs
        obtain ⟨rfl, rfl⟩ := by simpa using hs
        obtain ⟨hscan, hconn, hinv⟩ := (h call pc hrun).body hg hstep
        refine ⟨hscan, hconn, ?_⟩
        rintro call' pc'' heq
        obtain ⟨_, hpc, heq⟩ := Option.map_eq_some_iff.mp heq
        obtain ⟨rfl, rfl⟩ := by simpa using heq
        exact hinv _ hpc
      · simp at hs
  | event ev =>
      simp only [wifiStep] at hs
      split_ifs at hs
      obtain ⟨rfl, rfl⟩ := by simpa using hs
      refine ⟨nofun, nofun, fun call pc hrun => (h call pc hrun).delivered ?_⟩
      rw [OwnEvents, hrun] at hg
      exact hg
  | mark =>
      obtain ⟨rfl, rfl⟩ := by simpa [wifiStep] using hs
      exact ⟨nofun, nofun, fun call pc hrun => (h call pc hrun).marked⟩

/-- Every scan of a history is completed by its own event. -/
def ScansOwn (L : WifiLimits) (tr : List WifiEv) : Prop :=
  ∀ i e, tr[i]? = some e → ScanCompleted L (tr.take i) e

/-- Every connect of a history is. -/
def ConnectsOwn (tr : List WifiEv) : Prop := ∀ i e, tr[i]? = some e → ConnectCompleted (tr.take i) e

/-- Scan and connect are completed only by their own events, as long as foreign ones stay out of
their windows.  Take any sequence of runs of the three bodies, whatever the vendor's calls return
and however the waits end, interleaved with events of accepted requests in any order and arbitrarily
late.  A scan that returns OK has packed the records of a scan result delivered after its own call
of `Wlan_Scan`; a connect goes on to `network_set_up` only if a connect event with a status of at
least zero was delivered after its latest call of `Wlan_Connect`. -/
theorem wifi_completed_by_own_events {L : WifiLimits} {tr : List WifiEv} {s : WifiTask}
    (hr : (wifiTask L).RunIf OwnEvents .boot tr s) : ScansOwn L tr ∧ ConnectsOwn tr := by
  have hrun : ∀ {tr s}, (wifiTask L).RunIf OwnEvents .boot tr s → OwnRun L tr s := by
    intro tr s hr
    refine hr.invariant (P := OwnRun L) ?_ fun tr t act t' e h hg hs => (h.step hg hs).2.2
    intro call pc hrun
    simp [WifiTask.boot] at hrun
  constructor
  · intro i e he
    obtain ⟨t, act, t', hr', hg, hs⟩ := hr.step_at he
    exact ((hrun hr').step hg hs).1
  · intro i e he
    obtain ⟨t, act, t', hr', hg, hs⟩ := hr.step_at he
    exact ((hrun hr').step hg hs).2.1

/-- What a step of a body showed. -/
def WifiEv.out : WifiEv → Option (HalCall × WifiOut)
  | .body call out => some (call, out)
  | _ => none

theorem WifiEv.eq_of_out {e : WifiEv} {call : HalCall} {out : WifiOut}
    (h : e.out = some (call, out)) : e = .body call out := by
  cases e with
  | body call' out' =>
      obtain ⟨rfl, rfl⟩ := by simpa [WifiEv.out] using h
      rfl
  | _ => simp [WifiEv.out] at h

/-- The vendor's limits. -/
def WifiLimits.reference : WifiLimits where
  scanCacheMax := 20
  ssidBytes := 32

/-- An access point called `hi`. -/
def accessPoint : WlanNetworkEntry where
  bssid := [2, 0, 0, 0, 0, 1]
  rssi := -60
  channel := 6
  securityInfo := 0x0200
  ssidLen := 2
  ssid := fun i => if i = 0 then 0x68 else 0x69

/-- `n` steps of a body, all calls accepted. -/
def bodySteps (n : Nat) : List WifiAct := List.replicate n (.body (.rv 0))

/-- A scan finds the access point, then a connect is associated. -/
def scanThenConnect : List WifiAct :=
  [[.start (.wifiScan 64)], bodySteps 6, [.event (.scanResult [accessPoint]), .body .signalled],
    bodySteps 18, [.start (.wifiConnectSta [0x68, 0x69] [] 0)], bodySteps 6,
    [.event (.connect 0), .body .signalled], bodySteps 2].flatten

theorem wifi_completed_by_own_events_scanThenConnect :
    ∃ tr s, (wifiTask .reference).RunIf OwnEvents .boot tr s ∧
      (ScansOwn .reference tr ∧ ConnectsOwn tr) ∧
      ((tr.filterMap WifiEv.out).map Prod.snd).filter (fun o => o ≠ .tau) =
        [.called .scan 0,
          .returned { rv := 0
                      data := [2, 0, 0, 0, 0, 1, 0xC4, 6, 0, 2, 2, 0x68, 0x69] },
          .called .connect 0, .setUp] := by
  have hexec : ((wifiTask .reference).execIf OwnEvents .boot scanThenConnect).map (fun p =>
      ((p.2.filterMap WifiEv.out).map Prod.snd).filter (fun o => o ≠ .tau)) =
        some [.called .scan 0,
          .returned { rv := 0
                      data := [2, 0, 0, 0, 0, 1, 0xC4, 6, 0, 2, 2, 0x68, 0x69] },
          .called .connect 0, .setUp] := by decide +kernel
  obtain ⟨⟨s, tr⟩, hs, hout⟩ := Option.map_eq_some_iff.mp hexec
  have hrun := Machine.runIf_of_execIf hs
  exact ⟨tr, s, hrun, wifi_completed_by_own_events hrun, hout⟩

/-- A connect times out and its cleanup asks for a disconnect; the event of that disconnect comes
when the scan that follows waits, and the scan returns OK with no records. -/
def lateDisconnect : List WifiAct :=
  [[.mark, .start (.wifiConnectSta [0x68, 0x69] [] 0)], bodySteps 7, [.body .timedOut],
    bodySteps 9, [.start (.wifiScan 64)], bodySteps 6,
    [.event (.disconnect 3), .body .signalled], bodySteps 3].flatten

/-- A scan times out; its result comes when the connect that follows waits, and the connect takes
itself for associated. -/
def lateScanResult : List WifiAct :=
  [[.start (.wifiScan 64)], bodySteps 6, [.body .timedOut], bodySteps 2,
    [.mark, .start (.wifiConnectSta [0x68, 0x69] [] 0)], bodySteps 6,
    [.event (.scanResult []), .body .signalled], bodySteps 2].flatten

/-- Without the condition, a late disconnect completes a scan and a late scan result a connect. -/
theorem late_event_completes_other :
    (∃ tr s, (wifiTask .reference).Run .boot tr s ∧ ¬ ScansOwn .reference tr) ∧
      ∃ tr s, (wifiTask .reference).Run .boot tr s ∧ ¬ ConnectsOwn tr := by
  constructor
  · have hexec : ((wifiTask .reference).exec .boot lateDisconnect).map (fun p =>
        (p.2[30]?.bind WifiEv.out,
          (sinceCall .scan (p.2.take 30)).map fun evs => evs.any (·.isScanResult))) =
        some (some (.wifiScan 64, .returned { rv := 0 }), some false) := by decide +kernel
    obtain ⟨⟨s, tr⟩, hs, heq⟩ := Option.map_eq_some_iff.mp hexec
    obtain ⟨hlast, hnone⟩ := Prod.mk.inj heq
    refine ⟨tr, s, run_of_exec hs, fun hown => ?_⟩
    obtain ⟨e, hat, hout⟩ := Option.bind_eq_some_iff.mp hlast
    obtain rfl := WifiEv.eq_of_out hout
    obtain ⟨evs, hevs, e, hmem, hscan, -⟩ := hown 30 _ hat 64 _ rfl rfl
    rw [hevs] at hnone
    have hall : evs.any (·.isScanResult) = false := by simpa using hnone
    rw [List.any_eq_false] at hall
    exact hall e hmem hscan
  · have hexec : ((wifiTask .reference).exec .boot lateScanResult).map (fun p =>
        (p.2[21]?.bind WifiEv.out,
          (sinceCall .connect (p.2.take 21)).map fun evs => evs.any (·.isConnect))) =
        some (some (.wifiConnectSta [0x68, 0x69] [] 0, .setUp), some false) := by decide +kernel
    obtain ⟨⟨s, tr⟩, hs, heq⟩ := Option.map_eq_some_iff.mp hexec
    obtain ⟨hlast, hnone⟩ := Prod.mk.inj heq
    refine ⟨tr, s, run_of_exec hs, fun hown => ?_⟩
    obtain ⟨e, hat, hout⟩ := Option.bind_eq_some_iff.mp hlast
    obtain rfl := WifiEv.eq_of_out hout
    obtain ⟨evs, hevs, status, -, hmem⟩ := hown 21 _ hat _ rfl
    rw [hevs] at hnone
    have hall : evs.any (·.isConnect) = false := by simpa using hnone
    rw [List.any_eq_false] at hall
    exact hall _ hmem rfl

end Cc3501eBridge
