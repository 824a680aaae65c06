import Cc3501eBridge.Lib.Trace

/-!
# The connection handle and the link

`s_conn_handle` is to mirror the one BLE link.  Two event sinks write it, `cc3501e_gap_event_cb` for
links that a central makes to the advertiser and `cc3501e_conn_gap_event_cb` for those that
`cc3501e_nimble_connect` makes, and so does `cc3501e_nimble_disconnect` when the link is gone already.

The links and the central attempts belong to the controller.  A link that comes up or goes down and an
attempt that fails raise an event, and the NimBLE host task hands the events to their sinks one by one,
in the order they were raised.  The worker's calls take one step for every access to what they share
with the sinks.

Two of the writes do not ask which link they are about: a failed attempt clears the handle in the central
sink, and `cc3501e_nimble_disconnect` clears it after `ble_gap_terminate` has refused the handle read
earlier.  In the runs where neither happens with a link up and no event about it on its way, the handle
is that of the link whenever no event is in flight.
-/

namespace Cc3501eBridge

/-! ## Events and sinks -/

/-- `BLE_HS_CONN_HANDLE_NONE`. -/
def bleHsConnHandleNone : UInt16 := 0xFFFF

/-- The sink of an event: the advertiser's or the one given to `ble_gap_connect`. -/
inductive GapSink
  | adv
  | central
  deriving DecidableEq, Repr

/-- The events that concern the handle. -/
inductive GapEvent
  | connect (status : Int) (handle : UInt16)
  | disconnect
  deriving DecidableEq, Repr

/-- Where a call stands: the access it makes next. -/
inductive GapPc
  | idle
  | /-- `s_conn_status = -1` -/
    connStatus
  | /-- `osi_SyncObjClear(&s_conn_sync)` -/
    connClear
  | /-- `ble_gap_connect` -/
    connIssue
  | /-- `osi_SyncObjWait` for a second, with `more` further seconds in the budget -/
    connWait (more : Nat)
  | /-- `ble_gap_conn_cancel` after the wait has run out -/
    connCancel
  | /-- `s_conn_status != 0` -/
    connResult
  | /-- `s_conn_handle == BLE_HS_CONN_HANDLE_NONE` -/
    connVerify
  | /-- `osi_SyncObjClear(&s_disc_sync)` -/
    discClear (h : UInt16)
  | /-- `ble_gap_terminate` -/
    discTerminate (h : UInt16)
  | /-- `s_conn_handle = BLE_HS_CONN_HANDLE_NONE` after the link was found gone -/
    discForget
  | discWait (more : Nat)
  deriving DecidableEq, Repr

/-- The variables of the host, the place of the worker, and what the controller has: the link that is up
with the sink it reports to, the number of attempts in progress, and the events on their way. -/
structure GapSys where
  connHandle : UInt16 := bleHsConnHandleNone
  connStatus : Int := 0
  connSync : Bool := false
  discSync : Bool := false
  syncsReady : Bool := false
  pc : GapPc := .idle
  link : Option (GapSink × UInt16) := none
  attempts : Nat := 0
  inFlight : List (GapSink × GapEvent) := []
  deriving DecidableEq, Repr

namespace GapSys

/-- `cc3501e_gap_event_cb`. -/
def gapEventCb (s : GapSys) : GapEvent → GapSys
  | .connect status handle => if status = 0 then { s with connHandle := handle } else s
  | .disconnect =>
      { s with connHandle := bleHsConnHandleNone, discSync := s.discSync || s.syncsReady }

/-- `cc3501e_conn_gap_event_cb`. -/
def connGapEventCb (s : GapSys) : GapEvent → GapSys
  | .connect status handle =>
      { s with
        connStatus := status
        connHandle := if status = 0 then handle else bleHsConnHandleNone
        connSync := true }
  | .disconnect => { s with connHandle := bleHsConnHandleNone, discSync := true }

/-- The event reaches its sink. -/
def deliver (s : GapSys) : GapSink × GapEvent → GapSys
  | (.adv, e) => s.gapEventCb e
  | (.central, e) => s.connGapEventCb e

end GapSys

/-! ## The machine -/

/-- What may happen next. -/
inductive GapAct
  | /-- The worker calls `cc3501e_nimble_connect`; `enabled` and `syncs` are what `ble_hs_is_enabled` and
    `cc3501e_ensure_syncs` say. -/
    connect (enabled syncs : Bool)
  | /-- The worker calls `cc3501e_nimble_disconnect`. -/
    disconnect (enabled syncs : Bool)
  | /-- The worker makes its next access. -/
    task
  | /-- `ble_gap_connect` or `ble_gap_terminate` returns `rc`. -/
    nimble (rc : Int)
  | /-- A link comes up. -/
    linkUp (sink : GapSink) (handle : UInt16)
  | /-- The link goes down. -/
    linkDown
  | /-- An attempt fails. -/
    attemptFails (sink : GapSink) (status : Int)
  | /-- The host task hands over the next event. -/
    deliver
  deriving DecidableEq, Repr

/-- What is seen: the calls returning. -/
inductive GapEv
  | ret (rc : Int)
  | tau
  deriving DecidableEq, Repr

namespace GapSys

def ret (s : GapSys) (rc : Int) : GapSys × GapEv := ({ s with pc := .idle }, .ret rc)

def next (s : GapSys) (pc : GapPc) : GapSys × GapEv := ({ s with pc := pc }, .tau)

/-- The entry of `cc3501e_nimble_connect`. -/
def connectStep (s : GapSys) (enabled syncs : Bool) : GapSys × GapEv :=
  if enabled = false then s.ret (-1)
  else if s.connHandle ≠ bleHsConnHandleNone then s.ret (-1)
  else if s.syncsReady = false ∧ syncs = false then s.ret (-1)
  else { s with syncsReady := true }.next .connStatus

/-- The entry of `cc3501e_nimble_disconnect`, which reads the handle once. -/
def disconnectStep (s : GapSys) (enabled syncs : Bool) : GapSys × GapEv :=
  if enabled = false then s.ret (-1)
  else if s.connHandle = bleHsConnHandleNone then s.ret 0
  else if s.syncsReady = false ∧ syncs = false then s.ret (-1)
  else { s with syncsReady := true }.next (.discClear s.connHandle)

/-- The worker's next access. -/
def taskStep (s : GapSys) : Option (GapSys × GapEv) :=
  match s.pc with
  | .idle | .connIssue | .discTerminate _ => none
  | .connStatus => some ({ s with connStatus := -1 }.next .connClear)
  | .connClear => some ({ s with connSync := false }.next .connIssue)
  | .connWait more =>
      if s.connSync = true then some ({ s with connSync := false }.next .connResult)
      else
        match more with
        | more + 1 => some (s.next (.connWait more))
        | 0 => some (s.next .connCancel)
  | .connCancel => some (s.ret (-1))
  | .connResult => if s.connStatus ≠ 0 then some (s.ret (-1)) else some (s.next .connVerify)
  | .connVerify => some (s.ret (if s.connHandle = bleHsConnHandleNone then -1 else 0))
  | .discClear h => some ({ s with discSync := false }.next (.discTerminate h))
  | .discForget => some ({ s with connHandle := bleHsConnHandleNone }.ret 0)
  | .discWait more =>
      if s.discSync = true then some ({ s with discSync := false }.ret 0)
      else
        match more with
        | more + 1 => some (s.next (.discWait more))
        | 0 => some (s.ret (-1))

/-- NimBLE's answer.  `ble_gap_connect` starts an attempt if it returns 0; `ble_gap_terminate` refuses a
handle only if its link is gone. -/
def nimbleStep (s : GapSys) (rc : Int) : Option (GapSys × GapEv) :=
  match s.pc with
  | .connIssue =>
      if rc ≠ 0 then some (s.ret rc)
      else some ({ s with attempts := s.attempts + 1 }.next (.connWait 9))
  | .discTerminate h =>
      if rc ≠ 0 then
        if s.link.map Prod.snd = some h then none else some (s.next .discForget)
      else some (s.next (.discWait 3))
  | _ => none

/-- An event is raised. -/
def raise (s : GapSys) (sink : GapSink) (e : GapEvent) : GapSys :=
  { s with inFlight := s.inFlight ++ [(sink, e)] }

/-- The attempts after one for this sink has ended. -/
def endAttempt (s : GapSys) : GapSink → GapSys
  | .adv => s
  | .central => { s with attempts := s.attempts - 1 }

/-- An attempt for this sink can end: a central chooses its time, ours has to be in progress. -/
def attempting (s : GapSys) : GapSink → Bool
  | .adv => true
  | .central => 0 < s.attempts

/-- One step.  At most one link is up at a time, and its handle is a valid one. -/
def step (s : GapSys) : GapAct → Option (GapSys × GapEv)
  | .connect enabled syncs => if s.pc = .idle then some (s.connectStep enabled syncs) else none
  | .disconnect enabled syncs => if s.pc = .idle then some (s.disconnectStep enabled syncs) else none
  | .task => s.taskStep
  | .nimble rc => s.nimbleStep rc
  | .linkUp sink handle =>
      if s.link = none ∧ s.attempting sink = true ∧ handle ≠ bleHsConnHandleNone then
        some ({ s.endAttempt sink with link := some (sink, handle) }.raise sink (.connect 0 handle), .tau)
      else none
  | .linkDown =>
      match s.link with
      | some (sink, _) => some ({ s with link := none }.raise sink .disconnect, .tau)
      | none => none
  | .attemptFails sink status =>
      if s.attempting sink = true ∧ status ≠ 0 then
        some ((s.endAttempt sink).raise sink (.connect status bleHsConnHandleNone), .tau)
      else none
  | .deliver =>
      match s.inFlight with
      | e :: rest => some ({ s with inFlight := rest }.deliver e, .tau)
      | [] => none

end GapSys

/-- The host with its links as a machine. -/
def gapSystem : Machine GapSys GapAct GapEv := ⟨GapSys.step⟩

/-! ## Clears that come too late -/

/-- The event says that a link came up or went down. -/
def GapEvent.settles : GapEvent → Bool
  | .connect status _ => status = 0
  | .disconnect => true

/-- The handle of the link that is up. -/
def GapSys.linkHandle (s : GapSys) : UInt16 := (s.link.map Prod.snd).getD bleHsConnHandleNone

/-- A clear of the handle does no harm: no link is up, or an event in `rest` will set the handle again. -/
def GapSys.ClearHarmless (s : GapSys) (rest : List (GapSink × GapEvent)) : Prop :=
  s.link = none ∨ ∃ e ∈ rest, e.2.settles = true

instance GapSys.decidableClearHarmless (s : GapSys) (rest : List (GapSink × GapEvent)) :
    Decidable (s.ClearHarmless rest) := inferInstanceAs (Decidable (_ ∨ _))

/-- The two clears that are not about the current link do no harm: the one for a failed attempt, and the
one after `ble_gap_terminate` has refused the handle. -/
def GapSys.NoStaleClear (s : GapSys) : GapAct → Prop
  | .deliver => ∀ e ∈ s.inFlight.head?, e.1 = .central → e.2.settles = false →
      s.ClearHarmless s.inFlight.tail
  | .task => s.pc = .discForget → s.ClearHarmless s.inFlight
  | _ => True

instance GapSys.decidableNoStaleClear (s : GapSys) : ∀ a, Decidable (s.NoStaleClear a)
  | .deliver => inferInstanceAs (Decidable (∀ e ∈ s.inFlight.head?, e.1 = .central →
      e.2.settles = false → s.ClearHarmless s.inFlight.tail))
  | .task => inferInstanceAs (Decidable (s.pc = .discForget → s.ClearHarmless s.inFlight))
  | .connect _ _ | .disconnect _ _ | .nimble _ | .linkUp _ _ | .linkDown | .attemptFails _ _ =>
      .isTrue trivial

/-- The handle that an event leaves: that of the link it reports. -/
def GapEvent.settle (handle : UInt16) : GapEvent → UInt16
  | .connect status h => if status = 0 then h else handle
  | .disconnect => bleHsConnHandleNone

/-- The handle once the events have been handed over. -/
def replay (handle : UInt16) (events : List (GapSink × GapEvent)) : UInt16 :=
  events.foldl (fun h e => e.2.settle h) handle

@[simp] theorem replay_cons (handle : UInt16) (e : GapSink × GapEvent)
    (rest : List (GapSink × GapEvent)) : replay handle (e :: rest) = replay (e.2.settle handle) rest := rfl

@[simp] theorem replay_snoc (handle : UInt16) (e : GapSink × GapEvent)
    (events : List (GapSink × GapEvent)) :
    replay handle (events ++ [e]) = e.2.settle (replay handle events) := by
  simp [replay]

theorem GapEvent.settle_of_settles {e : GapEvent} (he : e.settles = true) (h h' : UInt16) :
    e.settle h = e.settle h' := by
  cases e with
  | connect status handle =>
      have hok : status = 0 := by simpa [settles] using he
      simp [settle, hok]
  | disconnect => rfl

theorem GapEvent.settle_of_not_settles {e : GapEvent} (he : e.settles = false) (h : UInt16) :
    e.settle h = h := by
  cases e with
  | connect status handle =>
      have hbad : status ≠ 0 := by simpa [settles] using he
      simp [settle, hbad]
  | disconnect => cases he

/-- An event about a link hides what the handle was before. -/
theorem replay_eq_of_settles {events : List (GapSink × GapEvent)}
    (h : ∃ e ∈ events, e.2.settles = true) (handle handle' : UInt16) :
    replay handle events = replay handle' events := by
  induction events generalizing handle handle' with
  | nil => simp at h
  | cons e rest ih =>
      by_cases he : e.2.settles = true
      · rw [replay_cons, replay_cons, GapEvent.settle_of_settles he handle handle']
      · have hrest : ∃ e ∈ rest, e.2.settles = true := by simpa [he] using h
        exact ih hrest _ _

/-- Without one the handle stays. -/
theorem replay_of_not_settles {events : List (GapSink × GapEvent)}
    (h : ¬ ∃ e ∈ events, e.2.settles = true) (handle : UInt16) : replay handle events = handle := by
  induction events with
  | nil => rfl
  | cons e rest ih =>
      obtain ⟨he, hrest⟩ : e.2.settles = false ∧ ¬ ∃ e ∈ rest, e.2.settles = true := by
        simpa using h
      rw [replay_cons, GapEvent.settle_of_not_settles he, ih hrest]

/-! ## What a run keeps -/

/-- The handle, once the events in flight are handed over, is that of the link. -/
structure GapInv (s : GapSys) : Prop where
  tracks : replay s.connHandle s.inFlight = s.linkHandle
  valid : ∀ sink h, s.link = some (sink, h) → h ≠ bleHsConnHandleNone

namespace GapInv

variable {s s' : GapSys} {e : GapEv} {a : GapAct}

/-- Only the handle, the events and the link matter. -/
theorem of_eq (h : GapInv s) (hhandle : s'.connHandle = s.connHandle)
    (hflight : s'.inFlight = s.inFlight) (hlink : s'.link = s.link) : GapInv s' where
  tracks := by
    rw [hhandle, hflight, GapSys.linkHandle, hlink]
    exact h.tracks
  valid := hlink ▸ h.valid

/-- A harmless clear. -/
theorem clear (h : GapInv s) (hc : s.ClearHarmless s.inFlight) :
    GapInv { s with connHandle := bleHsConnHandleNone } where
  tracks := by
    by_cases hset : ∃ e ∈ s.inFlight, e.2.settles = true
    · exact (replay_eq_of_settles hset _ _).trans h.tracks
    · have hnone : s.link = none := hc.resolve_right hset
      have hlast := replay_of_not_settles hset bleHsConnHandleNone
      simpa [GapSys.linkHandle, hnone] using hlast
  valid := h.valid

theorem connect_step (h : GapInv s) (enabled syncs : Bool) :
    GapInv (s.connectStep enabled syncs).1 := by
  unfold GapSys.connectStep
  split_ifs <;> exact h.of_eq rfl rfl rfl

theorem disconnect_step (h : GapInv s) (enabled syncs : Bool) :
    GapInv (s.disconnectStep enabled syncs).1 := by
  unfold GapSys.disconnectStep
  split_ifs <;> exact h.of_eq rfl rfl rfl

theorem task_step (h : GapInv s) (hg : s.NoStaleClear .task) (hs : s.taskStep = some (s', e)) :
    GapInv s' := by
  unfold GapSys.taskStep at hs
  cases hpc : s.pc with
  | discForget =>
      simp only [hpc] at hs
      obtain ⟨rfl, rfl⟩ := Prod.mk.inj (Option.some.inj hs)
      exact (h.clear (hg hpc)).of_eq rfl rfl rfl
  | connResult =>
      simp only [hpc] at hs
      split_ifs at hs <;>
        · obtain ⟨rfl, rfl⟩ := Prod.mk.inj (Option.some.inj hs)
          exact h.of_eq rfl rfl rfl
  | connWait more | discWait more =>
      simp only [hpc] at hs
      split_ifs at hs
      · obtain ⟨rfl, rfl⟩ := Prod.mk.inj (Option.some.inj hs)
        exact h.of_eq rfl rfl rfl
      · cases more <;>
          · obtain ⟨rfl, rfl⟩ := Prod.mk.inj (Option.some.inj hs)
            exact h.of_eq rfl rfl rfl
  | idle | connIssue | discTerminate _ => simp [hpc] at hs
  | _ =>
      -- the other accesses do not concern the handle
      simp only [hpc] at hs
      obtain ⟨rfl, rfl⟩ := Prod.mk.inj (Option.some.inj hs)
      exact h.of_eq rfl rfl rfl

theorem nimble_step (h : GapInv s) {rc : Int} (hs : s.nimbleStep rc = some (s', e)) : GapInv s' := by
  unfold GapSys.nimbleStep at hs
  cases hpc : s.pc with
  | connIssue =>
      simp only [hpc] at hs
      split_ifs at hs <;>
        · obtain ⟨rfl, rfl⟩ := Prod.mk.inj (Option.some.inj hs)
          exact h.of_eq rfl rfl rfl
  | discTerminate handle =>
      simp only [hpc] at hs
      split_ifs at hs <;>
        · obtain ⟨rfl, rfl⟩ := Prod.mk.inj (Option.some.inj hs)
          exact h.of_eq rfl rfl rfl
  | _ => simp [hpc] at hs

/-- The sinks leave what the event says, except that a failed attempt clears the handle. -/
theorem deliver_handle (s : GapSys) (ev : GapSink × GapEvent) :
    (s.deliver ev).connHandle = ev.2.settle s.connHandle ∨
      ev.1 = .central ∧ ev.2.settles = false ∧ (s.deliver ev).connHandle = bleHsConnHandleNone := by
  obtain ⟨sink, ev⟩ := ev
  cases sink with
  | adv =>
      left
      cases ev with
      | connect status handle =>
          simp only [GapSys.deliver, GapSys.gapEventCb, GapEvent.settle]
          split_ifs <;> rfl
      | disconnect => rfl
  | central =>
      cases ev with
      | connect status handle =>
          by_cases hst : status = 0
          · left
            simp [GapSys.deliver, GapSys.connGapEventCb, GapEvent.settle, hst]
          · right
            simp [GapSys.deliver, GapSys.connGapEventCb, GapEvent.settles, hst]
      | disconnect => exact .inl rfl

/-- The sinks touch neither the link nor the events. -/
theorem deliver_frame (s : GapSys) (ev : GapSink × GapEvent) :
    (s.deliver ev).link = s.link ∧ (s.deliver ev).inFlight = s.inFlight := by
  obtain ⟨sink, ev⟩ := ev
  cases sink with
  | adv =>
      cases ev with
      | connect status handle =>
          simp only [GapSys.deliver, GapSys.gapEventCb]
          split_ifs <;> exact ⟨rfl, rfl⟩
      | disconnect => exact ⟨rfl, rfl⟩
  | central => cases ev <;> exact ⟨rfl, rfl⟩

theorem deliver_step (h : GapInv s) (hg : s.NoStaleClear .deliver) {ev : GapSink × GapEvent}
    {rest : List (GapSink × GapEvent)} (hf : s.inFlight = ev :: rest) :
    GapInv ({ s with inFlight := rest }.deliver ev) := by
  obtain ⟨hlink, hflight⟩ := deliver_frame { s with inFlight := rest } ev
  have htracks : replay (ev.2.settle s.connHandle) rest = s.linkHandle := by
    rw [← replay_cons, ← hf]
    exact h.tracks
  rcases deliver_handle { s with inFlight := rest } ev with hset | ⟨hsink, hfail, hset⟩
  · have hnext : GapInv { s with inFlight := rest, connHandle := ev.2.settle s.connHandle } :=
      ⟨htracks, h.valid⟩
    exact hnext.of_eq hset hflight hlink
  · -- the attempt failed: what the event leaves is the handle as it was
    rw [GapEvent.settle_of_not_settles hfail] at htracks
    have hnext : GapInv { s with inFlight := rest } := ⟨htracks, h.valid⟩
    have hc : s.ClearHarmless rest := by
      have := hg ev (by simp [hf]) hsink hfail
      rwa [hf] at this
    exact (hnext.clear hc).of_eq hset hflight hlink

/-- An event is raised that says what the controller has done to the link. -/
theorem raise (h : GapInv s) {sink : GapSink} {ev : GapEvent} (hflight : s'.inFlight = s.inFlight)
    (hhandle : s'.connHandle = s.connHandle) (hev : ev.settle s.linkHandle = s'.linkHandle)
    (hvalid : ∀ sink h, s'.link = some (sink, h) → h ≠ bleHsConnHandleNone) :
    GapInv (s'.raise sink ev) where
  tracks := by
    simp only [GapSys.raise, replay_snoc, hflight, hhandle, h.tracks]
    exact hev
  valid := hvalid

theorem step (h : GapInv s) (hg : s.NoStaleClear a) (hs : gapSystem.step s a = some (s', e)) :
    GapInv s' := by
  change s.step a = some (s', e) at hs
  cases a with
  | connect enabled syncs =>
      simp only [GapSys.step] at hs
      split_ifs at hs
      have hnext := h.connect_step enabled syncs
      rwa [Option.some.inj hs] at hnext
  | disconnect enabled syncs =>
      simp only [GapSys.step] at hs
      split_ifs at hs
      have hnext := h.disconnect_step enabled syncs
      rwa [Option.some.inj hs] at hnext
  | task => exact h.task_step hg hs
  | nimble rc => exact h.nimble_step hs
  | linkUp sink handle =>
      simp only [GapSys.step] at hs
      split_ifs at hs with hup
      obtain ⟨rfl, rfl⟩ := Prod.mk.inj (Option.some.inj hs)
      refine h.raise (by cases sink <;> rfl) (by cases sink <;> rfl) rfl ?_
      rintro sink' handle' hlink
      obtain ⟨rfl, rfl⟩ := Prod.mk.inj (Option.some.inj hlink)
      exact hup.2.2
  | linkDown =>
      simp only [GapSys.step] at hs
      cases hlink : s.link with
      | none => simp [hlink] at hs
      | some up =>
          simp only [hlink] at hs
          obtain ⟨rfl, rfl⟩ := Prod.mk.inj (Option.some.inj hs)
          exact h.raise rfl rfl rfl nofun
  | attemptFails sink status =>
      simp only [GapSys.step] at hs
      split_ifs at hs with hfail
      obtain ⟨rfl, rfl⟩ := Prod.mk.inj (Option.some.inj hs)
      have hlink : (s.endAttempt sink).link = s.link := by cases sink <;> rfl
      refine h.raise (by cases sink <;> rfl) (by cases sink <;> rfl) ?_ (hlink ▸ h.valid)
      rw [GapSys.linkHandle, GapSys.linkHandle, hlink]
      exact if_neg hfail.2
  | deliver =>
      simp only [GapSys.step] at hs
      cases hf : s.inFlight with
      | nil => simp [hf] at hs
      | cons ev rest =>
          simp only [hf] at hs
          obtain ⟨rfl, rfl⟩ := Prod.mk.inj (Option.some.inj hs)
          exact h.deliver_step hg hf

end GapInv

/-- In a run without stale clears the handle is that of the link whenever no event is in flight, and
`BLE_HS_CONN_HANDLE_NONE` exactly when no link is up. -/
theorem handle_tracks_link {tr : List GapEv} {s : GapSys}
    (hr : gapSystem.RunIf GapSys.NoStaleClear {} tr s) (hquiet : s.inFlight = []) :
    s.connHandle = s.linkHandle ∧ (s.connHandle = bleHsConnHandleNone ↔ s.link = none) := by
  have hinv : GapInv s := by
    refine hr.invariant (P := fun _ s => GapInv s) ⟨rfl, nofun⟩ fun _ _ _ _ _ h hg hs => ?_
    exact h.step hg hs
  have htracks : s.connHandle = s.linkHandle := by
    have := hinv.tracks
    rwa [hquiet] at this
  refine ⟨htracks, fun hnone => ?_, fun hnone => by rw [htracks, GapSys.linkHandle, hnone]; rfl⟩
  cases hlink : s.link with
  | none => rfl
  | some up =>
      obtain ⟨sink, handle⟩ := up
      rw [htracks, GapSys.linkHandle, hlink] at hnone
      exact absurd hnone (hinv.valid sink handle hlink)

/-- Our attempt is in progress when a central connects to the advertiser; then the attempt fails. -/
def peerDuringAttempt : List GapAct :=
  [.connect true true, .task, .task, .nimble 0, .linkUp .adv 1, .deliver, .attemptFails .central 13,
    .deliver]

/-- The failed attempt has cleared the handle of the peer's link. -/
theorem failed_attempt_clears_handle :
    ∃ tr s, gapSystem.Run {} tr s ∧ s.inFlight = [] ∧ s.link = some (.adv, 1) ∧
      s.connHandle = bleHsConnHandleNone := by
  have h : (gapSystem.exec {} peerDuringAttempt).map (fun p =>
      (p.1.inFlight, p.1.link, p.1.connHandle)) =
        some ([], some (.adv, 1), bleHsConnHandleNone) := by decide +kernel
  obtain ⟨⟨s, tr⟩, hs, heq⟩ := Option.map_eq_some_iff.mp h
  simp only [Prod.mk.injEq] at heq
  exact ⟨tr, s, Machine.run_of_exec hs, heq⟩

/-- The peer connects after the attempt has failed. -/
def peerAfterAttempt : List GapAct :=
  [.connect true true, .task, .task, .nimble 0, .attemptFails .central 13, .linkUp .adv 1, .deliver,
    .deliver]

/-- Then the handle is the peer's. -/
theorem handle_tracks_link_peer :
    ∃ tr s, gapSystem.RunIf GapSys.NoStaleClear {} tr s ∧ s.inFlight = [] ∧
      s.link = some (.adv, 1) ∧ s.connHandle = s.linkHandle := by
  have h : (gapSystem.execIf GapSys.NoStaleClear {} peerAfterAttempt).map (fun p =>
      (p.1.inFlight, p.1.link)) = some ([], some (.adv, 1)) := by decide +kernel
  obtain ⟨⟨s, tr⟩, hs, heq⟩ := Option.map_eq_some_iff.mp h
  obtain ⟨hquiet, hlink⟩ := by simpa only [Prod.mk.injEq] using heq
  have hrun := Machine.runIf_of_execIf hs
  exact ⟨tr, s, hrun, hquiet, hlink, (handle_tracks_link hrun hquiet).1⟩

end Cc3501eBridge
