import Cc3501eBridge.Lib.SlotTable
import Cc3501eBridge.Lib.Trace
import Cc3501eBridge.Wire

/-!
# The table of listening sockets

`cc3501e_hw_sock_listen` keeps a handle in `listen_handles` for each listening socket, so that the
accept pump knows where to call `lwip_accept`, and `cc3501e_hw_sock_close` takes it out.  The slot is
reserved before the socket goes passive and given back if `lwip_listen` fails.

The reservation first frees the slot the handle may already have.  So when `lwip_listen` fails on a
handle that is listening, giving the slot back drops it (`hwSockListen_drops`), and that is the only
way in which the table and the listening sockets come apart: `ListenTracked`.

Listening and closing run on one task, one after the other, and the table belongs to them; what lwIP
answers is open.  Left out are the other tables of `cc3501e_hw_sock_close`, the prefetch and the
end-of-file bits.
-/

namespace Cc3501eBridge

open Trace

/-- `CC3501E_SOCK_LISTEN_MAX`. -/
def sockListenMax : Nat := 4

/-- `CC3501E_SOCK_LISTEN_BACKLOG_DEFAULT`. -/
def sockListenBacklogDefault : Int32 := 4

/-- `listen_handles`, where zero is a free slot. -/
abbrev ListenTable := SlotTable sockListenMax (0 : UInt16)

/-- What lwIP returns, by file descriptor. -/
structure Lwip where
  /-- `lwip_fcntl(fd, F_SETFL, O_NONBLOCK)`. -/
  fcntl : Int → Int32
  /-- `lwip_setsockopt` of a receive timeout. -/
  setsockopt : Int → Int32
  /-- `lwip_listen(fd, backlog)`. -/
  listen : Int → Int32 → Int32
  close : Int → Int32

namespace Lwip

/-- The accept on a socket can be bounded, by the non-blocking flag or by a timeout. -/
def Bounds (w : Lwip) (fd : Int) : Prop := ¬ (w.fcntl fd < 0 ∧ w.setsockopt fd ≠ 0)

instance bounds_decidable (w : Lwip) (fd : Int) : Decidable (w.Bounds fd) :=
  inferInstanceAs (Decidable (¬ _))

end Lwip

/-- The file descriptor of a handle. -/
def sockFd (handle : UInt16) : Int := handle.toNat - 1

/-- The backlog that is asked for, or the default. -/
def listenBacklog (backlog : UInt8) : Int32 :=
  if backlog = 0 then sockListenBacklogDefault else Int32.ofNat backlog.toNat

section

variable {w : Lwip} {t : ListenTable} {handle h : UInt16} {backlog : UInt8}

/-- `cc3501e_hw_sock_listen`. -/
def hwSockListen (w : Lwip) (t : ListenTable) (handle : UInt16) (backlog : UInt8) :
    Int × ListenTable :=
  if handle = 0 then (hwErrInval, t)
  else if ¬ w.Bounds (sockFd handle) then (hwErrIo, t)
  else
    let t := t.erase handle
    match t.firstFree with
    | none => (hwErrState, t)
    | some slot =>
        let t := t.put slot handle
        if w.listen (sockFd handle) (listenBacklog backlog) ≠ 0 then (hwErrIo, t.put slot 0)
        else (hwOk, t)

/-- `cc3501e_hw_sock_close`. -/
def hwSockClose (w : Lwip) (t : ListenTable) (handle : UInt16) : Int × ListenTable :=
  let t := t.erase handle
  if handle = 0 then (hwErrInval, t)
  else if w.close (sockFd handle) ≠ 0 then (hwErrIo, t)
  else (hwOk, t)

@[simp] theorem hwSockClose_table : (hwSockClose w t handle).2 = t.erase handle := by
  unfold hwSockClose
  dsimp only
  split_ifs <;> rfl

/-- `lwip_listen` is reached and fails. -/
def ListenFails (w : Lwip) (handle : UInt16) (backlog : UInt8) : Prop :=
  w.Bounds (sockFd handle) ∧ w.listen (sockFd handle) (listenBacklog backlog) ≠ 0

instance listenFails_decidable (w : Lwip) (handle : UInt16) (backlog : UInt8) :
    Decidable (ListenFails w handle backlog) := inferInstanceAs (Decidable (_ ∧ _))

/-! ## What a call does to the table -/

theorem ne_zero_of_mem (hh : h ∈ t.held) : h ≠ 0 := hh.1

/-- Which call succeeds, and what the table is then. -/
structure Listened (t : ListenTable) (handle : UInt16) (out : Int × ListenTable) : Prop where
  rv : out.1 = hwOk
  ne_zero : handle ≠ 0
  held : out.2.held = insert handle t.held
  distinct : t.Distinct → out.2.Distinct

/-- A call that fails, leaving in the table what `s` says. -/
structure NotListened (t : ListenTable) (s : Set UInt16) (out : Int × ListenTable) : Prop where
  rv : out.1 ≠ hwOk
  held : out.2.held = s
  distinct : t.Distinct → out.2.Distinct

/-- The reservation of a slot. -/
theorem hwSockListen_reserved {slot : Fin sockListenMax} (h0 : handle ≠ 0)
    (hb : w.Bounds (sockFd handle)) (hs : (t.erase handle).firstFree = some slot) :
    hwSockListen w t handle backlog =
      if w.listen (sockFd handle) (listenBacklog backlog) ≠ 0 then (hwErrIo, t.erase handle)
      else (hwOk, (t.erase handle).put slot handle) := by
  unfold hwSockListen
  rw [if_neg h0, if_neg (not_not.mpr hb)]
  simp only [hs, SlotTable.put_free (SlotTable.slot_of_firstFree hs)]

/-- A call in which `lwip_listen` fails drops the handle. -/
theorem hwSockListen_drops (hh : handle ∈ t.held) (hf : ListenFails w handle backlog) :
    NotListened t (t.held \ {handle}) (hwSockListen w t handle backlog) := by
  obtain ⟨slot, hs⟩ := Option.ne_none_iff_exists'.mp (SlotTable.firstFree_erase_ne_none hh)
  rw [hwSockListen_reserved (ne_zero_of_mem hh) hf.1 hs, if_pos hf.2]
  exact ⟨(by decide : hwErrIo ≠ hwOk), t.held_erase handle, fun hd => hd.erase handle⟩

/-- Any other call succeeds, or leaves the table as it was. -/
theorem hwSockListen_cases (hf : ¬ (handle ∈ t.held ∧ ListenFails w handle backlog)) :
    Listened t handle (hwSockListen w t handle backlog) ∨
      NotListened t t.held (hwSockListen w t handle backlog) := by
  by_cases h0 : handle = 0
  · refine .inr ?_
    rw [hwSockListen, if_pos h0]
    exact ⟨(by decide : hwErrInval ≠ hwOk), rfl, id⟩
  by_cases hb : w.Bounds (sockFd handle)
  · cases hs : (t.erase handle).firstFree with
    | none =>
        -- the table is full, so the handle was not in it
        have hnot : handle ∉ t.held := fun hh => SlotTable.firstFree_erase_ne_none hh hs
        refine .inr ?_
        rw [hwSockListen, if_neg h0, if_neg (not_not.mpr hb)]
        simp only [hs]
        exact ⟨(by decide : hwErrState ≠ hwOk), by simp [hnot], fun hd => hd.erase handle⟩
    | some slot =>
        rw [hwSockListen_reserved h0 hb hs]
        by_cases hl : w.listen (sockFd handle) (listenBacklog backlog) ≠ 0
        · have hnot : handle ∉ t.held := fun hh => hf ⟨hh, hb, hl⟩
          refine .inr ?_
          rw [if_pos hl]
          exact ⟨(by decide : hwErrIo ≠ hwOk), by simp [hnot], fun hd => hd.erase handle⟩
        · refine .inl ?_
          rw [if_neg hl]
          refine ⟨rfl, h0, ?_, fun hd => (hd.erase handle).put (by simp)⟩
          rw [SlotTable.held_put (SlotTable.slot_of_firstFree hs) h0]
          simp
  · refine .inr ?_
    rw [hwSockListen, if_neg h0, if_pos hb]
    exact ⟨(by decide : hwErrIo ≠ hwOk), rfl, id⟩

end

/-! ## Histories -/

/-- A call, with what lwIP returns to it. -/
inductive ListenAct where
  | listen (handle : UInt16) (backlog : UInt8) (w : Lwip)
  | close (handle : UInt16) (w : Lwip)

/-- Make a call. -/
def ListenAct.perform (t : ListenTable) : ListenAct → Int × ListenTable
  | .listen handle backlog w => hwSockListen w t handle backlog
  | .close handle w => hwSockClose w t handle

/-- In the table `t`, the call is not one in which `lwip_listen` fails on an entry. -/
def ListenAct.Spares (t : ListenTable) : ListenAct → Prop
  | .listen h backlog w => ¬ (h ∈ t.held ∧ ListenFails w h backlog)
  | .close _ _ => True

instance ListenAct.spares_decidable (t : ListenTable) :
    (a : ListenAct) → Decidable (a.Spares t)
  | .listen _ _ _ => inferInstanceAs (Decidable (¬ _))
  | .close _ _ => inferInstanceAs (Decidable True)

/-- A call that was made: the table before it, what it returned, and the table after it. -/
structure ListenEv where
  act : ListenAct
  before : ListenTable
  rv : Int
  after : ListenTable

/-- The event of a call. -/
def ListenAct.event (t : ListenTable) (a : ListenAct) : ListenEv where
  act := a
  before := t
  rv := (a.perform t).1
  after := (a.perform t).2

/-- Calls one after another. -/
def listenSystem : Machine ListenTable ListenAct ListenEv where
  step t a := some ((a.perform t).2, a.event t)

namespace ListenEv

/-- A listen on `h`. -/
def Listens (h : UInt16) (e : ListenEv) : Prop := ∃ backlog w, e.act = .listen h backlog w

/-- A close of `h`. -/
def Closes (h : UInt16) (e : ListenEv) : Prop := ∃ w, e.act = .close h w

/-- A listen on `h` that succeeded. -/
def Opened (h : UInt16) (e : ListenEv) : Prop := e.Listens h ∧ e.rv = hwOk

theorem not_opened_of_closes {h h' : UInt16} {e : ListenEv} (hc : e.Closes h) : ¬ e.Opened h' := by
  rintro ⟨⟨backlog, w, hl⟩, -⟩
  obtain ⟨w', hc⟩ := hc
  rw [hl] at hc
  cases hc

end ListenEv

open ListenEv

/-- `h` has listened and has not been closed since. -/
def Listening (h : UInt16) (evs : List ListenEv) : Prop :=
  ∃ i, At (Opened h) evs i ∧ ∀ j, i < j → ¬ At (Closes h) evs j

/-- The last call about `h` was a close. -/
def LastClosed (h : UInt16) (evs : List ListenEv) : Prop :=
  ∃ i, At (Closes h) evs i ∧ ∀ j, i < j → ¬ At (fun e => e.Listens h ∨ e.Closes h) evs j

/-- The table tracks the listening sockets. -/
structure ListenTracked (evs : List ListenEv) (t : ListenTable) : Prop where
  /-- No handle is there twice. -/
  distinct : t.Distinct
  /-- None is there that was closed last. -/
  closed : ∀ h, LastClosed h evs → h ∉ t.held
  /-- Exactly the listening ones are there. -/
  held : ∀ h, h ∈ t.held ↔ Listening h evs
  /-- A listen that failed left the entries as they were. -/
  failed : ∀ e ∈ evs, ∀ h, e.Listens h → e.rv ≠ hwOk → e.after.held = e.before.held

section

variable {evs : List ListenEv} {t t' : ListenTable} {h : UInt16} {a : ListenAct} {e : ListenEv}

theorem listening_nil : ¬ Listening h [] := by
  rintro ⟨i, hi, -⟩
  exact not_at_nil hi

/-- One more call. -/
theorem listening_snoc :
    Listening h (evs ++ [e]) ↔ e.Opened h ∨ Listening h evs ∧ ¬ e.Closes h := by
  constructor
  · rintro ⟨i, hi, hno⟩
    rcases at_snoc.mp hi with hi | ⟨-, ho⟩
    · exact .inr ⟨⟨i, hi, fun j hj hc => hno j hj hc.snoc⟩, fun hc => hno _ hi.lt (at_last hc)⟩
    · exact .inl ho
  · rintro (ho | ⟨⟨i, hi, hno⟩, hc⟩)
    · exact ⟨_, at_last ho, fun j hj hc => absurd hc.lt (by simp; omega)⟩
    · refine ⟨i, hi.snoc, fun j hj hcj => ?_⟩
      rcases at_snoc.mp hcj with hcj | ⟨-, hcj⟩
      · exact hno j hj hcj
      · exact hc hcj

/-- What was closed last is not listening. -/
theorem LastClosed.not_listening (hl : LastClosed h evs) : ¬ Listening h evs := by
  rintro ⟨j, hj, hno⟩
  obtain ⟨i, hi, hlast⟩ := hl
  rcases Nat.lt_trichotomy i j with hij | rfl | hji
  · exact hlast j hij (hj.mono fun e ho => .inl ho.1)
  · obtain ⟨e, he, hc⟩ := hi
    obtain ⟨e', he', ho⟩ := hj
    obtain rfl : e = e' := Option.some.inj (he.symm.trans he')
    exact not_opened_of_closes hc ho
  · exact hno i hji hi

/-! ## Every run -/

theorem not_closes_listen {handle : UInt16} {backlog : UInt8} {w : Lwip} :
    ¬ (ListenAct.event t (.listen handle backlog w)).Closes h := by
  rintro ⟨w', hc⟩
  cases hc

theorem opened_listen {handle : UInt16} {backlog : UInt8} {w : Lwip} :
    (ListenAct.event t (.listen handle backlog w)).Opened h ↔
      h = handle ∧ (hwSockListen w t handle backlog).1 = hwOk := by
  constructor
  · rintro ⟨⟨b, w', hl⟩, hrv⟩
    cases hl
    exact ⟨rfl, hrv⟩
  · rintro ⟨rfl, hrv⟩
    exact ⟨⟨_, _, rfl⟩, hrv⟩

theorem closes_close {handle : UInt16} {w : Lwip} :
    (ListenAct.event t (.close handle w)).Closes h ↔ h = handle := by
  constructor
  · rintro ⟨w', hc⟩
    cases hc
    rfl
  · rintro rfl
    exact ⟨w, rfl⟩

/-- A call that spares the table puts in what it opened and takes out what it closed. -/
theorem mem_perform (hs : a.Spares t) : h ∈ (a.perform t).2.held ↔
    (a.event t).Opened h ∨ h ∈ t.held ∧ ¬ (a.event t).Closes h := by
  cases a with
  | listen handle backlog w =>
      rw [opened_listen]
      change h ∈ (hwSockListen w t handle backlog).2.held ↔ _
      rcases hwSockListen_cases hs with hok | hfail
      · simp [hok.held, hok.rv, not_closes_listen]
      · simp [hfail.held, hfail.rv, not_closes_listen]
  | close handle w =>
      have hno : ¬ (ListenAct.event t (.close handle w)).Opened h :=
        not_opened_of_closes ⟨w, rfl⟩
      change h ∈ (hwSockClose w t handle).2.held ↔ _
      simp [hno, closes_close]

/-- No call puts in anything else. -/
theorem mem_of_perform (hh : h ∈ (a.perform t).2.held) :
    (a.event t).Opened h ∨ h ∈ t.held ∧ ¬ (a.event t).Closes h := by
  by_cases hs : a.Spares t
  · exact (mem_perform hs).mp hh
  · cases a with
    | listen handle backlog w =>
        obtain ⟨hin, hf⟩ := not_not.mp hs
        change h ∈ (hwSockListen w t handle backlog).2.held at hh
        rw [(hwSockListen_drops hin hf).held] at hh
        exact .inr ⟨hh.1, not_closes_listen⟩
    | close handle w => exact absurd trivial hs

/-- No call gives a handle a second slot. -/
theorem distinct_step (hd : t.Distinct) : (a.perform t).2.Distinct := by
  cases a with
  | listen handle backlog w =>
      by_cases hf : handle ∈ t.held ∧ ListenFails w handle backlog
      · exact (hwSockListen_drops hf.1 hf.2).distinct hd
      · rcases hwSockListen_cases hf with hok | hfail
        · exact hok.distinct hd
        · exact hfail.distinct hd
  | close handle w =>
      change (hwSockClose w t handle).2.Distinct
      rw [hwSockClose_table]
      exact hd.erase handle

/-- A listen that fails leaves the entries alone exactly if it spares the table. -/
theorem failed_iff {handle : UInt16} {backlog : UInt8} {w : Lwip} :
    ((hwSockListen w t handle backlog).1 ≠ hwOk →
      (hwSockListen w t handle backlog).2.held = t.held) ↔
      ¬ (handle ∈ t.held ∧ ListenFails w handle backlog) := by
  constructor
  · rintro hkeep ⟨hh, hf⟩
    have hd := hwSockListen_drops hh hf
    have heq := hkeep hd.rv
    rw [hd.held] at heq
    rw [← heq] at hh
    exact hh.2 rfl
  · intro hf hrv
    rcases hwSockListen_cases hf with hok | hfail
    · exact absurd hok.rv hrv
    · exact hfail.held

/-- The events of a run are those of its calls. -/
theorem event_of_mem {t₀ : ListenTable} (hr : listenSystem.Run t₀ evs t) (he : e ∈ evs) :
    ∃ t a, e = ListenAct.event t a := by
  refine Machine.Run.invariant (P := fun evs _ => ∀ e ∈ evs, ∃ t a, e = ListenAct.event t a)
    hr (fun e he => absurd he (by simp)) ?_ e he
  intro evs t a t' e' ih hs e he
  obtain ⟨-, rfl⟩ : (a.perform t).2 = t' ∧ a.event t = e' := by simpa [listenSystem] using hs
  rcases List.mem_append.mp he with he | he
  · exact ih e he
  · exact ⟨t, a, List.mem_singleton.mp he⟩

/-- In every run, no handle has two slots and only listening sockets have one. -/
theorem listen_table_sound (hr : listenSystem.Run .empty evs t) :
    t.Distinct ∧ ∀ h ∈ t.held, Listening h evs := by
  refine Machine.Run.invariant (P := fun evs t => t.Distinct ∧ ∀ h ∈ t.held, Listening h evs)
    hr ⟨SlotTable.distinct_empty, by simp⟩ ?_
  rintro evs t a t' e ⟨hd, ih⟩ hstep
  obtain ⟨rfl, rfl⟩ : (a.perform t).2 = t' ∧ a.event t = e := by
    simpa [listenSystem] using hstep
  refine ⟨distinct_step hd, fun h hh => listening_snoc.mpr ?_⟩
  rcases mem_of_perform hh with ho | ⟨ht, hc⟩
  · exact .inl ho
  · exact .inr ⟨ih h ht, hc⟩

/-- As long as the table is spared, every listening socket has a slot. -/
theorem listening_held (hr : listenSystem.Run .empty evs t)
    (hs : ∀ e ∈ evs, e.act.Spares e.before) (hl : Listening h evs) : h ∈ t.held := by
  refine Machine.Run.invariant
    (P := fun evs t => (∀ e ∈ evs, e.act.Spares e.before) → Listening h evs → h ∈ t.held)
    hr (fun _ hl => absurd hl listening_nil) ?_ hs hl
  rintro evs t a t' e ih hstep hs hl
  obtain ⟨rfl, rfl⟩ : (a.perform t).2 = t' ∧ a.event t = e := by
    simpa [listenSystem] using hstep
  have hlast : a.Spares t := hs (a.event t) (List.mem_append_right _ (List.mem_singleton_self _))
  rcases listening_snoc.mp hl with ho | ⟨hl, hc⟩
  · exact (mem_perform hlast).mpr (.inl ho)
  · have hin := ih (fun e he => hs e (List.mem_append_left _ he)) hl
    exact (mem_perform hlast).mpr (.inr ⟨hin, hc⟩)

/-- The table tracks the listening sockets in exactly the runs in which `lwip_listen` never fails on a
handle that is in the table. -/
theorem listen_table_tracks (hr : listenSystem.Run .empty evs t) :
    ListenTracked evs t ↔ ∀ e ∈ evs, e.act.Spares e.before := by
  constructor
  · intro h e he
    obtain ⟨t₁, a, rfl⟩ := event_of_mem hr he
    cases a with
    | listen handle backlog w => exact failed_iff.mp (h.failed _ he handle ⟨backlog, w, rfl⟩)
    | close handle w => trivial
  · intro hs
    obtain ⟨hd, hsound⟩ := listen_table_sound hr
    refine ⟨hd, fun h hl hh => hl.not_listening (hsound h hh),
      fun h => ⟨hsound h, listening_held hr hs⟩, ?_⟩
    intro e he h hl hrv
    obtain ⟨t₁, a, rfl⟩ := event_of_mem hr he
    obtain ⟨backlog, w, ha⟩ := hl
    obtain rfl : a = .listen h backlog w := ha
    exact failed_iff.mpr (hs _ he) hrv

end

/-- lwIP where all goes well, but for `lwip_listen`. -/
def lwipListening (rc : Int32) : Lwip where
  fcntl := fun _ => 0
  setsockopt := fun _ => 0
  listen := fun _ _ => rc
  close := fun _ => 0

/-- A socket is listened on. -/
def listenFive : ListenAct := .listen 5 0 (lwipListening 0)

/-- It is listened on again, and `lwip_listen` fails. -/
def relistenFive : ListenAct := .listen 5 0 (lwipListening (-1))

theorem relisten_drops : ∃ evs t, listenSystem.Run .empty evs t ∧ ¬ ListenTracked evs t := by
  let t₁ : ListenTable := (listenFive.perform .empty).2
  have hx : listenSystem.exec .empty [listenFive, relistenFive] = some ((relistenFive.perform t₁).2,
      [listenFive.event .empty, relistenFive.event t₁]) := rfl
  refine ⟨_, _, Machine.run_of_exec hx, fun h => ?_⟩
  have hfailed := h.failed (relistenFive.event t₁) (by simp) 5 ⟨0, _, rfl⟩ (by decide)
  have hmem : 5 ∈ (relistenFive.event t₁).after.held := by
    rw [hfailed]
    decide
  exact absurd hmem (by decide)

/-- Two sockets listen, one of them twice, and one is closed. -/
def listenTwice : List ListenAct :=
  [.listen 5 0 (lwipListening 0), .listen 6 2 (lwipListening 0), .listen 5 1 (lwipListening 0),
    .listen 7 1 (lwipListening (-1)), .close 6 (lwipListening 0)]

theorem listen_table_tracks_twice :
    ∃ evs t, listenSystem.Run .empty evs t ∧ ListenTracked evs t ∧ 5 ∈ t.held ∧ 6 ∉ t.held := by
  obtain ⟨⟨t, evs⟩, hx⟩ : ∃ x, listenSystem.exec .empty listenTwice = some x := ⟨_, rfl⟩
  have hr := Machine.run_of_exec hx
  refine ⟨evs, t, hr, (listen_table_tracks hr).mpr ?_, ?_⟩
  · obtain ⟨rfl, rfl⟩ := Prod.mk.inj (Option.some.inj hx)
    decide
  · obtain ⟨rfl, rfl⟩ := Prod.mk.inj (Option.some.inj hx)
    decide

end Cc3501eBridge
