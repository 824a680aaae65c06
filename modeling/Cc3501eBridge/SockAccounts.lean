import Cc3501eBridge.Reference
import Cc3501eBridge.SockServer

/-!
# Every descriptor is accounted for

A descriptor that lwIP has handed out is either in the pump's hands, between `lwip_accept` and the
event that announces it, or the host has been told its handle, or a `lwip_close` that was to give it
up has failed (`fds_accounted`).  So none leaks while closing works, and no handle is told twice
without having been closed in between.

The pump calls `lwip_accept` only on open descriptors that listen (`pump_accepts_on_listening`),
each connection it gets is announced or given up before it looks for the next one, and the host
reads the announcements once and in order (`connections_announced_once`).
-/

namespace Cc3501eBridge

open Trace

variable {η : Type} {E : Env η} {s s' : SockTask} {e : SockEv} {tr : List SockEv} {fd : Int}

/-! ## Handles and descriptors -/

theorem sockFd_sockHandle (h0 : 0 ≤ fd) (hlt : fd < 0xFFFF) : sockFd (sockHandle fd) = fd := by
  have hnat : (sockHandle fd).toNat = fd.toNat + 1 := UInt16.toNat_ofNat_of_lt' (by
    unfold UInt16.size
    omega)
  unfold sockFd
  omega

theorem sockHandle_ne_zero (h0 : 0 ≤ fd) (hlt : fd < 0xFFFF) : sockHandle fd ≠ 0 := by
  intro hzero
  have hfd := sockFd_sockHandle h0 hlt
  rw [hzero] at hfd
  have hneg : sockFd 0 = -1 := by decide
  omega

theorem sockFd_nonneg {handle : UInt16} (h : handle ≠ 0) : 0 ≤ sockFd handle := by
  have hpos : handle.toNat ≠ 0 := fun h0 => h (UInt16.toNat_inj.mp h0)
  unfold sockFd
  omega

theorem sockFd_injective : Function.Injective sockFd := by
  intro h h' heq
  unfold sockFd at heq
  exact UInt16.toNat_inj.mp (by omega)

/-! ## lwIP's view -/

theorem lwipObtained_apply (isOpen : Int → Bool) (fd x : Int) :
    lwipObtained isOpen fd x = if x = fd then true else isOpen x := by
  unfold lwipObtained
  rw [Function.update_apply]

theorem lwipClosed_apply (isOpen : Int → Bool) (fd : Int) (rc : Int32) (x : Int) :
    lwipClosed isOpen fd rc x = if x = fd ∧ rc = 0 then false else isOpen x := by
  unfold lwipClosed
  by_cases hrc : rc = 0
  · simp [hrc, Function.update_apply]
  · simp [hrc]

theorem not_inHand (h : ∀ slot listener p, s.pc ≠ .accepted slot listener p) : ¬ s.InHand fd := by
  rintro ⟨slot, listener, p, hpc, -⟩
  exact h slot listener p hpc

theorem not_inHand_idle (h : s.pc = .idle) : ¬ s.InHand fd := not_inHand (by simp [h])

theorem not_inHand_look {slot : Nat} (h : s.pc = .look slot) : ¬ s.InHand fd :=
  not_inHand (by simp [h])

theorem inHand_accepted {slot : Nat} {listener : UInt16} {p : SockPeer}
    (h : s.pc = .accepted slot listener p) : s.InHand fd ↔ p.fd = fd := by
  constructor
  · rintro ⟨slot', listener', p', hpc, rfl⟩
    rw [h] at hpc
    cases hpc
    rfl
  · rintro rfl
    exact ⟨slot, listener, p, h, rfl⟩

/-! ## What becomes of a descriptor -/

/-- What has become of a descriptor that was handed out. -/
inductive FdFate
  | /-- The host has its handle. -/
    told
  | /-- It is closed. -/
    gone
  | /-- It was to be closed, and `lwip_close` failed. -/
    lost
  deriving DecidableEq

/-- The fate of a descriptor that is given up. -/
def FdFate.ofClose (rc : Int32) : FdFate := if rc = 0 then .gone else .lost

/-- What an event says of the descriptor `fd`. -/
def SockEv.fate (fd : Int) : SockEv → Option FdFate
  | .opened (some fd') rc r =>
      if fd' = fd ∧ 0 ≤ fd then some (if r.rv = hwOk then .told else .ofClose rc) else none
  | .closed handle rc _ => if handle ≠ 0 ∧ sockFd handle = fd ∧ rc = 0 then some .gone else none
  | .announced _ p _ => if p.fd = fd then some .told else none
  | .dropped _ p _ rc => if p.fd = fd then some (.ofClose rc) else none
  | _ => none

/-- The host has the descriptor's handle, or nobody has and it could not be closed. -/
def FdKept (fd : Int) (tr : List SockEv) : Prop :=
  latest (SockEv.fate fd) tr = some .told ∨ latest (SockEv.fate fd) tr = some .lost

theorem fdKept_nil : ¬ FdKept fd [] := by simp [FdKept]

/-- An event that says nothing of the descriptor. -/
theorem fdKept_snoc_none (h : e.fate fd = none) : FdKept fd (tr ++ [e]) ↔ FdKept fd tr := by
  simp [FdKept, h]

theorem fdKept_snoc_some {f : FdFate} (h : e.fate fd = some f) :
    FdKept fd (tr ++ [e]) ↔ f ≠ .gone := by
  cases f <;> simp [FdKept, h]

/-- What a step does to one descriptor. -/
inductive FdTrans (fd : Int) (s s' : SockTask) (e : SockEv) : Prop
  | keep : e.fate fd = none → s'.isOpen fd = s.isOpen fd → (s'.InHand fd ↔ s.InHand fd) →
      FdTrans fd s s' e
  | /-- The pump gets it. -/
    taken : e.fate fd = none → s.isOpen fd = false → s'.isOpen fd = true → s'.InHand fd →
      FdTrans fd s s' e
  | /-- The host is told, by the reply or by the pump. -/
    told : e.fate fd = some .told →
      (s.isOpen fd = false ∧ s'.isOpen fd = true ∨ s.InHand fd ∧ s'.isOpen fd = s.isOpen fd) →
      ¬ s'.InHand fd → FdTrans fd s s' e
  | gone : e.fate fd = some .gone → s'.isOpen fd = false → ¬ s'.InHand fd → FdTrans fd s s' e
  | lost : e.fate fd = some .lost →
      (s'.isOpen fd = true ∨ s.InHand fd ∧ s'.isOpen fd = s.isOpen fd) → ¬ s'.InHand fd →
      FdTrans fd s s' e

/-- A descriptor that is given up. -/
theorem FdTrans.givenUp {rc : Int32} {isOpen : Int → Bool}
    (hf : e.fate fd = some (.ofClose rc)) (ho : s'.isOpen = lwipClosed isOpen fd rc)
    (hopen : isOpen fd = true ∨ s.InHand fd ∧ isOpen fd = s.isOpen fd) (hh : ¬ s'.InHand fd) :
    FdTrans fd s s' e := by
  have hat : s'.isOpen fd = if rc = 0 then false else isOpen fd := by
    rw [ho, lwipClosed_apply]
    simp
  by_cases hrc : rc = 0
  · rw [FdFate.ofClose, if_pos hrc] at hf
    rw [if_pos hrc] at hat
    exact .gone hf hat hh
  · rw [FdFate.ofClose, if_neg hrc] at hf
    rw [if_neg hrc] at hat
    rw [← hat] at hopen
    exact .lost hf hopen hh

/-- Every step does one of these to every descriptor. -/
theorem SockTrans.fdTrans (h : SockTrans E s s' e) (fd : Int) : FdTrans fd s s' e := by
  cases h with
  | @refused asked rc r hpc hasked hrv =>
      refine .keep ?_ rfl Iff.rfl
      cases asked with
      | none => rfl
      | some fd' =>
          have hneg := hasked fd' rfl
          rw [SockEv.fate, if_neg]
          omega
  | @opened fd' rc hpc h0 hlt hclosed =>
      by_cases hfd : fd' = fd
      · subst hfd
        refine .told (by simp [SockEv.fate, h0]) (.inl ⟨hclosed, ?_⟩) (not_inHand_idle hpc)
        simp [lwipObtained_apply]
      · refine .keep (by simp [SockEv.fate, hfd]) ?_ Iff.rfl
        simp [lwipObtained_apply, Ne.symm hfd]
  | @beyond fd' rc r hpc hbig hclosed hrv =>
      by_cases hfd : fd' = fd
      · subst hfd
        have h0 : 0 ≤ fd' := by omega
        refine .givenUp (by simp [SockEv.fate, h0, hrv]) rfl (.inl ?_) (not_inHand_idle hpc)
        simp [lwipObtained_apply]
      · refine .keep (by simp [SockEv.fate, hfd]) ?_ Iff.rfl
        simp [lwipObtained_apply, lwipClosed_apply, Ne.symm hfd]
  | listened handle backlog w hpc hopen => exact .keep rfl rfl Iff.rfl
  | closed handle w hpc =>
      by_cases hfd : handle ≠ 0 ∧ sockFd handle = fd ∧ w.close (sockFd handle) = 0
      · obtain ⟨h0, rfl, hrc⟩ := hfd
        refine .gone (by simp [SockEv.fate, h0, hrc]) ?_ (not_inHand_idle hpc)
        simp [h0, lwipClosed_apply, hrc]
      · refine .keep (by simp only [SockEv.fate, if_neg hfd]) ?_ Iff.rfl
        change (if handle = 0 then s.isOpen else
          lwipClosed s.isOpen (sockFd handle) (w.close (sockFd handle))) fd = s.isOpen fd
        by_cases h0 : handle = 0
        · rw [if_pos h0]
        · rw [if_neg h0, lwipClosed_apply, if_neg]
          rintro ⟨rfl, hrc⟩
          exact hfd ⟨h0, rfl, hrc⟩
  | received handle maxLen cap answer isStream hpc hans => exact .keep rfl rfl Iff.rfl
  | moved hpc hpc' =>
      exact .keep rfl rfl ⟨fun h => absurd h (not_inHand hpc'), fun h => absurd h (not_inHand hpc)⟩
  | @accepted slot listener p hpc hheld h0 hclosed =>
      by_cases hfd : p.fd = fd
      · subst hfd
        refine .taken rfl hclosed (by simp [lwipObtained_apply]) ?_
        exact (inHand_accepted rfl).mpr rfl
      · refine .keep rfl (by simp [lwipObtained_apply, Ne.symm hfd]) ?_
        have hno : ¬ s.InHand fd := not_inHand_look hpc
        simp only [hno, iff_false]
        exact fun h => hfd ((inHand_accepted rfl).mp h)
  | @announced slot listener p ring hpc hlt hpush =>
      by_cases hfd : p.fd = fd
      · exact .told (by simp [SockEv.fate, hfd]) (.inr ⟨(inHand_accepted hpc).mpr hfd, rfl⟩)
          (not_inHand_look rfl)
      · refine .keep (by simp [SockEv.fate, hfd]) rfl ?_
        rw [inHand_accepted hpc]
        simp only [hfd, iff_false]
        exact not_inHand_look rfl
  | @dropped slot listener p ev rc ring hpc hwhy =>
      by_cases hfd : p.fd = fd
      · subst hfd
        exact .givenUp (by simp [SockEv.fate]) rfl (.inr ⟨(inHand_accepted hpc).mpr rfl, rfl⟩)
          (not_inHand_look rfl)
      · refine .keep (by simp [SockEv.fate, hfd]) (by simp [lwipClosed_apply, Ne.symm hfd]) ?_
        rw [inHand_accepted hpc]
        simp only [hfd, iff_false]
        exact not_inHand_look rfl
  | ring hev hop => exact .keep rfl rfl Iff.rfl

/-- The descriptors are accounted for. -/
structure FdInv (tr : List SockEv) (s : SockTask) : Prop where
  /-- An open one is in the pump's hands, or the host has its handle, or it could not be closed. -/
  open_iff : ∀ fd, s.isOpen fd = true ↔ s.InHand fd ∨ FdKept fd tr
  /-- What the pump has in its hands the host has not been told. -/
  hand : ∀ fd, s.InHand fd → ¬ FdKept fd tr
  /-- A handle that the host is told is not one it has. -/
  told : Justified (fun tr e => ∀ fd, e.fate fd = some .told → ¬ FdKept fd tr) tr

namespace FdInv

theorem start : FdInv [] .boot where
  open_iff fd := by simp [SockTask.boot, fdKept_nil, SockTask.InHand]
  hand fd _ := fdKept_nil
  told := justified_nil

/-- One descriptor through a step. -/
theorem step_fd (h : FdInv tr s) (ht : FdTrans fd s s' e) :
    (s'.isOpen fd = true ↔ s'.InHand fd ∨ FdKept fd (tr ++ [e])) ∧
      (s'.InHand fd → ¬ FdKept fd (tr ++ [e])) ∧
      (e.fate fd = some .told → ¬ FdKept fd tr) := by
  have hopen := h.open_iff fd
  have hhand := h.hand fd
  cases ht with
  | keep hf ho hh =>
      rw [fdKept_snoc_none hf, ho, hh]
      exact ⟨hopen, hhand, by simp [hf]⟩
  | taken hf hclosed ho hh =>
      have hno : ¬ FdKept fd tr := fun hk => by simp [hopen.mpr (.inr hk)] at hclosed
      rw [fdKept_snoc_none hf]
      exact ⟨iff_of_true ho (.inl hh), fun _ => hno, by simp [hf]⟩
  | told hf ho hh =>
      rw [fdKept_snoc_some hf]
      refine ⟨iff_of_true ?_ (.inr (by simp)), fun h' => absurd h' hh, fun _ hk => ?_⟩
      · rcases ho with ⟨-, ho⟩ | ⟨hin, ho⟩
        · exact ho
        · rw [ho]
          exact hopen.mpr (.inl hin)
      · rcases ho with ⟨hclosed, -⟩ | ⟨hin, -⟩
        · simp [hopen.mpr (.inr hk)] at hclosed
        · exact hhand hin hk
  | gone hf ho hh =>
      rw [fdKept_snoc_some hf]
      refine ⟨iff_of_false (by simp [ho]) ?_, fun h' => absurd h' hh, by simp [hf]⟩
      rintro (h' | h')
      · exact hh h'
      · exact h' rfl
  | lost hf ho hh =>
      rw [fdKept_snoc_some hf]
      refine ⟨iff_of_true ?_ (.inr (by simp)), fun h' => absurd h' hh, by simp [hf]⟩
      rcases ho with ho | ⟨hin, ho⟩
      · exact ho
      · rw [ho]
        exact hopen.mpr (.inl hin)

theorem step (h : FdInv tr s) (ht : SockTrans E s s' e) : FdInv (tr ++ [e]) s' where
  open_iff fd := (h.step_fd (ht.fdTrans fd)).1
  hand fd := (h.step_fd (ht.fdTrans fd)).2.1
  told := h.told.snoc fun fd => (h.step_fd (ht.fdTrans fd)).2.2

end FdInv

/-- A run under lwIP's contract. -/
abbrev SockRun (E : Env η) (tr : List SockEv) (s : SockTask) : Prop :=
  (sockServer E).RunIf (SockContract E) .boot tr s

/-- What holds at boot and survives every kind of step holds throughout. -/
theorem SockRun.invariant {P : List SockEv → SockTask → Prop} (hr : SockRun E tr s)
    (h0 : P [] .boot) (hstep : ∀ tr s s' e, P tr s → SockTrans E s s' e → P (tr ++ [e]) s') :
    P tr s :=
  Machine.RunIf.invariant hr h0 fun tr t _ t' e hp hg hs =>
    hstep tr t t' e hp (sockStep_trans hg hs)

theorem FdInv.of_run (hr : SockRun E tr s) : FdInv tr s :=
  hr.invariant FdInv.start fun _ _ _ _ h ht => h.step ht

/-- What the pump has in its hands is a descriptor. -/
theorem SockRun.nonneg (hr : SockRun E tr s) : ∀ fd, s.InHand fd → 0 ≤ fd := by
  refine hr.invariant (P := fun _ s => ∀ fd, s.InHand fd → 0 ≤ fd)
    (fun fd h => absurd h (not_inHand_idle rfl)) ?_
  intro tr s s' e ih ht fd hin
  cases ht with
  | moved hpc hpc' => exact absurd hin (not_inHand hpc')
  | accepted hpc hheld h0 hclosed =>
      obtain rfl := (inHand_accepted rfl).mp hin
      exact h0
  | announced | dropped => exact absurd hin (not_inHand_look rfl)
  | refused | opened | beyond | listened | closed | received | ring => exact ih fd hin

/-- The host is told a handle. -/
def SockEv.Tells (handle : UInt16) : SockEv → Prop
  | .opened _ _ r => r.rv = hwOk ∧ r.word = handle
  | .announced _ p _ => sockHandle p.fd = handle
  | _ => False

/-- The handle that the host is told is that of a descriptor. -/
theorem SockTrans.tells {handle : UInt16} (ht : SockTrans E s s' e) (h : e.Tells handle)
    (hp : ∀ fd, s.InHand fd → 0 ≤ fd) :
    handle ≠ 0 ∧ e.fate (sockFd handle) = some .told := by
  cases ht with
  | refused hpc hasked hrv => exact absurd h.1 hrv
  | @opened fd' rc hpc h0 hlt hclosed =>
      obtain ⟨-, rfl⟩ := h
      have hfd := sockFd_sockHandle h0 hlt
      exact ⟨sockHandle_ne_zero h0 hlt, by simp [SockEv.fate, hfd, h0]⟩
  | beyond hpc hbig hclosed hrv => exact absurd h.1 hrv
  | @announced slot listener p ring hpc hlt hpush =>
      obtain rfl : sockHandle p.fd = handle := h
      have h0 : 0 ≤ p.fd := hp _ ((inHand_accepted hpc).mpr rfl)
      exact ⟨sockHandle_ne_zero h0 hlt, by simp [SockEv.fate, sockFd_sockHandle h0 hlt]⟩
  | listened | closed | received | moved | accepted | dropped | ring => exact h.elim

/-- Where the open descriptors are, and what the host is told of them. -/
structure FdsAccounted (tr : List SockEv) (s : SockTask) : Prop where
  /-- An open one is in the pump's hands, or the host has its handle, or it could not be closed. -/
  open_iff : ∀ fd, s.isOpen fd = true ↔ s.InHand fd ∨ FdKept fd tr
  /-- Between two turns of the pump, and if closing works, the host has the handles of all. -/
  all_told : s.pc = .idle → ∀ fd, (∀ e ∈ tr, e.fate fd ≠ some .lost) →
    (s.isOpen fd = true ↔ latest (SockEv.fate fd) tr = some .told)
  /-- A handle that the host is told is none it has already. -/
  fresh : Justified (fun tr e => ∀ handle, e.Tells handle →
    handle ≠ 0 ∧ ¬ FdKept (sockFd handle) tr) tr

/-- In every run the descriptors are accounted for. -/
theorem fds_accounted (hr : SockRun E tr s) : FdsAccounted tr s := by
  have hinv := FdInv.of_run hr
  refine ⟨hinv.open_iff, fun hpc fd hno => ?_, fun i e hi handle htells => ?_⟩
  · rw [hinv.open_iff fd]
    constructor
    · rintro (hin | htold | hlost)
      · exact absurd hin (not_inHand_idle hpc)
      · exact htold
      · obtain ⟨e, he, hf⟩ := exists_mem_of_latest hlost
        exact absurd hf (hno e he)
    · exact fun htold => .inr (.inl htold)
  · obtain ⟨t, a, t', ht, hg, hs⟩ := hr.step_at hi
    obtain ⟨h0, hfate⟩ := (sockStep_trans hg hs).tells htells (SockRun.nonneg ht)
    exact ⟨h0, hinv.told i e hi _ hfate⟩

/-- A socket is opened and listened on, and a connection to it is accepted.  An event is pushed
before it is announced, a drain moves that event and finds no room for the announcement, and the
next one takes it.  The connection is received from until its end and closed. -/
def serverTraffic : List SockAct :=
  [.sockOpen 0 0 0 3 0, .sockListen 4 0 (lwipListening 0), .acceptPump,
    .accept { fd := 5, port := 0x1234, addr := [192, 168, 1, 7] }, .ring (.push 0x10 [1]),
    .ring (.drain 8), .announce 0, .ring .turn, .ring .turn,
    .accept { fd := -1, port := 0, addr := [] },
    .accept { fd := -1, port := 0, addr := [] }, .accept { fd := -1, port := 0, addr := [] },
    .accept { fd := -1, port := 0, addr := [] }, .ring (.drain 64), .ring .turn, .ring .turn,
    .sockRecv 6 8 64 (.data [0x68, 0x69] none) true, .sockRecv 6 8 64 (.data [] none) true,
    .sockRecv 6 8 64 .error true, .sockClose 6 (lwipListening 0), .sockOpen 0 1 0 5 0]

theorem fds_accounted_traffic : ∃ tr s, SockRun Env.reference tr s ∧ FdsAccounted tr s ∧
    s.isOpen 3 = true ∧ s.isOpen 5 = true ∧ s.isOpen 4 = false := by
  have hexec : ((sockServer Env.reference).execIf (SockContract Env.reference) .boot
      serverTraffic).map (fun x => (x.1.isOpen 3, x.1.isOpen 5, x.1.isOpen 4)) =
      some (true, true, false) := by decide +kernel
  obtain ⟨⟨s, tr⟩, hs, hopen⟩ := Option.map_eq_some_iff.mp hexec
  have hr : SockRun Env.reference tr s := Machine.runIf_of_execIf hs
  simp only [Prod.mk.injEq] at hopen
  exact ⟨tr, s, hr, fds_accounted hr, hopen⟩

/-! ## The pump asks listening sockets only -/

/-- What an event says of whether the descriptor `fd` listens: it does not when it is handed out or
closed, and it does when `lwip_listen` has succeeded. -/
def SockEv.listenMark (fd : Int) : SockEv → Option Bool
  | .opened (some fd') _ _ => if fd' = fd then some false else none
  | .listened handle rv => if sockFd handle = fd ∧ rv = hwOk then some true else none
  | .closed handle _ _ => if sockFd handle = fd then some false else none
  | .accepted _ p => if p.fd = fd then some false else none
  | _ => none

/-- The descriptor listens. -/
def FdListens (fd : Int) (tr : List SockEv) : Prop := latest (SockEv.listenMark fd) tr = some true

theorem FdListens.snoc (h : FdListens fd tr) (hn : e.listenMark fd ≠ some false) :
    FdListens fd (tr ++ [e]) := by
  rw [FdListens, latest_snoc]
  cases hm : e.listenMark fd with
  | none => exact h
  | some b =>
      cases b with
      | true => rfl
      | false => exact absurd hm hn

/-- What a successful `cc3501e_hw_sock_listen` says of lwIP. -/
theorem hwSockListen_ok {w : Lwip} {t : ListenTable} {handle : UInt16} {backlog : UInt8}
    (h : (hwSockListen w t handle backlog).1 = hwOk) :
    w.listen (sockFd handle) (listenBacklog backlog) = 0 := by
  by_contra hl
  unfold hwSockListen at h
  by_cases h0 : handle = 0
  · rw [if_pos h0] at h
    exact absurd h (by decide : hwErrInval ≠ hwOk)
  rw [if_neg h0] at h
  by_cases hb : w.Bounds (sockFd handle)
  · rw [if_neg (not_not.mpr hb)] at h
    cases hs : (t.erase handle).firstFree with
    | none =>
        simp only [hs] at h
        exact absurd h (by decide : hwErrState ≠ hwOk)
    | some slot =>
        simp only [hs, if_pos hl] at h
        exact absurd h (by decide : hwErrIo ≠ hwOk)
  · rw [if_pos hb] at h
    exact absurd h (by decide : hwErrIo ≠ hwOk)

/-- The handles in the table are those of open sockets that listen. -/
def ListenInv (tr : List SockEv) (s : SockTask) : Prop :=
  ∀ h ∈ s.listen.held, s.isOpen (sockFd h) = true ∧ FdListens (sockFd h) tr ∧ ¬ s.InHand (sockFd h)

theorem ListenInv.step (h : ListenInv tr s) (ht : SockTrans E s s' e) :
    ListenInv (tr ++ [e]) s' := by
  intro handle hh
  cases ht with
  | @refused asked rc r hpc hasked hrv =>
      obtain ⟨hopen, hl, hno⟩ := h handle hh
      refine ⟨hopen, hl.snoc ?_, hno⟩
      cases asked with
      | none => simp [SockEv.listenMark]
      | some fd' =>
          have hneg := hasked fd' rfl
          have hpos : 0 ≤ sockFd handle := sockFd_nonneg hh.1
          rw [SockEv.listenMark, if_neg (by omega)]
          simp
  | @opened fd' rc hpc h0 hlt hclosed =>
      obtain ⟨hopen, hl, hno⟩ := h handle hh
      have hne : sockFd handle ≠ fd' := fun heq => by simp [heq, hclosed] at hopen
      refine ⟨by simpa [lwipObtained_apply, hne] using hopen, hl.snoc ?_, hno⟩
      simp [SockEv.listenMark, Ne.symm hne]
  | @beyond fd' rc r hpc hbig hclosed hrv =>
      obtain ⟨hopen, hl, hno⟩ := h handle hh
      have hne : sockFd handle ≠ fd' := fun heq => by simp [heq, hclosed] at hopen
      refine ⟨by simpa [lwipObtained_apply, lwipClosed_apply, hne] using hopen, hl.snoc ?_, hno⟩
      simp [SockEv.listenMark, Ne.symm hne]
  | listened handle' backlog w hpc hopen' =>
      have hmem := mem_of_perform (t := s.listen) (a := .listen handle' backlog w) hh
      rw [opened_listen] at hmem
      rcases hmem with ⟨rfl, hok⟩ | ⟨hin, -⟩
      · refine ⟨hopen' (hwSockListen_ok hok), ?_, not_inHand_idle hpc⟩
        simp [FdListens, SockEv.listenMark, hok]
      · obtain ⟨hopen, hl, hno⟩ := h handle hin
        refine ⟨hopen, hl.snoc ?_, hno⟩
        simp only [SockEv.listenMark]
        split_ifs <;> simp
  | closed handle' w hpc =>
      obtain ⟨hin, hne⟩ : handle ∈ s.listen.held ∧ handle ≠ handle' := by
        simpa [SlotTable.held_erase] using hh
      obtain ⟨hopen, hl, hno⟩ := h handle hin
      have hfd : sockFd handle' ≠ sockFd handle := fun heq => hne (sockFd_injective heq).symm
      refine ⟨?_, hl.snoc (by simp [SockEv.listenMark, hfd]), hno⟩
      change (if handle' = 0 then s.isOpen else
        lwipClosed s.isOpen (sockFd handle') (w.close (sockFd handle'))) (sockFd handle) = true
      split_ifs
      · exact hopen
      · simpa [lwipClosed_apply, Ne.symm hfd] using hopen
  | @accepted slot listener p hpc hheld h0 hclosed =>
      obtain ⟨hopen, hl, hno⟩ := h handle hh
      have hne : sockFd handle ≠ p.fd := fun heq => by simp [heq, hclosed] at hopen
      refine ⟨by simpa [lwipObtained_apply, hne] using hopen, hl.snoc ?_, ?_⟩
      · simp [SockEv.listenMark, Ne.symm hne]
      · rw [inHand_accepted rfl]
        exact Ne.symm hne
  | @announced slot listener p ring hpc hlt hpush =>
      obtain ⟨hopen, hl, hno⟩ := h handle hh
      exact ⟨hopen, hl.snoc (by simp [SockEv.listenMark]), not_inHand_look rfl⟩
  | @dropped slot listener p ev rc ring hpc hwhy =>
      obtain ⟨hopen, hl, hno⟩ := h handle hh
      rw [inHand_accepted hpc] at hno
      refine ⟨?_, hl.snoc (by simp [SockEv.listenMark]), not_inHand_look rfl⟩
      simpa [lwipClosed_apply, Ne.symm hno] using hopen
  | moved hpc hpc' =>
      obtain ⟨hopen, hl, -⟩ := h handle hh
      exact ⟨hopen, hl.snoc (by simp [SockEv.listenMark]), not_inHand hpc'⟩
  | received | ring =>
      obtain ⟨hopen, hl, hno⟩ := h handle hh
      exact ⟨hopen, hl.snoc (by simp [SockEv.listenMark]), hno⟩

theorem ListenInv.of_run (hr : SockRun E tr s) : ListenInv tr s :=
  hr.invariant (by simp [ListenInv, SockTask.boot]) fun _ _ _ _ h ht => h.step ht

/-- The connection an event shows the pump get. -/
def SockEv.took : SockEv → Option (UInt16 × SockPeer)
  | .accepted listener p => some (listener, p)
  | _ => none

/-- The handle on whose descriptor the pump calls `lwip_accept` next. -/
def SockTask.asks (s : SockTask) : Option UInt16 :=
  match s.pc with
  | .look slot =>
      if h : slot < sockListenMax then
        if s.listen.slot ⟨slot, h⟩ = 0 then none else some (s.listen.slot ⟨slot, h⟩)
      else none
  | _ => none

/-- The handle that the pump asks is one of the table. -/
theorem SockTask.held_of_asks {listener : UInt16} (h : s.asks = some listener) :
    listener ∈ s.listen.held := by
  unfold SockTask.asks at h
  split at h
  · split_ifs at h with hslot hfree
    obtain rfl := Option.some.inj h
    exact ⟨hfree, _, rfl⟩
  · cases h

/-- Where it asks none, the pump does not look at an answer; where it asks one, an answer with a
descriptor is a connection on it. -/
theorem acceptStep_asks {slot : Nat} (hpc : s.pc = .look slot) :
    (s.asks = none → ∀ p, (acceptStep s slot p).2 = .tau) ∧
      ∀ listener, s.asks = some listener → ∀ p, 0 ≤ p.fd →
        (acceptStep s slot p).2 = .accepted listener p := by
  unfold SockTask.asks acceptStep
  simp only [hpc]
  split_ifs with hslot hfree
  · exact ⟨fun _ _ => rfl, nofun⟩
  · refine ⟨nofun, fun listener h p hp => ?_⟩
    rw [if_neg (Int.not_lt.mpr hp), Option.some.inj h]
  · exact ⟨fun _ _ => rfl, nofun⟩

/-- In every run the pump calls `lwip_accept`, whatever this returns, only on open descriptors on
which `lwip_listen` has succeeded since they were handed out, and that nobody has tried to close
since. -/
theorem pump_accepts_on_listening {listener : UInt16} (hr : SockRun E tr s)
    (h : s.asks = some listener) :
    s.isOpen (sockFd listener) = true ∧ FdListens (sockFd listener) tr := by
  obtain ⟨hopen, hl, -⟩ := ListenInv.of_run hr listener (SockTask.held_of_asks h)
  exact ⟨hopen, hl⟩

theorem pump_accepts_on_listening_traffic : ∃ tr s, SockRun Env.reference tr s ∧
    s.asks = some 4 ∧ s.isOpen 3 = true ∧ FdListens 3 tr := by
  have hexec : ((sockServer Env.reference).execIf (SockContract Env.reference) .boot
      (serverTraffic.take 3)).map (fun x => x.1.asks) = some (some 4) := by
    decide +kernel
  obtain ⟨⟨s, tr⟩, hs, hasks⟩ := Option.map_eq_some_iff.mp hexec
  have hr : SockRun Env.reference tr s := Machine.runIf_of_execIf hs
  obtain ⟨hopen, hl⟩ := pump_accepts_on_listening hr hasks
  exact ⟨tr, s, hr, hasks, hopen, hl⟩

/-! ## Connections are announced -/

/-- A connection as the host is told of it. -/
structure SockConn where
  listener : UInt16
  handle : UInt16
  port : UInt16
  addr : List UInt8
  deriving DecidableEq

/-- Read an event that announces a connection. -/
def SockConn.ofEvent (E : Env η) (e : EventSlot) : Option SockConn :=
  if e.evtOpcode = E.hdr.evtSockAccepted then
    some { listener := wordAt e.payload 0, handle := wordAt e.payload 2, port := wordAt e.payload 4
           addr := (e.payload.drop 8).take 4 }
  else none

/-- The connection that the pump got on a listener. -/
def SockPeer.conn (listener : UInt16) (p : SockPeer) : SockConn where
  listener := listener
  handle := sockHandle p.fd
  port := p.port
  addr := fixBytes 4 p.addr

/-- The announcement fits a slot of the ring, and is read back. -/
theorem ofEvent_acceptedEvent (listener : UInt16) (p : SockPeer) :
    SockConn.ofEvent E (acceptedEvent E listener p) = some (p.conn listener) := by
  have hlen : (acceptEvent E listener (sockHandle p.fd) p.port p.addr).length = 12 := by
    simp [acceptEvent, le16]
  have htake : (acceptedEvent E listener p).payload =
      acceptEvent E listener (sockHandle p.fd) p.port p.addr :=
    List.take_of_length_le (by rw [hlen]; decide)
  have hlistener := wordAt_append_le16 [] (le16 (sockHandle p.fd) ++ le16 p.port ++
    [E.hdr.sockFamilyIpv4, 0] ++ fixBytes 4 p.addr) listener
  have hhandle := wordAt_append_le16 (le16 listener) (le16 p.port ++
    [E.hdr.sockFamilyIpv4, 0] ++ fixBytes 4 p.addr) (sockHandle p.fd)
  have hport := wordAt_append_le16 (le16 listener ++ le16 (sockHandle p.fd))
    ([E.hdr.sockFamilyIpv4, 0] ++ fixBytes 4 p.addr) p.port
  have haddr : ((acceptEvent E listener (sockHandle p.fd) p.port p.addr).drop 8).take 4 =
      fixBytes 4 p.addr := by
    have hpre : (le16 listener ++ le16 (sockHandle p.fd) ++ le16 p.port ++
        [E.hdr.sockFamilyIpv4, 0]).length = 8 := by simp [le16]
    rw [acceptEvent, ← hpre, List.drop_left]
    exact List.take_of_length_le (by simp)
  have hop : (acceptedEvent E listener p).evtOpcode = E.hdr.evtSockAccepted := rfl
  simp only [List.append_assoc, List.nil_append, List.length_nil] at hlistener hhandle hport
  rw [SockConn.ofEvent, if_pos hop, htake, haddr]
  simp only [acceptEvent, List.append_assoc, SockPeer.conn, Option.some.injEq, SockConn.mk.injEq]
  exact ⟨hlistener, hhandle, hport, trivial⟩

/-- What an event shows of the ring. -/
def SockEv.ringEv : SockEv → Option EventEv
  | .announced _ _ e => some (.pushed e true)
  | .dropped _ _ e _ => e.map (.pushed · false)
  | .ring e => some e
  | _ => none

/-- What happened to the ring. -/
def ringEvents (tr : List SockEv) : List EventEv := tr.filterMap SockEv.ringEv

/-- The announcement an event makes. -/
def SockEv.conn : SockEv → Option SockConn
  | .announced listener p _ => some (p.conn listener)
  | _ => none

/-- The connection that an event announces or gives up. -/
def SockEv.settled : SockEv → Option (UInt16 × SockPeer)
  | .announced listener p _ => some (listener, p)
  | .dropped listener p _ _ => some (listener, p)
  | _ => none

/-- The connection in the pump's hands. -/
def SockTask.hand (s : SockTask) : List (UInt16 × SockPeer) :=
  match s.pc with
  | .accepted _ listener p => [(listener, p)]
  | _ => []

theorem filterMap_snoc {α β : Type} (f : α → Option β) (as : List α) (a : α) :
    (as ++ [a]).filterMap f = as.filterMap f ++ (f a).toList := by
  cases h : f a <;> simp [h]

theorem ringEvents_snoc : ringEvents (tr ++ [e]) = ringEvents tr ++ e.ringEv.toList :=
  filterMap_snoc ..

/-- What a step does to the ring is a step of the ring. -/
theorem SockTrans.ringStep (ht : SockTrans E s s' e) :
    (e.ringEv = none ∧ s'.events = s.events) ∨
      ∃ a ev, e.ringEv = some ev ∧ eventStep s.events a = some (s'.events, ev) := by
  cases ht with
  | @announced slot listener p ring hpc hlt hpush =>
      refine .inr ⟨.push E.hdr.evtSockAccepted
        (acceptEvent E listener (sockHandle p.fd) p.port p.addr), _, rfl, ?_⟩
      simp only [eventStep, hpush]
      rfl
  | @dropped slot listener p ev rc ring hpc hwhy =>
      rcases hwhy with ⟨rfl, -, rfl⟩ | ⟨rfl, -, hpush⟩
      · exact .inl ⟨rfl, rfl⟩
      · refine .inr ⟨.push E.hdr.evtSockAccepted
          (acceptEvent E listener (sockHandle p.fd) p.port p.addr), _, rfl, ?_⟩
        simp only [eventStep, hpush]
        rfl
  | ring hev hop => exact .inr ⟨_, _, rfl, hev⟩
  | refused | opened | beyond | listened | closed | received | moved | accepted =>
      exact .inl ⟨rfl, rfl⟩

/-- What happens to the ring in a run is a run of the ring. -/
theorem SockRun.events (hr : SockRun E tr s) : eventSystem.Run .init (ringEvents tr) s.events := by
  refine hr.invariant (P := fun tr s => eventSystem.Run .init (ringEvents tr) s.events) .nil ?_
  intro tr s s' e ih ht
  rw [ringEvents_snoc]
  rcases ht.ringStep with ⟨hnone, hev⟩ | ⟨a, ev, hsome, hstep⟩
  · rw [hnone, hev]
    simpa using ih
  · rw [hsome]
    exact Machine.Run.snoc ih hstep

/-- Only a push makes the ring accept an event. -/
theorem eventStep_accepted {t t' : EventSys} {a : EventAct} {ev : EventEv}
    (h : eventStep t a = some (t', ev)) :
    ev.accepted = none ∨
      ∃ evtOpcode payload, a = .push evtOpcode payload ∧
        ev.accepted = some (eventOf evtOpcode payload) := by
  cases a with
  | push evtOpcode payload =>
      obtain ⟨-, rfl⟩ := by simpa [eventStep] using h
      cases hacc : (eventRingPush t.ring evtOpcode payload).1 with
      | true => exact .inr ⟨evtOpcode, payload, rfl, rfl⟩
      | false => exact .inl rfl
  | drain cap =>
      cases hd : t.drain with
      | none =>
          obtain ⟨-, rfl⟩ := by simpa [eventStep, hd] using h
          exact .inl rfl
      | some d => simp [eventStep, hd] at h
  | turn =>
      cases hd : t.drain with
      | none => simp [eventStep, hd] at h
      | some d =>
          obtain ⟨cap, out⟩ := d
          cases hturn : eventRingDrainTurn t.ring cap out with
          | none =>
              obtain ⟨-, rfl⟩ := by simpa [eventStep, hd, hturn] using h
              exact .inl rfl
          | some q =>
              obtain ⟨-, rfl⟩ := by simpa [eventStep, hd, hturn] using h
              exact .inl rfl

/-- The announcements among what the ring accepted are those that were made. -/
theorem SockRun.announced (hr : SockRun E tr s) :
    (acceptedEvents (ringEvents tr)).filterMap (SockConn.ofEvent E) = tr.filterMap SockEv.conn := by
  refine hr.invariant (P := fun tr _ => (acceptedEvents (ringEvents tr)).filterMap
    (SockConn.ofEvent E) = tr.filterMap SockEv.conn) rfl ?_
  intro tr s s' e ih ht
  have hsame :
      (acceptedEvents (e.ringEv.toList)).filterMap (SockConn.ofEvent E) = e.conn.toList := by
    cases ht with
    | @announced slot listener p ring hpc hlt hpush =>
        change [acceptedEvent E listener p].filterMap (SockConn.ofEvent E) = _
        rw [List.filterMap_cons, ofEvent_acceptedEvent]
        rfl
    | @dropped slot listener p ev rc ring hpc hwhy => cases ev <;> rfl
    | @ring a events ev hev hop =>
        have hconn : (EventEv.accepted ev).bind (SockConn.ofEvent E) = none := by
          rcases eventStep_accepted hev with hnone | ⟨evtOpcode, payload, rfl, hsome⟩
          · rw [hnone]
            rfl
          · rw [hsome]
            exact if_neg (hop evtOpcode payload rfl)
        cases hacc : ev.accepted with
        | none => simp [SockEv.ringEv, SockEv.conn, acceptedEvents, hacc]
        | some slot =>
            rw [hacc] at hconn
            simpa [SockEv.ringEv, SockEv.conn, acceptedEvents, hacc] using hconn
    | refused | opened | beyond | listened | closed | received | moved | accepted => rfl
  rw [ringEvents_snoc, acceptedEvents, List.filterMap_append, List.filterMap_append,
    filterMap_snoc, ← hsame, ← ih]
  rfl

/-- The connections that the pump got are those it has settled, in order, and the one in hand. -/
theorem SockRun.settled (hr : SockRun E tr s) :
    tr.filterMap SockEv.took = tr.filterMap SockEv.settled ++ s.hand := by
  refine hr.invariant (P := fun tr s => tr.filterMap SockEv.took =
    tr.filterMap SockEv.settled ++ s.hand) rfl ?_
  intro tr s s' e ih ht
  rw [filterMap_snoc, filterMap_snoc, ih, List.append_assoc, List.append_assoc]
  congr 1
  have hfree : ∀ {t : SockTask}, (∀ slot listener p, t.pc ≠ .accepted slot listener p) →
      t.hand = [] := by
    intro t hno
    unfold SockTask.hand
    cases hpc : t.pc with
    | accepted slot listener p => exact absurd hpc (hno slot listener p)
    | idle | look => rfl
  cases ht with
  | moved hpc hpc' =>
      rw [hfree hpc, hfree (t := { s with pc := _ }) hpc']
      rfl
  | @accepted slot listener p hpc hheld h0 hclosed =>
      rw [hfree (by simp [hpc])]
      rfl
  | announced hpc hlt hpush =>
      rw [SockTask.hand, hpc]
      rfl
  | dropped hpc hwhy =>
      rw [SockTask.hand, hpc]
      rfl
  | refused | opened | beyond | listened | closed | received | ring =>
      exact List.append_nil _

/-- What becomes of the connections. -/
structure ConnectionsDelivered (E : Env η) (tr : List SockEv) (s : SockTask) : Prop where
  /-- Each one that the pump got it has announced or given up, in order, but the one at hand. -/
  settled : tr.filterMap SockEv.took = tr.filterMap SockEv.settled ++ s.hand
  /-- It gives one up only if no handle can say it, or sixteen events wait. -/
  dropped : ∀ a s' listener p e rc, SockContract E s a →
    sockStep E s a = some (s', .dropped listener p e rc) →
      0xFFFF ≤ p.fd ∨ s.events.ring.queued.length = eventRingSlots
  /-- The host reads the announcements in order, up to those that drain or ring still have. -/
  host : ∃ (done : List (List EventSlot)) (now : List EventSlot),
    (drainOutputs (ringEvents tr)).map decodeEvents = done.map some ∧
    decodeEvents s.events.draining = some now ∧
    (done.flatten ++ now ++ s.events.ring.queued).filterMap (SockConn.ofEvent E) =
      tr.filterMap SockEv.conn

/-- In every run, whatever the other producers and the dispatcher do meanwhile, each connection is
announced to the host once, with its listener, handle and peer, or given up for a reason. -/
theorem connections_announced_once (hr : SockRun E tr s) : ConnectionsDelivered E tr s := by
  obtain ⟨done, now, hinv⟩ := EventInv.of_run hr.events
  have hmem : ∀ e, e ∈ done.flatten ++ now → e.payload.length ≤ eventPayloadMax := by
    intro e he
    refine hinv.payload e ?_
    rw [hinv.accepted]
    exact List.mem_append_left _ he
  refine ⟨hr.settled, ?_, done, now, ?_, ?_, ?_⟩
  · intro a s' listener p e rc hg hstep
    cases sockStep_trans hg hstep with
    | dropped hpc hwhy =>
        rcases hwhy with ⟨-, hbig, -⟩ | ⟨-, -, hpush⟩
        · exact .inl hbig
        · exact .inr ((eventRingPush_fst hinv.ring).mp (congrArg Prod.fst hpush))
  · rw [hinv.outputs, List.map_map]
    refine List.map_congr_left fun es hes => decodeEvents_entries fun e he => hmem e ?_
    exact List.mem_append_left _ (List.mem_flatten_of_mem hes he)
  · rw [hinv.draining]
    exact decodeEvents_entries fun e he => hmem e (List.mem_append_right _ he)
  · rw [← hinv.accepted]
    exact hr.announced

theorem connections_announced_once_traffic : ∃ tr s, SockRun Env.reference tr s ∧
    ConnectionsDelivered Env.reference tr s ∧
    tr.filterMap SockEv.conn =
      [{ listener := 4, handle := 6, port := 0x1234, addr := [192, 168, 1, 7] }] ∧
    drainOutputs (ringEvents tr) = [[0x10, 1, 1],
      [0x2C, 12, 4, 0, 6, 0, 0x34, 0x12, 0, 0, 192, 168, 1, 7]] := by
  have hexec : ((sockServer Env.reference).execIf (SockContract Env.reference) .boot
      serverTraffic).map (fun x => (x.2.filterMap SockEv.conn, drainOutputs (ringEvents x.2))) =
      some ([{ listener := 4, handle := 6, port := 0x1234, addr := [192, 168, 1, 7] }],
        [[0x10, 1, 1], [0x2C, 12, 4, 0, 6, 0, 0x34, 0x12, 0, 0, 192, 168, 1, 7]]) := by
    decide +kernel
  obtain ⟨⟨s, tr⟩, hs, hout⟩ := Option.map_eq_some_iff.mp hexec
  have hr : SockRun Env.reference tr s := Machine.runIf_of_execIf hs
  simp only [Prod.mk.injEq] at hout
  exact ⟨tr, s, hr, connections_announced_once hr, hout⟩

end Cc3501eBridge
