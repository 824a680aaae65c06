import Cc3501eBridge.SockAccounts

/-!
# The end of a stream, and what the system assumes of the sockets

Once `lwip_recvfrom` has returned no bytes on a stream socket, a second call would fail; so
`cc3501e_hw_sock_recv` remembers the end of the stream, and answers every later receive on the
descriptor with no bytes, until a close of the socket is attempted (`stream_end_sticky`): the bit of
a descriptor goes down with every attempt, also one that lwIP refuses, and it is down whenever lwIP
hands the descriptor out.

The machine `system` leaves the bodies of the socket commands to its environment, within what
`lwipAllows` and `HalRet.fits` say.  The bodies modelled here keep within that, from any state that
a run reaches (`sock_body_simulated`, `pump_simulated`).
-/

namespace Cc3501eBridge

open Trace

variable {η : Type} {E : Env η} {s s' : SockTask} {e : SockEv} {tr : List SockEv} {fd : Int}

/-! ## The bits -/

/-- What an event says of the end of the stream of `fd`; every attempt to close it counts, whatever
lwIP answers. -/
def SockEv.eofMark (fd : Int) : SockEv → Option Bool
  | .received handle _ (some (.data [] _)) true _ => if sockFd handle = fd then some true else none
  | .closed handle _ _ => if handle ≠ 0 ∧ sockFd handle = fd then some false else none
  | _ => none

/-- lwIP has reported the end of the stream, and no close of the socket was attempted since. -/
def FdEnded (fd : Int) (tr : List SockEv) : Prop := latest (SockEv.eofMark fd) tr = some true

theorem fdEnded_snoc_none (h : e.eofMark fd = none) : FdEnded fd (tr ++ [e]) ↔ FdEnded fd tr := by
  simp [FdEnded, h]

theorem fdEnded_snoc_some {b : Bool} (h : e.eofMark fd = some b) :
    FdEnded fd (tr ++ [e]) ↔ b = true := by
  simp [FdEnded, h]

section

variable {table : EofTable} {fd' : Int} {value : Bool}

theorem sockWorkerRecvEofSet_self (h : HasEofBit fd) :
    sockWorkerRecvEofSet table fd value fd = value := by
  rw [sockWorkerRecvEofSet, if_pos h, Function.update_self]

theorem sockWorkerRecvEofSet_of_ne (h : fd' ≠ fd) :
    sockWorkerRecvEofSet table fd value fd' = table fd' := by
  unfold sockWorkerRecvEofSet
  split_ifs
  · exact Function.update_of_ne h ..
  · rfl

theorem sockWorkerRecvEofSet_out (h : ¬ HasEofBit fd) :
    sockWorkerRecvEofSet table fd value = table :=
  if_neg h

end

/-- lwIP is asked, and reports the end of the stream. -/
def RecvEnds (eof : EofTable) (handle maxLen cap : UInt16) (answer : RecvFrom) (isStream : Bool) :
    Prop :=
  RecvCalls eof handle maxLen cap ∧ isStream = true ∧ ∃ sender, answer = .data [] sender

section

variable {eof : EofTable} {handle maxLen cap : UInt16} {answer : RecvFrom} {isStream : Bool}

/-- What `cc3501e_hw_sock_recv` answers and does to the bits without asking lwIP. -/
theorem hwSockRecv_of_not_calls (h : ¬ RecvCalls eof handle maxLen cap) (h0 : handle ≠ 0) :
    hwSockRecv eof handle maxLen cap answer isStream = ({ rv := hwOk }, eof) := by
  unfold hwSockRecv
  rw [if_neg h0]
  by_cases hbit : sockWorkerRecvEofCheck eof (sockFd handle) = true
  · simp only [if_pos hbit]
  · have hwant : recvWant maxLen cap = 0 := by
      by_contra hne
      exact h ⟨h0, by simpa using hbit, hne⟩
    simp only [if_neg hbit, if_pos hwant]

/-- And what it does with lwIP's answer. -/
theorem hwSockRecv_of_calls (h : RecvCalls eof handle maxLen cap) :
    hwSockRecv eof handle maxLen cap answer isStream =
      match answer with
      | .wouldBlock => ({ rv := hwOk }, eof)
      | .error => ({ rv := hwErrIo }, eof)
      | .data bytes sender =>
          ({ rv := hwOk, data := bytes, fromAddr := (sender.map Prod.fst).getD []
             fromPort := (sender.map Prod.snd).getD 0 },
            if bytes = [] ∧ isStream = true then sockWorkerRecvEofSet eof (sockFd handle) true
            else eof) := by
  obtain ⟨h0, hbit, hwant⟩ := h
  have hpos : 0 < recvWant maxLen cap := UInt16.pos_iff_ne_zero.mpr hwant
  unfold hwSockRecv
  simp only [if_neg h0, hbit, Bool.false_eq_true, if_false, if_neg hwant]
  cases answer with
  | data bytes sender => simp [sockWorkerRecvEofShouldLatch, hpos]
  | wouldBlock | error => rfl

/-- The end of the stream sets the bit. -/
theorem hwSockRecv_ends (h : RecvEnds eof handle maxLen cap answer isStream) :
    (hwSockRecv eof handle maxLen cap answer isStream).2 =
      sockWorkerRecvEofSet eof (sockFd handle) true := by
  obtain ⟨hcalls, hstream, sender, rfl⟩ := h
  rw [hwSockRecv_of_calls hcalls]
  simp [hstream]

/-- Nothing else moves the bits. -/
theorem hwSockRecv_not_ends (h : ¬ RecvEnds eof handle maxLen cap answer isStream) :
    (hwSockRecv eof handle maxLen cap answer isStream).2 = eof := by
  by_cases h0 : handle = 0
  · unfold hwSockRecv
    rw [if_pos h0]
  by_cases hcalls : RecvCalls eof handle maxLen cap
  · rw [hwSockRecv_of_calls hcalls]
    cases answer with
    | data bytes sender =>
        refine if_neg ?_
        rintro ⟨rfl, hstream⟩
        exact h ⟨hcalls, hstream, sender, rfl⟩
    | wouldBlock | error => rfl
  · rw [hwSockRecv_of_not_calls hcalls h0]

end

/-- The bit of a descriptor is the end of its stream, and it is up only while the socket is open and
the host's. -/
structure EofInv (tr : List SockEv) (s : SockTask) : Prop where
  bit : ∀ fd, s.eof fd = true ↔ HasEofBit fd ∧ FdEnded fd tr
  isOpen : ∀ fd, s.eof fd = true → s.isOpen fd = true ∧ ¬ s.InHand fd

namespace EofInv

theorem start : EofInv [] .boot where
  bit fd := by simp [SockTask.boot, FdEnded]
  isOpen fd h := by simp [SockTask.boot] at h

/-- A step that leaves the bits alone. -/
theorem keep (h : EofInv tr s) (hm : ∀ fd, e.eofMark fd = none) (heof : s'.eof = s.eof)
    (ho : ∀ fd, s.isOpen fd = true ∧ ¬ s.InHand fd → s'.isOpen fd = true ∧ ¬ s'.InHand fd) :
    EofInv (tr ++ [e]) s' where
  bit fd := by rw [heof, fdEnded_snoc_none (hm fd), h.bit fd]
  isOpen fd hbit := ho fd (h.isOpen fd (heof ▸ hbit))

/-- A close takes the bit down. -/
theorem closed {handle : UInt16} {w : Lwip} {rv : Int} {rc : Int32} (h : EofInv tr s)
    (h0 : handle ≠ 0) (hpc : s.pc = .idle) :
    EofInv (tr ++ [.closed handle rc rv])
      { s with
        listen := s.listen.erase handle
        eof := eofAfterClose s.eof handle
        isOpen := if handle = 0 then s.isOpen else
          lwipClosed s.isOpen (sockFd handle) (w.close (sockFd handle)) } := by
  have heof : eofAfterClose s.eof handle = sockWorkerRecvEofSet s.eof (sockFd handle) false :=
    if_neg h0
  constructor
  · intro fd
    simp only [heof]
    by_cases hfd : sockFd handle = fd
    · subst hfd
      have hmark : (SockEv.closed handle rc rv).eofMark (sockFd handle) = some false := by
        simp [SockEv.eofMark, h0]
      rw [fdEnded_snoc_some hmark]
      by_cases hbit : HasEofBit (sockFd handle)
      · simp [sockWorkerRecvEofSet_self hbit]
      · rw [sockWorkerRecvEofSet_out hbit, h.bit]
        simp [hbit]
    · have hmark : (SockEv.closed handle rc rv).eofMark fd = none := by simp [SockEv.eofMark, hfd]
      rw [fdEnded_snoc_none hmark, sockWorkerRecvEofSet_of_ne (Ne.symm hfd), h.bit]
  · intro fd
    simp only [heof, if_neg h0]
    intro hbit
    have hne : fd ≠ sockFd handle := by
      rintro rfl
      by_cases hhas : HasEofBit (sockFd handle)
      · simp [sockWorkerRecvEofSet_self hhas] at hbit
      · rw [sockWorkerRecvEofSet_out hhas] at hbit
        exact hhas ((h.bit _).mp hbit).1
    rw [sockWorkerRecvEofSet_of_ne hne] at hbit
    exact ⟨by simpa [lwipClosed_apply, hne] using (h.isOpen fd hbit).1, not_inHand_idle hpc⟩

/-- The end of the stream puts it up. -/
theorem ended {handle maxLen cap : UInt16} {answer : RecvFrom} {isStream : Bool} (h : EofInv tr s)
    (hends : RecvEnds s.eof handle maxLen cap answer isStream) (hpc : s.pc = .idle)
    (hans : answer.Allowed (s.isOpen (sockFd handle)) (recvWant maxLen cap)) :
    EofInv
      (tr ++ [.received handle (recvWant maxLen cap)
        (if RecvCalls s.eof handle maxLen cap then some answer else none) isStream
        (hwSockRecv s.eof handle maxLen cap answer isStream).1])
      { s with eof := (hwSockRecv s.eof handle maxLen cap answer isStream).2 } := by
  rw [hwSockRecv_ends hends, if_pos hends.1]
  obtain ⟨hcalls, rfl, sender, rfl⟩ := hends
  constructor
  · intro fd
    by_cases hfd : sockFd handle = fd
    · subst hfd
      rw [fdEnded_snoc_some (b := true) (by simp [SockEv.eofMark])]
      by_cases hbit : HasEofBit (sockFd handle)
      · simp [sockWorkerRecvEofSet_self hbit, hbit]
      · simp only [sockWorkerRecvEofSet_out hbit, h.bit, hbit, false_and]
    · rw [fdEnded_snoc_none (by simp [SockEv.eofMark, hfd])]
      simp only [sockWorkerRecvEofSet_of_ne (Ne.symm hfd), h.bit]
  · intro fd hbit
    refine ⟨?_, not_inHand_idle hpc⟩
    by_cases hfd : fd = sockFd handle
    · rw [hfd]
      exact hans.1
    · simp only [sockWorkerRecvEofSet_of_ne hfd] at hbit
      exact (h.isOpen fd hbit).1

theorem step (h : EofInv tr s) (ht : SockTrans E s s' e) : EofInv (tr ++ [e]) s' := by
  cases ht with
  | @opened fd' rc hpc h0 hlt hclosed =>
      refine h.keep (fun _ => rfl) rfl fun fd hfd => ⟨?_, hfd.2⟩
      simp only [lwipObtained_apply]
      split_ifs
      · rfl
      · exact hfd.1
  | @beyond fd' rc r hpc hbig hclosed hrv =>
      refine h.keep (fun _ => rfl) rfl fun fd hfd => ⟨?_, hfd.2⟩
      have hne : fd ≠ fd' := fun heq => by simp [heq, hclosed] at hfd
      simpa [lwipClosed_apply, lwipObtained_apply, hne] using hfd.1
  | closed handle w hpc =>
      by_cases h0 : handle = 0
      · refine h.keep (fun fd => ?_) ?_ fun fd hfd => ?_
        · rw [SockEv.eofMark, if_neg (by simp [h0])]
        · simp [eofAfterClose, h0]
        · exact ⟨by simpa [h0] using hfd.1, not_inHand_idle hpc⟩
      · exact h.closed h0 hpc
  | received handle maxLen cap answer isStream hpc hans =>
      by_cases hends : RecvEnds s.eof handle maxLen cap answer isStream
      · exact h.ended hends hpc (hans hends.1)
      · refine h.keep (fun fd => ?_) (hwSockRecv_not_ends hends) fun fd hfd => hfd
        by_cases hcalls : RecvCalls s.eof handle maxLen cap
        · rw [if_pos hcalls]
          cases answer with
          | data bytes sender =>
              cases bytes with
              | nil =>
                  cases isStream with
                  | true => exact absurd ⟨hcalls, rfl, sender, rfl⟩ hends
                  | false => rfl
              | cons b bytes => rfl
          | wouldBlock | error => rfl
        · rw [if_neg hcalls]
          rfl
  | @accepted slot listener p hpc hheld h0 hclosed =>
      refine h.keep (fun _ => rfl) rfl fun fd hfd => ?_
      have hne : fd ≠ p.fd := fun heq => by simp [heq, hclosed] at hfd
      refine ⟨by simpa [lwipObtained_apply, hne] using hfd.1, ?_⟩
      rw [inHand_accepted rfl]
      exact Ne.symm hne
  | announced hpc hlt hpush =>
      exact h.keep (fun _ => rfl) rfl fun fd hfd => ⟨hfd.1, not_inHand_look rfl⟩
  | @dropped slot listener p ev rc ring hpc hwhy =>
      refine h.keep (fun _ => rfl) rfl fun fd hfd => ⟨?_, not_inHand_look rfl⟩
      rw [inHand_accepted hpc] at hfd
      simpa [lwipClosed_apply, Ne.symm hfd.2] using hfd.1
  | moved hpc hpc' => exact h.keep (fun _ => rfl) rfl fun fd hfd => ⟨hfd.1, not_inHand hpc'⟩
  | refused | listened | ring => exact h.keep (fun _ => rfl) rfl fun fd hfd => hfd

end EofInv

theorem EofInv.of_run (hr : SockRun E tr s) : EofInv tr s :=
  hr.invariant EofInv.start fun _ _ _ _ h ht => h.step ht

theorem sockFd_eq_iff (h0 : 0 ≤ fd) (hlt : fd < 0xFFFF) {handle : UInt16} :
    sockFd handle = fd ↔ handle = sockHandle fd := by
  constructor
  · intro h
    exact sockFd_injective (h.trans (sockFd_sockHandle h0 hlt).symm)
  · rintro rfl
    exact sockFd_sockHandle h0 hlt

theorem sockFd_lt (handle : UInt16) : sockFd handle < 0xFFFF := by
  have hlt : handle.toNat < 2 ^ 16 := handle.toNat_lt
  unfold sockFd
  omega

/-- Which handles are open, as the system sees it. -/
def handlesOf (isOpen : Int → Bool) (handle : UInt16) : Bool := handle ≠ 0 && isOpen (sockFd handle)

theorem handlesOf_update (isOpen : Int → Bool) (h0 : 0 ≤ fd) (hlt : fd < 0xFFFF) (b : Bool) :
    handlesOf (Function.update isOpen fd b) =
      Function.update (handlesOf isOpen) (sockHandle fd) b := by
  funext handle
  simp only [handlesOf, Function.update_apply, sockFd_eq_iff h0 hlt]
  by_cases hh : handle = sockHandle fd
  · simp [hh, sockHandle_ne_zero h0 hlt]
  · simp [hh]

/-- What is beyond the handles the system does not see. -/
theorem handlesOf_update_beyond (isOpen : Int → Bool) (hbig : 0xFFFF ≤ fd) (b : Bool) :
    handlesOf (Function.update isOpen fd b) = handlesOf isOpen := by
  funext handle
  have hne : sockFd handle ≠ fd := by
    have := sockFd_lt handle
    omega
  simp [handlesOf, hne]

/-- The call of the worker that an action is, and what its body returns. -/
def SockAct.body (E : Env η) (s : SockTask) : SockAct → Option (HalCall × HalRet)
  | .sockOpen family type protocol fd _ =>
      some (.sockOpen family type protocol, hwSockOpen E family fd)
  | .sockListen handle backlog w =>
      some (.sockListen handle backlog, { rv := (hwSockListen w s.listen handle backlog).1 })
  | .sockClose handle w => some (.sockClose handle, { rv := (hwSockClose w s.listen handle).1 })
  | .sockRecv handle maxLen cap answer isStream =>
      some (.sockRecv handle maxLen cap.toNat,
        (hwSockRecv s.eof handle maxLen cap answer isStream).1)
  | _ => none

section

variable {a : SockAct} {call : HalCall} {r : HalRet}

theorem idle_of_body (hs : sockStep E s a = some (s', e)) (hb : a.body E s = some (call, r)) :
    s.pc = .idle := by
  cases hpc : s.pc with
  | idle => rfl
  | look | accepted =>
      cases a with
      | sockOpen | sockListen | sockClose | sockRecv => simp [sockStep, hpc] at hs
      | acceptPump | accept | announce | ring => simp [SockAct.body] at hb

/-- A call that fails moves nothing. -/
theorem lwip_of_failed {isOpen : UInt16 → Bool} (h : r.rv ≠ hwOk) :
    lwipAllows isOpen r call = true ∧ isOpen = lwipAfter isOpen r call := by
  cases call <;> simp [lwipAllows, lwipAfter, h]

/-- `SOCK_OPEN`. -/
theorem sockOpen_allowed {family type protocol : UInt8} {fd : Int} {rc : Int32}
    (hg : 0 ≤ fd → s.isOpen fd = false) :
    lwipAllows (handlesOf s.isOpen) (hwSockOpen E family fd)
        (.sockOpen family type protocol) = true ∧
      handlesOf (sockOpenStep E s family fd rc).1.isOpen =
        lwipAfter (handlesOf s.isOpen) (hwSockOpen E family fd)
          (.sockOpen family type protocol) := by
  unfold sockOpenStep hwSockOpen
  by_cases hfam : family ≠ E.hdr.sockFamilyIpv4
  · simp only [if_pos hfam]
    exact lwip_of_failed (by decide : hwErrInval ≠ hwOk)
  simp only [if_neg hfam]
  by_cases hneg : fd < 0
  · simp only [if_pos hneg]
    exact lwip_of_failed (by decide : hwErrNotimpl ≠ hwOk)
  simp only [if_neg hneg]
  have h0 : 0 ≤ fd := Int.not_lt.mp hneg
  by_cases hbig : 0xFFFF ≤ fd
  · simp only [if_pos hbig]
    refine ⟨(lwip_of_failed (by decide : hwErrIo ≠ hwOk)).1,
      Eq.trans ?_ (lwip_of_failed (by decide : hwErrIo ≠ hwOk)).2⟩
    rw [lwipClosed, lwipObtained]
    split_ifs
    · rw [handlesOf_update_beyond _ hbig, handlesOf_update_beyond _ hbig]
    · rw [handlesOf_update_beyond _ hbig]
  · simp only [if_neg hbig]
    have hlt : fd < 0xFFFF := Int.not_le.mp hbig
    constructor
    · simp [lwipAllows, handlesOf, sockHandle_ne_zero h0 hlt, sockFd_sockHandle h0 hlt, hg h0]
    · simp only [lwipAfter, if_true]
      exact handlesOf_update _ h0 hlt true

/-- `SOCK_CLOSE`. -/
theorem sockClose_allowed {handle : UInt16} {w : Lwip}
    (hg : w.close (sockFd handle) = 0 → s.isOpen (sockFd handle) = true) :
    lwipAllows (handlesOf s.isOpen) { rv := (hwSockClose w s.listen handle).1 }
        (.sockClose handle) = true ∧
      handlesOf (if handle = 0 then s.isOpen else
          lwipClosed s.isOpen (sockFd handle) (w.close (sockFd handle))) =
        lwipAfter (handlesOf s.isOpen) { rv := (hwSockClose w s.listen handle).1 }
          (.sockClose handle) := by
  unfold hwSockClose
  by_cases h0 : handle = 0
  · simp only [if_pos h0]
    exact lwip_of_failed (by decide : hwErrInval ≠ hwOk)
  simp only [if_neg h0]
  by_cases hrc : w.close (sockFd handle) = 0
  · have hfd := sockFd_nonneg h0
    have hback : sockHandle (sockFd handle) = handle :=
      ((sockFd_eq_iff hfd (sockFd_lt handle)).mp rfl).symm
    simp only [hrc, ne_eq, not_true_eq_false, if_false, lwipClosed, if_true]
    refine ⟨by simp [lwipAllows, handlesOf, h0, hg hrc], ?_⟩
    rw [handlesOf_update _ hfd (sockFd_lt handle), hback]
    simp [lwipAfter]
  · simp only [ne_eq, hrc, not_false_eq_true, if_true, lwipClosed, if_false]
    exact lwip_of_failed (by decide : hwErrIo ≠ hwOk)

/-- `SOCK_RECV`. -/
theorem sockRecv_fits {handle maxLen cap : UInt16} {answer : RecvFrom} {isStream : Bool}
    (hg : RecvCalls s.eof handle maxLen cap →
      answer.Allowed (s.isOpen (sockFd handle)) (recvWant maxLen cap)) :
    (hwSockRecv s.eof handle maxLen cap answer isStream).1.data.length ≤ cap.toNat := by
  by_cases h0 : handle = 0
  · unfold hwSockRecv
    rw [if_pos h0]
    exact Nat.zero_le _
  by_cases hcalls : RecvCalls s.eof handle maxLen cap
  · rw [hwSockRecv_of_calls hcalls]
    cases answer with
    | data bytes sender =>
        have hlen : bytes.length ≤ (recvWant maxLen cap).toNat := (hg hcalls).2
        have hwant : (recvWant maxLen cap).toNat ≤ cap.toNat := by
          unfold recvWant
          split_ifs with hlt
          · exact Nat.le_of_lt (UInt16.lt_iff_toNat_lt.mp hlt)
          · exact Nat.le_refl _
        exact Nat.le_trans hlen hwant
    | wouldBlock | error => exact Nat.zero_le _
  · rw [hwSockRecv_of_not_calls hcalls h0]
    exact Nat.zero_le _

/-- A body returns what the system allows, and lwIP's view moves as it says. -/
theorem sockAct_body_allowed (hg : SockContract E s a) (hs : sockStep E s a = some (s', e))
    (hb : a.body E s = some (call, r)) :
    r.fits call = true ∧ lwipAllows (handlesOf s.isOpen) r call = true ∧
      handlesOf s'.isOpen = lwipAfter (handlesOf s.isOpen) r call := by
  have hpc := idle_of_body hs hb
  cases a with
  | sockOpen family type protocol fd rc =>
      obtain ⟨rfl, rfl⟩ :
          HalCall.sockOpen family type protocol = call ∧ hwSockOpen E family fd = r := by
        simpa [SockAct.body] using hb
      simp only [sockStep, hpc] at hs
      obtain ⟨rfl, -⟩ := Prod.mk.inj (Option.some.inj hs)
      exact ⟨rfl, sockOpen_allowed hg⟩
  | sockListen handle backlog w =>
      obtain ⟨rfl, rfl⟩ := by simpa [SockAct.body] using hb
      simp only [sockStep, hpc, Option.some.injEq, Prod.mk.injEq] at hs
      obtain ⟨rfl, -⟩ := hs
      exact ⟨rfl, rfl, rfl⟩
  | sockClose handle w =>
      obtain ⟨rfl, rfl⟩ := by simpa [SockAct.body] using hb
      simp only [sockStep, hpc, Option.some.injEq, Prod.mk.injEq] at hs
      obtain ⟨rfl, -⟩ := hs
      exact ⟨rfl, sockClose_allowed hg⟩
  | sockRecv handle maxLen cap answer isStream =>
      obtain ⟨rfl, rfl⟩ := by simpa [SockAct.body] using hb
      simp only [sockStep, hpc, Option.some.injEq, Prod.mk.injEq] at hs
      obtain ⟨rfl, -⟩ := hs
      exact ⟨decide_eq_true (sockRecv_fits hg), rfl, rfl⟩
  | acceptPump | accept | announce | ring => simp [SockAct.body] at hb

/-- So the system can take the return for a step of its own, and sees the same of lwIP after it. -/
theorem sock_body_simulated {x : Sys η} {cmd : Cmd} (hg : SockContract E s a)
    (hs : sockStep E s a = some (s', e)) (hb : a.body E s = some (call, r))
    (hpc : x.pc = .hal cmd call) (hpend : x.pending = []) (hx : x.isOpen = handlesOf s.isOpen) :
    ∃ x', (system E).step x (.ret r) = some (x', .ret x.job.ticket call r) ∧
      x'.isOpen = handlesOf s'.isOpen := by
  obtain ⟨hfits, hallows, hafter⟩ := sockAct_body_allowed hg hs hb
  let out := E.execOut cmd x.job.req r
  refine ⟨{ fw := x.fw
            pc := if cmd = .sockRecv then .invalidate out else .copyResult cmd out 0
            pending := prefetchOnReturn x.fw.rx r call
            isOpen := lwipAfter x.isOpen r call }, ?_, by rw [hx, hafter]⟩
  change retStep E x r = _
  simp only [retStep, hpc, hpend, hx, hfits, hallows, and_self, if_true]
  rfl

/-- The first socket is opened while the system waits for the body of `SOCK_OPEN`. -/
theorem sock_body_simulated_open : ∃ x' : Sys Unit,
    (system Env.reference).step
        { Sys.boot () with pc := .hal .sockOpen (.sockOpen 0 0 0) }
        (.ret { rv := hwOk, word := 4 }) =
      some (x', .ret 0 (.sockOpen 0 0 0) { rv := hwOk, word := 4 }) ∧
    x'.isOpen = handlesOf (Function.update (fun _ => false) 3 true) :=
  sock_body_simulated (s := .boot) (a := .sockOpen 0 0 0 3 0) (fun _ => rfl) rfl rfl rfl rfl
    (funext fun handle => by simp [handlesOf, Sys.boot, SockTask.boot])

/-! ## The pump in the system -/

/-- Where the system's task stands, when the pump stands where it does. -/
def SockTask.sysPc (E : Env η) (s : SockTask) : Pc :=
  match s.pc with
  | .accepted _ listener p =>
      if p.fd < 0xFFFF then
        .acceptPush (sockHandle p.fd) (acceptEvent E listener (sockHandle p.fd) p.port p.addr)
      else .loop
  | _ => .loop

/-- A state of the system that sees the sockets as the task has them. -/
structure SockSeen (E : Env η) (x : Sys η) (s : SockTask) : Prop where
  pc : x.pc = s.sysPc E
  pending : x.pending = []
  isOpen : x.isOpen = handlesOf s.isOpen
  events : x.fw.events = s.events.ring

/-- The pump's steps and other producers' pushes, where a descriptor given up gets closed. -/
def PumpContract (E : Env η) (s : SockTask) (a : SockAct) : Prop :=
  SockContract E s a ∧
    match a with
    | .acceptPump | .accept _ | .ring (.push _ _) => True
    | .announce rc => rc = 0
    | _ => False

instance pumpContract_decidable (E : Env η) (s : SockTask) :
    (a : SockAct) → Decidable (PumpContract E s a)
  | .acceptPump | .accept _ | .ring (.push _ _) => inferInstanceAs (Decidable (_ ∧ True))
  | .announce rc => inferInstanceAs (Decidable (_ ∧ rc = 0))
  | .sockOpen _ _ _ _ _ | .sockListen _ _ _ | .sockClose _ _ | .sockRecv _ _ _ _ _
  | .ring (.drain _) | .ring .turn => inferInstanceAs (Decidable (_ ∧ False))

/-- The task moves on without a connection. -/
theorem SockSeen.moved {x : Sys η} {pc : SockPc} (hx : SockSeen E x s)
    (hpc : ∀ slot listener p, s.pc ≠ .accepted slot listener p)
    (hpc' : ∀ slot listener p, pc ≠ .accepted slot listener p) :
    SockSeen E x { s with pc := pc } := by
  have hloop : ∀ {t : SockTask}, (∀ slot listener p, t.pc ≠ .accepted slot listener p) →
      t.sysPc E = .loop := by
    intro t hno
    unfold SockTask.sysPc
    cases ht : t.pc with
    | accepted slot listener p => exact absurd ht (hno slot listener p)
    | idle | look => rfl
  exact ⟨by rw [hx.pc, hloop hpc, hloop hpc'], hx.pending, hx.isOpen, hx.events⟩

/-- A turn of the pump up to `lwip_accept`. -/
theorem accept_simulated {x : Sys η} {slot : Nat} {p : SockPeer} (hpc : s.pc = .look slot)
    (hg : 0 ≤ p.fd → s.isOpen p.fd = false) (hx : SockSeen E x s) :
    SockSeen E x (acceptStep s slot p).1 ∨ ∃ act x' ev, (system E).step x act = some (x', ev) ∧
      SockSeen E x' (acceptStep s slot p).1 := by
  have hlook : ∀ slot listener p, s.pc ≠ .accepted slot listener p := by simp [hpc]
  unfold acceptStep
  by_cases hslot : slot < sockListenMax
  · simp only [dif_pos hslot]
    by_cases hfree : s.listen.slot ⟨slot, hslot⟩ = 0
    · simp only [if_pos hfree]
      exact .inl (hx.moved hlook (by simp))
    simp only [if_neg hfree]
    by_cases hneg : p.fd < 0
    · simp only [if_pos hneg]
      exact .inl (hx.moved hlook (by simp))
    simp only [if_neg hneg]
    have h0 : 0 ≤ p.fd := Int.not_lt.mp hneg
    by_cases hlt : p.fd < 0xFFFF
    · have hloop : x.pc = .loop := by rw [hx.pc, SockTask.sysPc, hpc]
      have hclosed : x.isOpen (sockHandle p.fd) = false := by
        simp [hx.isOpen, handlesOf, sockFd_sockHandle h0 hlt, hg h0]
      let listener := s.listen.slot ⟨slot, hslot⟩
      refine .inr ⟨.accept listener (sockHandle p.fd) p.port p.addr,
        { x with
          pc := .acceptPush (sockHandle p.fd)
            (acceptEvent E listener (sockHandle p.fd) p.port p.addr)
          isOpen := Function.update x.isOpen (sockHandle p.fd) true }, .issued (sockHandle p.fd),
        ?_, ?_, hx.pending, ?_, hx.events⟩
      · change sysStep E x (.accept listener (sockHandle p.fd) p.port p.addr) = _
        simp only [sysStep, hloop]
        exact if_pos ⟨sockHandle_ne_zero h0 hlt, hclosed⟩
      · simp only [SockTask.sysPc, if_pos hlt]
        rfl
      · simp only [lwipObtained, handlesOf_update _ h0 hlt, hx.isOpen]
    · refine .inl ⟨?_, hx.pending, ?_, hx.events⟩
      · simp only [SockTask.sysPc, if_neg hlt]
        rw [hx.pc, SockTask.sysPc, hpc]
      · simp only [lwipObtained, handlesOf_update_beyond _ (Int.not_lt.mp hlt), hx.isOpen]
  · simp only [dif_neg hslot]
    exact .inl (hx.moved hlook (by simp))

/-- The rest of the turn. -/
theorem announce_simulated {x : Sys η} {slot : Nat} {listener : UInt16} {p : SockPeer}
    (hpc : s.pc = .accepted slot listener p) (h0 : 0 ≤ p.fd) (hx : SockSeen E x s) :
    SockSeen E x (announceStep E s slot listener p 0).1 ∨
      ∃ act x' ev, (system E).step x act = some (x', ev) ∧
        SockSeen E x' (announceStep E s slot listener p 0).1 := by
  unfold announceStep
  by_cases hbig : 0xFFFF ≤ p.fd
  · simp only [if_pos hbig]
    refine .inl ⟨?_, hx.pending, ?_, hx.events⟩
    · rw [hx.pc, SockTask.sysPc, hpc]
      exact if_neg (Int.not_lt.mpr hbig)
    · simp only [lwipClosed, if_true, handlesOf_update_beyond _ hbig, hx.isOpen]
  simp only [if_neg hbig]
  have hlt : p.fd < 0xFFFF := Int.not_le.mp hbig
  have hpush : x.pc = .acceptPush (sockHandle p.fd)
      (acceptEvent E listener (sockHandle p.fd) p.port p.addr) := by
    rw [hx.pc, SockTask.sysPc, hpc]
    exact if_pos hlt
  let out := eventRingPush x.fw.events E.hdr.evtSockAccepted
    (acceptEvent E listener (sockHandle p.fd) p.port p.addr)
  have hstep : (system E).step x .task = some ({ x with
      fw := { x.fw with events := out.2 }
      pc := .loop
      isOpen := if out.1 then x.isOpen else Function.update x.isOpen (sockHandle p.fd) false },
      .tau) := by
    change sysStep E x .task = _
    simp only [sysStep, hx.pending, taskStep, hpush]
    rfl
  refine .inr ⟨.task, _, .tau, hstep, ?_⟩
  have hout : out = eventRingPush s.events.ring E.hdr.evtSockAccepted
      (acceptEvent E listener (sockHandle p.fd) p.port p.addr) := by rw [← hx.events]
  rw [← hout]
  cases hpushed : out.1 with
  | true =>
      simp only [if_true]
      exact ⟨rfl, hx.pending, hx.isOpen, rfl⟩
  | false =>
      simp only [Bool.false_eq_true, if_false]
      refine ⟨rfl, hx.pending, ?_, rfl⟩
      simp only [lwipClosed, if_true, handlesOf_update _ h0 hlt, hx.isOpen]

/-- One step of the pump is one of the system, or none. -/
theorem pump_step_simulated {x : Sys η} (hn : ∀ fd, s.InHand fd → 0 ≤ fd)
    (hg : PumpContract E s a) (hs : sockStep E s a = some (s', e)) (hx : SockSeen E x s) :
    SockSeen E x s' ∨ ∃ act x' ev, (system E).step x act = some (x', ev) ∧ SockSeen E x' s' := by
  obtain ⟨hg, hpump⟩ := hg
  cases a with
  | sockOpen | sockListen | sockClose | sockRecv => exact hpump.elim
  | acceptPump =>
      cases hpc : s.pc with
      | idle =>
          simp only [sockStep, hpc, Option.some.injEq, Prod.mk.injEq] at hs
          obtain ⟨rfl, -⟩ := hs
          exact .inl (hx.moved (by simp [hpc]) (by simp))
      | look | accepted => simp [sockStep, hpc] at hs
  | accept p =>
      cases hpc : s.pc with
      | look slot =>
          simp only [sockStep, hpc] at hs
          obtain ⟨rfl, -⟩ := Prod.mk.inj (Option.some.inj hs)
          exact accept_simulated hpc hg hx
      | idle | accepted => simp [sockStep, hpc] at hs
  | announce rc =>
      obtain rfl : rc = 0 := hpump
      cases hpc : s.pc with
      | accepted slot listener p =>
          simp only [sockStep, hpc] at hs
          obtain ⟨rfl, -⟩ := Prod.mk.inj (Option.some.inj hs)
          exact announce_simulated hpc (hn _ ((inHand_accepted hpc).mpr rfl)) hx
      | idle | look => simp [sockStep, hpc] at hs
  | ring a =>
      cases a with
      | push evtOpcode payload =>
          have hev : s' = { s with events :=
              { s.events with ring := (eventRingPush s.events.ring evtOpcode payload).2 } } := by
            cases hpc : s.pc <;> simp only [sockStep, hpc, eventStep, Option.map_some,
              Option.some.injEq, Prod.mk.injEq] at hs <;> exact hs.1.symm
          subst hev
          refine .inr ⟨.event evtOpcode payload, _, .tau, rfl, hx.pc, hx.pending, hx.isOpen, ?_⟩
          change (eventRingPush x.fw.events evtOpcode payload).2 = _
          rw [hx.events]
      | drain | turn => exact hpump.elim

/-- Whatever the pump does, the system can do. -/
theorem pump_simulated {x : Sys η} {tr' : List SockEv} (hr : SockRun E tr s) (hx : SockSeen E x s)
    (hr' : (sockServer E).RunIf (PumpContract E) s tr' s') :
    ∃ evs x', (system E).Run x evs x' ∧ SockSeen E x' s' := by
  suffices h : SockRun E (tr ++ tr') s' ∧
      ∃ evs x', (system E).Run x evs x' ∧ SockSeen E x' s' from h.2
  induction hr' with
  | nil => exact ⟨by simpa using hr, [], x, .nil, hx⟩
  | snoc hr' hg hs ih =>
      obtain ⟨hrun, evs, x', hrx, hx'⟩ := ih
      refine ⟨?_, ?_⟩
      · rw [← List.append_assoc]
        exact hrun.snoc hg.1 hs
      rcases pump_step_simulated hrun.nonneg hg hs hx' with hx'' | ⟨act, x'', ev, hstep, hx''⟩
      · exact ⟨evs, x', hrx, hx''⟩
      · exact ⟨_, x'', Machine.Run.snoc hrx hstep, hx''⟩

end

/-- A connection is accepted on the listening socket, and announced after an event of another
producer. -/
theorem pump_simulated_traffic : ∃ (evs : List Ev) (x x' : Sys Unit) (s : SockTask),
    (system Env.reference).Run x evs x' ∧ SockSeen Env.reference x' s ∧
    s.events.ring.queued.map EventSlot.pair =
      [(0x10, [1]), (0x2C, [4, 0, 6, 0, 0x34, 0x12, 0, 0, 192, 168, 1, 7])] := by
  have hexec : ((sockServer Env.reference).execIf (SockContract Env.reference) .boot
      (serverTraffic.take 2)).map (fun x => (x.1.pc, ((sockServer Env.reference).execIf
        (PumpContract Env.reference) x.1 [.acceptPump,
          .accept { fd := 5, port := 0x1234, addr := [192, 168, 1, 7] }, .ring (.push 0x10 [1]),
          .announce 0]).map (fun y => y.1.events.ring.queued.map EventSlot.pair))) =
      some (.idle, some
        [(0x10, [1]), (0x2C, [4, 0, 6, 0, 0x34, 0x12, 0, 0, 192, 168, 1, 7])]) := by
    decide +kernel
  obtain ⟨⟨s, tr⟩, hs, hout⟩ := Option.map_eq_some_iff.mp hexec
  obtain ⟨hpc, hpump⟩ := Prod.mk.inj hout
  obtain ⟨⟨s', tr'⟩, hs', hqueued⟩ := Option.map_eq_some_iff.mp hpump
  have hr : SockRun Env.reference tr s := Machine.runIf_of_execIf hs
  let x : Sys Unit :=
    { Sys.boot () with
      fw := { Fw.boot () with events := s.events.ring }
      isOpen := handlesOf s.isOpen }
  have hseen : SockSeen Env.reference x s := by
    refine ⟨?_, rfl, rfl, rfl⟩
    change Pc.loop = s.sysPc Env.reference
    have hidle : s.pc = .idle := hpc
    rw [SockTask.sysPc, hidle]
  obtain ⟨evs, x', hrun, hx'⟩ := pump_simulated hr hseen (Machine.runIf_of_execIf hs')
  exact ⟨evs, x, x', s', hrun, hx', hqueued⟩

end Cc3501eBridge
