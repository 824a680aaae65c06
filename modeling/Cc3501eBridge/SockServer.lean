import Cc3501eBridge.EventQueue
import Cc3501eBridge.ListenTable

/-!
# The task's side of the sockets

The bodies of `SOCK_OPEN`, `SOCK_LISTEN`, `SOCK_RECV` and `SOCK_CLOSE` and the accept pump, which
all run on the bring-up task, over the tables they share: the listening handles and the end-of-file
bits.  The pump asks lwIP for a connection on each listening handle in turn, and announces what it
gets through the event ring.  Other producers push events, and the dispatcher drains them, at any
time; so the ring is the machine `eventSystem`, and a connection that was accepted is a step of its
own away from being announced.

`isOpen` is lwIP's view of which descriptors are open.  What lwIP answers is open, up to the
contract `SockContract`.  The type and the protocol of a socket only go to `lwip_socket`.  Left out
is the receive ring, which `RxRing` has.
-/

namespace Cc3501eBridge

variable {η : Type}

/-! ## The end-of-file bits -/

/-- `CC3501E_SOCK_EOF_MAX_FD`, which is lwIP's `MEMP_NUM_NETCONN`. -/
def sockEofMaxFd : Nat := 16

/-- `sock_eof`, by file descriptor. -/
abbrev EofTable := Int → Bool

/-- A descriptor that has a bit. -/
def HasEofBit (fd : Int) : Prop := 0 ≤ fd ∧ fd < sockEofMaxFd

instance hasEofBit_decidable (fd : Int) : Decidable (HasEofBit fd) :=
  inferInstanceAs (Decidable (_ ∧ _))

/-- `sock_worker_recv_eof_should_latch`. -/
def sockWorkerRecvEofShouldLatch (n : Nat) (want : UInt16) (isStream : Bool) : Bool :=
  n = 0 && 0 < want && isStream

/-- `sock_worker_recv_eof_check`. -/
def sockWorkerRecvEofCheck (table : EofTable) (fd : Int) : Bool := HasEofBit fd && table fd

/-- `sock_worker_recv_eof_set`. -/
def sockWorkerRecvEofSet (table : EofTable) (fd : Int) (value : Bool) : EofTable :=
  if HasEofBit fd then Function.update table fd value else table

/-! ## The bodies -/

/-- The handle the host gets for a file descriptor. -/
def sockHandle (fd : Int) : UInt16 := UInt16.ofNat (fd.toNat + 1)

/-- `cc3501e_hw_sock_open`, where `fd` is what `lwip_socket` returns. -/
def hwSockOpen (E : Env η) (family : UInt8) (fd : Int) : HalRet :=
  if family ≠ E.hdr.sockFamilyIpv4 then { rv := hwErrInval }
  else if fd < 0 then { rv := hwErrNotimpl }
  else if 0xFFFF ≤ fd then { rv := hwErrIo }
  else { rv := hwOk, word := sockHandle fd }

/-- What `lwip_recvfrom` returns. -/
inductive RecvFrom
  | /-- Bytes, and the sender if lwIP has filled it in. -/
    data (bytes : List UInt8) (sender : Option (List UInt8 × UInt16))
  | wouldBlock
  | error
  deriving DecidableEq

/-- How much `cc3501e_hw_sock_recv` asks for. -/
def recvWant (maxLen cap : UInt16) : UInt16 := if maxLen < cap then maxLen else cap

/-- `cc3501e_hw_sock_recv` gets as far as `lwip_recvfrom`. -/
def RecvCalls (eof : EofTable) (handle maxLen cap : UInt16) : Prop :=
  handle ≠ 0 ∧ sockWorkerRecvEofCheck eof (sockFd handle) = false ∧ recvWant maxLen cap ≠ 0

instance recvCalls_decidable (eof : EofTable) (handle maxLen cap : UInt16) :
    Decidable (RecvCalls eof handle maxLen cap) := inferInstanceAs (Decidable (_ ∧ _ ∧ _))

/-- `cc3501e_hw_sock_recv`, where `answer` is what `lwip_recvfrom` returns and `isStream` what the
socket's type is found to be. -/
def hwSockRecv (eof : EofTable) (handle maxLen cap : UInt16) (answer : RecvFrom) (isStream : Bool) :
    HalRet × EofTable :=
  if handle = 0 then ({ rv := hwErrInval }, eof)
  else
    let fd := sockFd handle
    let want := recvWant maxLen cap
    if sockWorkerRecvEofCheck eof fd then ({ rv := hwOk }, eof)
    else if want = 0 then ({ rv := hwOk }, eof)
    else
      match answer with
      | .wouldBlock => ({ rv := hwOk }, eof)
      | .error => ({ rv := hwErrIo }, eof)
      | .data bytes sender =>
          let eof := if sockWorkerRecvEofShouldLatch bytes.length want isStream then
              sockWorkerRecvEofSet eof fd true
            else eof
          ({ rv := hwOk, data := bytes, fromAddr := (sender.map Prod.fst).getD []
             fromPort := (sender.map Prod.snd).getD 0 }, eof)

/-- The end-of-file bits after `cc3501e_hw_sock_close`. -/
def eofAfterClose (eof : EofTable) (handle : UInt16) : EofTable :=
  if handle = 0 then eof else sockWorkerRecvEofSet eof (sockFd handle) false

/-! ## The machine -/

/-- What `lwip_accept` returns: a descriptor, negative for none, and the peer. -/
structure SockPeer where
  fd : Int
  port : UInt16
  addr : List UInt8
  deriving DecidableEq

/-- Where the task stands. -/
inductive SockPc
  | /-- In the main loop, in none of the bodies. -/
    idle
  | /-- In the accept pump, before slot `slot`. -/
    look (slot : Nat)
  | /-- `lwip_accept` has returned a connection on the handle in slot `slot`. -/
    accepted (slot : Nat) (listener : UInt16) (p : SockPeer)
  deriving DecidableEq

/-- The task's tables, the event ring, and what lwIP has open. -/
structure SockTask where
  listen : ListenTable
  eof : EofTable
  events : EventSys
  pc : SockPc
  isOpen : Int → Bool

/-- What can happen next. -/
inductive SockAct
  | /-- `SOCK_OPEN`, with what `lwip_socket` returns, and `lwip_close` if it comes to that. -/
    sockOpen (family type protocol : UInt8) (fd : Int) (closeRc : Int32)
  | sockListen (handle : UInt16) (backlog : UInt8) (w : Lwip)
  | sockClose (handle : UInt16) (w : Lwip)
  | sockRecv (handle maxLen cap : UInt16) (answer : RecvFrom) (isStream : Bool)
  | /-- The tick calls the accept pump. -/
    acceptPump
  | /-- The pump comes to the next slot, with what `lwip_accept` returns. -/
    accept (p : SockPeer)
  | /-- The pump announces the connection, with what `lwip_close` returns if it is given up. -/
    announce (closeRc : Int32)
  | /-- Another producer, or the dispatcher's drain. -/
    ring (a : EventAct)

/-- What a step shows. -/
inductive SockEv
  | /-- `lwip_socket` returned `fd`, if it was called. -/
    opened (fd : Option Int) (closeRc : Int32) (r : HalRet)
  | listened (handle : UInt16) (rv : Int)
  | closed (handle : UInt16) (closeRc : Int32) (rv : Int)
  | /-- A receive of at most `want` bytes, with what `lwip_recvfrom` returned, if it was called. -/
    received (handle want : UInt16) (asked : Option RecvFrom) (isStream : Bool) (r : HalRet)
  | accepted (listener : UInt16) (p : SockPeer)
  | announced (listener : UInt16) (p : SockPeer) (e : EventSlot)
  | /-- The connection was closed again, as the ring refused `e` or no handle can say it. -/
    dropped (listener : UInt16) (p : SockPeer) (e : Option EventSlot) (closeRc : Int32)
  | ring (e : EventEv)
  | tau

/-- What lwIP has open after `lwip_close` returned. -/
def lwipClosed (isOpen : Int → Bool) (fd : Int) (rc : Int32) : Int → Bool :=
  if rc = 0 then Function.update isOpen fd false else isOpen

/-- What lwIP has open after it handed out `fd`. -/
def lwipObtained (isOpen : Int → Bool) (fd : Int) : Int → Bool := Function.update isOpen fd true

/-- `SOCK_OPEN`. -/
def sockOpenStep (E : Env η) (s : SockTask) (family : UInt8) (fd : Int) (rc : Int32) :
    SockTask × SockEv :=
  let r := hwSockOpen E family fd
  if family ≠ E.hdr.sockFamilyIpv4 then (s, .opened none rc r)
  else if fd < 0 then (s, .opened (some fd) rc r)
  else
    let isOpen := lwipObtained s.isOpen fd
    ({ s with isOpen := if 0xFFFF ≤ fd then lwipClosed isOpen fd rc else isOpen },
      .opened (some fd) rc r)

/-- A turn of the accept pump, up to `lwip_accept`. -/
def acceptStep (s : SockTask) (slot : Nat) (p : SockPeer) : SockTask × SockEv :=
  if h : slot < sockListenMax then
    let lh := s.listen.slot ⟨slot, h⟩
    if lh = 0 then ({ s with pc := .look (slot + 1) }, .tau)
    else if p.fd < 0 then ({ s with pc := .look (slot + 1) }, .tau)
    else
      ({ s with pc := .accepted slot lh p, isOpen := lwipObtained s.isOpen p.fd }, .accepted lh p)
  else ({ s with pc := .idle }, .tau)

/-- The rest of the turn. -/
def announceStep (E : Env η) (s : SockTask) (slot : Nat) (listener : UInt16) (p : SockPeer)
    (rc : Int32) : SockTask × SockEv :=
  if 0xFFFF ≤ p.fd then
    ({ s with pc := .look (slot + 1), isOpen := lwipClosed s.isOpen p.fd rc },
      .dropped listener p none rc)
  else
    let ev := acceptEvent E listener (sockHandle p.fd) p.port p.addr
    let e := eventOf E.hdr.evtSockAccepted ev
    let out := eventRingPush s.events.ring E.hdr.evtSockAccepted ev
    let events := { s.events with ring := out.2 }
    if out.1 then
      ({ s with pc := .look (slot + 1), events := events }, .announced listener p e)
    else
      ({ s with pc := .look (slot + 1), events := events, isOpen := lwipClosed s.isOpen p.fd rc },
        .dropped listener p (some e) rc)

/-- One step of the task, of another producer or of the drain. -/
def sockStep (E : Env η) (s : SockTask) (a : SockAct) : Option (SockTask × SockEv) :=
  match s.pc, a with
  | .idle, .sockOpen family _ _ fd rc => some (sockOpenStep E s family fd rc)
  | .idle, .sockListen handle backlog w =>
      let out := hwSockListen w s.listen handle backlog
      some ({ s with listen := out.2 }, .listened handle out.1)
  | .idle, .sockClose handle w =>
      let out := hwSockClose w s.listen handle
      let isOpen := if handle = 0 then s.isOpen else
        lwipClosed s.isOpen (sockFd handle) (w.close (sockFd handle))
      some ({ s with listen := out.2, eof := eofAfterClose s.eof handle, isOpen := isOpen },
        .closed handle (w.close (sockFd handle)) out.1)
  | .idle, .sockRecv handle maxLen cap answer isStream =>
      let out := hwSockRecv s.eof handle maxLen cap answer isStream
      let asked := if RecvCalls s.eof handle maxLen cap then some answer else none
      some ({ s with eof := out.2 }, .received handle (recvWant maxLen cap) asked isStream out.1)
  | .idle, .acceptPump => some ({ s with pc := .look 0 }, .tau)
  | .look slot, .accept p => some (acceptStep s slot p)
  | .accepted slot listener p, .announce rc => some (announceStep E s slot listener p rc)
  | _, .ring a => (eventStep s.events a).map fun p => ({ s with events := p.1 }, .ring p.2)
  | _, _ => none

/-- The sockets as a machine. -/
def sockServer (E : Env η) : Machine SockTask SockAct SockEv where
  step := sockStep E

/-- The state at boot: no socket, no event. -/
def SockTask.boot : SockTask where
  listen := .empty
  eof := fun _ => false
  events := .init
  pc := .idle
  isOpen := fun _ => false

/-- Only from an open socket does a receive return bytes, no more than were asked for, or the end of
the stream. -/
def RecvFrom.Allowed (isOpen : Bool) (want : UInt16) : RecvFrom → Prop
  | .data bytes _ => isOpen = true ∧ bytes.length ≤ want.toNat
  | _ => True

instance recvFrom_allowed_decidable (isOpen : Bool) (want : UInt16) :
    (answer : RecvFrom) → Decidable (answer.Allowed isOpen want)
  | .data _ _ => inferInstanceAs (Decidable (_ ∧ _))
  | .wouldBlock | .error => inferInstanceAs (Decidable True)

/-- What lwIP promises, and that nobody else announces connections.  A descriptor that is handed out
was not open, and only an open socket can be listened on, closed or received from. -/
def SockContract (E : Env η) (s : SockTask) : SockAct → Prop
  | .sockOpen _ _ _ fd _ => 0 ≤ fd → s.isOpen fd = false
  | .sockListen handle backlog w =>
      w.listen (sockFd handle) (listenBacklog backlog) = 0 → s.isOpen (sockFd handle) = true
  | .sockClose handle w => w.close (sockFd handle) = 0 → s.isOpen (sockFd handle) = true
  | .sockRecv handle maxLen cap answer _ => RecvCalls s.eof handle maxLen cap →
      answer.Allowed (s.isOpen (sockFd handle)) (recvWant maxLen cap)
  | .accept p => 0 ≤ p.fd → s.isOpen p.fd = false
  | .ring (.push evtOpcode _) => evtOpcode ≠ E.hdr.evtSockAccepted
  | _ => True

instance sockContract_decidable (E : Env η) (s : SockTask) :
    (a : SockAct) → Decidable (SockContract E s a)
  | .sockOpen _ _ _ _ _ | .sockListen _ _ _ | .sockClose _ _ | .sockRecv _ _ _ _ _ | .accept _ =>
      inferInstanceAs (Decidable (_ → _))
  | .ring (.push _ _) => inferInstanceAs (Decidable (_ ≠ _))
  | .acceptPump | .announce _ | .ring (.drain _) | .ring .turn => inferInstanceAs (Decidable True)

/-! ## The kinds of step -/

/-- A connection is in the pump's hands. -/
def SockTask.InHand (s : SockTask) (fd : Int) : Prop :=
  ∃ slot listener p, s.pc = .accepted slot listener p ∧ p.fd = fd

/-- The event that announces a connection. -/
def acceptedEvent (E : Env η) (listener : UInt16) (p : SockPeer) : EventSlot :=
  eventOf E.hdr.evtSockAccepted (acceptEvent E listener (sockHandle p.fd) p.port p.addr)

/-- What a step does, with what has to hold for it. -/
inductive SockTrans (E : Env η) (s : SockTask) : SockTask → SockEv → Prop
  | /-- `SOCK_OPEN` without a descriptor. -/
    refused {asked : Option Int} {rc : Int32} {r : HalRet} : s.pc = .idle →
      (∀ fd ∈ asked, fd < 0) → r.rv ≠ hwOk → SockTrans E s s (.opened asked rc r)
  | /-- `SOCK_OPEN` with a descriptor that the host is told. -/
    opened {fd : Int} {rc : Int32} : s.pc = .idle → 0 ≤ fd → fd < 0xFFFF → s.isOpen fd = false →
      SockTrans E s { s with isOpen := lwipObtained s.isOpen fd }
        (.opened (some fd) rc { rv := hwOk, word := sockHandle fd })
  | /-- `SOCK_OPEN` with a descriptor beyond the handles. -/
    beyond {fd : Int} {rc : Int32} {r : HalRet} : s.pc = .idle → 0xFFFF ≤ fd → s.isOpen fd = false →
      r.rv ≠ hwOk →
      SockTrans E s { s with isOpen := lwipClosed (lwipObtained s.isOpen fd) fd rc }
        (.opened (some fd) rc r)
  | listened (handle backlog : _) (w : Lwip) : s.pc = .idle →
      (w.listen (sockFd handle) (listenBacklog backlog) = 0 → s.isOpen (sockFd handle) = true) →
      SockTrans E s { s with listen := (hwSockListen w s.listen handle backlog).2 }
        (.listened handle (hwSockListen w s.listen handle backlog).1)
  | closed (handle : UInt16) (w : Lwip) : s.pc = .idle →
      SockTrans E s
        { s with
          listen := s.listen.erase handle
          eof := eofAfterClose s.eof handle
          isOpen := if handle = 0 then s.isOpen else
            lwipClosed s.isOpen (sockFd handle) (w.close (sockFd handle)) }
        (.closed handle (w.close (sockFd handle)) (hwSockClose w s.listen handle).1)
  | received (handle maxLen cap : UInt16) (answer : RecvFrom) (isStream : Bool) : s.pc = .idle →
      (RecvCalls s.eof handle maxLen cap →
        answer.Allowed (s.isOpen (sockFd handle)) (recvWant maxLen cap)) →
      SockTrans E s { s with eof := (hwSockRecv s.eof handle maxLen cap answer isStream).2 }
        (.received handle (recvWant maxLen cap)
          (if RecvCalls s.eof handle maxLen cap then some answer else none) isStream
          (hwSockRecv s.eof handle maxLen cap answer isStream).1)
  | /-- The task moves on within the pump, or enters or leaves it. -/
    moved {pc : SockPc} : (∀ slot listener p, s.pc ≠ .accepted slot listener p) →
      (∀ slot listener p, pc ≠ .accepted slot listener p) → SockTrans E s { s with pc := pc } .tau
  | accepted {slot : Nat} {listener : UInt16} {p : SockPeer} : s.pc = .look slot →
      listener ∈ s.listen.held → 0 ≤ p.fd → s.isOpen p.fd = false →
      SockTrans E s
        { s with pc := .accepted slot listener p, isOpen := lwipObtained s.isOpen p.fd }
        (.accepted listener p)
  | announced {slot : Nat} {listener : UInt16} {p : SockPeer} {ring : EventRing} :
      s.pc = .accepted slot listener p → p.fd < 0xFFFF →
      eventRingPush s.events.ring E.hdr.evtSockAccepted
        (acceptEvent E listener (sockHandle p.fd) p.port p.addr) = (true, ring) →
      SockTrans E s { s with pc := .look (slot + 1), events := { s.events with ring := ring } }
        (.announced listener p (acceptedEvent E listener p))
  | /-- The ring is full, or there is no handle for the descriptor. -/
    dropped {slot : Nat} {listener : UInt16} {p : SockPeer} {e : Option EventSlot} {rc : Int32}
      {ring : EventRing} : s.pc = .accepted slot listener p →
      (e = none ∧ 0xFFFF ≤ p.fd ∧ ring = s.events.ring ∨
        e = some (acceptedEvent E listener p) ∧ p.fd < 0xFFFF ∧
          eventRingPush s.events.ring E.hdr.evtSockAccepted
            (acceptEvent E listener (sockHandle p.fd) p.port p.addr) = (false, ring)) →
      SockTrans E s
        { s with
          pc := .look (slot + 1)
          events := { s.events with ring := ring }
          isOpen := lwipClosed s.isOpen p.fd rc }
        (.dropped listener p e rc)
  | ring {a : EventAct} {events : EventSys} {e : EventEv} :
      eventStep s.events a = some (events, e) →
      (∀ evtOpcode payload, a = .push evtOpcode payload → evtOpcode ≠ E.hdr.evtSockAccepted) →
      SockTrans E s { s with events := events } (.ring e)

section

variable {E : Env η} {s s' : SockTask} {a : SockAct} {e : SockEv}

theorem sockOpenStep_trans {family : UInt8} {fd : Int} {rc : Int32} (hpc : s.pc = .idle)
    (hg : 0 ≤ fd → s.isOpen fd = false) :
    SockTrans E s (sockOpenStep E s family fd rc).1 (sockOpenStep E s family fd rc).2 := by
  unfold sockOpenStep hwSockOpen
  by_cases hfam : family ≠ E.hdr.sockFamilyIpv4
  · simp only [if_pos hfam]
    exact .refused hpc (by simp) (by decide : hwErrInval ≠ hwOk)
  simp only [if_neg hfam]
  by_cases hneg : fd < 0
  · simp only [if_pos hneg]
    exact .refused hpc (by simpa using hneg) (by decide : hwErrNotimpl ≠ hwOk)
  simp only [if_neg hneg]
  have hfd : 0 ≤ fd := Int.not_lt.mp hneg
  by_cases hbig : 0xFFFF ≤ fd
  · simp only [if_pos hbig]
    exact .beyond hpc hbig (hg hfd) (by decide : hwErrIo ≠ hwOk)
  · simp only [if_neg hbig]
    exact .opened hpc hfd (Int.not_le.mp hbig) (hg hfd)

theorem acceptStep_trans {slot : Nat} {p : SockPeer} (hpc : s.pc = .look slot)
    (hg : 0 ≤ p.fd → s.isOpen p.fd = false) :
    SockTrans E s (acceptStep s slot p).1 (acceptStep s slot p).2 := by
  have hlook : ∀ slot listener p, s.pc ≠ .accepted slot listener p := by simp [hpc]
  unfold acceptStep
  by_cases hslot : slot < sockListenMax
  · simp only [dif_pos hslot]
    by_cases hfree : s.listen.slot ⟨slot, hslot⟩ = 0
    · simp only [if_pos hfree]
      exact .moved hlook (by simp)
    simp only [if_neg hfree]
    by_cases hneg : p.fd < 0
    · simp only [if_pos hneg]
      exact .moved hlook (by simp)
    · simp only [if_neg hneg]
      have hfd : 0 ≤ p.fd := Int.not_lt.mp hneg
      exact .accepted hpc ⟨hfree, _, rfl⟩ hfd (hg hfd)
  · simp only [dif_neg hslot]
    exact .moved hlook (by simp)

theorem announceStep_trans {slot : Nat} {listener : UInt16} {p : SockPeer} {rc : Int32}
    (hpc : s.pc = .accepted slot listener p) :
    SockTrans E s (announceStep E s slot listener p rc).1
      (announceStep E s slot listener p rc).2 := by
  unfold announceStep
  by_cases hbig : 0xFFFF ≤ p.fd
  · simp only [if_pos hbig]
    exact .dropped hpc (.inl ⟨rfl, hbig, rfl⟩)
  simp only [if_neg hbig]
  have hlt : p.fd < 0xFFFF := Int.not_le.mp hbig
  cases hp : (eventRingPush s.events.ring E.hdr.evtSockAccepted
      (acceptEvent E listener (sockHandle p.fd) p.port p.addr)).1 with
  | true =>
      simp only [if_true]
      exact .announced hpc hlt (Prod.ext hp rfl)
  | false =>
      simp only [Bool.false_eq_true, if_false]
      exact .dropped hpc (.inr ⟨rfl, hlt, Prod.ext hp rfl⟩)

/-- Every step under lwIP's contract is of one of the kinds. -/
theorem sockStep_trans (hg : SockContract E s a)
    (h : (sockServer E).step s a = some (s', e)) : SockTrans E s s' e := by
  change sockStep E s a = _ at h
  unfold sockStep at h
  split at h
  case h_1 hpc =>
    obtain ⟨rfl, rfl⟩ := Prod.mk.inj (Option.some.inj h)
    exact sockOpenStep_trans hpc hg
  case h_2 handle backlog w hpc =>
    obtain ⟨rfl, rfl⟩ := Prod.mk.inj (Option.some.inj h)
    exact .listened handle backlog w hpc hg
  case h_3 handle w hpc =>
    obtain ⟨rfl, rfl⟩ := Prod.mk.inj (Option.some.inj h)
    rw [hwSockClose_table]
    exact .closed handle w hpc
  case h_4 handle maxLen cap answer isStream hpc =>
    obtain ⟨rfl, rfl⟩ := Prod.mk.inj (Option.some.inj h)
    exact .received handle maxLen cap answer isStream hpc hg
  case h_5 hpc =>
    obtain ⟨rfl, rfl⟩ := Prod.mk.inj (Option.some.inj h)
    exact .moved (by simp [hpc]) (by simp)
  case h_6 slot p hpc =>
    obtain ⟨rfl, rfl⟩ := Prod.mk.inj (Option.some.inj h)
    exact acceptStep_trans hpc hg
  case h_7 slot listener p rc hpc =>
    obtain ⟨rfl, rfl⟩ := Prod.mk.inj (Option.some.inj h)
    exact announceStep_trans hpc
  case h_8 a _ =>
    obtain ⟨⟨events, e'⟩, hev, heq⟩ := Option.map_eq_some_iff.mp h
    obtain ⟨rfl, rfl⟩ := Prod.mk.inj heq
    refine .ring hev fun evtOpcode payload ha => ?_
    subst ha
    exact hg
  case h_9 => cases h

end

end Cc3501eBridge
