import Cc3501eBridge.Wire
import Mathlib.Tactic.Tauto

/-!
# The prefetch ring

One socket at a time has a 64 KiB receive ring in front of it (`cc3501e_hw_ti_sock.c`).  The pump
on the task moves bytes from lwIP into it, and a `SOCK_RECV` dispatch hands them out.  The two
counters run freely modulo `2 ^ 32`; a byte's place in the buffer is its counter modulo 65536.

Bytes handed out are only *uncommitted*: the tail moves past them when the next request turns out
to be a different one, so a repeated request is answered with the same bytes again
(`sock_recv_commit.c`).

The pump and the arming of the ring can be interrupted between any two memory accesses, so they
appear here as the separate accesses they make; who runs them, and when, is `System`'s business.
-/

namespace Cc3501eBridge

/-- `CC3501E_SOCK_RING_BYTES`. -/
def sockRingBytes : Nat := 65536

/-- `CC3501E_SOCK_PUMP_PASSES`. -/
def sockPumpPasses : Nat := 8

/-- `rx_ring` together with its `uncommitted` count. -/
structure RxRing where
  buf : Buf
  head : UInt32
  tail : UInt32
  fdPlus1 : UInt16
  peerClosed : Bool
  peerError : Bool
  uncommitted : UInt32

namespace RxRing

/-- The ring in zeroed memory: no socket owns it. -/
def init : RxRing where
  buf := .zero
  head := 0
  tail := 0
  fdPlus1 := 0
  peerClosed := false
  peerError := false
  uncommitted := 0

/-- `ring_used`. -/
def ringUsed (r : RxRing) : UInt32 := r.head - r.tail

end RxRing

/-! ## Handing bytes out -/

/-- What `sock_recv_commit` returns and stores back through its pointers. -/
structure Commit where
  n : UInt32
  tail : UInt32
  uncommitted : UInt32
  deriving DecidableEq

/-- `sock_recv_commit`: a fresh request commits what the previous one was given, a replay does not;
then up to `cap` bytes from the tail are promised. -/
def sockRecvCommit (tail uncommitted head : UInt32) (replay : Bool) (cap : UInt32) : Commit :=
  let tail := if replay then tail else tail + uncommitted
  let used := head - tail
  let n := if used < cap then used else cap
  { n := n, tail := tail, uncommitted := n }

/-- `sock_recv_ring_drained_status`. -/
def sockRecvRingDrainedStatus (peerClosed peerError : Bool) : Int :=
  if peerClosed then 0 else if peerError then -3 else -2

/-- What `cc3501e_hw_sock_recv_ring` returns, with the bytes it stored for the caller. -/
structure RingRead where
  rc : Int
  out : List UInt8
  deriving DecidableEq

/-- `n` bytes of the ring from counter `tail` on, in the two pieces the source copies. -/
def ringCopy (r : RxRing) (tail n : UInt32) : List UInt8 :=
  let idx := tail.toNat % sockRingBytes
  let first := min (sockRingBytes - idx) n.toNat
  r.buf.read idx first ++ r.buf.read 0 (n.toNat - first)

/-- `cc3501e_hw_sock_recv_ring`: serve a receive from the ring if it belongs to `handle`. -/
def hwSockRecvRing (r : RxRing) (handle : UInt16) (cap : UInt16) (replay : Bool) :
    RingRead × RxRing :=
  if r.fdPlus1 ≠ handle ∨ handle = 0 then ({ rc := -1, out := [] }, r)
  else
    let c := sockRecvCommit r.tail r.uncommitted r.head replay cap.toUInt32
    let r' := { r with tail := c.tail, uncommitted := c.uncommitted }
    if c.n = 0 then ({ rc := sockRecvRingDrainedStatus r.peerClosed r.peerError, out := [] }, r')
    else ({ rc := c.n.toNat, out := ringCopy r c.tail c.n }, r')

/-- The ring is armed for `handle`. -/
def RxRing.Owns (r : RxRing) (handle : UInt16) : Prop := r.fdPlus1 = handle ∧ handle ≠ 0

instance (r : RxRing) (handle : UInt16) : Decidable (r.Owns handle) :=
  inferInstanceAs (Decidable (_ ∧ _))

section

variable {r : RxRing} {handle cap : UInt16} {replay : Bool}

/-- A ring armed for another socket declines and stays as it is. -/
theorem hwSockRecvRing_of_not_owns (h : ¬ r.Owns handle) :
    hwSockRecvRing r handle cap replay = ({ rc := -1, out := [] }, r) := by
  have : r.fdPlus1 ≠ handle ∨ handle = 0 := by
    unfold RxRing.Owns at h
    tauto
  rw [hwSockRecvRing, if_pos this]

/-- The ring's answer when it is armed for the socket. -/
theorem hwSockRecvRing_of_owns (h : r.Owns handle) :
    hwSockRecvRing r handle cap replay =
      let c := sockRecvCommit r.tail r.uncommitted r.head replay cap.toUInt32
      (if c.n = 0 then
          { rc := sockRecvRingDrainedStatus r.peerClosed r.peerError, out := [] }
        else { rc := c.n.toNat, out := ringCopy r c.tail c.n },
       { r with tail := c.tail, uncommitted := c.uncommitted }) := by
  have : ¬ (r.fdPlus1 ≠ handle ∨ handle = 0) := by
    unfold RxRing.Owns at h
    tauto
  simp only [hwSockRecvRing, if_neg this]
  split_ifs <;> rfl

/-- An armed ring never declines. -/
theorem hwSockRecvRing_rc (h : r.Owns handle) :
    (hwSockRecvRing r handle cap replay).1.rc = -2 ∨
      (hwSockRecvRing r handle cap replay).1.rc = -3 ∨
        0 ≤ (hwSockRecvRing r handle cap replay).1.rc := by
  rw [hwSockRecvRing_of_owns h]
  by_cases hn : (sockRecvCommit r.tail r.uncommitted r.head replay cap.toUInt32).n = 0
  · simp only [hn, if_true, sockRecvRingDrainedStatus]
    split_ifs <;> simp
  · simp only [hn, if_false]
    exact .inr (.inr (Int.natCast_nonneg _))

end

/-! ## The pump's accesses -/

/-- The guard at the top of `cc3501e_hw_sock_pump`: the handle to read for, if there is work. -/
def sockPumpStart (r : RxRing) : Option UInt16 :=
  if r.fdPlus1 = 0 ∨ r.peerClosed = true ∨ r.peerError = true then none else some r.fdPlus1

/-- The top of one pass: where in the buffer to receive, and how much at most. -/
def sockPumpPass (r : RxRing) : Option (Nat × Nat) :=
  let used := r.ringUsed.toNat
  if used > sockRingBytes - maxPayload then none
  else
    let idx := r.head.toNat % sockRingBytes
    let chunk := min (sockRingBytes - idx) (sockRingBytes - used)
    if chunk = 0 then none else some (idx, chunk)

/-- lwIP stores one received byte. -/
def sockPumpStore (r : RxRing) (i : Nat) (b : UInt8) : RxRing := { r with buf := r.buf.set i b }

/-- `rx_ring.head += n`. -/
def sockPumpAdvance (r : RxRing) (n : Nat) : RxRing := { r with head := r.head + UInt32.ofNat n }

/-! ## Arming -/

/-- `sock_prefetch_should_arm`. -/
def sockPrefetchShouldArm (armed requested : UInt16) : Bool := armed == 0 || armed == requested

/-- The stores of `cc3501e_hw_sock_prefetch`, in program order. -/
inductive PrefetchStore
  | tail | head | peerClosed | peerError | uncommitted | fdPlus1 (h : UInt16)
  deriving DecidableEq, Repr

/-- One of those stores. -/
def PrefetchStore.apply (r : RxRing) : PrefetchStore → RxRing
  | .tail => { r with tail := 0 }
  | .head => { r with head := 0 }
  | .peerClosed => { r with peerClosed := false }
  | .peerError => { r with peerError := false }
  | .uncommitted => { r with uncommitted := 0 }
  | .fdPlus1 h => { r with fdPlus1 := h }

/-- `cc3501e_hw_sock_prefetch`: the stores a call makes, decided from what it finds on entry. -/
def sockPrefetch (r : RxRing) (handle : UInt16) (on : Bool) : List PrefetchStore :=
  if on then
    if !sockPrefetchShouldArm r.fdPlus1 handle then []
    else if r.fdPlus1 = handle then []
    else [.tail, .head, .peerClosed, .peerError, .uncommitted, .fdPlus1 handle]
  else if r.fdPlus1 = handle then [.fdPlus1 0, .uncommitted]
  else []

end Cc3501eBridge
