import Cc3501eBridge.System

/-!
# How a dispatch ends

`Dispatch` settles the plain opcodes.  Here are the remaining three, each with the complete list of
its outcomes (`SendOutcome`, `RecvOutcome`, and the equation for `SOCK_CLOSE`), and what holds of
every dispatch: it makes one step on the slot, and only the named opcode touches each cache.
-/

namespace Cc3501eBridge

variable {η : Type}

/-! ## `SOCK_SEND` -/

/-- What a cached send reply answers. -/
def SendCache.replyFor (c : SendCache) (cap : Nat) : Reply :=
  if c.status = .ok then if cap < 2 then .bare .errNoMem else { status := .ok, data := c.reply }
  else .bare c.status

/-- The idle arm of a routed request with reply data, for an opcode other than `SOCK_RECV`. -/
theorem handleWorkerRoutedPayloadReply_eq (fw : Fw η) {cmd : Cmd} (hc : cmd ≠ .sockRecv)
    (req : List UInt8) (minCap cap : Nat) :
    handleWorkerRoutedPayloadReply fw cmd req minCap cap =
      if cap < minCap then (fw, .bare .errNoMem)
      else routedPoll fw cmd cap fun fw => fw.submitPayload cmd req := by
  simp [handleWorkerRoutedPayloadReply, hc]

/-- How a `SOCK_SEND` ends. -/
inductive SendOutcome (fw : Fw η) (req : List UInt8) (cap : Nat) : Fw η × Reply → Prop
  | /-- The length check failed. -/
    invalid : sockSendValid req = false → SendOutcome fw req cap (fw, .bare .errInvalid)
  | /-- Answered from the cache; a finished job with this sequence number is dropped. -/
    cached {send : SendCache} :
      sockSendValid req = true → send = fw.send.forget (sockSendSeq req) → send.cached = true →
      SendOutcome fw req cap
        ({ fw with
            send := send
            worker := (workerReclaimMatchingTerminal fw.worker .sockSend 3 (sockSendSeq req)).2 },
         send.replyFor cap)
  | /-- The reply would not fit; a finished job with another sequence number is dropped. -/
    noMem {send : SendCache} :
      sockSendValid req = true → send = fw.send.forget (sockSendSeq req) → send.cached = false →
      cap < 2 →
      SendOutcome fw req cap
        ({ fw with
            send := send
            worker := (workerDiscardStaleTerminal fw.worker .sockSend 3 (sockSendSeq req)).2 },
         .bare .errNoMem)
  | /-- Passed on to the worker. -/
    routed {send : SendCache} {fw₁ : Fw η} {out : Fw η × Reply} :
      sockSendValid req = true → send = fw.send.forget (sockSendSeq req) → send.cached = false →
      fw₁ = { fw with
            send := send
            worker := (workerDiscardStaleTerminal fw.worker .sockSend 3 (sockSendSeq req)).2 } →
      RoutedOutcome fw₁ .sockSend cap (fun fw => fw.submitPayload .sockSend req) out →
      SendOutcome fw req cap out

theorem handleSockSend_outcome (fw : Fw η) (req : List UInt8) (cap : Nat) :
    SendOutcome fw req cap (handleSockSend fw req cap) := by
  unfold handleSockSend
  by_cases hv : sockSendValid req = false
  · rw [if_pos hv]
    exact .invalid hv
  · have hv' : sockSendValid req = true := by simpa using hv
    rw [if_neg hv]
    cases hcached : (fw.send.forget (sockSendSeq req)).cached with
    | true =>
        simp only [hcached, if_true]
        have h : SendOutcome fw req cap _ := .cached hv' rfl hcached
        unfold SendCache.replyFor at h
        split_ifs at h ⊢ <;> exact h
    | false =>
        simp only [hcached, Bool.false_eq_true, if_false]
        rw [handleWorkerRoutedPayloadReply_eq _ (by decide)]
        split_ifs with hcap
        · exact .noMem hv' rfl hcached hcap
        · exact .routed hv' rfl hcached rfl (routedPoll_outcome _ _ _ _)

/-! ## `SOCK_RECV` -/

/-- What a cached receive reply answers. -/
def RecvCache.replyFor (c : RecvCache) (cap : Nat) : Reply :=
  if c.status = .ok then
    if cap < c.replyLen then .bare .errNoMem
    else { status := .ok, data := c.reply.read 0 c.replyLen }
  else .bare c.status

/-- The ring part of a receive touches the ring and the memory of the last request only. -/
theorem sockRecvFromRing_snd (fw : Fw η) (key : RecvKey) (cap : Nat) :
    ∃ rx last, (sockRecvFromRing fw key cap).2 = { fw with rx := rx, last := last } := by
  unfold sockRecvFromRing
  by_cases hcap : cap ≤ sockRecvRespBytes
  · exact ⟨fw.rx, fw.last, by rw [if_pos hcap]⟩
  · simp only [if_neg hcap]
    split_ifs <;> exact ⟨_, _, rfl⟩

/-- The request the ring remembers as the last one, after one with key `key`. -/
def sockRecvLast (fw : Fw η) (key : RecvKey) (cap : Nat) : RecvKey :=
  if cap ≤ sockRecvRespBytes then fw.last else key

/-- What the ring part of a receive does when the ring is not armed for the handle, or the reply is
too small to be worth asking: it only remembers the request. -/
theorem sockRecvFromRing_of_not_owns {fw : Fw η} {key : RecvKey} {cap : Nat}
    (h : cap ≤ sockRecvRespBytes ∨ ¬ fw.rx.Owns key.handle) :
    sockRecvFromRing fw key cap = (none, { fw with last := sockRecvLast fw key cap }) := by
  unfold sockRecvFromRing sockRecvLast
  by_cases hcap : cap ≤ sockRecvRespBytes
  · rw [if_pos hcap, if_pos hcap]
  · have hown : ¬ fw.rx.Owns key.handle := h.resolve_left hcap
    simp [hcap, hwSockRecvRing_of_not_owns hown]

/-- A ring that answers is armed for the handle. -/
theorem sockRecvFromRing_owns {fw fw₁ : Fw η} {key : RecvKey} {cap : Nat} {r : Reply}
    (h : sockRecvFromRing fw key cap = (some r, fw₁)) : fw.rx.Owns key.handle := by
  by_contra hown
  rw [sockRecvFromRing_of_not_owns (.inr hown)] at h
  exact absurd (Prod.mk.inj h).1 (by simp)

/-- An armed ring always answers. -/
theorem sockRecvFromRing_of_owns {fw : Fw η} {key : RecvKey} {cap : Nat}
    (hcap : sockRecvRespBytes < cap) (h : fw.rx.Owns key.handle) :
    ∃ r fw₁, sockRecvFromRing fw key cap = (some r, fw₁) := by
  have hrc := @hwSockRecvRing_rc fw.rx key.handle (UInt16.ofNat (sockRecvRoom key cap))
    (decide (key.seq ≠ 0 ∧ key = fw.last)) h
  unfold sockRecvFromRing
  rw [if_neg (by omega)]
  simp only []
  rcases hrc with hrc | hrc | hrc
  · simp only [hrc, if_true]
    split_ifs <;> exact ⟨_, _, rfl⟩
  · rw [if_neg (by omega), if_pos hrc]
    exact ⟨_, _, rfl⟩
  · rw [if_neg (by omega), if_neg (by omega), if_pos hrc]
    exact ⟨_, _, rfl⟩

/-- A ring that does not answer has changed nothing but the memory of the last request. -/
theorem sockRecvFromRing_none {fw fw₁ : Fw η} {key : RecvKey} {cap : Nat}
    (h : sockRecvFromRing fw key cap = (none, fw₁)) :
    fw₁ = { fw with last := sockRecvLast fw key cap } := by
  by_cases hn : cap ≤ sockRecvRespBytes ∨ ¬ fw.rx.Owns key.handle
  · rw [sockRecvFromRing_of_not_owns hn] at h
    exact ((Prod.mk.inj h).2).symm
  · push Not at hn
    obtain ⟨r, fw₂, hs⟩ := sockRecvFromRing_of_owns hn.1 hn.2
    rw [hs] at h
    exact absurd (Prod.mk.inj h).1 (by simp)

/-- How a `SOCK_RECV` ends. -/
inductive RecvOutcome (fw : Fw η) (req : List UInt8) (cap : Nat) : Fw η × Reply → Prop
  | /-- The length check failed. -/
    invalid : req.length ≠ 4 → RecvOutcome fw req cap (fw, .bare .errInvalid)
  | /-- Answered by the prefetch ring. -/
    ring {key last : RecvKey} {recv : RecvCache} {rx : RxRing} {r : Reply} :
      req.length = 4 → key = sockRecvKey fw.currentReqSeq req → recv = fw.recv.forget key →
      sockRecvFromRing { fw with recv := recv } key cap =
        (some r, { fw with recv := recv, rx := rx, last := last }) →
      RecvOutcome fw req cap ({ fw with recv := recv, rx := rx, last := last }, r)
  | /-- Answered from the worker cache. -/
    cached {key : RecvKey} {recv : RecvCache} :
      req.length = 4 → key = sockRecvKey fw.currentReqSeq req → recv = fw.recv.forget key →
      recv.cached = true →
      RecvOutcome fw req cap
        ({ fw with
            last := sockRecvLast fw key cap
            recv := if key.seq = 0 then { recv with cached := false } else recv
            worker := (workerReclaimMatchingTerminal fw.worker .sockRecv 0 (byteAt req 0)).2 },
         recv.replyFor cap)
  | /-- The reply header would not fit. -/
    noMem {key : RecvKey} {recv : RecvCache} :
      req.length = 4 → key = sockRecvKey fw.currentReqSeq req → recv = fw.recv.forget key →
      recv.cached = false → cap < sockRecvRespBytes →
      RecvOutcome fw req cap
        ({ fw with
            last := sockRecvLast fw key cap
            recv := recv
            worker := (workerDiscardStaleRecv fw.worker).2 },
         .bare .errNoMem)
  | /-- Queued on the worker. -/
    submitted {key : RecvKey} {recv : RecvCache} {w : Worker} :
      req.length = 4 → key = sockRecvKey fw.currentReqSeq req → recv = fw.recv.forget key →
      recv.cached = false → w.job.state = .idle →
      (w = fw.worker ∨ fw.worker.job.Terminal ∧ w = workerReset fw.worker) →
      RecvOutcome fw req cap
        ({ fw with
            last := sockRecvLast fw key cap
            recv := { recv with jobSeq := fw.currentReqSeq }
            worker := w.queuedPayload .sockRecv req }, .bare .errBusy)
  | /-- A job is in flight. -/
    busy {key : RecvKey} {recv : RecvCache} :
      req.length = 4 → key = sockRecvKey fw.currentReqSeq req → recv = fw.recv.forget key →
      recv.cached = false → fw.worker.job.InFlight →
      RecvOutcome fw req cap
        ({ fw with last := sockRecvLast fw key cap, recv := recv }, .bare .errBusy)

/-- The slot after stale receives were dropped holds no finished receive. -/
private theorem discardStaleRecv_cases (w : Worker) :
    ((workerDiscardStaleRecv w).2 = w ∧ ¬ (w.job.jobCmd = .sockRecv ∧ w.job.Terminal)) ∨
      w.job.Terminal ∧ (workerDiscardStaleRecv w).2 = workerReset w := by
  unfold workerDiscardStaleRecv dropTerminal
  by_cases h : w.job.jobCmd = .sockRecv ∧ w.job.Terminal
  · exact .inr ⟨h.2, by simp [h]⟩
  · refine .inl ⟨?_, h⟩
    rw [if_neg]
    exact fun h' => h ⟨h'.1, h'.2.1⟩

/-- A receive that reaches the slot is queued or finds a job in flight: a finished receive has just
been dropped, and the retry latch does not serve this opcode. -/
private theorem sockRecv_routed (fw : Fw η) (req : List UInt8) (cap : Nat) {last : RecvKey}
    {recv : RecvCache} (hl : req.length = 4)
    (hlast : last = sockRecvLast fw (sockRecvKey fw.currentReqSeq req) cap)
    (hr : recv = fw.recv.forget (sockRecvKey fw.currentReqSeq req)) (hc : recv.cached = false) :
    RecvOutcome fw req cap
      (routedPoll { fw with
          last := last, recv := recv, worker := (workerDiscardStaleRecv fw.worker).2 } .sockRecv cap
        fun fw => { fw with recv := { fw.recv with jobSeq := fw.currentReqSeq }
                  : Fw η }.submitPayload .sockRecv req) := by
  have hlatch : ∀ l : RetryLatch, ∀ seq, retryLatchServe l seq .sockRecv cap = (none, l) :=
    fun _ _ => rfl
  have hlen : req.length ≤ maxPayload := by rw [hl]; decide
  subst hlast
  set fw₁ : Fw η := { fw with
    last := sockRecvLast fw (sockRecvKey fw.currentReqSeq req) cap
    recv := recv
    worker := (workerDiscardStaleRecv fw.worker).2 } with hfw₁
  have h := routedPoll_outcome fw₁ .sockRecv cap fun fw =>
    { fw with recv := { fw.recv with jobSeq := fw.currentReqSeq } : Fw η }.submitPayload .sockRecv req
  generalize routedPoll fw₁ .sockRecv cap _ = out at h ⊢
  cases h with
  | latched hs => rw [hlatch] at hs; simp at hs
  | collected _ hcmd ht =>
      rcases discardStaleRecv_cases fw.worker with ⟨hw, hn⟩ | ⟨-, hw⟩
      · exact absurd (by simpa [hfw₁, hw] using And.intro hcmd ht) hn
      · rw [hfw₁] at ht
        simp only [hw] at ht
        exact absurd rfl ht.ne_idle
  | @submitted l w hs hi hw =>
      obtain rfl : fw.latch = l := by rw [hlatch] at hs; exact (Prod.mk.inj hs).2
      simp only [Fw.submitPayload]
      rw [workerSubmitPayload_idle hi hlen]
      refine RecvOutcome.submitted hl rfl hr hc hi ?_
      rcases discardStaleRecv_cases fw.worker with ⟨hd, -⟩ | ⟨ht, hd⟩
      · rcases hw with hw | ⟨-, ht, hw⟩
        · exact .inl (by simpa [hfw₁, hd] using hw)
        · exact .inr ⟨by simpa [hfw₁, hd] using ht, by simpa [hfw₁, hd] using hw⟩
      · rcases hw with hw | ⟨-, ht', -⟩
        · exact .inr ⟨ht, by simpa [hfw₁, hd] using hw⟩
        · rw [hfw₁] at ht'
          simp only [hd] at ht'
          exact absurd rfl ht'.ne_idle
  | @busy l hs hf =>
      obtain rfl : fw.latch = l := by rw [hlatch] at hs; exact (Prod.mk.inj hs).2
      rcases discardStaleRecv_cases fw.worker with ⟨hd, -⟩ | ⟨-, hd⟩
      · simp only [hfw₁, hd] at hf ⊢
        exact .busy hl rfl hr hc hf
      · rw [hfw₁] at hf
        simp only [hd] at hf
        exact absurd rfl hf.ne_idle

theorem handleSockRecv_outcome (fw : Fw η) (req : List UInt8) (cap : Nat) :
    RecvOutcome fw req cap (handleSockRecv fw req cap) := by
  unfold handleSockRecv
  by_cases hl : req.length = 4
  · rw [if_neg (by simpa using hl)]
    set key := sockRecvKey fw.currentReqSeq req with hkey
    set recv := fw.recv.forget key with hrecv
    simp only []
    rcases hring : sockRecvFromRing { fw with recv := recv } key cap with ⟨_ | r, fw₁⟩
    · obtain rfl := sockRecvFromRing_none hring
      simp only [sockRecvFromWorker]
      cases hc : recv.cached with
      | true =>
          have h : RecvOutcome fw req cap _ := .cached hl hkey hrecv hc
          unfold RecvCache.replyFor at h
          by_cases hs : key.seq = 0 <;> simp only [hs, if_true, if_false] at h ⊢ <;>
            split_ifs at h ⊢ <;> exact h
      | false =>
          simp only [Bool.false_eq_true, if_false, handleWorkerRoutedPayloadReply]
          split_ifs with hcap
          · exact .noMem hl hkey hrecv hc hcap
          · exact sockRecv_routed fw req cap hl rfl hrecv hc
    · obtain ⟨rx, last, hfw⟩ := sockRecvFromRing_snd { fw with recv := recv } key cap
      rw [hring] at hfw
      change fw₁ = _ at hfw
      subst hfw
      exact .ring hl hkey hrecv hring
  · rw [if_pos hl]
    exact .invalid hl

/-- A receive on the handle the ring is armed for is answered by the ring. -/
theorem handleSockRecv_of_owns {fw : Fw η} {req : List UInt8} {cap : Nat} (hl : req.length = 4)
    (hcap : sockRecvRespBytes < cap) (hown : fw.rx.Owns (wordAt req 0)) :
    ∃ r, sockRecvFromRing { fw with recv := fw.recv.forget (sockRecvKey fw.currentReqSeq req) }
        (sockRecvKey fw.currentReqSeq req) cap =
      (some r, (handleSockRecv fw req cap).1) ∧ (handleSockRecv fw req cap).2 = r := by
  set key := sockRecvKey fw.currentReqSeq req with hkey
  set fw₀ : Fw η := { fw with recv := fw.recv.forget key } with hfw₀
  have hown₀ : fw₀.rx.Owns key.handle := hown
  obtain ⟨r, fw₁, hring⟩ := sockRecvFromRing_of_owns hcap hown₀
  have heq : handleSockRecv fw req cap = (fw₁, r) := by
    unfold handleSockRecv
    rw [if_neg (by simpa using hl)]
    simp only []
    rw [← hkey, ← hfw₀, hring]
  exact ⟨r, by rw [heq, hring], by rw [heq]⟩

/-- A receive on another handle leaves the ring alone and is remembered. -/
theorem handleSockRecv_of_not_owns {fw : Fw η} {req : List UInt8} {cap : Nat} (hl : req.length = 4)
    (hown : ¬ fw.rx.Owns (wordAt req 0)) :
    (handleSockRecv fw req cap).1.rx = fw.rx ∧
      (handleSockRecv fw req cap).1.last =
        sockRecvLast fw (sockRecvKey fw.currentReqSeq req) cap := by
  have h := handleSockRecv_outcome fw req cap
  generalize handleSockRecv fw req cap = out at h
  cases h with
  | invalid hl' => exact absurd hl hl'
  | ring _ hk _ hring =>
      subst hk
      exact absurd (sockRecvFromRing_owns hring) hown
  | cached _ hk _ _ => exact ⟨rfl, by rw [← hk]⟩
  | noMem _ hk _ _ _ => exact ⟨rfl, by rw [← hk]⟩
  | submitted _ hk _ _ _ _ => exact ⟨rfl, by rw [← hk]⟩
  | busy _ hk _ _ _ => exact ⟨rfl, by rw [← hk]⟩

/-! ## Every dispatch -/

section

variable (E : Env η) (fw : Fw η) (req : List UInt8) (cap : Nat)

/-- `SOCK_CLOSE` is plain once the cached receive of its handle is forgotten. -/
theorem handleSockClose_plain (hl : req.length = 4) :
    Plain .sockClose req { fw with recv := fw.recv.forgetHandle (wordAt req 0) }
      (handleSockClose E fw req) := by
  unfold handleSockClose
  rw [if_neg (by simpa using hl)]
  exact .workerRoutedPayload E rfl

theorem handleSockClose_invalid (hl : req.length ≠ 4) :
    handleSockClose E fw req = (fw, .bare .errInvalid) := by
  rw [handleSockClose, if_pos hl]

/-- A `SOCK_SEND` makes one step on the slot and forgets a cached reply to another one. -/
theorem handleSockSend_side :
    SlotStep .sockSend req fw.worker (handleSockSend fw req cap).1.worker ∧
      (handleSockSend fw req cap).1.side = { fw.side with
        send := if sockSendValid req then fw.send.forget (sockSendSeq req) else fw.send } := by
  have h := handleSockSend_outcome fw req cap
  generalize handleSockSend fw req cap = out at h
  cases h with
  | invalid hv => exact ⟨.keep, by simp [hv, Fw.side]⟩
  | cached hv hs _ => exact ⟨dropTerminal_slotStep _ _ _ _ _, by simp [hv, hs, Fw.side]⟩
  | noMem hv hs _ _ => exact ⟨dropTerminal_slotStep _ _ _ _ _, by simp [hv, hs, Fw.side]⟩
  | routed hv hs _ hfw ho =>
      subst hfw
      have hp : Plain .sockSend req _ _ :=
        .of_outcome ho fun _ => ⟨workerSubmitPayload_slotStep _ _ rfl, rfl⟩
      obtain ⟨hslot, hq⟩ := hp
      exact ⟨hslot.of_dropTerminal, Eq.trans hq (by simp [hv, hs, Fw.side])⟩

/-- A `SOCK_RECV` makes one step on the slot. -/
theorem handleSockRecv_slot :
    SlotStep .sockRecv req fw.worker (handleSockRecv fw req cap).1.worker := by
  have h := handleSockRecv_outcome fw req cap
  generalize handleSockRecv fw req cap = out at h
  cases h with
  | invalid _ => exact .keep
  | ring _ _ _ _ => exact .keep
  | cached _ _ _ _ => exact dropTerminal_slotStep _ _ _ _ _
  | noMem _ _ _ _ _ => exact dropTerminal_slotStep _ _ _ _ _
  | submitted hl _ _ _ hi hw =>
      have hlen : req.length ≤ maxPayload := by rw [hl]; decide
      have hs : SlotStep .sockRecv req _ _ :=
        .submitPayload (fun hf => hf.ne_idle hi) rfl hlen
      rcases hw with rfl | ⟨ht, rfl⟩
      · exact hs
      · exact hs.of_reset ht
  | busy _ _ _ _ _ => exact .keep

/-- A `SOCK_RECV` leaves the send cache, the CRC table and the counters alone. -/
theorem handleSockRecv_side :
    (handleSockRecv fw req cap).1.send = fw.send ∧ (handleSockRecv fw req cap).1.crc = fw.crc ∧
      (handleSockRecv fw req cap).1.stats = fw.stats := by
  have h := handleSockRecv_outcome fw req cap
  generalize handleSockRecv fw req cap = out at h
  cases h <;> exact ⟨rfl, rfl, rfl⟩

variable {E fw req cap} {c : Cmd}

/-- Every handler makes one step on the slot. -/
theorem handle_slot : SlotStep c req fw.worker (handle E c fw req cap).1.worker := by
  by_cases h : c ≠ .sockSend ∧ c ≠ .sockRecv ∧ c ≠ .sockClose
  · exact (handle_plain E fw req cap h).slot
  · by_cases hs : c = .sockSend
    · subst hs
      exact (handleSockSend_side fw req cap).1
    · by_cases hr : c = .sockRecv
      · subst hr
        exact handleSockRecv_slot fw req cap
      · obtain rfl : c = .sockClose := by tauto
        by_cases hl : req.length = 4
        · exact (handleSockClose_plain E fw req hl).slot
        · simp only [handle, handleSockClose_invalid E fw req hl]
          exact .keep

/-- Only `SOCK_SEND` touches the send cache. -/
theorem handle_send (hc : c ≠ .sockSend) : (handle E c fw req cap).1.send = fw.send := by
  by_cases hr : c = .sockRecv
  · subst hr
    exact (handleSockRecv_side fw req cap).1
  · by_cases hcl : c = .sockClose
    · subst hcl
      by_cases hl : req.length = 4
      · exact (handleSockClose_plain E fw req hl).quiet.send
      · simp only [handle, handleSockClose_invalid E fw req hl]
    · exact (handle_plain E fw req cap ⟨hc, hr, hcl⟩).quiet.send

/-- Only `SOCK_RECV` and `SOCK_CLOSE` touch the receive cache. -/
theorem handle_recv (hr : c ≠ .sockRecv) (hcl : c ≠ .sockClose) :
    (handle E c fw req cap).1.recv = fw.recv := by
  by_cases hs : c = .sockSend
  · subst hs
    exact congrArg Side.recv (handleSockSend_side fw req cap).2
  · exact (handle_plain E fw req cap ⟨hs, hr, hcl⟩).quiet.recv

/-- Only `SOCK_RECV` touches the receive ring and the memory of the last receive. -/
theorem handle_rx (hr : c ≠ .sockRecv) :
    (handle E c fw req cap).1.rx = fw.rx ∧ (handle E c fw req cap).1.last = fw.last := by
  by_cases hs : c = .sockSend
  · subst hs
    have h := (handleSockSend_side fw req cap).2
    exact ⟨congrArg Side.rx h, congrArg Side.last h⟩
  · by_cases hcl : c = .sockClose
    · subst hcl
      by_cases hl : req.length = 4
      · have h := (handleSockClose_plain E fw req hl).quiet
        exact ⟨h.rx, h.last⟩
      · simp [handle, handleSockClose_invalid E fw req hl]
    · have h := (handle_plain E fw req cap ⟨hs, hr, hcl⟩).quiet
      exact ⟨h.rx, h.last⟩

/-- No handler touches the CRC table or the frame counters. -/
theorem handle_frame :
    (handle E c fw req cap).1.crc = fw.crc ∧ (handle E c fw req cap).1.stats = fw.stats := by
  by_cases hs : c = .sockSend
  · subst hs
    have h := (handleSockSend_side fw req cap).2
    exact ⟨congrArg Side.crc h, congrArg Side.stats h⟩
  · by_cases hr : c = .sockRecv
    · subst hr
      exact (handleSockRecv_side fw req cap).2
    · by_cases hcl : c = .sockClose
      · subst hcl
        by_cases hl : req.length = 4
        · have h := (handleSockClose_plain E fw req hl).quiet
          exact ⟨h.crc, h.stats⟩
        · simp only [handle, handleSockClose_invalid E fw req hl]
          exact ⟨trivial, trivial⟩
      · have h := (handle_plain E fw req cap ⟨hs, hr, hcl⟩).quiet
        exact ⟨h.crc, h.stats⟩

/-- No dispatch touches the CRC table or the frame counters. -/
theorem protocolDispatch_frame (cmd flags : UInt8) :
    (protocolDispatch E fw cmd flags req cap).1.crc = fw.crc ∧
      (protocolDispatch E fw cmd flags req cap).1.stats = fw.stats := by
  unfold protocolDispatch
  cases E.hdr.decode cmd with
  | none => exact ⟨rfl, rfl⟩
  | some c => exact handle_frame

end

end Cc3501eBridge
