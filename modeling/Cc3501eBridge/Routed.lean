import Cc3501eBridge.State

/-!
# Worker-routed requests

The three helpers of `protocol.c` through which a handler answers from the job slot: ask the retry
latch, poll the slot, and either collect the result, report the error, or queue the job and answer
`BUSY`.  They differ only in the capacity they offer and in what they do when the slot is free, so
they are one definition, `routedPoll`, at three sets of arguments.

`RoutedOutcome` lists the four ways such a request can end, with the state each leaves.
-/

namespace Cc3501eBridge

variable {η : Type}

/-! ## The retry latch -/

/-- `retry_latch_applies`: the two socket data opcodes keep caches of their own. -/
def retryLatchApplies : Cmd → Bool
  | .sockSend | .sockRecv => false
  | _ => true

/-- `retry_latch_serve`: the latched reply, if this is a retry of the request it answers.  A
different sequence number of the same opcode invalidates the latch. -/
def retryLatchServe (l : RetryLatch) (curSeq : UInt8) (cmd : Cmd) (replyCap : Nat) :
    Option Reply × RetryLatch :=
  if !retryLatchApplies cmd then (none, l)
  else if curSeq = 0 then (none, l)
  else if l.valid = false ∨ l.cmd ≠ cmd then (none, l)
  else if l.seq ≠ curSeq then (none, { l with valid := false })
  else if l.data.length > replyCap then (none, l)
  else (some { status := l.status, data := l.data }, { l with hits := l.hits + 1 })

/-- `retry_latch_store`: remember a collected reply if it is short and carries a sequence number. -/
def retryLatchStore (l : RetryLatch) (curSeq : UInt8) (cmd : Cmd) (status : Resp)
    (data : List UInt8) : RetryLatch :=
  if !retryLatchApplies cmd then l
  else if curSeq = 0 then { l with valid := false }
  else if data.length > 32 then { l with valid := false }
  else { valid := true, cmd := cmd, seq := curSeq, status := status, data := data, hits := l.hits }

/-! ## Polling the slot -/

/-- How the routed helpers map the error of a finished job. -/
def workerErrToResp (err : Int8) : Resp :=
  if err = Int8.ofInt hwErrNotimpl then .errNotReady
  else if err = Int8.ofInt hwErrInval then .errInvalid
  else if err = Int8.ofInt hwErrState then .errState
  else if err = Int8.ofInt hwErrNoMem then .errNoMem
  else .errRadio

/-- The common body of the routed helpers.  `onIdle` is what happens when the slot is free. -/
def routedPoll (fw : Fw η) (cmd : Cmd) (replyCap : Nat) (onIdle : Fw η → Fw η) : Fw η × Reply :=
  match retryLatchServe fw.latch fw.currentReqSeq cmd replyCap with
  | (some r, l) => ({ fw with latch := l }, r)
  | (none, l) =>
      let (p, w) := workerPoll fw.worker cmd replyCap
      match p.st with
      | .done =>
          ({ fw with
              latch := retryLatchStore l fw.currentReqSeq cmd .ok p.out
              worker := workerReset w }, { status := .ok, data := p.out })
      | .err =>
          ({ fw with
              latch := retryLatchStore l fw.currentReqSeq cmd (workerErrToResp p.err) []
              worker := workerReset w }, .bare (workerErrToResp p.err))
      | .idle => (onIdle { fw with latch := l, worker := w }, .bare .errBusy)
      | _ => ({ fw with latch := l, worker := w }, .bare .errBusy)

/-- Queue `cmd` without a payload. -/
def Fw.submit (fw : Fw η) (cmd : Cmd) : Fw η := { fw with worker := (workerSubmit fw.worker cmd).2 }

/-- Queue `cmd` with its request bytes. -/
def Fw.submitPayload (fw : Fw η) (cmd : Cmd) (req : List UInt8) : Fw η :=
  { fw with worker := (workerSubmitPayload fw.worker cmd req).2 }

/-- `handle_worker_routed`: an opcode without request payload. -/
def handleWorkerRouted (fw : Fw η) (cmd : Cmd) (minCap : Nat) (req : List UInt8) (replyCap : Nat) :
    Fw η × Reply :=
  if req.length ≠ 0 then (fw, .bare .errInvalid)
  else if replyCap < minCap then (fw, .bare .errNoMem)
  else routedPoll fw cmd replyCap fun fw => fw.submit cmd

/-- `handle_worker_routed_payload`: an opcode whose reply carries no data; it polls with capacity
0.  A `WIFI_CONNECT_STA` about to be queued is marked as connecting. -/
def handleWorkerRoutedPayload (E : Env η) (fw : Fw η) (cmd : Cmd) (req : List UInt8) :
    Fw η × Reply :=
  routedPoll fw cmd 0 fun fw =>
    let fw := if cmd = .wifiConnectSta then { fw with hal := E.hal.wifiMarkConnecting fw.hal }
              else fw
    fw.submitPayload cmd req

/-- `handle_worker_routed_payload_reply`: an opcode with request payload and reply data.  A
`SOCK_RECV` about to be queued notes the sequence number it was asked with. -/
def handleWorkerRoutedPayloadReply (fw : Fw η) (cmd : Cmd) (req : List UInt8) (minCap : Nat)
    (replyCap : Nat) : Fw η × Reply :=
  if replyCap < minCap then (fw, .bare .errNoMem)
  else routedPoll fw cmd replyCap fun fw =>
    let fw := if cmd = .sockRecv then { fw with recv := { fw.recv with jobSeq := fw.currentReqSeq } }
              else fw
    fw.submitPayload cmd req

/-! ## The four outcomes -/

/-- The reply a finished job gives a poll of its own opcode. -/
def slotReply (j : Job) (replyCap : Nat) : Reply :=
  if j.state = .done then
    if j.resultLen ≤ replyCap then { status := .ok, data := j.resultBytes } else .bare .errNoMem
  else .bare (workerErrToResp j.err)

/-- How a routed request ends. -/
inductive RoutedOutcome (fw : Fw η) (cmd : Cmd) (replyCap : Nat) (onIdle : Fw η → Fw η) :
    Fw η × Reply → Prop
  | /-- Answered from the latch. -/
    latched {r : Reply} {l : RetryLatch} :
      retryLatchServe fw.latch fw.currentReqSeq cmd replyCap = (some r, l) →
      RoutedOutcome fw cmd replyCap onIdle ({ fw with latch := l }, r)
  | /-- Answered with the finished job in the slot, which is freed. -/
    collected {l l' : RetryLatch} :
      retryLatchServe fw.latch fw.currentReqSeq cmd replyCap = (none, l) →
      fw.worker.job.jobCmd = cmd → fw.worker.job.Terminal →
      RoutedOutcome fw cmd replyCap onIdle
        ({ fw with latch := l', worker := workerReset fw.worker }, slotReply fw.worker.job replyCap)
  | /-- The slot was idle, or held the finished job of another opcode. -/
    submitted {l : RetryLatch} {w : Worker} :
      retryLatchServe fw.latch fw.currentReqSeq cmd replyCap = (none, l) →
      w.job.state = .idle →
      (w = fw.worker ∨
        fw.worker.job.jobCmd ≠ cmd ∧ fw.worker.job.Terminal ∧ w = workerReset fw.worker) →
      RoutedOutcome fw cmd replyCap onIdle
        (onIdle { fw with latch := l, worker := w }, .bare .errBusy)
  | /-- A job is in flight. -/
    busy {l : RetryLatch} :
      retryLatchServe fw.latch fw.currentReqSeq cmd replyCap = (none, l) →
      fw.worker.job.InFlight →
      RoutedOutcome fw cmd replyCap onIdle ({ fw with latch := l }, .bare .errBusy)

/-- Every routed request ends in one of the four ways. -/
theorem routedPoll_outcome (fw : Fw η) (cmd : Cmd) (replyCap : Nat) (onIdle : Fw η → Fw η) :
    RoutedOutcome fw cmd replyCap onIdle (routedPoll fw cmd replyCap onIdle) := by
  unfold routedPoll
  rcases hl : retryLatchServe fw.latch fw.currentReqSeq cmd replyCap with ⟨_ | r, l⟩
  · rcases workerPoll_cases fw.worker cmd replyCap with
      ⟨hi, hp⟩ | ⟨hc, ht, hp⟩ | ⟨hf, st, hst, hp⟩ | ⟨hc, hd, hlen, hp⟩ | ⟨hc, hd, hlen, hp⟩ |
      ⟨hc, he, hp⟩
    · simp only [hp]
      exact .submitted hl hi (.inl rfl)
    · simp only [hp]
      exact .submitted hl rfl (.inr ⟨hc, ht, rfl⟩)
    · rcases hst with rfl | rfl <;> simp only [hp] <;> exact .busy hl hf
    · have hr : slotReply fw.worker.job replyCap = .bare (workerErrToResp (Int8.ofInt hwErrNoMem)) := by
        rw [slotReply, if_pos hd, if_neg (by omega)]
        rfl
      simp only [hp, ← hr]
      exact .collected hl hc (.inl hd)
    · have hr : slotReply fw.worker.job replyCap =
          { status := .ok, data := fw.worker.job.resultBytes } := by
        rw [slotReply, if_pos hd, if_pos hlen]
      simp only [hp, ← hr]
      exact .collected hl hc (.inl hd)
    · have hr : slotReply fw.worker.job replyCap = .bare (workerErrToResp fw.worker.job.err) := by
        rw [slotReply, if_neg (by simp [he])]
      simp only [hp, ← hr]
      exact .collected hl hc (.inr he)
  · exact .latched hl

theorem workerErrToResp_ne_busy (err : Int8) : workerErrToResp err ≠ .errBusy := by
  unfold workerErrToResp
  split_ifs <;> simp

theorem slotReply_ne_busy (j : Job) (replyCap : Nat) : (slotReply j replyCap).status ≠ .errBusy := by
  unfold slotReply
  split_ifs <;> simp [workerErrToResp_ne_busy]

end Cc3501eBridge
