import Cc3501eBridge.Lib.Replay
import Cc3501eBridge.Reference
import Cc3501eBridge.ResultInv

/-!
# Sends happen once

A `SOCK_SEND` carries a sequence byte of its own.  The host repeats a send it got no answer to under
the same byte, and a repetition must not put the bytes on the wire a second time.

The drain publishes a finished send into the reply cache and flips the slot's state in one critical
section.  Until then the slot is in flight and a repeated send is answered `BUSY`; from then on the
cache answers it.  So the outcome of an executed send is at hand at every moment up to the first
send of another sequence byte, which is what `Spaced` asks for.
-/

namespace Cc3501eBridge

variable {η : Type}

open Trace

/-! ## Sends in a history -/

/-- A call of `cc3501e_hw_sock_send`. -/
def HalCall.isSend : HalCall → Bool
  | .sockSend _ _ _ => true
  | _ => false

/-- A `SOCK_SEND` of sequence byte `seq` that passes the length check. -/
def Request.IsSend (E : Env η) (seq : UInt8) (req : Request) : Prop :=
  E.hdr.decode req.cmd = some .sockSend ∧ sockSendValid req.payload = true ∧
    sockSendSeq req.payload = seq

namespace Ev

/-- The dispatch that queued job number `t`, a send of sequence byte `seq`. -/
def SubmitsSend (E : Env η) (t : Nat) (seq : UInt8) (e : Ev) : Prop :=
  ∃ req, Submits t req e ∧ req.IsSend E seq

/-- `cc3501e_hw_sock_send` is entered for job number `t`. -/
def ExecsSend (t : Nat) (e : Ev) : Prop := ∃ handle flags data, e = .exec t (.sockSend handle flags data)

/-- A send of another sequence byte than `seq` is dispatched. -/
def OtherSend (E : Env η) (seq : UInt8) (e : Ev) : Prop :=
  ∃ req reply sub seq', e = .dispatch req reply sub ∧ req.IsSend E seq' ∧ seq' ≠ seq

/-- The number of the job for which `cc3501e_hw_sock_send` is entered. -/
def execSend : Ev → Option Nat := execIf HalCall.isSend

end Ev

/-- Sends as jobs keyed by their sequence byte. -/
def sendJobs (E : Env η) : JobEvents Ev UInt8 where
  submit := Ev.SubmitsSend E
  exec := Ev.ExecsSend
  separate := Ev.OtherSend E

/-- The answer to a send whose HAL body returned `r`: the mapped status and, on success, the
two-byte count. -/
def sockSendReply (r : HalRet) : Reply :=
  if r.rv = hwOk then { status := .ok, data := le16 r.word } else .bare (sockWorkerHwErrToResp r.rv)

/-- The most recently executed send is job `t`, it was submitted under `seq`, and it returned `r`. -/
structure LastSend (E : Env η) (tr : List Ev) (seq : UInt8) (t : Nat) (r : HalRet) : Prop where
  latest : latest Ev.execSend tr = some t
  submitted : ∃ i, At (Ev.SubmitsSend E t seq) tr i
  returned : ∃ call i, At (Ev.Rets t call r) tr i

theorem LastSend.snoc {E : Env η} {tr : List Ev} {seq : UInt8} {t : Nat} {r : HalRet} {e : Ev}
    (h : LastSend E tr seq t r) (he : e.execSend = none) : LastSend E (tr ++ [e]) seq t r := by
  obtain ⟨hl, ⟨i, hi⟩, call, j, hj⟩ := h
  exact ⟨by simpa [he] using hl, ⟨i, hi.snoc⟩, call, j, hj.snoc⟩

/-! ## One send on slot and cache -/

/-- A request that passed the length check has its sequence byte. -/
theorem three_lt_of_sockSendValid {req : List UInt8} (h : sockSendValid req = true) :
    3 < req.length := by
  simp only [sockSendValid, Bool.and_eq_true, decide_eq_true_eq] at h
  omega

namespace SendCache

theorem forget_of_cached {c : SendCache} {seq : UInt8} (h : (c.forget seq).cached = true) :
    c.forget seq = c ∧ c.cached = true ∧ c.seq = seq := by
  unfold forget at h ⊢
  split_ifs at h ⊢ with hc
  · refine ⟨rfl, h, ?_⟩
    by_contra hne
    exact hc ⟨h, fun heq => hne heq.symm⟩

theorem forget_self {c : SendCache} {seq : UInt8} (h : c.seq = seq) : c.forget seq = c := by
  rw [forget, if_neg]
  exact fun hc => hc.2 h.symm

/-- A completed send fills the cache with its answer: the packed result of a send is two bytes. -/
theorem sockSendOnWorkerComplete_eq (E : Env η) (c : SendCache) (seq : UInt8) (req : Buf)
    (r : HalRet) :
    let out := E.execOut .sockSend req r
    let c' := sockSendOnWorkerComplete c seq out.rv out.buf
    c'.cached = true ∧ c'.seq = seq ∧ ∀ cap, 2 ≤ cap → c'.replyFor cap = sockSendReply r := by
  by_cases hr : r.rv = hwOk
  · have hbuf : (E.execOut .sockSend req r).buf = le16 r.word := by
      simp [Env.execOut, hr, Env.packOk, le16, maxPayload]
    simp only [hbuf]
    simp only [sockSendOnWorkerComplete, Env.execOut, hr, length_le16, ne_eq, not_true_eq_false,
      if_true, if_false, true_and]
    intro cap hcap
    simp [replyFor, sockSendReply, hr, show ¬ cap < 2 by omega]
  · simp only [sockSendOnWorkerComplete, Env.execOut, hr, if_false, true_and]
    intro cap _
    simp [replyFor, sockSendReply, hr, sockWorkerHwErrToResp_ne_ok]

end SendCache

/-- What a well-formed send does to slot and cache when a finished send in the slot is in the cache
as well. -/
inductive SendStep (fw : Fw η) (req : List UInt8) (cap : Nat) : Fw η → Reply → Prop
  | /-- Answered from the cache. -/
    cached {fw' : Fw η} :
      fw.send.cached = true → fw.send.seq = sockSendSeq req → fw'.send = fw.send →
      (fw'.worker = fw.worker ∨ fw.worker.job.Terminal ∧ fw'.worker = workerReset fw.worker) →
      SendStep fw req cap fw' (fw.send.replyFor cap)
  | /-- No room for a reply. -/
    noMem {fw' : Fw η} :
      cap < 2 → fw'.send = fw.send.forget (sockSendSeq req) → fw'.send.cached = false →
      (fw'.worker = fw.worker ∧ ¬ (fw.worker.job.jobCmd = .sockSend ∧ fw.worker.job.Terminal) ∨
        fw.worker.job.Terminal ∧ fw'.worker = workerReset fw.worker) →
      SendStep fw req cap fw' (.bare .errNoMem)
  | /-- Queued. -/
    submitted {fw' : Fw η} {w : Worker} :
      fw'.send = fw.send.forget (sockSendSeq req) → fw'.send.cached = false →
      ¬ fw.worker.job.InFlight → (w = fw.worker ∨ w = workerReset fw.worker) →
      fw'.worker = w.queuedPayload .sockSend req →
      SendStep fw req cap fw' (.bare .errBusy)
  | /-- The slot is free, but the request exceeds the job's buffer. -/
    refused {fw' : Fw η} :
      fw'.send = fw.send.forget (sockSendSeq req) → fw'.send.cached = false →
      fw'.worker.job.state = .idle → (fw'.worker = fw.worker ∨ fw'.worker = workerReset fw.worker) →
      ¬ fw.worker.job.InFlight → SendStep fw req cap fw' (.bare .errBusy)
  | /-- A job is in flight. -/
    busy {fw' : Fw η} :
      fw'.send = fw.send.forget (sockSendSeq req) → fw'.send.cached = false →
      fw.worker.job.InFlight → fw'.worker = fw.worker →
      SendStep fw req cap fw' (.bare .errBusy)

/-- A finished send is dropped by the stale-job guard unless it has the request's sequence byte; but
then the cache has answered already. -/
private theorem discardStale_cases {w : Worker} {c : SendCache} {seq : UInt8}
    (hv : w.job.state ≠ .idle → w.job.jobCmd = .sockSend → sockSendValid w.job.payload = true)
    (ht : w.job.Terminal → w.job.jobCmd = .sockSend → c.cached = true ∧ c.seq = w.job.req 3)
    (hc : (c.forget seq).cached = false) :
    ((workerDiscardStaleTerminal w .sockSend 3 seq).2 = w ∧
        ¬ (w.job.jobCmd = .sockSend ∧ w.job.Terminal)) ∨
      w.job.Terminal ∧ (workerDiscardStaleTerminal w .sockSend 3 seq).2 = workerReset w := by
  by_cases h : w.job.jobCmd = .sockSend ∧ w.job.Terminal
  · obtain ⟨hcached, hseq⟩ := ht h.2 h.1
    have hne : w.job.req 3 ≠ seq := by
      rintro rfl
      rw [SendCache.forget_self hseq, hcached] at hc
      simp at hc
    have hlen : 3 < w.job.reqLen := by
      simpa [Job.payload] using three_lt_of_sockSendValid (hv h.2.ne_idle h.1)
    exact .inr ⟨h.2, by simp [workerDiscardStaleTerminal, dropTerminal, h.1, h.2, hlen, hne]⟩
  · refine .inl ⟨?_, h⟩
    rw [workerDiscardStaleTerminal, dropTerminal, if_neg]
    exact fun hd => h ⟨hd.1, hd.2.1⟩

/-- Every well-formed send is one of the four. -/
theorem sendStep_of_outcome {fw : Fw η} {req : List UInt8} {cap : Nat} {out : Fw η × Reply}
    (hv : fw.worker.job.state ≠ .idle → fw.worker.job.jobCmd = .sockSend →
      sockSendValid fw.worker.job.payload = true)
    (ht : fw.worker.job.Terminal → fw.worker.job.jobCmd = .sockSend →
      fw.send.cached = true ∧ fw.send.seq = fw.worker.job.req 3)
    (hreq : sockSendValid req = true)
    (h : SendOutcome fw req cap out) : SendStep fw req cap out.1 out.2 := by
  cases h with
  | invalid hi => simp [hreq] at hi
  | cached _ hs hc =>
      subst hs
      obtain ⟨hself, hcached, hseq⟩ := SendCache.forget_of_cached hc
      rw [hself]
      refine .cached hcached hseq rfl ?_
      rcases dropTerminal_cases fw.worker .sockSend _ with hd | ⟨-, hterm, -, hd⟩
      · exact .inl hd
      · exact .inr ⟨hterm, hd⟩
  | noMem _ hs hc hcap =>
      subst hs
      exact .noMem hcap rfl hc (discardStale_cases hv ht hc)
  | @routed send fw₁ _ _ hs hc hfw ho =>
      subst hs
      have hw := discardStale_cases hv ht hc
      have hsend : fw₁.send = fw.send.forget (sockSendSeq req) := by rw [hfw]
      have hworker : fw₁.worker = (workerDiscardStaleTerminal fw.worker .sockSend 3
        (sockSendSeq req)).2 := by rw [hfw]
      rw [← hworker] at hw
      cases ho with
      | latched hl => simp [retryLatchServe, retryLatchApplies] at hl
      | collected _ hcmd hterm =>
          rcases hw with ⟨hw, hn⟩ | ⟨-, hw⟩
          · exact absurd (hw ▸ ⟨hcmd, hterm⟩) hn
          · rw [hw] at hterm
            exact absurd rfl hterm.ne_idle
      | @submitted l w _ hi hww =>
          have hf : ¬ fw.worker.job.InFlight := by
            rcases hw with ⟨hw, -⟩ | ⟨hterm, -⟩
            · rcases hww with rfl | ⟨-, hterm, -⟩
              · exact fun hf => hf.ne_idle (hw ▸ hi)
              · exact hw ▸ hterm.not_inFlight
            · exact hterm.not_inFlight
          have hwf : w = fw.worker ∨ w = workerReset fw.worker := by
            rcases hw with ⟨hw, -⟩ | ⟨-, hw⟩
            · rcases hww with rfl | ⟨-, -, rfl⟩
              · exact .inl hw
              · exact .inr (congrArg workerReset hw)
            · rcases hww with rfl | ⟨-, hterm, -⟩
              · exact .inr hw
              · rw [hw] at hterm
                exact absurd rfl hterm.ne_idle
          by_cases hl : req.length ≤ maxPayload
          · exact .submitted hsend (hsend ▸ hc) hf hwf (workerSubmitPayload_idle hi hl)
          · have hq : (workerSubmitPayload w .sockSend req).2 = w := by
              rw [workerSubmitPayload, if_pos (by omega)]
            refine .refused hsend (hsend ▸ hc) ?_ ?_ hf
            · exact (congrArg (fun w => w.job.state) hq).trans hi
            · exact hwf.imp hq.trans hq.trans
      | busy _ hf =>
          rcases hw with ⟨hw, -⟩ | ⟨-, hw⟩
          · exact .busy hsend (hsend ▸ hc) (hw ▸ hf) hw
          · rw [hw] at hf
            exact absurd rfl hf.ne_idle

/-! ## The invariant -/

/-- The outcome of job `t`, a send of sequence byte `seq`, is at hand: in the cache, or in the hands
of the drain. -/
def SendHeld (s : Sys η) (t : Nat) (seq : UInt8) : Prop :=
  (s.fw.send.cached = true ∧ s.fw.send.seq = seq) ∨
    (s.pc.executing = some .sockSend ∧ s.job.ticket = t ∧ s.job.req 3 = seq)

/-- What every run keeps true of sends. -/
structure SendInv (E : Env η) (tr : List Ev) (s : Sys η) : Prop where
  /-- A send in the slot passed the length check. -/
  valid : s.job.state ≠ .idle → s.job.jobCmd = .sockSend → sockSendValid s.job.payload = true
  /-- While a send is in flight the cache is empty. -/
  inFlight : s.job.InFlight → s.job.jobCmd = .sockSend → s.fw.send.cached = false
  /-- A finished send in the slot is in the cache too. -/
  terminal : s.job.Terminal → s.job.jobCmd = .sockSend →
    s.fw.send.cached = true ∧ s.fw.send.seq = s.job.req 3
  /-- The cache answers for the most recently executed send. -/
  cached : s.fw.send.cached = true → ∃ t r, LastSend E tr s.fw.send.seq t r ∧
    ∀ cap, 2 ≤ cap → s.fw.send.replyFor cap = sockSendReply r
  spaced : Spaced (sendJobs E) (SendHeld s) tr

/-- A body that is `cc3501e_hw_sock_send` belongs to a `SOCK_SEND`. -/
theorem halCall_sockSend {E : Env η} {cmd : Cmd} {req : Buf} {n : Nat} {handle : UInt16}
    {flags : UInt8} {data : List UInt8} (h : E.halCall cmd req n = .sockSend handle flags data) :
    cmd = .sockSend := by
  unfold Env.halCall at h
  cases cmd <;> first | rfl | simp at h

namespace SendInv

variable {E : Env η} {tr : List Ev} {s s' : Sys η} {e : Ev}

/-- The submission of the job in the slot names its sequence byte. -/
theorem seq_of_submits (hi : SlotInv E tr s) (h : SendInv E tr s) (hs : s.job.state ≠ .idle)
    (hc : s.job.jobCmd = .sockSend) : ∃ i, At (Ev.SubmitsSend E s.job.ticket (s.job.req 3)) tr i := by
  obtain ⟨req, i, hsub, hd, hp⟩ := hi.origin hs
  rw [hc] at hd hp
  have hpay : s.job.payload = req.payload := hp rfl
  have hv := h.valid hs hc
  refine ⟨i, hsub.mono fun e he => ⟨req, he, hd, hpay ▸ hv, ?_⟩⟩
  rw [sockSendSeq, ← hpay]
  exact s.job.byteAt_payload (three_lt_of_sockSendValid hv)

/-- A job is submitted under one sequence byte only. -/
theorem submits_unique (hi : SlotInv E tr s) {t i j : Nat} {k k' : UInt8}
    (h : At (Ev.SubmitsSend E t k) tr i) (h' : At (Ev.SubmitsSend E t k') tr j) : k = k' := by
  obtain ⟨e, he, req, hs, -, -, rfl⟩ := h
  obtain ⟨e', he', req', hs', -, -, rfl⟩ := h'
  rw [hi.submits_inj ⟨e, he, hs⟩ ⟨e', he', hs'⟩]

/-- The spacing survives an event that submits no send and executes none. -/
private theorem spaced_still (hi : SlotInv E tr s) (h : SendInv E tr s)
    (hsub : ∀ t k, ¬ Ev.SubmitsSend E t k e) (hex : ∀ t, ¬ Ev.ExecsSend t e)
    (hheld : ∀ t k, SendHeld s t k → SendHeld s' t k ∨ Ev.OtherSend E k e) :
    Spaced (sendJobs E) (SendHeld s') (tr ++ [e]) := by
  refine h.spaced.snoc (n := s.fw.worker.submits) ?_ ?_ ?_ ?_ hheld
  · exact fun t k i ht => hi.submitted t i (ht.mono fun _ ⟨req, hs, _⟩ => ⟨req, hs⟩)
  · exact fun t x ht => hi.executed t x (ht.mono fun _ ⟨_, _, _, he⟩ => ⟨_, he⟩)
  · exact fun t k ht => absurd ht (hsub t k)
  · exact fun t ht => absurd ht (hex t)

/-- A step that leaves slot and cache alone, apart from the job's result. -/
private theorem still (hi : SlotInv E tr s) (h : SendInv E tr s) (hj : s'.job.ident = s.job.ident)
    (hsend : s'.fw.send = s.fw.send) (hpc : s'.pc.executing = s.pc.executing)
    (hsub : ∀ t k, ¬ Ev.SubmitsSend E t k e) (hex : e.execSend = none) :
    SendInv E (tr ++ [e]) s' := by
  have hstate : s'.job.state = s.job.state := congrArg JobId.state hj
  have hcmd : s'.job.jobCmd = s.job.jobCmd := congrArg JobId.cmd hj
  have hticket : s'.job.ticket = s.job.ticket := congrArg JobId.ticket hj
  have hreq : s'.job.req = s.job.req := congrArg JobId.req hj
  have hlen : s'.job.reqLen = s.job.reqLen := congrArg JobId.reqLen hj
  refine ⟨?_, ?_, ?_, ?_, ?_⟩
  · rw [hstate, hcmd, Job.payload, hreq, hlen]
    exact h.valid
  · rw [Job.InFlight, hstate, hcmd, hsend]
    exact h.inFlight
  · rw [Job.Terminal, hstate, hcmd, hsend, hreq]
    exact h.terminal
  · rw [hsend]
    intro hc
    obtain ⟨t, r, hl, hr⟩ := h.cached hc
    exact ⟨t, r, hl.snoc hex, hr⟩
  · refine h.spaced_still hi hsub ?_ ?_
    · rintro t ⟨handle, flags, data, rfl⟩
      simp [Ev.execSend, Ev.execIf, HalCall.isSend] at hex
    · intro t k hh
      rw [SendHeld, hsend, hpc, hticket, hreq]
      exact .inl hh

/-- A step after which the slot holds no send, taken while no send is being executed. -/
private theorem vacant (hi : SlotInv E tr s) (h : SendInv E tr s)
    (hjob : s'.job.state = .idle ∨ s'.job.jobCmd ≠ .sockSend) (hsend : s'.fw.send = s.fw.send)
    (hpc : s.pc.executing ≠ some .sockSend) (hsub : ∀ t k, ¬ Ev.SubmitsSend E t k e)
    (hex : e.execSend = none) : SendInv E (tr ++ [e]) s' := by
  refine ⟨?_, ?_, ?_, ?_, ?_⟩
  · exact fun hs hc => absurd hc (hjob.resolve_left hs)
  · exact fun hf hc => absurd hc (hjob.resolve_left hf.ne_idle)
  · exact fun ht hc => absurd hc (hjob.resolve_left ht.ne_idle)
  · rw [hsend]
    intro hc
    obtain ⟨t, r, hl, hr⟩ := h.cached hc
    exact ⟨t, r, hl.snoc hex, hr⟩
  · refine h.spaced_still hi hsub ?_ ?_
    · rintro t ⟨handle, flags, data, rfl⟩
      simp [Ev.execSend, Ev.execIf, HalCall.isSend] at hex
    · rintro t k (hh | hh)
      · exact .inl (.inl (by rwa [hsend]))
      · exact absurd hh.1 hpc

/-- A send that is not answered from the cache. -/
private theorem uncached (hi : SlotInv E tr s) (h : SendInv E tr s) {req : Request} {reply : Reply}
    {sub : Option Nat} {fw : Fw η} (hreq : req.IsSend E (sockSendSeq req.payload))
    (hsend : fw.send = s.fw.send.forget (sockSendSeq req.payload)) (hc : fw.send.cached = false)
    (hvalid : fw.worker.job.state ≠ .idle → fw.worker.job.jobCmd = .sockSend →
      sockSendValid fw.worker.job.payload = true)
    (hterm : ¬ (fw.worker.job.jobCmd = .sockSend ∧ fw.worker.job.Terminal))
    (hjob : s.job.InFlight → fw.worker = s.fw.worker)
    (hsub : ∀ t, sub = some t → t = s.fw.worker.submits ∧ ¬ s.job.InFlight) :
    SendInv E (tr ++ [.dispatch req reply sub]) { s with fw := fw } := by
  have hforget : (s.fw.send.forget (sockSendSeq req.payload)).cached = false := hsend ▸ hc
  refine ⟨hvalid, fun _ _ => hc, fun ht hcmd => absurd ⟨hcmd, ht⟩ hterm, ?_, ?_⟩
  · simp [hc]
  · refine h.spaced.snoc (n := s.fw.worker.submits) ?_ ?_ ?_ ?_ ?_
    · exact fun t k i ht => hi.submitted t i (ht.mono fun _ ⟨req, hs, _⟩ => ⟨req, hs⟩)
    · exact fun t x ht => hi.executed t x (ht.mono fun _ ⟨_, _, _, he⟩ => ⟨_, he⟩)
    · -- a job is accepted only when nothing of its sequence byte is held
      rintro t k ⟨req', ⟨reply', heq⟩, -, -, hk⟩
      simp only [Ev.dispatch.injEq] at heq
      obtain ⟨rfl, -, hs⟩ := heq
      obtain ⟨rfl, hf⟩ := hsub t hs
      refine ⟨rfl, ?_⟩
      rintro t' (⟨hcached, hseq⟩ | ⟨hx, -, -⟩)
      · rw [SendCache.forget_self (hseq.trans hk.symm), hcached] at hforget
        simp at hforget
      · exact hf (.inr (hi.running.mpr (by simp [hx])))
    · rintro t ⟨handle, flags, data, heq⟩
      simp at heq
    · rintro t k (⟨hcached, hseq⟩ | hh)
      · -- the cache was dropped: this send has another sequence byte
        refine .inr ⟨req, reply, sub, _, rfl, hreq, ?_⟩
        rintro rfl
        rw [SendCache.forget_self hseq, hcached] at hforget
        simp at hforget
      · have hw := hjob (.inr (hi.running.mpr (by simp [hh.1])))
        exact .inl (.inr (by simpa [Sys.job, hw] using hh))

private theorem dispatch_step (hi : SlotInv E tr s) (h : SendInv E tr s) {req : Request} {fw : Fw η}
    {reply : Reply}
    (hd : protocolDispatch E s.fw req.cmd req.flags req.payload req.cap = (fw, reply)) :
    SendInv E (tr ++ [.dispatch req reply (queuedBy s.fw.worker fw.worker)])
      { s with fw := fw } := by
  have hquiet : fw.worker = s.fw.worker → fw.send = s.fw.send → SendInv E (tr ++
      [.dispatch req reply (queuedBy s.fw.worker fw.worker)]) { s with fw := fw } := by
    intro hw hsend
    refine h.still hi (by simp [Sys.job, hw]) hsend rfl ?_ rfl
    rintro t k ⟨req', ⟨reply', heq⟩, -⟩
    simp [queuedBy, hw] at heq
  rcases dispatch_send hd with ⟨hdec, ho⟩ | ⟨hdec, hsend⟩
  · by_cases hv : sockSendValid req.payload = true
    · have hreq : req.IsSend E (sockSendSeq req.payload) := ⟨hdec, hv, rfl⟩
      have hstep : SendStep (s.fw.latchSeq req) req.payload req.cap fw reply :=
        @sendStep_of_outcome _ (s.fw.latchSeq req) _ _ _ h.valid h.terminal hv ho
      cases hstep with
      | cached hc hseq hsend hw =>
          rcases hw with hw | ⟨ht, hw⟩
          · exact hquiet hw hsend
          · refine h.vacant hi (.inl ?_) hsend ?_ ?_ rfl
            · simp [Sys.job, hw, workerReset]
            · rw [hi.executing_none ht.ne_running]
              simp
            · rintro t k ⟨req', ⟨reply', heq⟩, -⟩
              simp [queuedBy, hw, workerReset] at heq
      | noMem _ hsend hc hw =>
          refine h.uncached hi hreq hsend hc ?_ ?_ ?_ ?_
          · rcases hw with ⟨hw, -⟩ | ⟨-, hw⟩
            · rw [hw]
              exact h.valid
            · simp [hw, workerReset]
          · rcases hw with ⟨hw, hn⟩ | ⟨-, hw⟩
            · rw [hw]
              exact hn
            · simp [hw, workerReset, Job.Terminal]
          · intro hf
            rcases hw with ⟨hw, -⟩ | ⟨ht, -⟩
            · exact hw
            · exact absurd hf ht.not_inFlight
          · intro t hsub
            rcases hw with ⟨hw, -⟩ | ⟨-, hw⟩ <;> simp [queuedBy, hw, workerReset] at hsub
      | @submitted w hsend hc hf hww hw =>
          have hn : w.submits = s.fw.worker.submits := by rcases hww with rfl | rfl <;> rfl
          refine h.uncached hi hreq hsend hc ?_ ?_ (fun hf' => absurd hf' hf) ?_
          · intro _ _
            rw [hw]
            simpa [Worker.queuedPayload, Job.payload] using hv
          · simp [hw, Worker.queuedPayload, Job.Terminal]
          · intro t hsub
            refine ⟨?_, hf⟩
            simpa [queuedBy, hw, Worker.queuedPayload, hn] using hsub.symm
      | refused hsend hc hidle hw hf =>
          refine h.uncached hi hreq hsend hc ?_ ?_ (fun hf' => absurd hf' hf) ?_
          · exact fun hs => absurd hidle hs
          · exact fun ht => ht.2.ne_idle hidle
          · intro t hsub
            rcases hw with hw | hw <;> simp [queuedBy, hw, workerReset] at hsub
      | busy hsend hc hf hw =>
          refine h.uncached hi hreq hsend hc ?_ ?_ (fun _ => hw) ?_
          · rw [hw]
            exact h.valid
          · rw [hw]
            exact fun ht => ht.2.not_inFlight hf
          · intro t hsub
            simp [queuedBy, hw] at hsub
    · -- the length check failed: nothing happened
      cases ho with
      | invalid _ => exact hquiet rfl rfl
      | cached hv' => exact absurd hv' hv
      | noMem hv' => exact absurd hv' hv
      | routed hv' => exact absurd hv' hv
  · have hsub : ∀ sub t k, ¬ Ev.SubmitsSend E t k (.dispatch req reply sub) := by
      rintro sub t k ⟨req', ⟨reply', heq⟩, hdec', -⟩
      simp only [Ev.dispatch.injEq] at heq
      exact hdec (heq.1 ▸ hdec')
    rcases dispatch_slot hd with hw | ⟨c, hc, hslot⟩
    · exact hquiet hw hsend
    · have hne : c ≠ .sockSend := fun heq => hdec (heq ▸ hc)
      by_cases hx : s.pc.executing = some .sockSend
      · have hf : s.job.InFlight := .inr (hi.running.mpr (by simp [hx]))
        exact hquiet (hslot.eq_of_inFlight hf) hsend
      · generalize hw : fw.worker = w' at hslot
        cases hslot with
        | keep => exact hw ▸ hquiet hw hsend
        | free _ =>
            exact h.vacant hi (.inl (by simp [Sys.job, hw, workerReset])) hsend hx (hsub _) rfl
        | submit _ _ =>
            refine h.vacant hi (.inr ?_) hsend hx (hsub _) rfl
            simpa [Sys.job, hw, Worker.queued] using hne
        | submitPayload _ _ _ =>
            refine h.vacant hi (.inr ?_) hsend hx (hsub _) rfl
            simpa [Sys.job, hw, Worker.queuedPayload] using hne

/-- The drain publishes: a send goes into the cache in the same critical section in which the slot
becomes finished. -/
private theorem publish_step (hi : SlotInv E tr s) (hres : ResultInv E tr s) (h : SendInv E tr s)
    {cmd : Cmd} {out : ExecOut} (hpc : s.pc = .publish cmd out) :
    SendInv E (tr ++ [.publish s.job.ticket cmd])
      { s with fw := workerPublish E s.fw cmd out, pc := .reinit cmd } := by
  have hx : s.pc.executing = some cmd := by rw [hpc]; rfl
  have hrun : s.job.state = .running := hi.running.mpr (by simp [hx])
  have hni : s.job.state ≠ .idle := by simp [hrun]
  have hcmd : s.job.jobCmd = cmd := hi.cmd cmd hx
  have hsub : ∀ t k, ¬ Ev.SubmitsSend E t k (.publish s.job.ticket cmd) := by
    rintro t k ⟨req, ⟨reply, heq⟩, -⟩
    simp at heq
  have hex : ∀ t, ¬ Ev.ExecsSend t (.publish s.job.ticket cmd) := by simp [Ev.ExecsSend]
  have hterm : (s.job.finish out).Terminal := s.job.finish_terminal out
  by_cases hc : cmd = .sockSend
  · subst hc
    obtain ⟨r, ⟨-, i, hr⟩, hout, -⟩ := hres.copied out _ (by rw [hpc]; rfl)
    obtain ⟨hcached, hseq, hreply⟩ : _ ∧ _ ∧ _ :=
      SendCache.sockSendOnWorkerComplete_eq E s.fw.send (s.job.req 3) s.job.req r
    rw [Job.outOf, hcmd] at hout
    rw [← hout] at hcached hseq hreply
    refine ⟨?_, ?_, ?_, ?_, ?_⟩
    · change (s.job.finish out).state ≠ .idle → _ → sockSendValid (s.job.finish out).payload = true
      rw [Job.finish_payload]
      exact fun _ _ => h.valid hni hcmd
    · exact fun hf => absurd hf hterm.not_inFlight
    · intro _ _
      change _ ∧ _ = (s.job.finish out).req 3
      rw [Job.finish_req]
      exact ⟨hcached, hseq⟩
    · intro _
      obtain ⟨j, hj⟩ := h.seq_of_submits hi hni hcmd
      refine ⟨s.job.ticket, r, ⟨?_, ⟨j, ?_⟩, _, i, hr.snoc⟩, hreply⟩
      · rw [latest_snoc]
        refine hres.entered (by rw [hpc]; rfl) _ ?_
        rw [Job.call, hcmd]
        rfl
      · change At (Ev.SubmitsSend E _
          (sockSendOnWorkerComplete s.fw.send (s.job.req 3) out.rv out.buf).seq) _ j
        rw [hseq]
        exact hj.snoc
    · refine h.spaced_still hi hsub hex ?_
      rintro t k (⟨hh, -⟩ | ⟨-, -, hk⟩)
      · rw [h.inFlight (.inr hrun) hcmd] at hh
        simp at hh
      · exact .inl (.inl ⟨hcached, hseq.trans hk⟩)
  · refine h.vacant hi (.inr ?_) ?_ (by simp [hx, hc]) hsub rfl
    · change (s.job.finish out).jobCmd ≠ .sockSend
      rwa [Job.finish_jobCmd, hcmd]
    · simp [workerPublish, hc]

/-- The invariant is kept by every step. -/
theorem step (hi : SlotInv E tr s) (hres : ResultInv E tr s) (h : SendInv E tr s)
    (hs : CoreStep E s s' e) : SendInv E (tr ++ [e]) s' := by
  have hno : ∀ {e : Ev}, (∀ req reply sub, e ≠ .dispatch req reply sub) →
      ∀ t k, ¬ Ev.SubmitsSend E t k e := by
    rintro e he t k ⟨req, ⟨reply, rfl⟩, -⟩
    exact he _ _ _ rfl
  cases hs with
  | silent hw hsend _ _ hpc he =>
      refine h.still hi (by simp [Sys.job, hw]) hsend ?_ (hno ?_) ?_
      · rcases hpc with hpc | ⟨ho, ho'⟩
        · rw [hpc]
        · rw [ho.executing, ho'.executing]
      · rintro req reply sub rfl
        exact he
      · cases e <;> first | rfl | exact he.elim
  | dispatch hd => exact h.dispatch_step hi hd
  | promote hpc hq =>
      have hx : s.pc.executing = none := by rw [hpc]; rfl
      have hni : s.job.state ≠ .idle := by simp [hq]
      refine ⟨fun _ => h.valid hni, fun _ => h.inFlight (.inl hq), ?_, ?_, ?_⟩
      · intro ht
        simp [Sys.job, Job.Terminal] at ht
      · intro hc
        obtain ⟨t, r, hl, hr⟩ := h.cached hc
        exact ⟨t, r, hl.snoc rfl, hr⟩
      · refine h.spaced_still hi (hno (by simp)) (by simp [Ev.ExecsSend]) ?_
        rintro t k (hh | hh)
        · exact .inl (.inl hh)
        · simp [hx] at hh
  | @exec cmd _ hpc =>
      have hx : s.pc.executing = some cmd := by rw [hpc]; rfl
      have hrun : s.job.state = .running := hi.running.mpr (by simp [hx])
      have hcmd : s.job.jobCmd = cmd := hi.cmd cmd hx
      have hni : s.job.state ≠ .idle := by simp [hrun]
      refine ⟨h.valid, h.inFlight, h.terminal, ?_, ?_⟩
      · -- if the body is a send, the cache is empty
        intro hc
        obtain ⟨t, r, hl, hr⟩ := h.cached hc
        refine ⟨t, r, hl.snoc ?_, hr⟩
        by_contra hne
        have hsend : cmd = .sockSend := by
          cases hcall : E.halCall cmd s.job.req s.job.reqLen with
          | sockSend handle flags data => exact halCall_sockSend hcall
          | _ => simp [hcall, Ev.execSend, Ev.execIf, HalCall.isSend] at hne
        have := h.inFlight (.inr hrun) (hcmd.trans hsend)
        rw [hc] at this
        simp at this
      · refine h.spaced.snoc (n := s.fw.worker.submits) ?_ ?_ ?_ ?_ (fun _ _ hh => .inl ?_)
        · exact fun t k i ht => hi.submitted t i (ht.mono fun _ hs => hs.imp fun _ h => h.1)
        · exact fun t x ht => hi.executed t x (ht.mono fun _ hs => ⟨_, hs.choose_spec.choose_spec.choose_spec⟩)
        · exact fun t k ht => absurd ht (hno (by simp) t k)
        · rintro t ⟨handle, flags, data, heq⟩
          obtain ⟨rfl, hcall⟩ := Ev.exec.inj heq
          obtain rfl := halCall_sockSend hcall
          refine ⟨hi.latest hni, hno (by simp), fun k i hk => .inr ⟨rfl, rfl, ?_⟩⟩
          obtain ⟨j, hj⟩ := h.seq_of_submits hi hni hcmd
          exact submits_unique hi hj hk
        · rcases hh with hh | ⟨hx', ht, hk⟩
          · exact .inl hh
          · exact .inr ⟨hx' ▸ hx ▸ rfl, ht, hk⟩
  | @ret cmd call r _ hpc _ _ =>
      refine h.still hi rfl rfl ?_ (hno (by simp)) rfl
      rw [hpc]
      dsimp only
      split_ifs with hc
      · rw [hc]
        rfl
      · rfl
  | invalidate hpc => exact h.still hi rfl rfl (by rw [hpc]; rfl) (hno (by simp)) rfl
  | copyResult _ hpc _ => exact h.still hi rfl rfl (by rw [hpc]; rfl) (hno (by simp)) rfl
  | copyResultDone hpc _ => exact h.still hi rfl rfl (by rw [hpc]; rfl) (hno (by simp)) rfl
  | copyCache _ hpc _ => exact h.still hi rfl rfl (by rw [hpc]; rfl) (hno (by simp)) rfl
  | copyCacheDone hpc _ => exact h.still hi rfl rfl (by rw [hpc]; rfl) (hno (by simp)) rfl
  | @publish cmd out hpc => exact h.publish_step hi hres hpc
  | reinit hpc => exact h.still hi rfl rfl (by rw [hpc]; rfl) (hno (by simp)) rfl
  | reset hpc _ =>
      refine h.vacant hi (.inl rfl) rfl ?_ (hno (by simp)) rfl
      simp [hpc, Pc.executing]
  | resetSkip hpc _ => exact h.still hi rfl rfl (by rw [hpc]; rfl) (hno (by simp)) rfl
  | accept hpc _ _ => exact h.still hi rfl rfl (by rw [hpc]; rfl) (hno (by simp)) rfl
  | acceptPush hpc => exact h.still hi rfl rfl (by rw [hpc]; rfl) (hno (by simp)) rfl

/-- The invariant holds along every run. -/
theorem of_run {hal : η} (hr : (system E).Run (.boot hal) tr s) : SendInv E tr s := by
  have h0 : SendInv E [] (.boot hal) := by
    refine ⟨?_, ?_, ?_, ?_, .nil⟩ <;>
      simp [Sys.boot, Sys.job, Fw.boot, Worker.init, Job.InFlight, Job.Terminal]
  exact (core_invariant hr h0 fun _ _ _ _ _ hi hres h _ _ hs => h.step hi hres hs).2.2

/-- A send that is not answered `BUSY` is answered for the most recently executed send. -/
theorem reply_of_dispatch (h : SendInv E tr s) {req : Request} {fw : Fw η} {reply : Reply}
    {seq : UInt8} (hd : protocolDispatch E s.fw req.cmd req.flags req.payload req.cap = (fw, reply))
    (hreq : req.IsSend E seq) (hcap : 2 ≤ req.cap) (hb : reply.status ≠ .errBusy) :
    ∃ t r, LastSend E tr seq t r ∧ reply = sockSendReply r := by
  obtain ⟨hdec, hv, rfl⟩ := hreq
  rcases dispatch_send hd with ⟨-, ho⟩ | ⟨hne, -⟩
  · have hstep : SendStep (s.fw.latchSeq req) req.payload req.cap fw reply :=
      @sendStep_of_outcome _ (s.fw.latchSeq req) _ _ _ h.valid h.terminal hv ho
    cases hstep with
    | cached hc hseq _ _ =>
        obtain ⟨t, r, hl, hr⟩ := h.cached hc
        exact ⟨t, r, hseq ▸ hl, hr _ hcap⟩
    | noMem hlt => omega
    | submitted => exact absurd rfl hb
    | refused => exact absurd rfl hb
    | busy => exact absurd rfl hb
  · exact absurd hdec hne

end SendInv

/-! ## The guarantee -/

/-- `SOCK_SEND` is at-most-once and its replies are attributed.  In every interleaving, and for every
stretch `[a, b)` of the history without a send of another sequence byte: `cc3501e_hw_sock_send` is
entered at most once for the jobs submitted in it.  And every reply to a send other than `BUSY`
is the outcome of the most recently executed send, whose request carried the same sequence byte. -/
theorem sockSend_once_and_attributed {E : Env η} {hal : η} {tr : List Ev} {s : Sys η}
    (hr : (system E).Run (.boot hal) tr s) (seq : UInt8) :
    (∀ a b, (∀ j, a ≤ j → j < b → ¬ At (Ev.OtherSend E seq) tr j) →
      ∀ t₁ t₂ i₁ i₂ x₁ x₂, a ≤ i₁ → i₁ < b → a ≤ i₂ → i₂ < b →
        At (Ev.SubmitsSend E t₁ seq) tr i₁ → At (Ev.SubmitsSend E t₂ seq) tr i₂ →
        At (Ev.ExecsSend t₁) tr x₁ → At (Ev.ExecsSend t₂) tr x₂ → x₁ = x₂) ∧
    (∀ k req reply sub, tr[k]? = some (.dispatch req reply sub) → req.IsSend E seq →
      2 ≤ req.cap → reply.status ≠ .errBusy →
      ∃ t r, LastSend E (tr.take k) seq t r ∧ reply = sockSendReply r) := by
  refine ⟨?_, ?_⟩
  · intro a b hno t₁ t₂ i₁ i₂ x₁ x₂ ha₁ hb₁ ha₂ hb₂ h₁ h₂ hx₁ hx₂
    obtain rfl : t₁ = t₂ :=
      (SendInv.of_run hr).spaced.unique hno h₁ h₂ ha₁ hb₁ ha₂ hb₂ hx₁ hx₂
    exact (SlotInv.of_run hr).execOnce t₁ x₁ x₂ (hx₁.mono fun _ ⟨_, _, _, he⟩ => ⟨_, he⟩)
      (hx₂.mono fun _ ⟨_, _, _, he⟩ => ⟨_, he⟩)
  · intro k req reply sub hk hreq hcap hb
    obtain ⟨m, act, m', hm, -, hstep⟩ := hr.step_at hk
    obtain ⟨fw, hd, -, -⟩ := (sysStep_core hstep).dispatch_inv
    exact (SendInv.of_run hm).reply_of_dispatch hd hreq hcap hb

/-- One byte is sent to socket 1 under sequence byte 7; the request is repeated after the drain has
finished it. -/
def repeatedSend : List (Act Unit) :=
  [.dispatch (.of .sockSend 0 [1, 0, 0, 7, 1, 0, 0, 0, 0x41]), .task, .task,
    .ret { rv := hwOk, word := 1 }, .task, .task, .task, .task, .task,
    .dispatch (.of .sockSend 0 [1, 0, 0, 7, 1, 0, 0, 0, 0x41])]

/-- The events of that run. -/
def repeatedSendTrace : List Ev :=
  [.dispatch (.of .sockSend 0 [1, 0, 0, 7, 1, 0, 0, 0, 0x41]) (.bare .errBusy) (some 0),
    .promote 0, .exec 0 (.sockSend 1 0 [0x41]),
    .ret 0 (.sockSend 1 0 [0x41]) { rv := hwOk, word := 1 }, .tau, .tau, .tau, .tau,
    .publish 0 .sockSend,
    .dispatch (.of .sockSend 0 [1, 0, 0, 7, 1, 0, 0, 0, 0x41]) { status := .ok, data := [1, 0] }
      none]

/-- The repetition is answered with the count of the one execution. -/
theorem sockSend_once_and_attributed_repeatedSend :
    ∃ s, (system .reference).Run (.boot ()) repeatedSendTrace s ∧
      ∃ t r, LastSend .reference (repeatedSendTrace.take 9) 7 t r ∧
        ({ status := .ok, data := [1, 0] } : Reply) = sockSendReply r := by
  have hexec : ((system .reference).exec (.boot ()) repeatedSend).map Prod.snd =
      some repeatedSendTrace := by decide +kernel
  obtain ⟨s, hs⟩ := Machine.exists_run_of_exec hexec
  refine ⟨s, hs, ?_⟩
  exact (sockSend_once_and_attributed hs 7).2 9 _ _ _ rfl ⟨by decide, by decide, by decide⟩
    (by decide) (by decide)

end Cc3501eBridge
