import Cc3501eBridge.Lib.Replay
import Cc3501eBridge.Reference
import Cc3501eBridge.ResultInv

/-!
# Receives are replayed

A receive takes bytes off the socket, so a repeated `SOCK_RECV` must be answered with the bytes of
the first execution.  A receive that the prefetch ring does not serve goes through the worker, and
its outcome is kept in a cache under the request's key: header sequence number, handle and length.

The cache differs from that of sends in two ways.  The reply is copied into it byte by byte outside
any critical section, so the copy is preceded by an invalidation and followed by a publication; and
a reply to a request without a sequence number is handed out once only, which is why the statements
below are about keys with one.  `Pc.cacheCopied` counts the bytes that are in place.
-/

namespace Cc3501eBridge

variable {η : Type}

open Trace

/-! ## Receives in a history -/

/-- A well-formed `SOCK_RECV` with key `key`. -/
def Request.IsRecv (E : Env η) (key : RecvKey) (req : Request) : Prop :=
  E.hdr.decode req.cmd = some .sockRecv ∧ req.payload.length = 4 ∧
    sockRecvKey (reqSeq req.flags) req.payload = key

/-- A well-formed `SOCK_CLOSE` of `handle`. -/
def Request.IsClose (E : Env η) (handle : UInt16) (req : Request) : Prop :=
  E.hdr.decode req.cmd = some .sockClose ∧ req.payload.length = 4 ∧ wordAt req.payload 0 = handle

/-- A call of `cc3501e_hw_sock_recv`. -/
def HalCall.isRecv : HalCall → Bool
  | .sockRecv _ _ _ => true
  | _ => false

namespace Ev

/-- The dispatch that queued job number `t`, a receive with key `key`. -/
def SubmitsRecv (E : Env η) (t : Nat) (key : RecvKey) (e : Ev) : Prop :=
  ∃ req, Submits t req e ∧ req.IsRecv E key

/-- `cc3501e_hw_sock_recv` is entered for job number `t`. -/
def ExecsRecv (t : Nat) (e : Ev) : Prop := ∃ handle maxLen cap, e = .exec t (.sockRecv handle maxLen cap)

/-- A receive with another key, or a close of the key's handle, is dispatched. -/
def OtherRecv (E : Env η) (key : RecvKey) (e : Ev) : Prop :=
  ∃ req reply sub, e = .dispatch req reply sub ∧
    ((∃ key', req.IsRecv E key' ∧ key' ≠ key) ∨ req.IsClose E key.handle)

/-- The number of the job for which `cc3501e_hw_sock_recv` is entered. -/
def execRecv : Ev → Option Nat := execIf HalCall.isRecv

end Ev

/-- Receives as jobs keyed by their request, as far as they carry a sequence number. -/
def recvJobs (E : Env η) : JobEvents Ev RecvKey where
  submit t key e := key.seq ≠ 0 ∧ Ev.SubmitsRecv E t key e
  exec := Ev.ExecsRecv
  separate := Ev.OtherRecv E

/-- The answer to a receive whose HAL body returned `r`: the mapped status and, on success, the
header with the data. -/
def sockRecvReply (E : Env η) (r : HalRet) : Reply :=
  if r.rv = hwOk then { status := .ok, data := sockRecvHeader E r ++ r.data }
  else .bare (sockWorkerHwErrToResp r.rv)

/-- The most recently executed receive is job `t`, it was submitted with `key`, and it returned
`r`. -/
structure LastRecv (E : Env η) (tr : List Ev) (key : RecvKey) (t : Nat) (r : HalRet) : Prop where
  latest : latest Ev.execRecv tr = some t
  submitted : ∃ i, At (Ev.SubmitsRecv E t key) tr i
  returned : ∃ call i, At (Ev.Rets t call r) tr i

theorem LastRecv.snoc {E : Env η} {tr : List Ev} {key : RecvKey} {t : Nat} {r : HalRet} {e : Ev}
    (h : LastRecv E tr key t r) (he : e.execRecv = none) : LastRecv E (tr ++ [e]) key t r := by
  obtain ⟨hl, ⟨i, hi⟩, call, j, hj⟩ := h
  exact ⟨by simpa [he] using hl, ⟨i, hi.snoc⟩, call, j, hj.snoc⟩

/-! ## The cache -/

/-- The outcome being copied into the receive cache, with the number of its bytes in place. -/
def Pc.cacheCopied : Pc → Option (ExecOut × Nat)
  | .copyCache .sockRecv out i => some (out, i)
  | .publish .sockRecv out => some (out, out.buf.length)
  | _ => none

theorem Pc.Outside.cacheCopied {pc : Pc} (h : pc.Outside) : pc.cacheCopied = none := by
  cases pc <;> first | rfl | exact absurd h (by simp [Outside])

theorem Pc.executing_of_cacheCopied {pc : Pc} {p : ExecOut × Nat} (h : pc.cacheCopied = some p) :
    pc.executing = some .sockRecv := by
  unfold cacheCopied at h
  split at h <;> simp_all [executing]

/-- The key under which the job in the slot will be published. -/
def Sys.recvKey (s : Sys η) : RecvKey where
  seq := s.fw.recv.jobSeq
  handle := s.job.req.word 0
  maxLen := s.job.req.word 2

/-- A receive that has just been queued is published under the key of its request. -/
theorem Sys.recvKey_of_queued {s : Sys η} {w : Worker} {payload : List UInt8}
    (hl : payload.length = 4) (hw : s.fw.worker = w.queuedPayload .sockRecv payload) :
    s.recvKey = sockRecvKey s.fw.recv.jobSeq payload := by
  have hpay : s.job.payload = payload := by
    simp [Sys.job, hw, Worker.queuedPayload, Job.payload]
  have h0 : wordAt s.job.payload 0 = s.job.req.word 0 :=
    Job.wordAt_payload _ (by rw [hpay, hl]; decide)
  have h2 : wordAt s.job.payload 2 = s.job.req.word 2 :=
    Job.wordAt_payload _ (by rw [hpay, hl]; decide)
  simp only [Sys.recvKey, sockRecvKey, ← hpay, h0, h2]

/-- The packed result of a receive fits the cache, so nothing is clamped. -/
theorem execOut_sockRecv (E : Env η) (req : Buf) {r : HalRet} {n : Nat}
    (hf : r.fits (E.halCall .sockRecv req n) = true) (hr : r.rv = hwOk) :
    (E.execOut .sockRecv req r).buf = sockRecvHeader E r ++ r.data ∧
      (sockRecvHeader E r ++ r.data).length ≤ E.build.replyDataMax := by
  have hlen : (sockRecvHeader E r ++ r.data).length ≤ E.build.replyDataMax := by
    have hd : r.data.length ≤ sockRecvDataCap E.build (req.word 2) := by
      simpa [Env.halCall, HalRet.fits] using hf
    have hcap := sockRecvDataCap_le E.build (req.word 2)
    rw [List.length_append, length_sockRecvHeader]
    omega
  refine ⟨?_, hlen⟩
  have hmax : (sockRecvHeader E r ++ r.data).length ≤ maxPayload := by
    have := E.build.replyDataMax_le
    unfold maxPayload
    omega
  rw [Env.execOut, if_pos hr]
  exact List.take_of_length_le hmax

/-- Publishing a receive whose bytes are in place leaves its answer in the cache. -/
theorem sockRecvWorkerPublish_eq (E : Env η) (c : RecvCache) (req : Buf) {r : HalRet} {n : Nat}
    (hf : r.fits (E.halCall .sockRecv req n) = true) (handle maxLen : UInt16)
    (hbytes : r.rv = hwOk → c.reply.read 0 (sockRecvHeader E r ++ r.data).length =
      sockRecvHeader E r ++ r.data) :
    let out := E.execOut .sockRecv req r
    let c' := sockRecvWorkerPublish E.build c handle maxLen out.rv out.buf.length
    c'.cached = true ∧ c'.key = ⟨c.jobSeq, handle, maxLen⟩ ∧
      c'.replyFor E.build.replyDataMax = sockRecvReply E r := by
  by_cases hr : r.rv = hwOk
  · obtain ⟨hbuf, hlen⟩ := execOut_sockRecv E req hf hr
    have hrv : (E.execOut .sockRecv req r).rv = hwOk := hr
    simp only [hbuf, hrv, sockRecvWorkerPublish, true_and]
    rw [if_neg (by omega), if_pos trivial]
    refine ⟨rfl, rfl, ?_⟩
    rw [RecvCache.replyFor, if_pos rfl, if_neg (by simpa using hlen), sockRecvReply, if_pos hr]
    exact congrArg (Reply.mk .ok) (hbytes hr)
  · have hrv : (E.execOut .sockRecv req r).rv ≠ hwOk := hr
    simp only [sockRecvWorkerPublish, hrv, false_and, if_false]
    refine ⟨trivial, trivial, ?_⟩
    change (if sockWorkerHwErrToResp r.rv = .ok then _ else _) = _
    rw [if_neg (sockWorkerHwErrToResp_ne_ok _), sockRecvReply, if_neg hr]
    rfl

namespace RecvCache

theorem forget_self {c : RecvCache} {key : RecvKey} (h : c.key = key) : c.forget key = c := by
  rw [forget, if_neg]
  exact fun hc => hc.2 h.symm

/-- Forgetting drops the cache or does nothing. -/
theorem forget_cases (c : RecvCache) (key : RecvKey) :
    c.forget key = c ∨
      c.cached = true ∧ key ≠ c.key ∧ c.forget key = { c with cached := false } := by
  unfold forget
  split_ifs with h
  · exact .inr ⟨h.1, h.2, rfl⟩
  · exact .inl rfl

theorem forget_of_cached {c : RecvCache} {key : RecvKey} (h : (c.forget key).cached = true) :
    c.forget key = c ∧ c.cached = true ∧ c.key = key := by
  rcases forget_cases c key with hf | ⟨-, -, hf⟩
  · rw [hf] at h
    refine ⟨hf, h, ?_⟩
    by_contra hne
    rw [forget, if_pos ⟨h, fun heq => hne heq.symm⟩] at hf
    have := congrArg RecvCache.cached hf
    simp [h] at this
  · simp [hf] at h

theorem forgetHandle_cases (c : RecvCache) (handle : UInt16) :
    c.forgetHandle handle = c ∨
      handle = c.key.handle ∧ c.forgetHandle handle = { c with cached := false } := by
  unfold forgetHandle
  split_ifs with h
  · exact .inr ⟨h.2, rfl⟩
  · exact .inl rfl

end RecvCache

/-- The receive cache after the receive under way has been published. -/
def publishedRecv (E : Env η) (s : Sys η) (out : ExecOut) : RecvCache :=
  sockRecvWorkerPublish E.build s.fw.recv (s.job.req.word 0) (s.job.req.word 2) out.rv
    out.buf.length

/-! ## The invariant -/

/-- The outcome of job `t`, a receive with key `key`, is at hand: in the cache, or in the hands of
the drain. -/
def RecvHeld (s : Sys η) (t : Nat) (key : RecvKey) : Prop :=
  key.seq ≠ 0 ∧ ((s.fw.recv.cached = true ∧ s.fw.recv.key = key) ∨
    (s.pc.executing = some .sockRecv ∧ s.job.ticket = t ∧ s.recvKey = key))

/-- What every run keeps true of receives. -/
structure RecvInv (E : Env η) (tr : List Ev) (s : Sys η) : Prop where
  /-- While a receive is in flight the cache is empty, and the noted sequence number is that of the
  request that submitted it. -/
  inFlight : s.job.InFlight → s.job.jobCmd = .sockRecv →
    s.fw.recv.cached = false ∧ ∃ i, At (Ev.SubmitsRecv E s.job.ticket s.recvKey) tr i
  /-- The bytes copied so far are in place. -/
  bytes : ∀ out n, s.pc.cacheCopied = some (out, n) → out.rv = hwOk →
    n ≤ out.buf.length ∧ s.fw.recv.reply.read 0 n = out.buf.take n
  /-- The cache answers for the most recently executed receive. -/
  cached : s.fw.recv.cached = true → ∃ t r, LastRecv E tr s.fw.recv.key t r ∧
    s.fw.recv.replyFor E.build.replyDataMax = sockRecvReply E r
  spaced : Spaced (recvJobs E) (RecvHeld s) tr

/-- A body that is `cc3501e_hw_sock_recv` belongs to a `SOCK_RECV`. -/
theorem halCall_sockRecv {E : Env η} {cmd : Cmd} {req : Buf} {n : Nat} {handle maxLen : UInt16}
    {cap : Nat} (h : E.halCall cmd req n = .sockRecv handle maxLen cap) : cmd = .sockRecv := by
  unfold Env.halCall at h
  cases cmd <;> first | rfl | simp at h

namespace RecvInv

variable {E : Env η} {tr : List Ev} {s s' : Sys η} {e : Ev}

/-- A job is submitted under one key only. -/
theorem submits_unique (hi : SlotInv E tr s) {t i j : Nat} {k k' : RecvKey}
    (h : At (Ev.SubmitsRecv E t k) tr i) (h' : At (Ev.SubmitsRecv E t k') tr j) : k = k' := by
  obtain ⟨e, he, req, hs, -, -, rfl⟩ := h
  obtain ⟨e', he', req', hs', -, -, rfl⟩ := h'
  rw [hi.submits_inj ⟨e, he, hs⟩ ⟨e', he', hs'⟩]

private theorem submit_lt (hi : SlotInv E tr s) (t : Nat) (k : RecvKey) (i : Nat)
    (h : At ((recvJobs E).submit t k) tr i) : t < s.fw.worker.submits :=
  hi.submitted t i (h.mono fun _ ⟨_, req, hs, _⟩ => ⟨req, hs⟩)

private theorem exec_lt (hi : SlotInv E tr s) (t x : Nat) (h : At ((recvJobs E).exec t) tr x) :
    t < s.fw.worker.submits :=
  hi.executed t x (h.mono fun _ ⟨_, _, _, he⟩ => ⟨_, he⟩)

/-- The spacing survives an event that submits no receive and executes none. -/
private theorem spaced_still (hi : SlotInv E tr s) (h : RecvInv E tr s)
    (hsub : ∀ t k, ¬ Ev.SubmitsRecv E t k e) (hex : e.execRecv = none)
    (hheld : ∀ t k, RecvHeld s t k → RecvHeld s' t k ∨ Ev.OtherRecv E k e) :
    Spaced (recvJobs E) (RecvHeld s') (tr ++ [e]) := by
  refine h.spaced.snoc (submit_lt hi) (exec_lt hi) ?_ ?_ hheld
  · exact fun t k ht => absurd ht.2 (hsub t k)
  · rintro t ⟨handle, maxLen, cap, rfl⟩
    simp [Ev.execRecv, Ev.execIf, HalCall.isRecv] at hex

/-- A step that submits and executes no receive, and leaves the cache alone but for dropping it. -/
private theorem calm (hi : SlotInv E tr s) (h : RecvInv E tr s)
    (hreply : s'.fw.recv.reply = s.fw.recv.reply) (hseq : s'.fw.recv.jobSeq = s.fw.recv.jobSeq)
    (hcache : s'.fw.recv.cached = true → s'.fw.recv = s.fw.recv)
    (hdrop : s.fw.recv.cached = true → s'.fw.recv.cached = false → s.fw.recv.key.seq ≠ 0 →
      Ev.OtherRecv E s.fw.recv.key e)
    (hjob : s'.job.ident = s.job.ident ∨
      s.pc.executing ≠ some .sockRecv ∧ (s'.job.state = .idle ∨ s'.job.jobCmd ≠ .sockRecv))
    (hpc : s.pc.executing = some .sockRecv → s'.pc.executing = some .sockRecv)
    (hcop : ∀ p, s'.pc.cacheCopied = some p → s.pc.cacheCopied = some p)
    (hsub : ∀ t k, ¬ Ev.SubmitsRecv E t k e) (hex : e.execRecv = none) :
    RecvInv E (tr ++ [e]) s' := by
  refine ⟨?_, ?_, ?_, ?_⟩
  · intro hf hc
    rcases hjob with hj | ⟨-, hj⟩
    · have hstate : s'.job.state = s.job.state := congrArg JobId.state hj
      have hcmd : s'.job.jobCmd = s.job.jobCmd := congrArg JobId.cmd hj
      have hticket : s'.job.ticket = s.job.ticket := congrArg JobId.ticket hj
      have hreq : s'.job.req = s.job.req := congrArg JobId.req hj
      obtain ⟨hun, i, hsubm⟩ := h.inFlight (by rwa [Job.InFlight, ← hstate]) (hcmd ▸ hc)
      refine ⟨?_, i, ?_⟩
      · by_contra hne
        have hc' : s'.fw.recv.cached = true := by simpa using hne
        rw [hcache hc', hun] at hc'
        simp at hc'
      · rw [hticket, Sys.recvKey, hseq, hreq]
        exact hsubm.snoc
    · exact absurd hc (hj.resolve_left hf.ne_idle)
  · rw [hreply]
    exact fun out n hp => h.bytes out n (hcop _ hp)
  · intro hc
    have hsame := hcache hc
    obtain ⟨t, r, hl, hr⟩ := h.cached (hsame ▸ hc)
    rw [hsame]
    exact ⟨t, r, hl.snoc hex, hr⟩
  · refine h.spaced_still hi hsub hex ?_
    rintro t k ⟨hk, ⟨hc, rfl⟩ | ⟨hx, ht, hkey⟩⟩
    · by_cases hc' : s'.fw.recv.cached = true
      · exact .inl ⟨hk, .inl ⟨hc', by rw [hcache hc']⟩⟩
      · exact .inr (hdrop hc (by simpa using hc') hk)
    · rcases hjob with hj | ⟨hne, -⟩
      · have hticket : s'.job.ticket = s.job.ticket := congrArg JobId.ticket hj
        have hreq : s'.job.req = s.job.req := congrArg JobId.req hj
        refine .inl ⟨hk, .inr ⟨hpc hx, hticket.trans ht, ?_⟩⟩
        rw [Sys.recvKey, hseq, hreq]
        exact hkey
      · exact absurd hx hne

/-- A step that leaves the slot's identity and the cache alone. -/
private theorem still (hi : SlotInv E tr s) (h : RecvInv E tr s) (hj : s'.job.ident = s.job.ident)
    (hrecv : s'.fw.recv = s.fw.recv)
    (hpc : s.pc.executing = some .sockRecv → s'.pc.executing = some .sockRecv)
    (hcop : ∀ p, s'.pc.cacheCopied = some p → s.pc.cacheCopied = some p)
    (hsub : ∀ t k, ¬ Ev.SubmitsRecv E t k e) (hex : e.execRecv = none) :
    RecvInv E (tr ++ [e]) s' := by
  refine h.calm hi (by rw [hrecv]) (by rw [hrecv]) (fun _ => hrecv) ?_ (.inl hj) hpc hcop hsub hex
  intro hc hc'
  rw [hrecv, hc] at hc'
  simp at hc'

/-- A receive is queued. -/
private theorem submitted (hi : SlotInv E tr s) (h : RecvInv E tr s) {req : Request} {fw : Fw η}
    {reply : Reply} {w : Worker} (hreq : req.IsRecv E (sockRecvKey (reqSeq req.flags) req.payload))
    (hrecv : fw.recv = { s.fw.recv.forget (sockRecvKey (reqSeq req.flags) req.payload) with
      jobSeq := reqSeq req.flags })
    (hc : (s.fw.recv.forget (sockRecvKey (reqSeq req.flags) req.payload)).cached = false)
    (hf : ¬ s.job.InFlight) (hw : fw.worker = w.queuedPayload .sockRecv req.payload)
    (hn : w.submits = s.fw.worker.submits) :
    RecvInv E (tr ++ [.dispatch req reply (queuedBy s.fw.worker fw.worker)]) { s with fw := fw } := by
  have hl : req.payload.length = 4 := hreq.2.1
  have hq : queuedBy s.fw.worker fw.worker = some s.fw.worker.submits := by
    simp [queuedBy, hw, Worker.queuedPayload, hn]
  have hkey : (⟨fw, s.pc, s.pending, s.isOpen⟩ : Sys η).recvKey =
      sockRecvKey (reqSeq req.flags) req.payload := by
    rw [Sys.recvKey_of_queued hl hw, hrecv]
  have hcached : fw.recv.cached = false := by rw [hrecv]; exact hc
  have hx : s.pc.executing ≠ some .sockRecv := fun hx => hf (.inr (hi.running.mpr (by simp [hx])))
  rw [hq]
  refine ⟨?_, ?_, ?_, ?_⟩
  · intro _ _
    refine ⟨hcached, tr.length, at_last ⟨req, ⟨reply, ?_⟩, hkey ▸ hreq⟩⟩
    simp [Sys.job, hw, Worker.queuedPayload, hn]
  · intro out n hp
    exact absurd (Pc.executing_of_cacheCopied hp) hx
  · simp [hcached]
  · refine h.spaced.snoc (submit_lt hi) (exec_lt hi) ?_ ?_ ?_
    · -- nothing with this key is held, or the request would have been answered from the cache
      rintro t k ⟨-, req', ⟨reply', heq⟩, -, -, rfl⟩
      simp only [Ev.dispatch.injEq, Option.some.injEq] at heq
      obtain ⟨rfl, -, rfl⟩ := heq
      refine ⟨rfl, ?_⟩
      rintro t' ⟨-, ⟨hcached', hkey'⟩ | ⟨hx', -⟩⟩
      · rw [RecvCache.forget_self hkey', hcached'] at hc
        simp at hc
      · exact hx hx'
    · rintro t ⟨handle, maxLen, cap, heq⟩
      simp at heq
    · rintro t k ⟨hk, ⟨hcached', rfl⟩ | ⟨hx', -⟩⟩
      · refine .inr ⟨req, reply, _, rfl, .inl ⟨_, hreq, fun heq => ?_⟩⟩
        rw [RecvCache.forget_self heq.symm, hcached'] at hc
        simp at hc
      · exact absurd hx' hx

private theorem dispatch_step (hi : SlotInv E tr s) (h : RecvInv E tr s) {req : Request} {fw : Fw η}
    {reply : Reply}
    (hd : protocolDispatch E s.fw req.cmd req.flags req.payload req.cap = (fw, reply)) :
    RecvInv E (tr ++ [.dispatch req reply (queuedBy s.fw.worker fw.worker)])
      { s with fw := fw } := by
  -- the dispatch drops the cache at most, and queues no receive
  have hcalm : (fw.recv = s.fw.recv ∨ fw.recv = { s.fw.recv with cached := false } ∧
        (s.fw.recv.key.seq ≠ 0 → Ev.OtherRecv E s.fw.recv.key
          (.dispatch req reply (queuedBy s.fw.worker fw.worker)))) →
      (fw.worker = s.fw.worker ∨ s.fw.worker.job.Terminal ∧ fw.worker = workerReset s.fw.worker ∨
        (¬ s.job.InFlight ∧ fw.worker.job.jobCmd ≠ .sockRecv)) →
      (∀ t k, ¬ Ev.SubmitsRecv E t k (.dispatch req reply (queuedBy s.fw.worker fw.worker))) →
      RecvInv E (tr ++ [.dispatch req reply (queuedBy s.fw.worker fw.worker)])
        { s with fw := fw } := by
    intro hrecv hw hsub
    refine h.calm hi ?_ ?_ ?_ ?_ ?_ id (fun _ => id) hsub rfl
    · rcases hrecv with hr | ⟨hr, -⟩ <;> simp [hr]
    · rcases hrecv with hr | ⟨hr, -⟩ <;> simp [hr]
    · rcases hrecv with hr | ⟨hr, -⟩ <;> simp [hr]
    · intro hc hc' hk
      rcases hrecv with hr | ⟨-, ho⟩
      · rw [hr, hc] at hc'
        simp at hc'
      · exact ho hk
    · have hx : ¬ s.job.InFlight → s.pc.executing ≠ some .sockRecv := fun hf hx =>
        hf (.inr (hi.running.mpr (by simp [hx])))
      rcases hw with hw | ⟨ht, hw⟩ | ⟨hf, hc⟩
      · exact .inl (by simp [Sys.job, hw])
      · exact .inr ⟨hx ht.not_inFlight, .inl (by simp [Sys.job, hw, workerReset])⟩
      · exact .inr ⟨hx hf, .inr hc⟩
  have hquiet : fw.worker.submits = s.fw.worker.submits →
      ∀ t k, ¬ Ev.SubmitsRecv E t k (.dispatch req reply (queuedBy s.fw.worker fw.worker)) := by
    rintro hn t k ⟨req', ⟨reply', heq⟩, -⟩
    simp [queuedBy, hn] at heq
  rcases dispatch_recv hd with ⟨hdec, ho⟩ | ⟨hdec, hl, hrecv⟩ | ⟨hdec, hrecv, -⟩
  · -- `SOCK_RECV`
    set key := sockRecvKey (reqSeq req.flags) req.payload with hkey
    have hforget : req.payload.length = 4 → s.fw.recv.forget key = s.fw.recv ∨
        s.fw.recv.forget key = { s.fw.recv with cached := false } ∧
          (s.fw.recv.key.seq ≠ 0 → Ev.OtherRecv E s.fw.recv.key
            (.dispatch req reply (queuedBy s.fw.worker fw.worker))) := by
      intro hl
      rcases s.fw.recv.forget_cases key with hf | ⟨-, hne, hf⟩
      · exact .inl hf
      · exact .inr ⟨hf, fun _ => ⟨req, reply, _, rfl, .inl ⟨key, ⟨hdec, hl, rfl⟩, hne⟩⟩⟩
    have hdropped : ∀ cmd p, (dropTerminal s.fw.worker cmd p).2 = s.fw.worker ∨
        s.fw.worker.job.Terminal ∧
          (dropTerminal s.fw.worker cmd p).2 = workerReset s.fw.worker := by
      intro cmd p
      rcases dropTerminal_cases s.fw.worker cmd p with hd | ⟨-, ht, -, hd⟩
      · exact .inl hd
      · exact .inr ⟨ht, hd⟩
    have hsame : ∀ cmd p, (dropTerminal s.fw.worker cmd p).2.submits = s.fw.worker.submits := by
      intro cmd p
      rcases hdropped cmd p with hd | ⟨-, hd⟩ <;> rw [hd]
      rfl
    cases ho with
    | invalid _ => exact hcalm (.inl rfl) (.inl rfl) (hquiet rfl)
    | ring hl hk hr _ =>
        subst hr hk
        exact hcalm (hforget hl) (.inl rfl) (hquiet rfl)
    | cached hl hk hr hc =>
        subst hr hk
        obtain ⟨hself, -, hkey'⟩ := RecvCache.forget_of_cached hc
        refine hcalm ?_ ((hdropped _ _).imp_right .inl) (hquiet (hsame _ _))
        -- a reply without a sequence number is handed out once
        simp only [Fw.latchSeq_recv] at hself hkey' ⊢
        rw [hself]
        split_ifs with h0
        · exact .inr ⟨rfl, fun hne => absurd (hkey' ▸ h0) hne⟩
        · exact .inl rfl
    | noMem hl hk hr _ _ =>
        subst hr hk
        exact hcalm (hforget hl) ((hdropped _ _).imp_right .inl) (hquiet (hsame _ _))
    | submitted hl hk hr hc hidle hw =>
        subst hr hk
        refine h.submitted hi ⟨hdec, hl, rfl⟩ rfl hc ?_ rfl ?_
        · rcases hw with rfl | ⟨ht, -⟩
          · exact fun hf => hf.ne_idle hidle
          · exact ht.not_inFlight
        · rcases hw with rfl | ⟨-, rfl⟩ <;> rfl
    | busy hl hk hr _ _ =>
        subst hr hk
        exact hcalm (hforget hl) (.inl rfl) (hquiet rfl)
  all_goals
    have hne : E.hdr.decode req.cmd ≠ some .sockRecv := by simp [hdec]
    have hsub : ∀ t k, ¬ Ev.SubmitsRecv E t k
        (.dispatch req reply (queuedBy s.fw.worker fw.worker)) := by
      rintro t k ⟨req', ⟨reply', heq⟩, hdec', -⟩
      simp only [Ev.dispatch.injEq] at heq
      exact hne (heq.1 ▸ hdec')
    have hw : fw.worker = s.fw.worker ∨
        s.fw.worker.job.Terminal ∧ fw.worker = workerReset s.fw.worker ∨
          (¬ s.job.InFlight ∧ fw.worker.job.jobCmd ≠ .sockRecv) := by
      rcases dispatch_slot hd with hw | ⟨c, hc, hslot⟩
      · exact .inl hw
      · have hne' : c ≠ .sockRecv := fun heq => hne (heq ▸ hc)
        generalize fw.worker = w' at hslot ⊢
        cases hslot with
        | keep => exact .inl rfl
        | free ht => exact .inr (.inl ⟨ht, rfl⟩)
        | submit hf _ => exact .inr (.inr ⟨hf, hne'⟩)
        | submitPayload hf _ _ => exact .inr (.inr ⟨hf, hne'⟩)
    refine hcalm ?_ hw hsub
  · -- `SOCK_CLOSE`
    rcases s.fw.recv.forgetHandle_cases (wordAt req.payload 0) with hf | ⟨hh, hf⟩
    · exact .inl (hrecv.trans hf)
    · exact .inr ⟨hrecv.trans hf, fun _ => ⟨req, reply, _, rfl, .inr ⟨hdec, hl, hh⟩⟩⟩
  · exact .inl hrecv

/-- One more byte is copied into the cache, which is not in use meanwhile. -/
private theorem copyCache_step (hi : SlotInv E tr s) (h : RecvInv E tr s) {out : ExecOut} {i : Nat}
    (hlt : i < out.buf.length) (hpc : s.pc = .copyCache .sockRecv out i) :
    RecvInv E (tr ++ [.tau])
      { s with fw := s.fw.storeCache i out.buf[i], pc := .copyCache .sockRecv out (i + 1) } := by
  have hx : s.pc.executing = some .sockRecv := by rw [hpc]; rfl
  have hrun : s.job.state = .running := hi.running.mpr (by simp [hx])
  obtain ⟨hun, j, hj⟩ := h.inFlight (.inr hrun) (hi.cmd _ hx)
  refine ⟨fun _ _ => ⟨hun, j, hj.snoc⟩, ?_, ?_, ?_⟩
  · intro out' n hp ho
    obtain ⟨rfl, rfl⟩ : out = out' ∧ i + 1 = n := by simpa [Pc.cacheCopied] using hp
    have hread := h.bytes out i (by rw [hpc]; rfl) ho
    exact ⟨hlt, Buf.read_set_next _ hlt hread.2⟩
  · intro hc
    exact absurd hc (by change ¬ s.fw.recv.cached = true; simp [hun])
  · refine h.spaced_still hi ?_ rfl ?_
    · rintro t k ⟨req, ⟨reply, heq⟩, -⟩
      simp at heq
    · rintro t k ⟨hk, ⟨hc, -⟩ | ⟨-, hh⟩⟩
      · simp [hun] at hc
      · exact .inl ⟨hk, .inr ⟨rfl, hh⟩⟩

/-- A receive that is published is in the cache under its own key, with its own answer. -/
theorem published (hi : SlotInv E tr s) (hres : ResultInv E tr s) (h : RecvInv E tr s)
    {out : ExecOut} (hpc : s.pc = .publish .sockRecv out) :
    ∃ r, Returned E tr s.job r ∧ out = E.execOut .sockRecv s.job.req r ∧
      (publishedRecv E s out).cached = true ∧ (publishedRecv E s out).key = s.recvKey ∧
      (publishedRecv E s out).replyFor E.build.replyDataMax = sockRecvReply E r := by
  have hcmd : s.job.jobCmd = .sockRecv := hi.cmd _ (by rw [hpc]; rfl)
  obtain ⟨r, hret, hout, -⟩ := hres.copied out _ (by rw [hpc]; rfl)
  have hread := h.bytes out _ (by rw [hpc]; rfl)
  have hf := hret.1
  rw [Job.outOf, hcmd] at hout
  rw [Job.call, hcmd] at hf
  subst hout
  refine ⟨r, hret, rfl, ?_⟩
  refine sockRecvWorkerPublish_eq E s.fw.recv s.job.req hf _ _ fun ho => ?_
  have hbuf := (execOut_sockRecv E s.job.req hf ho).1
  have hbytes := (hread ho).2
  rwa [List.take_length, hbuf] at hbytes

/-- The drain publishes: a receive goes into the cache under its own key. -/
private theorem publish_step (hi : SlotInv E tr s) (hres : ResultInv E tr s) (h : RecvInv E tr s)
    {cmd : Cmd} {out : ExecOut} (hpc : s.pc = .publish cmd out) :
    RecvInv E (tr ++ [.publish s.job.ticket cmd])
      { s with fw := workerPublish E s.fw cmd out, pc := .reinit cmd } := by
  have hx : s.pc.executing = some cmd := by rw [hpc]; rfl
  have hrun : s.job.state = .running := hi.running.mpr (by simp [hx])
  have hcmd : s.job.jobCmd = cmd := hi.cmd cmd hx
  have hsub : ∀ t k, ¬ Ev.SubmitsRecv E t k (.publish s.job.ticket cmd) := by
    rintro t k ⟨req, ⟨reply, heq⟩, -⟩
    simp at heq
  have hterm : (s.job.finish out).Terminal := s.job.finish_terminal out
  by_cases hc : cmd = .sockRecv
  · subst hc
    obtain ⟨hun, j, hj⟩ := h.inFlight (.inr hrun) hcmd
    obtain ⟨r, ⟨-, i, hr⟩, -, hcached, hkey, hreply⟩ := h.published hi hres hpc
    refine ⟨fun hf => absurd hf hterm.not_inFlight, by simp [Pc.cacheCopied], ?_, ?_⟩
    · intro _
      refine ⟨s.job.ticket, r, ⟨?_, ⟨j, ?_⟩, _, i, hr.snoc⟩, hreply⟩
      · rw [latest_snoc]
        refine hres.entered (by rw [hpc]; rfl) _ ?_
        rw [Job.call, hcmd]
        rfl
      · refine hj.snoc.mono fun e he => ?_
        change Ev.SubmitsRecv E _ (publishedRecv E s out).key e
        rw [hkey]
        exact he
    · refine h.spaced_still hi hsub rfl ?_
      rintro t k ⟨hk, ⟨hh, -⟩ | ⟨-, -, rfl⟩⟩
      · simp [hun] at hh
      · exact .inl ⟨hk, .inl ⟨hcached, hkey⟩⟩
  · refine h.calm hi ?_ ?_ ?_ ?_ (.inr ⟨by simp [hx, hc], .inr ?_⟩) (by simp [hx, hc])
      (by simp [Pc.cacheCopied]) hsub rfl
    · simp [workerPublish, hc]
    · simp [workerPublish, hc]
    · simp [workerPublish, hc]
    · intro hc₁ hc₂
      simp [workerPublish, hc, hc₁] at hc₂
    · change (s.job.finish out).jobCmd ≠ .sockRecv
      rwa [Job.finish_jobCmd, hcmd]

/-- The invariant is kept by every step. -/
theorem step (hi : SlotInv E tr s) (hres : ResultInv E tr s) (h : RecvInv E tr s)
    (hs : CoreStep E s s' e) : RecvInv E (tr ++ [e]) s' := by
  have hno : ∀ {e : Ev}, (∀ req reply sub, e ≠ .dispatch req reply sub) →
      ∀ t k, ¬ Ev.SubmitsRecv E t k e := by
    rintro e he t k ⟨req, ⟨reply, rfl⟩, -⟩
    exact he _ _ _ rfl
  cases hs with
  | silent hw _ hrecv _ hpc he =>
      refine h.still hi (by simp [Sys.job, hw]) hrecv ?_ ?_ (hno ?_) (he.execIf _)
      · rcases hpc with hpc | ⟨ho, -⟩
        · simp [hpc]
        · simp [ho.executing]
      · rcases hpc with hpc | ⟨-, ho'⟩
        · simp [hpc]
        · simp [ho'.cacheCopied]
      · rintro req reply sub rfl
        exact he
  | dispatch hd => exact h.dispatch_step hi hd
  | promote hpc hq =>
      have hx : s.pc.executing = none := by rw [hpc]; rfl
      refine ⟨?_, by simp [Pc.cacheCopied], ?_, ?_⟩
      · intro _ hc
        obtain ⟨hun, i, hsub⟩ := h.inFlight (.inl hq) hc
        exact ⟨hun, i, hsub.snoc⟩
      · intro hc
        obtain ⟨t, r, hl, hr⟩ := h.cached hc
        exact ⟨t, r, hl.snoc rfl, hr⟩
      · refine h.spaced_still hi (hno (by simp)) rfl ?_
        rintro t k ⟨hk, hh | ⟨hx', -⟩⟩
        · exact .inl ⟨hk, .inl hh⟩
        · simp [hx] at hx'
  | @exec cmd _ hpc =>
      have hx : s.pc.executing = some cmd := by rw [hpc]; rfl
      have hrun : s.job.state = .running := hi.running.mpr (by simp [hx])
      have hcmd : s.job.jobCmd = cmd := hi.cmd cmd hx
      refine ⟨?_, by simp [Pc.cacheCopied], ?_, ?_⟩
      · intro hf hc
        obtain ⟨hun, i, hsub⟩ := h.inFlight hf hc
        exact ⟨hun, i, hsub.snoc⟩
      · -- if the body is a receive, the cache is empty
        intro hc
        obtain ⟨t, r, hl, hr⟩ := h.cached hc
        refine ⟨t, r, hl.snoc ?_, hr⟩
        by_contra hne
        have hrecv : cmd = .sockRecv := by
          cases hcall : E.halCall cmd s.job.req s.job.reqLen with
          | sockRecv handle maxLen cap => exact halCall_sockRecv hcall
          | _ => simp [hcall, Ev.execRecv, Ev.execIf, HalCall.isRecv] at hne
        have hun := (h.inFlight (.inr hrun) (hcmd.trans hrecv)).1
        rw [hc] at hun
        simp at hun
      · refine h.spaced.snoc (submit_lt hi) (exec_lt hi) ?_ ?_ ?_
        · exact fun t k ht => absurd ht.2 (hno (by simp) t k)
        · rintro t ⟨handle, maxLen, cap, heq⟩
          obtain ⟨rfl, hcall⟩ := Ev.exec.inj heq
          obtain rfl := halCall_sockRecv hcall
          refine ⟨hi.latest (by simp [hrun]), fun t' k ht => hno (by simp) t' k ht.2, ?_⟩
          intro k i hk
          obtain ⟨-, j, hj⟩ := h.inFlight (.inr hrun) hcmd
          have hk' := hk.mono fun _ he => he.2
          obtain ⟨e, -, hne, -⟩ := hk
          exact ⟨hne, .inr ⟨rfl, rfl, submits_unique hi hj hk'⟩⟩
        · rintro t k ⟨hk, hh | ⟨hx', hh⟩⟩
          · exact .inl ⟨hk, .inl hh⟩
          · exact .inl ⟨hk, .inr ⟨hx.symm.trans hx', hh⟩⟩
  | @ret cmd call r _ hpc _ _ =>
      refine h.still hi rfl rfl ?_ ?_ (hno (by simp)) rfl
      · rw [hpc]
        dsimp only
        split_ifs
        · exact fun _ => rfl
        · exact id
      · dsimp only
        split_ifs <;> simp [Pc.cacheCopied]
  | invalidate hpc =>
      have hx : s.pc.executing = some .sockRecv := by rw [hpc]; rfl
      have hrun : s.job.state = .running := hi.running.mpr (by simp [hx])
      -- the cache was dropped before the receive was queued
      have hun := (h.inFlight (.inr hrun) (hi.cmd _ hx)).1
      refine h.still hi rfl ?_ (fun _ => rfl) (by simp [Pc.cacheCopied]) (hno (by simp)) rfl
      cases hr : s.fw.recv
      simp_all [sockRecvWorkerInvalidate]
  | copyResult _ hpc _ =>
      exact h.still hi rfl rfl (by rw [hpc]; exact id) (by simp [Pc.cacheCopied]) (hno (by simp)) rfl
  | @copyResultDone cmd out i hpc _ =>
      have hx : s.pc.executing = some cmd := by rw [hpc]; rfl
      refine ⟨?_, ?_, ?_, ?_⟩
      · intro hf hc
        obtain ⟨hun, i, hsub⟩ := h.inFlight hf hc
        exact ⟨hun, i, hsub.snoc⟩
      · intro out' n hp _
        have hn : n = 0 := by
          cases cmd <;> simp [Pc.cacheCopied] at hp
          exact hp.2.symm
        subst hn
        simp
      · intro hc
        obtain ⟨t, r, hl, hr⟩ := h.cached hc
        exact ⟨t, r, hl.snoc rfl, hr⟩
      · refine h.spaced_still hi (hno (by simp)) rfl ?_
        rintro t k ⟨hk, hh | ⟨hx', hh⟩⟩
        · exact .inl ⟨hk, .inl hh⟩
        · exact .inl ⟨hk, .inr ⟨hx.symm.trans hx', hh⟩⟩
  | copyCache hlt hpc hc =>
      obtain ⟨rfl, -⟩ := hc
      exact h.copyCache_step hi hlt hpc
  | @copyCacheDone cmd out i hpc hdone =>
      have hx : s.pc.executing = some cmd := by rw [hpc]; rfl
      refine ⟨?_, ?_, ?_, ?_⟩
      · intro hf hc
        obtain ⟨hun, i, hsub⟩ := h.inFlight hf hc
        exact ⟨hun, i, hsub.snoc⟩
      · intro out' n hp ho
        have hc : cmd = .sockRecv := by
          have := Pc.executing_of_cacheCopied hp
          simpa [Pc.executing] using this
        subst hc
        obtain ⟨rfl, rfl⟩ : out = out' ∧ out.buf.length = n := by
          simp only [Pc.cacheCopied, Option.some.injEq, Prod.mk.injEq] at hp
          exact ⟨hp.1, hp.1 ▸ hp.2⟩
        have hread := h.bytes out i (by rw [hpc]; rfl) ho
        have hlen : out.buf.length ≤ E.build.replyDataMax := by
          obtain ⟨r, ⟨hf, -⟩, hout, -⟩ := hres.copied out _ (by rw [hpc]; rfl)
          have hcmd : s.job.jobCmd = .sockRecv := hi.cmd _ hx
          rw [Job.call, hcmd] at hf
          rw [Job.outOf, hcmd] at hout
          subst hout
          obtain ⟨hbuf, hlen⟩ := execOut_sockRecv E s.job.req hf ho
          rwa [hbuf]
        obtain rfl : i = out.buf.length := by
          have : ¬ i < out.buf.length := fun hlt => hdone ⟨⟨rfl, ho, hlen⟩, hlt⟩
          omega
        exact hread
      · intro hc
        obtain ⟨t, r, hl, hr⟩ := h.cached hc
        exact ⟨t, r, hl.snoc rfl, hr⟩
      · refine h.spaced_still hi (hno (by simp)) rfl ?_
        rintro t k ⟨hk, hh | ⟨hx', hh⟩⟩
        · exact .inl ⟨hk, .inl hh⟩
        · exact .inl ⟨hk, .inr ⟨hx.symm.trans hx', hh⟩⟩
  | publish hpc => exact h.publish_step hi hres hpc
  | reinit hpc =>
      exact h.still hi rfl rfl (by rw [hpc]; exact id) (by simp [Pc.cacheCopied]) (hno (by simp)) rfl
  | reset hpc _ =>
      refine h.calm hi rfl rfl (fun _ => rfl) ?_ (.inr ⟨by simp [hpc, Pc.executing], .inl rfl⟩)
        (by rw [hpc]; exact id) (by simp [Pc.cacheCopied]) (hno (by simp)) rfl
      intro hc hc'
      rw [hc] at hc'
      simp at hc'
  | resetSkip hpc _ =>
      exact h.still hi rfl rfl (by rw [hpc]; exact id) (by simp [Pc.cacheCopied]) (hno (by simp)) rfl
  | accept hpc _ _ =>
      exact h.still hi rfl rfl (by rw [hpc]; exact id) (by simp [Pc.cacheCopied]) (hno (by simp)) rfl
  | acceptPush hpc =>
      exact h.still hi rfl rfl (by rw [hpc]; exact id) (by simp [Pc.cacheCopied]) (hno (by simp)) rfl

/-- The invariant holds along every run. -/
theorem of_run {hal : η} (hr : (system E).Run (.boot hal) tr s) : RecvInv E tr s := by
  have h0 : RecvInv E [] (.boot hal) := by
    refine ⟨?_, ?_, ?_, .nil⟩ <;>
      simp [Sys.boot, Sys.job, Fw.boot, Worker.init, Job.InFlight, Pc.cacheCopied]
  exact (core_invariant hr h0 fun _ _ _ _ _ hi hres h _ _ hs => h.step hi hres hs).2.2

/-- A receive that neither the ring serves nor is answered `BUSY` is answered for the most recently
executed receive. -/
theorem reply_of_dispatch (h : RecvInv E tr s) {req : Request} {fw : Fw η} {reply : Reply}
    {key : RecvKey} (hd : protocolDispatch E s.fw req.cmd req.flags req.payload req.cap = (fw, reply))
    (hreq : req.IsRecv E key) (hcap : req.cap = E.build.replyDataMax)
    (hown : ¬ s.fw.rx.Owns key.handle) (hb : reply.status ≠ .errBusy) :
    ∃ t r, LastRecv E tr key t r ∧ reply = sockRecvReply E r := by
  obtain ⟨hdec, hl, rfl⟩ := hreq
  rcases dispatch_recv hd with ⟨-, ho⟩ | ⟨hdec', -⟩ | ⟨hne, -⟩
  · cases ho with
    | invalid hl' => exact absurd hl hl'
    | ring _ hk _ hring =>
        subst hk
        exact absurd (sockRecvFromRing_owns hring) hown
    | cached _ hk hr hc =>
        subst hr hk
        obtain ⟨hself, hcached, hkey⟩ := RecvCache.forget_of_cached hc
        obtain ⟨t, r, hlast, hr⟩ := h.cached hcached
        refine ⟨t, r, hkey ▸ hlast, ?_⟩
        rw [hself, hcap]
        exact hr
    | noMem _ _ _ _ hlt =>
        have hle := sockRecvDataCap_le E.build 0
        omega
    | submitted => exact absurd rfl hb
    | busy => exact absurd rfl hb
  · rw [hdec] at hdec'
    simp at hdec'
  · exact absurd hdec hne

end RecvInv

/-! ## The guarantee -/

/-- A receive through the worker is replayed without reading the socket again.  Take any
interleaving and a key with a sequence number.  In every stretch `[a, b)` of the history without a
receive of another key and without a close of the handle, `cc3501e_hw_sock_recv` is entered at most
once for the jobs submitted in it.  And whatever state the run has reached, a receive of this key
that the ring does not own is answered `BUSY`, or with exactly the status, length and bytes of the
most recent execution, which was for this key. -/
theorem sockRecv_replayed {E : Env η} {hal : η} {tr : List Ev} {s : Sys η}
    (hr : (system E).Run (.boot hal) tr s) (key : RecvKey) (hseq : key.seq ≠ 0) :
    (∀ a b, (∀ j, a ≤ j → j < b → ¬ At (Ev.OtherRecv E key) tr j) →
      ∀ t₁ t₂ i₁ i₂ x₁ x₂, a ≤ i₁ → i₁ < b → a ≤ i₂ → i₂ < b →
        At (Ev.SubmitsRecv E t₁ key) tr i₁ → At (Ev.SubmitsRecv E t₂ key) tr i₂ →
        At (Ev.ExecsRecv t₁) tr x₁ → At (Ev.ExecsRecv t₂) tr x₂ → x₁ = x₂) ∧
    (∀ (req : Request) fw reply,
      protocolDispatch E s.fw req.cmd req.flags req.payload req.cap = (fw, reply) →
      req.IsRecv E key → req.cap = E.build.replyDataMax → ¬ s.fw.rx.Owns key.handle →
      reply.status ≠ .errBusy → ∃ t r, LastRecv E tr key t r ∧ reply = sockRecvReply E r) := by
  refine ⟨?_, ?_⟩
  · intro a b hno t₁ t₂ i₁ i₂ x₁ x₂ ha₁ hb₁ ha₂ hb₂ h₁ h₂ hx₁ hx₂
    obtain rfl : t₁ = t₂ :=
      (RecvInv.of_run hr).spaced.unique hno (h₁.mono fun _ he => ⟨hseq, he⟩)
        (h₂.mono fun _ he => ⟨hseq, he⟩) ha₁ hb₁ ha₂ hb₂ hx₁ hx₂
    exact (SlotInv.of_run hr).execOnce t₁ x₁ x₂ (hx₁.mono fun _ ⟨_, _, _, he⟩ => ⟨_, he⟩)
      (hx₂.mono fun _ ⟨_, _, _, he⟩ => ⟨_, he⟩)
  · intro req fw reply hd hreq hcap hown hb
    exact (RecvInv.of_run hr).reply_of_dispatch hd hreq hcap hown hb

open Act in
/-- Up to 16 bytes of socket 1 are asked for under sequence number 3, two arrive, and the drain
finishes. -/
def oneRecv : List (Act Unit) :=
  [dispatch (.of .sockRecv 3 [1, 0, 16, 0]), task, task,
    ret { rv := hwOk, data := [0x68, 0x69] }] ++ List.replicate 56 task

/-- The events of that run. -/
def oneRecvTrace : List Ev :=
  [.dispatch (.of .sockRecv 3 [1, 0, 16, 0]) (.bare .errBusy) (some 0), .promote 0,
    .exec 0 (.sockRecv 1 16 16),
    .ret 0 (.sockRecv 1 16 16) { rv := hwOk, data := [0x68, 0x69] }] ++ List.replicate 55 .tau ++
    [.publish 0 .sockRecv]

/-- The repetition is answered from the cache, with the two bytes of the one execution. -/
theorem sockRecv_replayed_oneRecv :
    ∃ s fw reply, (system .reference).Run (.boot ()) oneRecvTrace s ∧
      protocolDispatch .reference s.fw 0x23 0x18 [1, 0, 16, 0] 4093 = (fw, reply) ∧
      reply.status = .ok ∧
      ∃ t r, LastRecv .reference oneRecvTrace ⟨3, 1, 16⟩ t r ∧ reply = sockRecvReply .reference r := by
  have hexec : ((system .reference).exec (.boot ()) oneRecv).map Prod.snd = some oneRecvTrace := by
    decide +kernel
  have hstatus : ((system .reference).exec (.boot ()) oneRecv).map (fun p =>
      (protocolDispatch .reference p.1.fw 0x23 0x18 [1, 0, 16, 0] 4093).2.status) = some .ok := by
    decide +kernel
  have hown : ((system .reference).exec (.boot ()) oneRecv).map (fun p =>
      decide (p.1.fw.rx.Owns 1)) = some false := by decide +kernel
  obtain ⟨⟨s, tr⟩, hs, rfl⟩ := Option.map_eq_some_iff.mp hexec
  simp only [hs, Option.map_some, Option.some.injEq, decide_eq_false_iff_not] at hstatus hown
  have hrun := Machine.run_of_exec hs
  refine ⟨s, _, _, hrun, rfl, hstatus, ?_⟩
  exact (sockRecv_replayed hrun ⟨3, 1, 16⟩ (by decide)).2
    ⟨0x23, 0x18, [1, 0, 16, 0], 4093⟩ _ _ rfl ⟨by decide, by decide, by decide⟩
    (by decide) hown (fun hb => Resp.noConfusion (hstatus.symm.trans hb))

end Cc3501eBridge
