import Cc3501eBridge.RecvReplay

/-!
# Receives without a sequence number

A host that sends no sequence number repeats the same `SOCK_RECV` to submit a receive, to collect it
and to ask for the next one, and nothing in the request tells these apart.  The firmware therefore
hands a cached outcome out once and forgets it.

The statement is a balance between two lists read off the history: the outcomes of the executions of
`cc3501e_hw_sock_recv`, and the replies other than `BUSY`.  Whatever has been executed and not yet
been handed out is in one place, the cache or the drain on its way there, and it is one outcome at
most.
-/

namespace Cc3501eBridge

variable {η : Type}

open Trace Machine

/-! ## Outcomes and replies in a history -/

instance (E : Env η) (key : RecvKey) (req : Request) : Decidable (req.IsRecv E key) :=
  inferInstanceAs (Decidable (_ ∧ _ ∧ _))

instance (E : Env η) (handle : UInt16) (req : Request) : Decidable (req.IsClose E handle) :=
  inferInstanceAs (Decidable (_ ∧ _ ∧ _))

namespace Ev

/-- The answer due for an execution of `cc3501e_hw_sock_recv`. -/
def recvResult (E : Env η) : Ev → Option Reply
  | .ret _ call r => if call.isRecv then some (sockRecvReply E r) else none
  | _ => none

/-- A reply other than `BUSY` to a receive with key `key`. -/
def recvReply (E : Env η) (key : RecvKey) : Ev → Option Reply
  | .dispatch req reply _ =>
      if req.IsRecv E key ∧ reply.status ≠ .errBusy then some reply else none
  | _ => none

end Ev

/-- The receives dispatched all carry `key`, are for a handle the ring does not own and offer a full
reply buffer; the handle is not closed.  Everything else is allowed. -/
def PollsOnly (E : Env η) (key : RecvKey) (s : Sys η) : Act η → Prop
  | .dispatch req =>
      (E.hdr.decode req.cmd = some .sockRecv → req.payload.length = 4 →
        req.IsRecv E key ∧ req.cap = E.build.replyDataMax ∧ ¬ s.fw.rx.Owns key.handle) ∧
      ¬ req.IsClose E key.handle
  | _ => True

instance (E : Env η) (key : RecvKey) (s : Sys η) (a : Act η) : Decidable (PollsOnly E key s a) := by
  cases a <;> unfold PollsOnly <;> infer_instance

/-! ## The outcome that is waiting -/

/-- The outcome of a receive that the drain has not published yet. -/
def Pc.recvOut : Pc → Option ExecOut
  | .invalidate out | .copyResult .sockRecv out _ | .copyCache .sockRecv out _
  | .publish .sockRecv out => some out
  | _ => none

theorem Pc.Outside.recvOut {pc : Pc} (h : pc.Outside) : pc.recvOut = none := by
  cases pc <;> first | rfl | exact absurd h (by simp [Outside])

theorem Pc.executing_of_recvOut {pc : Pc} {out : ExecOut} (h : pc.recvOut = some out) :
    pc.executing = some .sockRecv := by
  unfold recvOut at h
  split at h <;> simp_all [executing]

/-- The answer an outcome will be published as. -/
def ExecOut.recvReply (out : ExecOut) : Reply :=
  if out.rv = hwOk then { status := .ok, data := out.buf } else .bare (sockWorkerHwErrToResp out.rv)

theorem recvReply_execOut {E : Env η} {req : Buf} {r : HalRet} {n : Nat}
    (hf : r.fits (E.halCall .sockRecv req n) = true) :
    (E.execOut .sockRecv req r).recvReply = sockRecvReply E r := by
  by_cases hr : r.rv = hwOk
  · have hrv : (E.execOut .sockRecv req r).rv = hwOk := hr
    rw [ExecOut.recvReply, if_pos hrv, (execOut_sockRecv E req hf hr).1, sockRecvReply, if_pos hr]
  · have hrv : (E.execOut .sockRecv req r).rv ≠ hwOk := hr
    rw [ExecOut.recvReply, if_neg hrv, sockRecvReply, if_neg hr]
    rfl

/-- The outcome executed and not yet handed out, if there is one. -/
def Sys.heldRecv (E : Env η) (s : Sys η) : List Reply :=
  match s.pc.recvOut with
  | some out => [out.recvReply]
  | none => if s.fw.recv.cached then [s.fw.recv.replyFor E.build.replyDataMax] else []

theorem Sys.heldRecv_of_recvOut {E : Env η} {s : Sys η} {out : ExecOut}
    (h : s.pc.recvOut = some out) : s.heldRecv E = [out.recvReply] := by
  rw [heldRecv, h]

theorem Sys.heldRecv_of_none {E : Env η} {s : Sys η} (h : s.pc.recvOut = none) :
    s.heldRecv E =
      if s.fw.recv.cached then [s.fw.recv.replyFor E.build.replyDataMax] else [] := by
  rw [heldRecv, h]

theorem Sys.length_heldRecv_le (E : Env η) (s : Sys η) : (s.heldRecv E).length ≤ 1 := by
  unfold heldRecv
  split
  · simp
  · split_ifs <;> simp

/-! ## The balance -/

/-- What a run of polls with `key` keeps true, `tr` being its history. -/
structure RecvOnce (E : Env η) (key : RecvKey) (tr : List Ev) (s : Sys η) : Prop where
  /-- A receive in flight was submitted with this key. -/
  inFlight : s.job.InFlight → s.job.jobCmd = .sockRecv → s.recvKey = key
  cached : s.fw.recv.cached = true → s.fw.recv.key = key
  balance : tr.filterMap (Ev.recvResult E) = tr.filterMap (Ev.recvReply E key) ++ s.heldRecv E

/-- What a poll does: it collects, finds a job in flight, or queues a receive. -/
inductive PollOutcome (s : Sys η) (req : Request) : Fw η × Reply → Prop
  | collected {fw : Fw η} :
      s.fw.recv.cached = true → fw.recv = { s.fw.recv with cached := false } →
      (fw.worker.job.InFlight → fw.worker = s.fw.worker) →
      PollOutcome s req (fw, s.fw.recv.replyFor req.cap)
  | busy {fw : Fw η} :
      s.fw.recv.cached = false → fw.recv = s.fw.recv → fw.worker = s.fw.worker →
      PollOutcome s req (fw, .bare .errBusy)
  | queued {fw : Fw η} {w : Worker} :
      s.fw.recv.cached = false → fw.recv = { s.fw.recv with jobSeq := reqSeq req.flags } →
      ¬ s.job.InFlight → fw.worker = w.queuedPayload .sockRecv req.payload →
      PollOutcome s req (fw, .bare .errBusy)

namespace RecvOnce

variable {E : Env η} {key : RecvKey} {pre tr : List Ev} {s s' : Sys η} {e : Ev}

/-- A poll whose key is that of the cached outcome. -/
theorem pollOutcome {req : Request} {fw : Fw η} {reply : Reply}
    (hd : protocolDispatch E s.fw req.cmd req.flags req.payload req.cap = (fw, reply))
    (hcached : s.fw.recv.cached = true → s.fw.recv.key = key) (hseq : key.seq = 0)
    (hreq : req.IsRecv E key) (hcap : req.cap = E.build.replyDataMax)
    (hown : ¬ s.fw.rx.Owns key.handle) : PollOutcome s req (fw, reply) := by
  obtain ⟨hdec, hl, rfl⟩ := hreq
  -- the key is the cached one, so nothing is forgotten
  have hself : (s.fw.latchSeq req).recv.forget
      (sockRecvKey (s.fw.latchSeq req).currentReqSeq req.payload) = s.fw.recv := by
    rcases s.fw.recv.forget_cases (sockRecvKey (reqSeq req.flags) req.payload) with
      hf | ⟨hc, hne, -⟩
    · exact hf
    · exact absurd (hcached hc).symm hne
  rcases dispatch_recv hd with ⟨-, ho⟩ | ⟨hdec', -⟩ | ⟨hne, -⟩
  · cases ho with
    | invalid hl' => exact absurd hl hl'
    | ring _ hk _ hring =>
        subst hk
        exact absurd (sockRecvFromRing_owns hring) hown
    | cached _ hk hr hc =>
        rw [hk, hself] at hr
        subst hr hk
        refine .collected hc (if_pos hseq) fun hf => ?_
        rcases dropTerminal_cases s.fw.worker .sockRecv
          (fun j => 0 < j.reqLen ∧ j.req 0 = byteAt req.payload 0) with hw | ⟨-, -, -, hw⟩
        · exact hw
        · exact absurd (congrArg (fun w : Worker => w.job.state) hw) hf.ne_idle
    | noMem _ _ _ _ hlt =>
        have hle := sockRecvDataCap_le E.build 0
        omega
    | submitted _ hk hr hc hidle hw =>
        rw [hk, hself] at hr
        subst hr
        refine .queued hc rfl ?_ rfl
        rcases hw with rfl | ⟨ht, -⟩
        · exact fun hf => hf.ne_idle hidle
        · exact ht.not_inFlight
    | busy _ hk hr hc _ =>
        rw [hk, hself] at hr
        subst hr
        exact .busy hc rfl rfl
  · rw [hdec] at hdec'
    simp at hdec'
  · exact absurd hdec hne

/-- Every other dispatch leaves the cache alone, and a receive in flight after it was in flight
before. -/
theorem other_dispatch {req : Request} {fw : Fw η} {reply : Reply}
    (hd : protocolDispatch E s.fw req.cmd req.flags req.payload req.cap = (fw, reply))
    (hcached : s.fw.recv.cached = true → s.fw.recv.key = key)
    (hg : PollsOnly E key s (.dispatch req)) (hreq : ¬ req.IsRecv E key) :
    fw.recv = s.fw.recv ∧
      (fw.worker.job.InFlight → fw.worker.job.jobCmd = .sockRecv → fw.worker = s.fw.worker) := by
  have hslot : E.hdr.decode req.cmd ≠ some .sockRecv → fw.worker.job.InFlight →
      fw.worker.job.jobCmd = .sockRecv → fw.worker = s.fw.worker := by
    intro hne
    rcases dispatch_slot hd with hw | ⟨c, hc, hs⟩
    · exact fun _ _ => hw
    · have hne' : c ≠ .sockRecv := fun heq => hne (heq ▸ hc)
      generalize fw.worker = w' at hs ⊢
      cases hs with
      | keep => exact fun _ _ => rfl
      | free _ => exact fun hf _ => absurd rfl hf.ne_idle
      | submit _ _ => exact fun _ hcmd => absurd hcmd hne'
      | submitPayload _ _ _ => exact fun _ hcmd => absurd hcmd hne'
  rcases dispatch_recv hd with ⟨hdec, ho⟩ | ⟨hdec, hl, hrecv⟩ | ⟨hne, hrecv, -⟩
  · have hl : req.payload.length ≠ 4 := fun hl => hreq (hg.1 hdec hl).1
    cases ho with
    | invalid _ => exact ⟨rfl, fun _ _ => rfl⟩
    | _ => contradiction
  · refine ⟨?_, hslot (by simp [hdec])⟩
    -- only the closed handle's outcome is forgotten
    rw [hrecv]
    unfold RecvCache.forgetHandle
    split_ifs with hc
    · refine absurd ⟨hdec, hl, ?_⟩ hg.2
      rw [hc.2, hcached hc.1]
    · rfl
  · exact ⟨hrecv, hslot hne⟩

/-- While an outcome is cached, the drain executes no receive. -/
theorem not_executing (hi : SlotInv E pre s) (hr : RecvInv E pre s)
    (hc : s.fw.recv.cached = true) :
    s.pc.recvOut = none ∧ ¬ (s.job.InFlight ∧ s.job.jobCmd = .sockRecv) := by
  have hf : ¬ (s.job.InFlight ∧ s.job.jobCmd = .sockRecv) := by
    rintro ⟨hf, hcmd⟩
    rw [(hr.inFlight hf hcmd).1] at hc
    simp at hc
  refine ⟨?_, hf⟩
  cases ho : s.pc.recvOut with
  | none => rfl
  | some out =>
      have hx := Pc.executing_of_recvOut ho
      exact absurd ⟨.inr (hi.running.mpr (by simp [hx])), hi.cmd _ hx⟩ hf

/-- While a receive is executed, the cache is empty. -/
theorem cached_of_executing (hi : SlotInv E pre s) (hr : RecvInv E pre s)
    (hx : s.pc.executing = some .sockRecv) : s.fw.recv.cached = false ∧ s.job.InFlight ∧
      s.job.jobCmd = .sockRecv := by
  have hf : s.job.InFlight := .inr (hi.running.mpr (by simp [hx]))
  exact ⟨(hr.inFlight hf (hi.cmd _ hx)).1, hf, hi.cmd _ hx⟩

theorem sockRecvReply_ne_busy (E : Env η) (r : HalRet) : (sockRecvReply E r).status ≠ .errBusy := by
  unfold sockRecvReply sockWorkerHwErrToResp
  split_ifs <;> simp [Reply.bare]

/-- A step that neither answers a poll nor returns from a receive. -/
private theorem still (h : RecvOnce E key tr s)
    (hf : s'.job.InFlight → s'.job.jobCmd = .sockRecv →
      s.job.InFlight ∧ s.job.jobCmd = .sockRecv ∧ s'.recvKey = s.recvKey)
    (hc : s'.fw.recv.cached = true → s.fw.recv.cached = true ∧ s'.fw.recv.key = s.fw.recv.key)
    (hheld : s'.heldRecv E = s.heldRecv E) (hres : e.recvResult E = none)
    (hrep : e.recvReply E key = none) : RecvOnce E key (tr ++ [e]) s' := by
  refine ⟨?_, ?_, ?_⟩
  · intro hf' hcmd'
    obtain ⟨hf₀, hcmd, hkey⟩ := hf hf' hcmd'
    exact hkey.trans (h.inFlight hf₀ hcmd)
  · intro hc'
    obtain ⟨hc₀, hkey⟩ := hc hc'
    exact hkey.trans (h.cached hc₀)
  · simp [hres, hrep, hheld, h.balance]

/-- A poll. -/
private theorem poll_step (hi : SlotInv E pre s) (hr : RecvInv E pre s) (h : RecvOnce E key tr s)
    {req : Request} {fw : Fw η} {reply : Reply} {sub : Option Nat} (hreq : req.IsRecv E key)
    (hcap : req.cap = E.build.replyDataMax) (ho : PollOutcome s req (fw, reply)) :
    RecvOnce E key (tr ++ [.dispatch req reply sub]) { s with fw := fw } := by
  have hbusy : Ev.recvReply E key (.dispatch req (.bare .errBusy) sub) = none :=
    if_neg fun hn => hn.2 rfl
  cases ho with
  | collected hc hrecv hw =>
      obtain ⟨ho, hf⟩ := not_executing hi hr hc
      obtain ⟨t, r, -, hreply⟩ := hr.cached hc
      have hsome : Ev.recvReply E key (.dispatch req (s.fw.recv.replyFor req.cap) sub) =
          some (s.fw.recv.replyFor E.build.replyDataMax) := by
        rw [hcap]
        refine if_pos ⟨hreq, ?_⟩
        rw [hreply]
        exact sockRecvReply_ne_busy E r
      have hres : Ev.recvResult E (.dispatch req (s.fw.recv.replyFor req.cap) sub) = none := rfl
      refine ⟨?_, ?_, ?_⟩
      · intro hf' hcmd'
        have hsame : fw.worker = s.fw.worker := hw hf'
        refine absurd ⟨?_, ?_⟩ hf
        · simpa [Sys.job, hsame] using hf'
        · simpa [Sys.job, hsame] using hcmd'
      · simp [hrecv]
      · have hbal := h.balance
        rw [Sys.heldRecv_of_none ho, if_pos hc] at hbal
        have hheld : (⟨fw, s.pc, s.pending, s.isOpen⟩ : Sys η).heldRecv E = [] := by
          simp [Sys.heldRecv, ho, hrecv]
        simp [hsome, hres, hheld, hbal]
  | busy hc hrecv hw =>
      refine h.still ?_ ?_ ?_ rfl hbusy
      · intro hf hcmd
        simp only [Sys.job, hw] at hf hcmd
        exact ⟨hf, hcmd, by simp [Sys.recvKey, Sys.job, hw, hrecv]⟩
      · simp [hrecv]
      · simp [Sys.heldRecv, hrecv]
  | queued hc hrecv hf hw =>
      refine ⟨?_, ?_, ?_⟩
      · intro _ _
        rw [Sys.recvKey_of_queued hreq.2.1 hw, ← hreq.2.2]
        simp [hrecv]
      · simp [hrecv, hc]
      · have hheld : (⟨fw, s.pc, s.pending, s.isOpen⟩ : Sys η).heldRecv E = s.heldRecv E := by
          simp [Sys.heldRecv, hrecv, hc]
        simp [hbusy, Ev.recvResult, hheld, h.balance]

private theorem dispatch_step (hi : SlotInv E pre s) (hr : RecvInv E pre s)
    (h : RecvOnce E key tr s) (hseq : key.seq = 0) {req : Request} {fw : Fw η} {reply : Reply}
    {sub : Option Nat}
    (hd : protocolDispatch E s.fw req.cmd req.flags req.payload req.cap = (fw, reply))
    (hg : PollsOnly E key s (.dispatch req)) :
    RecvOnce E key (tr ++ [.dispatch req reply sub]) { s with fw := fw } := by
  by_cases hreq : req.IsRecv E key
  · obtain ⟨-, hcap, hown⟩ := hg.1 hreq.1 hreq.2.1
    exact h.poll_step hi hr hreq hcap (pollOutcome hd h.cached hseq hreq hcap hown)
  · obtain ⟨hrecv, hw⟩ := other_dispatch hd h.cached hg hreq
    refine h.still ?_ ?_ ?_ rfl (if_neg fun hn => hreq hn.1)
    · intro hf hcmd
      have hsame := hw hf hcmd
      simp only [Sys.job, hsame] at hf hcmd
      exact ⟨hf, hcmd, by simp [Sys.recvKey, Sys.job, hsame, hrecv]⟩
    · simp [hrecv]
    · simp [Sys.heldRecv, hrecv]

/-- The drain takes a step with a receive's outcome in its hands. -/
private theorem carried (hi : SlotInv E pre s) (hr : RecvInv E pre s) (h : RecvOnce E key tr s)
    {out : ExecOut} (ho : s.pc.recvOut = some out) (ho' : s'.pc.recvOut = some out)
    (hj : s'.job.ident = s.job.ident) (hc : s'.fw.recv.cached = s.fw.recv.cached)
    (hseq : s'.fw.recv.jobSeq = s.fw.recv.jobSeq) : RecvOnce E key (tr ++ [.tau]) s' := by
  obtain ⟨hun, hf, hcmd⟩ := cached_of_executing hi hr (Pc.executing_of_recvOut ho)
  have hreq : s'.job.req = s.job.req := congrArg JobId.req hj
  refine h.still ?_ ?_ ?_ rfl rfl
  · exact fun _ _ => ⟨hf, hcmd, by simp [Sys.recvKey, hseq, hreq]⟩
  · simp [hc, hun]
  · rw [Sys.heldRecv_of_recvOut ho, Sys.heldRecv_of_recvOut ho']

/-- A step that leaves the cache alone. -/
private theorem apart (h : RecvOnce E key tr s) (ho : s'.pc.recvOut = s.pc.recvOut)
    (hrecv : s'.fw.recv = s.fw.recv)
    (hf : s'.job.InFlight → s.job.InFlight ∧ s'.job.jobCmd = s.job.jobCmd ∧ s'.job.req = s.job.req)
    (hres : e.recvResult E = none) (hrep : e.recvReply E key = none) :
    RecvOnce E key (tr ++ [e]) s' := by
  refine h.still ?_ ?_ ?_ hres hrep
  · intro hf' hcmd'
    obtain ⟨hf₀, hcmd, hreq⟩ := hf hf'
    exact ⟨hf₀, hcmd ▸ hcmd', by simp [Sys.recvKey, hrecv, hreq]⟩
  · simp [hrecv]
  · simp [Sys.heldRecv, ho, hrecv]

/-- A body returns; the outcome of a receive is now in the drain's hands. -/
private theorem ret_step (hi : SlotInv E pre s) (hres : ResultInv E pre s) (hr : RecvInv E pre s)
    (h : RecvOnce E key tr s) {cmd : Cmd} {call : HalCall} {r : HalRet}
    (hpc : s.pc = .hal cmd call) (hfits : r.fits call = true) {pending : List PrefetchStore}
    {isOpen : UInt16 → Bool} :
    RecvOnce E key (tr ++ [.ret s.job.ticket call r])
      { fw := s.fw
        pc := if cmd = .sockRecv then .invalidate (E.execOut cmd s.job.req r)
          else .copyResult cmd (E.execOut cmd s.job.req r) 0
        pending := pending
        isOpen := isOpen } := by
  have hcmd : s.job.jobCmd = cmd := hi.cmd cmd (by rw [hpc]; rfl)
  have hcall : call = E.halCall cmd s.job.req s.job.reqLen := by
    rw [hres.call cmd call hpc, Job.call, hcmd]
  have ho : s.pc.recvOut = none := by rw [hpc]; rfl
  by_cases hc : cmd = .sockRecv
  · subst hc
    obtain ⟨hun, -⟩ := cached_of_executing hi hr (by rw [hpc]; rfl)
    have hrecv : call.isRecv = true := by rw [hcall]; rfl
    have hbal := h.balance
    rw [Sys.heldRecv_of_none ho, if_neg (by simp [hun]), List.append_nil] at hbal
    rw [hcall] at hfits
    refine ⟨h.inFlight, h.cached, ?_⟩
    simp [Ev.recvResult, Ev.recvReply, hrecv, hbal, Sys.heldRecv, Pc.recvOut,
      recvReply_execOut hfits]
  · have hrecv : call.isRecv = false := by
      by_contra hne
      cases call with
      | sockRecv handle maxLen cap => exact hc (halCall_sockRecv hcall.symm)
      | _ => simp [HalCall.isRecv] at hne
    refine h.apart ?_ rfl (fun hf => ⟨hf, rfl, rfl⟩) (by simp [Ev.recvResult, hrecv]) rfl
    rw [ho]
    simp only [if_neg hc]
    cases cmd <;> first | rfl | exact absurd rfl hc

/-- The drain publishes; the outcome of a receive is now in the cache. -/
private theorem publish_step (hi : SlotInv E pre s) (hres : ResultInv E pre s)
    (hr : RecvInv E pre s) (h : RecvOnce E key tr s) {cmd : Cmd} {out : ExecOut}
    (hpc : s.pc = .publish cmd out) :
    RecvOnce E key (tr ++ [.publish s.job.ticket cmd])
      { s with fw := workerPublish E s.fw cmd out, pc := .reinit cmd } := by
  have hterm : ¬ (s.job.finish out).InFlight := (s.job.finish_terminal out).not_inFlight
  by_cases hc : cmd = .sockRecv
  · subst hc
    obtain ⟨-, hf, hcmd⟩ := cached_of_executing hi hr (by rw [hpc]; rfl)
    obtain ⟨r, hret, hout, hcached, hkey, hreply⟩ := hr.published hi hres hpc
    have hfits := hret.1
    rw [Job.call, hcmd] at hfits
    have hbal := h.balance
    rw [Sys.heldRecv_of_recvOut (by rw [hpc]; rfl), hout, recvReply_execOut hfits] at hbal
    have hnew : (workerPublish E s.fw .sockRecv out).recv = publishedRecv E s out := rfl
    refine ⟨fun hf' => absurd hf' hterm, ?_, ?_⟩
    · intro _
      exact hkey.trans (h.inFlight hf hcmd)
    · have hheld : (⟨workerPublish E s.fw .sockRecv out, .reinit .sockRecv, s.pending, s.isOpen⟩ :
          Sys η).heldRecv E = [sockRecvReply E r] := by
        rw [Sys.heldRecv_of_none rfl]
        simp only [hnew, hcached, if_true, hreply]
      have hres : Ev.recvResult E (.publish s.job.ticket .sockRecv) = none := rfl
      have hrep : Ev.recvReply E key (.publish s.job.ticket .sockRecv) = none := rfl
      simp [hres, hrep, hheld, hbal]
  · refine h.apart ?_ (if_neg hc) (fun hf' => absurd hf' hterm) rfl rfl
    rw [hpc]
    cases cmd <;> first | rfl | exact absurd rfl hc

/-- The balance is kept by every step. -/
theorem step (hi : SlotInv E pre s) (hres : ResultInv E pre s) (hr : RecvInv E pre s)
    (h : RecvOnce E key tr s) (hseq : key.seq = 0)
    (hg : ∀ req reply sub, e = .dispatch req reply sub → PollsOnly E key s (.dispatch req))
    (hs : CoreStep E s s' e) : RecvOnce E key (tr ++ [e]) s' := by
  have hsame : s.job.InFlight → s.job.InFlight ∧ s.job.jobCmd = s.job.jobCmd ∧ s.job.req = s.job.req :=
    fun hf => ⟨hf, rfl, rfl⟩
  cases hs with
  | silent hw _ hrecv _ hpc he =>
      refine h.apart ?_ hrecv (by simp [Sys.job, hw]) ?_ ?_
      · rcases hpc with hpc | ⟨ho, ho'⟩
        · rw [hpc]
        · rw [ho.recvOut, ho'.recvOut]
      · cases e <;> first | rfl | exact absurd he (by simp [Ev.Silent])
      · cases e <;> first | rfl | exact absurd he (by simp [Ev.Silent])
  | dispatch hd => exact h.dispatch_step hi hr hseq hd (hg _ _ _ rfl)
  | promote hpc hq =>
      exact h.apart (by rw [hpc]; rfl) rfl (fun _ => ⟨.inl hq, rfl, rfl⟩) rfl rfl
  | exec hpc => exact h.apart (by rw [hpc]; rfl) rfl hsame rfl rfl
  | ret hpc hfits _ => exact h.ret_step hi hres hr hpc hfits
  | @invalidate out hpc =>
      have ho : s.pc.recvOut = some out := by rw [hpc]; rfl
      have hun := (cached_of_executing hi hr (Pc.executing_of_recvOut ho)).1
      exact h.carried hi hr ho rfl rfl hun.symm rfl
  | @copyResult cmd out i hlt hpc _ =>
      exact h.apart (by rw [hpc]; cases cmd <;> rfl) rfl hsame rfl rfl
  | @copyResultDone cmd out i hpc _ =>
      exact h.apart (by rw [hpc]; cases cmd <;> rfl) rfl hsame rfl rfl
  | copyCache hlt hpc hc =>
      obtain ⟨rfl, -⟩ := hc
      exact h.carried hi hr (by rw [hpc]; rfl) rfl rfl rfl rfl
  | @copyCacheDone cmd out i hpc _ =>
      exact h.apart (by rw [hpc]; cases cmd <;> rfl) rfl hsame rfl rfl
  | publish hpc => exact h.publish_step hi hres hr hpc
  | reset hpc _ =>
      exact h.apart (by rw [hpc]; rfl) rfl (fun hf => absurd rfl hf.ne_idle) rfl rfl
  | reinit hpc => exact h.apart (by rw [hpc]; rfl) rfl hsame rfl rfl
  | resetSkip hpc _ => exact h.apart (by rw [hpc]; rfl) rfl hsame rfl rfl
  | accept hpc _ _ => exact h.apart (by rw [hpc]; rfl) rfl hsame rfl rfl
  | acceptPush hpc => exact h.apart (by rw [hpc]; rfl) rfl hsame rfl rfl

/-- The balance holds along every run of polls that starts without a receive. -/
theorem of_run {hal : η} {s₀ : Sys η} (hpre : (system E).Run (.boot hal) pre s₀)
    (hjob : s₀.job.InFlight → s₀.job.jobCmd ≠ .sockRecv) (hcached : s₀.fw.recv.cached = false)
    (hseq : key.seq = 0) (hr : (system E).RunIf (PollsOnly E key) s₀ tr s) :
    RecvOnce E key tr s := by
  have h0 : RecvOnce E key [] s₀ := by
    refine ⟨fun hf hcmd => absurd hcmd (hjob hf), by simp [hcached], ?_⟩
    have ho : s₀.pc.recvOut = none := by
      cases ho : s₀.pc.recvOut with
      | none => rfl
      | some out =>
          have hi := SlotInv.of_run hpre
          have hx := Pc.executing_of_recvOut ho
          exact absurd (hi.cmd _ hx) (hjob (.inr (hi.running.mpr (by simp [hx]))))
    simp [Sys.heldRecv_of_none ho, hcached]
  have h : (system E).Run (.boot hal) (pre ++ tr) s ∧ RecvOnce E key tr s := by
    refine RunIf.invariant (P := fun tr s => (system E).Run (.boot hal) (pre ++ tr) s ∧
      RecvOnce E key tr s) hr ⟨by simpa using hpre, h0⟩ ?_
    rintro tr t a t' e ⟨hrun, h⟩ hg hs
    refine ⟨by simpa using hrun.snoc hs, ?_⟩
    refine h.step (SlotInv.of_run hrun) (ResultInv.of_run hrun) (RecvInv.of_run hrun) hseq ?_
      (sysStep_core hs)
    rintro req reply sub rfl
    obtain rfl := act_of_dispatch hs
    exact hg
  exact h.2

end RecvOnce

/-! ## The guarantee -/

/-- Receives without a sequence number are delivered once each, in order.  Take any interleaving up
to a state in which no receive is in flight and none is cached, and any continuation of it in which
all receives are the same poll: same handle, not owned by the ring, same length, no sequence number;
other requests and the drain come in between as they like.  Then the answers due for the executions
of `cc3501e_hw_sock_recv`, in order, are the replies other than `BUSY`, in order, followed by one
answer at most; and that one is what the next poll gets once the drain has published it. -/
theorem sockRecv_delivered_once {E : Env η} {hal : η} {pre tr : List Ev} {s₀ s : Sys η}
    (hpre : (system E).Run (.boot hal) pre s₀)
    (hjob : s₀.job.InFlight → s₀.job.jobCmd ≠ .sockRecv) (hcached : s₀.fw.recv.cached = false)
    (key : RecvKey) (hseq : key.seq = 0) (hr : (system E).RunIf (PollsOnly E key) s₀ tr s) :
    ∃ held : List Reply, held.length ≤ 1 ∧
      tr.filterMap (Ev.recvResult E) = tr.filterMap (Ev.recvReply E key) ++ held ∧
      (held ≠ [] → s.pc.executing ≠ some .sockRecv → ∀ req : Request, req.IsRecv E key →
        PollsOnly E key s (.dispatch req) →
        held = [(protocolDispatch E s.fw req.cmd req.flags req.payload req.cap).2]) := by
  have h := RecvOnce.of_run hpre hjob hcached hseq hr
  refine ⟨s.heldRecv E, s.length_heldRecv_le E, h.balance, ?_⟩
  intro hne hx req hreq hg
  have ho : s.pc.recvOut = none := by
    cases ho : s.pc.recvOut with
    | none => rfl
    | some out => exact absurd (Pc.executing_of_recvOut ho) hx
  rw [Sys.heldRecv_of_none ho] at hne ⊢
  obtain ⟨-, hcap, hown⟩ := hg.1 hreq.1 hreq.2.1
  obtain ⟨fw, reply, hd⟩ :
      ∃ fw reply, protocolDispatch E s.fw req.cmd req.flags req.payload req.cap = (fw, reply) :=
    ⟨_, _, rfl⟩
  have hc : s.fw.recv.cached = true := by
    by_contra hn
    exact hne (if_neg hn)
  rw [if_pos hc, hd]
  cases RecvOnce.pollOutcome hd h.cached hseq hreq hcap hown with
  | collected _ _ _ => rw [hcap]
  | busy hun _ _ => simp [hc] at hun
  | queued hun _ _ _ => simp [hc] at hun

open Act in
/-- Two bytes are received without a sequence number; a `WIFI_DISCONNECT` takes the slot before the
host collects them, and the poll that follows the collecting one finds the slot taken. -/
def discardedRecv : List (Act Unit) :=
  [dispatch (.of .sockRecv 0 [1, 0, 16, 0]), task, task,
    ret { rv := hwOk, data := [0x68, 0x69] }] ++ List.replicate 59 task ++
    [dispatch (.of .wifiDisconnect 0 []), dispatch (.of .sockRecv 0 [1, 0, 16, 0]),
      dispatch (.of .sockRecv 0 [1, 0, 16, 0])]

theorem sockRecv_delivered_once_discardedRecv :
    ∃ s tr, (system .reference).RunIf (PollsOnly .reference ⟨0, 1, 16⟩) (.boot ()) tr s ∧
      (∃ held : List Reply, held.length ≤ 1 ∧
        tr.filterMap (Ev.recvResult .reference) =
          tr.filterMap (Ev.recvReply .reference ⟨0, 1, 16⟩) ++ held) ∧
      (tr.filterMap (Ev.recvReply .reference ⟨0, 1, 16⟩)).map (·.status) = [.ok] := by
  have hexec : ((system .reference).execIf (PollsOnly .reference ⟨0, 1, 16⟩) (.boot ())
      discardedRecv).map (fun p =>
        (p.2.filterMap (Ev.recvReply .reference ⟨0, 1, 16⟩)).map (·.status)) = some [.ok] := by
    decide +kernel
  obtain ⟨⟨s, tr⟩, hs, hreply⟩ := Option.map_eq_some_iff.mp hexec
  have hrun := Machine.runIf_of_execIf hs
  obtain ⟨held, hlen, hbal, -⟩ := sockRecv_delivered_once .nil (by decide) rfl ⟨0, 1, 16⟩ rfl hrun
  exact ⟨s, tr, hrun, ⟨held, hlen, hbal⟩, hreply⟩

end Cc3501eBridge
