import Cc3501eBridge.RecvReplay

/-!
# Receives and reissued handles

A cached receive must not outlive its socket: once lwIP gives the handle number to a new socket, a
receive on the new one may carry the very key of the cached reply.  The code drops the cached reply
when the close of its handle is dispatched, and argues that nothing else frees a handle.

That argument is about entries made before the close.  A receive that is executed on a handle
*after* its close fails, and the failure is cached like any other outcome; the next socket with that
number then inherits it.  `RecvOnOpen` excludes exactly these executions, and under it no cached
reply is older than the socket it is served for.
-/

namespace Cc3501eBridge

variable {η : Type}

open Trace

/-! ## Handles in a history -/

namespace Ev

/-- lwIP issues `handle`, from `lwip_socket` or from `lwip_accept`. -/
def Issues (handle : UInt16) (e : Ev) : Prop :=
  e = .issued handle ∨
    ∃ t family type protocol r,
      e = .ret t (.sockOpen family type protocol) r ∧ r.rv = hwOk ∧ r.word = handle

/-- `cc3501e_hw_sock_recv` is entered on `handle` for job number `t`. -/
def ExecsRecvOn (t : Nat) (handle : UInt16) (e : Ev) : Prop :=
  ∃ maxLen cap, e = .exec t (.sockRecv handle maxLen cap)

/-- The number of the receive that is published to the cache. -/
def publishedRecv : Ev → Option Nat
  | .publish t .sockRecv => some t
  | _ => none

theorem Silent.publishedRecv {e : Ev} (h : e.Silent) : e.publishedRecv = none := by
  cases e <;> first | rfl | exact h.elim

theorem Silent.not_issues {e : Ev} (h : e.Silent) (handle : UInt16) : ¬ e.Issues handle := by
  cases e <;> simp_all [Silent, Issues]

end Ev

/-- Job `t` received on `handle` after the handle was last issued. -/
def FreshRecv (tr : List Ev) (t : Nat) (handle : UInt16) : Prop :=
  ∃ x, At (Ev.ExecsRecvOn t handle) tr x ∧ ∀ i, At (Ev.Issues handle) tr i → i < x

theorem FreshRecv.snoc {tr : List Ev} {t : Nat} {handle : UInt16} {e : Ev}
    (h : FreshRecv tr t handle) (he : ¬ e.Issues handle) : FreshRecv (tr ++ [e]) t handle := by
  obtain ⟨x, hx, hlt⟩ := h
  refine ⟨x, hx.snoc, fun i hi => ?_⟩
  rcases at_snoc.mp hi with hi | ⟨-, hi⟩
  · exact hlt i hi
  · exact absurd hi he

/-- An execution that closes the history is later than every issue in it. -/
theorem FreshRecv.last {tr : List Ev} {t : Nat} {handle : UInt16} {e : Ev}
    (h : e.ExecsRecvOn t handle) : FreshRecv (tr ++ [e]) t handle := by
  refine ⟨tr.length, at_last h, fun i hi => ?_⟩
  rcases at_snoc.mp hi with hi | ⟨-, hi⟩
  · exact hi.lt
  · obtain ⟨maxLen, cap, rfl⟩ := h
    simp [Ev.Issues] at hi

/-! ## The invariant -/

/-- The task is about to execute a receive. -/
def Pc.startsRecv : Pc → Bool
  | .execute .sockRecv => true
  | _ => false

/-- The task does not enter a receive on a handle that is not open. -/
def RecvOnOpen (s : Sys η) (a : Act η) : Prop :=
  a.isTask = true → s.pc.startsRecv = true → s.isOpen (s.job.req.word 0) = true

instance (s : Sys η) (a : Act η) : Decidable (RecvOnOpen s a) :=
  inferInstanceAs (Decidable (_ → _ → _))

/-- What a run keeps true of cached receives as long as none is executed on a closed handle. -/
structure ReissueInv (tr : List Ev) (s : Sys η) : Prop where
  /-- A cached receive is one of an open socket. -/
  isOpen : s.fw.recv.cached = true → s.isOpen s.fw.recv.key.handle = true
  /-- While a close is in flight no receive of its handle is cached. -/
  closing : s.job.InFlight → s.job.jobCmd = .sockClose → s.fw.recv.cached = true →
    s.fw.recv.key.handle ≠ s.job.req.word 0
  /-- No receive is cached for a connection that is not announced yet. -/
  accepting : ∀ handle event, s.pc = .acceptPush handle event → s.fw.recv.cached = true →
    s.fw.recv.key.handle ≠ handle
  /-- A receive under way is on an open handle and later than its issue. -/
  entered : s.pc.entered = true → s.job.jobCmd = .sockRecv →
    s.isOpen (s.job.req.word 0) = true ∧ FreshRecv tr s.job.ticket (s.job.req.word 0)
  /-- So is the cached one, which is the last that was published. -/
  cached : s.fw.recv.cached = true → ∃ t, latest Ev.publishedRecv tr = some t ∧
    FreshRecv tr t s.fw.recv.key.handle

namespace ReissueInv

variable {E : Env η} {tr : List Ev} {s s' : Sys η} {e : Ev}

/-- A step that issues no handle and publishes no receive. -/
private theorem keep (h : ReissueInv tr s)
    (hrecv : s'.fw.recv.cached = true →
      s.fw.recv.cached = true ∧ s'.fw.recv.key = s.fw.recv.key)
    (hopen : s'.isOpen = s.isOpen)
    (hflight : s'.job.InFlight → s.job.InFlight ∧ s'.job.jobCmd = s.job.jobCmd ∧
      s'.job.req = s.job.req)
    (hpc : ∀ handle event, s'.pc = .acceptPush handle event → s.pc = .acceptPush handle event)
    (hent : s'.pc.entered = true → s.pc.entered = true ∧ s'.job.ident = s.job.ident)
    (hiss : ∀ handle, ¬ e.Issues handle) (hpub : e.publishedRecv = none) :
    ReissueInv (tr ++ [e]) s' := by
  refine ⟨?_, ?_, ?_, ?_, ?_⟩
  · intro hc
    obtain ⟨hc, hk⟩ := hrecv hc
    rw [hopen, hk]
    exact h.isOpen hc
  · intro hf hcmd hc
    obtain ⟨hc, hk⟩ := hrecv hc
    obtain ⟨hf, hcmd', hreq⟩ := hflight hf
    rw [hk, hreq]
    exact h.closing hf (hcmd' ▸ hcmd) hc
  · intro handle event hacc hc
    obtain ⟨hc, hk⟩ := hrecv hc
    rw [hk]
    exact h.accepting handle event (hpc handle event hacc) hc
  · intro hx hcmd
    obtain ⟨hx, hj⟩ := hent hx
    have hcmd' : s'.job.jobCmd = s.job.jobCmd := congrArg JobId.cmd hj
    have hticket : s'.job.ticket = s.job.ticket := congrArg JobId.ticket hj
    have hreq : s'.job.req = s.job.req := congrArg JobId.req hj
    obtain ⟨ho, hfresh⟩ := h.entered hx (hcmd' ▸ hcmd)
    rw [hopen, hreq, hticket]
    exact ⟨ho, hfresh.snoc (hiss _)⟩
  · intro hc
    obtain ⟨hc, hk⟩ := hrecv hc
    obtain ⟨t, hl, hfresh⟩ := h.cached hc
    rw [hk]
    exact ⟨t, by simpa [hpub] using hl, hfresh.snoc (hiss _)⟩

/-- A step that only moves the task on. -/
private theorem move (h : ReissueInv tr s) (hj : s'.job.ident = s.job.ident)
    (hrecv : s'.fw.recv.cached = true →
      s.fw.recv.cached = true ∧ s'.fw.recv.key = s.fw.recv.key)
    (hopen : s'.isOpen = s.isOpen)
    (hpc : ∀ handle event, s'.pc = .acceptPush handle event → s.pc = .acceptPush handle event)
    (hent : s'.pc.entered = true → s.pc.entered = true) (he : e.Silent) :
    ReissueInv (tr ++ [e]) s' := by
  refine h.keep hrecv hopen ?_ hpc (fun hx => ⟨hent hx, hj⟩) he.not_issues he.publishedRecv
  intro hf
  have hstate : s'.job.state = s.job.state := congrArg JobId.state hj
  exact ⟨by rwa [Job.InFlight, ← hstate], congrArg JobId.cmd hj, congrArg JobId.req hj⟩

/-- A close that is queued forgets the receives of its handle. -/
private theorem dispatch_close {req : Request} {fw : Fw η} {reply : Reply}
    (hd : protocolDispatch E s.fw req.cmd req.flags req.payload req.cap = (fw, reply))
    (hdec : E.hdr.decode req.cmd = some .sockClose) :
    fw.worker = s.fw.worker ∨ req.payload.length = 4 ∧
      (fw.recv.cached = true → fw.recv.key.handle ≠ wordAt req.payload 0) := by
  by_cases hl : req.payload.length = 4
  · refine .inr ⟨hl, fun hc => ?_⟩
    rcases dispatch_recv hd with ⟨hdec', -⟩ | ⟨-, -, hr⟩ | ⟨-, -, hne⟩
    · simp [hdec] at hdec'
    · rw [hr, RecvCache.forgetHandle] at hc ⊢
      split_ifs at hc ⊢ with hk
      exact fun heq => hk ⟨hc, heq.symm⟩
    · exact absurd hl (hne hdec)
  · refine .inl ?_
    rcases dispatch_cases hd with ⟨hdec', -⟩ | ⟨c, hdec', hh⟩
    · simp [hdec] at hdec'
    · obtain rfl : Cmd.sockClose = c := by simpa [hdec] using hdec'
      change handleSockClose E (s.fw.latchSeq req) req.payload = (fw, reply) at hh
      rw [handleSockClose_invalid E _ _ hl] at hh
      obtain ⟨rfl, -⟩ := Prod.mk.inj hh
      rfl

private theorem dispatch_step (hi : SlotInv E tr s) (h : ReissueInv tr s) {req : Request}
    {fw : Fw η} {reply : Reply} {sub : Option Nat}
    (hd : protocolDispatch E s.fw req.cmd req.flags req.payload req.cap = (fw, reply)) :
    ReissueInv (tr ++ [.dispatch req reply sub]) { s with fw := fw } := by
  have hrecv : fw.recv.cached = true → s.fw.recv.cached = true ∧ fw.recv.key = s.fw.recv.key := by
    intro hc
    have heq := dispatch_recv_cached hd hc
    exact ⟨heq ▸ hc, by rw [heq]⟩
  have hiss : ∀ handle, ¬ Ev.Issues handle (.dispatch req reply sub) := by simp [Ev.Issues]
  have hent : s.pc.entered = true → s.pc.entered = true ∧ fw.worker.job.ident = s.job.ident := by
    intro hx
    have hf : s.job.InFlight := .inr (hi.running.mpr (Pc.executing_of_entered hx))
    exact ⟨hx, by simp [Sys.job, dispatch_inFlight hd hf]⟩
  have hkeep : (fw.worker.job.InFlight → fw.worker = s.fw.worker) →
      ReissueInv (tr ++ [.dispatch req reply sub]) { s with fw := fw } := by
    intro hw
    refine h.keep hrecv rfl ?_ (fun _ _ => id) hent hiss rfl
    intro hf
    have hw := hw hf
    simp only [Sys.job, hw] at hf ⊢
    exact ⟨hf, trivial, trivial⟩
  -- a dispatch that queues a job is the one case in which the close at hand is a new one
  have hqueued : ∀ c, E.hdr.decode req.cmd = some c → fw.worker.job.jobCmd = c →
      ¬ s.job.InFlight →
      (c = .sockClose → fw.worker.job.req.word 0 = wordAt req.payload 0 ∨
        fw.worker = s.fw.worker) →
      ReissueInv (tr ++ [.dispatch req reply sub]) { s with fw := fw } := by
    intro c hdec hcmd hf hreq
    have hx : s.pc.entered = false := by
      by_contra hne
      exact hf (.inr (hi.running.mpr (Pc.executing_of_entered (by simpa using hne))))
    refine ⟨fun hc => ?_, ?_, fun handle event hacc hc => ?_, by simp [hx], fun hc => ?_⟩
    · rw [(hrecv hc).2]
      exact h.isOpen (hrecv hc).1
    · intro hf' hcl hc
      change fw.worker.job.jobCmd = _ at hcl
      obtain rfl : c = .sockClose := hcmd.symm.trans hcl
      rcases hreq rfl with hw | hw
      · rcases dispatch_close hd hdec with hsame | ⟨-, hne⟩
        · simp only [Sys.job, hsame] at hf'
          exact absurd hf' hf
        · change fw.recv.key.handle ≠ fw.worker.job.req.word 0
          rw [hw]
          exact hne hc
      · simp only [Sys.job, hw] at hf'
        exact absurd hf' hf
    · rw [(hrecv hc).2]
      exact h.accepting handle event hacc (hrecv hc).1
    · obtain ⟨t, hl, hfresh⟩ := h.cached (hrecv hc).1
      rw [(hrecv hc).2]
      exact ⟨t, by simpa [Ev.publishedRecv] using hl, hfresh.snoc (hiss _)⟩
  rcases dispatch_slot hd with hw | ⟨c, hdec, hslot⟩
  · exact hkeep fun _ => hw
  · generalize hw : fw.worker = w' at hslot
    cases hslot with
    | keep => exact hkeep fun _ => hw
    | free _ =>
        refine hkeep fun hf => ?_
        simp [hw, workerReset, Job.InFlight] at hf
    | submit hf hc =>
        refine hqueued c hdec (by simp [hw, Worker.queued]) hf ?_
        rintro rfl
        simp [Cmd.carriesPayload] at hc
    | submitPayload hf hc hl =>
        refine hqueued c hdec (by simp [hw, Worker.queuedPayload]) hf ?_
        rintro rfl
        rcases dispatch_close hd hdec with hsame | ⟨hlen, -⟩
        · exact .inr hsame
        · refine .inl ?_
          have hpay : fw.worker.job.payload = req.payload := by
            simp [hw, Worker.queuedPayload, Job.payload]
          rw [← hpay]
          exact (Job.wordAt_payload _ (by rw [hpay, hlen]; decide)).symm

/-- The task enters a HAL body. -/
private theorem exec_step (h : ReissueInv tr s) {cmd : Cmd} {pending : List PrefetchStore}
    (hcmd : s.job.jobCmd = cmd) (hpc : s.pc = .execute cmd)
    (hopen : s.pc.startsRecv = true → s.isOpen (s.job.req.word 0) = true) :
    ReissueInv (tr ++ [.exec s.job.ticket (E.halCall cmd s.job.req s.job.reqLen)])
      { s with
        fw := { s.fw with worker := { s.fw.worker with execs := s.fw.worker.execs + 1 } }
        pc := .hal cmd (E.halCall cmd s.job.req s.job.reqLen)
        pending := pending } := by
  have hiss : ∀ handle,
      ¬ Ev.Issues handle (.exec s.job.ticket (E.halCall cmd s.job.req s.job.reqLen)) := by
    simp [Ev.Issues]
  refine ⟨h.isOpen, h.closing, by simp, ?_, ?_⟩
  · intro _ hrecv
    change s.job.jobCmd = _ at hrecv
    obtain rfl : cmd = .sockRecv := hcmd.symm.trans hrecv
    exact ⟨hopen (by rw [hpc]; rfl), .last ⟨_, _, rfl⟩⟩
  · intro hc
    obtain ⟨t, hl, hfresh⟩ := h.cached hc
    exact ⟨t, by simpa [Ev.publishedRecv] using hl, hfresh.snoc (hiss _)⟩

/-- What a close closes is not cached, and what an open opens is not either. -/
private theorem isOpen_lwipAfter (h : ReissueInv tr s) (hf : s.job.InFlight) {r : HalRet}
    (hc : s.fw.recv.cached = true) :
    lwipAfter s.isOpen r (s.job.call E) s.fw.recv.key.handle = true := by
  have ho := h.isOpen hc
  cases hcall : s.job.call E with
  | sockOpen family type protocol =>
      simp only [lwipAfter]
      split_ifs
      · by_cases hk : s.fw.recv.key.handle = r.word
        · simp [hk]
        · simpa [Function.update_of_ne hk] using ho
      · exact ho
  | sockClose handle =>
      have hcl : s.job.jobCmd = .sockClose ∧ s.job.req.word 0 = handle := by
        unfold Job.call Env.halCall at hcall
        split at hcall <;> simp_all
      have hk : s.fw.recv.key.handle ≠ handle := hcl.2 ▸ h.closing hf hcl.1 hc
      simp only [lwipAfter]
      split_ifs
      · rw [Function.update_of_ne hk]
        exact ho
      · exact ho
  | _ => exact ho

/-- lwIP issues only handles that are not cached. -/
private theorem not_issues_of_cached (h : ReissueInv tr s) {r : HalRet} {call : HalCall}
    (hallow : lwipAllows s.isOpen r call = true) (hc : s.fw.recv.cached = true) (t : Nat) :
    ¬ Ev.Issues s.fw.recv.key.handle (.ret t call r) := by
  rintro (heq | ⟨t', family, type, protocol, r', heq, hrv, hk⟩)
  · simp at heq
  · obtain ⟨-, rfl, rfl⟩ := Ev.ret.inj heq
    have ho := h.isOpen hc
    simp [lwipAllows, hrv, hk, ho] at hallow

/-- A HAL body returns. -/
private theorem ret_step (hi : SlotInv E tr s) (h : ReissueInv tr s) {cmd : Cmd} {r : HalRet}
    {pending : List PrefetchStore} (hpc : s.pc = .hal cmd (s.job.call E))
    (hallow : lwipAllows s.isOpen r (s.job.call E) = true) :
    ReissueInv (tr ++ [.ret s.job.ticket (s.job.call E) r])
      { fw := s.fw
        pc := if cmd = .sockRecv then .invalidate (E.execOut cmd s.job.req r)
          else .copyResult cmd (E.execOut cmd s.job.req r) 0
        pending := pending
        isOpen := lwipAfter s.isOpen r (s.job.call E) } := by
  have hf : s.job.InFlight := .inr (hi.running.mpr (by simp [hpc, Pc.executing]))
  refine ⟨h.isOpen_lwipAfter hf, h.closing, ?_, ?_, ?_⟩
  · intro handle event hacc
    dsimp only at hacc
    split_ifs at hacc
  · intro _ hrecv
    change s.job.jobCmd = _ at hrecv
    have hcall : s.job.call E = .sockRecv (s.job.req.word 0) (s.job.req.word 2)
        (sockRecvDataCap E.build (s.job.req.word 2)) := by
      rw [Job.call, hrecv]
      rfl
    obtain ⟨ho, hfresh⟩ := h.entered (by rw [hpc]; rfl) hrecv
    rw [hcall]
    exact ⟨ho, hfresh.snoc (by simp [Ev.Issues])⟩
  · intro hc
    obtain ⟨t, hl, hfresh⟩ := h.cached hc
    exact ⟨t, by simpa [Ev.publishedRecv] using hl, hfresh.snoc (h.not_issues_of_cached hallow hc _)⟩

/-- The task publishes an outcome. -/
private theorem publish_step (hi : SlotInv E tr s) (h : ReissueInv tr s) {cmd : Cmd}
    {out : ExecOut} (hpc : s.pc = .publish cmd out) :
    ReissueInv (tr ++ [.publish s.job.ticket cmd])
      { s with fw := workerPublish E s.fw cmd out, pc := .reinit cmd } := by
  have hcmd : s.job.jobCmd = cmd := hi.cmd cmd (by rw [hpc]; rfl)
  have hiss : ∀ handle, ¬ Ev.Issues handle (.publish s.job.ticket cmd) := by simp [Ev.Issues]
  have hdone : ¬ ((workerPublish E s.fw cmd out).worker.job).InFlight :=
    (Job.finish_terminal _ _).not_inFlight
  by_cases hrecv : cmd = .sockRecv
  · subst hrecv
    obtain ⟨ho, hfresh⟩ := h.entered (by rw [hpc]; rfl) hcmd
    have hkey : (workerPublish E s.fw .sockRecv out).recv.key.handle = s.job.req.word 0 := by
      simp only [workerPublish, if_true, sockRecvWorkerPublish]
      split_ifs <;> rfl
    refine ⟨?_, fun hf => absurd hf hdone, by simp, by simp [Pc.entered], ?_⟩
    · rw [hkey]
      exact fun _ => ho
    · rw [hkey]
      exact fun _ => ⟨s.job.ticket, by simp [Ev.publishedRecv], hfresh.snoc (hiss _)⟩
  · have hsame : (workerPublish E s.fw cmd out).recv = s.fw.recv := by
      simp [workerPublish, hrecv]
    have hpub : Ev.publishedRecv (.publish s.job.ticket cmd) = none := by
      cases cmd <;> first | rfl | exact absurd rfl hrecv
    refine h.keep ?_ rfl (fun hf => absurd hf hdone) (by simp) (by simp [Pc.entered]) hiss hpub
    rw [hsame]
    exact fun hc => ⟨hc, rfl⟩

/-- The invariant is kept by every step that does not receive on a closed handle. -/
theorem step {a : Act η} (hi : SlotInv E tr s) (hres : ResultInv E tr s) (h : ReissueInv tr s)
    (hguard : RecvOnOpen s a) (hstep : (system E).step s a = some (s', e))
    (hs : CoreStep E s s' e) : ReissueInv (tr ++ [e]) s' := by
  cases hs with
  | silent hw _ hr ho hpc he =>
      refine h.move (by simp [Sys.job, hw]) (by rw [hr]; exact fun hc => ⟨hc, rfl⟩) ho ?_ ?_ he
      · intro handle event hacc
        rcases hpc with hpc | ⟨-, hout⟩
        · exact hpc ▸ hacc
        · rw [hacc] at hout
          exact hout.elim
      · intro hx
        rcases hpc with hpc | ⟨-, hout⟩
        · exact hpc ▸ hx
        · simp [hout.entered] at hx
  | dispatch hd => exact h.dispatch_step hi hd
  | promote hpc hq =>
      refine h.keep (fun hc => ⟨hc, rfl⟩) rfl ?_ (by simp) (by simp [Pc.entered])
        (by simp [Ev.Issues]) rfl
      exact fun _ => ⟨.inl hq, rfl, rfl⟩
  | @exec cmd _ hpc =>
      exact h.exec_step (hi.cmd cmd (by rw [hpc]; rfl)) hpc
        (hguard (isTask_of_ofTask hstep rfl))
  | @ret cmd call r _ hpc _ hallow =>
      obtain rfl := hres.call cmd call hpc
      exact h.ret_step hi hpc hallow
  | invalidate hpc =>
      refine h.move rfl ?_ rfl (by simp) (by rw [hpc]; exact id) trivial
      simp [sockRecvWorkerInvalidate]
  | copyResult _ hpc _ =>
      exact h.move rfl (fun hc => ⟨hc, rfl⟩) rfl (by simp) (by rw [hpc]; exact id) trivial
  | copyResultDone hpc _ =>
      exact h.move rfl (fun hc => ⟨hc, rfl⟩) rfl (by simp) (by rw [hpc]; exact id) trivial
  | copyCache _ hpc _ =>
      exact h.move rfl (fun hc => ⟨hc, rfl⟩) rfl (by simp) (by rw [hpc]; exact id) trivial
  | copyCacheDone hpc _ =>
      exact h.move rfl (fun hc => ⟨hc, rfl⟩) rfl (by simp) (by rw [hpc]; exact id) trivial
  | publish hpc => exact h.publish_step hi hpc
  | reinit hpc =>
      exact h.move rfl (fun hc => ⟨hc, rfl⟩) rfl (by simp) (by simp [Pc.entered]) trivial
  | reset hpc _ =>
      refine h.keep (fun hc => ⟨hc, rfl⟩) rfl ?_ (by simp) (by simp [Pc.entered])
        (by simp [Ev.Issues]) rfl
      simp [Sys.job, workerReset, Job.InFlight]
  | resetSkip hpc _ =>
      exact h.move rfl (fun hc => ⟨hc, rfl⟩) rfl (by simp) (by simp [Pc.entered]) trivial
  | @accept handle event hpc _ hclosed =>
      have hk : s.fw.recv.cached = true → s.fw.recv.key.handle ≠ handle := by
        rintro hc rfl
        simp [h.isOpen hc] at hclosed
      refine ⟨?_, h.closing, ?_, by simp [Pc.entered], ?_⟩
      · intro hc
        dsimp only
        rw [Function.update_of_ne (hk hc)]
        exact h.isOpen hc
      · intro handle' event' hacc hc
        obtain ⟨rfl, -⟩ := Pc.acceptPush.inj hacc
        exact hk hc
      · intro hc
        obtain ⟨t, hl, hfresh⟩ := h.cached hc
        refine ⟨t, by simpa [Ev.publishedRecv] using hl, hfresh.snoc ?_⟩
        rintro (heq | ⟨t', family, type, protocol, r, heq, -⟩)
        · exact hk hc (Ev.issued.inj heq).symm
        · simp at heq
  | @acceptPush handle event accepted _ hpc =>
      refine ⟨?_, h.closing, by simp, by simp [Pc.entered], ?_⟩
      · intro hc
        cases accepted with
        | true => exact h.isOpen hc
        | false =>
            simp only [Bool.false_eq_true, if_false]
            rw [Function.update_of_ne (h.accepting handle event hpc hc)]
            exact h.isOpen hc
      · intro hc
        obtain ⟨t, hl, hfresh⟩ := h.cached hc
        exact ⟨t, by simpa [Ev.publishedRecv] using hl, hfresh.snoc (by simp [Ev.Issues])⟩

/-- The invariant holds along every run without a receive on a closed handle. -/
theorem of_run {hal : η} (hr : (system E).RunIf RecvOnOpen (.boot hal) tr s) :
    ReissueInv tr s := by
  have h0 : ReissueInv [] (.boot hal) := by
    refine ⟨?_, ?_, ?_, ?_, ?_⟩ <;>
      simp [Sys.boot, Sys.job, Fw.boot, Worker.init, Job.InFlight, Pc.entered]
  exact (core_invariant hr h0 fun _ _ _ _ _ hi hres h hg hstep hs => h.step hi hres hg hstep hs).2.2

end ReissueInv

/-! ## The guarantee and where it ends -/

/-- The receive `req` with key `key` is answered from the cache: the cache answers for this key and
the ring does not serve the handle. -/
structure Request.FromRecvCache (E : Env η) (s : Sys η) (key : RecvKey) (req : Request) : Prop where
  isRecv : req.IsRecv E key
  cached : s.fw.recv.cached = true
  sameKey : s.fw.recv.key = key
  declined : ¬ s.fw.rx.Owns key.handle

/-- Such a receive is answered with the cached reply. -/
theorem Request.FromRecvCache.reply_eq {E : Env η} {s : Sys η} {key : RecvKey} {req : Request}
    (h : req.FromRecvCache E s key) {fw : Fw η} {reply : Reply}
    (hd : protocolDispatch E s.fw req.cmd req.flags req.payload req.cap = (fw, reply)) :
    reply = s.fw.recv.replyFor req.cap := by
  obtain ⟨⟨hdec, hl, rfl⟩, hc, hkey, hown⟩ := h
  have hself := RecvCache.forget_self hkey
  rcases dispatch_recv hd with ⟨-, ho⟩ | ⟨hdec', -⟩ | ⟨hne, -⟩
  · cases ho with
    | invalid hl' => exact absurd hl hl'
    | ring _ hk _ hring =>
        subst hk
        exact absurd (sockRecvFromRing_owns hring) hown
    | cached _ hk hr _ =>
        subst hr hk
        exact congrArg (RecvCache.replyFor · req.cap) hself
    | noMem _ hk hr hun _ =>
        subst hr hk
        simp only [Fw.latchSeq_recv] at hun
        exact absurd ((congrArg RecvCache.cached hself).symm.trans hun) (by simp [hc])
    | submitted _ hk hr hun _ _ =>
        subst hr hk
        simp only [Fw.latchSeq_recv] at hun
        exact absurd ((congrArg RecvCache.cached hself).symm.trans hun) (by simp [hc])
    | busy _ hk hr hun _ =>
        subst hr hk
        simp only [Fw.latchSeq_recv] at hun
        exact absurd ((congrArg RecvCache.cached hself).symm.trans hun) (by simp [hc])
  · simp [hdec] at hdec'
  · exact absurd hdec hne

/-- No stale receive is served.  Take any interleaving in which `cc3501e_hw_sock_recv` is never
entered on a handle that lwIP does not have open.  A receive that is then answered from the cache is
answered with the outcome of the receive published last, and that one was executed on the handle,
once, after every event that issued the handle. -/
theorem cached_recv_not_stale {E : Env η} {hal : η} {tr : List Ev} {s : Sys η}
    (hr : (system E).RunIf RecvOnOpen (.boot hal) tr s) {req : Request} {fw : Fw η} {reply : Reply}
    (hd : protocolDispatch E s.fw req.cmd req.flags req.payload req.cap = (fw, reply))
    {key : RecvKey} (hreq : req.FromRecvCache E s key) :
    reply = s.fw.recv.replyFor req.cap ∧
      ∃ t, latest Ev.publishedRecv tr = some t ∧ Once (Ev.Execs t) tr ∧
        FreshRecv tr t key.handle := by
  obtain ⟨t, hl, hfresh⟩ := (ReissueInv.of_run hr).cached hreq.cached
  refine ⟨hreq.reply_eq hd, t, hl, (SlotInv.of_run hr.run).execOnce t, ?_⟩
  rw [← hreq.sameKey]
  exact hfresh

open Act in
/-- A stream socket is opened as handle 1, collected, and receives two bytes. -/
def freshRecv : List (Act Unit) :=
  [dispatch (.of .sockOpen 1 [0, 1, 0, 0]), task, task, ret { rv := hwOk, word := 1 }] ++
    List.replicate 10 task ++
    [dispatch (.of .sockOpen 1 [0, 1, 0, 0]), dispatch (.of .sockRecv 3 [1, 0, 16, 0]), task,
      task, ret { rv := hwOk, data := [0x68, 0x69] }] ++ List.replicate 56 task

/-- The repetition of the receive is served from the cache, with a receive of the open socket. -/
theorem cached_recv_not_stale_freshRecv :
    ∃ s tr fw reply, (system .reference).RunIf RecvOnOpen (.boot ()) tr s ∧
      protocolDispatch .reference s.fw 0x23 0x18 [1, 0, 16, 0] 4093 = (fw, reply) ∧
      reply.status = .ok ∧
      ∃ t, latest Ev.publishedRecv tr = some t ∧ Once (Ev.Execs t) tr ∧ FreshRecv tr t 1 := by
  have hexec : ((system .reference).execIf RecvOnOpen (.boot ()) freshRecv).map (fun p =>
      (p.1.fw.recv.cached, p.1.fw.recv.key, decide (p.1.fw.rx.Owns 1),
        (protocolDispatch .reference p.1.fw 0x23 0x18 [1, 0, 16, 0] 4093).2.status)) =
      some (true, ⟨3, 1, 16⟩, false, .ok) := by decide +kernel
  obtain ⟨⟨s, tr⟩, hs, heq⟩ := Option.map_eq_some_iff.mp hexec
  simp only [Prod.mk.injEq, decide_eq_false_iff_not] at heq
  obtain ⟨hc, hkey, hown, hstatus⟩ := heq
  have hrun := Machine.runIf_of_execIf hs
  refine ⟨s, tr, _, _, hrun, rfl, hstatus, ?_⟩
  have hreq : Request.FromRecvCache .reference s ⟨3, 1, 16⟩ ⟨0x23, 0x18, [1, 0, 16, 0], 4093⟩ :=
    ⟨⟨by decide, by decide, rfl⟩, hc, hkey, hown⟩
  exact (cached_recv_not_stale hrun rfl hreq).2

open Act in
/-- A socket is opened as handle 1 and closed, a receive on the closed handle fails, and the next
open gets handle 1 again. -/
def staleRecv : List (Act Unit) :=
  [dispatch (.of .sockOpen 1 [0, 1, 0, 0]), task, task, ret { rv := hwOk, word := 1 }] ++
    List.replicate 10 task ++
    [dispatch (.of .sockOpen 1 [0, 1, 0, 0]), dispatch (.of .sockClose 2 [1, 0, 0, 0]), task,
      task, ret { rv := hwOk }] ++ List.replicate 6 task ++
    [dispatch (.of .sockClose 2 [1, 0, 0, 0]), dispatch (.of .sockRecv 3 [1, 0, 16, 0]), task,
      task, ret { rv := hwErrIo }] ++ List.replicate 7 task ++
    [dispatch (.of .sockRecv 3 [1, 0, 16, 0]), dispatch (.of .sockOpen 4 [0, 1, 0, 0]), task,
      task, ret { rv := hwOk, word := 1 }] ++ List.replicate 10 task ++
    [dispatch (.of .sockOpen 4 [0, 1, 0, 0])]

/-- A receive on the new socket is answered with the failure of the receive that was executed before
the new socket was opened. -/
theorem stale_recv_served :
    ∃ s tr fw reply, (system .reference).Run (.boot ()) tr s ∧
      protocolDispatch .reference s.fw 0x23 0x18 [1, 0, 16, 0] 4093 = (fw, reply) ∧
      Request.FromRecvCache .reference s ⟨3, 1, 16⟩ ⟨0x23, 0x18, [1, 0, 16, 0], 4093⟩ ∧
      reply = .bare .errRadio ∧
      ∃ t x i, latest Ev.publishedRecv tr = some t ∧ At (Ev.ExecsRecvOn t 1) tr x ∧
        At (Ev.Issues 1) tr i ∧ x < i := by
  have hexec : ((system .reference).exec (.boot ()) staleRecv).map (fun p =>
      (p.1.fw.recv.cached, p.1.fw.recv.key, decide (p.1.fw.rx.Owns 1),
        (protocolDispatch .reference p.1.fw 0x23 0x18 [1, 0, 16, 0] 4093).2)) =
      some (true, ⟨3, 1, 16⟩, false, .bare .errRadio) := by decide +kernel
  have htrace : ((system .reference).exec (.boot ()) staleRecv).map (fun p =>
      (latest Ev.publishedRecv p.2, p.2[28]?, p.2[41]?)) =
      some (some 2, some (.exec 2 (.sockRecv 1 16 16)),
        some (.ret 3 (.sockOpen 0 1 0) { rv := hwOk, word := 1 })) := by decide +kernel
  obtain ⟨⟨s, tr⟩, hs, heq⟩ := Option.map_eq_some_iff.mp hexec
  simp only [hs, Option.map_some, Option.some.injEq, Prod.mk.injEq] at htrace
  simp only [Prod.mk.injEq, decide_eq_false_iff_not] at heq
  obtain ⟨hc, hkey, hown, hreply⟩ := heq
  obtain ⟨hlast, hx, hissue⟩ := htrace
  refine ⟨s, tr, _, _, Machine.run_of_exec hs, rfl, ⟨⟨by decide, by decide, rfl⟩, hc, hkey, hown⟩,
    hreply, 2, 28, 41, hlast, ⟨_, hx, _, _, rfl⟩, ⟨_, hissue, .inr ?_⟩, by decide⟩
  exact ⟨_, _, _, _, _, rfl, rfl, rfl⟩

end Cc3501eBridge
