import Cc3501eBridge.Steps

/-!
# The slot along a run

What every run keeps true of the job slot, whatever the interleaving: the task is executing exactly
when the slot is `RUNNING`, the job in the slot is the latest submission and is the one its
submitting request described, each number is submitted once and executed at most once.

`SlotInv` is stated over the history and the state together.  Most steps leave the slot's identity
alone; `SlotInv.still` disposes of them at one stroke, and only the five steps that move the slot
are looked at one by one.
-/

namespace Cc3501eBridge

variable {η : Type}

open Trace

namespace Ev

/-- The dispatch of `req` that queued job number `t`. -/
def Submits (t : Nat) (req : Request) (e : Ev) : Prop := ∃ reply, e = .dispatch req reply (some t)

/-- A dispatch that queued job number `t`. -/
def SubmitsJob (t : Nat) (e : Ev) : Prop := ∃ req, Submits t req e

/-- The HAL body of job number `t` is entered. -/
def Execs (t : Nat) (e : Ev) : Prop := ∃ call, e = .exec t call

/-- Neither a submission nor an execution. -/
def Still (e : Ev) : Prop := ∀ t, ¬ SubmitsJob t e ∧ ¬ Execs t e

theorem Silent.still {e : Ev} (h : e.Silent) : e.Still := by
  intro t
  cases e <;> simp_all [Silent, SubmitsJob, Submits, Execs]

theorem still_tau : Still .tau := Silent.still (e := .tau) trivial

end Ev

/-- What identifies the job in the slot and its stage, without its result. -/
structure JobId where
  state : WorkerState
  cmd : Cmd
  ticket : Nat
  req : Buf
  reqLen : Nat

/-- The identity of a job. -/
def Job.ident (j : Job) : JobId where
  state := j.state
  cmd := j.jobCmd
  ticket := j.ticket
  req := j.req
  reqLen := j.reqLen

/-- `j` is the job that request `req` asked for. -/
def Job.Serves (E : Env η) (req : Request) (j : Job) : Prop :=
  E.hdr.decode req.cmd = some j.jobCmd ∧
    (j.jobCmd.carriesPayload = true → j.payload = req.payload)

theorem Job.Serves.of_ident {E : Env η} {req : Request} {j j' : Job} (h : j.Serves E req)
    (hj : j'.ident = j.ident) : j'.Serves E req := by
  have hcmd : j'.jobCmd = j.jobCmd := congrArg JobId.cmd hj
  have hreq : j'.req = j.req := congrArg JobId.req hj
  have hlen : j'.reqLen = j.reqLen := congrArg JobId.reqLen hj
  rw [Job.Serves, Job.payload, hcmd, hreq, hlen]
  exact h

@[simp] theorem Job.finish_serves {E : Env η} {req : Request} {j : Job} {out : ExecOut} :
    (j.finish out).Serves E req ↔ j.Serves E req := by
  simp [Job.Serves]

/-- The slot's invariant. -/
structure SlotInv (E : Env η) (tr : List Ev) (s : Sys η) : Prop where
  /-- The slot is `RUNNING` exactly while the task executes a job. -/
  running : s.job.state = .running ↔ s.pc.executing ≠ none
  /-- The task executes the opcode in the slot. -/
  cmd : ∀ c, s.pc.executing = some c → s.job.jobCmd = c
  /-- The slot holds the latest submission. -/
  latest : s.job.state ≠ .idle → s.job.ticket + 1 = s.fw.worker.submits
  submitted : ∀ t i, At (Ev.SubmitsJob t) tr i → t < s.fw.worker.submits
  submitOnce : ∀ t, Once (Ev.SubmitsJob t) tr
  /-- The job is the one its request described. -/
  origin : s.job.state ≠ .idle → ∃ req i, At (Ev.Submits s.job.ticket req) tr i ∧
    s.job.Serves E req
  executed : ∀ t i, At (Ev.Execs t) tr i → t < s.fw.worker.submits
  /-- A job that has not reached its HAL body has not been executed. -/
  unexecuted : (s.job.state = .queued ∨ ∃ c, s.pc = .execute c) →
    ∀ i, ¬ At (Ev.Execs s.job.ticket) tr i
  execOnce : ∀ t, Once (Ev.Execs t) tr

namespace SlotInv

variable {E : Env η} {tr : List Ev} {s s' : Sys η} {e : Ev}

private theorem at_submits_still (he : e.Still) {t i : Nat} :
    At (Ev.SubmitsJob t) (tr ++ [e]) i ↔ At (Ev.SubmitsJob t) tr i := by
  rw [at_snoc]
  exact ⟨fun h => h.resolve_right fun h' => (he t).1 h'.2, .inl⟩

private theorem at_execs_still (he : e.Still) {t i : Nat} :
    At (Ev.Execs t) (tr ++ [e]) i ↔ At (Ev.Execs t) tr i := by
  rw [at_snoc]
  exact ⟨fun h => h.resolve_right fun h' => (he t).2 h'.2, .inl⟩

/-- A step that leaves the slot's identity alone, and neither submits nor executes. -/
theorem still (h : SlotInv E tr s) (hj : s'.job.ident = s.job.ident)
    (hn : s'.fw.worker.submits = s.fw.worker.submits) (hpc : s'.pc.executing = s.pc.executing)
    (hx : ∀ c, s'.pc = .execute c → s.pc = .execute c) (he : e.Still) :
    SlotInv E (tr ++ [e]) s' := by
  have hstate : s'.job.state = s.job.state := congrArg JobId.state hj
  have hcmd : s'.job.jobCmd = s.job.jobCmd := congrArg JobId.cmd hj
  have hticket : s'.job.ticket = s.job.ticket := congrArg JobId.ticket hj
  have hreq : s'.job.req = s.job.req := congrArg JobId.req hj
  have hlen : s'.job.reqLen = s.job.reqLen := congrArg JobId.reqLen hj
  refine ⟨?_, ?_, ?_, ?_, ?_, ?_, ?_, ?_, ?_⟩
  · rw [hstate, hpc]
    exact h.running
  · rw [hpc, hcmd]
    exact h.cmd
  · rw [hstate, hticket, hn]
    exact h.latest
  · intro t i ht
    rw [hn]
    exact h.submitted t i ((at_submits_still he).mp ht)
  · exact fun t => (h.submitOnce t).snoc fun hs => absurd hs (he t).1
  · intro hi
    rw [hstate] at hi
    obtain ⟨req, i, hs, hserves⟩ := h.origin hi
    exact ⟨req, i, hticket ▸ hs.snoc, hserves.of_ident hj⟩
  · intro t i ht
    rw [hn]
    exact h.executed t i ((at_execs_still he).mp ht)
  · intro hu i ht
    rw [at_execs_still he, hticket] at ht
    refine h.unexecuted ?_ i ht
    rcases hu with hu | ⟨c, hu⟩
    · exact .inl (hstate ▸ hu)
    · exact .inr ⟨c, hx c hu⟩
  · exact fun t => (h.execOnce t).snoc fun hs => absurd hs (he t).2

/-- A task that is not executing leaves the slot in another state than `RUNNING`. -/
theorem not_running (h : SlotInv E tr s) (hpc : s.pc.executing = none) : s.job.state ≠ .running :=
  fun hr => h.running.mp hr hpc

theorem executing_none (h : SlotInv E tr s) (hs : s.job.state ≠ .running) :
    s.pc.executing = none := by
  by_contra hne
  exact hs (h.running.mpr hne)

/-- A number is submitted by one request only. -/
theorem submits_inj (h : SlotInv E tr s) {t i j : Nat} {req req' : Request}
    (hi : At (Ev.Submits t req) tr i) (hj : At (Ev.Submits t req') tr j) : req = req' := by
  have hij : i = j := h.submitOnce t i j (hi.mono fun _ he => ⟨req, he⟩)
    (hj.mono fun _ he => ⟨req', he⟩)
  subst hij
  obtain ⟨e, he, reply, rfl⟩ := hi
  obtain ⟨e', he', reply', rfl⟩ := hj
  have heq := he.symm.trans he'
  simp only [Option.some.injEq, Ev.dispatch.injEq] at heq
  exact heq.1

/-- The slot is freed while the task executes nothing. -/
private theorem freed (h : SlotInv E tr s) (hpc : s'.pc.executing = none)
    (hw : s'.fw.worker = workerReset s.fw.worker) (he : e.Still) : SlotInv E (tr ++ [e]) s' := by
  have hj : s'.job = s.job.cleared := by
    unfold Sys.job
    rw [hw]
    rfl
  have hn : s'.fw.worker.submits = s.fw.worker.submits := by rw [hw]; rfl
  have hstate : s'.job.state = .idle := by rw [hj]; rfl
  refine ⟨?_, ?_, ?_, ?_, ?_, ?_, ?_, ?_, ?_⟩
  · simp [hstate, hpc]
  · simp [hpc]
  · simp [hstate]
  · intro t i ht
    rw [hn]
    exact h.submitted t i ((at_submits_still he).mp ht)
  · exact fun t => (h.submitOnce t).snoc fun hs => absurd hs (he t).1
  · simp [hstate]
  · intro t i ht
    rw [hn]
    exact h.executed t i ((at_execs_still he).mp ht)
  · rintro (hq | ⟨c, hc⟩)
    · simp [hstate] at hq
    · simp [hc, Pc.executing] at hpc
  · exact fun t => (h.execOnce t).snoc fun hs => absurd hs (he t).2

/-- A dispatch queues a job: the slot's next job has the next number. -/
private theorem queued (h : SlotInv E tr s) {req : Request} {reply : Reply} {c : Cmd}
    (hpc : s'.pc = s.pc) (hf : s.pc.executing = none) (hd : E.hdr.decode req.cmd = some c)
    (hstate : s'.job.state = .queued) (hcmd : s'.job.jobCmd = c)
    (hticket : s'.job.ticket = s.fw.worker.submits)
    (hn : s'.fw.worker.submits = s.fw.worker.submits + 1)
    (hp : c.carriesPayload = true → s'.job.payload = req.payload) :
    SlotInv E (tr ++ [.dispatch req reply (some s.fw.worker.submits)]) s' := by
  have hsub : ∀ t i, At (Ev.SubmitsJob t)
      (tr ++ [.dispatch req reply (some s.fw.worker.submits)]) i →
      At (Ev.SubmitsJob t) tr i ∨ t = s.fw.worker.submits := by
    intro t i ht
    rcases at_snoc.mp ht with ht | ⟨-, req', reply', heq⟩
    · exact .inl ht
    · exact .inr (by simpa using (Ev.dispatch.inj heq).2.2.symm)
  have hexec : ∀ t i, At (Ev.Execs t) (tr ++ [.dispatch req reply (some s.fw.worker.submits)]) i →
      At (Ev.Execs t) tr i := by
    intro t i ht
    rcases at_snoc.mp ht with ht | ⟨-, call, heq⟩
    · exact ht
    · simp at heq
  refine ⟨?_, ?_, ?_, ?_, ?_, ?_, ?_, ?_, ?_⟩
  · simp [hstate, hpc, hf]
  · simp [hpc, hf]
  · rw [hticket, hn]
    exact fun _ => rfl
  · intro t i ht
    rw [hn]
    rcases hsub t i ht with ht | rfl
    · exact Nat.lt_succ_of_lt (h.submitted t i ht)
    · exact Nat.lt_succ_self _
  · intro t
    refine (h.submitOnce t).snoc ?_
    rintro ⟨req', reply', heq⟩ i hi
    obtain rfl : s.fw.worker.submits = t := by simpa using (Ev.dispatch.inj heq).2.2
    exact Nat.lt_irrefl _ (h.submitted _ i hi)
  · intro _
    rw [hticket]
    exact ⟨req, tr.length, at_last ⟨reply, rfl⟩, hcmd ▸ hd, fun _ => hp (hcmd ▸ ‹_›)⟩
  · intro t i ht
    rw [hn]
    exact Nat.lt_succ_of_lt (h.executed t i (hexec t i ht))
  · intro _ i ht
    rw [hticket] at ht
    exact Nat.lt_irrefl _ (h.executed _ i (hexec _ i ht))
  · intro t
    refine (h.execOnce t).snoc ?_
    rintro ⟨call, heq⟩
    simp at heq

private theorem dispatch_step (h : SlotInv E tr s) {req : Request} {fw : Fw η} {reply : Reply}
    (hd : protocolDispatch E s.fw req.cmd req.flags req.payload req.cap = (fw, reply)) :
    SlotInv E (tr ++ [.dispatch req reply (queuedBy s.fw.worker fw.worker)])
      { s with fw := fw } := by
  have hnone : ∀ reply, Ev.Still (.dispatch req reply none) := by
    intro reply t
    simp [Ev.SubmitsJob, Ev.Submits, Ev.Execs]
  have hkeep : fw.worker = s.fw.worker → SlotInv E (tr ++
      [.dispatch req reply (queuedBy s.fw.worker fw.worker)]) { s with fw := fw } := by
    intro hw
    rw [hw]
    have hq : queuedBy s.fw.worker s.fw.worker = none := by simp [queuedBy]
    rw [hq]
    exact h.still (by simp [Sys.job, hw]) (by simp [hw]) rfl (fun _ => id) (hnone reply)
  rcases dispatch_slot hd with hw | ⟨c, hdec, hslot⟩
  · exact hkeep hw
  · generalize hw : fw.worker = w' at hslot
    cases hslot with
    | keep => exact hw ▸ hkeep hw
    | free ht =>
        have hq : queuedBy s.fw.worker (workerReset s.fw.worker) = none := by
          simp [queuedBy, workerReset]
        rw [hq]
        exact h.freed (h.executing_none ht.ne_running) (by simp [hw]) (hnone reply)
    | submit hf hc =>
        have hnr : s.job.state ≠ .running := fun hr => hf (.inr hr)
        have hq : queuedBy s.fw.worker (s.fw.worker.queued c) = some s.fw.worker.submits := by
          simp [queuedBy, Worker.queued]
        rw [hq]
        refine h.queued rfl (h.executing_none hnr) hdec ?_ ?_ ?_ ?_ (by simp [hc]) <;>
          simp [Sys.job, hw, Worker.queued]
    | submitPayload hf hc hl =>
        have hnr : s.job.state ≠ .running := fun hr => hf (.inr hr)
        have hq : queuedBy s.fw.worker (s.fw.worker.queuedPayload c req.payload) =
            some s.fw.worker.submits := by
          simp [queuedBy, Worker.queuedPayload]
        rw [hq]
        refine h.queued rfl (h.executing_none hnr) hdec ?_ ?_ ?_ ?_ ?_ <;>
          simp [Sys.job, hw, Worker.queuedPayload, Job.payload]

/-- The invariant is kept by every step. -/
theorem step (h : SlotInv E tr s) (hs : CoreStep E s s' e) : SlotInv E (tr ++ [e]) s' := by
  cases hs with
  | silent hw _ _ _ hpc he =>
      refine h.still (by simp [Sys.job, hw]) (by rw [hw]) ?_ ?_ he.still
      · rcases hpc with hpc | ⟨ho, ho'⟩
        · rw [hpc]
        · rw [ho.executing, ho'.executing]
      · intro c hc
        rcases hpc with hpc | ⟨-, ho'⟩
        · rw [← hpc, hc]
        · rw [hc] at ho'
          exact ho'.elim
  | dispatch hd => exact h.dispatch_step hd
  | promote hpc hq =>
      have hstill : Ev.Still (.promote s.job.ticket) := by
        intro t
        simp [Ev.SubmitsJob, Ev.Submits, Ev.Execs]
      have hni : s.job.state ≠ .idle := by simp [hq]
      refine ⟨?_, ?_, ?_, ?_, ?_, ?_, ?_, ?_, ?_⟩
      · simp [Sys.job, Pc.executing]
      · simp [Sys.job, Pc.executing]
      · exact fun _ => h.latest hni
      · exact fun t i ht => h.submitted t i ((at_submits_still hstill).mp ht)
      · exact fun t => (h.submitOnce t).snoc fun hs => absurd hs (hstill t).1
      · intro _
        obtain ⟨req, i, hs, hd, hp⟩ := h.origin hni
        exact ⟨req, i, hs.snoc, hd, hp⟩
      · exact fun t i ht => h.executed t i ((at_execs_still hstill).mp ht)
      · intro _ i ht
        exact h.unexecuted (.inl hq) i ((at_execs_still hstill).mp ht)
      · exact fun t => (h.execOnce t).snoc fun hs => absurd hs (hstill t).2
  | @exec cmd _ hpc =>
      have hrun : s.job.state = .running := h.running.mpr (by simp [hpc, Pc.executing])
      have hni : s.job.state ≠ .idle := by simp [hrun]
      have hexec : ∀ t i, At (Ev.Execs t) (tr ++ [.exec s.job.ticket (E.halCall cmd s.job.req s.job.reqLen)]) i →
          At (Ev.Execs t) tr i ∨ t = s.job.ticket := by
        intro t i ht
        rcases at_snoc.mp ht with ht | ⟨-, call, heq⟩
        · exact .inl ht
        · exact .inr (Ev.exec.inj heq).1.symm
      have hsub : ∀ t i, At (Ev.SubmitsJob t) (tr ++ [.exec s.job.ticket (E.halCall cmd s.job.req s.job.reqLen)]) i →
          At (Ev.SubmitsJob t) tr i := by
        intro t i ht
        rcases at_snoc.mp ht with ht | ⟨-, req, reply, heq⟩
        · exact ht
        · simp at heq
      refine ⟨?_, ?_, ?_, ?_, ?_, ?_, ?_, ?_, ?_⟩
      · exact ⟨fun _ => by simp [Pc.executing], fun _ => hrun⟩
      · intro c hc
        exact h.cmd c (by simpa [hpc, Pc.executing] using hc)
      · exact fun _ => h.latest hni
      · exact fun t i ht => h.submitted t i (hsub t i ht)
      · intro t
        refine (h.submitOnce t).snoc ?_
        rintro ⟨req, reply, heq⟩
        simp at heq
      · intro _
        obtain ⟨req, i, hs, hd, hp⟩ := h.origin hni
        exact ⟨req, i, hs.snoc, hd, hp⟩
      · intro t i ht
        rcases hexec t i ht with ht | rfl
        · exact h.executed t i ht
        · have := h.latest hni
          change s.job.ticket < s.fw.worker.submits
          omega
      · rintro (hq | ⟨c, hc⟩)
        · exact absurd hq (by change s.job.state ≠ .queued; simp [hrun])
        · simp at hc
      · intro t
        refine (h.execOnce t).snoc ?_
        rintro ⟨call, heq⟩ i
        obtain rfl : s.job.ticket = t := (Ev.exec.inj heq).1
        exact h.unexecuted (.inr ⟨cmd, hpc⟩) i
  | @ret cmd call r _ hpc _ _ =>
      refine h.still rfl rfl ?_ ?_ ?_
      · rw [hpc]
        dsimp only
        split_ifs with hc
        · rw [hc]
          rfl
        · rfl
      · intro c hc
        dsimp only at hc
        split_ifs at hc
      · intro t
        simp [Ev.SubmitsJob, Ev.Submits, Ev.Execs]
  | invalidate hpc => exact h.still rfl rfl (by rw [hpc]; rfl) (by simp) Ev.still_tau
  | copyResult _ hpc _ => exact h.still rfl rfl (by rw [hpc]; rfl) (by simp) Ev.still_tau
  | copyResultDone hpc _ => exact h.still rfl rfl (by rw [hpc]; rfl) (by simp) Ev.still_tau
  | copyCache _ hpc _ => exact h.still rfl rfl (by rw [hpc]; rfl) (by simp) Ev.still_tau
  | copyCacheDone hpc _ => exact h.still rfl rfl (by rw [hpc]; rfl) (by simp) Ev.still_tau
  | @publish cmd out hpc =>
      have hrun : s.job.state = .running := h.running.mpr (by simp [hpc, Pc.executing])
      have hni : s.job.state ≠ .idle := by simp [hrun]
      have hstill : Ev.Still (.publish s.job.ticket cmd) := by
        intro t
        simp [Ev.SubmitsJob, Ev.Submits, Ev.Execs]
      have hterm : (s.job.finish out).Terminal := s.job.finish_terminal out
      have hjob : ∀ s', s' = { s with fw := workerPublish E s.fw cmd out, pc := Pc.reinit cmd } →
          s'.job = s.job.finish out := by rintro _ rfl; rfl
      generalize hs' : { s with fw := workerPublish E s.fw cmd out, pc := Pc.reinit cmd } = s'
      have hj := hjob s' hs'.symm
      have hpc' : s'.pc = .reinit cmd := by rw [← hs']
      have hn : s'.fw.worker.submits = s.fw.worker.submits := by rw [← hs']; rfl
      refine ⟨?_, ?_, ?_, ?_, ?_, ?_, ?_, ?_, ?_⟩
      · rcases hterm with ht | ht <;> simp [hj, hpc', Pc.executing, ht]
      · simp [hpc', Pc.executing]
      · rw [hj, hn, Job.finish_ticket]
        exact fun _ => h.latest hni
      · rw [hn]
        exact fun t i ht => h.submitted t i ((at_submits_still hstill).mp ht)
      · exact fun t => (h.submitOnce t).snoc fun hs => absurd hs (hstill t).1
      · obtain ⟨req, i, hs, hd, hp⟩ := h.origin hni
        simp only [hj, Job.finish_ticket, Job.finish_serves]
        exact fun _ => ⟨req, i, hs.snoc, hd, hp⟩
      · rw [hn]
        exact fun t i ht => h.executed t i ((at_execs_still hstill).mp ht)
      · rintro (hq | ⟨c, hc⟩)
        · rcases hterm with ht | ht <;> simp [hj, ht] at hq
        · simp [hpc'] at hc
      · exact fun t => (h.execOnce t).snoc fun hs => absurd hs (hstill t).2
  | reinit hpc => exact h.still rfl rfl (by rw [hpc]; rfl) (by simp) Ev.still_tau
  | reset hpc _ =>
      refine h.freed rfl rfl ?_
      intro t
      simp [Ev.SubmitsJob, Ev.Submits, Ev.Execs]
  | resetSkip hpc _ => exact h.still rfl rfl (by rw [hpc]; rfl) (by simp) Ev.still_tau
  | accept hpc _ _ =>
      refine h.still rfl rfl (by rw [hpc]; rfl) (by simp) ?_
      intro t
      simp [Ev.SubmitsJob, Ev.Submits, Ev.Execs]
  | acceptPush hpc => exact h.still rfl rfl (by rw [hpc]; rfl) (by simp) Ev.still_tau

/-- Before anything happened. -/
theorem boot (E : Env η) (hal : η) : SlotInv E [] (.boot hal) := by
  refine ⟨?_, ?_, ?_, ?_, ?_, ?_, ?_, ?_, ?_⟩ <;>
    simp [Sys.boot, Sys.job, Fw.boot, Worker.init, Pc.executing]

/-- The invariant holds along every run. -/
theorem of_run {hal : η} (hr : (system E).Run (.boot hal) tr s) : SlotInv E tr s :=
  hr.invariant (boot E hal) fun _ _ _ _ _ h hs => h.step (sysStep_core hs)

end SlotInv

end Cc3501eBridge
