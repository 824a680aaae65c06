import Cc3501eBridge.Reference
import Cc3501eBridge.ResultInv

/-!
# What becomes of an accepted job

A job that was accepted into the slot should wait there untouched until the drain promotes it, and
then be executed exactly once.  `JobFate` says so of one submission.

The drain breaks this in one place.  After a `WIFI_CONNECT_STA` or `WIFI_AP_START` it frees the slot
without looking, long after it published the job's result.  In between a dispatch may have dropped
that result as an orphan and queued a job of its own; the reset then throws away a job nobody ran.
`ResetSafe` is the condition that this does not happen; everything else keeps every job.
-/

namespace Cc3501eBridge

variable {η : Type}

open Trace

/-- The drain promotes job number `t`. -/
def Ev.Promotes (t : Nat) (e : Ev) : Prop := e = .promote t

/-- The task is about to free the slot after a fire-and-forget job. -/
def Pc.resets : Pc → Bool
  | .reset cmd => fireAndForget cmd
  | _ => false

/-- The task does not reset the slot over a queued job. -/
def ResetSafe (s : Sys η) (a : Act η) : Prop :=
  a.isTask = true → s.pc.resets = true → s.job.state ≠ .queued

instance (s : Sys η) (a : Act η) : Decidable (ResetSafe s a) :=
  inferInstanceAs (Decidable (_ → _ → _))

/-- What has become, by the end of the history, of job `t` that event `i` submitted for `req`. -/
inductive JobFate (E : Env η) (tr : List Ev) (s : Sys η) (t : Nat) (req : Request) (i : Nat) : Prop
  | /-- It waits in the slot with its opcode and payload. -/
    waiting :
      s.job.state = .queued → s.job.ticket = t → s.job.Serves E req →
      (∀ j, ¬ At (Ev.Promotes t) tr j) → JobFate E tr s t req i
  | /-- It was promoted, and the task's next step executes it. -/
    starting {j : Nat} {s' : Sys η} :
      i < j → At (Ev.Promotes t) tr j → s.job.state = .running → s.job.ticket = t →
      s.job.Serves E req → (∀ x, ¬ At (Ev.Execs t) tr x) →
      (system E).step s .task = some (s', .exec t (s.job.call E)) → JobFate E tr s t req i
  | /-- It was promoted and executed. -/
    executed {j x : Nat} {job : Job} :
      i < j → j < x → At (Ev.Promotes t) tr j → job.Serves E req →
      At (fun e => e = .exec t (job.call E)) tr x → JobFate E tr s t req i

namespace Steps

variable {E : Env η} {s s' : Sys η} {e : Ev} {a : Act η}

private theorem taskStep_pending (h : taskStep E s = some (s', e)) :
    s'.pending = s.pending ∨ s'.pc.entered = true := by
  unfold taskStep at h
  split at h <;> (try split_ifs at h) <;> (try split at h) <;>
    (simp only [Option.some.injEq, Prod.mk.injEq, reduceCtorEq] at h) <;>
    (obtain ⟨rfl, -⟩ := h) <;> simp [Pc.entered]

/-- Ring stores are outstanding only inside a HAL body or right after it. -/
theorem pending_step (h : s.pending ≠ [] → s.pc.entered = true)
    (hs : (system E).step s a = some (s', e)) : s'.pending ≠ [] → s'.pc.entered = true := by
  change sysStep E s a = _ at hs
  cases a with
  | dispatch req =>
      obtain ⟨rfl, -⟩ := by simpa [sysStep] using hs
      exact h
  | task =>
      simp only [sysStep] at hs
      cases hp : s.pending with
      | nil =>
          simp only [hp] at hs
          rcases taskStep_pending hs with hp' | he
          · rw [hp', hp]
            exact fun hne => absurd rfl hne
          · exact fun _ => he
      | cons st rest =>
          simp only [hp] at hs
          obtain ⟨rfl, -⟩ := by simpa using hs
          exact fun _ => h (by simp [hp])
  | ret r =>
      simp only [sysStep, retStep] at hs
      split at hs
      · split_ifs at hs
        all_goals
          obtain ⟨rfl, -⟩ := by simpa using hs
          exact fun _ => rfl
      · simp at hs
  | pump =>
      simp only [sysStep] at hs
      split at hs
      · next hp _ =>
        obtain ⟨rfl, -⟩ := by simpa using hs
        simp [hp]
      · simp at hs
  | lwip r =>
      simp only [sysStep, lwipStep] at hs
      split at hs
      · next hpc =>
        have hnil : s.pending = [] := by
          by_contra hne
          simpa [hpc, Pc.entered] using h hne
        have hp : s'.pending = s.pending := by
          cases r with
          | data bytes =>
              simp only at hs
              split_ifs at hs
              obtain ⟨rfl, -⟩ := by simpa using hs
              rfl
          | _ =>
              obtain ⟨rfl, -⟩ := by simpa using hs
              rfl
        rw [hp, hnil]
        exact fun hne => absurd rfl hne
      · simp at hs
  | accept listener handle port addr =>
      simp only [sysStep] at hs
      split at hs
      · next hpc =>
        split_ifs at hs
        obtain ⟨rfl, -⟩ := by simpa using hs
        intro hne
        simpa [hpc, Pc.entered] using h hne
      · simp at hs
  | event opcode payload =>
      obtain ⟨rfl, -⟩ := by simpa [sysStep] using hs
      exact h
  | hal h' =>
      obtain ⟨rfl, -⟩ := by simpa [sysStep] using hs
      exact h
  | stats st =>
      obtain ⟨rfl, -⟩ := by simpa [sysStep] using hs
      exact h

/-- A promoted job is executed by the task's next step. -/
theorem execute_next {cmd : Cmd} (hp : s.pending = []) (hpc : s.pc = .execute cmd)
    (hcmd : s.job.jobCmd = cmd) :
    ∃ s', (system E).step s .task = some (s', .exec s.job.ticket (s.job.call E)) := by
  subst hcmd
  simp only [system, sysStep, hp, taskStep, hpc]
  exact ⟨_, rfl⟩

/-- The task is at the execution of its job if its next step executes one. -/
theorem execute_of_next {t : Nat} {call : HalCall}
    (h : (system E).step s .task = some (s', .exec t call)) : ∃ cmd, s.pc = .execute cmd := by
  cases sysStep_core h with
  | silent _ _ _ _ _ he => exact he.elim
  | exec hpc => exact ⟨_, hpc⟩

end Steps

/-- What a run keeps true of its jobs as long as no reset hits a queued one. -/
structure FateInv (E : Env η) (tr : List Ev) (s : Sys η) : Prop where
  pending : s.pending ≠ [] → s.pc.entered = true
  promoted : ∀ t j, At (Ev.Promotes t) tr j → t < s.fw.worker.submits
  promoteOnce : ∀ t, Once (Ev.Promotes t) tr
  fate : ∀ t req i, At (Ev.Submits t req) tr i → JobFate E tr s t req i

namespace FateInv

variable {E : Env η} {tr : List Ev} {s s' : Sys η} {e : Ev}

/-- A step that neither submits, promotes nor executes, and leaves a job in flight where it is. -/
private theorem still (hi : SlotInv E tr s) (h : FateInv E tr s)
    (hpend : s'.pending ≠ [] → s'.pc.entered = true)
    (hn : s'.fw.worker.submits = s.fw.worker.submits)
    (hjob : s.job.InFlight → s'.job.ident = s.job.ident)
    (hpc : ∀ c, s.pc = .execute c → s'.pc = .execute c) (hstill : e.Still)
    (hprom : ∀ t, ¬ Ev.Promotes t e) : FateInv E (tr ++ [e]) s' := by
  have hno : ∀ {t j}, At (Ev.Promotes t) (tr ++ [e]) j → At (Ev.Promotes t) tr j := fun hj =>
    (at_snoc.mp hj).resolve_right fun hj' => hprom _ hj'.2
  refine ⟨hpend, fun t j hj => hn ▸ h.promoted t j (hno hj),
    fun t => (h.promoteOnce t).snoc fun hp => absurd hp (hprom t), ?_⟩
  intro t req i hsub
  have hsub' : At (Ev.Submits t req) tr i :=
    (at_snoc.mp hsub).resolve_right fun hs => (hstill t).1 ⟨req, hs.2⟩
  cases h.fate t req i hsub' with
  | waiting hq ht hs hp =>
      have hj := hjob (.inl hq)
      refine .waiting ?_ ?_ ?_ fun j hj' => hp j (hno hj')
      · exact (congrArg JobId.state hj).trans hq
      · exact (congrArg JobId.ticket hj).trans ht
      · exact hs.of_ident hj
  | starting hij hp hr ht hs hx hstep =>
      have hj := hjob (.inr hr)
      have hcmd : s'.job.jobCmd = s.job.jobCmd := congrArg JobId.cmd hj
      have hticket : s'.job.ticket = s.job.ticket := congrArg JobId.ticket hj
      obtain ⟨cmd, hexe⟩ := Steps.execute_of_next hstep
      have hpc' := hpc _ hexe
      have hpn : s'.pending = [] := by
        by_contra hne
        simpa [hpc', Pc.entered] using hpend hne
      have hcmd' : s.job.jobCmd = cmd := hi.cmd cmd (by rw [hexe]; rfl)
      obtain ⟨s'', hs''⟩ := Steps.execute_next (E := E) hpn hpc' (hcmd.trans hcmd')
      rw [hticket, ht] at hs''
      refine .starting hij hp.snoc ?_ (hticket.trans ht) (hs.of_ident hj) ?_ hs''
      · exact (congrArg JobId.state hj).trans hr
      · intro x hx'
        exact hx x ((at_snoc.mp hx').resolve_right fun he => (hstill t).2 he.2)
  | executed hij hjx hp hs hx => exact .executed hij hjx hp.snoc hs hx.snoc

/-- A step taken when every submitted job has been executed. -/
private theorem settled (h : FateInv E tr s)
    (hpend : s'.pending ≠ [] → s'.pc.entered = true)
    (hn : s'.fw.worker.submits = s.fw.worker.submits) (hq : s.job.state ≠ .queued)
    (hpc : ∀ c, s.pc ≠ .execute c) (hstill : e.Still) (hprom : ∀ t, ¬ Ev.Promotes t e) :
    FateInv E (tr ++ [e]) s' := by
  have hno : ∀ {t j}, At (Ev.Promotes t) (tr ++ [e]) j → At (Ev.Promotes t) tr j := fun hj =>
    (at_snoc.mp hj).resolve_right fun hj' => hprom _ hj'.2
  refine ⟨hpend, fun t j hj => hn ▸ h.promoted t j (hno hj),
    fun t => (h.promoteOnce t).snoc fun hp => absurd hp (hprom t), ?_⟩
  intro t req i hsub
  have hsub' : At (Ev.Submits t req) tr i :=
    (at_snoc.mp hsub).resolve_right fun hs => (hstill t).1 ⟨req, hs.2⟩
  cases h.fate t req i hsub' with
  | waiting hq' => exact absurd hq' hq
  | starting _ _ _ _ _ _ hstep =>
      obtain ⟨cmd, hexe⟩ := Steps.execute_of_next hstep
      exact absurd hexe (hpc cmd)
  | executed hij hjx hp hs hx => exact .executed hij hjx hp.snoc hs hx.snoc

/-- A dispatch queues a job into a slot that was not in flight. -/
private theorem queued (h : FateInv E tr s) {req : Request} {reply : Reply} {fw : Fw η} (hf : ¬ s.job.InFlight) (hstate : fw.worker.job.state = .queued)
    (hticket : fw.worker.job.ticket = s.fw.worker.submits)
    (hn : fw.worker.submits = s.fw.worker.submits + 1) (hserves : fw.worker.job.Serves E req) :
    FateInv E (tr ++ [.dispatch req reply (some s.fw.worker.submits)]) { s with fw := fw } := by
  have hno : ∀ {t j}, At (Ev.Promotes t) (tr ++ [.dispatch req reply (some s.fw.worker.submits)]) j →
      At (Ev.Promotes t) tr j := fun hj =>
    (at_snoc.mp hj).resolve_right fun hj' => by simp [Ev.Promotes] at hj'
  refine ⟨h.pending, ?_, fun t => (h.promoteOnce t).snoc fun hp => ?_, ?_⟩
  · intro t j hj
    exact hn ▸ Nat.lt_succ_of_lt (h.promoted t j (hno hj))
  · simp [Ev.Promotes] at hp
  · intro t req' i hsub
    rcases at_snoc.mp hsub with hsub | ⟨-, reply', heq⟩
    · cases h.fate t req' i hsub with
      | waiting hq => exact absurd (.inl hq) hf
      | starting _ _ hr => exact absurd (.inr hr) hf
      | executed hij hjx hp hs hx => exact .executed hij hjx hp.snoc hs hx.snoc
    · simp only [Ev.dispatch.injEq, Option.some.injEq] at heq
      obtain ⟨rfl, -, rfl⟩ := heq
      refine .waiting hstate hticket hserves ?_
      intro j hj
      exact Nat.lt_irrefl _ (h.promoted _ j (hno hj))

private theorem dispatch_step (hi : SlotInv E tr s) (h : FateInv E tr s) {req : Request} {fw : Fw η}
    {reply : Reply}
    (hd : protocolDispatch E s.fw req.cmd req.flags req.payload req.cap = (fw, reply)) :
    FateInv E (tr ++ [.dispatch req reply (queuedBy s.fw.worker fw.worker)])
      { s with fw := fw } := by
  have hnone : Ev.Still (.dispatch req reply none) := by
    intro t
    simp [Ev.SubmitsJob, Ev.Submits, Ev.Execs]
  have hkeep : fw.worker = s.fw.worker → FateInv E (tr ++
      [.dispatch req reply (queuedBy s.fw.worker fw.worker)]) { s with fw := fw } := by
    intro hw
    have hq : queuedBy s.fw.worker fw.worker = none := by simp [queuedBy, hw]
    rw [hq]
    exact h.still hi h.pending (by simp [hw]) (fun _ => by simp [Sys.job, hw]) (fun _ => id) hnone
      (by simp [Ev.Promotes])
  rcases dispatch_slot hd with hw | ⟨c, hdec, hslot⟩
  · exact hkeep hw
  · generalize hw : fw.worker = w' at hslot
    cases hslot with
    | keep => exact hw ▸ hkeep hw
    | free ht =>
        have hq : queuedBy s.fw.worker (workerReset s.fw.worker) = none := by
          simp [queuedBy, workerReset]
        rw [hq]
        refine h.settled h.pending (by simp [hw, workerReset]) ?_ ?_ hnone (by simp [Ev.Promotes])
        · rcases ht with ht | ht <;> simp [Sys.job, ht]
        · intro c hc
          have := hi.executing_none ht.ne_running
          simp [hc, Pc.executing] at this
    | submit hf hc =>
        have hq : queuedBy s.fw.worker (s.fw.worker.queued c) = some s.fw.worker.submits := by
          simp [queuedBy, Worker.queued]
        rw [hq]
        refine h.queued hf ?_ ?_ ?_ ?_
        · simp [hw, Worker.queued]
        · simp [hw, Worker.queued]
        · simp [hw, Worker.queued]
        · rw [hw]
          exact ⟨hdec, by simp [Worker.queued, hc]⟩
    | submitPayload hf hc hl =>
        have hq : queuedBy s.fw.worker (s.fw.worker.queuedPayload c req.payload) =
            some s.fw.worker.submits := by
          simp [queuedBy, Worker.queuedPayload]
        rw [hq]
        refine h.queued hf ?_ ?_ ?_ ?_
        · simp [hw, Worker.queuedPayload]
        · simp [hw, Worker.queuedPayload]
        · simp [hw, Worker.queuedPayload]
        · rw [hw]
          exact ⟨hdec, by simp [Worker.queuedPayload, Job.payload]⟩

private theorem promote_step (hi : SlotInv E tr s) (h : FateInv E tr s) (hpc : s.pc = .loop)
    (hq : s.job.state = .queued) :
    FateInv E (tr ++ [.promote s.job.ticket])
      { s with
        fw := { s.fw with worker := { s.fw.worker with job := { s.job with state := .running } } }
        pc := .execute s.job.jobCmd } := by
  have hni : s.job.state ≠ .idle := by simp [hq]
  have hpn : s.pending = [] := by
    by_contra hne
    simpa [hpc, Pc.entered] using h.pending hne
  have hunx := hi.unexecuted (.inl hq)
  have hfresh : ∀ j, ¬ At (Ev.Promotes s.job.ticket) tr j := by
    obtain ⟨req, i, hsub, -⟩ := hi.origin hni
    cases h.fate _ req i hsub with
    | waiting _ _ _ hp => exact hp
    | starting _ _ hr => simp [hq] at hr
    | executed _ _ _ _ hx => exact absurd (hx.mono fun _ he => ⟨_, he⟩) (hunx _)
  have hxno : ∀ {t x}, At (Ev.Execs t) (tr ++ [.promote s.job.ticket]) x → At (Ev.Execs t) tr x :=
    fun hx => (at_snoc.mp hx).resolve_right fun hx' => by simp [Ev.Execs] at hx'
  refine ⟨by simp [hpn], ?_, ?_, ?_⟩
  · intro t j hj
    rcases at_snoc.mp hj with hj | ⟨-, hj⟩
    · exact h.promoted t j hj
    · obtain rfl : s.job.ticket = t := Ev.promote.inj hj
      have := hi.latest hni
      change s.job.ticket < s.fw.worker.submits
      omega
  · intro t
    refine (h.promoteOnce t).snoc fun hp => ?_
    obtain rfl : s.job.ticket = t := Ev.promote.inj hp
    exact hfresh
  · intro t req i hsub
    have hsub' : At (Ev.Submits t req) tr i :=
      (at_snoc.mp hsub).resolve_right fun hs => by simp [Ev.Submits] at hs
    cases h.fate t req i hsub' with
    | waiting _ ht hs _ =>
        subst ht
        obtain ⟨s'', hstep⟩ := Steps.execute_next (E := E) (s := { s with
          fw := { s.fw with worker := { s.fw.worker with job := { s.job with state := .running } } }
          pc := .execute s.job.jobCmd }) hpn rfl rfl
        exact .starting hsub'.lt (at_last rfl) rfl rfl hs (fun x hx => hunx x (hxno hx)) hstep
    | starting _ _ hr => simp [hq] at hr
    | executed hij hjx hp hs hx => exact .executed hij hjx hp.snoc hs hx.snoc

private theorem exec_step (hi : SlotInv E tr s) (h : FateInv E tr s) {cmd : Cmd}
    (hpc : s.pc = .execute cmd) {pending : List PrefetchStore} :
    FateInv E (tr ++ [.exec s.job.ticket (E.halCall cmd s.job.req s.job.reqLen)])
      { s with
        fw := { s.fw with worker := { s.fw.worker with execs := s.fw.worker.execs + 1 } }
        pc := .hal cmd (E.halCall cmd s.job.req s.job.reqLen)
        pending := pending } := by
  have hcmd : s.job.jobCmd = cmd := hi.cmd cmd (by rw [hpc]; rfl)
  have hrun : s.job.state = .running := hi.running.mpr (by simp [hpc, Pc.executing])
  refine ⟨fun _ => rfl, ?_, fun t => (h.promoteOnce t).snoc fun hp => ?_, ?_⟩
  · intro t j hj
    exact h.promoted t j ((at_snoc.mp hj).resolve_right fun hj' => by simp [Ev.Promotes] at hj')
  · simp [Ev.Promotes] at hp
  · intro t req i hsub
    have hsub' : At (Ev.Submits t req) tr i :=
      (at_snoc.mp hsub).resolve_right fun hs => by simp [Ev.Submits] at hs
    cases h.fate t req i hsub' with
    | waiting hq => simp [hrun] at hq
    | starting hij hp _ ht hs _ _ =>
        subst ht hcmd
        exact .executed hij hp.lt hp.snoc hs (at_last rfl)
    | executed hij hjx hp hs hx => exact .executed hij hjx hp.snoc hs hx.snoc

/-- The invariant is kept by every safe step. -/
theorem step (hi : SlotInv E tr s) (h : FateInv E tr s) {a : Act η} (hsafe : ResetSafe s a)
    (hstep : (system E).step s a = some (s', e)) : FateInv E (tr ++ [e]) s' := by
  have hpend := Steps.pending_step h.pending hstep
  cases sysStep_core hstep with
  | silent hw _ _ _ hpc he =>
      refine h.still hi hpend (by rw [hw]) (fun _ => by simp [Sys.job, hw]) ?_ he.still ?_
      · intro c hc
        rcases hpc with hpc | ⟨ho, -⟩
        · rw [hpc, hc]
        · rw [hc] at ho
          exact ho.elim
      · rintro t rfl
        exact he
  | dispatch hd => exact h.dispatch_step hi hd
  | promote hpc hq => exact h.promote_step hi hpc hq
  | exec hpc => exact h.exec_step hi hpc
  | ret hpc _ _ =>
      refine h.still hi hpend rfl (fun _ => rfl) (by simp [hpc]) ?_ (by simp [Ev.Promotes])
      intro t
      simp [Ev.SubmitsJob, Ev.Submits, Ev.Execs]
  | invalidate hpc =>
      exact h.still hi hpend rfl (fun _ => rfl) (by simp [hpc]) Ev.still_tau (by simp [Ev.Promotes])
  | copyResult _ hpc _ =>
      exact h.still hi hpend rfl (fun _ => rfl) (by simp [hpc]) Ev.still_tau (by simp [Ev.Promotes])
  | copyResultDone hpc _ =>
      exact h.still hi hpend rfl (fun _ => rfl) (by simp [hpc]) Ev.still_tau (by simp [Ev.Promotes])
  | copyCache _ hpc _ =>
      exact h.still hi hpend rfl (fun _ => rfl) (by simp [hpc]) Ev.still_tau (by simp [Ev.Promotes])
  | copyCacheDone hpc _ =>
      exact h.still hi hpend rfl (fun _ => rfl) (by simp [hpc]) Ev.still_tau (by simp [Ev.Promotes])
  | publish hpc =>
      have hrun : s.job.state = .running := hi.running.mpr (by simp [hpc, Pc.executing])
      refine h.settled hpend rfl (by simp [hrun]) (by simp [hpc]) ?_ (by simp [Ev.Promotes])
      intro t
      simp [Ev.SubmitsJob, Ev.Submits, Ev.Execs]
  | reinit hpc =>
      exact h.still hi hpend rfl (fun _ => rfl) (by simp [hpc]) Ev.still_tau (by simp [Ev.Promotes])
  | reset hpc hf =>
      -- the guard: no job waits here
      have hq := hsafe (isTask_of_ofTask hstep rfl) (by rw [hpc]; exact hf)
      refine h.settled hpend rfl hq (by simp [hpc]) ?_ (by simp [Ev.Promotes])
      intro t
      simp [Ev.SubmitsJob, Ev.Submits, Ev.Execs]
  | resetSkip hpc _ =>
      exact h.still hi hpend rfl (fun _ => rfl) (by simp [hpc]) Ev.still_tau (by simp [Ev.Promotes])
  | accept hpc _ _ =>
      refine h.still hi hpend rfl (fun _ => rfl) (by simp [hpc]) ?_ (by simp [Ev.Promotes])
      intro t
      simp [Ev.SubmitsJob, Ev.Submits, Ev.Execs]
  | acceptPush hpc =>
      exact h.still hi hpend rfl (fun _ => rfl) (by simp [hpc]) Ev.still_tau (by simp [Ev.Promotes])

/-- The invariant holds along every run without such a reset. -/
theorem of_run {hal : η} (hr : (system E).RunIf ResetSafe (.boot hal) tr s) : FateInv E tr s := by
  have h0 : FateInv E [] (.boot hal) := by
    refine ⟨?_, ?_, ?_, ?_⟩ <;> simp [Sys.boot]
  exact (core_invariant hr h0 fun _ _ _ _ _ hi _ h hg hs _ => h.step hi hg hs).2.2

end FateInv

/-- A safe step leaves a job in flight in the slot: only its publication moves it on. -/
theorem inFlight_kept {E : Env η} {tr : List Ev} {s s' : Sys η} {e : Ev} {a : Act η}
    (hi : SlotInv E tr s) (hsafe : ResetSafe s a) (hstep : (system E).step s a = some (s', e))
    (hf : s.job.InFlight) : s'.job.state ≠ .idle ∧ s'.job.ticket = s.job.ticket := by
  have hkeep : s'.job.ident = s.job.ident → s'.job.state ≠ .idle ∧ s'.job.ticket = s.job.ticket := by
    intro hj
    exact ⟨(congrArg JobId.state hj).trans_ne hf.ne_idle, congrArg JobId.ticket hj⟩
  cases sysStep_core hstep with
  | silent hw => exact hkeep (by simp [Sys.job, hw])
  | dispatch hd => exact hkeep (by simp [Sys.job, dispatch_inFlight hd hf])
  | promote => exact ⟨by simp [Sys.job], rfl⟩
  | publish => exact ⟨(s.job.finish_terminal _).ne_idle, s.job.finish_ticket _⟩
  | reset hpc hff =>
      have hq := hsafe (isTask_of_ofTask hstep rfl) (by rw [hpc]; exact hff)
      have hr := hi.not_running (by rw [hpc]; rfl)
      rcases hf with hf | hf
      · exact absurd hf hq
      · exact absurd hf hr
  | _ => exact hkeep rfl

/-! ## The guarantee and where it ends -/

/-- No accepted job is lost in a run in which the drain's reset after a `WIFI_CONNECT_STA` or
`WIFI_AP_START` never meets a queued job: every submitted job waits in the slot with its opcode and
payload until it is promoted, and is then executed; no job is promoted or executed twice; and no
step frees the slot under a job in flight. -/
theorem no_job_lost {E : Env η} {hal : η} {tr : List Ev} {s : Sys η}
    (hr : (system E).RunIf ResetSafe (.boot hal) tr s) :
    (∀ t req i, At (Ev.Submits t req) tr i → JobFate E tr s t req i) ∧
    (∀ t, Once (Ev.Promotes t) tr ∧ Once (Ev.Execs t) tr) ∧
    (∀ a s' e, ResetSafe s a → (system E).step s a = some (s', e) → s.job.InFlight →
      s'.job.state ≠ .idle ∧ s'.job.ticket = s.job.ticket) := by
  have hi : SlotInv E tr s := SlotInv.of_run hr.run
  have h : FateInv E tr s := .of_run hr
  refine ⟨h.fate, fun t => ⟨h.promoteOnce t, hi.execOnce t⟩, ?_⟩
  exact fun a s' e hsafe hstep hf => inFlight_kept hi hsafe hstep hf

/-- A `WIFI_CONNECT_STA` runs to the end of its HAL body; a `GET_MAC` arrives while the drain
re-initialises the slave. -/
def lostJob : List (Act Unit) :=
  [.dispatch (.of .wifiConnectSta 1 [1, 0, 0, 0, 0x41]), .task, .task, .ret { rv := hwOk }, .task,
    .task, .task, .dispatch (.of .getMac 2 []), .task, .task]

/-- The events of that run. -/
def lostJobTrace : List Ev :=
  [.dispatch (.of .wifiConnectSta 1 [1, 0, 0, 0, 0x41]) (.bare .errBusy) (some 0), .promote 0,
    .exec 0 (.wifiConnectSta [0x41] [] 0), .ret 0 (.wifiConnectSta [0x41] [] 0) { rv := hwOk }, .tau,
    .tau, .publish 0 .wifiConnectSta, .dispatch (.of .getMac 2 []) (.bare .errBusy) (some 1), .tau,
    .reset]

/-- The `GET_MAC` is accepted into the slot and thrown away: the slot is idle again and the job was
neither promoted nor executed. -/
theorem queued_job_lost :
    ∃ s, (system .reference).Run (.boot ()) lostJobTrace s ∧
      ∃ t req i, At (Ev.Submits t req) lostJobTrace i ∧
        ¬ JobFate .reference lostJobTrace s t req i := by
  have hexec : ((system .reference).exec (.boot ()) lostJob).map Prod.snd = some lostJobTrace := by
    decide +kernel
  have hidle : ((system .reference).exec (.boot ()) lostJob).map (fun p => p.1.job.state) =
      some .idle := by decide +kernel
  obtain ⟨⟨s, tr⟩, hs, rfl⟩ := Option.map_eq_some_iff.mp hexec
  simp only [hs, Option.map_some, Option.some.injEq] at hidle
  refine ⟨s, Machine.run_of_exec hs, 1, .of .getMac 2 [], 7, ⟨_, rfl, _, rfl⟩, ?_⟩
  intro hfate
  cases hfate with
  | waiting hq => simp [hidle] at hq
  | starting _ _ hr => simp [hidle] at hr
  | executed _ _ _ _ hx =>
      obtain ⟨e, he, rfl⟩ := hx
      have hmem := List.mem_of_getElem? he
      simp [lostJobTrace] at hmem

/-- The same requests, the `GET_MAC` after the reset. -/
def keptJob : List (Act Unit) :=
  [.dispatch (.of .wifiConnectSta 1 [1, 0, 0, 0, 0x41]), .task, .task, .ret { rv := hwOk }, .task,
    .task, .task, .task, .task, .dispatch (.of .getMac 2 []), .task, .task, .task]

/-- The events of that run. -/
def keptJobTrace : List Ev :=
  [.dispatch (.of .wifiConnectSta 1 [1, 0, 0, 0, 0x41]) (.bare .errBusy) (some 0), .promote 0,
    .exec 0 (.wifiConnectSta [0x41] [] 0), .ret 0 (.wifiConnectSta [0x41] [] 0) { rv := hwOk }, .tau,
    .tau, .publish 0 .wifiConnectSta, .tau, .reset,
    .dispatch (.of .getMac 2 []) (.bare .errBusy) (some 1), .tau, .promote 1, .exec 1 .getMac]

/-- Here the job has its fate. -/
theorem no_job_lost_keptJob :
    ∃ s, (system .reference).RunIf ResetSafe (.boot ()) keptJobTrace s ∧
      JobFate .reference keptJobTrace s 1 (.of .getMac 2 []) 9 := by
  have hexec : ((system .reference).execIf ResetSafe (.boot ()) keptJob).map Prod.snd =
      some keptJobTrace := by decide +kernel
  obtain ⟨⟨s, tr⟩, hs, rfl⟩ := Option.map_eq_some_iff.mp hexec
  have hr := Machine.runIf_of_execIf hs
  exact ⟨s, hr, (no_job_lost hr).1 1 _ 9 ⟨_, rfl, _, rfl⟩⟩

end Cc3501eBridge
