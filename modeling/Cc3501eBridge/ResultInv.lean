import Cc3501eBridge.SlotInv

/-!
# Where a result comes from

A finished job in the slot holds what its HAL body returned, packed for the reply: nothing is lost
or mixed up on the way from the body's return through the byte-wise copy to the flip of the state.
`ResultInv` follows the outcome along that way.  While it is under way the slot is `RUNNING`, and a
dispatch leaves such a slot alone, so no interleaving can disturb it.
-/

namespace Cc3501eBridge

variable {η : Type}

open Trace

/-- The HAL body of job number `t` returned `r`. -/
def Ev.Rets (t : Nat) (call : HalCall) (r : HalRet) (e : Ev) : Prop := e = .ret t call r

/-- The number of the job whose HAL body is entered, if the call is one of the kind `p`. -/
def Ev.execIf (p : HalCall → Bool) : Ev → Option Nat
  | .exec t call => if p call then some t else none
  | _ => none

/-- The task is inside the HAL body of its job, or past it. -/
def Pc.entered : Pc → Bool
  | .hal _ _ | .invalidate _ | .copyResult _ _ _ | .copyCache _ _ _ | .publish _ _ => true
  | _ => false

/-- The outcome the task is publishing, with the number of its bytes already in `job.result`. -/
def Pc.copied : Pc → Option (ExecOut × Nat)
  | .invalidate out => some (out, 0)
  | .copyResult _ out i => some (out, i)
  | .copyCache _ out _ | .publish _ out => some (out, out.buf.length)
  | _ => none

theorem Pc.Outside.entered {pc : Pc} (h : pc.Outside) : pc.entered = false := by
  cases pc <;> first | rfl | exact absurd h (by simp [Outside])

theorem Pc.executing_of_entered {pc : Pc} (h : pc.entered = true) : pc.executing ≠ none := by
  cases pc <;> simp_all [entered, executing]

theorem Ev.Silent.execIf {e : Ev} (h : e.Silent) (p : HalCall → Bool) : e.execIf p = none := by
  cases e <;> first | rfl | exact h.elim

theorem Pc.Outside.copied {pc : Pc} (h : pc.Outside) : pc.copied = none := by
  cases pc <;> first | rfl | exact absurd h (by simp [Outside])

namespace Job

/-- The HAL call of a job. -/
def call (E : Env η) (j : Job) : HalCall := E.halCall j.jobCmd j.req j.reqLen

/-- What a job publishes when its body returns `r`. -/
def outOf (E : Env η) (j : Job) (r : HalRet) : ExecOut := E.execOut j.jobCmd j.req r

/-- The slot holds the outcome `out`. -/
structure Holds (j : Job) (out : ExecOut) : Prop where
  done : out.rv = hwOk → j.state = .done ∧ j.resultLen = out.buf.length ∧ j.resultBytes = out.buf
  err : out.rv ≠ hwOk → j.state = .err ∧ j.err = Int8.ofInt out.rv

@[simp] theorem finish_call (E : Env η) (j : Job) (out : ExecOut) :
    (j.finish out).call E = j.call E := by
  simp [call]

@[simp] theorem finish_outOf (E : Env η) (j : Job) (out : ExecOut) (r : HalRet) :
    (j.finish out).outOf E r = j.outOf E r := by
  simp [outOf]

/-- Publishing an outcome whose bytes are in place leaves a slot that holds it. -/
theorem finish_holds {j : Job} {out : ExecOut}
    (h : out.rv = hwOk → j.result.read 0 out.buf.length = out.buf) : (j.finish out).Holds out := by
  constructor
  · intro ho
    simp only [finish, if_pos ho, resultBytes]
    exact ⟨trivial, trivial, h ho⟩
  · intro ho
    simp [finish, if_neg ho]

end Job

/-- The body of the job returned `r`, within the HAL's contract. -/
def Returned (E : Env η) (tr : List Ev) (j : Job) (r : HalRet) : Prop :=
  r.fits (j.call E) = true ∧ ∃ i, At (Ev.Rets j.ticket (j.call E) r) tr i

theorem Returned.snoc {E : Env η} {tr : List Ev} {j : Job} {r : HalRet} {e : Ev}
    (h : Returned E tr j r) : Returned E (tr ++ [e]) j r := by
  obtain ⟨hf, i, hi⟩ := h
  exact ⟨hf, i, hi.snoc⟩

/-- The outcome on its way into the slot, and the outcome in the slot. -/
structure ResultInv (E : Env η) (tr : List Ev) (s : Sys η) : Prop where
  /-- The task is inside the body the job asked for. -/
  call : ∀ cmd call, s.pc = .hal cmd call → call = s.job.call E
  /-- The job's body is the one entered last, among those of its own kind. -/
  entered : s.pc.entered = true → ∀ p : HalCall → Bool, p (s.job.call E) = true →
    latest (Ev.execIf p) tr = some s.job.ticket
  /-- The outcome under way is the packed return of the job's body, and its first `n` bytes are in
  place. -/
  copied : ∀ out n, s.pc.copied = some (out, n) → ∃ r, Returned E tr s.job r ∧ out = s.job.outOf E r ∧
    (out.rv = hwOk → n ≤ out.buf.length ∧ s.job.result.read 0 n = out.buf.take n)
  terminal : s.job.Terminal → ∃ r, Returned E tr s.job r ∧ s.job.Holds (s.job.outOf E r)

namespace ResultInv

variable {E : Env η} {tr : List Ev} {s s' : Sys η} {e : Ev}

private theorem entered_snoc (h : ResultInv E tr s) (hpc : s.pc.entered = true)
    (he : ∀ p, e.execIf p = none) {p : HalCall → Bool} (hp : p (s.job.call E) = true) :
    latest (Ev.execIf p) (tr ++ [e]) = some s.job.ticket := by
  rw [latest_snoc, he p]
  exact h.entered hpc p hp

/-- A step that leaves the job and the task's outcome alone. -/
private theorem keep (h : ResultInv E tr s) (hj : s'.job = s.job)
    (hcall : ∀ cmd call, s'.pc = .hal cmd call → s.pc = .hal cmd call)
    (hentered : s'.pc.entered = true → s.pc.entered = true)
    (hcopied : ∀ p, s'.pc.copied = some p → s.pc.copied = some p) (he : ∀ p, e.execIf p = none) :
    ResultInv E (tr ++ [e]) s' := by
  refine ⟨?_, ?_, ?_, ?_⟩
  · rw [hj]
    exact fun cmd call hpc => h.call cmd call (hcall cmd call hpc)
  · rw [hj]
    intro hpc p hp
    exact h.entered_snoc (hentered hpc) he hp
  · rw [hj]
    intro out n hc
    obtain ⟨r, hr, hout, hread⟩ := h.copied out n (hcopied _ hc)
    exact ⟨r, hr.snoc, hout, hread⟩
  · rw [hj]
    intro ht
    obtain ⟨r, hr, hh⟩ := h.terminal ht
    exact ⟨r, hr.snoc, hh⟩

/-- A step after which the slot holds no outcome and none is under way. -/
private theorem vacant (hpc : s'.pc.entered = false) (ht : ¬ s'.job.Terminal) :
    ResultInv E tr s' := by
  refine ⟨?_, by simp [hpc], ?_, fun h => absurd h ht⟩
  · intro cmd call hc
    simp [hc, Pc.entered] at hpc
  · intro out n hc
    cases hp : s'.pc <;> simp_all [Pc.copied, Pc.entered]

private theorem dispatch_step (hi : SlotInv E tr s) (h : ResultInv E tr s) {req : Request}
    {fw : Fw η} {reply : Reply} {sub : Option Nat}
    (hd : protocolDispatch E s.fw req.cmd req.flags req.payload req.cap = (fw, reply)) :
    ResultInv E (tr ++ [.dispatch req reply sub]) { s with fw := fw } := by
  have hkeep : fw.worker = s.fw.worker → ResultInv E (tr ++ [.dispatch req reply sub])
      { s with fw := fw } := fun hw =>
    h.keep (by simp [Sys.job, hw]) (fun _ _ => id) id (fun _ => id) fun _ => rfl
  by_cases hx : s.pc.executing = none
  · -- the task is outside the body: only a finished job in the slot has an outcome
    have hent : s.pc.entered = false := by
      by_contra hne
      exact Pc.executing_of_entered (by simpa using hne) hx
    rcases dispatch_slot hd with hw | ⟨c, -, hs⟩
    · exact hkeep hw
    · generalize hw : fw.worker = w' at hs
      cases hs with
      | keep => exact hkeep hw
      | free _ => exact vacant hent (by simp [Sys.job, hw, workerReset, Job.Terminal])
      | submit _ _ => exact vacant hent (by simp [Sys.job, hw, Worker.queued, Job.Terminal])
      | submitPayload _ _ _ =>
          exact vacant hent (by simp [Sys.job, hw, Worker.queuedPayload, Job.Terminal])
  · exact hkeep (dispatch_inFlight hd (.inr (hi.running.mpr hx)))

/-- The invariant is kept by every step. -/
theorem step (hi : SlotInv E tr s) (h : ResultInv E tr s) (hs : CoreStep E s s' e) :
    ResultInv E (tr ++ [e]) s' := by
  cases hs with
  | silent hw _ _ _ hpc he =>
      have hj : s'.job = s.job := by simp [Sys.job, hw]
      rcases hpc with hpc | ⟨-, ho⟩
      · exact h.keep hj (by simp [hpc]) (by simp [hpc]) (by simp [hpc]) he.execIf
      · refine h.keep hj ?_ (by simp [ho.entered]) (by simp [ho.copied]) he.execIf
        intro cmd call hc
        rw [hc] at ho
        exact ho.elim
  | dispatch hd => exact h.dispatch_step hi hd
  | promote _ _ => exact vacant rfl (by simp [Sys.job, Job.Terminal])
  | @exec cmd _ hpc =>
      have hcmd : s.job.jobCmd = cmd := hi.cmd cmd (by simp [hpc, Pc.executing])
      have hrun : s.job.state = .running := hi.running.mpr (by simp [hpc, Pc.executing])
      subst hcmd
      refine ⟨?_, ?_, by simp [Pc.copied], ?_⟩
      · rintro c call hc
        obtain ⟨rfl, rfl⟩ := Pc.hal.inj hc
        rfl
      · intro _ p hp
        have hp' : p (E.halCall s.job.jobCmd s.job.req s.job.reqLen) = true := hp
        rw [latest_snoc, Ev.execIf, if_pos hp']
        rfl
      · intro ht
        exact absurd ht (by change ¬ s.job.Terminal; simp [Job.Terminal, hrun])
  | @ret cmd call r _ hpc hfits _ =>
      have hcmd : s.job.jobCmd = cmd := hi.cmd cmd (by simp [hpc, Pc.executing])
      have hrun : s.job.state = .running := hi.running.mpr (by simp [hpc, Pc.executing])
      obtain rfl := h.call cmd call hpc
      subst hcmd
      refine ⟨?_, ?_, ?_, ?_⟩
      · intro c call hc
        dsimp only at hc
        split_ifs at hc
      · exact fun _ p hp => h.entered_snoc (by rw [hpc]; rfl) (fun _ => rfl) hp
      · intro out n hc
        have hc' : out = s.job.outOf E r ∧ n = 0 := by
          dsimp only at hc
          split_ifs at hc <;> simp only [Pc.copied, Option.some.injEq, Prod.mk.injEq] at hc <;>
            exact ⟨hc.1.symm, hc.2.symm⟩
        obtain ⟨rfl, rfl⟩ := hc'
        exact ⟨r, ⟨hfits, tr.length, at_last rfl⟩, rfl, by simp⟩
      · intro ht
        exact absurd ht (by change ¬ s.job.Terminal; simp [Job.Terminal, hrun])
  | invalidate hpc =>
      exact h.keep rfl (by simp) (by simp [hpc, Pc.entered]) (by simp [hpc, Pc.copied]) fun _ => rfl
  | @copyResult cmd out i hlt hpc _ =>
      have hrun : s.job.state = .running := hi.running.mpr (by simp [hpc, Pc.executing])
      refine ⟨by simp, fun _ p hp => h.entered_snoc (by rw [hpc]; rfl) (fun _ => rfl) hp, ?_, ?_⟩
      · intro out' n hc
        obtain ⟨rfl, rfl⟩ : out = out' ∧ i + 1 = n := by simpa [Pc.copied] using hc
        obtain ⟨r, hr, hout, hread⟩ := h.copied out i (by simp [hpc, Pc.copied])
        refine ⟨r, hr.snoc, hout, fun ho => ⟨hlt, ?_⟩⟩
        -- one more byte of the prefix
        change (s.job.result.set i out.buf[i]).read 0 (i + 1) = _
        exact Buf.read_set_next _ hlt (hread ho).2
      · intro ht
        exact absurd ht (by change ¬ s.job.Terminal; simp [Job.Terminal, hrun])
  | @copyResultDone cmd out i hpc hdone =>
      have hrun : s.job.state = .running := hi.running.mpr (by simp [hpc, Pc.executing])
      refine ⟨by simp, fun _ p hp => h.entered_snoc (by rw [hpc]; rfl) (fun _ => rfl) hp, ?_, ?_⟩
      · intro out' n hc
        obtain ⟨rfl, rfl⟩ : out = out' ∧ out.buf.length = n := by
          simp only [Pc.copied, Option.some.injEq, Prod.mk.injEq] at hc
          exact ⟨hc.1, hc.1 ▸ hc.2⟩
        obtain ⟨r, hr, hout, hread⟩ := h.copied out i (by simp [hpc, Pc.copied])
        refine ⟨r, hr.snoc, hout, fun ho => ?_⟩
        obtain rfl : i = out.buf.length := by
          have := (hread ho).1
          have : ¬ i < out.buf.length := fun hlt => hdone ⟨ho, hlt⟩
          omega
        exact hread ho
      · intro ht
        exact absurd ht (by change ¬ s.job.Terminal; simp [Job.Terminal, hrun])
  | @copyCache cmd out i _ hpc _ =>
      exact h.keep rfl (by simp) (by simp [hpc, Pc.entered]) (by simp [hpc, Pc.copied]) fun _ => rfl
  | @copyCacheDone cmd out i hpc _ =>
      exact h.keep rfl (by simp) (by simp [hpc, Pc.entered]) (by simp [hpc, Pc.copied]) fun _ => rfl
  | @publish cmd out hpc =>
      obtain ⟨r, hr, rfl, hread⟩ := h.copied out _ (by rw [hpc]; rfl)
      refine ⟨by simp, by simp [Pc.entered], by simp [Pc.copied], fun _ => ⟨r, ?_, ?_⟩⟩
      · change Returned E _ (s.job.finish _) r
        obtain ⟨hf, i, hi⟩ := hr
        exact ⟨by simpa using hf, i, by simpa using hi.snoc⟩
      · change (s.job.finish _).Holds ((s.job.finish _).outOf E r)
        rw [Job.finish_outOf]
        exact Job.finish_holds fun ho => by simpa using (hread ho).2
  | reinit hpc => exact h.keep rfl (by simp) (by simp [Pc.entered]) (by simp [Pc.copied]) fun _ => rfl
  | reset hpc _ => exact vacant rfl (by simp [Sys.job, workerReset, Job.Terminal])
  | resetSkip hpc _ => exact h.keep rfl (by simp) (by simp [Pc.entered]) (by simp [Pc.copied]) fun _ => rfl
  | accept hpc _ _ => exact h.keep rfl (by simp) (by simp [Pc.entered]) (by simp [Pc.copied]) fun _ => rfl
  | acceptPush hpc => exact h.keep rfl (by simp) (by simp [Pc.entered]) (by simp [Pc.copied]) fun _ => rfl

/-- Before anything happened. -/
theorem boot (E : Env η) (hal : η) : ResultInv E [] (.boot hal) :=
  ⟨by simp [Sys.boot], by simp [Sys.boot, Pc.entered], by simp [Sys.boot, Pc.copied],
    by simp [Sys.boot, Sys.job, Fw.boot, Worker.init, Job.Terminal]⟩

end ResultInv

/-! ## The rule for further invariants -/

section

variable {E : Env η} {hal : η} {G : Sys η → Act η → Prop} {P : List Ev → Sys η → Prop} {tr : List Ev}
  {s : Sys η}

/-- To show that guarded runs keep `P`, follow one step of a kind, knowing the slot and its result. -/
theorem core_invariant (hr : (system E).RunIf G (.boot hal) tr s) (h0 : P [] (.boot hal))
    (hstep : ∀ tr s a s' e, SlotInv E tr s → ResultInv E tr s → P tr s → G s a →
      (system E).step s a = some (s', e) → CoreStep E s s' e → P (tr ++ [e]) s') :
    SlotInv E tr s ∧ ResultInv E tr s ∧ P tr s := by
  refine hr.invariant (P := fun tr s => SlotInv E tr s ∧ ResultInv E tr s ∧ P tr s)
    ⟨.boot E hal, .boot E hal, h0⟩ ?_
  rintro tr s a s' e ⟨hi, hres, hp⟩ hg hs
  have hc := sysStep_core hs
  exact ⟨hi.step hc, hres.step hi hc, hstep tr s a s' e hi hres hp hg hs hc⟩

/-- The slot's result along every run. -/
theorem ResultInv.of_run (hr : (system E).Run (.boot hal) tr s) : ResultInv E tr s :=
  (core_invariant (P := fun _ _ => True) hr trivial fun _ _ _ _ _ _ _ _ _ _ _ => trivial).2.1

end

end Cc3501eBridge
