import Cc3501eBridge.Lib.Progress
import Cc3501eBridge.Reference
import Cc3501eBridge.SlotInv

/-!
# An accepted job gets done

The drain runs on the task, which also pumps the receive ring, accepts connections and stores the
ring's variables one at a time, and every dispatch preempts it.  Still an accepted job is published
after a number of the task's steps that depends only on how often the main loop has turned to
something else (`job_published_in_time`): requests do not delay it, however many there are, and the
task is never stuck but where it waits for the HAL or for lwIP.

The bound comes from `Sys.stepsLeft`, a potential that each of the task's steps lowers as long as a
job is in flight.
-/

namespace Cc3501eBridge

open Trace

variable {η : Type}

/-! ## The potential -/

/-- The most stores a HAL body brings with it. -/
def prefetchStores : Nat := 6

/-- The task's steps from the return of a HAL body to the publication of its result. -/
def resultSteps : Nat := 2 * maxPayload + 4

/-- Those from the entry of a HAL body, with its stores and the return. -/
def halSteps : Nat := prefetchStores + 1 + resultSteps

/-- Those from the main loop. -/
def loopSteps : Nat := 1 + (1 + prefetchStores + halSteps)

/-- Those of one pass of the socket pump, from the look at the ring to the move of its head. -/
def pumpPassSteps : Nat := sockRingBytes + 3

/-- Those of a call of the pump. -/
def pumpSteps : Nat := 1 + sockPumpPasses * pumpPassSteps

/-- How many steps the task takes at most from here until it publishes a job. -/
def Pc.stepsLeft : Pc → Nat
  | .loop => loopSteps
  | .execute _ => 1 + prefetchStores + halSteps
  | .hal _ _ => halSteps
  | .invalidate out => 1 + (2 * out.buf.length + 3)
  | .copyResult _ out i => (out.buf.length - i) + (out.buf.length + 3)
  | .copyCache _ out i => (out.buf.length - i) + 2
  | .publish _ _ => 1
  | .reinit _ => 3 + loopSteps
  | .reset _ => 2 + loopSteps
  | .ready => 1 + loopSteps
  | .pumpPass pass => (sockPumpPasses - pass) * pumpPassSteps + 1 + loopSteps
  | .pumpRecv pass _ chunk =>
      chunk + 2 + ((sockPumpPasses - (pass + 1)) * pumpPassSteps + 1 + loopSteps)
  | .pumpFill pass _ _ data i =>
      (data.length - i) + 1 + ((sockPumpPasses - (pass + 1)) * pumpPassSteps + 1 + loopSteps)
  | .acceptPush _ _ => 1 + loopSteps

/-- The same with the stores that are still to be made. -/
def Sys.stepsLeft (s : Sys η) : Nat := s.pending.length + s.pc.stepsLeft

/-- The task gets on: it takes a step of its own, or what it waits for returns. -/
def Act.advances : Act η → Bool
  | .task | .ret _ | .lwip _ => true
  | _ => false

/-- The main loop turns to the socket pump or to a listening socket. -/
def Act.turns : Act η → Bool
  | .pump | .accept _ _ _ _ => true
  | _ => false

/-- What an advance of the task does to the potential. -/
inductive Advance (s s' : Sys η) (e : Ev) : Prop
  | /-- A store is made, or the task moves on; a HAL body it enters or leaves brings stores. -/
    move : s'.stepsLeft + 1 ≤ s.stepsLeft → s'.pc.stepsLeft ≤ s.pc.stepsLeft →
      (s'.pending.length ≤ prefetchStores ∨ s'.pending.length ≤ s.pending.length) → Advance s s' e
  | /-- It publishes a result. -/
    publish {cmd : Cmd} : s.pending = [] → e = .publish s.job.ticket cmd → s'.pending = [] →
      s'.pc = .reinit cmd → Advance s s' e
  | /-- It finds nothing to do. -/
    rest : s.pc = .loop → s.job.state ≠ .queued → s' = s → Advance s s' e

section

variable {E : Env η} {s s' : Sys η} {e : Ev} {a : Act η}

theorem Advance.moved (hpend : s'.pending = s.pending)
    (h : s'.pc.stepsLeft + 1 ≤ s.pc.stepsLeft) : Advance s s' e := by
  refine .move ?_ (Nat.le_of_succ_le h) (.inr (by rw [hpend]))
  simp only [Sys.stepsLeft, hpend]
  omega

/-- The task enters or leaves a HAL body. -/
theorem Advance.body (hpend : s.pending = []) (hlen : s'.pending.length ≤ prefetchStores)
    (h : s'.pc.stepsLeft + prefetchStores + 1 ≤ s.pc.stepsLeft) : Advance s s' e := by
  refine .move ?_ (by omega) (.inl hlen)
  simp only [Sys.stepsLeft, hpend, List.length_nil]
  omega

/-- A pass receives no more than the ring holds. -/
theorem sockPumpPass_chunk {rx : RxRing} {idx chunk : Nat}
    (h : sockPumpPass rx = some (idx, chunk)) : chunk ≤ sockRingBytes := by
  unfold sockPumpPass at h
  simp only at h
  split_ifs at h
  simp only [Option.some.injEq, Prod.mk.injEq] at h
  omega

/-- A further pass is one of those that are left. -/
theorem pumpPassSteps_succ {pass : Nat} (h : pass < sockPumpPasses) :
    (sockPumpPasses - pass) * pumpPassSteps =
      (sockPumpPasses - (pass + 1)) * pumpPassSteps + pumpPassSteps := by
  have hsub : sockPumpPasses - pass = sockPumpPasses - (pass + 1) + 1 := by omega
  rw [hsub, Nat.succ_mul]

theorem length_sockPrefetch (rx : RxRing) (handle : UInt16) (on : Bool) :
    (sockPrefetch rx handle on).length ≤ prefetchStores := by
  unfold sockPrefetch
  split_ifs <;> simp [prefetchStores]

theorem length_prefetchOnEntry (rx : RxRing) (call : HalCall) :
    (prefetchOnEntry rx call).length ≤ prefetchStores := by
  cases call with
  | sockClose handle => exact length_sockPrefetch rx handle false
  | _ => exact Nat.zero_le _

theorem length_prefetchOnReturn (rx : RxRing) (r : HalRet) (call : HalCall) :
    (prefetchOnReturn rx r call).length ≤ prefetchStores := by
  cases call with
  | sockConnect handle family port addr =>
      unfold prefetchOnReturn
      split_ifs
      · exact length_sockPrefetch rx handle true
      · exact Nat.zero_le _
  | _ => exact Nat.zero_le _

/-- The task's own steps. -/
theorem taskStep_advance (hpend : s.pending = []) (h : taskStep E s = some (s', e)) :
    Advance s s' e := by
  unfold taskStep at h
  cases hpc : s.pc with
  | loop =>
      simp only [hpc] at h
      split_ifs at h with hq
      · obtain ⟨rfl, rfl⟩ := by simpa using h
        refine .moved rfl ?_
        simp only [hpc, Pc.stepsLeft, loopSteps]
        omega
      · obtain ⟨rfl, rfl⟩ := by simpa using h
        exact .rest hpc hq rfl
  | execute cmd =>
      simp only [hpc] at h
      obtain ⟨rfl, rfl⟩ := by simpa using h
      have hlen := length_prefetchOnEntry s.fw.rx (E.halCall cmd s.job.req s.job.reqLen)
      refine .body hpend hlen ?_
      simp only [hpc, Pc.stepsLeft]
      omega
  | hal cmd call => simp [hpc] at h
  | invalidate out =>
      simp only [hpc] at h
      obtain ⟨rfl, rfl⟩ := by simpa using h
      refine .moved rfl ?_
      simp only [hpc, Pc.stepsLeft]
      omega
  | copyResult cmd out i =>
      simp only [hpc] at h
      split_ifs at h with hi
      · obtain ⟨rfl, rfl⟩ := by simpa using h
        refine .moved rfl ?_
        simp only [hpc, Pc.stepsLeft]
        omega
      · obtain ⟨rfl, rfl⟩ := by simpa using h
        refine .moved rfl ?_
        simp only [hpc, Pc.stepsLeft]
        omega
  | copyCache cmd out i =>
      simp only [hpc] at h
      split_ifs at h with hi
      · obtain ⟨rfl, rfl⟩ := by simpa using h
        refine .moved rfl ?_
        simp only [hpc, Pc.stepsLeft]
        omega
      · obtain ⟨rfl, rfl⟩ := by simpa using h
        refine .moved rfl ?_
        simp only [hpc, Pc.stepsLeft]
        omega
  | publish cmd out =>
      simp only [hpc] at h
      obtain ⟨rfl, rfl⟩ := by simpa using h
      exact .publish hpend rfl hpend rfl
  | reinit cmd =>
      simp only [hpc] at h
      obtain ⟨rfl, rfl⟩ := by simpa using h
      refine .moved rfl ?_
      simp only [hpc, Pc.stepsLeft]
      omega
  | reset cmd =>
      simp only [hpc] at h
      split_ifs at h with hf
      · obtain ⟨rfl, rfl⟩ := by simpa using h
        refine .moved rfl ?_
        simp only [hpc, Pc.stepsLeft]
        omega
      · obtain ⟨rfl, rfl⟩ := by simpa using h
        refine .moved rfl ?_
        simp only [hpc, Pc.stepsLeft]
        omega
  | ready =>
      simp only [hpc] at h
      obtain ⟨rfl, rfl⟩ := by simpa using h
      refine .moved rfl ?_
      simp only [hpc, Pc.stepsLeft]
      omega
  | pumpPass pass =>
      simp only [hpc] at h
      split_ifs at h with hpass
      · cases hp : sockPumpPass s.fw.rx with
        | none =>
            simp only [hp] at h
            obtain ⟨rfl, rfl⟩ := by simpa using h
            refine .moved rfl ?_
            simp only [hpc, Pc.stepsLeft]
            omega
        | some chunk =>
            obtain ⟨idx, chunk⟩ := chunk
            simp only [hp] at h
            obtain ⟨rfl, rfl⟩ := by simpa using h
            have hchunk := sockPumpPass_chunk hp
            have hsucc := pumpPassSteps_succ hpass
            refine .moved rfl ?_
            simp only [hpc, Pc.stepsLeft, hsucc, pumpPassSteps] at hsucc ⊢
            omega
      · obtain ⟨rfl, rfl⟩ := by simpa using h
        refine .moved rfl ?_
        simp only [hpc, Pc.stepsLeft]
        omega
  | pumpRecv pass idx chunk => simp [hpc] at h
  | pumpFill pass idx chunk data i =>
      simp only [hpc] at h
      split_ifs at h with hi hn
      · obtain ⟨rfl, rfl⟩ := by simpa using h
        refine .moved rfl ?_
        simp only [hpc, Pc.stepsLeft]
        omega
      · obtain ⟨rfl, rfl⟩ := by simpa using h
        refine .moved rfl ?_
        simp only [hpc, Pc.stepsLeft]
        omega
      · obtain ⟨rfl, rfl⟩ := by simpa using h
        refine .moved rfl ?_
        simp only [hpc, Pc.stepsLeft]
        omega
  | acceptPush handle event =>
      simp only [hpc] at h
      obtain ⟨rfl, rfl⟩ := by simpa using h
      refine .moved rfl ?_
      simp only [hpc, Pc.stepsLeft]
      omega

/-- What the task waits for returns. -/
theorem retStep_advance {r : HalRet} (h : retStep E s r = some (s', e)) : Advance s s' e := by
  unfold retStep at h
  cases hpc : s.pc with
  | hal cmd call =>
      simp only [hpc, Option.ite_none_right_eq_some, Option.some.injEq, Prod.mk.injEq] at h
      obtain ⟨hret, rfl, rfl⟩ := h
      have hlen : (E.execOut cmd s.job.req r).buf.length ≤ maxPayload := by
        unfold Env.execOut
        dsimp only
        split_ifs
        · exact List.length_take_le _ _
        · exact Nat.zero_le _
      have hstores := length_prefetchOnReturn s.fw.rx r call
      refine .body hret.1 hstores ?_
      by_cases hc : cmd = .sockRecv
      · simp only [hpc, Pc.stepsLeft, if_pos hc, halSteps, resultSteps]
        omega
      · simp only [hpc, Pc.stepsLeft, if_neg hc, halSteps, resultSteps]
        omega
  | _ => simp [hpc] at h

theorem lwipStep_advance {r : LwipRecv} (h : lwipStep s r = some (s', e)) : Advance s s' e := by
  unfold lwipStep at h
  cases hpc : s.pc with
  | pumpRecv pass idx chunk =>
      simp only [hpc] at h
      cases r with
      | data bytes =>
          simp only at h
          split_ifs at h with hbytes
          obtain ⟨rfl, rfl⟩ := by simpa using h
          refine .moved rfl ?_
          simp only [hpc, Pc.stepsLeft]
          omega
      | closed | wouldBlock | error =>
          obtain ⟨rfl, rfl⟩ := by simpa using h
          refine .moved rfl ?_
          simp only [hpc, Pc.stepsLeft]
          omega
  | _ => simp [hpc] at h

/-- Every advance of the task is one of these. -/
theorem sysStep_advance (ha : a.advances = true) (h : sysStep E s a = some (s', e)) :
    Advance s s' e := by
  cases a with
  | task =>
      cases hpend : s.pending with
      | nil =>
          simp only [sysStep, hpend] at h
          exact taskStep_advance hpend h
      | cons st rest =>
          simp only [sysStep, hpend] at h
          obtain ⟨rfl, rfl⟩ := by simpa using h
          refine .move ?_ (Nat.le_refl _) (.inr (by simp [hpend]))
          simp only [Sys.stepsLeft, hpend, List.length_cons]
          omega
  | ret r => exact retStep_advance h
  | lwip r => exact lwipStep_advance h
  | dispatch | pump | accept | event | hal | stats => cases ha

/-- Any other step leaves the task where it is, or turns the main loop to the sockets. -/
theorem sysStep_other (ha : a.advances = false) (h : sysStep E s a = some (s', e)) :
    s'.pending = s.pending ∧
      (s'.pc = s.pc ∨ a.turns = true ∧ s.pc = .loop ∧ s'.pc.stepsLeft ≤ loopSteps + pumpSteps) := by
  cases a with
  | task | ret | lwip => cases ha
  | dispatch req =>
      obtain ⟨rfl, -⟩ := by simpa [sysStep] using h
      exact ⟨rfl, .inl rfl⟩
  | event opcode payload =>
      obtain ⟨rfl, -⟩ := by simpa [sysStep] using h
      exact ⟨rfl, .inl rfl⟩
  | hal st =>
      obtain ⟨rfl, -⟩ := by simpa [sysStep] using h
      exact ⟨rfl, .inl rfl⟩
  | stats st =>
      obtain ⟨rfl, -⟩ := by simpa [sysStep] using h
      exact ⟨rfl, .inl rfl⟩
  | pump =>
      simp only [sysStep] at h
      split at h
      case h_1 hpc hpend _ =>
        obtain ⟨rfl, -⟩ := by simpa using h
        refine ⟨rfl, .inr ⟨rfl, hpc, ?_⟩⟩
        simp only [Pc.stepsLeft, pumpSteps, Nat.sub_zero]
        omega
      case h_2 => cases h
  | accept listener handle port addr =>
      simp only [sysStep] at h
      split at h
      case h_1 hpc =>
        simp only [Option.ite_none_right_eq_some, Option.some.injEq, Prod.mk.injEq] at h
        obtain ⟨-, rfl, -⟩ := h
        refine ⟨rfl, .inr ⟨rfl, hpc, ?_⟩⟩
        simp only [Pc.stepsLeft, pumpSteps]
        omega
      case h_2 => cases h

/-! ## Every run -/

/-- No state is farther from the next publication than this. -/
def drainSteps : Nat := prefetchStores + (loopSteps + pumpSteps)

/-- The bounds behind `drainSteps`. -/
def Sys.NearPublish (s : Sys η) : Prop :=
  s.pending.length ≤ prefetchStores ∧ s.pc.stepsLeft ≤ loopSteps + pumpSteps

theorem Sys.NearPublish.step (h : s.NearPublish) (hs : sysStep E s a = some (s', e)) :
    s'.NearPublish := by
  cases ha : a.advances with
  | true =>
      cases sysStep_advance ha hs with
      | move hle hpc hpend => exact ⟨by have := h.1; omega, Nat.le_trans hpc h.2⟩
      | publish hpend he hpend' hpc' =>
          refine ⟨by simp [hpend'], ?_⟩
          have hpump : 3 ≤ pumpSteps := by decide
          simp only [hpc', Pc.stepsLeft]
          omega
      | rest hpc hstate heq => rwa [heq]
  | false =>
      obtain ⟨hpend, hpc | ⟨-, -, hpc⟩⟩ := sysStep_other ha hs
      · exact ⟨by rw [hpend]; exact h.1, by rw [hpc]; exact h.2⟩
      · exact ⟨by rw [hpend]; exact h.1, hpc⟩

theorem Sys.NearPublish.of_run {hal : η} {tr : List Ev} (hr : (system E).Run (.boot hal) tr s) :
    s.NearPublish := by
  refine hr.invariant (P := fun _ s => s.NearPublish) ⟨Nat.zero_le _, ?_⟩
    fun _ _ _ _ _ h hs => h.step hs
  exact Nat.le_add_right _ _

theorem Sys.NearPublish.stepsLeft_le (h : s.NearPublish) : s.stepsLeft ≤ drainSteps :=
  Nat.add_le_add h.1 h.2

/-- A job in flight stays so until it is published, but for a reset of the slot. -/
theorem inFlight_step (hj : s.job.InFlight) (hs : sysStep E s a = some (s', e)) :
    (∃ cmd, e = .publish s.job.ticket cmd) ∨ e = .reset ∨
      s'.job.InFlight ∧ s'.job.ticket = s.job.ticket := by
  cases sysStep_core hs with
  | silent hw => exact .inr (.inr ⟨by rwa [Sys.job, hw], by rw [Sys.job, hw]; rfl⟩)
  | @dispatch req fw reply hd =>
      have hw : fw.worker = s.fw.worker := by
        rcases dispatch_slot hd with hw | ⟨c, -, hslot⟩
        · exact hw
        · exact hslot.eq_of_inFlight hj
      exact .inr (.inr ⟨by rwa [Sys.job, hw], by rw [Sys.job, hw]; rfl⟩)
  | promote => exact .inr (.inr ⟨.inr rfl, rfl⟩)
  | publish => exact .inl ⟨_, rfl⟩
  | reset => exact .inr (.inl rfl)
  | exec | ret | invalidate | copyResult | copyResultDone | copyCache | copyCacheDone | reinit
  | resetSkip | accept | acceptPush => exact .inr (.inr ⟨hj, rfl⟩)

/-- The job is settled: its result is published, or the slot is reset. -/
def Settles (t : Nat) (e : Ev) : Prop := (∃ cmd, e = .publish t cmd) ∨ e = .reset

/-- The task gets on with the job: it does not rest. -/
theorem advance_inFlight {tr : List Ev} (hinv : SlotInv E tr s) (hj : s.job.InFlight)
    (ha : a.advances = true) (hs : sysStep E s a = some (s', e)) (he : ¬ Settles s.job.ticket e) :
    s'.stepsLeft + 1 ≤ s.stepsLeft := by
  cases sysStep_advance ha hs with
  | move hle hpc hpend => exact hle
  | publish hpend hpub hpend' hpc' => exact absurd (.inl ⟨_, hpub⟩) he
  | rest hpc hstate heq =>
      have hrun := hinv.not_running (by rw [hpc]; rfl)
      exact absurd hj (by simp [Job.InFlight, hstate, hrun])

/-- Any other step. -/
theorem other_stepsLeft (ha : a.advances = false) (hs : sysStep E s a = some (s', e)) :
    s'.stepsLeft ≤ s.stepsLeft + if a.turns then pumpSteps else 0 := by
  obtain ⟨hpend, hpc | ⟨hturns, hpc, hle⟩⟩ := sysStep_other ha hs
  · rw [Sys.stepsLeft, hpend, hpc]
    exact Nat.le_add_right _ _
  · rw [hturns, if_pos rfl, Sys.stepsLeft, Sys.stepsLeft, hpend, hpc]
    simp only [Pc.stepsLeft] at hle ⊢
    omega

/-- The task can get on whatever it is doing, where it waits with any failure. -/
theorem sysStep_possible (s : Sys η) :
    ∃ a s' e, a.advances = true ∧ (system E).step s a = some (s', e) := by
  have hstep : ∀ {a : Act η}, a.advances = true → (sysStep E s a).isSome = true →
      ∃ a s' e, a.advances = true ∧ (system E).step s a = some (s', e) := by
    intro a ha hsome
    obtain ⟨x, hx⟩ := Option.isSome_iff_exists.mp hsome
    exact ⟨a, x.1, x.2, ha, hx⟩
  cases hpend : s.pending with
  | cons st rest => exact hstep (a := .task) rfl (by simp [sysStep, hpend])
  | nil =>
      cases hpc : s.pc with
      | hal cmd call =>
          refine hstep (a := .ret { rv := hwErrNotimpl }) rfl ?_
          have hallow : lwipAllows s.isOpen { rv := hwErrNotimpl } call = true := by
            have hne : hwErrNotimpl ≠ hwOk := by decide
            cases call <;> simp [lwipAllows, hne]
          have hfits : HalRet.fits { rv := hwErrNotimpl } call = true := by
            cases call <;> simp [HalRet.fits]
          simp only [sysStep, retStep, hpc, hpend, hfits, hallow, and_self, if_true,
            Option.isSome_some]
      | pumpRecv pass idx chunk =>
          exact hstep (a := .lwip .wouldBlock) rfl (by simp [sysStep, lwipStep, hpc])
      | pumpPass pass =>
          refine hstep (a := .task) rfl ?_
          simp only [sysStep, hpend, taskStep, hpc]
          split_ifs
          · cases sockPumpPass s.fw.rx <;> rfl
          · rfl
      | _ =>
          refine hstep (a := .task) rfl ?_
          simp only [sysStep, hpend, taskStep, hpc]
          first | rfl | (split_ifs <;> rfl)

/-- A job in flight is published after at most `drainSteps` advances of the task, and `pumpSteps`
more for every time the main loop turns to the sockets, however many requests arrive; and until then
the task can always get on. -/
theorem job_published_in_time {hal : η} {tr : List Ev} (hr : (system E).Run (.boot hal) tr s)
    (hj : s.job.InFlight) {tr' : List (Act η × Ev)} (hr' : (system E).labelled.Run s tr' s') :
    (∃ a s'' e, a.advances = true ∧ (system E).step s' a = some (s'', e)) ∧
      ((∃ x ∈ tr', Settles s.job.ticket x.2) ∨
        s'.job.InFlight ∧ s'.job.ticket = s.job.ticket ∧
        tr'.countP (fun x => x.1.advances) ≤
          drainSteps + pumpSteps * tr'.countP (fun x => x.1.turns)) := by
  refine ⟨sysStep_possible s', ?_⟩
  by_cases hset : ∃ x ∈ tr', Settles s.job.ticket x.2
  · exact .inl hset
  right
  have hopen : ∀ x ∈ tr', ¬ Settles s.job.ticket x.2 := fun x hx h => hset ⟨x, hx, h⟩
  -- the job stays in flight, so every advance lowers the potential
  let I : List (Act η × Ev) → Sys η → Prop := fun tr' t =>
    (system E).Run (.boot hal) (tr ++ tr'.map Prod.snd) t ∧ t.job.InFlight ∧
      t.job.ticket = s.job.ticket
  have hstep : ∀ tr₁ t i t' x, I tr₁ t → True → (system E).labelled.step t i = some (t', x) →
      ¬ Settles s.job.ticket x.2 → I (tr₁ ++ [x]) t' ∧
        t'.stepsLeft + (if x.1.advances then 1 else 0) ≤
          t.stepsLeft + if x.1.turns then pumpSteps else 0 := by
    rintro tr₁ t i t' ⟨a, e⟩ ⟨hrun, hjob, hticket⟩ - hs he
    obtain ⟨hs, rfl⟩ := Machine.labelled_step.mp hs
    have hrun' := hrun.snoc hs
    rw [List.append_assoc] at hrun'
    refine ⟨⟨by simpa using hrun', ?_⟩, ?_⟩
    · rcases inFlight_step hjob hs with hpub | hreset | ⟨hjob', hticket'⟩
      · exact absurd (.inl (hticket ▸ hpub)) he
      · exact absurd (.inr hreset) he
      · exact ⟨hjob', hticket'.trans hticket⟩
    · cases ha : a.advances with
      | true =>
          have hadv := advance_inFlight (SlotInv.of_run hrun) hjob ha hs (hticket ▸ he)
          simp only [if_true]
          omega
      | false =>
          simp only [Bool.false_eq_true, if_false]
          exact other_stepsLeft ha hs
  obtain ⟨⟨-, hjob, hticket⟩, hle⟩ := hr'.countP_le hopen ⟨by simpa using hr, hj, rfl⟩ hstep
  have hnear := (Sys.NearPublish.of_run hr).stepsLeft_le
  exact ⟨hjob, hticket, by omega⟩

end

/-- A `GET_MAC` is promoted and executed while other requests arrive. -/
theorem job_published_in_time_getMac :
    ∃ (tr : List Ev) (s s' : Sys Unit) (tr' : List (Act Unit × Ev)),
    (system .reference).Run (.boot ()) tr s ∧ tr'.length = 4 ∧
    (∃ a s'' e, a.advances = true ∧ (system .reference).step s' a = some (s'', e)) ∧
    ((∃ x ∈ tr', Settles s.job.ticket x.2) ∨
      s'.job.InFlight ∧ s'.job.ticket = s.job.ticket ∧
      tr'.countP (fun x => x.1.advances) ≤
        drainSteps + pumpSteps * tr'.countP (fun x => x.1.turns)) := by
  have hexec : ((system .reference).exec (.boot ()) [.dispatch (.of .getMac 1 [])]).map (fun x =>
      (x.1.job.state, ((system .reference).labelled.exec x.1
        [.dispatch (.of .getMac 2 []), .task, .dispatch (.of .wifiScanStart 3 []), .task]).map
          fun y => y.2.length)) = some (.queued, some 4) := by decide +kernel
  obtain ⟨⟨s, tr⟩, hs, hout⟩ := Option.map_eq_some_iff.mp hexec
  obtain ⟨hstate, hnext⟩ := Prod.mk.inj hout
  obtain ⟨⟨s', tr'⟩, hs', hlen⟩ := Option.map_eq_some_iff.mp hnext
  have hr := Machine.run_of_exec hs
  exact ⟨tr, s, s', tr', hr, hlen, job_published_in_time hr (.inl hstate) (Machine.run_of_exec hs')⟩

end Cc3501eBridge
