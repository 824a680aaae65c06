import Cc3501eBridge.Outcomes

/-!
# What a step can do

`CoreStep` inverts `sysStep` once: every step of the machine is one of the listed kinds, with the
state it leaves.  Steps that touch neither the slot nor the socket caches, and do not move the drain,
are lumped together as `silent`.  The invariants of the following modules are case analyses over
`CoreStep`, and none of them unfolds the step function again.
-/

namespace Cc3501eBridge

variable {η : Type}

namespace Pc

/-- The task is not inside the drain. -/
def Outside : Pc → Prop
  | .loop | .ready | .pumpPass _ | .pumpRecv _ _ _ | .pumpFill _ _ _ _ _ => True
  | _ => False

/-- The opcode the task is executing, between the promotion of a job and its publication. -/
def executing : Pc → Option Cmd
  | .execute cmd | .hal cmd _ | .copyResult cmd _ _ | .copyCache cmd _ _ | .publish cmd _ => some cmd
  | .invalidate _ => some .sockRecv
  | _ => none

theorem Outside.executing {pc : Pc} (h : pc.Outside) : pc.executing = none := by
  cases pc <;> first | rfl | exact absurd h (by simp [Outside])

end Pc

/-- An event that concerns neither requests nor jobs. -/
def Ev.Silent : Ev → Prop
  | .tau | .lwipRecv _ => True
  | _ => False

/-- The kinds of step. -/
inductive CoreStep (E : Env η) (s : Sys η) : Sys η → Ev → Prop
  | silent {s' : Sys η} {e : Ev} :
      s'.fw.worker = s.fw.worker → s'.fw.send = s.fw.send → s'.fw.recv = s.fw.recv →
      s'.isOpen = s.isOpen → (s'.pc = s.pc ∨ s.pc.Outside ∧ s'.pc.Outside) → e.Silent →
      CoreStep E s s' e
  | dispatch {req : Request} {fw : Fw η} {reply : Reply} :
      protocolDispatch E s.fw req.cmd req.flags req.payload req.cap = (fw, reply) →
      CoreStep E s { s with fw := fw } (.dispatch req reply (queuedBy s.fw.worker fw.worker))
  | promote :
      s.pc = .loop → s.job.state = .queued →
      CoreStep E s
        { s with
          fw := { s.fw with
            worker := { s.fw.worker with job := { s.job with state := .running } } }
          pc := .execute s.job.jobCmd } (.promote s.job.ticket)
  | exec {cmd : Cmd} {pending : List PrefetchStore} :
      s.pc = .execute cmd →
      CoreStep E s
        { s with
          fw := { s.fw with worker := { s.fw.worker with execs := s.fw.worker.execs + 1 } }
          pc := .hal cmd (E.halCall cmd s.job.req s.job.reqLen)
          pending := pending } (.exec s.job.ticket (E.halCall cmd s.job.req s.job.reqLen))
  | ret {cmd : Cmd} {call : HalCall} {r : HalRet} {pending : List PrefetchStore} :
      s.pc = .hal cmd call → r.fits call = true → lwipAllows s.isOpen r call = true →
      CoreStep E s
        { fw := s.fw
          pc := if cmd = .sockRecv then .invalidate (E.execOut cmd s.job.req r)
            else .copyResult cmd (E.execOut cmd s.job.req r) 0
          pending := pending
          isOpen := lwipAfter s.isOpen r call } (.ret s.job.ticket call r)
  | invalidate {out : ExecOut} :
      s.pc = .invalidate out →
      CoreStep E s
        { s with
          fw := { s.fw with recv := sockRecvWorkerInvalidate s.fw.recv }
          pc := .copyResult .sockRecv out 0 } .tau
  | copyResult {cmd : Cmd} {out : ExecOut} {i : Nat} (h : i < out.buf.length) :
      s.pc = .copyResult cmd out i → out.rv = hwOk →
      CoreStep E s
        { s with fw := s.fw.storeResult i out.buf[i], pc := .copyResult cmd out (i + 1) } .tau
  | copyResultDone {cmd : Cmd} {out : ExecOut} {i : Nat} :
      s.pc = .copyResult cmd out i → ¬ (out.rv = hwOk ∧ i < out.buf.length) →
      CoreStep E s { s with pc := .copyCache cmd out 0 } .tau
  | copyCache {cmd : Cmd} {out : ExecOut} {i : Nat} (h : i < out.buf.length) :
      s.pc = .copyCache cmd out i →
      cmd = .sockRecv ∧ out.rv = hwOk ∧ out.buf.length ≤ E.build.replyDataMax →
      CoreStep E s
        { s with fw := s.fw.storeCache i out.buf[i], pc := .copyCache cmd out (i + 1) } .tau
  | copyCacheDone {cmd : Cmd} {out : ExecOut} {i : Nat} :
      s.pc = .copyCache cmd out i →
      ¬ ((cmd = .sockRecv ∧ out.rv = hwOk ∧ out.buf.length ≤ E.build.replyDataMax) ∧
        i < out.buf.length) →
      CoreStep E s { s with pc := .publish cmd out } .tau
  | publish {cmd : Cmd} {out : ExecOut} :
      s.pc = .publish cmd out →
      CoreStep E s { s with fw := workerPublish E s.fw cmd out, pc := .reinit cmd }
        (.publish s.job.ticket cmd)
  | reinit {cmd : Cmd} :
      s.pc = .reinit cmd → CoreStep E s { s with pc := .reset cmd } .tau
  | reset {cmd : Cmd} :
      s.pc = .reset cmd → fireAndForget cmd = true →
      CoreStep E s
        { s with fw := { s.fw with worker := workerReset s.fw.worker }, pc := .ready } .reset
  | resetSkip {cmd : Cmd} :
      s.pc = .reset cmd → fireAndForget cmd = false →
      CoreStep E s { s with pc := .ready } .tau
  | accept {handle : UInt16} {event : List UInt8} :
      s.pc = .loop → handle ≠ 0 → s.isOpen handle = false →
      CoreStep E s
        { s with pc := .acceptPush handle event, isOpen := Function.update s.isOpen handle true }
        (.issued handle)
  | acceptPush {handle : UInt16} {event : List UInt8} {accepted : Bool} {events : EventRing} :
      s.pc = .acceptPush handle event →
      CoreStep E s
        { s with
          fw := { s.fw with events := events }
          pc := .loop
          isOpen := if accepted then s.isOpen else Function.update s.isOpen handle false } .tau

section

variable {E : Env η} {s s' : Sys η} {e : Ev}

private theorem taskStep_core (h : taskStep E s = some (s', e)) : CoreStep E s s' e := by
  unfold taskStep at h
  cases hpc : s.pc with
  | loop =>
      simp only [hpc] at h
      split_ifs at h with hq
      · obtain ⟨rfl, rfl⟩ := by simpa using h
        exact .promote hpc hq
      · obtain ⟨rfl, rfl⟩ := by simpa using h
        exact .silent rfl rfl rfl rfl (.inl rfl) trivial
  | execute cmd =>
      simp only [hpc] at h
      obtain ⟨rfl, rfl⟩ := by simpa using h
      exact .exec hpc
  | hal cmd call => simp [hpc] at h
  | invalidate out =>
      simp only [hpc] at h
      obtain ⟨rfl, rfl⟩ := by simpa using h
      exact .invalidate hpc
  | copyResult cmd out i =>
      simp only [hpc] at h
      split_ifs at h with hi
      · obtain ⟨rfl, rfl⟩ := by simpa using h
        exact .copyResult hi.2 hpc hi.1
      · obtain ⟨rfl, rfl⟩ := by simpa using h
        exact .copyResultDone hpc hi
  | copyCache cmd out i =>
      simp only [hpc] at h
      split_ifs at h with hi
      · obtain ⟨rfl, rfl⟩ := by simpa using h
        exact .copyCache hi.2 hpc hi.1
      · obtain ⟨rfl, rfl⟩ := by simpa using h
        exact .copyCacheDone hpc hi
  | publish cmd out =>
      simp only [hpc] at h
      obtain ⟨rfl, rfl⟩ := by simpa using h
      exact .publish hpc
  | reinit cmd =>
      simp only [hpc] at h
      obtain ⟨rfl, rfl⟩ := by simpa using h
      exact .reinit hpc
  | reset cmd =>
      simp only [hpc] at h
      split_ifs at h with hf
      · obtain ⟨rfl, rfl⟩ := by simpa using h
        exact .reset hpc hf
      · obtain ⟨rfl, rfl⟩ := by simpa using h
        exact .resetSkip hpc (by simpa using hf)
  | ready =>
      simp only [hpc] at h
      obtain ⟨rfl, rfl⟩ := by simpa using h
      exact .silent rfl rfl rfl rfl (.inr ⟨by simp [hpc, Pc.Outside], trivial⟩) trivial
  | pumpPass pass =>
      have hout : s.pc.Outside := by simp [hpc, Pc.Outside]
      simp only [hpc] at h
      split_ifs at h
      · cases hp : sockPumpPass s.fw.rx with
        | none =>
            simp only [hp] at h
            obtain ⟨rfl, rfl⟩ := by simpa using h
            exact .silent rfl rfl rfl rfl (.inr ⟨hout, trivial⟩) trivial
        | some p =>
            simp only [hp] at h
            obtain ⟨rfl, rfl⟩ := by simpa using h
            exact .silent rfl rfl rfl rfl (.inr ⟨hout, trivial⟩) trivial
      · obtain ⟨rfl, rfl⟩ := by simpa using h
        exact .silent rfl rfl rfl rfl (.inr ⟨hout, trivial⟩) trivial
  | pumpRecv pass idx chunk => simp [hpc] at h
  | pumpFill pass idx chunk data i =>
      have hout : s.pc.Outside := by simp [hpc, Pc.Outside]
      simp only [hpc] at h
      split_ifs at h with hi hn
      · obtain ⟨rfl, rfl⟩ := by simpa using h
        exact .silent rfl rfl rfl rfl (.inr ⟨hout, trivial⟩) trivial
      all_goals
        obtain ⟨rfl, rfl⟩ := by simpa using h
        exact .silent rfl rfl rfl rfl (.inr ⟨hout, trivial⟩) trivial
  | acceptPush handle event =>
      simp only [hpc] at h
      obtain ⟨rfl, rfl⟩ := by simpa using h
      exact .acceptPush hpc

/-- Every step of the machine is of one of the kinds. -/
theorem sysStep_core {a : Act η} (h : (system E).step s a = some (s', e)) : CoreStep E s s' e := by
  change sysStep E s a = _ at h
  cases a with
  | dispatch req =>
      obtain ⟨rfl, rfl⟩ := by simpa [sysStep] using h
      exact .dispatch rfl
  | task =>
      simp only [sysStep] at h
      cases hp : s.pending with
      | nil => exact taskStep_core (by simpa [hp] using h)
      | cons st rest =>
          simp only [hp] at h
          obtain ⟨rfl, rfl⟩ := by simpa using h
          exact .silent rfl rfl rfl rfl (.inl rfl) trivial
  | ret r =>
      simp only [sysStep, retStep] at h
      cases hpc : s.pc with
      | hal cmd call =>
          simp only [hpc] at h
          by_cases hr : s.pending = [] ∧ r.fits call = true ∧ lwipAllows s.isOpen r call = true
          · rw [if_pos hr] at h
            obtain ⟨rfl, rfl⟩ := Prod.mk.inj (Option.some.inj h)
            exact .ret hpc hr.2.1 hr.2.2
          · rw [if_neg hr] at h
            simp at h
      | _ => simp [hpc] at h
  | pump =>
      simp only [sysStep] at h
      split at h
      · next hpc _ _ =>
        obtain ⟨rfl, rfl⟩ := by simpa using h
        exact .silent rfl rfl rfl rfl (.inr ⟨by simp [hpc, Pc.Outside], trivial⟩) trivial
      · simp at h
  | lwip r =>
      simp only [sysStep, lwipStep] at h
      cases hpc : s.pc with
      | pumpRecv pass idx chunk =>
          have hout : s.pc.Outside := by simp [hpc, Pc.Outside]
          simp only [hpc] at h
          cases r with
          | data bytes =>
              simp only at h
              split_ifs at h
              obtain ⟨rfl, rfl⟩ := by simpa using h
              exact .silent rfl rfl rfl rfl (.inr ⟨hout, trivial⟩) trivial
          | _ =>
              obtain ⟨rfl, rfl⟩ := by simpa using h
              exact .silent rfl rfl rfl rfl (.inr ⟨hout, trivial⟩) trivial
      | _ => simp [hpc] at h
  | accept listener handle port addr =>
      simp only [sysStep] at h
      cases hpc : s.pc with
      | loop =>
          simp only [hpc] at h
          split_ifs at h with hh
          obtain ⟨rfl, rfl⟩ := by simpa using h
          exact .accept hpc hh.1 hh.2
      | _ => simp [hpc] at h
  | event opcode payload =>
      obtain ⟨rfl, rfl⟩ := by simpa [sysStep] using h
      exact .silent rfl rfl rfl rfl (.inl rfl) trivial
  | hal h' =>
      obtain ⟨rfl, rfl⟩ := by simpa [sysStep] using h
      exact .silent rfl rfl rfl rfl (.inl rfl) trivial
  | stats st =>
      obtain ⟨rfl, rfl⟩ := by simpa [sysStep] using h
      exact .silent rfl rfl rfl rfl (.inl rfl) trivial

/-! ## The task's own steps -/

/-- It is the task's turn. -/
def Act.isTask : Act η → Bool
  | .task => true
  | _ => false

/-- An event that only the task produces. -/
def Ev.ofTask : Ev → Bool
  | .promote _ | .exec _ _ | .publish _ _ | .reset => true
  | _ => false

theorem isTask_of_ofTask {a : Act η} (h : (system E).step s a = some (s', e))
    (he : e.ofTask = true) : a.isTask = true := by
  change sysStep E s a = _ at h
  cases a with
  | task => rfl
  | ret r =>
      simp only [sysStep, retStep] at h
      split at h
      · split_ifs at h <;>
          (simp only [Option.some.injEq, Prod.mk.injEq] at h; obtain ⟨-, rfl⟩ := h; simp [Ev.ofTask] at he)
      · simp at h
  | lwip r =>
      simp only [sysStep, lwipStep] at h
      split at h
      · cases r with
        | data bytes =>
            simp only at h
            split_ifs at h
            obtain ⟨-, rfl⟩ := by simpa using h
            simp [Ev.ofTask] at he
        | _ =>
            obtain ⟨-, rfl⟩ := by simpa using h
            simp [Ev.ofTask] at he
      · simp at h
  | accept listener handle port addr =>
      simp only [sysStep] at h
      split at h
      · split_ifs at h
        obtain ⟨-, rfl⟩ := by simpa using h
        simp [Ev.ofTask] at he
      · simp at h
  | pump =>
      simp only [sysStep] at h
      split at h
      · obtain ⟨-, rfl⟩ := by simpa using h
        simp [Ev.ofTask] at he
      · simp at h
  | _ =>
      obtain ⟨-, rfl⟩ := by simpa [sysStep] using h
      simp [Ev.ofTask] at he

/-! ## What only a dispatch touches -/

private theorem taskStep_keeps (h : taskStep E s = some (s', e)) :
    s'.fw.latch = s.fw.latch ∧ s'.fw.crc = s.fw.crc ∧ s'.fw.spi1 = s.fw.spi1 := by
  unfold taskStep at h
  split at h <;> (try split_ifs at h) <;> (try split at h) <;>
    (simp only [Option.some.injEq, Prod.mk.injEq, reduceCtorEq] at h) <;>
    (obtain ⟨rfl, -⟩ := h) <;> exact ⟨rfl, rfl, rfl⟩

/-- Only a dispatch shows one. -/
theorem act_of_dispatch {a : Act η} {req : Request} {reply : Reply} {sub : Option Nat}
    (h : (system E).step s a = some (s', .dispatch req reply sub)) : a = .dispatch req := by
  change sysStep E s a = _ at h
  cases a with
  | dispatch req' =>
      obtain ⟨-, rfl, -⟩ := by simpa [sysStep] using h
      rfl
  | task =>
      simp only [sysStep, taskStep] at h
      split at h
      · split at h <;> (try split_ifs at h) <;> (try split at h) <;> simp at h
      · simp at h
  | _ =>
      simp only [sysStep, retStep, lwipStep] at h
      (try split at h) <;> (try split_ifs at h) <;> (try split at h) <;> (try split_ifs at h) <;>
        simp at h

/-- Outside a dispatch nobody touches the retry latch, the CRC table or the pass-through flags. -/
theorem sysStep_keeps {a : Act η} (h : (system E).step s a = some (s', e))
    (ha : ∀ req, a ≠ .dispatch req) :
    s'.fw.latch = s.fw.latch ∧ s'.fw.crc = s.fw.crc ∧ s'.fw.spi1 = s.fw.spi1 := by
  change sysStep E s a = _ at h
  cases a with
  | dispatch req => exact absurd rfl (ha req)
  | task =>
      simp only [sysStep] at h
      split at h
      · exact taskStep_keeps h
      · obtain ⟨rfl, -⟩ := by simpa using h
        exact ⟨rfl, rfl, rfl⟩
  | ret r =>
      simp only [sysStep, retStep] at h
      split at h
      · split_ifs at h
        all_goals
          obtain ⟨rfl, -⟩ := by simpa using h
          exact ⟨rfl, rfl, rfl⟩
      · simp at h
  | lwip r =>
      simp only [sysStep, lwipStep] at h
      split at h
      · cases r with
        | data bytes =>
            simp only at h
            split_ifs at h
            obtain ⟨rfl, -⟩ := by simpa using h
            exact ⟨rfl, rfl, rfl⟩
        | _ =>
            obtain ⟨rfl, -⟩ := by simpa using h
            exact ⟨rfl, rfl, rfl⟩
      · simp at h
  | accept listener handle port addr =>
      simp only [sysStep] at h
      split at h
      · split_ifs at h
        obtain ⟨rfl, -⟩ := by simpa using h
        exact ⟨rfl, rfl, rfl⟩
      · simp at h
  | pump =>
      simp only [sysStep] at h
      split at h
      · obtain ⟨rfl, -⟩ := by simpa using h
        exact ⟨rfl, rfl, rfl⟩
      · simp at h
  | _ =>
      obtain ⟨rfl, -⟩ := by simpa [sysStep] using h
      exact ⟨rfl, rfl, rfl⟩

/-! ## Dispatches -/

/-- A step that shows a dispatch is that dispatch. -/
theorem CoreStep.dispatch_inv {req : Request} {reply : Reply} {sub : Option Nat}
    (h : CoreStep E s s' (.dispatch req reply sub)) :
    ∃ fw, protocolDispatch E s.fw req.cmd req.flags req.payload req.cap = (fw, reply) ∧
      s' = { s with fw := fw } ∧ sub = queuedBy s.fw.worker fw.worker := by
  cases h with
  | silent _ _ _ _ _ he => exact he.elim
  | dispatch hd => exact ⟨_, hd, rfl, rfl⟩

section

variable {fw : Fw η} {req : Request} {reply : Reply}

/-- The state in which a handler starts: the request's sequence number has been latched. -/
def Fw.latchSeq (fw : Fw η) (req : Request) : Fw η :=
  { fw with currentReqSeq := reqSeq req.flags }

@[simp] theorem Fw.latchSeq_worker (fw : Fw η) (req : Request) : (fw.latchSeq req).worker = fw.worker :=
  rfl

@[simp] theorem Fw.latchSeq_send (fw : Fw η) (req : Request) : (fw.latchSeq req).send = fw.send := rfl

@[simp] theorem Fw.latchSeq_recv (fw : Fw η) (req : Request) : (fw.latchSeq req).recv = fw.recv := rfl

/-- An unknown opcode changes nothing else; a known one is handed to its handler. -/
theorem dispatch_cases (h : protocolDispatch E s.fw req.cmd req.flags req.payload req.cap = (fw, reply)) :
    (E.hdr.decode req.cmd = none ∧ fw = s.fw.latchSeq req) ∨
      ∃ c, E.hdr.decode req.cmd = some c ∧
        handle E c (s.fw.latchSeq req) req.payload req.cap = (fw, reply) := by
  unfold protocolDispatch at h
  cases hd : E.hdr.decode req.cmd with
  | none =>
      simp only [hd] at h
      exact .inl ⟨rfl, ((Prod.mk.inj h).1).symm⟩
  | some c =>
      simp only [hd] at h
      exact .inr ⟨c, rfl, h⟩

/-- A dispatch makes one step on the slot, for the opcode it decodes to. -/
theorem dispatch_slot
    (h : protocolDispatch E s.fw req.cmd req.flags req.payload req.cap = (fw, reply)) :
    fw.worker = s.fw.worker ∨
      ∃ c, E.hdr.decode req.cmd = some c ∧ SlotStep c req.payload s.fw.worker fw.worker := by
  rcases dispatch_cases h with ⟨-, rfl⟩ | ⟨c, hd, hh⟩
  · exact .inl rfl
  · have hs := @handle_slot _ E (s.fw.latchSeq req) req.payload req.cap c
    rw [hh] at hs
    exact .inr ⟨c, hd, hs⟩

/-- A dispatch is a `SOCK_SEND` or leaves the send cache alone. -/
theorem dispatch_send
    (h : protocolDispatch E s.fw req.cmd req.flags req.payload req.cap = (fw, reply)) :
    (E.hdr.decode req.cmd = some .sockSend ∧
        SendOutcome (s.fw.latchSeq req) req.payload req.cap (fw, reply)) ∨
      (E.hdr.decode req.cmd ≠ some .sockSend ∧ fw.send = s.fw.send) := by
  rcases dispatch_cases h with ⟨hd, rfl⟩ | ⟨c, hd, hh⟩
  · exact .inr ⟨by simp [hd], rfl⟩
  · by_cases hc : c = .sockSend
    · subst hc
      exact .inl ⟨hd, hh ▸ handleSockSend_outcome _ _ _⟩
    · have hs := @handle_send _ E (s.fw.latchSeq req) req.payload req.cap c hc
      rw [hh] at hs
      exact .inr ⟨by simpa [hd] using hc, hs⟩

/-- A dispatch is a `SOCK_RECV`, or a `SOCK_CLOSE` that forgets the handle's cached receive, or
leaves the receive cache alone. -/
theorem dispatch_recv
    (h : protocolDispatch E s.fw req.cmd req.flags req.payload req.cap = (fw, reply)) :
    (E.hdr.decode req.cmd = some .sockRecv ∧
        RecvOutcome (s.fw.latchSeq req) req.payload req.cap (fw, reply)) ∨
      (E.hdr.decode req.cmd = some .sockClose ∧ req.payload.length = 4 ∧
        fw.recv = s.fw.recv.forgetHandle (wordAt req.payload 0)) ∨
      (E.hdr.decode req.cmd ≠ some .sockRecv ∧ fw.recv = s.fw.recv ∧
        (E.hdr.decode req.cmd = some .sockClose → req.payload.length ≠ 4)) := by
  rcases dispatch_cases h with ⟨hd, rfl⟩ | ⟨c, hd, hh⟩
  · exact .inr (.inr ⟨by simp [hd], rfl, by simp [hd]⟩)
  · by_cases hc : c = .sockRecv
    · subst hc
      exact .inl ⟨hd, hh ▸ handleSockRecv_outcome _ _ _⟩
    · have hc' : E.hdr.decode req.cmd ≠ some .sockRecv := by simpa [hd] using hc
      by_cases hcl : c = .sockClose
      · subst hcl
        change handleSockClose E (s.fw.latchSeq req) req.payload = (fw, reply) at hh
        by_cases hl : req.payload.length = 4
        · have hq := (handleSockClose_plain E (s.fw.latchSeq req) req.payload hl).quiet.recv
          rw [hh] at hq
          exact .inr (.inl ⟨hd, hl, hq⟩)
        · rw [handleSockClose_invalid E _ _ hl] at hh
          obtain ⟨rfl, -⟩ := Prod.mk.inj hh
          exact .inr (.inr ⟨hc', rfl, fun _ => hl⟩)
      · have hr := @handle_recv _ E (s.fw.latchSeq req) req.payload req.cap c hc hcl
        rw [hh] at hr
        exact .inr (.inr ⟨hc', hr, by simp [hd, hcl]⟩)

/-- No dispatch fills the receive cache. -/
theorem dispatch_recv_cached
    (h : protocolDispatch E s.fw req.cmd req.flags req.payload req.cap = (fw, reply))
    (hc : fw.recv.cached = true) : fw.recv = s.fw.recv := by
  have hforget : ∀ key, (s.fw.recv.forget key).cached = true → s.fw.recv.forget key = s.fw.recv := by
    intro key hk
    unfold RecvCache.forget at hk ⊢
    split_ifs at hk ⊢
    rfl
  rcases dispatch_recv h with ⟨-, ho⟩ | ⟨-, -, hr⟩ | ⟨-, hr, -⟩
  · cases ho with
    | invalid _ => rfl
    | ring _ _ hr _ =>
        subst hr
        exact hforget _ hc
    | cached _ _ hr _ =>
        subst hr
        dsimp only at hc ⊢
        split_ifs at hc ⊢
        exact hforget _ hc
    | noMem _ _ _ hun _ => exact absurd hc (by simp [hun])
    | submitted _ _ _ hun _ _ => exact absurd hc (by simp [hun])
    | busy _ _ _ hun _ => exact absurd hc (by simp [hun])
  · rw [hr] at hc ⊢
    unfold RecvCache.forgetHandle at hc ⊢
    split_ifs at hc ⊢
    rfl
  · exact hr

/-- A dispatch that is no well-formed `SOCK_RECV` leaves the receive ring alone. -/
theorem dispatch_rx
    (h : protocolDispatch E s.fw req.cmd req.flags req.payload req.cap = (fw, reply))
    (hn : ¬ (E.hdr.decode req.cmd = some .sockRecv ∧ req.payload.length = 4)) :
    fw.rx = s.fw.rx ∧ fw.last = s.fw.last := by
  rcases dispatch_cases h with ⟨-, rfl⟩ | ⟨c, hd, hh⟩
  · exact ⟨rfl, rfl⟩
  · by_cases hc : c = .sockRecv
    · subst hc
      change handleSockRecv (s.fw.latchSeq req) req.payload req.cap = (fw, reply) at hh
      rw [handleSockRecv, if_pos fun hl => hn ⟨hd, hl⟩] at hh
      obtain ⟨rfl, -⟩ := Prod.mk.inj hh
      exact ⟨rfl, rfl⟩
    · have hrx := @handle_rx _ E (s.fw.latchSeq req) req.payload req.cap c hc
      rw [hh] at hrx
      exact hrx

/-- A dispatch leaves a job in flight alone. -/
theorem dispatch_inFlight
    (h : protocolDispatch E s.fw req.cmd req.flags req.payload req.cap = (fw, reply))
    (hf : s.job.InFlight) : fw.worker = s.fw.worker := by
  rcases dispatch_slot h with hw | ⟨c, -, hs⟩
  · exact hw
  · exact hs.eq_of_inFlight hf

end

end

end Cc3501eBridge
