import Cc3501eBridge.Latch
import Cc3501eBridge.Reference

/-!
# A collected reply can be asked for again

A host that lost a reply repeats its request with the same sequence number.  The retry latch then
gives the same reply once more instead of running the command again.  `Entry` is what the latch
holds after a collect; every step keeps it, but for the two kinds the protocol names: the next
collect of an opcode the latch covers, and a request of the same opcode with another sequence
number. -/

namespace Cc3501eBridge

variable {η : Type}

/-! ## The entry -/

/-- The latch holds the reply `r` to request number `q` of opcode `c`. -/
structure RetryLatch.Entry (l : RetryLatch) (c : Cmd) (q : UInt8) (r : Reply) : Prop where
  valid : l.valid = true
  cmd : l.cmd = c
  seq : l.seq = q
  status : l.status = r.status
  data : l.data = r.data

/-- The dispatch of `req` takes the finished job of an opcode the latch covers from the slot. -/
def LatchCollects (E : Env η) (fw : Fw η) (req : Request) : Prop :=
  ∃ c, E.hdr.decode req.cmd = some c ∧ c.latched = true ∧ fw.worker.job.jobCmd = c ∧
    fw.worker.job.Terminal ∧
    (protocolDispatch E fw req.cmd req.flags req.payload req.cap).1.worker.job.state = .idle

/-- A step that neither collects for an opcode the latch covers nor is a request of opcode `c` with
another sequence number than `q`. -/
def KeepsEntry (E : Env η) (c : Cmd) (q : UInt8) (s : Sys η) (a : Act η) : Prop :=
  ∀ req, a = .dispatch req → ¬ LatchCollects E s.fw req ∧
    ¬ (E.hdr.decode req.cmd = some c ∧ reqSeq req.flags ≠ q ∧ reqSeq req.flags ≠ 0)

/-- When the latch serves, its entry answers the request's opcode and number; and when it declines,
the entry is as before, unless it answers another number of the same opcode. -/
theorem retryLatchServe_cases {l l' : RetryLatch} {q : UInt8} {c : Cmd} {cap : Nat}
    {out : Option Reply} (h : retryLatchServe l q c cap = (out, l')) :
    (∃ r, out = some r ∧ l.Entry c q r ∧ q ≠ 0 ∧ l' = { l with hits := l.hits + 1 }) ∨
      (out = none ∧ l' = l) ∨
      (out = none ∧ l.cmd = c ∧ l.seq ≠ q ∧ q ≠ 0 ∧ l' = { l with valid := false }) := by
  unfold retryLatchServe at h
  split_ifs at h with h1 h2 h3 h4 h5 <;> obtain ⟨rfl, rfl⟩ := Prod.mk.inj h
  · exact .inr (.inl ⟨rfl, rfl⟩)
  · exact .inr (.inl ⟨rfl, rfl⟩)
  · exact .inr (.inl ⟨rfl, rfl⟩)
  · push Not at h3
    exact .inr (.inr ⟨rfl, h3.2, h4, h2, rfl⟩)
  · exact .inr (.inl ⟨rfl, rfl⟩)
  · push Not at h3 h4
    exact .inl ⟨_, rfl, ⟨by simpa using h3.1, h3.2, h4, rfl, rfl⟩, h2, rfl⟩

/-- A latch that holds the entry serves it, if the reply fits. -/
theorem RetryLatch.Entry.serve {l : RetryLatch} {c : Cmd} {q : UInt8} {r : Reply}
    (h : l.Entry c q r) (hc : c.latched = true) (hq : q ≠ 0) {cap : Nat}
    (hcap : r.data.length ≤ cap) :
    retryLatchServe l q c cap = (some r, { l with hits := l.hits + 1 }) := by
  have happlies : retryLatchApplies c = true := by cases c <;> first | rfl | cases hc
  obtain ⟨hvalid, hcmd, hseq, hstatus, hdata⟩ := h
  unfold retryLatchServe
  rw [if_neg (by simp [happlies]), if_neg hq, if_neg (by simp [hvalid, hcmd]),
    if_neg (by simp [hseq]), if_neg (by rw [hdata]; omega), hstatus, hdata]

theorem retryLatchStore_entry {l : RetryLatch} {c : Cmd} {q : UInt8} {r : Reply}
    (hc : c.latched = true) (hq : q ≠ 0) (hlen : r.data.length ≤ 32) :
    (retryLatchStore l q c r.status r.data).Entry c q r := by
  have happlies : retryLatchApplies c = true := by cases c <;> first | rfl | cases hc
  unfold retryLatchStore
  rw [if_neg (by simp [happlies]), if_neg hq, if_neg (by omega)]
  exact ⟨rfl, rfl, rfl, rfl, rfl⟩

/-- An opcode's helper offers no room, or what it is offered. -/
theorem Cmd.latchCap_eq (c : Cmd) : (∀ cap, c.latchCap cap = 0) ∨ ∀ cap, c.latchCap cap = cap := by
  cases c <;> first | exact .inl fun _ => rfl | exact .inr fun _ => rfl

/-- What a finished job hands back fits the room. -/
theorem length_slotReply_le (j : Job) (cap : Nat) : (slotReply j cap).data.length ≤ cap := by
  unfold slotReply
  split_ifs with _ h
  · simpa [Job.resultBytes] using h
  · exact Nat.zero_le _
  · exact Nat.zero_le _

/-! ## One step -/

section

variable {E : Env η} {s s' : Sys η} {fw : Fw η} {req : Request} {reply : Reply} {c : Cmd}
  {q : UInt8}
  {r : Reply}

/-- After a collect the latch holds the reply, if it is short enough. -/
theorem LatchCollects.entry (hcol : LatchCollects E s.fw req) (hc : E.hdr.decode req.cmd = some c)
    (hd : protocolDispatch E s.fw req.cmd req.flags req.payload req.cap = (fw, reply))
    (hq : reqSeq req.flags ≠ 0) (hlen : reply.data.length ≤ 32) :
    fw.latch.Entry c (reqSeq req.flags) reply ∧ c.latched = true ∧
      reply.data.length ≤ c.latchCap req.cap := by
  obtain ⟨c', hc', hcov, hcmd, hterm, hidle⟩ := hcol
  obtain rfl : c' = c := Option.some.inj (hc'.symm.trans hc)
  rw [hd] at hidle
  rcases dispatch_latch hd with ⟨hn, -⟩ | ⟨c'', hc'', hans⟩
  · exact absurd (hn c' hc) (by simp [hcov])
  · obtain rfl : c'' = c' := Option.some.inj (hc''.symm.trans hc)
    cases hans with
    | own _ _ hw _ =>
        change fw.worker.job.state = .idle at hidle
        rw [hw hcov] at hidle
        exact absurd hidle hterm.ne_idle
    | routed _ hl₁ hw₁ hs₁ hroom hpoll hl hw =>
        change fw.worker.job.state = .idle at hidle
        rw [hw] at hidle
        have hw₁' : _ = s.fw.worker := hw₁
        cases hpoll with
        | served _ =>
            change _ = WorkerState.idle at hidle
            rw [hw₁'] at hidle
            exact absurd hidle hterm.ne_idle
        | busy _ hn _ =>
            rw [hw₁'] at hn
            exact absurd ⟨hcmd, hterm⟩ hn
        | @collected l _ _ _ =>
            rw [hl, hs₁, hroom]
            exact ⟨retryLatchStore_entry hcov hq hlen, hcov, length_slotReply_le _ _⟩

/-- A dispatch that is neither a collect nor a request of the same opcode with another number keeps
the entry. -/
theorem RetryLatch.Entry.dispatch_step (h : s.fw.latch.Entry c q r)
    (hk : KeepsEntry E c q s (.dispatch req))
    (hd : protocolDispatch E s.fw req.cmd req.flags req.payload req.cap = (fw, reply)) :
    fw.latch.Entry c q r := by
  obtain ⟨hcol, hother⟩ := hk req rfl
  rcases dispatch_latch hd with ⟨-, hl⟩ | ⟨c', hc', hans⟩
  · rwa [hl]
  · cases hans with
    | own _ hl _ _ =>
        have hl' : fw.latch = s.fw.latch := hl
        rwa [hl']
    | routed hpass hl₁ hw₁ hs₁ hroom hpoll hl hw =>
        have hcov := latched_of_passesChecks hpass
        have hl₁' : _ = s.fw.latch := hl₁
        have hw₁' : _ = s.fw.worker := hw₁
        rw [hl]
        -- the latch may count a hit, and drops only an entry for another number
        have hserve : ∀ {out l room},
            retryLatchServe s.fw.latch (reqSeq req.flags) c' room = (out, l) →
              l.Entry c q r := by
          intro out l room hserve
          rcases retryLatchServe_cases hserve with ⟨-, -, -, -, rfl⟩ | ⟨-, rfl⟩ |
            ⟨-, hcmd, hseq, hq, -⟩
          · exact ⟨h.valid, h.cmd, h.seq, h.status, h.data⟩
          · exact h
          · rw [h.cmd] at hcmd
            rw [h.seq] at hseq
            exact absurd ⟨by rw [hc', hcmd], fun heq => hseq heq.symm, hq⟩ hother
        cases hpoll with
        | served hs =>
            rw [hl₁', hs₁] at hs
            exact hserve hs
        | busy hs _ hlatch =>
            rw [hl₁', hs₁] at hs
            rw [hlatch]
            exact hserve hs
        | collected _ hcmd hterm =>
            rw [hw₁'] at hcmd hterm
            refine absurd ⟨c', hc', hcov, hcmd, hterm, ?_⟩ hcol
            rw [hd, hw]
            rfl

/-- Every other step keeps it too. -/
theorem RetryLatch.Entry.step {a : Act η} {e : Ev} (h : s.fw.latch.Entry c q r)
    (hk : KeepsEntry E c q s a) (hs : (system E).step s a = some (s', e)) :
    s'.fw.latch.Entry c q r := by
  cases a with
  | dispatch req =>
      obtain ⟨fw, reply, hd, rfl⟩ : ∃ fw reply,
          protocolDispatch E s.fw req.cmd req.flags req.payload req.cap = (fw, reply) ∧
            s' = { s with fw := fw } := by
        obtain ⟨rfl, -⟩ := by simpa [system, sysStep] using hs
        exact ⟨_, _, rfl, rfl⟩
      exact h.dispatch_step hk hd
  | _ =>
      rw [(sysStep_keeps hs (by simp)).1]
      exact h

/-- The hit counter moves only for a request that the entry answers. -/
theorem dispatch_hits
    (hd : protocolDispatch E s.fw req.cmd req.flags req.payload req.cap = (fw, reply)) :
    fw.latch.hits = s.fw.latch.hits ∨
      ∃ c, E.hdr.decode req.cmd = some c ∧ s.fw.latch.Entry c (reqSeq req.flags) reply ∧
        reqSeq req.flags ≠ 0 := by
  rcases dispatch_latch hd with ⟨-, hl⟩ | ⟨c, hc, hans⟩
  · exact .inl (by rw [hl])
  · cases hans with
    | own _ hl _ _ =>
        have hl' : fw.latch = s.fw.latch := hl
        exact .inl (by rw [hl'])
    | routed _ hl₁ _ hs₁ _ hpoll hl _ =>
        have hl₁' : _ = s.fw.latch := hl₁
        have hkeep : ∀ {l room}, retryLatchServe s.fw.latch (reqSeq req.flags) c room = (none, l) →
            l.hits = s.fw.latch.hits := by
          intro l room hserve
          rcases retryLatchServe_cases hserve with ⟨r, hr, -⟩ | ⟨-, rfl⟩ | ⟨-, -, -, -, rfl⟩
          · exact absurd hr (by simp)
          · rfl
          · rfl
        cases hpoll with
        | served hs =>
            rw [hl₁', hs₁] at hs
            rcases retryLatchServe_cases hs with ⟨r, hr, hentry, hq, -⟩ | ⟨hr, -⟩ | ⟨hr, -⟩
            · obtain rfl := Option.some.inj hr
              exact .inr ⟨c, hc, hentry, hq⟩
            · exact absurd hr (by simp)
            · exact absurd hr (by simp)
        | busy hs _ hlatch =>
            rw [hl₁', hs₁] at hs
            exact .inl (by rw [hl, hlatch, hkeep hs])
        | collected hs _ _ =>
            rw [hl₁', hs₁] at hs
            refine .inl ?_
            rw [hl, ← hkeep hs]
            unfold retryLatchStore
            split_ifs <;> rfl

/-- A request that gets as far as the latch is answered from the entry for it. -/
theorem RetryLatch.Entry.dispatch_served (h : s.fw.latch.Entry c (reqSeq req.flags) r)
    (hc : E.hdr.decode req.cmd = some c) (hq : reqSeq req.flags ≠ 0)
    (hpass : passesChecks E s.fw c req.payload = true) (hcap : latchMinCap ≤ req.cap)
    (hlen : r.data.length ≤ c.latchCap req.cap)
    (hd : protocolDispatch E s.fw req.cmd req.flags req.payload req.cap = (fw, reply)) :
    reply = r ∧ fw.worker = s.fw.worker ∧ fw.latch.hits = s.fw.latch.hits + 1 := by
  have hpass' : passesChecks E (s.fw.latchSeq req) c req.payload = true := by
    cases c <;> exact hpass
  have hcov := latched_of_passesChecks hpass
  rcases dispatch_latch hd with ⟨hn, -⟩ | ⟨c', hc', hans⟩
  · exact absurd (hn c hc) (by simp [hcov])
  · obtain rfl : c' = c := Option.some.inj (hc'.symm.trans hc)
    cases hans with
    | own hp _ _ _ => exact absurd (hp hpass') (by omega)
    | routed _ hl₁ hw₁ hs₁ hroom hpoll hl hw =>
        have hl₁' : _ = s.fw.latch := hl₁
        have hw₁' : _ = s.fw.worker := hw₁
        have hserve := h.serve hcov hq (hroom ▸ hlen)
        rw [hw, hl]
        cases hpoll with
        | served hs =>
            rw [hl₁', hs₁] at hs
            obtain ⟨hr, rfl⟩ := Prod.mk.inj (hs.symm.trans hserve)
            exact ⟨Option.some.inj hr, hw₁', rfl⟩
        | busy hs _ _ =>
            rw [hl₁', hs₁] at hs
            exact absurd (Prod.mk.inj (hs.symm.trans hserve)).1 (by simp)
        | collected hs _ _ =>
            rw [hl₁', hs₁] at hs
            exact absurd (Prod.mk.inj (hs.symm.trans hserve)).1 (by simp)

end

/-! ## The guarantee -/

/-- The retry latch makes a collected reply idempotent.  Let a request of an opcode the latch
covers, with a sequence number, have collected a finished job whose reply `r` has at most 32 bytes
of data.  Until the next collect of such an opcode, and the next request of the same opcode with
another sequence number, every repetition that passes its checks is answered with exactly `r`,
leaves the slot and the execution counter as they are and is counted as a hit, and no other request
is; and wherever a request is answered from the latch, it is from an entry for its own opcode and
its own nonzero number. -/
theorem collected_reply_idempotent {E : Env η} {tr : List Ev} {s₀ s₁ s₂ : Sys η} {req₀ : Request}
    {c : Cmd} {r : Reply} {sub : Option Nat} (hc : E.hdr.decode req₀.cmd = some c)
    (hq : reqSeq req₀.flags ≠ 0) (hcol : LatchCollects E s₀.fw req₀)
    (hs : (system E).step s₀ (.dispatch req₀) = some (s₁, .dispatch req₀ r sub))
    (hlen : r.data.length ≤ 32)
    (hrun : (system E).RunIf (KeepsEntry E c (reqSeq req₀.flags)) s₁ tr s₂) :
    (∀ req s₃ r' sub', (system E).step s₂ (.dispatch req) = some (s₃, .dispatch req r' sub') →
      E.hdr.decode req.cmd = some c → reqSeq req.flags = reqSeq req₀.flags →
      req.cap = E.build.replyDataMax → passesChecks E s₂.fw c req.payload = true →
      r' = r ∧ s₃.fw.worker = s₂.fw.worker ∧ s₃.fw.latch.hits = s₂.fw.latch.hits + 1) ∧
    (∀ req s₃ r' sub', (system E).step s₂ (.dispatch req) = some (s₃, .dispatch req r' sub') →
      s₃.fw.latch.hits ≠ s₂.fw.latch.hits →
      E.hdr.decode req.cmd = some c ∧ reqSeq req.flags = reqSeq req₀.flags) ∧
    ∀ (s s' : Sys η) req r' sub',
      (system E).step s (.dispatch req) = some (s', .dispatch req r' sub') →
      s'.fw.latch.hits ≠ s.fw.latch.hits →
      ∃ c', E.hdr.decode req.cmd = some c' ∧ s.fw.latch.Entry c' (reqSeq req.flags) r' ∧
        reqSeq req.flags ≠ 0 := by
  have hdispatch : ∀ {s s' : Sys η} {req r' sub'},
      (system E).step s (.dispatch req) = some (s', .dispatch req r' sub') →
      protocolDispatch E s.fw req.cmd req.flags req.payload req.cap = (s'.fw, r') := by
    intro s s' req r' sub' h
    obtain ⟨fw, hd, rfl, -⟩ := (sysStep_core h).dispatch_inv
    exact hd
  obtain ⟨hentry, -, hroom⟩ := hcol.entry hc (hdispatch hs) hq hlen
  have hentry₂ : s₂.fw.latch.Entry c (reqSeq req₀.flags) r :=
    hrun.invariant (P := fun _ s => s.fw.latch.Entry c (reqSeq req₀.flags) r) hentry
      fun _ _ _ _ _ h hk hstep => h.step hk hstep
  refine ⟨?_, ?_, ?_⟩
  · intro req s₃ r' sub' hstep hc' hseq hcap hpass
    rw [← hseq] at hentry₂ hq
    refine hentry₂.dispatch_served hc' hq hpass ?_ ?_ (hdispatch hstep)
    · rw [hcap, Build.replyDataMax]
      split <;> decide
    · -- the room is either that of a full reply or, for both requests, none
      rcases c.latchCap_eq with hcap₀ | hcap₀
      · rw [hcap₀] at hroom ⊢
        exact hroom
      · rw [hcap₀, hcap, Build.replyDataMax]
        split <;> exact Nat.le_trans hlen (by decide)
  · intro req s₃ r' sub' hstep hhits
    rcases dispatch_hits (hdispatch hstep) with heq | ⟨c', hc', hentry', -⟩
    · exact absurd heq hhits
    · obtain rfl : c' = c := hentry'.cmd.symm.trans hentry₂.cmd
      exact ⟨hc', hentry'.seq.symm.trans hentry₂.seq⟩
  · intro s s' req r' sub' hstep hhits
    exact (dispatch_hits (hdispatch hstep)).resolve_left hhits

/-- The host asks for the MAC address. -/
def macRequest : Request := .of .getMac 1 []

/-- The same with a payload, which the opcode does not take. -/
def macRequestPayload : Request := .of .getMac 1 [0]

/-- The address is read; nobody has collected it yet. -/
def macRead : List (Act Unit) :=
  [.dispatch macRequest, .task, .task, .ret { rv := hwOk, data := [1, 2, 3, 4, 5, 6] }] ++
    List.replicate 9 .task

/-- The reply with the address. -/
def macReply : Reply := { status := .ok, data := [1, 2, 3, 4, 5, 6] }

/-- After that run the request collects the address. -/
theorem macRead_collects :
    ∃ s tr, (system .reference).Run (.boot ()) tr s ∧ LatchCollects .reference s.fw macRequest ∧
      ∃ s₁ sub, (system .reference).step s (.dispatch macRequest) =
        some (s₁, .dispatch macRequest macReply sub) := by
  have hexec : ((system .reference).exec (.boot ()) macRead).map (fun p =>
      let out := protocolDispatch .reference p.1.fw macRequest.cmd macRequest.flags
        macRequest.payload macRequest.cap
      (p.1.job.jobCmd, p.1.job.state, out.1.worker.job.state, out.2)) =
        some (.getMac, .done, .idle, macReply) := by decide +kernel
  obtain ⟨⟨s, tr⟩, hs, heq⟩ := Option.map_eq_some_iff.mp hexec
  simp only [Prod.mk.injEq] at heq
  obtain ⟨hcmd, hdone, hidle, hreply⟩ := heq
  have hstep : (system .reference).step s (.dispatch macRequest) = some (_, .dispatch macRequest
      (protocolDispatch .reference s.fw macRequest.cmd macRequest.flags macRequest.payload
        macRequest.cap).2 _) := rfl
  rw [hreply] at hstep
  exact ⟨s, tr, Machine.run_of_exec hs, ⟨.getMac, by decide, rfl, hcmd, .inl hdone, hidle⟩, _, _,
    hstep⟩

/-- A request can reach its helper and still not be answered with the collected reply: the helper
for opcodes without payload refuses a request that has one before it asks the latch. -/
theorem macRead_payload_refused :
    ∃ s s₁ s₂ tr sub r' sub', (system .reference).Run (.boot ()) tr s ∧
      LatchCollects .reference s.fw macRequest ∧
      (system .reference).step s (.dispatch macRequest) =
        some (s₁, .dispatch macRequest macReply sub) ∧
      (system .reference).step s₁ (.dispatch macRequestPayload) =
        some (s₂, .dispatch macRequestPayload r' sub') ∧
      macRequestPayload.cmd = macRequest.cmd ∧ macRequestPayload.flags = macRequest.flags ∧
      macRequestPayload.cap = Env.reference.build.replyDataMax ∧
      handle .reference .getMac (s₁.fw.latchSeq macRequestPayload) macRequestPayload.payload
          macRequestPayload.cap =
        handleWorkerRouted (s₁.fw.latchSeq macRequestPayload) .getMac 6 macRequestPayload.payload
          macRequestPayload.cap ∧
      r' ≠ macReply := by
  obtain ⟨s, tr, hrun, hcol, s₁, sub, hstep⟩ := macRead_collects
  refine ⟨s, s₁, _, tr, sub, .bare .errInvalid, _, hrun, hcol, hstep, rfl, rfl, rfl, rfl, rfl, ?_⟩
  decide

/-- The repeated request is answered with the collected address, also after another step.
-/
theorem collected_reply_idempotent_mac :
    ∃ s s₁ s₂ s₃ tr sub r' sub', (system .reference).Run (.boot ()) tr s ∧
      (system .reference).step s (.dispatch macRequest) =
        some (s₁, .dispatch macRequest macReply sub) ∧
      (system .reference).step s₁ (.hal ()) = some (s₂, .tau) ∧
      (system .reference).step s₂ (.dispatch macRequest) =
        some (s₃, .dispatch macRequest r' sub') ∧
      r' = macReply ∧ s₃.fw.worker = s₂.fw.worker ∧
      s₃.fw.latch.hits = s₂.fw.latch.hits + 1 := by
  obtain ⟨s, tr, hrun, hcol, s₁, sub, hstep⟩ := macRead_collects
  have hkeep : KeepsEntry Env.reference .getMac (reqSeq macRequest.flags) s₁ (.hal ()) :=
    fun req h => by cases h
  have hrun' : (system .reference).RunIf
      (KeepsEntry Env.reference .getMac (reqSeq macRequest.flags))
      s₁ [.tau] { s₁ with fw := { s₁.fw with hal := () } } := .snoc .nil hkeep rfl
  have h := (collected_reply_idempotent (by decide) (by decide) hcol hstep (by decide) hrun').1
    macRequest _ _ _ rfl (by decide) rfl rfl rfl
  exact ⟨s, s₁, _, _, tr, sub, _, _, hrun, hstep, rfl, rfl, h⟩

end Cc3501eBridge
