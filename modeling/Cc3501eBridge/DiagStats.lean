import Cc3501eBridge.Reference
import Cc3501eBridge.Seams

/-!
# The diagnostics count what happened

`DIAG_GET_STATS` reports how many frames were answered with OK and how many with an error, and how
often the drain has entered a HAL body; `GET_DIAG_INFO` reports the status of the last error.  In
every interleaving of frames with the drain, the pump and the HAL, these are counts over what the
host saw and the drain did since boot, modulo `2 ^ 32`, and each reply to `DIAG_GET_STATS` carries
those of the moment it was built, itself not counted.
-/

namespace Cc3501eBridge

open Trace

variable {η : Type}

/-! ## What is counted -/

/-- The status byte of a reply. -/
def replyStatus (bytes : List UInt8) : UInt8 := byteAt bytes replyStatusOff

namespace FrameEv

/-- A frame answered with OK. -/
def isOk (E : Env η) : FrameEv → Bool
  | .reply _ bytes => replyStatus bytes = statusByte E .ok
  | .env _ => false

/-- The status of a frame answered with an error. -/
def failure (E : Env η) : FrameEv → Option UInt8
  | .reply _ bytes =>
      if replyStatus bytes = statusByte E .ok then none else some (replyStatus bytes)
  | .env _ => none

/-- The drain enters a HAL body. -/
def isExec : FrameEv → Bool
  | .env (.exec _ _) => true
  | _ => false

end FrameEv

/-- What `DIAG_GET_STATS` reports after a history. -/
def statsData (E : Env η) (tr : List FrameEv) (retryLatchHits : UInt32) : List UInt8 :=
  le32 (UInt32.ofNat (tr.countP (FrameEv.isOk E))) ++
    le32 (UInt32.ofNat (tr.countP fun e => (e.failure E).isSome)) ++
    le32 (UInt32.ofNat (tr.countP FrameEv.isExec)) ++ le32 retryLatchHits

/-- Where `last_error` stands in the data of `GET_DIAG_INFO`. -/
def diagLastErrorOff : Nat := 12

/-- What `GET_DIAG_INFO` reports as the last error after a history. -/
def lastFailure (E : Env η) (tr : List FrameEv) : UInt8 :=
  (latest (FrameEv.failure E) tr).getD (E.hdr.respByte .ok)

/-- OK has a status byte of its own. -/
def OkDistinct (E : Env η) : Prop := ∀ status, statusByte E status = statusByte E .ok → status = .ok

section

variable {E : Env η} {s s' : Sys η} {req : List UInt8} {tr : List FrameEv}

theorem replyStatus_encodeReply (cmd : UInt8) (reply : Reply) :
    replyStatus (encodeReply E cmd reply) = statusByte E reply.status := by
  rfl

theorem statusByte_of_ne_ok {status : Resp} (h : status ≠ .ok) :
    statusByte E status = E.hdr.respByte status := by
  simp [statusByte, h]

/-! ## One frame -/

/-- A dispatch enters no HAL body. -/
theorem dispatch_execs {request : Request} {fw : Fw η} {reply : Reply}
    (h : protocolDispatch E s.fw request.cmd request.flags request.payload request.cap =
      (fw, reply)) : fw.worker.execs = s.fw.worker.execs := by
  rcases dispatch_slot h with hw | ⟨c, -, hw⟩
  · rw [hw]
  · exact hw.execs_eq

/-- A frame is answered with one reply, which is what it is counted by; the drain's count stays. -/
theorem frame_counted (hready : s.fw.crc.ready = true) (req : List UInt8) (old : Buf) :
    let r := protocolBuildReply E (dispatcher E) s.fw req old frameMaxBytes
    ∃ reply, r.bytes = encodeReply E (cmdEcho req) reply ∧
      r.fw.stats = s.fw.stats.count reply.status ∧ r.fw.worker.execs = s.fw.worker.execs := by
  intro r
  by_cases hacc : ∃ payload, Accepts E req payload
  · obtain ⟨payload, hacc⟩ := hacc
    obtain ⟨hbytes, hfw⟩ := buildReply_served hready hacc old
    refine ⟨_, hbytes, by rw [hfw], ?_⟩
    rw [hfw]
    exact @dispatch_execs η E s ⟨cmdEcho req, byteAt req 1, payload, E.build.replyDataMax⟩
      (protocolDispatch E s.fw (cmdEcho req) (byteAt req 1) payload E.build.replyDataMax).1 _ rfl
  · obtain ⟨hbytes, hfw⟩ := buildReply_rejected hready (dispatcher E)
      (fun payload h => hacc ⟨payload, h⟩) old
    refine ⟨_, hbytes, ?_, by rw [hfw]⟩
    rw [hfw]
    rfl

/-! ## One request for the counts -/

/-- A `DIAG_GET_STATS` that is served reports the counters as it met them. -/
theorem buildReply_stats (hready : s.fw.crc.ready = true) (h : Accepts E req [])
    (hcmd : E.hdr.decode (cmdEcho req) = some .diagGetStats) (old : Buf) :
    (protocolBuildReply E (dispatcher E) s.fw req old frameMaxBytes).bytes =
      encodeReply E (cmdEcho req)
        { status := .ok
          data := le32 s.fw.stats.framesOk ++ le32 s.fw.stats.framesErr ++
            le32 s.fw.worker.execs ++ le32 s.fw.latch.hits } := by
  have hcap : 16 ≤ E.build.replyDataMax := by
    rw [Build.replyDataMax]
    split <;> decide
  have hd : (protocolDispatch E s.fw (cmdEcho req) (byteAt req 1) [] E.build.replyDataMax).2 =
      { status := .ok
        data := le32 s.fw.stats.framesOk ++ le32 s.fw.stats.framesErr ++
          le32 s.fw.worker.execs ++ le32 s.fw.latch.hits } := by
    simp only [protocolDispatch, hcmd, handle, handleDiagGetStats]
    rw [if_neg (by simp), if_neg (by omega)]
  have hlen : (le32 s.fw.stats.framesOk ++ le32 s.fw.stats.framesErr ++
      le32 s.fw.worker.execs ++ le32 s.fw.latch.hits).length = 16 := rfl
  rw [(buildReply_served hready h old).1, hd, Reply.clamp, if_neg (by rw [hlen]; omega)]

/-- A `GET_DIAG_INFO` that is served reports the last error as it met it. -/
theorem buildReply_lastError (hready : s.fw.crc.ready = true) (h : Accepts E req [])
    (hcmd : E.hdr.decode (cmdEcho req) = some .getDiagInfo) (old : Buf) :
    byteAt (protocolBuildReply E (dispatcher E) s.fw req old frameMaxBytes).bytes
        (replyDataOff + diagLastErrorOff) = E.hdr.respByte s.fw.stats.lastError := by
  have hcap : 18 ≤ E.build.replyDataMax := by
    rw [Build.replyDataMax]
    split <;> decide
  rw [(buildReply_served hready h old).1]
  simp only [protocolDispatch, hcmd, handle, handleGetDiagInfo]
  rw [if_neg (by simp), if_neg (by omega), if_pos (by omega), Reply.clamp, if_neg (by
    change ¬ 18 > _
    omega)]
  rfl

/-! ## The guarantee -/

/-- What a reply that reports the diagnostics says after a history. -/
def DiagReply (E : Env η) (tr : List FrameEv) : FrameEv → Prop
  | .reply req bytes =>
      (Accepts E req [] → E.hdr.decode (cmdEcho req) = some .diagGetStats →
        ∃ hits, bytes =
          encodeReply E (cmdEcho req) { status := .ok, data := statsData E tr hits }) ∧
      (Accepts E req [] → E.hdr.decode (cmdEcho req) = some .getDiagInfo →
        byteAt bytes (replyDataOff + diagLastErrorOff) = lastFailure E tr)
  | .env _ => True

/-- The counters say what happened. -/
structure DiagCounts (E : Env η) (tr : List FrameEv) (fw : Fw η) : Prop where
  framesOk : fw.stats.framesOk = UInt32.ofNat (tr.countP (FrameEv.isOk E))
  framesErr : fw.stats.framesErr = UInt32.ofNat (tr.countP fun e => (e.failure E).isSome)
  execs : fw.worker.execs = UInt32.ofNat (tr.countP FrameEv.isExec)
  lastError : E.hdr.respByte fw.stats.lastError = lastFailure E tr

/-- A counter that a step raises by one counts one more event. -/
theorem count_snoc {p : FrameEv → Bool} {e : FrameEv} {n : UInt32}
    (h : n = UInt32.ofNat (tr.countP p)) :
    (if p e then n + 1 else n) = UInt32.ofNat ((tr ++ [e]).countP p) := by
  rw [List.countP_append, List.countP_singleton, h]
  split <;> simp [UInt32.ofNat_add]

private theorem taskStep_stats {e : Ev} (h : taskStep E s = some (s', e)) :
    s'.fw.stats = s.fw.stats := by
  unfold taskStep at h
  split at h <;> (try split_ifs at h) <;> (try split at h) <;>
    (simp only [Option.some.injEq, Prod.mk.injEq, reduceCtorEq] at h) <;>
    (obtain ⟨rfl, -⟩ := h) <;> rfl

/-- Only frames touch the frame counters. -/
theorem sysStep_stats {a : Act η} {e : Ev} (h : (system E).step s a = some (s', e))
    (ha : a.isEnv = true) : s'.fw.stats = s.fw.stats := by
  change sysStep E s a = _ at h
  cases a with
  | dispatch req => simp [Act.isEnv] at ha
  | stats st => simp [Act.isEnv] at ha
  | task =>
      simp only [sysStep] at h
      split at h
      · exact taskStep_stats h
      · obtain ⟨rfl, -⟩ := by simpa using h
        rfl
  | ret r =>
      simp only [sysStep, retStep] at h
      split at h
      · split_ifs at h
        all_goals
          obtain ⟨rfl, -⟩ := by simpa using h
          rfl
      · simp at h
  | lwip r =>
      simp only [sysStep, lwipStep] at h
      split at h
      · cases r with
        | data bytes =>
            simp only at h
            split_ifs at h
            obtain ⟨rfl, -⟩ := by simpa using h
            rfl
        | _ =>
            obtain ⟨rfl, -⟩ := by simpa using h
            rfl
      · simp at h
  | accept listener handle port addr =>
      simp only [sysStep] at h
      split at h
      · split_ifs at h
        obtain ⟨rfl, -⟩ := by simpa using h
        rfl
      · simp at h
  | pump =>
      simp only [sysStep] at h
      split at h
      · obtain ⟨rfl, -⟩ := by simpa using h
        rfl
      · simp at h
  | _ =>
      obtain ⟨rfl, -⟩ := by simpa [sysStep] using h
      rfl

/-- Only the drain's entry into a body raises the drain's count. -/
theorem execs_step {a : Act η} {e : Ev} (hs : (system E).step s a = some (s', e)) :
    s'.fw.worker.execs =
      if (FrameEv.env e).isExec then s.fw.worker.execs + 1 else s.fw.worker.execs := by
  cases sysStep_core hs with
  | silent hw _ _ _ _ he =>
      rw [hw, if_neg]
      cases e <;> simp_all [FrameEv.isExec, Ev.Silent]
  | dispatch hd =>
      rw [if_neg (by simp [FrameEv.isExec])]
      exact dispatch_execs hd
  | exec _ => simp [FrameEv.isExec]
  | publish _ =>
      rw [if_neg (by simp [FrameEv.isExec])]
      rfl
  | _ => simp [FrameEv.isExec, Fw.storeResult, Fw.storeCache, workerReset]

/-- A reply is counted by its status. -/
theorem DiagCounts.frame (hok : OkDistinct E) (hc : DiagCounts E tr s.fw)
    (hready : s.fw.crc.ready = true) (req : List UInt8) (old : Buf) :
    let r := protocolBuildReply E (dispatcher E) s.fw req old frameMaxBytes
    DiagCounts E (tr ++ [.reply req r.bytes]) r.fw := by
  intro r
  obtain ⟨reply, hbytes, hstats, hexecs⟩ := frame_counted hready req old
  have hstatus : replyStatus r.bytes = statusByte E reply.status := by
    rw [show r.bytes = _ from hbytes, replyStatus_encodeReply]
  by_cases hs : reply.status = .ok
  · have hfail : (FrameEv.reply req r.bytes).failure E = none := by
      rw [FrameEv.failure, if_pos (by rw [hstatus, hs])]
    have hcount : (FrameEv.reply req r.bytes).isOk E = true := by
      rw [FrameEv.isOk, hstatus, hs, decide_eq_true_eq]
    rw [Stats.count, if_pos hs] at hstats
    refine ⟨?_, ?_, ?_, ?_⟩
    · rw [← count_snoc hc.framesOk, if_pos hcount]
      exact congrArg Stats.framesOk hstats
    · rw [← count_snoc hc.framesErr, if_neg (by simp [hfail])]
      exact (congrArg Stats.framesErr hstats :)
    · rw [← count_snoc hc.execs, if_neg (by simp [FrameEv.isExec])]
      exact hexecs
    · rw [lastFailure, latest_snoc, hfail, Option.none_or, ← lastFailure, ← hc.lastError]
      exact congrArg (fun st => E.hdr.respByte st.lastError) hstats
  · have hne : replyStatus r.bytes ≠ statusByte E .ok := by
      rw [hstatus]
      exact fun heq => hs (hok _ heq)
    have hfail : (FrameEv.reply req r.bytes).failure E = some (E.hdr.respByte reply.status) := by
      rw [FrameEv.failure, if_neg hne, hstatus, statusByte_of_ne_ok hs]
    have hcount : ¬ (FrameEv.reply req r.bytes).isOk E = true := by
      rw [FrameEv.isOk, decide_eq_true_eq]
      exact hne
    rw [Stats.count, if_neg hs] at hstats
    refine ⟨?_, ?_, ?_, ?_⟩
    · rw [← count_snoc hc.framesOk, if_neg hcount]
      exact (congrArg Stats.framesOk hstats :)
    · rw [← count_snoc hc.framesErr, if_pos (by simp [hfail])]
      exact congrArg Stats.framesErr hstats
    · rw [← count_snoc hc.execs, if_neg (by simp [FrameEv.isExec])]
      exact hexecs
    · rw [lastFailure, latest_snoc, hfail, Option.some_or, Option.getD_some]
      exact congrArg (fun st => E.hdr.respByte st.lastError) hstats

/-- Whatever else happens: the frame counters stay, and the drain's count follows the drain. -/
theorem DiagCounts.env (hc : DiagCounts E tr s.fw) {a : Act η} {e : Ev} (ha : a.isEnv = true)
    (hs : (system E).step s a = some (s', e)) : DiagCounts E (tr ++ [.env e]) s'.fw := by
  have hstats := sysStep_stats hs ha
  have hok : ¬ (FrameEv.env e).isOk E = true := by simp [FrameEv.isOk]
  have hfail : (FrameEv.env e).failure E = none := rfl
  refine ⟨?_, ?_, ?_, ?_⟩
  · rw [← count_snoc hc.framesOk, if_neg hok, hstats]
  · rw [← count_snoc hc.framesErr, if_neg (by simp [hfail]), hstats]
  · rw [← count_snoc hc.execs]
    exact execs_step hs
  · rw [lastFailure, latest_snoc, hfail, Option.none_or, ← lastFailure, ← hc.lastError, hstats]

theorem diagCounts_boot (hal : η) : DiagCounts E [] (Sys.boot hal).fw := ⟨rfl, rfl, rfl, rfl⟩

/-- The diagnostics are exact.  In every interleaving of frames with the drain and everything else,
from boot on, the counters are the numbers of replies with OK, of replies with an error and of
entries of the drain into a HAL body, modulo `2 ^ 32`, and the last error is the status of the
latest reply with one; every `DIAG_GET_STATS` and `GET_DIAG_INFO` that is served reports them as
they were before it. -/
theorem diag_stats_exact (hok : OkDistinct E) {hal : η}
    (hr : (frameSystem E).Run (.boot hal) tr s) :
    DiagCounts E tr s.fw ∧ Justified (DiagReply E) tr := by
  refine (hr.invariant (P := fun tr s => (frameSystem E).Run (.boot hal) tr s ∧
    DiagCounts E tr s.fw ∧ Justified (DiagReply E) tr)
    ⟨.nil, diagCounts_boot hal, justified_nil⟩ ?_).2
  rintro tr s a s' e ⟨hr, hc, hj⟩ hs
  refine ⟨hr.snoc hs, ?_⟩
  obtain ⟨tr', hr'⟩ := frame_run_refines hr
  have hready := crc_ready_of_run hr'
  change frameStep E s a = _ at hs
  cases a with
  | frame req old =>
      simp only [frameStep, Option.some.injEq, Prod.mk.injEq] at hs
      obtain ⟨rfl, rfl⟩ := hs
      refine ⟨hc.frame hok hready req old, hj.snoc ⟨fun hacc hcmd => ⟨s.fw.latch.hits, ?_⟩,
        fun hacc hcmd => ?_⟩⟩
      · rw [buildReply_stats hready hacc hcmd old, hc.framesOk, hc.framesErr, hc.execs]
        rfl
      · rw [buildReply_lastError hready hacc hcmd old, hc.lastError]
  | env a =>
      simp only [frameStep] at hs
      split_ifs at hs with ha
      obtain ⟨⟨s'', e'⟩, hstep, heq⟩ := Option.map_eq_some_iff.mp hs
      obtain ⟨rfl, rfl⟩ := Prod.mk.inj heq
      exact ⟨hc.env ha hstep, hj.snoc trivial⟩

/-- A frame cut short, a `PING` and a `DIAG_GET_STATS`: two replies with OK and one with an error,
which `ERR_PROTOCOL` is the status of. -/
theorem diag_stats_exact_ping :
    ∃ s tr, (frameSystem .reference).Run (.boot ()) tr s ∧ s.fw.stats.framesOk = 2 ∧
      s.fw.stats.framesErr = 1 ∧ DiagCounts .reference tr s.fw ∧
      Justified (DiagReply .reference) tr := by
  have hexec : ((frameSystem .reference).exec (.boot ())
      [.frame [0x00, 0x08, 2, 0, 0x03] .zero, .frame [0x00, 0x08, 2, 0, 0x03, 0x4B] .zero,
        .frame [0x70, 0x00, 2, 0, 0xD7, 0xA0] .zero]).map
        (fun p => (p.1.fw.stats.framesOk, p.1.fw.stats.framesErr)) = some (2, 1) := by
    decide +kernel
  obtain ⟨⟨s, tr⟩, hs, hcounts⟩ := Option.map_eq_some_iff.mp hexec
  obtain ⟨hframes, herr⟩ := Prod.mk.inj hcounts
  have hok : OkDistinct Env.reference := by
    intro status
    cases status <;> decide
  have hr := Machine.run_of_exec hs
  exact ⟨s, tr, hr, hframes, herr, diag_stats_exact hok hr⟩

end

end Cc3501eBridge
