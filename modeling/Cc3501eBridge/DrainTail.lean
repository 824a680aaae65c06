import Cc3501eBridge.Reference
import Cc3501eBridge.Steps

/-!
# The slave after a job

A radio operation can take the DMA away from the bridge's SPI slave, so the drain re-opens the slave
after a job; where the slave is alive, that closes a live link under the host's clock.  Which of the
two it is depends on the opcode and, for two opcodes, on what this very run of the body has met.
Each body says so in a pair of flags that the drain reads and clears: a connect that succeeded has
re-opened the slave itself; an RSSI was read with Wi-Fi already up; after a connect had failed, the
count of replies was seen to move within a short window.

`Drain` keeps the flags, the count and the place within body and tail beside the state of the
firmware, in the Wi-Fi build.  Replies leave at any moment, so the count moves under the wait that
polls it, and a request may arrive between any two steps.
-/

namespace Cc3501eBridge

open Trace

variable {η : Type}

/-! ## The wait for a frame -/

/-- Where `wifi_wait_host_frame` stands. -/
inductive HostFramePc
  | start
  | sleep (baseline elapsedMs : UInt32)
  | sample (baseline elapsedMs : UInt32)
  | ret (seen : Bool)
  deriving DecidableEq, Repr

/-- A call of `count_fn` or of `sleep_ms_fn`. -/
inductive HostFrameCall
  | count (n : UInt32)
  | sleep (ms : UInt32)
  deriving DecidableEq, Repr

/-- The test of the loop. -/
def HostFramePc.loop (windowMs baseline elapsedMs : UInt32) : HostFramePc :=
  if elapsedMs < windowMs then .sleep baseline elapsedMs else .ret false

/-- `wifi_wait_host_frame`, from one call to the next, with what `count_fn` would return. -/
def waitHostFrame (windowMs stepMs : UInt32) : Machine HostFramePc UInt32 HostFrameCall where
  step
    | .start, n => some (.loop windowMs n 0, .count n)
    | .sleep baseline elapsedMs, _ => some (.sample baseline elapsedMs, .sleep stepMs)
    | .sample baseline elapsedMs, n =>
        some (if n ≠ baseline then .ret true else .loop windowMs baseline (elapsedMs + stepMs),
          .count n)
    | .ret _, _ => none

/-- `CC3501E_WIFI_CONNECT_FAIL_SKIP_WINDOW_MS`. -/
def connectFailSkipWindowMs : UInt32 := 150

/-- `CC3501E_WIFI_CONNECT_FAIL_SKIP_STEP_MS`. -/
def connectFailSkipStepMs : UInt32 := 10

/-- What `count_fn` returned. -/
def HostFrameCall.count? : HostFrameCall → Option UInt32
  | .count n => some n
  | .sleep _ => none

/-- A sleep. -/
def HostFrameCall.isSleep : HostFrameCall → Bool
  | .sleep _ => true
  | .count _ => false

/-- The counts that were read, in order. -/
def frameCounts (cs : List HostFrameCall) : List UInt32 := cs.filterMap HostFrameCall.count?

/-- How often the wait has slept. -/
def frameSleeps (cs : List HostFrameCall) : Nat := cs.countP HostFrameCall.isSleep

/-- What the calls so far say about where the wait stands. -/
def HostFrameAt (windowMs stepMs : UInt32) (cs : List HostFrameCall) : HostFramePc → Prop
  | .start => cs = []
  | .sleep b e => ∃ k, frameCounts cs = b :: List.replicate k b ∧ frameSleeps cs = k ∧
      e.toNat = k * stepMs.toNat ∧ e < windowMs
  | .sample b e => ∃ k, frameCounts cs = b :: List.replicate k b ∧ frameSleeps cs = k + 1 ∧
      e.toNat = k * stepMs.toNat ∧ e < windowMs
  | .ret seen => ∃ b ns, frameCounts cs = b :: ns ∧ (seen = true ↔ ∃ n ∈ ns, n ≠ b)

section

variable {windowMs stepMs n : UInt32} {cs : List HostFrameCall} {c : HostFrameCall}
  {pc pc' : HostFramePc}

@[simp] theorem frameCounts_snoc :
    frameCounts (cs ++ [c]) = frameCounts cs ++ c.count?.toList := by
  cases h : c.count? <;> simp [frameCounts, h]

@[simp] theorem frameSleeps_snoc :
    frameSleeps (cs ++ [c]) = frameSleeps cs + if c.isSleep then 1 else 0 := by
  cases h : c.isSleep <;> simp [frameSleeps, h]

/-- The loop goes on or returns `false`, all counts being the baseline. -/
theorem hostFrameAt_loop {b e : UInt32} {k : Nat}
    (hcounts : frameCounts cs = b :: List.replicate k b) (hsleeps : frameSleeps cs = k)
    (he : e.toNat = k * stepMs.toNat) : HostFrameAt windowMs stepMs cs (.loop windowMs b e) := by
  unfold HostFramePc.loop
  split_ifs with hlt
  · exact ⟨k, hcounts, hsleeps, he, hlt⟩
  · refine ⟨b, _, hcounts, by simp, ?_⟩
    rintro ⟨n, hn, hne⟩
    exact absurd (List.eq_of_mem_replicate hn) hne

/-- One call of the wait, as long as the time it counts does not wrap. -/
theorem HostFrameAt.step (hwrap : windowMs.toNat + stepMs.toNat ≤ 2 ^ 32)
    (h : HostFrameAt windowMs stepMs cs pc)
    (hs : (waitHostFrame windowMs stepMs).step pc n = some (pc', c)) :
    HostFrameAt windowMs stepMs (cs ++ [c]) pc' := by
  cases pc with
  | start =>
      obtain ⟨rfl, rfl⟩ := by simpa [waitHostFrame] using hs
      obtain rfl : cs = [] := h
      exact hostFrameAt_loop (k := 0) (by simp [HostFrameCall.count?, frameCounts]) rfl (by simp)
  | sleep b e =>
      obtain ⟨rfl, rfl⟩ := by simpa [waitHostFrame] using hs
      obtain ⟨k, hcounts, hsleeps, he, hlt⟩ := h
      refine ⟨k, ?_, ?_, he, hlt⟩
      · simpa [HostFrameCall.count?] using hcounts
      · simp [HostFrameCall.isSleep, hsleeps]
  | sample b e =>
      obtain ⟨rfl, rfl⟩ := by simpa [waitHostFrame] using hs
      obtain ⟨k, hcounts, hsleeps, he, hlt⟩ := h
      have hcounts' : frameCounts (cs ++ [.count n]) = b :: (List.replicate k b ++ [n]) := by
        simp [HostFrameCall.count?, hcounts]
      by_cases hn : n = b
      · subst hn
        rw [if_pos rfl]
        refine hostFrameAt_loop (k := k + 1) ?_ ?_ ?_
        · rw [hcounts', List.replicate_succ']
        · simpa [HostFrameCall.isSleep] using hsleeps
        · have hlt' : e.toNat < windowMs.toNat := UInt32.lt_iff_toNat_lt.mp hlt
          rw [UInt32.toNat_add, Nat.mod_eq_of_lt (by omega), he, Nat.succ_mul]
      · rw [if_neg hn]
        exact ⟨b, _, hcounts', by simp [hn]⟩
  | ret seen => simp [waitHostFrame] at hs

/-- It sleeps only as long as what it has slept is short of the window. -/
theorem HostFrameAt.sleep_lt {b e : UInt32} (h : HostFrameAt windowMs stepMs cs (.sleep b e)) :
    frameSleeps cs * stepMs.toNat < windowMs.toNat := by
  obtain ⟨k, -, hsleeps, he, hlt⟩ := h
  rw [hsleeps, ← he]
  exact UInt32.lt_iff_toNat_lt.mp hlt

end

/-! ## The flags of the bodies -/

/-- A pair of flags that a body leaves for the drain, `…_pending` and what it reports. -/
structure Handoff where
  pending : Bool
  value : Bool
  deriving DecidableEq, Repr

namespace Handoff

/-- What a body leaves. -/
def leave (value : Bool) : Handoff := { pending := true, value := value }

/-- What is pending. -/
def get (h : Handoff) : Option Bool := if h.pending then some h.value else none

/-- `cmd == … && cc3501e_hw_…_take_…(&value)`: what was pending, and the flags that remain. -/
def takeIf (c : Bool) (h : Handoff) : Option Bool × Handoff :=
  if c then (h.get, { h with pending := false }) else (none, h)

/-- What is taken is what was pending, if only a matching job leaves anything. -/
theorem takeIf_spec {c : Bool} (h : Handoff) (hc : c = false → h.get = none) :
    (h.takeIf c).1 = h.get ∧ (h.takeIf c).2.get = none := by
  cases c with
  | true => exact ⟨rfl, rfl⟩
  | false => exact ⟨(hc rfl).symm, hc rfl⟩

end Handoff

/-! ## The rule -/

namespace Cmd

/-- The jobs after which the slave is left alone whatever the body has met: the two data operations
of the sockets, `socket_control`, `spi1_passthrough`, `wifi_disconnect`, and the two BLE operations
of `body_already_reinit`. -/
def skipsReinit : Cmd → Bool
  | .sockRecv | .sockSend => true
  | .sockOpen | .sockConnect | .sockClose | .sockBind | .sockListen => true
  | .spi1Configure | .spi1Transfer | .spi1Release => true
  | .wifiDisconnect => true
  | .bleScanStop | .bleDisconnect => true
  | _ => false

/-- The bodies that call `cc3501e_hw_wifi_lazy_start`. -/
def lazyStarts : Cmd → Bool
  | .getMac | .wifiGetRssi | .wifiScanStart | .wifiConnectSta | .wifiApStart | .bleEnable => true
  | _ => false

end Cmd

/-! ## Where the task is in a job -/

/-- What a place of the task means for the job at hand. -/
inductive JobStage
  | /-- No body has been entered. -/
    outside
  | /-- In the body. -/
    body (cmd : Cmd)
  | /-- The body has returned, and `worker_execute` is on its way to the publication. -/
    leaving (cmd : Cmd)
  | /-- After the publication. -/
    reinit (cmd : Cmd)
  | /-- Before the reset of a fire-and-forget job. -/
    reset (cmd : Cmd)
  | /-- Before the line is raised. -/
    ready
  deriving DecidableEq

/-- The stage of the job. -/
def Pc.stage : Pc → JobStage
  | .hal cmd _ => .body cmd
  | .invalidate _ => .leaving .sockRecv
  | .copyResult cmd _ _ | .copyCache cmd _ _ | .publish cmd _ => .leaving cmd
  | .reinit cmd => .reinit cmd
  | .reset cmd => .reset cmd
  | .ready => .ready
  | _ => .outside

/-- An event that leaves the job where it is. -/
def Ev.Aside : Ev → Prop
  | .dispatch _ _ _ | .promote _ | .issued _ | .lwipRecv _ | .tau => True
  | _ => False

/-- What a step does to the stage. -/
inductive StageStep : Act η → JobStage → JobStage → Ev → Prop
  | aside {a : Act η} {st : JobStage} {e : Ev} : e.Aside → StageStep a st st e
  | enter {cmd : Cmd} {t : Nat} {call : HalCall} :
      StageStep .task .outside (.body cmd) (.exec t call)
  | leave {cmd : Cmd} {t : Nat} {call : HalCall} {r : HalRet} :
      StageStep (.ret r) (.body cmd) (.leaving cmd) (.ret t call r)
  | publish {cmd : Cmd} {t : Nat} :
      StageStep .task (.leaving cmd) (.reinit cmd) (.publish t cmd)
  | go {cmd : Cmd} : StageStep .task (.reinit cmd) (.reset cmd) .tau
  | reset {cmd : Cmd} : fireAndForget cmd = true → StageStep .task (.reset cmd) .ready .reset
  | keep {cmd : Cmd} : StageStep .task (.reset cmd) .ready .tau
  | close : StageStep .task .ready .outside .tau

section

variable {E : Env η} {s s' : Sys η} {e : Ev}

private theorem taskStep_stage (h : taskStep E s = some (s', e)) :
    StageStep (.task : Act η) s.pc.stage s'.pc.stage e := by
  unfold taskStep at h
  cases hpc : s.pc with
  | loop =>
      simp only [hpc] at h
      split_ifs at h
      · obtain ⟨rfl, rfl⟩ := by simpa using h
        exact .aside trivial
      · obtain ⟨rfl, rfl⟩ := by simpa using h
        rw [hpc]
        exact .aside trivial
  | execute cmd =>
      simp only [hpc] at h
      obtain ⟨rfl, rfl⟩ := by simpa using h
      exact .enter
  | hal cmd call => simp [hpc] at h
  | invalidate out =>
      simp only [hpc] at h
      obtain ⟨rfl, rfl⟩ := by simpa using h
      exact .aside trivial
  | copyResult cmd out i =>
      simp only [hpc] at h
      split_ifs at h
      all_goals
        obtain ⟨rfl, rfl⟩ := by simpa using h
        exact .aside trivial
  | copyCache cmd out i =>
      simp only [hpc] at h
      split_ifs at h
      all_goals
        obtain ⟨rfl, rfl⟩ := by simpa using h
        exact .aside trivial
  | publish cmd out =>
      simp only [hpc] at h
      obtain ⟨rfl, rfl⟩ := by simpa using h
      exact .publish
  | reinit cmd =>
      simp only [hpc] at h
      obtain ⟨rfl, rfl⟩ := by simpa using h
      exact .go
  | reset cmd =>
      simp only [hpc] at h
      split_ifs at h with hf
      · obtain ⟨rfl, rfl⟩ := by simpa using h
        exact .reset hf
      · obtain ⟨rfl, rfl⟩ := by simpa using h
        exact .keep
  | ready =>
      simp only [hpc] at h
      obtain ⟨rfl, rfl⟩ := by simpa using h
      exact .close
  | pumpPass pass =>
      simp only [hpc] at h
      split_ifs at h
      · cases hp : sockPumpPass s.fw.rx with
        | none =>
            simp only [hp] at h
            obtain ⟨rfl, rfl⟩ := by simpa using h
            exact .aside trivial
        | some p =>
            simp only [hp] at h
            obtain ⟨rfl, rfl⟩ := by simpa using h
            exact .aside trivial
      · obtain ⟨rfl, rfl⟩ := by simpa using h
        exact .aside trivial
  | pumpRecv pass idx chunk => simp [hpc] at h
  | pumpFill pass idx chunk data i =>
      simp only [hpc] at h
      split_ifs at h
      all_goals
        obtain ⟨rfl, rfl⟩ := by simpa using h
        exact .aside trivial
  | acceptPush handle event =>
      simp only [hpc] at h
      obtain ⟨rfl, rfl⟩ := by simpa using h
      exact .aside trivial

/-- What a step of the firmware does to the job at hand. -/
theorem sysStep_stage {a : Act η} (h : (system E).step s a = some (s', e)) :
    StageStep a s.pc.stage s'.pc.stage e := by
  change sysStep E s a = _ at h
  cases a with
  | task =>
      simp only [sysStep] at h
      cases hp : s.pending with
      | nil => exact taskStep_stage (by simpa [hp] using h)
      | cons st rest =>
          simp only [hp] at h
          obtain ⟨rfl, rfl⟩ := by simpa using h
          exact .aside trivial
  | ret r =>
      simp only [sysStep, retStep] at h
      cases hpc : s.pc with
      | hal cmd call =>
          simp only [hpc] at h
          split_ifs at h with hr hc
          · obtain ⟨rfl, rfl⟩ := Prod.mk.inj (Option.some.inj h)
            subst hc
            exact .leave
          · obtain ⟨rfl, rfl⟩ := Prod.mk.inj (Option.some.inj h)
            exact .leave
      | _ => simp [hpc] at h
  | pump =>
      simp only [sysStep] at h
      split at h
      · next hpc _ _ =>
        obtain ⟨rfl, rfl⟩ := by simpa using h
        rw [hpc]
        exact .aside trivial
      · simp at h
  | lwip r =>
      simp only [sysStep, lwipStep] at h
      cases hpc : s.pc with
      | pumpRecv pass idx chunk =>
          simp only [hpc] at h
          cases r with
          | data bytes =>
              simp only at h
              split_ifs at h
              obtain ⟨rfl, rfl⟩ := by simpa using h
              exact .aside trivial
          | _ =>
              obtain ⟨rfl, rfl⟩ := by simpa using h
              exact .aside trivial
      | _ => simp [hpc] at h
  | accept listener handle port addr =>
      simp only [sysStep] at h
      cases hpc : s.pc with
      | loop =>
          simp only [hpc] at h
          split_ifs at h with hh
          obtain ⟨rfl, rfl⟩ := by simpa using h
          exact .aside trivial
      | _ => simp [hpc] at h
  | _ =>
      obtain ⟨rfl, rfl⟩ := by simpa [sysStep] using h
      exact .aside trivial

end

/-! ## The machine -/

/-- Where the body or the tail of a job is, as far as the flags go. -/
inductive DrainPc
  | /-- In neither. -/
    away
  | /-- In the body, which has left no flags. -/
    body
  | /-- In `wifi_connect_fail_mark_skip`, at a failure exit of the connect. -/
    failing (pc : HostFramePc)
  | /-- In the body, which has left its flags. -/
    marked
  | /-- The body has returned, and the rule is yet to be applied. -/
    returned
  | /-- Before the role of a started AP is published. -/
    publishing
  | /-- The slave was re-opened or left alone. -/
    settled
  deriving DecidableEq

/-- The flags of the three hand-offs. -/
structure DrainFlags where
  /-- `g_connect_reinit_pending` and `g_connect_reinit_armed`. -/
  connectReinit : Handoff
  /-- `g_rssi_reinit_skip_pending` and `g_rssi_reinit_skip_ok`. -/
  rssiReinitSkip : Handoff
  /-- `g_connect_fail_skip_pending` and `g_connect_fail_skip_ok`. -/
  connectFailSkip : Handoff

/-- The firmware with what the decision about the slave depends on. -/
structure Drain (η : Type) where
  sys : Sys η
  /-- `g_host_txn_count`. -/
  hostTxnCount : UInt32
  wifiStarted : Bool
  flags : DrainFlags
  /-- `rearmed` of `worker_run_pending`. -/
  rearmed : Bool
  pc : DrainPc

/-- What can happen next. -/
inductive DrainAct (η : Type)
  | /-- A step of the firmware. -/
    sys (a : Act η)
  | /-- `cc3501e_hw_notify_reply_sent`. -/
    notifyReplySent
  | /-- `Wlan_Start` succeeds in `cc3501e_hw_wifi_lazy_start`. -/
    wifiStart
  | /-- `cc3501e_hw_wifi_get_rssi` looks at `wifi_started`. -/
    getRssi
  | /-- A connect gets to a failure exit. -/
    connectFail
  | /-- The next call of the wait there, or its return. -/
    wait
  | /-- A connect has re-opened the slave at its success exit. -/
    connectSuccess (armed : Bool)
  | /-- The drain applies the rule; `armed` is what re-opening the slave returns. -/
    settle (armed : Bool)
  | /-- `cc3501e_hw_wifi_ap_role_publish`. -/
    apRolePublish
  | /-- The end of `worker_run_pending`. -/
    finish

/-- What a step shows. -/
inductive DrainEv
  | sys (e : Ev)
  | /-- A reply has drained to its end. -/
    replied
  | wifiStarted
  | /-- An RSSI is about to be read, and whether Wi-Fi is up. -/
    noted (up : Bool)
  | connectFailed
  | wait (c : HostFrameCall)
  | waited (seen : Bool)
  | /-- The body of a connect has re-opened the slave at its success exit. -/
    rearmed (armed : Bool)
  | /-- The drain leaves the slave alone. -/
    left (cmd : Cmd)
  | /-- The drain has re-opened the slave. -/
    reopened (cmd : Cmd) (armed : Bool)
  | rolePublished
  | /-- The job is over, and whether READY was raised. -/
    finished (ready : Bool)
  deriving DecidableEq

/-- In the body of a connect without an SSID, which it refuses at once. -/
def Pc.noSsid : Pc → Bool
  | .hal _ (.wifiConnectSta [] _ _) => true
  | _ => false

namespace Drain

/-- The state after boot, with Wi-Fi started or not. -/
def boot (hal : η) (wifiStarted : Bool) : Drain η where
  sys := .boot hal
  hostTxnCount := 0
  wifiStarted := wifiStarted
  flags :=
    { connectReinit := { pending := false, value := false }
      rssiReinitSkip := { pending := false, value := false }
      connectFailSkip := { pending := false, value := false } }
  rearmed := true
  pc := .away

/-- The stage of the job at hand. -/
def stage (s : Drain η) : JobStage := s.sys.pc.stage

/-- The body may return `r` now.  A connect that was given an SSID leaves one of its flags first,
that of success exactly if it returns OK; a body that reads the RSSI leaves its flag at its
start. -/
def mayReturn (s : Drain η) (r : HalRet) : Bool :=
  match s.stage with
  | .body .wifiConnectSta =>
      if s.sys.pc.noSsid then s.pc = .body && r.rv = hwErrInval
      else s.pc = .marked && decide (r.rv = hwOk) == s.flags.connectReinit.pending
  | .body .wifiGetRssi => s.pc = .marked
  | .body _ => s.pc = .body
  | _ => false

/-- The body may start Wi-Fi now. -/
def mayStart (s : Drain η) : Bool :=
  match s.stage with
  | .body cmd =>
      cmd.lazyStarts && !s.wifiStarted && s.pc = if cmd = .wifiGetRssi then .marked else .body
  | _ => false

/-- The firmware can take such a step now.  The task goes on after the publication when the slave is
settled, and its last step is `finish`. -/
def admits (s : Drain η) : Act η → Bool
  | .ret r => s.mayReturn r
  | .task =>
      match s.stage with
      | .reinit _ => s.pc = .settled
      | .ready => false
      | _ => true
  | _ => true

/-- The state after a step of the firmware. -/
def after (s : Drain η) (sys : Sys η) : Ev → Drain η
  | .exec _ _ => { s with sys := sys, rearmed := true, pc := .body }
  | .ret _ _ _ => { s with sys := sys, pc := .returned }
  | _ => { s with sys := sys }

/-- The rule of `worker_run_pending`: the flags are taken, and the slave is left alone or
re-opened. -/
def settle (s : Drain η) (cmd : Cmd) (armed : Bool) : Drain η × DrainEv :=
  let connect := s.flags.connectReinit.takeIf (cmd = .wifiConnectSta)
  let rssi := s.flags.rssiReinitSkip.takeIf (cmd = .wifiGetRssi)
  let fail := s.flags.connectFailSkip.takeIf (cmd = .wifiConnectSta)
  let s' := { s with
    flags :=
      { connectReinit := connect.2, rssiReinitSkip := rssi.2, connectFailSkip := fail.2 }
    rearmed := connect.1.getD s.rearmed
    pc := if cmd = .wifiApStart then .publishing else .settled }
  if cmd.skipsReinit ∨ connect.1 ≠ none ∨ rssi.1 = some true ∨ fail.1 = some true then
    (s', .left cmd)
  else ({ s' with rearmed := armed }, .reopened cmd armed)

end Drain

/-- One step. -/
def drainStep (E : Env η) (s : Drain η) : DrainAct η → Option (Drain η × DrainEv)
  | .sys a =>
      if s.admits a then (sysStep E s.sys a).map fun r => (s.after r.1 r.2, .sys r.2) else none
  | .notifyReplySent =>
      let count := s.hostTxnCount
      some ({ s with hostTxnCount := if count ≠ 0xFFFFFFFF then count + 1 else count }, .replied)
  | .wifiStart =>
      if s.mayStart then some ({ s with wifiStarted := true }, .wifiStarted) else none
  | .getRssi =>
      if s.stage = .body .wifiGetRssi ∧ s.pc = .body then
        some ({ s with
            flags := { s.flags with rssiReinitSkip := .leave s.wifiStarted }
            pc := .marked }, .noted s.wifiStarted)
      else none
  | .connectFail =>
      if s.stage = .body .wifiConnectSta ∧ s.pc = .body ∧ s.sys.pc.noSsid = false then
        some ({ s with pc := .failing .start }, .connectFailed)
      else none
  | .wait =>
      match s.pc with
      | .failing (.ret seen) =>
          some ({ s with
              flags := { s.flags with connectFailSkip := .leave seen }
              pc := .marked }, .waited seen)
      | .failing pc =>
          ((waitHostFrame connectFailSkipWindowMs connectFailSkipStepMs).step pc s.hostTxnCount).map
            fun r => ({ s with pc := .failing r.1 }, .wait r.2)
      | _ => none
  | .connectSuccess armed =>
      if s.stage = .body .wifiConnectSta ∧ s.pc = .body ∧ s.sys.pc.noSsid = false then
        some ({ s with
            flags := { s.flags with connectReinit := .leave armed }
            pc := .marked }, .rearmed armed)
      else none
  | .settle armed =>
      match s.stage with
      | .reinit cmd => if s.pc = .returned then some (s.settle cmd armed) else none
      | _ => none
  | .apRolePublish =>
      if s.pc = .publishing then some ({ s with pc := .settled }, .rolePublished) else none
  | .finish =>
      if s.stage = .ready ∧ s.sys.pending = [] then
        some ({ s with sys := { s.sys with pc := .loop }, pc := .away }, .finished s.rearmed)
      else none

/-- The drain and the interrupt, with the slave in view. -/
def drainSystem (E : Env η) : Machine (Drain η) (DrainAct η) DrainEv where
  step := drainStep E

/-! ## What a history tells -/

/-- What there is to know of the job at hand and of the wait in it. -/
structure DrainAccount where
  /-- The replies since boot. -/
  replies : Nat := 0
  /-- Whether Wi-Fi is up. -/
  up : Bool
  /-- Whether it was when the body was entered. -/
  upAtEntry : Bool := false
  /-- The calls of the wait. -/
  calls : List HostFrameCall := []
  /-- The replies there had been at each of its looks at the count. -/
  looks : List Nat := []
  /-- The body has re-opened the slave, and whether that armed it. -/
  rearmed : Option Bool := none
  noted : Option Bool := none
  waited : Option Bool := none
  /-- The opcode, once the outcome is published. -/
  published : Option Cmd := none
  /-- Whether the drain has re-opened the slave or left it alone. -/
  settled : Option Bool := none
  /-- What the last of these attempts to re-open the slave has come to. -/
  armed : Bool := true

/-- The account of one more event. -/
def DrainAccount.note (A : DrainAccount) : DrainEv → DrainAccount
  | .sys (.exec _ _) => { replies := A.replies, up := A.up, upAtEntry := A.up }
  | .sys (.publish _ cmd) => { A with published := some cmd }
  | .replied => { A with replies := A.replies + 1 }
  | .wifiStarted => { A with up := true }
  | .noted up => { A with noted := some up }
  | .wait c =>
      { A with
        calls := A.calls ++ [c]
        looks := A.looks ++ if c.isSleep then [] else [A.replies] }
  | .waited seen => { A with waited := some seen }
  | .rearmed armed => { A with rearmed := some armed, armed := armed }
  | .left _ => { A with settled := some false }
  | .reopened _ armed => { A with settled := some true, armed := armed }
  | _ => A

/-- The account of a history after a boot, with Wi-Fi up or not. -/
def drainAccount (up : Bool) (tr : List DrainEv) : DrainAccount :=
  tr.foldl DrainAccount.note { up := up }

@[simp] theorem drainAccount_snoc (up : Bool) (tr : List DrainEv) (e : DrainEv) :
    drainAccount up (tr ++ [e]) = (drainAccount up tr).note e := by simp [drainAccount]

/-- The count of `n` replies, which stays at its largest value. -/
def saturated (n : Nat) : UInt32 := UInt32.ofNat (min n 0xFFFFFFFF)

/-- A frame was served between the first look of the wait and a later one, and the count could still
tell. -/
def DrainAccount.FrameServed (A : DrainAccount) : Prop :=
  ∃ n ns, A.looks = n :: ns ∧ n < 0xFFFFFFFF ∧ ∃ n' ∈ ns, n < n'

/-- The slave is to be left alone after this job. -/
def DrainAccount.Spared (A : DrainAccount) (cmd : Cmd) : Prop :=
  cmd.skipsReinit = true ∨
    cmd = .wifiConnectSta ∧ (A.rearmed ≠ none ∨ A.waited = some true) ∨
    cmd = .wifiGetRssi ∧ A.noted = some true

/-- What an event says, after what the account tells. -/
def DrainAccount.Justifies (A : DrainAccount) : DrainEv → Prop
  | .noted up => up = A.upAtEntry
  | .wait (.count n) => n = saturated A.replies
  | .wait (.sleep ms) => ms = 10 ∧ frameSleeps A.calls < 15
  | .waited seen => seen = true ↔ A.FrameServed
  | .left cmd => A.published = some cmd ∧ A.settled = none ∧ A.Spared cmd
  | .reopened cmd _ => A.published = some cmd ∧ A.settled = none ∧ ¬ A.Spared cmd
  | .rolePublished => A.published = some .wifiApStart ∧ A.settled = some true
  | .sys .reset => ∃ cmd, A.published = some cmd ∧ fireAndForget cmd = true ∧ A.settled ≠ none
  | .finished ready => A.settled ≠ none ∧ ready = A.armed
  | _ => True

/-! ## The invariant -/

/-- No flag is pending. -/
structure DrainFlags.Clear (F : DrainFlags) : Prop where
  connect : F.connectReinit.get = none
  rssi : F.rssiReinitSkip.get = none
  fail : F.connectFailSkip.get = none

/-- The flags that a job for `cmd` has left are those the account tells of. -/
structure DrainFlags.Marked (F : DrainFlags) (cmd : Cmd) (A : DrainAccount) : Prop where
  connect : F.connectReinit.get = A.rearmed
  rssi : F.rssiReinitSkip.get = A.noted
  fail : F.connectFailSkip.get = A.waited
  ofConnect : cmd ≠ .wifiConnectSta → A.rearmed = none ∧ A.waited = none
  ofRssi : cmd ≠ .wifiGetRssi → A.noted = none
  unsettled : A.settled = none

/-- The body has left nothing and seen nothing. -/
structure DrainAccount.Fresh (A : DrainAccount) : Prop where
  rearmed : A.rearmed = none
  noted : A.noted = none
  waited : A.waited = none
  calls : A.calls = []
  looks : A.looks = []
  settled : A.settled = none

/-- What holds where. -/
def DrainAt (A : DrainAccount) (st : JobStage) (F : DrainFlags) : DrainPc → Prop
  | .away => st = .outside ∧ F.Clear
  | .body => F.Clear ∧ A.Fresh ∧ ∃ cmd, st = .body cmd ∧ (cmd = .wifiGetRssi → A.up = A.upAtEntry)
  | .failing pc =>
      F.Clear ∧ st = .body .wifiConnectSta ∧ A.rearmed = none ∧ A.noted = none ∧
        A.waited = none ∧ A.settled = none ∧
        HostFrameAt connectFailSkipWindowMs connectFailSkipStepMs A.calls pc ∧
        frameCounts A.calls = A.looks.map saturated
  | .marked => ∃ cmd, st = .body cmd ∧ F.Marked cmd A
  | .returned =>
      ∃ cmd, (st = .leaving cmd ∨ st = .reinit cmd ∧ A.published = some cmd) ∧ F.Marked cmd A
  | .publishing =>
      F.Clear ∧ st = .reinit .wifiApStart ∧ A.published = some .wifiApStart ∧ A.settled = some true
  | .settled =>
      F.Clear ∧ A.settled ≠ none ∧
        ((∃ cmd, (st = .reinit cmd ∨ st = .reset cmd) ∧ A.published = some cmd) ∨ st = .ready)

/-- The state is as the account tells. -/
structure DrainInv (A : DrainAccount) (s : Drain η) : Prop where
  count : s.hostTxnCount = saturated A.replies
  up : s.wifiStarted = A.up
  armed : A.armed = s.flags.connectReinit.get.getD s.rearmed
  sorted : A.looks.Pairwise (· ≤ ·)
  bounded : ∀ n ∈ A.looks, n ≤ A.replies
  place : DrainAt A s.stage s.flags s.pc

section

variable {A : DrainAccount} {F : DrainFlags} {st st' : JobStage} {pc : DrainPc} {cmd : Cmd}
  {E : Env η} {s s' : Drain η} {e : DrainEv} {m n : Nat}

theorem toNat_saturated (n : Nat) : (saturated n).toNat = min n 0xFFFFFFFF := by
  rw [saturated, UInt32.toNat_ofNat', Nat.mod_eq_of_lt (by omega)]

/-- One more reply. -/
theorem saturated_succ (n : Nat) :
    (if saturated n ≠ 0xFFFFFFFF then saturated n + 1 else saturated n) = saturated (n + 1) := by
  have hn := toNat_saturated n
  have hmax : (0xFFFFFFFF : UInt32).toNat = 0xFFFFFFFF := rfl
  refine UInt32.toNat_inj.mp ?_
  rw [toNat_saturated]
  split_ifs with h
  · rw [Ne, ← UInt32.toNat_inj, hn, hmax] at h
    have hone : (1 : UInt32).toNat = 1 := rfl
    rw [UInt32.toNat_add, hn, hone, Nat.mod_eq_of_lt (by omega)]
    omega
  · rw [not_not, ← UInt32.toNat_inj, hn, hmax] at h
    omega

/-- The count tells a later moment from an earlier one. -/
theorem saturated_ne_iff (h : m ≤ n) : saturated n ≠ saturated m ↔ m < 0xFFFFFFFF ∧ m < n := by
  rw [Ne, ← UInt32.toNat_inj, toNat_saturated, toNat_saturated]
  omega

theorem DrainFlags.Clear.marked (hF : F.Clear) (hA : A.Fresh) : F.Marked cmd A where
  connect := hF.connect.trans hA.rearmed.symm
  rssi := hF.rssi.trans hA.noted.symm
  fail := hF.fail.trans hA.waited.symm
  ofConnect _ := ⟨hA.rearmed, hA.waited⟩
  ofRssi _ := hA.noted
  unsettled := hA.settled

/-- Replies do not move the job. -/
theorem DrainAt.replied (h : DrainAt A st F pc) (n : Nat) :
    DrainAt { A with replies := n } st F pc := by
  cases pc with
  | body =>
      obtain ⟨hF, hA, hrest⟩ := h
      exact ⟨hF, { hA with }, hrest⟩
  | marked =>
      obtain ⟨cmd, hst, hM⟩ := h
      exact ⟨cmd, hst, { hM with }⟩
  | returned =>
      obtain ⟨cmd, hst, hM⟩ := h
      exact ⟨cmd, hst, { hM with }⟩
  | away | failing | publishing | settled => exact h

/-- A body other than that of `WIFI_GET_RSSI`, or that one after its look, may start Wi-Fi. -/
theorem DrainAt.started (h : DrainAt A st F pc) (hst : st = .body cmd)
    (hpc : pc = if cmd = .wifiGetRssi then .marked else .body) :
    DrainAt { A with up := true } st F pc := by
  subst hst
  by_cases hc : cmd = .wifiGetRssi
  · rw [if_pos hc] at hpc
    subst hpc
    obtain ⟨cmd', hst, hM⟩ := h
    exact ⟨cmd', hst, { hM with }⟩
  · rw [if_neg hc] at hpc
    subst hpc
    obtain ⟨hF, hA, cmd', hst, -⟩ := h
    obtain rfl : cmd = cmd' := by simpa using hst
    exact ⟨hF, { hA with }, cmd, rfl, fun h => absurd h hc⟩

/-- The place that a stage asks for, where there is only one. -/
def JobStage.place? : JobStage → Option DrainPc
  | .outside => some .away
  | .leaving _ => some .returned
  | .reset _ | .ready => some .settled
  | .body _ | .reinit _ => none

theorem DrainAt.place (h : DrainAt A st F pc) {pc' : DrainPc} (hst : st.place? = some pc') :
    pc = pc' := by
  cases pc with
  | away =>
      obtain ⟨rfl, -⟩ := h
      exact Option.some.inj hst
  | body =>
      obtain ⟨-, -, cmd, rfl, -⟩ := h
      simp [JobStage.place?] at hst
  | failing =>
      obtain ⟨-, rfl, -⟩ := h
      simp [JobStage.place?] at hst
  | marked =>
      obtain ⟨cmd, rfl, -⟩ := h
      simp [JobStage.place?] at hst
  | returned =>
      obtain ⟨cmd, rfl | ⟨rfl, -⟩, -⟩ := h
      · exact Option.some.inj hst
      · simp [JobStage.place?] at hst
  | publishing =>
      obtain ⟨-, rfl, -⟩ := h
      simp [JobStage.place?] at hst
  | settled =>
      obtain ⟨-, -, ⟨cmd, rfl | rfl, -⟩ | rfl⟩ := h
      · simp [JobStage.place?] at hst
      · exact Option.some.inj hst
      · exact Option.some.inj hst

end

/-! ## One step -/

section

variable {A : DrainAccount} {cmd : Cmd} {E : Env η} {s s' : Drain η} {e : DrainEv}

/-- The wait has seen the count move exactly if a frame was served that the count could tell. -/
theorem waited_iff {windowMs stepMs : UInt32} {seen : Bool}
    (h : HostFrameAt windowMs stepMs A.calls (.ret seen))
    (hcounts : frameCounts A.calls = A.looks.map saturated) (hs : A.looks.Pairwise (· ≤ ·)) :
    seen = true ↔ A.FrameServed := by
  obtain ⟨b, ns, hb, hseen⟩ := h
  obtain ⟨n, ms, hlooks, rfl, rfl⟩ := List.map_eq_cons_iff.mp (hcounts.symm.trans hb)
  rw [hlooks, List.pairwise_cons] at hs
  rw [hseen]
  constructor
  · rintro ⟨k, hk, hne⟩
    obtain ⟨m, hm, rfl⟩ := List.mem_map.mp hk
    obtain ⟨hmax, hlt⟩ := (saturated_ne_iff (hs.1 m hm)).mp hne
    exact ⟨n, ms, hlooks, hmax, m, hm, hlt⟩
  · rintro ⟨n', ms', hlooks', hmax, m, hm, hlt⟩
    obtain ⟨rfl, rfl⟩ : n = n' ∧ ms = ms' := by simpa using hlooks.symm.trans hlooks'
    exact ⟨_, List.mem_map_of_mem hm, (saturated_ne_iff (Nat.le_of_lt hlt)).mpr ⟨hmax, hlt⟩⟩

/-- A look or a sleep of the wait. -/
theorem DrainInv.wait_step (h : DrainInv A s) {pc pc' : HostFramePc} {c : HostFrameCall}
    (hpc : s.pc = .failing pc)
    (hs : (waitHostFrame connectFailSkipWindowMs connectFailSkipStepMs).step pc s.hostTxnCount =
      some (pc', c)) :
    DrainInv (A.note (.wait c)) { s with pc := .failing pc' } ∧ A.Justifies (.wait c) := by
  have hplace := h.place
  rw [hpc] at hplace
  obtain ⟨hF, hst, hre, hno, hwa, hse, hat, hcounts⟩ := hplace
  have hat' := hat.step (by decide) hs
  cases c with
  | count n =>
      have hn : n = saturated A.replies := by
        rw [← h.count]
        cases pc with
        | start =>
            obtain ⟨-, hc⟩ := by simpa [waitHostFrame] using hs
            exact hc.symm
        | sample b el =>
            obtain ⟨-, hc⟩ := by simpa [waitHostFrame] using hs
            exact hc.symm
        | sleep b el => simp [waitHostFrame] at hs
        | ret seen => simp [waitHostFrame] at hs
      refine ⟨⟨h.count, h.up, h.armed, ?_, ?_, hF, hst, hre, hno, hwa, hse, hat', ?_⟩, hn⟩
      · change (A.looks ++ [A.replies]).Pairwise (· ≤ ·)
        refine List.pairwise_append.mpr ⟨h.sorted, List.pairwise_singleton _ _, ?_⟩
        intro m hm k hk
        obtain rfl : k = A.replies := by simpa using hk
        exact h.bounded m hm
      · intro m hm
        change m ∈ A.looks ++ [A.replies] at hm
        rcases List.mem_append.mp hm with hm | hm
        · exact h.bounded m hm
        · obtain rfl : m = A.replies := by simpa using hm
          exact Nat.le_refl _
      · change frameCounts (A.calls ++ [.count n]) = (A.looks ++ [A.replies]).map saturated
        rw [frameCounts_snoc, hcounts, List.map_append, hn]
        rfl
  | sleep ms =>
      have hlooks : (A.note (.wait (.sleep ms))).looks = A.looks := by
        simp [DrainAccount.note, HostFrameCall.isSleep]
      refine ⟨⟨h.count, h.up, h.armed, ?_, ?_, hF, hst, hre, hno, hwa, hse, hat', ?_⟩, ?_⟩
      · rw [hlooks]
        exact h.sorted
      · rw [hlooks]
        exact h.bounded
      · rw [hlooks]
        change frameCounts (A.calls ++ [.sleep ms]) = _
        rw [frameCounts_snoc, hcounts]
        simp [HostFrameCall.count?]
      · cases pc with
        | sleep b el =>
            have hlt := hat.sleep_lt
            have hw : connectFailSkipWindowMs.toNat = 150 := rfl
            have hstep : connectFailSkipStepMs.toNat = 10 := rfl
            rw [hw, hstep] at hlt
            obtain ⟨-, hms⟩ := by simpa [waitHostFrame] using hs
            exact ⟨hms.symm, by omega⟩
        | start => simp [waitHostFrame] at hs
        | sample => simp [waitHostFrame] at hs
        | ret => simp [waitHostFrame] at hs

/-- The wait returns, and its flag is left. -/
theorem DrainInv.wait_done (h : DrainInv A s) {seen : Bool}
    (hpc : s.pc = .failing (.ret seen)) :
    DrainInv (A.note (.waited seen))
        { s with
          flags := { s.flags with connectFailSkip := .leave seen }
          pc := .marked } ∧
      A.Justifies (.waited seen) := by
  have hplace := h.place
  rw [hpc] at hplace
  obtain ⟨hF, hst, hre, hno, hwa, hse, hat, hcounts⟩ := hplace
  refine ⟨⟨h.count, h.up, h.armed, h.sorted, h.bounded, .wifiConnectSta, hst, ?_⟩,
    waited_iff hat hcounts h.sorted⟩
  exact ⟨hF.connect.trans hre.symm, hF.rssi.trans hno.symm, rfl,
    fun hne => absurd rfl hne, fun _ => hno, hse⟩

/-- The drain applies the rule. -/
theorem DrainInv.settle_step (h : DrainInv A s) (armed : Bool) (hst : s.stage = .reinit cmd)
    (hpc : s.pc = .returned) :
    DrainInv (A.note (s.settle cmd armed).2) (s.settle cmd armed).1 ∧
      A.Justifies (s.settle cmd armed).2 := by
  have hplace := h.place
  rw [hst, hpc] at hplace
  obtain ⟨cmd', hstage, hM⟩ := hplace
  obtain ⟨rfl, hpub⟩ : cmd = cmd' ∧ A.published = some cmd' := by simpa using hstage
  obtain ⟨hc₁, hc₂⟩ := s.flags.connectReinit.takeIf_spec (c := decide (cmd = .wifiConnectSta))
    fun hc => hM.connect.trans (hM.ofConnect (by simpa using hc)).1
  obtain ⟨hr₁, hr₂⟩ := s.flags.rssiReinitSkip.takeIf_spec (c := decide (cmd = .wifiGetRssi))
    fun hc => hM.rssi.trans (hM.ofRssi (by simpa using hc))
  obtain ⟨hf₁, hf₂⟩ := s.flags.connectFailSkip.takeIf_spec (c := decide (cmd = .wifiConnectSta))
    fun hc => hM.fail.trans (hM.ofConnect (by simpa using hc)).2
  have hclear : DrainFlags.Clear
      { connectReinit := (s.flags.connectReinit.takeIf (cmd = .wifiConnectSta)).2
        rssiReinitSkip := (s.flags.rssiReinitSkip.takeIf (cmd = .wifiGetRssi)).2
        connectFailSkip := (s.flags.connectFailSkip.takeIf (cmd = .wifiConnectSta)).2 } :=
    ⟨hc₂, hr₂, hf₂⟩
  -- only a job of the right opcode has left anything, so the rule need not ask for it again
  have hrule : (cmd.skipsReinit = true ∨
      (s.flags.connectReinit.takeIf (cmd = .wifiConnectSta)).1 ≠ none ∨
      (s.flags.rssiReinitSkip.takeIf (cmd = .wifiGetRssi)).1 = some true ∨
      (s.flags.connectFailSkip.takeIf (cmd = .wifiConnectSta)).1 = some true) ↔ A.Spared cmd := by
    rw [hc₁, hr₁, hf₁, hM.connect, hM.rssi, hM.fail, DrainAccount.Spared]
    by_cases hcon : cmd = .wifiConnectSta
    · have hno := hM.ofRssi (by simp [hcon])
      simp [hcon, hno]
    · obtain ⟨hre, hwa⟩ := hM.ofConnect hcon
      by_cases hrssi : cmd = .wifiGetRssi
      · simp [hrssi, hre, hwa]
      · simp [hcon, hrssi, hre, hwa, hM.ofRssi hrssi]
  by_cases hsp : A.Spared cmd
  · have hne : cmd ≠ .wifiApStart := by
      rintro rfl
      simp [DrainAccount.Spared, Cmd.skipsReinit] at hsp
    have heq : s.settle cmd armed = _ := if_pos (hrule.mpr hsp)
    rw [heq]
    refine ⟨⟨h.count, h.up, ?_, h.sorted, h.bounded, ?_⟩, hpub, hM.unsettled, hsp⟩
    · change A.armed = Option.getD (Handoff.get _) _
      rw [hc₂, hc₁]
      exact h.armed
    · simp only [if_neg hne]
      exact ⟨hclear, by simp [DrainAccount.note], .inl ⟨cmd, .inl hst, hpub⟩⟩
  · have heq : s.settle cmd armed = _ := if_neg fun hc => hsp (hrule.mp hc)
    rw [heq]
    refine ⟨⟨h.count, h.up, ?_, h.sorted, h.bounded, ?_⟩, hpub, hM.unsettled, hsp⟩
    · change armed = Option.getD (Handoff.get _) _
      rw [hc₂]
      rfl
    · by_cases hap : cmd = .wifiApStart
      · subst hap
        exact ⟨hclear, hst, hpub, rfl⟩
      · simp only [if_neg hap]
        exact ⟨hclear, by simp [DrainAccount.note], .inl ⟨cmd, .inl hst, hpub⟩⟩

theorem Drain.mayReturn_pc {r : HalRet} (h : s.mayReturn r = true) :
    s.pc = .body ∨ s.pc = .marked := by
  unfold Drain.mayReturn at h
  split at h
  · split_ifs at h
    · exact .inl (by simp only [Bool.and_eq_true, decide_eq_true_eq] at h; exact h.1)
    · exact .inr (by simp only [Bool.and_eq_true, decide_eq_true_eq] at h; exact h.1)
  · exact .inr (by simpa using h)
  · exact .inl (by simpa using h)
  · simp at h

/-- A step of the firmware. -/
theorem DrainInv.sys_step (h : DrainInv A s) {a : Act η} {sys : Sys η} {ev : Ev}
    (had : s.admits a = true) (hs : (system E).step s.sys a = some (sys, ev)) :
    DrainInv (A.note (.sys ev)) (s.after sys ev) ∧ A.Justifies (.sys ev) := by
  have hstep := sysStep_stage hs
  have hplace := h.place
  -- where the job was and where it is now decide which clauses of `DrainAt` are at hand
  generalize hfrom : s.sys.pc.stage = st₀ at hstep
  generalize hto : sys.pc.stage = st₁ at hstep
  rw [show s.stage = st₀ from hfrom] at hplace
  cases hstep with
  | aside he =>
      have hsame : A.note (.sys ev) = A ∧ s.after sys ev = { s with sys := sys } ∧
          A.Justifies (.sys ev) := by
        cases ev with
        | exec | ret | publish | reset => exact he.elim
        | dispatch | promote | issued | lwipRecv | tau => exact ⟨rfl, rfl, trivial⟩
      obtain ⟨hnote, hafter, hj⟩ := hsame
      rw [hnote, hafter]
      refine ⟨⟨h.count, h.up, h.armed, h.sorted, h.bounded, ?_⟩, hj⟩
      rw [show Drain.stage { s with sys := sys } = st₀ from hto]
      exact hplace
  | @enter cmd t call =>
      have hpc := hplace.place rfl
      rw [hpc] at hplace
      refine ⟨⟨h.count, h.up, ?_, .nil, by simp [DrainAccount.note], hplace.2,
        ⟨rfl, rfl, rfl, rfl, rfl, rfl⟩, cmd, hto, fun _ => rfl⟩, trivial⟩
      change true = Option.getD s.flags.connectReinit.get true
      rw [hplace.2.connect]
      rfl
  | @leave cmd t call r =>
      refine ⟨⟨h.count, h.up, h.armed, h.sorted, h.bounded, cmd, .inl hto, ?_⟩, trivial⟩
      rcases Drain.mayReturn_pc had with hpc | hpc
      · rw [hpc] at hplace
        exact hplace.1.marked hplace.2.1
      · rw [hpc] at hplace
        obtain ⟨cmd', hcmd, hM⟩ := hplace
        obtain rfl : cmd = cmd' := by simpa using hcmd
        exact hM
  | @publish cmd t =>
      have hpc := hplace.place rfl
      rw [hpc] at hplace
      obtain ⟨cmd', hst, hM⟩ := hplace
      obtain rfl : cmd = cmd' := by simpa using hst
      refine ⟨⟨h.count, h.up, h.armed, h.sorted, h.bounded, ?_⟩, trivial⟩
      change DrainAt _ sys.pc.stage s.flags s.pc
      rw [hpc]
      exact ⟨cmd, .inr ⟨hto, rfl⟩, { hM with }⟩
  | @go cmd =>
      have hpc : s.pc = .settled := by
        simpa [Drain.admits, show s.stage = .reinit cmd from hfrom] using had
      rw [hpc] at hplace
      obtain ⟨hF, hse, ⟨cmd', hst, hpub⟩ | hst⟩ := hplace
      · obtain rfl : cmd = cmd' := by simpa using hst
        refine ⟨⟨h.count, h.up, h.armed, h.sorted, h.bounded, ?_⟩, trivial⟩
        change DrainAt A sys.pc.stage s.flags s.pc
        rw [hpc]
        exact ⟨hF, hse, .inl ⟨cmd, .inr hto, hpub⟩⟩
      · simp at hst
  | @reset cmd hf =>
      have hpc := hplace.place rfl
      rw [hpc] at hplace
      obtain ⟨hF, hse, ⟨cmd', hst, hpub⟩ | hst⟩ := hplace
      · obtain rfl : cmd = cmd' := by simpa using hst
        refine ⟨⟨h.count, h.up, h.armed, h.sorted, h.bounded, ?_⟩, cmd, hpub, hf, hse⟩
        change DrainAt A sys.pc.stage s.flags s.pc
        rw [hpc]
        exact ⟨hF, hse, .inr hto⟩
      · simp at hst
  | @keep cmd =>
      have hpc := hplace.place rfl
      rw [hpc] at hplace
      refine ⟨⟨h.count, h.up, h.armed, h.sorted, h.bounded, ?_⟩, trivial⟩
      change DrainAt A sys.pc.stage s.flags s.pc
      rw [hpc]
      exact ⟨hplace.1, hplace.2.1, .inr hto⟩
  | close => simp [Drain.admits, show s.stage = .ready from hfrom] at had

/-- Every step keeps the account, and shows what it justifies. -/
theorem DrainInv.step (h : DrainInv A s) {a : DrainAct η}
    (hs : (drainSystem E).step s a = some (s', e)) : DrainInv (A.note e) s' ∧ A.Justifies e := by
  change drainStep E s a = _ at hs
  cases a with
  | sys a =>
      simp only [drainStep] at hs
      split_ifs at hs with had
      obtain ⟨⟨sys, ev⟩, hstep, heq⟩ := Option.map_eq_some_iff.mp hs
      obtain ⟨rfl, rfl⟩ := Prod.mk.inj heq
      exact h.sys_step had hstep
  | notifyReplySent =>
      obtain ⟨rfl, rfl⟩ := Prod.mk.inj (Option.some.inj hs)
      refine ⟨⟨?_, h.up, h.armed, h.sorted, fun n hn => ?_, h.place.replied _⟩, trivial⟩
      · change (if s.hostTxnCount ≠ _ then s.hostTxnCount + 1 else s.hostTxnCount) = _
        rw [h.count]
        exact saturated_succ A.replies
      · exact Nat.le_succ_of_le (h.bounded n hn)
  | wifiStart =>
      simp only [drainStep] at hs
      split_ifs at hs with hmay
      obtain ⟨rfl, rfl⟩ := Prod.mk.inj (Option.some.inj hs)
      refine ⟨⟨h.count, rfl, h.armed, h.sorted, h.bounded, ?_⟩, trivial⟩
      unfold Drain.mayStart at hmay
      split at hmay
      · next cmd hst =>
        simp only [Bool.and_eq_true, decide_eq_true_eq] at hmay
        exact h.place.started hst hmay.2
      · simp at hmay
  | getRssi =>
      simp only [drainStep] at hs
      split_ifs at hs with hg
      obtain ⟨rfl, rfl⟩ := Prod.mk.inj (Option.some.inj hs)
      have hplace := h.place
      rw [hg.1, hg.2] at hplace
      obtain ⟨hF, hA, cmd, hcmd, hup⟩ := hplace
      obtain rfl : Cmd.wifiGetRssi = cmd := by simpa using hcmd
      refine ⟨⟨h.count, h.up, h.armed, h.sorted, h.bounded, .wifiGetRssi, hg.1, ?_⟩,
        h.up.trans (hup rfl)⟩
      exact ⟨hF.connect.trans hA.rearmed.symm, rfl, hF.fail.trans hA.waited.symm,
        fun _ => ⟨hA.rearmed, hA.waited⟩, fun hne => absurd rfl hne, hA.settled⟩
  | connectFail =>
      simp only [drainStep] at hs
      split_ifs at hs with hg
      obtain ⟨rfl, rfl⟩ := Prod.mk.inj (Option.some.inj hs)
      have hplace := h.place
      rw [hg.2.1] at hplace
      obtain ⟨hF, hA, -⟩ := hplace
      refine ⟨⟨h.count, h.up, h.armed, h.sorted, h.bounded, hF, hg.1, hA.rearmed, hA.noted,
        hA.waited, hA.settled, hA.calls, ?_⟩, trivial⟩
      change frameCounts A.calls = A.looks.map saturated
      rw [hA.calls, hA.looks]
      rfl
  | wait =>
      cases hpc : s.pc with
      | failing pc =>
          by_cases hret : ∃ seen, pc = .ret seen
          · obtain ⟨seen, rfl⟩ := hret
            simp only [drainStep, hpc, Option.some.injEq, Prod.mk.injEq] at hs
            obtain ⟨rfl, rfl⟩ := hs
            exact h.wait_done hpc
          · have hs' : ((waitHostFrame connectFailSkipWindowMs connectFailSkipStepMs).step pc
                s.hostTxnCount).map (fun r => ({ s with pc := .failing r.1 }, DrainEv.wait r.2)) =
                some (s', e) := by
              cases pc with
              | ret seen => exact absurd ⟨seen, rfl⟩ hret
              | start | sleep | sample => simpa only [drainStep, hpc] using hs
            obtain ⟨⟨pc', c⟩, hstep, heq⟩ := Option.map_eq_some_iff.mp hs'
            obtain ⟨rfl, rfl⟩ := Prod.mk.inj heq
            exact h.wait_step hpc hstep
      | away | body | marked | returned | publishing | settled => simp [drainStep, hpc] at hs
  | connectSuccess armed =>
      simp only [drainStep] at hs
      split_ifs at hs with hg
      obtain ⟨rfl, rfl⟩ := Prod.mk.inj (Option.some.inj hs)
      have hplace := h.place
      rw [hg.2.1] at hplace
      obtain ⟨hF, hA, -⟩ := hplace
      refine ⟨⟨h.count, h.up, rfl, h.sorted, h.bounded, .wifiConnectSta, hg.1, ?_⟩, trivial⟩
      exact ⟨rfl, hF.rssi.trans hA.noted.symm, hF.fail.trans hA.waited.symm,
        fun hne => absurd rfl hne, fun _ => hA.noted, hA.settled⟩
  | settle armed =>
      simp only [drainStep] at hs
      split at hs
      · next cmd hst =>
        split_ifs at hs with hpc
        have hpair := Option.some.inj hs
        have hkept := h.settle_step armed hst hpc
        rwa [hpair] at hkept
      · simp at hs
  | apRolePublish =>
      simp only [drainStep] at hs
      split_ifs at hs with hpc
      obtain ⟨rfl, rfl⟩ := Prod.mk.inj (Option.some.inj hs)
      have hplace := h.place
      rw [hpc] at hplace
      obtain ⟨hF, hst, hpub, hse⟩ := hplace
      refine ⟨⟨h.count, h.up, h.armed, h.sorted, h.bounded, hF, ?_, .inl ⟨_, .inl hst, hpub⟩⟩,
        hpub, hse⟩
      change A.settled ≠ none
      simp [hse]
  | finish =>
      simp only [drainStep] at hs
      split_ifs at hs with hg
      obtain ⟨rfl, rfl⟩ := Prod.mk.inj (Option.some.inj hs)
      have hplace := h.place
      rw [hg.1] at hplace
      have hpc := hplace.place rfl
      rw [hpc] at hplace
      refine ⟨⟨h.count, h.up, h.armed, h.sorted, h.bounded, rfl, hplace.1⟩, hplace.2.1, ?_⟩
      rw [h.armed, hplace.1.connect]
      rfl

end

/-! ## Runs -/

section

variable {E : Env η} {hal : η} {up : Bool} {s s' s₀ : Drain η} {e : DrainEv} {tr : List DrainEv}

theorem drainInv_boot (hal : η) (up : Bool) : DrainInv (drainAccount up []) (.boot hal up) where
  count := rfl
  up := rfl
  armed := rfl
  sorted := .nil
  bounded _ hn := absurd hn List.not_mem_nil
  place := ⟨rfl, rfl, rfl, rfl⟩

/-- The drain re-opens the slave where it must and nowhere else.  In every interleaving of the task
with replies, requests and everything else, after a job whose outcome is published the slave is
left alone exactly if the opcode says so, the connect has re-opened it itself or has seen a frame
served in its wait, or the RSSI was read with Wi-Fi up since before the body; the wait is never
fooled by the count, nor longer than 150 ms; a fire-and-forget job's slot and the READY line come
after that, READY exactly if the last of these attempts to re-open the slave, if there was any, has
armed it. -/
theorem drain_reopens_exact (hr : (drainSystem E).Run (.boot hal up) tr s) :
    Justified (fun tr e => (drainAccount up tr).Justifies e) tr := by
  refine (hr.invariant (P := fun tr s => DrainInv (drainAccount up tr) s ∧
    Justified (fun tr e => (drainAccount up tr).Justifies e) tr)
    ⟨drainInv_boot hal up, justified_nil⟩ ?_).2
  rintro tr s a s' e ⟨hinv, hj⟩ hs
  obtain ⟨hinv', he⟩ := hinv.step hs
  rw [drainAccount_snoc]
  exact ⟨hinv', hj.snoc he⟩

/-- What the firmware has done at an event. -/
def DrainEv.sys? : DrainEv → Option Ev
  | .sys e => some e
  | .finished _ => some .tau
  | _ => none

/-- A step is one of the firmware or leaves it as it is. -/
theorem drainStep_refines {a : DrainAct η} (hs : (drainSystem E).step s a = some (s', e)) :
    (e.sys? = none ∧ s'.sys = s.sys) ∨
      ∃ b ev, e.sys? = some ev ∧ (system E).step s.sys b = some (s'.sys, ev) := by
  change drainStep E s a = _ at hs
  cases a with
  | sys b =>
      simp only [drainStep] at hs
      split_ifs at hs
      obtain ⟨⟨sys, ev⟩, hstep, heq⟩ := Option.map_eq_some_iff.mp hs
      obtain ⟨rfl, rfl⟩ := Prod.mk.inj heq
      refine .inr ⟨b, ev, rfl, hstep.trans ?_⟩
      cases ev <;> rfl
  | notifyReplySent =>
      obtain ⟨rfl, rfl⟩ := Prod.mk.inj (Option.some.inj hs)
      exact .inl ⟨rfl, rfl⟩
  | wifiStart | getRssi | connectFail | connectSuccess armed | apRolePublish =>
      simp only [drainStep] at hs
      split_ifs at hs
      obtain ⟨rfl, rfl⟩ := Prod.mk.inj (Option.some.inj hs)
      exact .inl ⟨rfl, rfl⟩
  | wait =>
      simp only [drainStep] at hs
      split at hs
      · obtain ⟨rfl, rfl⟩ := Prod.mk.inj (Option.some.inj hs)
        exact .inl ⟨rfl, rfl⟩
      · obtain ⟨r, -, heq⟩ := Option.map_eq_some_iff.mp hs
        obtain ⟨rfl, rfl⟩ := Prod.mk.inj heq
        exact .inl ⟨rfl, rfl⟩
      · simp at hs
  | settle armed =>
      simp only [drainStep] at hs
      split at hs
      · split_ifs at hs
        have hpair := Option.some.inj hs
        unfold Drain.settle at hpair
        simp only at hpair
        split_ifs at hpair
        all_goals
          obtain ⟨rfl, rfl⟩ := Prod.mk.inj hpair
          exact .inl ⟨rfl, rfl⟩
      · simp at hs
  | finish =>
      simp only [drainStep] at hs
      split_ifs at hs with hg
      obtain ⟨rfl, rfl⟩ := Prod.mk.inj (Option.some.inj hs)
      obtain ⟨hstage, hpending⟩ := hg
      have hpc : s.sys.pc = .ready := by
        unfold Drain.stage Pc.stage at hstage
        split at hstage <;> simp_all
      refine .inr ⟨.task, .tau, rfl, ?_⟩
      change sysStep E s.sys .task = _
      simp [sysStep, taskStep, hpending, hpc]

/-- With the slave out of view, the runs are runs of the firmware. -/
theorem drain_run_refines (hr : (drainSystem E).Run s₀ tr s) :
    (system E).Run s₀.sys (tr.filterMap DrainEv.sys?) s.sys := by
  refine hr.invariant
    (P := fun tr (s : Drain η) => (system E).Run s₀.sys (tr.filterMap DrainEv.sys?) s.sys) .nil ?_
  intro tr s a s' e hr hs
  rcases drainStep_refines hs with ⟨he, hsys⟩ | ⟨b, ev, he, hstep⟩
  · simpa [List.filterMap_append, he, hsys] using hr
  · simpa [List.filterMap_append, he] using hr.snoc hstep

end

/-- A connect fails while replies leave, is spared by the drain, and READY follows. -/
def sparedConnect : List (DrainAct Unit) :=
  [.sys (.dispatch (.of .wifiConnectSta 1 [1, 0, 0, 0, 0x41])), .sys .task, .sys .task, .wifiStart,
    .notifyReplySent, .connectFail, .wait, .wait, .notifyReplySent, .wait, .wait,
    .sys (.ret { rv := hwErrIo }), .sys .task, .sys .task, .sys .task, .settle true, .sys .task,
    .sys .task, .finish]

theorem drain_reopens_exact_spared :
    ∃ s tr, (drainSystem .reference).Run (.boot () false) tr s ∧ .left .wifiConnectSta ∈ tr ∧
      .finished true ∈ tr ∧ Justified (fun tr e => (drainAccount false tr).Justifies e) tr := by
  have hexec : ((drainSystem .reference).exec (.boot () false) sparedConnect).map
      (fun p => p.2.drop 15) =
        some [.left .wifiConnectSta, .sys .tau, .sys .reset, .finished true] := by
    decide +kernel
  obtain ⟨⟨s, tr⟩, hs, htr⟩ := Option.map_eq_some_iff.mp hexec
  have hr := Machine.run_of_exec hs
  have hmem : ∀ e, e ∈ tr.drop 15 → e ∈ tr := fun e => List.mem_of_mem_drop
  refine ⟨s, tr, hr, hmem _ ?_, hmem _ ?_, drain_reopens_exact hr⟩
  · rw [show tr.drop 15 = _ from htr]
    simp
  · rw [show tr.drop 15 = _ from htr]
    simp

end Cc3501eBridge
