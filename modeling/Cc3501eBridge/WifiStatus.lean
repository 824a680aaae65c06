import Cc3501eBridge.WifiLatch

/-!
# The connection-status latch

`WIFI_STATUS` is answered in the interrupt from a latch of four fields.  The bodies write them one
after the other, detail first and state last, and a request that queues a connect resets them all.

`BodyInv` says where a body stands: an attempt has published nothing and the latch says
`CONNECTING`; behind its publication the job is settled.  From there `LatchInv` follows every step
of the firmware, and a latch that shows an outcome shows the latest publication.

The rule of detail first serves a reader who sees the new state.  A disconnect overwrites the detail
of a failed connect while the state still tells of the failure: `WifiSys.torn` is the window in
which `WIFI_STATUS` shows a failure without a reason.
-/

namespace Cc3501eBridge

variable {ρ : Type}

open Trace Machine

/-! ## The history -/

/-- Job number `t` enters its body. -/
def WifiSysEv.enters (t : Nat) (e : WifiSysEv) : Bool :=
  match e.ev with
  | .exec t' _ => t' = t
  | _ => false

/-- The publications made since job number `t` entered its body. -/
def pubsOf (t : Nat) (tr : List WifiSysEv) : Option (List Publication) :=
  tr.foldl (fun pubs e => if e.enters t then some [] else pubs.map (· ++ e.pub.toList)) none

/-- The latest publication. -/
def latestPub (tr : List WifiSysEv) : Option Publication := latest (·.pub) tr

/-- A whole outcome: a connection without a reason, or a failure with one. -/
def Publication.Exact (p : Publication) : Prop :=
  p.state = .connected ∧ p.failReason = .none ∧ p.reason = 0 ∨
    p.state = .connFailed ∧ p.failReason ≠ .none

/-- Job number `t` has made one publication, its outcome. -/
def Concluded (t : Nat) (tr : List WifiSysEv) : Prop := ∃ p, pubsOf t tr = some [p] ∧ p.Exact

/-- Job number `t` has yet to publish, and the latch still says `CONNECTING`. -/
def Pending (t : Nat) (tr : List WifiSysEv) (conn : WifiConn) : Prop :=
  conn.state = .connecting ∧ pubsOf t tr = some []

/-- What the latch shows. -/
def WifiConn.publication (conn : WifiConn) : Publication where
  state := conn.state
  failReason := conn.failReason
  reason := conn.reason

/-- A latch that shows an outcome shows the latest publication, whole. -/
def Agree (tr : List WifiSysEv) (conn : WifiConn) : Prop :=
  conn.state = .connected ∨ conn.state = .connFailed →
    latestPub tr = some conn.publication ∧ conn.publication.Exact

/-- A step that neither enters a body nor publishes. -/
def WifiSysEv.Quiet (e : WifiSysEv) : Prop := e.pub = none ∧ ∀ t, e.enters t = false

section

variable {tr : List WifiSysEv} {e : WifiSysEv} {t : Nat} {conn : WifiConn} {p : Publication}

theorem pubsOf_enters (h : e.enters t = true) : pubsOf t (tr ++ [e]) = some [] := by
  simp [pubsOf, List.foldl_append, h]

theorem pubsOf_stays (h : e.enters t = false) :
    pubsOf t (tr ++ [e]) = (pubsOf t tr).map (· ++ e.pub.toList) := by
  simp [pubsOf, List.foldl_append, h]

theorem WifiSysEv.Quiet.pubsOf (h : e.Quiet) : pubsOf t (tr ++ [e]) = pubsOf t tr := by
  rw [pubsOf_stays (h.2 t), h.1]
  simp

theorem WifiSysEv.Quiet.latestPub (h : e.Quiet) : latestPub (tr ++ [e]) = latestPub tr := by
  simp [Cc3501eBridge.latestPub, h.1]

theorem Concluded.snoc (h : Concluded t tr) (he : e.Quiet) : Concluded t (tr ++ [e]) := by
  rwa [Concluded, he.pubsOf]

theorem Pending.snoc (h : Pending t tr conn) (he : e.Quiet) : Pending t (tr ++ [e]) conn := by
  rwa [Pending, he.pubsOf]

theorem Agree.snoc (h : Agree tr conn) (he : e.Quiet) : Agree (tr ++ [e]) conn := by
  rwa [Agree, he.latestPub]

theorem Pending.agree (h : Pending t tr conn) (tr' : List WifiSysEv) : Agree tr' conn := by
  rintro (hs | hs) <;> exact absurd (h.1.symm.trans hs) nofun

/-- The write of the state makes the outcome visible and settles the job. -/
theorem Pending.publish (h : Pending t tr conn) (he : e.enters t = false) (hp : e.pub = some p)
    (hx : p.Exact) : Concluded t (tr ++ [e]) := by
  refine ⟨p, ?_, hx⟩
  rw [pubsOf_stays he, h.2, hp]
  rfl

end

/-! ## Where a body stands -/

/-- What `wifi_conn_set` has stored when a statement comes next. -/
def SetStage.Stored (p : Publication) (conn : WifiConn) : SetStage → Prop
  | .failReason => True
  | .rssi | .tag | .reason => conn.failReason = p.failReason
  | .state | .push =>
      conn.failReason = p.failReason ∧ conn.reason = p.reason ∧ (p.state = .connected → p.reason = 0)

/-- Behind the publication. -/
def WifiPc.Tail (pc : WifiPc) : Prop :=
  pc.cleaning = true ∨ pc.Returning ∨ ∃ p after, pc = .connSet .push p after

/-- A disconnect is about to be published.  Behind a connection there is no reason to keep. -/
structure Retires (p : Publication) (conn : WifiConn) : Prop where
  state : p.state = .disconnected
  failReason : p.failReason = .none
  reason : conn.state = .connected → p.reason = 0

/-- Where the body of job number `t` stands; `cmd` is the job's opcode. -/
inductive BodyInv (cmd : Cmd) (t : Nat) (tr : List WifiSysEv) (conn : WifiConn) : WifiPc → Prop
  | attempt {pc : WifiPc} : pc.Attempt → Pending t tr conn → BodyInv cmd t tr conn pc
  | publish {stage : SetStage} {p : Publication} {after : AfterSet} :
      p.Sound → stage ≠ .push → stage.Stored p conn → Pending t tr conn →
      BodyInv cmd t tr conn (.connSet stage p after)
  | settled {pc : WifiPc} : pc.Tail → Concluded t tr → BodyInv cmd t tr conn pc
  | aside {pc : WifiPc} :
      pc.scanning = true ∨ pc.disconnecting = true ∨ pc.Tail → cmd ≠ .wifiConnectSta →
      BodyInv cmd t tr conn pc
  | retire {stage : SetStage} {p : Publication} {after : AfterSet} :
      Retires p conn → stage ≠ .push → cmd ≠ .wifiConnectSta →
      BodyInv cmd t tr conn (.connSet stage p after)

section

variable {L : WifiLimits} {w w' : Wifi} {a : Answer} {pc : WifiPc} {pc' : Option WifiPc}
  {out : WifiOut} {cmd : Cmd} {t : Nat} {tr : List WifiSysEv} {e : WifiSysEv} {stage : SetStage}
  {p : Publication} {after : AfterSet} {conn : WifiConn}

theorem BodyInv.snoc (h : BodyInv cmd t tr conn pc) (he : e.Quiet) :
    BodyInv cmd t (tr ++ [e]) conn pc := by
  cases h with
  | attempt hpc hp => exact .attempt hpc (hp.snoc he)
  | publish hp hstage hstored hpend => exact .publish hp hstage hstored (hpend.snoc he)
  | settled hpc hs => exact .settled hpc (hs.snoc he)
  | aside hpc hc => exact .aside hpc hc
  | retire hr hstage hc => exact .retire hr hstage hc

/-- The writes of `wifi_conn_set` before the state: the detail is stored, the state stands. -/
structure DetailStep (w : Wifi) (stage : SetStage) (p : Publication) (after : AfterSet)
    (w' : Wifi) (stage' : SetStage) (p' : Publication) : Prop where
  eq : connSetStep w p after stage = (w', .connSet stage' p' after, .tau)
  stages : stage' ≠ .push ∧ stage' ≠ .failReason
  conn : w'.conn.state = w.conn.state
  pub : p'.state = p.state ∧ p'.failReason = p.failReason
  stored : stage.Stored p w.conn → stage'.Stored p' w'.conn
  /-- Writing what is there already changes nothing. -/
  fixed : p.failReason = .none → p.reason = 0 → w.conn.failReason = .none → w.conn.reason = 0 →
    p'.reason = 0 ∧ w'.conn.failReason = .none ∧ w'.conn.reason = 0

theorem connSetStep_detail (hstage : stage ≠ .push) (hstate : stage ≠ .state) :
    ∃ w' stage' p', DetailStep w stage p after w' stage' p' := by
  cases stage with
  | failReason =>
      refine ⟨_, _, _, rfl, ⟨nofun, nofun⟩, rfl, ⟨rfl, rfl⟩, fun _ => rfl, ?_⟩
      exact fun hf hr _ hr' => ⟨hr, hf, hr'⟩
  | rssi =>
      refine ⟨_, _, _, rfl, ?_, rfl, ⟨rfl, rfl⟩, ?_, fun _ hr hf' hr' => ⟨hr, hf', hr'⟩⟩
      · split_ifs <;> exact ⟨nofun, nofun⟩
      · intro h
        split_ifs <;> exact h
  | tag =>
      exact ⟨_, _, _, rfl, ⟨nofun, nofun⟩, rfl, ⟨rfl, rfl⟩, id, fun _ hr hf' hr' => ⟨hr, hf', hr'⟩⟩
  | reason =>
      refine ⟨_, _, _, rfl, ⟨nofun, nofun⟩, rfl, ⟨rfl, rfl⟩, ?_, ?_⟩
      · exact fun h => ⟨h, rfl, fun hc => if_pos hc⟩
      · intro _ hr hf' _
        have hz : (if p.state = .connected then (0 : Int16)
            else wifiRetrySanitizeReason p.reason w.ownDisconnectIssued) = 0 := by
          split_ifs
          · rfl
          · simp [wifiRetrySanitizeReason, hr]
        exact ⟨hz, hf', hz⟩
  | state => exact absurd rfl hstate
  | push => exact absurd rfl hstage

/-- The statements behind a publication lead to the return. -/
theorem bodyStep_tail (hpc : pc.Tail) (hs : bodyStep L w a pc = some (w', pc', out)) :
    w'.conn = w.conn ∧ ((∃ pc'', pc' = some pc'' ∧ pc''.Tail ∧
        (out.quiet = true ∨ ∃ connected, out = .pushed connected ∧ w' = w)) ∨
      pc' = none ∧ w' = w ∧ ∃ r, out = .returned r) := by
  rcases hpc with hpc | ⟨rv, data, rfl⟩ | ⟨p, after, rfl⟩
  · rw [bodyStep_cleaning hpc] at hs
    obtain ⟨hconn, hq, pc'', rfl, hpc''⟩ := connectStep_cleaning hpc hs
    exact ⟨hconn, .inl ⟨pc'', rfl, hpc''.imp_right .inl, .inl hq⟩⟩
  · obtain ⟨rfl, rfl, rfl⟩ := by simpa [bodyStep] using hs
    exact ⟨rfl, .inr ⟨rfl, rfl, _, rfl⟩⟩
  · obtain ⟨rfl, rfl, rfl⟩ := by simpa [bodyStep, connSetStep] using hs
    refine ⟨rfl, .inl ⟨_, rfl, ?_, .inr ⟨_, rfl, rfl⟩⟩⟩
    cases after with
    | cleanup rv => exact .inl rfl
    | done rv => exact .inr (.inl ⟨_, _, rfl⟩)

end

/-! ## One step of a body -/

/-- A disconnect has overwritten the detail of a failed connect, and the state still tells of the
failure. -/
def WifiPc.torn (conn : WifiConn) : WifiPc → Bool
  | .connSet stage p _ =>
      p.state = .disconnected && stage ≠ .failReason && stage ≠ .push && conn.state = .connFailed
  | _ => false

section

variable {L : WifiLimits} {w w' : Wifi} {a : Answer} {pc : WifiPc} {pc' : Option WifiPc}
  {out : WifiOut} {cmd : Cmd} {t : Nat} {tr : List WifiSysEv} {e : WifiSysEv} {stage : SetStage}
  {p : Publication} {after : AfterSet} {conn : WifiConn}

/-- A body goes on. -/
structure GoesOn (cmd : Cmd) (t : Nat) (tr : List WifiSysEv) (w w' : Wifi) (pc' : Option WifiPc)
    (out : WifiOut) : Prop where
  inv : ∃ pc'', pc' = some pc'' ∧ BodyInv cmd t tr w'.conn pc'' ∧
    (pc''.torn w'.conn = false → Agree tr w'.conn)
  stays : ∀ r, out ≠ .returned r
  pushes : ∀ connected, out = .pushed connected → w' = w

/-- A body returns. -/
structure Returns (cmd : Cmd) (t : Nat) (tr : List WifiSysEv) (w w' : Wifi) (pc' : Option WifiPc)
    (out : WifiOut) : Prop where
  body : pc' = none
  wifi : w' = w
  out : ∃ r, out = .returned r
  settled : cmd = .wifiConnectSta → Concluded t tr
  agree : Agree tr w.conn

theorem WifiOut.quiet_stays (h : out.quiet = true) :
    (∀ r, out ≠ .returned r) ∧ ∀ connected, out ≠ .pushed connected := by
  cases out <;> simp [WifiOut.quiet] at h ⊢

theorem WifiOut.quiet_publication (h : out.quiet = true) : out.publication = none := by
  cases out <;> simp [WifiOut.quiet, WifiOut.publication] at h ⊢

theorem WifiPc.torn_of_tail (h : pc.Tail) : pc.torn conn = false := by
  rcases h with h | ⟨rv, data, rfl⟩ | ⟨p, after, rfl⟩
  · cases pc <;> simp [cleaning, torn] at h ⊢
  · rfl
  · simp [torn]

theorem WifiPc.torn_of_aside (h : pc.scanning = true ∨ pc.disconnecting = true ∨ pc.Tail) :
    pc.torn conn = false := by
  rcases h with h | h | h
  · cases pc <;> simp [scanning, torn] at h ⊢
  · cases pc <;> simp [disconnecting, torn] at h ⊢
  · exact torn_of_tail h

theorem GoesTo.goesOn {Q : WifiPc → Prop} (h : GoesTo w w' pc' out Q)
    (hinv : ∀ pc'', Q pc'' → BodyInv cmd t tr w.conn pc'') (hagree : Agree tr w.conn) :
    GoesOn cmd t tr w w' pc' out := by
  obtain ⟨hconn, hq, pc'', rfl, hpc⟩ := h
  obtain ⟨hret, hpush⟩ := WifiOut.quiet_stays hq
  refine ⟨⟨pc'', rfl, ?_, fun _ => ?_⟩, hret, fun b hb => absurd hb (hpush b)⟩
  · rw [hconn]
    exact hinv pc'' hpc
  · rwa [hconn]

/-- A connect before its publication. -/
theorem attempt_step (hpc : pc.Attempt) (hpend : Pending t tr w.conn)
    (hs : bodyStep L w a pc = some (w', pc', out)) (he : e.pub = out.publication)
    (hn : ∀ t, e.enters t = false) : GoesOn cmd t (tr ++ [e]) w w' pc' out := by
  rw [bodyStep_attempting hpc.1] at hs
  have hto := connectStep_attempt hpc hs
  have hquiet : e.Quiet := ⟨he.trans (WifiOut.quiet_publication hto.2.1), hn⟩
  refine hto.goesOn ?_ (hpend.agree _)
  rintro pc'' (hpc | ⟨p, after, rfl, hp⟩)
  · exact .attempt hpc (hpend.snoc hquiet)
  · exact .publish hp nofun trivial (hpend.snoc hquiet)

/-- A connect publishes. -/
theorem publish_step (hp : p.Sound) (hstage : stage ≠ .push) (hstored : stage.Stored p w.conn)
    (hpend : Pending t tr w.conn)
    (hs : bodyStep L w a (.connSet stage p after) = some (w', pc', out))
    (he : e.pub = out.publication) (hn : ∀ t, e.enters t = false) :
    GoesOn cmd t (tr ++ [e]) w w' pc' out := by
  by_cases hstate : stage = .state
  · subst hstate
    obtain ⟨rfl, rfl, rfl⟩ := by simpa [bodyStep, connSetStep] using hs
    have hx : p.Exact := by
      rcases hp with ⟨hst, hf⟩ | hp
      · exact .inl ⟨hst, hf, hstored.2.2 hst⟩
      · exact .inr hp
    have heq : WifiConn.publication { w.conn with state := p.state } = p := by
      rw [WifiConn.publication, hstored.1, hstored.2.1]
    refine ⟨⟨_, rfl, .settled (.inr (.inr ⟨_, _, rfl⟩)) (hpend.publish (hn t) he hx), ?_⟩,
      by simp, by simp⟩
    intro _ _
    rw [heq, latestPub, latest_snoc, he]
    exact ⟨rfl, hx⟩
  · obtain ⟨w₁, stage', p', hd⟩ := @connSetStep_detail w stage p after hstage hstate
    simp only [bodyStep, hd.eq, Option.some.injEq, Prod.mk.injEq] at hs
    obtain ⟨rfl, rfl, rfl⟩ := hs
    have hpend' : Pending t (tr ++ [e]) w₁.conn := by
      have h := hpend.snoc (e := e) ⟨he, hn⟩
      rwa [Pending, ← hd.conn] at h
    refine ⟨⟨_, rfl, .publish ?_ hd.stages.1 (hd.stored hstored) hpend', fun _ => hpend'.agree _⟩,
      by simp, by simp⟩
    rwa [Publication.Sound, hd.pub.1, hd.pub.2]

/-- A disconnect publishes. -/
theorem retire_step (hr : Retires p w.conn) (hstage : stage ≠ .push) (hcmd : cmd ≠ .wifiConnectSta)
    (hagree : w.conn.state = .connected → Agree tr w.conn)
    (hs : bodyStep L w a (.connSet stage p after) = some (w', pc', out))
    (he : e.pub = out.publication) (hn : ∀ t, e.enters t = false) :
    GoesOn cmd t (tr ++ [e]) w w' pc' out := by
  by_cases hstate : stage = .state
  · subst hstate
    obtain ⟨rfl, rfl, rfl⟩ := by simpa [bodyStep, connSetStep] using hs
    refine ⟨⟨_, rfl, .aside (.inr (.inr (.inr (.inr ⟨_, _, rfl⟩)))) hcmd, fun _ => ?_⟩,
      by simp, by simp⟩
    rintro (hs | hs) <;> exact absurd (hr.state.symm.trans hs) (by simp)
  · obtain ⟨w₁, stage', p', hd⟩ := @connSetStep_detail w stage p after hstage hstate
    simp only [bodyStep, hd.eq, Option.some.injEq, Prod.mk.injEq] at hs
    obtain ⟨rfl, rfl, rfl⟩ := hs
    have hquiet : e.Quiet := ⟨he, hn⟩
    -- behind a connection the disconnect writes what is in the latch already
    have hfixed : w.conn.state = .connected → p'.reason = 0 ∧ Agree (tr ++ [e]) w₁.conn := by
      intro hc
      obtain ⟨hlatest, hx⟩ := hagree hc (.inl hc)
      obtain ⟨-, hf, hz⟩ | ⟨hst, -⟩ := hx
      · obtain ⟨hp', hf', hz'⟩ := hd.fixed hr.failReason (hr.reason hc) hf hz
        have heq : w₁.conn.publication = w.conn.publication := by
          rw [WifiConn.publication, WifiConn.publication, hd.conn, hf', hz', show w.conn.failReason =
            .none from hf, show w.conn.reason = 0 from hz]
        refine ⟨hp', fun _ => ?_⟩
        rw [heq, hquiet.latestPub]
        exact ⟨hlatest, .inl ⟨hc, hf, hz⟩⟩
      · exact absurd (hc.symm.trans hst) (by simp)
    refine ⟨⟨_, rfl, .retire ⟨?_, ?_, ?_⟩ hd.stages.1 hcmd, fun ht => ?_⟩, by simp, by simp⟩
    · exact hd.pub.1.trans hr.state
    · exact hd.pub.2.trans hr.failReason
    · intro hc
      exact (hfixed (hd.conn.symm.trans hc)).1
    · rintro (hc | hf)
      · exact (hfixed (hd.conn.symm.trans hc)).2 (.inl hc)
      · simp [WifiPc.torn, hd.pub.1, hr.state, hd.stages, hf] at ht

/-- The statements behind a publication. -/
theorem tail_step (hpc : pc.Tail) (hagree : Agree tr w.conn)
    (hinv : e.Quiet → ∀ pc'', pc''.Tail → BodyInv cmd t (tr ++ [e]) w.conn pc'')
    (hset : cmd = .wifiConnectSta → Concluded t tr)
    (hs : bodyStep L w a pc = some (w', pc', out)) (he : e.pub = out.publication)
    (hn : ∀ t, e.enters t = false) :
    GoesOn cmd t (tr ++ [e]) w w' pc' out ∨ Returns cmd t tr w w' pc' out := by
  obtain ⟨hconn, ⟨pc'', rfl, hpc'', hq | ⟨connected, rfl, rfl⟩⟩ | ⟨rfl, rfl, hret⟩⟩ :=
    bodyStep_tail hpc hs
  · have hquiet : e.Quiet := ⟨he.trans (WifiOut.quiet_publication hq), hn⟩
    have hto : GoesTo w w' (some pc'') out WifiPc.Tail := ⟨hconn, hq, pc'', rfl, hpc''⟩
    exact .inl (hto.goesOn (hinv hquiet) (hagree.snoc hquiet))
  · have hquiet : e.Quiet := ⟨he, hn⟩
    exact .inl ⟨⟨pc'', rfl, hinv hquiet pc'' hpc'', fun _ => hagree.snoc hquiet⟩, fun _ => nofun,
      fun _ _ => rfl⟩
  · exact .inr ⟨rfl, rfl, hret, hset, hagree⟩

/-- A body that is no connect, up to the publication of a disconnect. -/
theorem aside_step (hpc : pc.scanning = true ∨ pc.disconnecting = true) (hagree : Agree tr w.conn)
    (hcmd : cmd ≠ .wifiConnectSta) (hs : bodyStep L w a pc = some (w', pc', out))
    (he : e.pub = out.publication) (hn : ∀ t, e.enters t = false) :
    GoesOn cmd t (tr ++ [e]) w w' pc' out := by
  rcases hpc with hpc | hpc
  · rw [bodyStep_scanning hpc] at hs
    have hto := scanStep_latch hs
    have hquiet : e.Quiet := ⟨he.trans (WifiOut.quiet_publication hto.2.1), hn⟩
    refine hto.goesOn ?_ (hagree.snoc hquiet)
    rintro pc'' (hpc | hpc)
    · exact .aside (.inl hpc) hcmd
    · exact .aside (.inr (.inr (.inr (.inl hpc)))) hcmd
  · rw [bodyStep_disconnecting hpc] at hs
    have hto := disconnectStep_latch hs
    have hquiet : e.Quiet := ⟨he.trans (WifiOut.quiet_publication hto.2.1), hn⟩
    refine hto.goesOn ?_ (hagree.snoc hquiet)
    rintro pc'' (hpc | hpc | ⟨after, rfl⟩)
    · exact .aside (.inr (.inl hpc)) hcmd
    · exact .aside (.inr (.inr (.inr (.inl hpc)))) hcmd
    · refine .retire ⟨rfl, rfl, fun hc => ?_⟩ nofun hcmd
      rcases (hagree (.inl hc)).2 with ⟨-, -, hz⟩ | ⟨hst, -⟩
      · exact hz
      · exact absurd (hc.symm.trans hst) nofun

/-- One step of a body, wherever it stands. -/
theorem BodyInv.step (h : BodyInv cmd t tr w.conn pc)
    (hagree : pc.torn w.conn = false → Agree tr w.conn)
    (hs : bodyStep L w a pc = some (w', pc', out)) (he : e.pub = out.publication)
    (hn : ∀ t, e.enters t = false) :
    GoesOn cmd t (tr ++ [e]) w w' pc' out ∨ Returns cmd t tr w w' pc' out := by
  cases h with
  | attempt hpc hpend => exact .inl (attempt_step hpc hpend hs he hn)
  | publish hp hstage hstored hpend =>
      exact .inl (publish_step hp hstage hstored hpend hs he hn)
  | settled hpc hset =>
      exact tail_step hpc (hagree (WifiPc.torn_of_tail hpc))
        (fun hquiet pc'' hpc'' => .settled hpc'' (hset.snoc hquiet)) (fun _ => hset) hs he hn
  | aside hpc hcmd =>
      have hag := hagree (WifiPc.torn_of_aside hpc)
      rcases hpc with hpc | hpc | hpc
      · exact .inl (aside_step (.inl hpc) hag hcmd hs he hn)
      · exact .inl (aside_step (.inr hpc) hag hcmd hs he hn)
      · exact tail_step hpc hag (fun _ pc'' hpc'' => .aside (.inr (.inr hpc'')) hcmd)
          (fun hc => absurd hc hcmd) hs he hn
  | retire hr hstage hcmd =>
      refine .inl (retire_step hr hstage hcmd (fun hc => hagree ?_) hs he hn)
      simp [WifiPc.torn, hc]

end

/-! ## The invariant -/

/-- A `WIFI_STATUS` would now show a failure with the detail of a disconnect. -/
def WifiSys.torn (s : WifiSys ρ) : Bool := s.body.any (·.torn s.wifi.conn)

/-- The opcode whose body has returned and whose result is being copied. -/
def Pc.copying : Pc → Option Cmd
  | .copyResult cmd _ _ | .copyCache cmd _ _ | .publish cmd _ => some cmd
  | _ => none

theorem Pc.copying_executing {pc : Pc} {cmd : Cmd} (h : pc.copying = some cmd) :
    pc.executing = some cmd := by
  cases pc <;> simp [copying, executing] at h ⊢ <;> exact h

/-- The drain is inside a call or about to make one. -/
def Pc.calling : Pc → Bool
  | .execute _ | .hal _ _ => true
  | _ => false

theorem Pc.Outside.still {pc : Pc} (h : pc.Outside) : pc.calling = false ∧ pc.copying = none := by
  cases pc <;> simp [Outside, calling, copying] at h ⊢

/-- What every run keeps of the latch. -/
structure LatchInv (tr : List WifiSysEv) (s : WifiSys ρ) : Prop where
  /-- A body runs while the drain is inside its call. -/
  body : ∀ pc, s.body = some pc → ∃ cmd call, s.sys.pc = .hal cmd call ∧
    BodyInv cmd s.sys.job.ticket tr s.wifi.conn pc
  entered : ∀ call, s.sys.pc = .hal .wifiConnectSta call → s.body ≠ none
  /-- A connect that has not entered its body has been marked. -/
  waiting : s.sys.job.state = .queued ∧ s.sys.job.jobCmd = .wifiConnectSta ∨
    s.sys.pc = .execute .wifiConnectSta → s.wifi.conn.state = .connecting
  settled : s.sys.pc.copying = some .wifiConnectSta → Concluded s.sys.job.ticket tr
  agree : s.torn = false → Agree tr s.wifi.conn

namespace LatchInv

variable {E : Env ρ} {C : WifiCodes} {L : WifiLimits} {tr : List WifiSysEv} {s s' : WifiSys ρ}
  {e : WifiSysEv}

theorem boot (rest : ρ) : LatchInv [] (.boot rest) := by
  constructor <;>
    simp [WifiSys.boot, Sys.boot, WifiSys.wifi, Sys.job, Fw.boot, Worker.init, Pc.copying, Agree,
      Wifi.boot]

/-- Outside a call there is no body. -/
theorem body_none (h : LatchInv tr s) (hpc : ∀ cmd call, s.sys.pc ≠ .hal cmd call) :
    s.body = none := by
  cases hb : s.body with
  | none => rfl
  | some pc =>
      obtain ⟨cmd, call, hhal, -⟩ := h.body pc hb
      exact absurd hhal (hpc cmd call)

theorem torn_of_none (h : s.body = none) : s.torn = false := by simp [WifiSys.torn, h]

/-- A step that moves neither latch, body, drain nor slot. -/
theorem still (h : LatchInv tr s) (hconn : s'.wifi.conn = s.wifi.conn) (hbody : s'.body = s.body)
    (hpc : s'.sys.pc = s.sys.pc) (hjob : s'.sys.job = s.sys.job) (he : e.Quiet) :
    LatchInv (tr ++ [e]) s' := by
  constructor
  · intro pc hb
    obtain ⟨cmd, call, hhal, hinv⟩ := h.body pc (hbody ▸ hb)
    exact ⟨cmd, call, hpc.trans hhal, hjob ▸ hconn ▸ hinv.snoc he⟩
  · intro call hhal
    rw [hbody]
    exact h.entered call (hpc ▸ hhal)
  · rw [hjob, hpc, hconn]
    exact h.waiting
  · intro hc
    rw [hjob]
    exact (h.settled (hpc ▸ hc)).snoc he
  · intro ht
    rw [hconn]
    refine (h.agree ?_).snoc he
    rwa [WifiSys.torn, hbody, hconn] at ht

/-- A step of the drain outside the bodies, or out of one. -/
theorem drain (h : LatchInv tr s) (hconn : s'.wifi.conn = s.wifi.conn) (hbody : s'.body = none)
    (hagree : Agree tr s.wifi.conn) (hhal : ∀ cmd call, s'.sys.pc ≠ .hal cmd call)
    (hexec : s'.sys.pc = .execute .wifiConnectSta → s.wifi.conn.state = .connecting)
    (hqueued : s'.sys.job.state = .queued → s.sys.job.state = .queued ∧
      s'.sys.job.jobCmd = s.sys.job.jobCmd)
    (hset : s'.sys.pc.copying = some .wifiConnectSta → Concluded s'.sys.job.ticket tr)
    (he : e.Quiet) : LatchInv (tr ++ [e]) s' := by
  constructor
  · intro pc hb
    exact absurd (hbody.symm.trans hb) nofun
  · exact fun call hc => absurd hc (hhal _ call)
  · rintro (⟨hq, hcmd⟩ | hx)
    · obtain ⟨hq, hc⟩ := hqueued hq
      rw [hconn]
      exact h.waiting (.inl ⟨hq, hc.symm.trans hcmd⟩)
    · exact (congrArg WifiConn.state hconn).trans (hexec hx)
  · exact fun hc => (hset hc).snoc he
  · intro _
    rw [hconn]
    exact hagree.snoc he

/-- Between its calls the drain moves without the latch. -/
theorem move (h : LatchInv tr s) (hpc : s.sys.pc.calling = false)
    (hconn : s'.wifi.conn = s.wifi.conn) (hbody : s'.body = s.body)
    (hpc' : s'.sys.pc.calling = false)
    (hqueued : s'.sys.job.state = .queued → s.sys.job.state = .queued ∧
      s'.sys.job.jobCmd = s.sys.job.jobCmd)
    (hcopy : s'.sys.pc.copying = some .wifiConnectSta →
      s.sys.pc.copying = some .wifiConnectSta ∧ s'.sys.job.ticket = s.sys.job.ticket)
    (he : e.Quiet) : LatchInv (tr ++ [e]) s' := by
  have hnone : s.body = none := h.body_none fun cmd call hh => by simp [hh, Pc.calling] at hpc
  refine h.drain hconn (hbody.trans hnone) (h.agree (torn_of_none hnone)) ?_ ?_ hqueued ?_ he
  · intro cmd call hh
    simp [hh, Pc.calling] at hpc'
  · intro hx
    simp [hx, Pc.calling] at hpc'
  · intro hc
    obtain ⟨hc, ht⟩ := hcopy hc
    exact ht ▸ h.settled hc

/-- The body a call enters belongs to its opcode. -/
theorem halCall_entry {cmd : Cmd} {req : Buf} {reqLen : Nat} {pc : WifiPc}
    (h : (E.halCall cmd req reqLen).wifiEntry = some pc) :
    cmd = .wifiConnectSta ∧ pc.Attempt ∨
      cmd ≠ .wifiConnectSta ∧ (pc.scanning = true ∨ pc.disconnecting = true) := by
  cases cmd with
  | wifiConnectSta =>
      obtain rfl := by simpa [Env.halCall, HalCall.wifiEntry] using h
      exact .inl ⟨rfl, rfl, fun _ hf => by simp [WifiPc.first] at hf⟩
  | wifiScanStart =>
      obtain rfl := by simpa [Env.halCall, HalCall.wifiEntry] using h
      exact .inr ⟨by simp, .inl rfl⟩
  | wifiDisconnect =>
      obtain rfl := by simpa [Env.halCall, HalCall.wifiEntry] using h
      exact .inr ⟨by simp, .inr rfl⟩
  | _ => simp [Env.halCall, HalCall.wifiEntry] at h

/-- A job enters its body. -/
theorem exec_step (h : LatchInv tr s) {cmd : Cmd} {call : HalCall} (hpc : s.sys.pc = .execute cmd)
    (hcall : call = E.halCall cmd s.sys.job.req s.sys.job.reqLen)
    (hconn : s'.wifi.conn = s.wifi.conn) (hbody : s'.body = call.wifiEntry)
    (hpc' : s'.sys.pc = .hal cmd call) (hjob : s'.sys.job = s.sys.job)
    (hrun : s.sys.job.state = .running) :
    LatchInv (tr ++ [{ ev := .exec s.sys.job.ticket call }]) s' := by
  have hnone : s.body = none := h.body_none fun _ _ hh => by simp [hpc] at hh
  have hagree : Agree (tr ++ [{ ev := .exec s.sys.job.ticket call }]) s'.wifi.conn := by
    rw [hconn]
    have hag := h.agree (torn_of_none hnone)
    rwa [Agree, latestPub, latest_snoc]
  constructor
  · intro pc hb
    rw [hbody, hcall] at hb
    refine ⟨cmd, call, hpc', ?_⟩
    rw [hjob, hconn]
    rcases halCall_entry hb with ⟨rfl, hat⟩ | ⟨hc, hat⟩
    · refine .attempt hat ⟨h.waiting (.inr hpc), pubsOf_enters ?_⟩
      simp [WifiSysEv.enters]
    · exact .aside (hat.imp_right .inl) hc
  · intro call' hh
    obtain ⟨rfl, rfl⟩ := Pc.hal.inj (hpc'.symm.trans hh)
    rw [hbody, hcall]
    simp [Env.halCall, HalCall.wifiEntry]
  · rintro (⟨hq, -⟩ | hx)
    · rw [hjob, hrun] at hq
      cases hq
    · exact absurd (hpc'.symm.trans hx) (by simp)
  · intro hc
    simp [hpc', Pc.copying] at hc
  · exact fun _ => hagree

/-- A dispatch. -/
theorem dispatch_step (h : LatchInv tr s)
    (hrun : s.sys.job.state = .running ↔ s.sys.pc.executing ≠ none) {req : Request}
    {fw : Fw (Wifi × ρ)} {reply : Reply} {sub : Option Nat}
    (hd : protocolDispatch (E.withWifi C) s.sys.fw req.cmd req.flags req.payload req.cap =
      (fw, reply)) :
    LatchInv (tr ++ [{ ev := .dispatch req reply sub }])
      { sys := { s.sys with fw := fw }, body := s.body } := by
  have hquiet : WifiSysEv.Quiet { ev := .dispatch req reply sub } := ⟨rfl, fun _ => rfl⟩
  by_cases hf : s.sys.job.InFlight
  · -- a job in flight shuts the slot and with it the latch
    have hw := dispatch_inFlight hd hf
    rcases dispatch_wifi hd with ⟨hwifi, -⟩ | ⟨hnf, -⟩
    · exact h.still (congrArg Wifi.conn hwifi) rfl rfl (congrArg Worker.job hw) hquiet
    · exact absurd hf hnf
  · have hpc : s.sys.pc.executing = none := by
      by_contra hne
      exact hf (.inr (hrun.mpr hne))
    have hnone : s.body = none := h.body_none fun _ _ hh => by simp [hh, Pc.executing] at hpc
    have hhal : ∀ cmd call, s.sys.pc ≠ .hal cmd call := by
      intro cmd call hh
      simp [hh, Pc.executing] at hpc
    have hcopy : s.sys.pc.copying ≠ some .wifiConnectSta := by
      intro hc
      simp [Pc.copying_executing hc] at hpc
    constructor
    · exact fun pc hb => absurd (hnone.symm.trans hb) (by simp)
    · exact fun call hh => absurd hh (hhal _ call)
    · rintro (⟨hq, hcmd⟩ | hx)
      · rcases dispatch_wifi hd with ⟨-, hw | hw⟩ | ⟨-, hwifi⟩
        · exact absurd (.inl ((congrArg (fun w : Worker => w.job.state) hw).symm.trans hq)) hf
        · exact absurd hcmd (hw (.inl hq))
        · exact congrArg (fun w : Wifi => w.conn.state) hwifi
      · exact absurd hpc (by simp [show s.sys.pc = _ from hx, Pc.executing])
    · exact fun hc => absurd hc hcopy
    · intro _
      rcases dispatch_wifi hd with ⟨hwifi, -⟩ | ⟨-, hwifi⟩
      · change Agree _ fw.hal.1.conn
        rw [hwifi]
        exact (h.agree (torn_of_none hnone)).snoc hquiet
      · have hst : fw.hal.1.conn.state = .connecting :=
          congrArg (fun w : Wifi => w.conn.state) hwifi
        rintro (hs | hs)
        · exact absurd (hst.symm.trans hs) (by simp)
        · exact absurd (hst.symm.trans hs) (by simp)

/-- A step of the firmware outside the bodies. -/
theorem core_step (h : LatchInv tr s)
    (hrun : s.sys.job.state = .running ↔ s.sys.pc.executing ≠ none) {sys' : Sys (Wifi × ρ)} {ev : Ev}
    (hs : CoreStep (E.withWifi C) s.sys sys' ev)
    (hconn : (∀ req reply sub, ev ≠ .dispatch req reply sub) →
      sys'.fw.hal.1.conn = s.wifi.conn)
    (hret : ∀ t call r, ev = .ret t call r → s.body = none) :
    LatchInv (tr ++ [{ ev := ev }]) { sys := sys', body := s.entered ev } := by
  have htau : WifiSysEv.Quiet { ev := .tau } := ⟨rfl, fun _ => rfl⟩
  cases hs with
  | silent hw _ _ _ hpc he =>
      have hquiet : WifiSysEv.Quiet { ev := ev } := by
        refine ⟨rfl, fun t => ?_⟩
        cases ev <;> first | rfl | exact he.elim
      have hent : s.entered ev = s.body := by
        cases ev <;> first | rfl | exact he.elim
      have hdisp : ∀ req reply sub, ev ≠ .dispatch req reply sub := by
        rintro req reply sub rfl
        exact he
      have hjob : sys'.job = s.sys.job := congrArg Worker.job hw
      rcases hpc with hpc | ⟨ho, ho'⟩
      · exact h.still (hconn hdisp) hent hpc hjob hquiet
      · refine h.move ho.still.1 (hconn hdisp) hent ho'.still.1 ?_ ?_ hquiet
        · exact fun hq => ⟨hjob ▸ hq, congrArg Job.jobCmd hjob⟩
        · exact fun hc => absurd (ho'.still.2.symm.trans hc) (by simp)
  | dispatch hd => exact h.dispatch_step hrun hd
  | promote hpc hq =>
      have hnone : s.body = none := h.body_none (by simp [hpc])
      refine h.drain (hconn (by simp)) hnone (h.agree (torn_of_none hnone)) (by simp) ?_ ?_
        (by simp [Pc.copying]) ⟨rfl, fun _ => rfl⟩
      · intro hx
        exact h.waiting (.inl ⟨hq, Pc.execute.inj hx⟩)
      · intro hq'
        exact absurd (show WorkerState.running = .queued from hq') (by simp)
  | exec hpc =>
      exact h.exec_step hpc rfl (hconn (by simp)) rfl rfl rfl (hrun.mpr (by simp [hpc, Pc.executing]))
  | @ret cmd call r _ hpc _ _ =>
      have hnone : s.body = none := hret _ _ _ rfl
      have hcmd : cmd ≠ .wifiConnectSta := by
        rintro rfl
        exact h.entered call hpc hnone
      refine h.drain (hconn (by simp)) hnone (h.agree (torn_of_none hnone)) ?_ ?_ (fun hq => ⟨hq, rfl⟩) ?_
        ⟨rfl, fun _ => rfl⟩ <;> dsimp only <;> split_ifs
      all_goals simp [Pc.copying, hcmd]
  | invalidate hpc =>
      refine h.move (by rw [hpc]; rfl) (hconn (by simp)) rfl rfl (fun hq => ⟨hq, rfl⟩) ?_ htau
      simp [Pc.copying]
  | copyResult _ hpc _ | copyResultDone hpc _ | copyCache _ hpc _ | copyCacheDone hpc _ =>
      refine h.move (by rw [hpc]; rfl) (hconn (by simp)) rfl rfl (fun hq => ⟨hq, rfl⟩) ?_ htau
      intro hc
      rw [hpc]
      exact ⟨hc, rfl⟩
  | @publish cmd out hpc =>
      refine h.move (by rw [hpc]; rfl) (hconn (by simp)) rfl rfl ?_ (by simp [Pc.copying])
        ⟨rfl, fun _ => rfl⟩
      intro hq
      rcases s.sys.job.finish_terminal out with ht | ht <;> exact absurd (ht.symm.trans hq) (by simp)
  | reset hpc _ =>
      refine h.move (by rw [hpc]; rfl) (hconn (by simp)) rfl rfl ?_ (by simp [Pc.copying])
        ⟨rfl, fun _ => rfl⟩
      intro hq
      exact absurd (show WorkerState.idle = .queued from hq) (by simp)
  | reinit hpc | resetSkip hpc _ | acceptPush hpc =>
      exact h.move (by rw [hpc]; rfl) (hconn (by simp)) rfl rfl (fun hq => ⟨hq, rfl⟩)
        (by simp [Pc.copying]) htau
  | accept hpc _ _ =>
      exact h.move (by rw [hpc]; rfl) (hconn (by simp)) rfl rfl (fun hq => ⟨hq, rfl⟩)
        (by simp [Pc.copying]) ⟨rfl, fun _ => rfl⟩

/-- A step of the body under way. -/
theorem body_step (h : LatchInv tr s)
    (hrun : s.sys.job.state = .running ↔ s.sys.pc.executing ≠ none) {pc : WifiPc} {a : Answer}
    {w : Wifi} {pc' : Option WifiPc} {out : WifiOut} {sys' : Sys (Wifi × ρ)} {ev : Ev}
    (hb : s.body = some pc) (hs : bodyStep L s.wifi a pc = some (w, pc', out))
    (hsys : sysStep (E.withWifi C) s.sys (out.act C (w, s.sys.fw.hal.2)) = some (sys', ev)) :
    LatchInv (tr ++ [{ ev := ev, pub := out.publication }]) { sys := sys', body := pc' } := by
  obtain ⟨cmd, call, hpc, hinv⟩ := h.body pc hb
  have hagree : pc.torn s.wifi.conn = false → Agree tr s.wifi.conn := by
    intro ht
    exact h.agree (by simpa [WifiSys.torn, hb] using ht)
  have hn : ∀ t, WifiSysEv.enters t { ev := ev, pub := out.publication } = false := by
    intro t
    cases ev with
    | exec t' call' =>
        have hact := isTask_of_ofTask hsys rfl
        cases out <;> simp [WifiOut.act, Act.isTask] at hact
    | _ => rfl
  rcases hinv.step hagree hs rfl hn with hgo | hret
  · obtain ⟨⟨pc'', rfl, hinv', hagree'⟩, hstay, hpush⟩ := hgo
    -- to the firmware the step moved the HAL or pushed an event
    obtain ⟨hpc', hjob, hwifi⟩ : sys'.pc = s.sys.pc ∧ sys'.job = s.sys.job ∧ sys'.fw.hal.1 = w := by
      cases out with
      | returned r => exact absurd rfl (hstay r)
      | pushed connected =>
          obtain ⟨rfl, -⟩ := by simpa [sysStep, WifiOut.act] using hsys
          exact ⟨rfl, rfl, (hpush connected rfl).symm⟩
      | _ =>
          obtain ⟨rfl, -⟩ := by simpa [sysStep, WifiOut.act] using hsys
          exact ⟨rfl, rfl, rfl⟩
    constructor
    · rintro pc₁ ⟨⟩
      refine ⟨cmd, call, hpc'.trans hpc, ?_⟩
      rw [hjob, WifiSys.wifi, hwifi]
      exact hinv'
    · simp
    · have hr : s.sys.job.state = .running := hrun.mpr (by simp [hpc, Pc.executing])
      rintro (⟨hq, -⟩ | hx)
      · rw [hjob, hr] at hq
        cases hq
      · exact absurd (hpc.symm.trans (hpc'.symm.trans hx)) (by simp)
    · intro hc
      simp [hpc', hpc, Pc.copying] at hc
    · intro ht
      rw [WifiSys.wifi, hwifi]
      refine hagree' ?_
      simpa [WifiSys.torn, WifiSys.wifi, hwifi] using ht
  · obtain ⟨rfl, rfl, ⟨r, rfl⟩, hset, hag⟩ := hret
    simp only [WifiOut.act, sysStep, retStep, hpc] at hsys
    split_ifs at hsys with _ hrecv
    · obtain ⟨rfl, rfl⟩ := by simpa using hsys
      exact h.drain rfl rfl hag (by simp) (by simp) (fun hq => ⟨hq, rfl⟩) (by simp [Pc.copying])
        ⟨rfl, fun _ => rfl⟩
    · obtain ⟨rfl, rfl⟩ := by simpa using hsys
      exact h.drain rfl rfl hag (by simp) (by simp) (fun hq => ⟨hq, rfl⟩)
        (fun hc => hset (Option.some.inj hc)) ⟨rfl, fun _ => rfl⟩

/-- The invariant is kept by every step. -/
theorem step (h : LatchInv tr s)
    (hrun : s.sys.job.state = .running ↔ s.sys.pc.executing ≠ none) {a : WifiSysAct ρ}
    (hs : wifiSysStep E C L s a = some (s', e)) : LatchInv (tr ++ [e]) s' := by
  cases a with
  | sys a =>
      simp only [wifiSysStep] at hs
      split_ifs at hs with hallow
      obtain ⟨⟨sys', ev⟩, hsys, heq⟩ := Option.bind_eq_some_iff.mp hs
      obtain ⟨rfl, rfl⟩ := by simpa using heq
      refine h.core_step hrun (sysStep_core hsys) (fun hd => ?_) ?_
      · rcases sysStep_hal hsys with ⟨req, rfl⟩ | rfl | hhal
        · obtain ⟨-, rfl⟩ := by simpa [sysStep] using hsys
          exact absurd rfl (hd _ _ _)
        · simpa [WifiSys.allows] using hallow
        · exact congrArg (fun x : Wifi × ρ => x.1.conn) hhal
      · rintro t call r rfl
        obtain rfl := act_of_ret hsys
        simpa [WifiSys.allows] using hallow
  | event ev =>
      simp only [wifiSysStep] at hs
      obtain ⟨⟨sys', ev'⟩, hsys, heq⟩ := Option.bind_eq_some_iff.mp hs
      obtain ⟨rfl, rfl⟩ := by simpa using heq
      obtain ⟨rfl, rfl⟩ := by simpa [sysStep] using hsys
      exact h.still (wifiEventCb_conn L s.wifi ev) rfl rfl rfl ⟨rfl, fun _ => rfl⟩
  | body a =>
      simp only [wifiSysStep] at hs
      obtain ⟨pc, hb, hs⟩ := Option.bind_eq_some_iff.mp hs
      obtain ⟨⟨w, pc', out⟩, hstep, hs⟩ := Option.bind_eq_some_iff.mp hs
      obtain ⟨⟨sys', ev⟩, hsys, heq⟩ := Option.bind_eq_some_iff.mp hs
      obtain ⟨rfl, rfl⟩ := by simpa using heq
      exact h.body_step hrun hb hstep hsys

end LatchInv

/-! ## Runs -/

section

variable {E : Env ρ} {C : WifiCodes} {L : WifiLimits} {rest : ρ} {tr : List WifiSysEv}
  {s s' : WifiSys ρ} {e : WifiSysEv}

/-- A step of the whole is one of the firmware, and a dispatch is one of the host's. -/
theorem wifiSysStep_sys {a : WifiSysAct ρ} (hs : wifiSysStep E C L s a = some (s', e)) :
    ∃ b, (system (E.withWifi C)).step s.sys b = some (s'.sys, e.ev) ∧
      ∀ req, b = .dispatch req → a = .sys (.dispatch req) := by
  cases a with
  | sys a =>
      simp only [wifiSysStep] at hs
      split_ifs at hs
      obtain ⟨⟨sys', ev⟩, hsys, heq⟩ := Option.bind_eq_some_iff.mp hs
      obtain ⟨rfl, rfl⟩ := by simpa using heq
      exact ⟨a, hsys, fun req hb => by rw [hb]⟩
  | event ev =>
      simp only [wifiSysStep] at hs
      obtain ⟨⟨sys', ev'⟩, hsys, heq⟩ := Option.bind_eq_some_iff.mp hs
      obtain ⟨rfl, rfl⟩ := by simpa using heq
      exact ⟨.hal _, hsys, fun req => nofun⟩
  | body a =>
      simp only [wifiSysStep] at hs
      obtain ⟨pc, -, hs⟩ := Option.bind_eq_some_iff.mp hs
      obtain ⟨⟨w, pc', out⟩, -, hs⟩ := Option.bind_eq_some_iff.mp hs
      obtain ⟨⟨sys', ev⟩, hsys, heq⟩ := Option.bind_eq_some_iff.mp hs
      obtain ⟨rfl, rfl⟩ := by simpa using heq
      refine ⟨out.act C (w, s.sys.fw.hal.2), hsys, fun req hb => ?_⟩
      cases out <;> simp [WifiOut.act] at hb

/-- A run of the whole is one of the firmware. -/
theorem wifiSystem_run_sys (hr : (wifiSystem E C L).Run (.boot rest) tr s) :
    (system (E.withWifi C)).Run (.boot (.boot, rest)) (tr.map WifiSysEv.ev) s.sys := by
  have h0 : (system (E.withWifi C)).Run (.boot (.boot, rest)) [] (.boot (.boot, rest)) := .nil
  refine hr.invariant (P := fun tr (s : WifiSys ρ) => (system (E.withWifi C)).Run
    (.boot (.boot, rest)) (tr.map WifiSysEv.ev) s.sys) h0 ?_
  intro tr s a s' e hrun hs
  obtain ⟨b, hb, -⟩ := wifiSysStep_sys hs
  rw [List.map_append]
  exact hrun.snoc hb

/-- The invariant holds along every run. -/
theorem LatchInv.of_run (hr : (wifiSystem E C L).Run (.boot rest) tr s) : LatchInv tr s := by
  have h : (wifiSystem E C L).Run (.boot rest) tr s ∧ LatchInv tr s := by
    refine hr.invariant (P := fun tr s => (wifiSystem E C L).Run (.boot rest) tr s ∧ LatchInv tr s)
      ⟨.nil, .boot rest⟩ ?_
    rintro tr s a s' e ⟨hrun, h⟩ hs
    exact ⟨hrun.snoc hs, h.step (SlotInv.of_run (wifiSystem_run_sys hrun)).running hs⟩
  exact h.2

/-! ## The latch is exact -/

/-- No `WIFI_STATUS` is dispatched while a disconnect overwrites a failure. -/
def StatusApart (E : Env ρ) (s : WifiSys ρ) : WifiSysAct ρ → Prop
  | .sys (.dispatch req) => E.hdr.decode req.cmd = some .wifiStatus → s.torn = false
  | _ => True

instance (E : Env ρ) (s : WifiSys ρ) (a : WifiSysAct ρ) : Decidable (StatusApart E s a) := by
  unfold StatusApart
  split <;> infer_instance

/-- The four bytes of `WIFI_STATUS` for a publication. -/
def Publication.shown (C : WifiCodes) (p : Publication) (rssi : UInt8) : List UInt8 :=
  [C.state p.state, C.fail p.failReason, rssi, p.reason.toUInt16.toUInt8]

/-- A connect makes one publication, its outcome, before its slot turns `DONE` or `ERR`. -/
def PublishesOnce (tr : List WifiSysEv) : Prop :=
  ∀ i t, At (fun e => e.ev = .publish t .wifiConnectSta) tr i → Concluded t (tr.take i)

/-- A status that shows an outcome shows one publication, the latest. -/
def StatusExact (E : Env ρ) (C : WifiCodes) (tr : List WifiSysEv) : Prop :=
  ∀ i req reply sub, At (fun e => e.ev = .dispatch req reply sub) tr i →
    E.hdr.decode req.cmd = some .wifiStatus → reply.status = .ok →
    ∀ state, state = .connected ∨ state = .connFailed → reply.data[0]? = some (C.state state) →
      ∃ p rssi, latestPub (tr.take i) = some p ∧ p.state = state ∧ p.Exact ∧
        reply.data = p.shown C rssi

theorem publishesOnce_of_run (hr : (wifiSystem E C L).Run (.boot rest) tr s) : PublishesOnce tr := by
  rintro i t ⟨e, hat, hev⟩
  obtain ⟨s₁, a, s₂, hr₁, -, hs⟩ := hr.step_at hat
  have h := LatchInv.of_run hr₁
  obtain ⟨b, hb, -⟩ := wifiSysStep_sys hs
  have hcore := sysStep_core hb
  rw [hev] at hcore
  generalize hsys : s₂.sys = sys₂ at hcore
  cases hcore with
  | silent _ _ _ _ _ he => exact he.elim
  | publish hpc => exact h.settled (by rw [hpc]; rfl)

/-- A well-formed `WIFI_STATUS` shows the latch. -/
theorem dispatch_wifiStatus {s : Sys (Wifi × ρ)} {req : Request} {fw : Fw (Wifi × ρ)} {reply : Reply}
    (h : protocolDispatch (E.withWifi C) s.fw req.cmd req.flags req.payload req.cap = (fw, reply))
    (hdec : E.hdr.decode req.cmd = some .wifiStatus) (hok : reply.status = .ok) :
    reply.data = s.fw.hal.1.conn.publication.shown C s.fw.hal.1.conn.rssi.toUInt8 := by
  rcases dispatch_cases h with ⟨hnone, -⟩ | ⟨c, hc, hh⟩
  · exact absurd (hdec.symm.trans hnone) nofun
  · obtain rfl : Cmd.wifiStatus = c := Option.some.inj (hdec.symm.trans hc)
    change handleWifiStatus (E.withWifi C) (s.fw.latchSeq req) req.payload req.cap = _ at hh
    unfold handleWifiStatus at hh
    split_ifs at hh
    · obtain ⟨-, rfl⟩ := Prod.mk.inj hh
      exact absurd hok nofun
    · obtain ⟨-, rfl⟩ := Prod.mk.inj hh
      exact absurd hok nofun
    · obtain ⟨-, rfl⟩ := Prod.mk.inj hh
      rfl

/-- The connection-status latch is exact in every run without a `WIFI_STATUS` between the writes by
which a disconnect retires a failed connect. -/
theorem wifi_latch_exact
    (hr : (wifiSystem E C L).RunIf (StatusApart E) (.boot rest) tr s) :
    PublishesOnce tr ∧ StatusExact E C tr := by
  refine ⟨publishesOnce_of_run hr.run, ?_⟩
  rintro i req reply sub ⟨e, hat, hev⟩ hdec hok state hout hshow
  obtain ⟨s₁, a, s₂, hr₁, hg, hs⟩ := hr.step_at hat
  have h := LatchInv.of_run hr₁.run
  -- the step is the dispatch, taken outside the window
  obtain ⟨b, hb, hact⟩ := wifiSysStep_sys hs
  rw [hev] at hb
  obtain ⟨fw, hd, -, -⟩ := (sysStep_core hb).dispatch_inv
  have htorn : s₁.torn = false := by
    obtain rfl := hact req (act_of_dispatch hb)
    exact hg hdec
  have hdata := dispatch_wifiStatus hd hdec hok
  have hstate : s₁.wifi.conn.state = state := by
    rw [hdata] at hshow
    exact C.state_inj (by simpa [Publication.shown, WifiConn.publication, WifiSys.wifi] using hshow)
  obtain ⟨hlatest, hx⟩ := h.agree htorn (hstate ▸ hout)
  exact ⟨_, _, hlatest, hstate, hx, hdata⟩

end

/-- Codes to run the model with. -/
def WifiCodes.reference : WifiCodes where
  state
    | .disconnected => 0 | .connecting => 1 | .connected => 2 | .connFailed => 3
  fail
    | .none => 0 | .kick => 1 | .timeout => 2 | .rejected => 3
  evtConnected := 0x19
  evtDisconnected := 0x1A
  state_inj := by
    intro a b h
    cases a <;> cases b <;> first | rfl | exact absurd h (by decide)
  fail_inj := by
    intro a b h
    cases a <;> cases b <;> first | rfl | exact absurd h (by decide)

/-- Bounds to run the model with. -/
def scanLimits : WifiLimits where
  scanCacheMax := 20
  ssidBytes := 32

/-- The host's request of opcode `c`. -/
def hostAct (c : Cmd) (seq : UInt8) (payload : List UInt8) : WifiSysAct Unit :=
  .sys (.dispatch (.of c seq payload))

/-- `n` steps of the task. -/
def taskActs (n : Nat) : List (WifiSysAct Unit) := List.replicate n (.sys .task)

/-- `n` steps of a body, all calls accepted. -/
def bodyActs (n : Nat) : List (WifiSysAct Unit) := List.replicate n (.body (.rv 0))

/-- A status that shows `data`. -/
def statusEv (seq : UInt8) (data : List UInt8) : WifiSysEv where
  ev := .dispatch (.of .wifiStatus seq []) { status := .ok, data := data } none

/-- A connect that the radio refuses, then a status. -/
def refusedConnect : List (WifiSysAct Unit) :=
  [[hostAct .wifiConnectSta 1 [1, 0, 0, 0, 0x41]], taskActs 2, bodyActs 6, [.body (.rv (-1))],
    bodyActs 8, taskActs 6, [hostAct .wifiStatus 2 []]].flatten

theorem wifi_latch_exact_refusedConnect :
    ∃ tr s, (wifiSystem .reference .reference scanLimits).RunIf (StatusApart .reference)
        (.boot ()) tr s ∧
      (PublishesOnce tr ∧ StatusExact .reference .reference tr) ∧
      tr[20]? = some { ev := .publish 0 .wifiConnectSta } ∧
      tr[24]? = some (statusEv 2 [3, 1, 0, 0]) := by
  have hexec : ((wifiSystem .reference .reference scanLimits).execIf (StatusApart .reference)
      (.boot ()) refusedConnect).map (fun p => (p.2[20]?, p.2[24]?)) =
        some (some { ev := .publish 0 .wifiConnectSta }, some (statusEv 2 [3, 1, 0, 0])) := by
    decide +kernel
  obtain ⟨⟨s, tr⟩, hs, heq⟩ := Option.map_eq_some_iff.mp hexec
  obtain ⟨hpub, hstatus⟩ := Prod.mk.inj heq
  have hrun := runIf_of_execIf hs
  exact ⟨tr, s, hrun, wifi_latch_exact hrun, hpub, hstatus⟩

/-- After that a disconnect, and a status behind its first write. -/
def tornStatus : List (WifiSysAct Unit) :=
  [refusedConnect, [hostAct .wifiDisconnect 3 []], taskActs 2, bodyActs 3,
    [hostAct .wifiStatus 4 []]].flatten

/-- Without the condition a status shows a failed connect without a reason. -/
theorem torn_status_shown :
    ∃ tr s, (wifiSystem .reference .reference scanLimits).Run (.boot ()) tr s ∧
      ¬ StatusExact .reference .reference tr := by
  have hexec : ((wifiSystem .reference .reference scanLimits).exec (.boot ()) tornStatus).map
      (fun p => p.2[31]?) = some (some (statusEv 4 [3, 0, 0, 0])) := by decide +kernel
  obtain ⟨⟨s, tr⟩, hs, hat⟩ := Option.map_eq_some_iff.mp hexec
  refine ⟨tr, s, run_of_exec hs, fun hexact => ?_⟩
  obtain ⟨p, rssi, -, hstate, hx, hdata⟩ := hexact 31 _ _ _ ⟨_, hat, rfl⟩ (by decide) rfl
    .connFailed (.inr rfl) rfl
  have hfail : p.failReason = .none := by
    have hf : WifiCodes.reference.fail .none = WifiCodes.reference.fail p.failReason :=
      (List.cons.inj (List.cons.inj hdata).2).1
    exact (WifiCodes.reference.fail_inj hf).symm
  rcases hx with ⟨hc, -⟩ | ⟨-, hne⟩
  · exact absurd (hstate.symm.trans hc) nofun
  · exact hne hfail

end Cc3501eBridge
