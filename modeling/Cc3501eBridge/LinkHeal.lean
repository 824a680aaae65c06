import Cc3501eBridge.Lib.Atomic
import Cc3501eBridge.SpiSlave

/-!
# Link healing

`cc3501e_hw_link_heal` looks for signs that the SPI slave is stuck and re-opens it: no handle, a
burst of misframed request headers, a transfer that could not be armed, a reply that nobody fetches
and, inside a Wi-Fi connect, a long silence.  It runs on the bringup task, from the idle tick and from
the waits of a connect, and it may be interrupted by `on_transfer` between any two of its steps.

The state has two halves.  The first is the slave as the healing sees it, with the counters that
`on_transfer` moves: `SlaveView` is what it shares with the model of the slave itself, of which
`view_hwReinit` and `view_onTransfer` say that the steps here are those there.  The second half are the
variables of the healing.  The history `log` is written along, and nothing reads it.

The uptime and the driver's answers are set from outside at any time; a re-init takes what it finds.
This is the SPI build.  Left out are the READY line and the statistics.
-/

namespace Cc3501eBridge

open Prog

/-! ## The quiet detector -/

/-- `link_quiet_rearm_state_t`. -/
structure QuietRearm where
  healedPending : Bool := false
  healFiredXferCount : UInt32 := 0
  deriving DecidableEq, Repr

/-- `link_quiet_rearm_tick`. -/
def linkQuietRearmTick (st : QuietRearm) (atIdleHeader : Bool)
    (quietMs rearmMs xferCount : UInt32) : Bool × QuietRearm :=
  -- the same episode as long as no transfer has landed
  if st.healedPending ∧ xferCount = st.healFiredXferCount then (false, st)
  else
    let st := { st with healedPending := false }
    if !atIdleHeader then (false, st)
    else if quietMs < rearmMs then (false, st)
    else (true, { healedPending := true, healFiredXferCount := xferCount })

/-! ## The slave as the healing sees it -/

/-- What the healing and the slave share. -/
structure SlaveView where
  isOpen : Bool := false
  phase : SpiPhase := .reqHeader
  quiesce : Bool := false
  replyArmed : Bool := false
  resyncCount : UInt32 := 0
  armFailCount : UInt32 := 0
  openFailed : Bool := false
  deriving DecidableEq, Repr

/-- What became of a re-init. -/
inductive ReinitOutcome where
  | /-- Update mode with an open handle: nothing to do. -/
    noop
  | opened
  | /-- No attempt to open succeeded. -/
    failed
  deriving DecidableEq, Repr

/-- Why the slave was re-opened. -/
inductive HealCause where
  | dead
  | resync
  | armFail
  | stalled
  | /-- Silence, where `xferCount` is the count with which the detector was consulted. -/
    quiet (xferCount : UInt32)
  | /-- A caller other than the healing. -/
    other
  deriving DecidableEq, Repr

/-- What happens on the link. -/
inductive LinkEv where
  | transfer (misframed : Bool)
  | reinit (cause : HealCause) (out : ReinitOutcome)
  | /-- The resync check reads the counter. -/
    resyncCheck
  | beginConnect (xferCount : UInt32)
  deriving DecidableEq, Repr

/-- The events of an extended history are the old ones and the new one. -/
theorem getElem?_snoc {ε : Type} {tr : List ε} {e x : ε} {k : Nat} :
    (tr ++ [e])[k]? = some x ↔ tr[k]? = some x ∨ k = tr.length ∧ x = e := by
  rcases Nat.lt_trichotomy k tr.length with h | rfl | h
  · simp [List.getElem?_append_left h, Nat.ne_of_lt h]
  · simp [eq_comm]
  · have hk : (tr ++ [e]).length ≤ k := by
      rw [List.length_append, List.length_singleton]
      exact h
    simp [List.getElem?_eq_none hk, List.getElem?_eq_none (Nat.le_of_lt h), Nat.ne_of_gt h]

/-- The slave and its surroundings. -/
structure LinkSlave where
  view : SlaveView := {}
  /-- When the watched phase was armed. -/
  replyArmedMs : UInt32 := 0
  /-- The last transfer, re-opening or teardown. -/
  lastXferMs : UInt32 := 0
  xferCount : UInt32 := 0
  uptimeMs : UInt32 := 0
  /-- Whether one of the attempts to open would succeed now. -/
  opens : Bool := true
  /-- Whether a transfer would be accepted now. -/
  accepts : Bool := true
  log : List LinkEv := []
  deriving DecidableEq, Repr

/-- `CC3501E_REPLY_STALL_MS`. -/
def replyStallMs : UInt32 := 250

/-- `CC3501E_LINK_QUIET_REARM_MS`. -/
def linkQuietRearmMs : UInt32 := 3000

/-- The number of misframed headers that make a burst. -/
def resyncBurst : UInt32 := 3

/-- `bridge_transport_spi_hw_reinit`. -/
def SlaveView.hwReinit (polled opens accepts : Bool) (v : SlaveView) : ReinitOutcome × SlaveView :=
  if polled ∧ v.isOpen then (.noop, v)
  else if opens then
    (.opened, { v with
      isOpen := true
      replyArmed := false
      openFailed := false
      resyncCount := 0
      phase := .reqHeader
      armFailCount := if v.quiesce ∨ polled ∨ accepts then v.armFailCount else v.armFailCount + 1 })
  else (.failed, { v with isOpen := false, replyArmed := false, openFailed := true })

/-- `on_transfer`: whether it counted a misframed header, where it left the phase machine, whether a
watched phase is armed, and whether arming failed. -/
def SlaveView.onTransfer (misframed : Bool) (phase : SpiPhase) (replyArmed armFails : Bool)
    (v : SlaveView) : SlaveView :=
  { v with
    phase := phase
    replyArmed := replyArmed
    resyncCount := if misframed then v.resyncCount + 1 else v.resyncCount
    armFailCount := if armFails then v.armFailCount + 1 else v.armFailCount }

/-! ### The slave itself -/

section

variable {η : Type} (s : SpiSlave η) (polled opens ok : Bool)

/-- What the healing sees of the slave. -/
def SpiSlave.view : SlaveView where
  isOpen := s.isOpen
  phase := s.phase
  quiesce := s.quiesce
  replyArmed := s.replyArmed
  resyncCount := s.resyncCount
  armFailCount := s.armFailCount
  openFailed := s.openFailed

/-- Arming a transfer shows in the count of failures only. -/
theorem SpiSlave.view_armTransfer (t : SpiTransfer) :
    (s.armTransfer polled ok t).1.view = { s.view with
      armFailCount := if s.quiesce ∨ polled ∨ ok then s.armFailCount else s.armFailCount + 1 } := by
  unfold armTransfer
  cases hq : s.quiesce <;> cases polled <;> cases ok <;> simp [view, hq]

theorem SpiSlave.view_armRequestHeader :
    (s.armRequestHeader polled ok).view = { s.view with
      phase := .reqHeader
      armFailCount := if s.quiesce ∨ polled ∨ ok then s.armFailCount else s.armFailCount + 1 } := by
  unfold armRequestHeader
  rw [view_armTransfer]
  rfl

theorem SpiSlave.view_openAndArm : (s.openAndArm polled opens ok).view =
    if opens then { s.view with
      isOpen := true
      replyArmed := false
      openFailed := false
      resyncCount := 0
      phase := .reqHeader
      armFailCount := if s.quiesce ∨ polled ∨ ok then s.armFailCount else s.armFailCount + 1 }
    else { s.view with isOpen := false, replyArmed := false, openFailed := true } := by
  unfold openAndArm
  cases opens with
  | false => rfl
  | true =>
      rw [if_pos rfl, if_pos rfl, view_armRequestHeader]
      rfl

/-- The re-init of the slave. -/
theorem SpiSlave.view_hwReinit :
    (s.hwReinit polled opens ok).view = (s.view.hwReinit polled opens ok).2 := by
  have hopen : s.view.isOpen = s.isOpen := rfl
  unfold hwReinit SlaveView.hwReinit
  rw [hopen]
  by_cases hc : polled = true ∧ s.isOpen = true
  · rw [if_pos hc, if_pos hc]
  · rw [if_neg hc, if_neg hc, view_openAndArm]
    cases opens <;> cases ho : s.isOpen <;> simp [close, view, ho]

/-- The changes `on_transfer` may make. -/
def SlaveView.Moves (misframed : Bool) (v v' : SlaveView) : Prop :=
  ∃ phase replyArmed armFails, v' = v.onTransfer misframed phase replyArmed armFails

theorem SpiSlave.moves_armRequestHeader :
    s.view.Moves false (s.armRequestHeader polled ok).view := by
  refine ⟨.reqHeader, s.replyArmed, !(s.quiesce || polled || ok), ?_⟩
  rw [view_armRequestHeader]
  cases hq : s.quiesce <;> cases polled <;> cases ok <;> simp [view, SlaveView.onTransfer, hq]

theorem SpiSlave.moves_armWatched (phase : SpiPhase) (t : SpiTransfer) :
    s.view.Moves false (s.armWatched polled ok phase t).view := by
  refine ⟨phase, if (({ s with phase := phase } : SpiSlave η).armTransfer polled ok t).2 then true
    else s.replyArmed, !(s.quiesce || polled || ok), ?_⟩
  cases hq : s.quiesce <;> cases polled <;> cases ok <;>
    simp [armWatched, armTransfer, view, SlaveView.onTransfer, hq]

/-- The ended transfer was a request header that is none. -/
def SpiSlave.misframes (status : SpiStatus) : Bool :=
  decide (status = .completed ∧ s.phase = .reqHeader ∧ s.frameBuf 0 ≥ cmdReservedVendorBase)

theorem SpiSlave.moves_advance (E : Env η) (D : Dispatcher η) :
    s.view.Moves (s.misframes .completed) (s.advance E D polled ok).1.view := by
  unfold advance misframes
  cases hph : s.phase with
  | reqHeader =>
      by_cases hres : s.frameBuf 0 ≥ cmdReservedVendorBase
      · obtain ⟨phase, replyArmed, armFails, h⟩ := moves_armRequestHeader
          ({ s with resyncCount := s.resyncCount + 1 } : SpiSlave η) polled ok
        simp only [hres, if_true, and_self, decide_true]
        exact ⟨phase, replyArmed, armFails, h⟩
      · simp only [hres, if_false, and_false, decide_false]
        split_ifs
        · exact moves_armWatched _ polled ok _ _
        · exact moves_armWatched _ polled ok _ _
  | reqPayload => exact moves_armWatched _ polled ok _ _
  | replyHeader => exact moves_armWatched s polled ok _ _
  | replyPayload => exact moves_armRequestHeader s polled ok

/-- The callback of the slave. -/
theorem SpiSlave.view_onTransfer (E : Env η) (D : Dispatcher η) (status : SpiStatus) :
    s.view.Moves (s.misframes status) (s.onTransfer E D polled ok status).1.view := by
  cases status with
  | completed =>
      exact moves_advance ({ s with replyArmed := false, ready := false } : SpiSlave η) polled ok E D
  | canceled => exact ⟨s.phase, false, false, rfl⟩
  | failed =>
      exact moves_armRequestHeader ({ s with replyArmed := false, ready := false } : SpiSlave η)
        polled ok

end

namespace LinkSlave

/-- An event is logged. -/
def logged (s : LinkSlave) (e : LinkEv) : LinkSlave := { s with log := s.log ++ [e] }

/-- `bridge_transport_spi_phase_stalled`. -/
def phaseStalled (s : LinkSlave) : Bool :=
  s.view.replyArmed && decide (replyStallMs < s.uptimeMs - s.replyArmedMs)

/-- `bridge_transport_spi_quiet_ms`. -/
def quietMs (s : LinkSlave) : UInt32 := s.uptimeMs - s.lastXferMs

/-- `bridge_transport_spi_hw_reinit`, for a reason. -/
def hwReinit (polled : Bool) (cause : HealCause) (s : LinkSlave) : LinkSlave :=
  let r := s.view.hwReinit polled s.opens s.accepts
  ({ s with
      view := r.2
      lastXferMs := if r.1 = .opened then s.uptimeMs else s.lastXferMs } : LinkSlave).logged
    (.reinit cause r.1)

/-- A re-init logs what became of it, and only an opening zeroes the counter. -/
theorem hwReinit_cases (polled : Bool) (cause : HealCause) (s : LinkSlave) :
    ∃ out, (s.hwReinit polled cause).log = s.log ++ [.reinit cause out] ∧
      (s.hwReinit polled cause).view.resyncCount =
        if out = .opened then 0 else s.view.resyncCount := by
  refine ⟨(s.view.hwReinit polled s.opens s.accepts).1, rfl, ?_⟩
  change (s.view.hwReinit polled s.opens s.accepts).2.resyncCount = _
  unfold SlaveView.hwReinit
  split_ifs <;> simp_all

/-- `bridge_transport_spi_hw_release`, and `_suspend` once the cancelled transfer has called
`on_transfer`. -/
def hwRelease (polled : Bool) (s : LinkSlave) : LinkSlave :=
  if polled then s
  else
    { s with
      view := { s.view with isOpen := false, phase := .reqHeader, replyArmed := false }
      lastXferMs := s.uptimeMs }

@[simp] theorem hwRelease_log (polled : Bool) (s : LinkSlave) : (s.hwRelease polled).log = s.log := by
  cases polled <;> rfl

@[simp] theorem hwRelease_xferCount (polled : Bool) (s : LinkSlave) :
    (s.hwRelease polled).xferCount = s.xferCount := by
  cases polled <;> rfl

@[simp] theorem hwRelease_resyncCount (polled : Bool) (s : LinkSlave) :
    (s.hwRelease polled).view.resyncCount = s.view.resyncCount := by
  cases polled <;> rfl

/-- `on_transfer`. -/
def onTransfer (misframed : Bool) (phase : SpiPhase) (replyArmed armFails : Bool) (s : LinkSlave) :
    LinkSlave :=
  ({ s with
      view := s.view.onTransfer misframed phase replyArmed armFails
      replyArmedMs := if replyArmed then s.uptimeMs else s.replyArmedMs
      lastXferMs := s.uptimeMs
      xferCount := s.xferCount + 1 } : LinkSlave).logged (.transfer misframed)

end LinkSlave

/-- The variables of the healing. -/
structure LinkHealing where
  lastResync : UInt32 := 0
  lastArmFail : UInt32 := 0
  quietArmAfterXferCount : UInt32 := 0
  quietFiredThisCall : Bool := false
  quietState : QuietRearm := {}
  quietRearmHealCount : UInt32 := 0
  deriving DecidableEq, Repr

/-- The slave and the healing. -/
abbrev LinkState : Type := LinkSlave × LinkHealing

/-- After reset. -/
def LinkState.boot : LinkState := ({}, {})

/-! ## The bodies -/

section

variable (polled : Bool)

/-- Re-open the slave. -/
def spiReinit (cause : HealCause) : Prog LinkState Unit :=
  modify fun s => (s.1.hwReinit polled cause, s.2)

/-- Change a variable of the healing. -/
def healing (f : LinkHealing → LinkHealing) : Prog LinkState Unit := modify fun s => (s.1, f s.2)

/-- `rc = g_resync_count`. -/
def resyncSnapshot : Prog LinkState UInt32 :=
  atomically fun s => (s.1.view.resyncCount, (s.1.logged .resyncCheck, s.2))

/-- The recovery from a burst of misframed headers. -/
def resyncHeal : Prog LinkState Unit := do
  let rc ← resyncSnapshot
  let last ← get (·.2.lastResync)
  -- a re-init has zeroed the counter since
  onlyIf (rc < last) (healing ({ · with lastResync := 0 }))
  let last ← get (·.2.lastResync)
  if resyncBurst ≤ rc - last then do
    spiReinit polled .resync
    healing ({ · with lastResync := 0 })
  else healing ({ · with lastResync := rc })

/-- The recovery from a transfer that could not be armed. -/
def armFailHeal : Prog LinkState Unit := do
  let af ← get (·.1.view.armFailCount)
  let last ← get (·.2.lastArmFail)
  onlyIf (af ≠ last) do
    spiReinit polled .armFail
    healing ({ · with lastArmFail := af })

/-- `link_quiet_rearm_tick` on the state of the healing. -/
def quietTick (atIdleHeader : Bool) (quietMs xferCount : UInt32) : Prog LinkState Bool :=
  atomically fun s =>
    let r := linkQuietRearmTick s.2.quietState atIdleHeader quietMs linkQuietRearmMs xferCount
    (r.1, (s.1, { s.2 with quietState := r.2 }))

/-- The recovery from silence, inside a connect. -/
def quietHeal : Prog LinkState Unit := do
  let fired ← get (·.2.quietFiredThisCall)
  onlyIf (!fired) do
    let seen ← get (·.1.xferCount)
    let after ← get (·.2.quietArmAfterXferCount)
    onlyIf (seen ≠ after) do
      let atIdleHeader ← get fun s => decide (s.1.view.phase = .reqHeader)
      let xferCount ← get (·.1.xferCount)
      let quietMs ← get (·.1.quietMs)
      let fire ← quietTick atIdleHeader quietMs xferCount
      onlyIf fire do
        spiReinit polled (.quiet seen)
        healing fun h => { h with
          quietRearmHealCount := h.quietRearmHealCount + 1
          quietFiredThisCall := true }

/-- `cc3501e_hw_link_heal`. -/
def linkHeal (inConnectWait : Bool) : Prog LinkState Unit := do
  let dead ← get (·.1.view.openFailed)
  onlyIf dead (spiReinit polled .dead)
  resyncHeal polled
  armFailHeal polled
  let stalled ← get (·.1.phaseStalled)
  onlyIf stalled (spiReinit polled .stalled)
  onlyIf inConnectWait (quietHeal polled)

/-- `cc3501e_hw_link_heal_begin_connect`. -/
def linkHealBeginConnect : Prog LinkState Unit := do
  let xferCount ← atomically fun s =>
    (s.1.xferCount, (s.1.logged (.beginConnect s.1.xferCount), s.2))
  healing ({ · with quietArmAfterXferCount := xferCount })
  healing ({ · with quietFiredThisCall := false })

end

/-! ## The machine -/

/-- What comes from outside. -/
inductive LinkIrq where
  | transfer (misframed : Bool) (phase : SpiPhase) (replyArmed armFails : Bool)
  | uptime (ms : UInt32)
  | driver (opens accepts : Bool)
  | quiesce (on : Bool)
  deriving DecidableEq, Repr

/-- What an interrupt does. -/
def LinkIrq.run (s : LinkSlave) : LinkIrq → LinkSlave
  | .transfer misframed phase replyArmed armFails => s.onTransfer misframed phase replyArmed armFails
  | .uptime ms => { s with uptimeMs := ms }
  | .driver opens accepts => { s with opens := opens, accepts := accepts }
  | .quiesce on => { s with view := { s.view with quiesce := on } }

/-- An interrupt logs a transfer and counts it, or does neither. -/
theorem LinkIrq.run_cases (i : LinkIrq) (s : LinkSlave) :
    (∃ misframed, (i.run s).log = s.log ++ [.transfer misframed] ∧
      (i.run s).view.resyncCount =
        if misframed then s.view.resyncCount + 1 else s.view.resyncCount) ∨
      ((i.run s).log = s.log ∧ (i.run s).xferCount = s.xferCount ∧
        (i.run s).view.resyncCount = s.view.resyncCount) := by
  cases i with
  | transfer misframed phase replyArmed armFails => exact .inl ⟨misframed, rfl, rfl⟩
  | uptime ms => exact .inr ⟨rfl, rfl, rfl⟩
  | driver opens accepts => exact .inr ⟨rfl, rfl, rfl⟩
  | quiesce on => exact .inr ⟨rfl, rfl, rfl⟩

/-- What the task runs. -/
inductive LinkOp where
  | heal (inConnectWait : Bool)
  | beginConnect
  | /-- A re-init by another caller. -/
    reinit
  | release
  deriving DecidableEq, Repr

/-- What a call does. -/
def LinkOp.body (polled : Bool) : LinkOp → Prog LinkState Unit
  | .heal inConnectWait => linkHeal polled inConnectWait
  | .beginConnect => linkHealBeginConnect
  | .reinit => spiReinit polled .other
  | .release => modify fun s => (s.1.hwRelease polled, s.2)

/-- The bringup task and what comes from outside. -/
def linkTasks (polled : Bool) : Tasks LinkState LinkIrq LinkOp where
  interrupt i s := (i.run s.1, s.2)
  body k := k.body polled

/-- Interrupts leave the variables of the healing alone. -/
theorem healing_of_interrupted {polled : Bool} {s s' : LinkState}
    (h : (linkTasks polled).Interrupted s s') : s'.2 = s.2 := by
  induction h with
  | refl => rfl
  | tail _ hstep ih =>
      obtain ⟨i, rfl⟩ := hstep
      exact ih

end Cc3501eBridge
