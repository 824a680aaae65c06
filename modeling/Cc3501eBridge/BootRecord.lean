import Cc3501eBridge.Ota
import Cc3501eBridge.Reboot

/-!
# What a boot says of the one before

The statics of `cc3501e_hw_ti.c` and `cc3501e_hw_ti_log.c` that reboots hang on, over any number of
boots: the deferred reset, the deferred swap of an OTA image, the commit of a trial image, and the
marker by which a boot knows that the firmware itself asked for the reset.

The tick runs on the bring-up task; requests, drained replies and the query of the reset cause come
from the SPI interrupt and fall between any two steps of the tick.  What the SDK answers is open:
`psa_fwu_accept` may ask for a reboot, and `psa_fwu_request_reboot` may return or not.  Of the other
work of the tick only the end of the OTA pump appears, which has a say in the mode of the next boot.
-/

namespace Cc3501eBridge

open Trace

/-! ## The reset cause -/

/-- `PowerWFF3_ResetReason`. -/
inductive PowerResetReason
  | m33wd | bod | rvml | rvmh | cpu | rfcore | dssm | pinPor | unknown
  deriving DecidableEq, Repr

/-- `ALP_CC3501E_RESET_*`. -/
inductive ResetCause
  | powerOn | soft | watchdog | brownout | unknown
  deriving DecidableEq, Repr

/-- The `switch` of `cc3501e_hw_reset_cause`. -/
def PowerResetReason.cause : PowerResetReason → ResetCause
  | .m33wd => .watchdog
  | .bod | .rvml | .rvmh => .brownout
  | .cpu | .rfcore => .soft
  | .dssm => .unknown
  | .pinPor => .powerOn
  | .unknown => .unknown

/-- `g_soft_reset_mark`: memory that is not initialised at boot. -/
structure SoftResetMark where
  magic : UInt32
  magicInv : UInt32
  deriving DecidableEq, Repr

/-- `CC3501E_SOFT_RESET_MAGIC`. -/
def softResetMagic : UInt32 := 0x5253464C

namespace SoftResetMark

/-- The exact contents that count. -/
def Armed (m : SoftResetMark) : Prop := m.magic = softResetMagic ∧ m.magicInv = ~~~softResetMagic

instance decidableArmed (m : SoftResetMark) : Decidable m.Armed :=
  inferInstanceAs (Decidable (_ ∧ _))

/-- What `cc3501e_hw_request_reset` leaves. -/
def armed : SoftResetMark := { magic := softResetMagic, magicInv := ~~~softResetMagic }

/-- What `cc3501e_hw_take_soft_reset_mark` leaves. -/
def taken : SoftResetMark := { magic := 0, magicInv := 0 }

theorem armed_armed : armed.Armed := ⟨rfl, rfl⟩

theorem not_armed_taken : ¬ taken.Armed := by decide

end SoftResetMark

/-! ## The statics -/

/-- Where the bring-up task is in `cc3501e_hw_tick`. -/
inductive TickPc
  | idle
  | /-- At the gate before the commit. -/
    gate
  | /-- In `psa_fwu_accept`. -/
    accepting
  | /-- In the `psa_fwu_request_reboot` that finalizes the commit. -/
    committing
  | /-- At the OTA pump. -/
    pump
  | /-- About to read `reset_pending`. -/
    resetPending
  | /-- Has read it set, about to read `reply_drained`. -/
    resetDrained
  | /-- Has read both set, about to reset. -/
    resetting
  | /-- About to read `ota_reboot_pending`. -/
    swapPending
  | /-- Has read it set, about to read `reply_drained`. -/
    swapDrained
  | /-- Has read both set, about to clear `ota_reboot_pending`. -/
    clearing
  | /-- In the `psa_fwu_request_reboot` that swaps the image. -/
    swapping
  | /-- The chip resets. -/
    down
  deriving DecidableEq, Repr

/-- The statics that live through a boot, and the marker that outlives it. -/
structure Chip where
  latches : Reboot
  mark : SoftResetMark
  /-- `latched`, once `have_latched` is set. -/
  cause : Option ResetCause
  /-- What `PowerWFF3_getResetReason` answers in this boot. -/
  reason : PowerResetReason
  /-- `g_host_txn_count`. -/
  hostTxnCount : UInt32
  fwuInited : Bool
  fwuAcceptDone : Bool
  otaRebootPending : Bool
  otaRebootRc : Int8
  pc : TickPc
  deriving DecidableEq, Repr

namespace Chip

/-- The start of a boot, with what the memory that is not initialised holds. -/
def boot (w : Bool) (p : Persist) (mark : SoftResetMark) (reason : PowerResetReason) : Chip where
  latches := .boot w p
  mark := mark
  cause := none
  reason := reason
  hostTxnCount := 0
  fwuInited := false
  fwuAcceptDone := false
  otaRebootPending := false
  otaRebootRc := 0
  pc := .idle

/-- `cc3501e_hw_request_reset`. -/
def requestReset (w : Bool) (s : Chip) : Chip :=
  { s with
    latches := hwRequestReset s.latches
    mark := if w then .armed else s.mark }

/-- `cc3501e_hw_notify_reply_sent`. -/
def notifyReplySent (s : Chip) : Chip :=
  { s with
    latches := hwNotifyReplySent s.latches
    hostTxnCount := if s.hostTxnCount ≠ 0xFFFFFFFF then s.hostTxnCount + 1 else s.hostTxnCount }

/-- `cc3501e_hw_ota_promote`. -/
def otaPromote (w : Bool) (s : Chip) : Chip :=
  { s with
    latches := hwOtaPromote w s.latches
    otaRebootPending := true }

/-- `cc3501e_hw_take_soft_reset_mark`. -/
def takeSoftResetMark (w : Bool) (s : Chip) : Bool × Chip :=
  if w then (decide s.mark.Armed, { s with mark := .taken }) else (false, s)

/-- `cc3501e_hw_reset_cause`. -/
def resetCause (w : Bool) (s : Chip) : ResetCause × Chip :=
  match s.cause with
  | some latched => (latched, s)
  | none =>
      let taken := s.takeSoftResetMark w
      let latched := if taken.1 then .soft else s.reason.cause
      (latched, { taken.2 with cause := some latched })

end Chip

/-! ## The machine -/

/-- What can happen next. -/
inductive ChipAct
  | /-- The task goes on. -/
    tick
  | /-- `psa_fwu_accept` returns, `PSA_SUCCESS_REBOOT` or something else. -/
    accepted (reboot : Bool)
  | /-- `psa_fwu_request_reboot` returns, or the chip reboots. -/
    rebooted (rc : Option Int32)
  | /-- The OTA pump is done with an operation, or had none. -/
    pumped (done : Option (OtaOp × Int))
  | requestReset
  | notifyReplySent
  | otaPromote
  | /-- `bridge_transport_spi_request_polled_boot` or `_clear_polled_boot`. -/
    polledBoot (request : Bool)
  | resetCause
  | /-- A reset that keeps the memory. -/
    warm (reason : PowerResetReason)
  | /-- A reset that does not. -/
    powerUp (p : Persist) (mark : SoftResetMark) (reason : PowerResetReason)

/-- What a step shows. -/
inductive ChipEv
  | /-- A reset was asked for. -/
    asked
  | /-- A reply has drained to its end. -/
    drained
  | promoted
  | /-- The answer to a query of the reset cause, and whether it had to be found out. -/
    cause (first : Bool) (c : ResetCause)
  | /-- The tick has come to the gate before the commit. -/
    gate (opened : Bool)
  | /-- The tick has read that a reset is due. -/
    resetDue
  | /-- `NVIC_SystemReset`. -/
    reset
  | /-- The tick has read that the swap of an image is due. -/
    swapDue
  | /-- It asks for the swap. -/
    swap
  | /-- It was refused, with the code that the host gets to read. -/
    refused (rc : Int8)
  | warm (reason : PowerResetReason)
  | powerUp (reason : PowerResetReason)
  | tau
  deriving DecidableEq, Repr

/-- The task's steps, outside the calls into the SDK. -/
def tickStep (s : Chip) : Option (Chip × ChipEv) :=
  match s.pc with
  | .idle => some ({ s with fwuInited := true, pc := .gate }, .tau)
  | .gate =>
      if s.fwuAcceptDone = false ∧ 0 < s.hostTxnCount then
        some ({ s with fwuAcceptDone := true, pc := .accepting }, .gate true)
      else some ({ s with pc := .pump }, .gate false)
  | .resetPending =>
      some ({ s with pc := if s.latches.resetPending then .resetDrained else .swapPending }, .tau)
  | .resetDrained =>
      if s.latches.replyDrained then some ({ s with pc := .resetting }, .resetDue)
      else some ({ s with pc := .swapPending }, .tau)
  | .resetting => some ({ s with pc := .down }, .reset)
  | .swapPending =>
      some ({ s with pc := if s.otaRebootPending then .swapDrained else .idle }, .tau)
  | .swapDrained =>
      if s.latches.replyDrained then some ({ s with pc := .clearing }, .swapDue)
      else some ({ s with pc := .idle }, .tau)
  | .clearing => some ({ s with otaRebootPending := false, pc := .swapping }, .swap)
  | .accepting | .committing | .pump | .swapping | .down => none

/-- A call of `psa_fwu_request_reboot` ends. -/
def rebootedStep (s : Chip) (rc : Option Int32) : Option (Chip × ChipEv) :=
  match s.pc, rc with
  | .committing, none | .swapping, none => some ({ s with pc := .down }, .tau)
  | .committing, some _ => some ({ s with pc := .pump }, .tau)
  | .swapping, some rc =>
      some ({ s with otaRebootRc := rc.toInt8, pc := .idle }, .refused rc.toInt8)
  | _, _ => none

/-- One step.  The interrupts come as long as the chip is up. -/
def chipStep (w : Bool) (s : Chip) : ChipAct → Option (Chip × ChipEv)
  | .tick => tickStep s
  | .accepted reboot =>
      if s.pc = .accepting then
        some ({ s with pc := if reboot then .committing else .pump }, .tau)
      else none
  | .rebooted rc => rebootedStep s rc
  | .pumped done =>
      if s.pc = .pump then
        some ({ s with
          latches := match done with
            | some (op, rc) => if op = .finish ∧ rc = hwOk then (spiClearPolledBoot w s.latches).2
                else s.latches
            | none => s.latches
          pc := .resetPending }, .tau)
      else none
  | .requestReset => if s.pc = .down then none else some (s.requestReset w, .asked)
  | .notifyReplySent => if s.pc = .down then none else some (s.notifyReplySent, .drained)
  | .otaPromote => if s.pc = .down then none else some (s.otaPromote w, .promoted)
  | .polledBoot request =>
      if s.pc = .down then none
      else some ({ s with latches := (if request then spiRequestPolledBoot w s.latches
        else spiClearPolledBoot w s.latches).2 }, .tau)
  | .resetCause =>
      if s.pc = .down then none
      else some ((s.resetCause w).2, .cause s.cause.isNone (s.resetCause w).1)
  | .warm reason => some (.boot w s.latches.persist s.mark reason, .warm reason)
  | .powerUp p mark reason => some (.boot w p mark reason, .powerUp reason)

/-- The chip over its boots. -/
def chipSystem (w : Bool) : Machine Chip ChipAct ChipEv where
  step := chipStep w

/-- Memory that was lost does not come up with the marker's exact contents. -/
def MarkLost (_ : Chip) : ChipAct → Prop
  | .powerUp _ mark _ => ¬ mark.Armed
  | _ => True

instance MarkLost.decidable (s : Chip) : (a : ChipAct) → Decidable (MarkLost s a)
  | .powerUp _ mark _ => inferInstanceAs (Decidable (¬ mark.Armed))
  | .tick | .accepted _ | .rebooted _ | .pumped _ | .requestReset | .notifyReplySent | .otaPromote
  | .polledBoot _ | .resetCause | .warm _ => isTrue trivial

/-! ## What is to be shown -/

namespace ChipEv

/-- A boot of either kind. -/
def IsBoot (e : ChipEv) : Prop := (∃ reason, e = .warm reason) ∨ ∃ reason, e = .powerUp reason

/-- The reply that is still to drain is another one now. -/
def Rearms (e : ChipEv) : Prop := e = .asked ∨ e = .promoted ∨ e.IsBoot

/-- The marker is lost or taken. -/
def Unmarks (e : ChipEv) : Prop := (∃ reason, e = .powerUp reason) ∨ ∃ c, e = .cause true c

/-- The reason of the boot that begins. -/
def booted : ChipEv → Option PowerResetReason
  | .warm reason | .powerUp reason => some reason
  | _ => none

/-- An answer to a query of the reset cause. -/
def isCause : ChipEv → Bool
  | .cause _ _ => true
  | _ => false

/-- The code that the host gets to read from here on. -/
def rebootRc : ChipEv → Option Int8
  | .warm _ | .powerUp _ => some 0
  | .refused rc => some rc
  | _ => none

end ChipEv

/-- The firmware has asked for a reset, and the marker has stayed since. -/
def Marked (tr : List ChipEv) : Prop := Since (· = .asked) ChipEv.Unmarks tr

/-- What an answer to a query of the reset cause says, `reason` being that of the first boot. -/
def CauseExact (w : Bool) (reason : PowerResetReason) (tr : List ChipEv) : ChipEv → Prop
  | .cause true c =>
      ¬ Since (fun e => ∃ first c, e = .cause first c) ChipEv.IsBoot tr ∧
        (w = true ∧ Marked tr → c = .soft) ∧
        (¬ (w = true ∧ Marked tr) → c = ((latest ChipEv.booted tr).getD reason).cause)
  | .cause false c => Since (· = .cause true c) ChipEv.IsBoot tr
  | _ => True

/-- What takes a promotion. -/
def ChipEv.Takes (e : ChipEv) : Prop := e = .swap ∨ e.IsBoot

/-- What has come before the tick commits, and before it resets or swaps and the decision to. -/
def TickExact (tr : List ChipEv) : ChipEv → Prop
  | .gate opened =>
      opened = true ↔ Since (· = .drained) ChipEv.IsBoot tr ∧
        ¬ Since (· = .gate true) ChipEv.IsBoot tr
  | .resetDue => Since (· = .asked) ChipEv.IsBoot tr ∧ Since (· = .drained) ChipEv.Rearms tr
  | .reset => Since (· = .resetDue) ChipEv.IsBoot tr
  | .swapDue => Since (· = .promoted) ChipEv.Takes tr ∧ Since (· = .drained) ChipEv.Rearms tr
  | .swap => Since (· = .promoted) ChipEv.Takes tr ∧ Since (· = .swapDue) ChipEv.Takes tr
  | _ => True

/-! ## What a step does -/

/-- The kinds of step. -/
inductive ChipTrans (w : Bool) (s : Chip) : Chip → ChipEv → Prop
  | /-- The task moves on, or the mode of the next boot changes. -/
    quiet (p : Persist) (fwuInited : Bool) (pc : TickPc) :
      (pc = .resetDrained → s.pc ≠ .resetDrained → s.latches.resetPending = true) →
      (pc = .swapDrained → s.pc ≠ .swapDrained → s.otaRebootPending = true) →
      (pc = .resetting ∨ pc = .clearing → s.pc = pc) →
      ChipTrans w s
        { s with latches := { s.latches with persist := p }, fwuInited := fwuInited, pc := pc } .tau
  | gateOpen : s.fwuAcceptDone = false → 0 < s.hostTxnCount →
      ChipTrans w s { s with fwuAcceptDone := true, pc := .accepting } (.gate true)
  | gateShut : ¬ (s.fwuAcceptDone = false ∧ 0 < s.hostTxnCount) →
      ChipTrans w s { s with pc := .pump } (.gate false)
  | resetDue : s.pc = .resetDrained → s.latches.replyDrained = true →
      ChipTrans w s { s with pc := .resetting } .resetDue
  | reset : s.pc = .resetting → ChipTrans w s { s with pc := .down } .reset
  | swapDue : s.pc = .swapDrained → s.latches.replyDrained = true →
      ChipTrans w s { s with pc := .clearing } .swapDue
  | swap : s.pc = .clearing →
      ChipTrans w s { s with otaRebootPending := false, pc := .swapping } .swap
  | refused {rc : Int8} : ChipTrans w s { s with otaRebootRc := rc, pc := .idle } (.refused rc)
  | asked : ChipTrans w s (s.requestReset w) .asked
  | drained : ChipTrans w s s.notifyReplySent .drained
  | promoted (p : Persist) :
      ChipTrans w s
        { s with
          latches := { s.latches with persist := p, replyDrained := false }
          otaRebootPending := true } .promoted
  | causeFirst : s.cause = none →
      ChipTrans w s
        { s with
          mark := if w then .taken else s.mark
          cause := some (if w = true ∧ s.mark.Armed then .soft else s.reason.cause) }
        (.cause true (if w = true ∧ s.mark.Armed then .soft else s.reason.cause))
  | causeAgain {c : ResetCause} : s.cause = some c → ChipTrans w s s (.cause false c)
  | warm {reason : PowerResetReason} :
      ChipTrans w s (.boot w s.latches.persist s.mark reason) (.warm reason)
  | powerUp {p : Persist} {mark : SoftResetMark} {reason : PowerResetReason} : ¬ mark.Armed →
      ChipTrans w s (.boot w p mark reason) (.powerUp reason)

section

variable {w : Bool} {s s' : Chip} {a : ChipAct} {e : ChipEv}

/-- The task alone. -/
theorem ChipTrans.moved {fwuInited : Bool} {pc : TickPc}
    (hr : pc = .resetDrained → s.pc ≠ .resetDrained → s.latches.resetPending = true)
    (hsw : pc = .swapDrained → s.pc ≠ .swapDrained → s.otaRebootPending = true)
    (hdue : pc ≠ .resetting ∧ pc ≠ .clearing) :
    ChipTrans w s { s with fwuInited := fwuInited, pc := pc } .tau :=
  .quiet s.latches.persist fwuInited pc hr hsw fun h => (h.elim hdue.1 hdue.2).elim

private theorem tickStep_trans (h : tickStep s = some (s', e)) : ChipTrans w s s' e := by
  unfold tickStep at h
  cases hpc : s.pc with
  | idle =>
      obtain ⟨rfl, rfl⟩ := by simpa [hpc] using h
      exact .moved (by simp) (by simp) (by simp)
  | gate =>
      simp only [hpc] at h
      split_ifs at h with hg
      · obtain ⟨rfl, rfl⟩ := by simpa using h
        exact .gateOpen hg.1 hg.2
      · obtain ⟨rfl, rfl⟩ := by simpa using h
        exact .gateShut hg
  | resetPending =>
      obtain ⟨rfl, rfl⟩ := by simpa [hpc] using h
      refine .moved (fun hd _ => ?_) (fun hd => ?_) ?_
      · by_contra hn
        simp [hn] at hd
      · split_ifs at hd
      · split_ifs <;> simp
  | resetDrained =>
      simp only [hpc] at h
      split_ifs at h with hd
      · obtain ⟨rfl, rfl⟩ := by simpa using h
        exact .resetDue hpc hd
      · obtain ⟨rfl, rfl⟩ := by simpa using h
        exact .moved (by simp) (by simp) (by simp)
  | resetting =>
      obtain ⟨rfl, rfl⟩ := by simpa [hpc] using h
      exact .reset hpc
  | swapPending =>
      obtain ⟨rfl, rfl⟩ := by simpa [hpc] using h
      refine .moved (fun hd => ?_) (fun hd _ => ?_) ?_
      · split_ifs at hd
      · by_contra hn
        simp [hn] at hd
      · split_ifs <;> simp
  | swapDrained =>
      simp only [hpc] at h
      split_ifs at h with hd
      · obtain ⟨rfl, rfl⟩ := by simpa using h
        exact .swapDue hpc hd
      · obtain ⟨rfl, rfl⟩ := by simpa using h
        exact .moved (by simp) (by simp) (by simp)
  | clearing =>
      obtain ⟨rfl, rfl⟩ := by simpa [hpc] using h
      exact .swap hpc
  | _ => simp [hpc] at h

private theorem rebootedStep_trans {rc : Option Int32} (h : rebootedStep s rc = some (s', e)) :
    ChipTrans w s s' e := by
  unfold rebootedStep at h
  split at h
  · obtain ⟨rfl, rfl⟩ := by simpa using h
    exact .moved (by simp) (by simp) (by simp)
  · obtain ⟨rfl, rfl⟩ := by simpa using h
    exact .moved (by simp) (by simp) (by simp)
  · obtain ⟨rfl, rfl⟩ := by simpa using h
    exact .moved (by simp) (by simp) (by simp)
  · obtain ⟨rfl, rfl⟩ := by simpa using h
    exact .refused
  · simp at h

/-- Both ways to set the mode of the next boot touch nothing else. -/
theorem spiClearPolledBoot_latches (h : Reboot) :
    ∃ p, (spiClearPolledBoot w h).2 = { h with persist := p } := by
  unfold spiClearPolledBoot
  split_ifs
  · exact ⟨_, rfl⟩
  · exact ⟨h.persist, rfl⟩

theorem spiRequestPolledBoot_latches (h : Reboot) :
    ∃ p, (spiRequestPolledBoot w h).2 = { h with persist := p } := by
  unfold spiRequestPolledBoot
  split_ifs
  · exact ⟨_, rfl⟩
  · exact ⟨h.persist, rfl⟩

theorem pumped_latches (h : Reboot) (done : Option (OtaOp × Int)) :
    ∃ p, (match done with
      | some (op, rc) => if op = .finish ∧ rc = hwOk then (spiClearPolledBoot w h).2 else h
      | none => h) = { h with persist := p } := by
  cases done with
  | none => exact ⟨h.persist, rfl⟩
  | some x =>
      dsimp only
      split_ifs
      · exact spiClearPolledBoot_latches h
      · exact ⟨h.persist, rfl⟩

/-- A query of the reset cause finds it out or knows it. -/
theorem resetCause_trans (w : Bool) (s : Chip) :
    ChipTrans w s (s.resetCause w).2 (.cause s.cause.isNone (s.resetCause w).1) := by
  unfold Chip.resetCause Chip.takeSoftResetMark
  cases hc : s.cause with
  | some c => exact .causeAgain hc
  | none =>
      have h := ChipTrans.causeFirst (w := w) hc
      cases w with
      | true => simpa using h
      | false => simpa using h

/-- Every step is of one of the kinds. -/
theorem chipStep_trans (hg : MarkLost s a) (h : (chipSystem w).step s a = some (s', e)) :
    ChipTrans w s s' e := by
  change chipStep w s a = _ at h
  cases a with
  | tick => exact tickStep_trans h
  | accepted reboot =>
      simp only [chipStep] at h
      by_cases hpc : s.pc = .accepting
      · rw [if_pos hpc] at h
        obtain ⟨rfl, rfl⟩ := by simpa using h
        cases reboot with
        | true => exact .moved (by simp) (by simp) (by simp)
        | false => exact .moved (by simp) (by simp) (by simp)
      · simp [hpc] at h
  | rebooted rc => exact rebootedStep_trans h
  | pumped done =>
      simp only [chipStep] at h
      by_cases hpc : s.pc = .pump
      · rw [if_pos hpc] at h
        obtain ⟨rfl, rfl⟩ := by simpa using h
        obtain ⟨p, hp⟩ := pumped_latches (w := w) s.latches done
        simp only [hp]
        exact .quiet p s.fwuInited .resetPending (by simp) (by simp) (by simp)
      · simp [hpc] at h
  | requestReset =>
      simp only [chipStep] at h
      split_ifs at h
      obtain ⟨rfl, rfl⟩ := by simpa using h
      exact .asked
  | notifyReplySent =>
      simp only [chipStep] at h
      split_ifs at h
      obtain ⟨rfl, rfl⟩ := by simpa using h
      exact .drained
  | otaPromote =>
      simp only [chipStep] at h
      split_ifs at h
      obtain ⟨rfl, rfl⟩ := by simpa using h
      obtain ⟨p, hp⟩ := spiClearPolledBoot_latches (w := w) s.latches
      rw [Chip.otaPromote, hwOtaPromote, hp]
      exact .promoted p
  | polledBoot request =>
      simp only [chipStep] at h
      by_cases hd : s.pc = .down
      · simp [hd] at h
      · rw [if_neg hd] at h
        obtain ⟨rfl, rfl⟩ := by simpa using h
        obtain ⟨p, hp⟩ : ∃ p, (if request then spiRequestPolledBoot w s.latches
            else spiClearPolledBoot w s.latches).2 = { s.latches with persist := p } := by
          cases request with
          | true => exact spiRequestPolledBoot_latches s.latches
          | false => exact spiClearPolledBoot_latches s.latches
        simp only [hp]
        exact .quiet p s.fwuInited s.pc (fun h1 h2 => absurd h1 h2) (fun h1 h2 => absurd h1 h2)
          fun _ => rfl
  | resetCause =>
      simp only [chipStep] at h
      split_ifs at h
      obtain ⟨rfl, rfl⟩ := by simpa using h
      exact resetCause_trans w s
  | warm reason =>
      obtain ⟨rfl, rfl⟩ := by simpa [chipStep] using h
      exact .warm
  | powerUp p mark reason =>
      obtain ⟨rfl, rfl⟩ := by simpa [chipStep] using h
      exact .powerUp hg

/-! ## The invariant -/

/-- The statics say what has happened. -/
structure ChipInv (w : Bool) (reason : PowerResetReason) (tr : List ChipEv) (s : Chip) : Prop where
  marked : w = true → (s.mark.Armed ↔ Marked tr)
  told : s.cause.isSome ↔ Since (fun e => ∃ first c, e = .cause first c) ChipEv.IsBoot tr
  cause : ∀ c, s.cause = some c → Since (· = .cause true c) ChipEv.IsBoot tr
  reason : s.reason = (latest ChipEv.booted tr).getD reason
  served : 0 < s.hostTxnCount ↔ Since (· = .drained) ChipEv.IsBoot tr
  accepted : s.fwuAcceptDone = true ↔ Since (· = .gate true) ChipEv.IsBoot tr
  pending : s.latches.resetPending = true ↔ Since (· = .asked) ChipEv.IsBoot tr
  drained : s.latches.replyDrained = true ↔ Since (· = .drained) ChipEv.Rearms tr
  promoted : s.otaRebootPending = true ↔ Since (· = .promoted) ChipEv.Takes tr
  rc : s.otaRebootRc = (latest ChipEv.rebootRc tr).getD 0
  atReset : s.pc = .resetDrained → s.latches.resetPending = true
  atSwap : s.pc = .swapDrained ∨ s.pc = .clearing → s.otaRebootPending = true
  resetDue : s.pc = .resetting → Since (· = .resetDue) ChipEv.IsBoot tr
  swapDue : s.pc = .clearing → Since (· = .swapDue) ChipEv.Takes tr

theorem Reboot.boot_drained (w : Bool) (p : Persist) :
    (Reboot.boot w p).replyDrained = false ∧ (Reboot.boot w p).resetPending = false := by
  unfold Reboot.boot spiPolled
  cases w <;> exact ⟨rfl, rfl⟩

variable {tr : List ChipEv} {reason : PowerResetReason}

theorem ChipInv.boot {p : Persist} {mark : SoftResetMark} (hm : ¬ mark.Armed) :
    ChipInv w reason [] (.boot w p mark reason) where
  marked _ := iff_of_false hm not_since_nil
  told := iff_of_false (by simp [Chip.boot]) not_since_nil
  cause c h := by simp [Chip.boot] at h
  reason := rfl
  served := iff_of_false (by simp [Chip.boot]) not_since_nil
  accepted := iff_of_false (by simp [Chip.boot]) not_since_nil
  pending := iff_of_false (by simp [Chip.boot, Reboot.boot_drained]) not_since_nil
  drained := iff_of_false (by simp [Chip.boot, Reboot.boot_drained]) not_since_nil
  promoted := iff_of_false (by simp [Chip.boot]) not_since_nil
  rc := rfl
  atReset h := by simp [Chip.boot] at h
  atSwap h := by simp [Chip.boot] at h
  resetDue h := by simp [Chip.boot] at h
  swapDue h := by simp [Chip.boot] at h

/-- The counter never comes back to zero. -/
theorem Chip.notifyReplySent_served (s : Chip) : 0 < s.notifyReplySent.hostTxnCount := by
  unfold notifyReplySent
  dsimp only
  split_ifs with h
  · grind
  · rw [not_not.mp h]
    decide

/-- A decision to reset or to swap stands until it is carried out or the chip goes down. -/
theorem ChipTrans.due (ht : ChipTrans w s s' e) (hpc : s'.pc = .resetting ∨ s'.pc = .clearing) :
    s.pc = s'.pc ∧ ¬ e.Takes ∨ e = .resetDue ∧ s'.pc = .resetting ∨
      e = .swapDue ∧ s'.pc = .clearing := by
  cases ht with
  | quiet p fwuInited pc _ _ hdue => exact .inl ⟨hdue hpc, by simp [ChipEv.Takes, ChipEv.IsBoot]⟩
  | resetDue => exact .inr (.inl ⟨rfl, rfl⟩)
  | swapDue => exact .inr (.inr ⟨rfl, rfl⟩)
  | asked | drained | promoted | causeFirst | causeAgain =>
      exact .inl ⟨rfl, by simp [ChipEv.Takes, ChipEv.IsBoot]⟩
  | _ => simp [Chip.boot] at hpc

theorem ChipInv.step (hi : ChipInv w reason tr s) (ht : ChipTrans w s s' e) :
    ChipInv w reason (tr ++ [e]) s' := by
  constructor
  case marked =>
    intro hw
    rw [Marked, since_snoc, ← Marked, ← hi.marked hw]
    cases ht with
    | asked => simp [Chip.requestReset, hw, SoftResetMark.armed_armed]
    | causeFirst => simp [ChipEv.Unmarks, hw, SoftResetMark.not_armed_taken]
    | powerUp hm => simp [ChipEv.Unmarks, Chip.boot, hm]
    | _ => simp [ChipEv.Unmarks, Chip.notifyReplySent, Chip.boot]
  case told =>
    rw [since_snoc, ← hi.told]
    cases ht with
    | causeAgain hc => simp [hc]
    | _ => simp [ChipEv.IsBoot, Chip.requestReset, Chip.notifyReplySent, Chip.boot]
  case cause =>
    intro c hc
    rw [since_snoc]
    cases ht with
    | causeFirst => exact .inl (by simpa using hc)
    | warm => simp [Chip.boot] at hc
    | powerUp _ => simp [Chip.boot] at hc
    | _ => exact .inr ⟨hi.cause c hc, by simp [ChipEv.IsBoot]⟩
  case reason =>
    rw [latest_snoc]
    cases ht with
    | warm => rfl
    | powerUp _ => rfl
    | _ => exact hi.reason
  case served =>
    rw [since_snoc, ← hi.served]
    cases ht with
    | drained => simpa using s.notifyReplySent_served
    | _ => simp [ChipEv.IsBoot, Chip.requestReset, Chip.boot]
  case accepted =>
    rw [since_snoc, ← hi.accepted]
    cases ht with
    | _ => simp [ChipEv.IsBoot, Chip.requestReset, Chip.notifyReplySent, Chip.boot]
  case pending =>
    rw [since_snoc, ← hi.pending]
    cases ht with
    | _ => simp [ChipEv.IsBoot, Chip.requestReset, Chip.notifyReplySent, Chip.boot,
        hwRequestReset, hwNotifyReplySent, Reboot.boot_drained]
  case drained =>
    rw [since_snoc, ← hi.drained]
    cases ht with
    | _ => simp [ChipEv.Rearms, ChipEv.IsBoot, Chip.requestReset, Chip.notifyReplySent, Chip.boot,
        hwRequestReset, hwNotifyReplySent, Reboot.boot_drained]
  case promoted =>
    rw [since_snoc, ← hi.promoted]
    cases ht with
    | _ => simp [ChipEv.Takes, ChipEv.IsBoot, Chip.requestReset, Chip.notifyReplySent, Chip.boot]
  case rc =>
    rw [latest_snoc]
    cases ht with
    | refused => rfl
    | warm => rfl
    | powerUp _ => rfl
    | _ => exact hi.rc
  case atReset =>
    intro hpc
    cases ht with
    | quiet p fwuInited pc hr _ _ =>
        by_cases hold : s.pc = .resetDrained
        · exact hi.atReset hold
        · exact hr hpc hold
    | asked => rfl
    | drained => exact hi.atReset hpc
    | promoted _ => exact hi.atReset hpc
    | causeFirst _ => exact hi.atReset hpc
    | causeAgain _ => exact hi.atReset hpc
    | _ => simp [Chip.boot] at hpc
  case atSwap =>
    intro hpc
    cases ht with
    | quiet p fwuInited pc _ hsw hdue =>
        by_cases hold : s.pc = .swapDrained ∨ s.pc = .clearing
        · exact hi.atSwap hold
        · rw [not_or] at hold
          rcases hpc with hpc | hpc
          · exact hsw hpc hold.1
          · exact absurd ((hdue (.inr hpc)).trans hpc) hold.2
    | swapDue hpc' _ => exact hi.atSwap (.inl hpc')
    | promoted _ => rfl
    | asked => exact hi.atSwap hpc
    | drained => exact hi.atSwap hpc
    | causeFirst _ => exact hi.atSwap hpc
    | causeAgain _ => exact hi.atSwap hpc
    | _ => simp [Chip.boot] at hpc
  case resetDue =>
    intro hpc
    rw [since_snoc]
    rcases ht.due (.inl hpc) with ⟨heq, hno⟩ | ⟨rfl, -⟩ | ⟨-, hpc'⟩
    · exact .inr ⟨hi.resetDue (heq.trans hpc), fun hb => hno (.inr hb)⟩
    · exact .inl rfl
    · exact TickPc.noConfusion (hpc.symm.trans hpc')
  case swapDue =>
    intro hpc
    rw [since_snoc]
    rcases ht.due (.inr hpc) with ⟨heq, hno⟩ | ⟨-, hpc'⟩ | ⟨rfl, -⟩
    · exact .inr ⟨hi.swapDue (heq.trans hpc), hno⟩
    · exact TickPc.noConfusion (hpc.symm.trans hpc')
    · exact .inl rfl

/-! ## One step is justified -/

theorem ChipInv.causeExact (hi : ChipInv w reason tr s) (ht : ChipTrans w s s' e) :
    CauseExact w reason tr e := by
  cases ht with
  | causeFirst hc =>
      have hiff : (w = true ∧ s.mark.Armed) ↔ (w = true ∧ Marked tr) :=
        and_congr_right hi.marked
      refine ⟨fun h => ?_, fun h => if_pos (hiff.mpr h), fun h => ?_⟩
      · have hsome := hi.told.mpr h
        simp [hc] at hsome
      · rw [if_neg (mt hiff.mp h), hi.reason]
  | causeAgain hc => exact hi.cause _ hc
  | _ => trivial

theorem ChipInv.tickExact (hi : ChipInv w reason tr s) (ht : ChipTrans w s s' e) :
    TickExact tr e := by
  cases ht with
  | gateOpen hdone hcount =>
      refine iff_of_true rfl ⟨hi.served.mp hcount, fun h => ?_⟩
      rw [hi.accepted.mpr h] at hdone
      simp at hdone
  | gateShut hn =>
      refine iff_of_false (by simp) fun h => hn ⟨?_, hi.served.mpr h.1⟩
      exact Bool.eq_false_iff.mpr (mt hi.accepted.mp h.2)
  | resetDue hpc hd => exact ⟨hi.pending.mp (hi.atReset hpc), hi.drained.mp hd⟩
  | reset hpc => exact hi.resetDue hpc
  | swapDue hpc hd => exact ⟨hi.promoted.mp (hi.atSwap (.inl hpc)), hi.drained.mp hd⟩
  | swap hpc => exact ⟨hi.promoted.mp (hi.atSwap (.inr hpc)), hi.swapDue hpc⟩
  | _ => trivial

/-! ## The guarantees -/

/-- The runs from a power-up on. -/
def ChipRun (w : Bool) (reason : PowerResetReason) (tr : List ChipEv) (s : Chip) : Prop :=
  ∃ p mark, ¬ SoftResetMark.Armed mark ∧ (chipSystem w).RunIf MarkLost (.boot w p mark reason) tr s

/-- What every step preserves, from what it is justified by, a run has throughout. -/
theorem ChipRun.justified {J : List ChipEv → ChipEv → Prop} (hr : ChipRun w reason tr s)
    (hJ : ∀ tr s s' e, ChipInv w reason tr s → ChipTrans w s s' e → J tr e) :
    ChipInv w reason tr s ∧ Justified J tr := by
  obtain ⟨p, mark, hm, hr⟩ := hr
  refine hr.invariant (P := fun tr s => ChipInv w reason tr s ∧ Justified J tr)
    ⟨.boot hm, justified_nil⟩ ?_
  rintro tr s a s' e ⟨hi, hj⟩ hg hs
  have ht := chipStep_trans hg hs
  exact ⟨hi.step ht, hj.snoc (hJ tr s s' e hi ht)⟩

/-- A tick from its start to its reset, in a boot that commits. -/
def resetTick : List ChipAct :=
  [.tick, .tick, .accepted false, .pumped none, .tick, .tick, .tick]

/-- The reset cause is what the last boots did.  Over any number of boots, in whatever order
requests, queries and the tick fall: the answer of a boot to its first query is `SOFT` if the
firmware has asked for a reset and since then no boot has lost the memory and none has been told its
cause; otherwise it is what the silicon says; and every later query of that boot gets the same
answer. -/
theorem reset_cause_exact (hr : ChipRun w reason tr s) : Justified (CauseExact w reason) tr :=
  (hr.justified fun _ _ _ _ hi ht => hi.causeExact ht).2

/-- A reset is asked for and done: the next boot says `SOFT`, and so it does when asked again; but a
boot after that, from a reset that nobody asked for, does not. -/
theorem reset_cause_exact_soft : ∃ tr s, ChipRun true .pinPor tr s ∧
    tr.filter ChipEv.isCause =
      [.cause true .powerOn, .cause true .soft, .cause false .soft, .cause true .powerOn] ∧
    Justified (CauseExact true .pinPor) tr := by
  have hexec : ((chipSystem true).execIf MarkLost (.boot true ⟨0, 0, 0⟩ .taken .pinPor)
      ([.resetCause, .requestReset, .notifyReplySent] ++ resetTick ++
        [.warm .pinPor, .resetCause, .resetCause, .warm .pinPor, .resetCause])).map
      (fun x => x.2.filter ChipEv.isCause) =
      some [.cause true .powerOn, .cause true .soft, .cause false .soft, .cause true .powerOn] := by
    decide +kernel
  obtain ⟨⟨s, tr⟩, hs, htr⟩ := Option.map_eq_some_iff.mp hexec
  have hr : ChipRun true .pinPor tr s :=
    ⟨_, _, SoftResetMark.not_armed_taken, Machine.runIf_of_execIf hs⟩
  exact ⟨tr, s, hr, htr, reset_cause_exact hr⟩

/-- The tick does nothing before its time.  Over any number of boots and in every interleaving, it
commits a trial image at its first gate after a reply has drained in this boot, and at no other; it
decides to reset only after a request of this boot, and to swap an image only for a promotion of
this boot that no swap has taken, each with a reply drained to its end since the last request of
either kind; it resets and swaps only as it has decided to, and swaps once for a promotion; and the
host reads the code of the last swap that was refused. -/
theorem tick_exact (hr : ChipRun w reason tr s) :
    Justified TickExact tr ∧ s.otaRebootRc = (latest ChipEv.rebootRc tr).getD 0 := by
  obtain ⟨hi, hj⟩ := hr.justified fun _ _ _ _ hi ht => hi.tickExact ht
  exact ⟨hj, hi.rc⟩

/-- A promotion is refused, and its code read; a reset asked for during the swap waits for a reply
of its own, and is carried out although another request comes before it. -/
theorem tick_exact_refused : ∃ tr s, ChipRun true .pinPor tr s ∧
    tr.filter (· ∈ [ChipEv.gate true, .swap, .asked, .refused (-8), .resetDue, .reset]) =
      [.gate true, .swap, .asked, .refused (-8), .resetDue, .asked, .reset] ∧
    Justified TickExact tr ∧ s.otaRebootRc = (latest ChipEv.rebootRc tr).getD 0 := by
  have hexec : ((chipSystem true).execIf MarkLost (.boot true ⟨0, 0, 0⟩ .taken .pinPor)
      [.otaPromote, .notifyReplySent, .tick, .tick, .accepted false, .pumped none, .tick, .tick,
        .tick, .tick, .requestReset, .rebooted (some (-8)), .tick, .tick, .pumped none, .tick,
        .tick, .tick, .notifyReplySent, .tick, .tick, .pumped none, .tick, .tick, .requestReset,
        .tick]).map (fun x => x.2.filter
          (· ∈ [ChipEv.gate true, .swap, .asked, .refused (-8), .resetDue, .reset])) =
      some [.gate true, .swap, .asked, .refused (-8), .resetDue, .asked, .reset] := by
    decide +kernel
  obtain ⟨⟨s, tr⟩, hs, htr⟩ := Option.map_eq_some_iff.mp hexec
  have hr : ChipRun true .pinPor tr s :=
    ⟨_, _, SoftResetMark.not_armed_taken, Machine.runIf_of_execIf hs⟩
  exact ⟨tr, s, hr, htr, tick_exact hr⟩

end

end Cc3501eBridge
