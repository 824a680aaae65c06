import Cc3501eBridge.Effects
import Cc3501eBridge.Steps

/-!
# The reboot latches

Two small state machines of the HAL that several commands share.  One is the deferred reset of
`cc3501e_hw_ti.c`: a command only asks for the reset, and the tick fires it once a reply has been sent
to its end.  The other is the flag of `transport_hw_ti_spi.c` that selects the update mode of the next
boot.  It lives in memory that a warm reset keeps, is consumed by the first query after a boot, and
counts only together with its complement.

`HalOps.withReboot` is the HAL with these functions of the source and anything beside them.  Of all
opcodes three touch the latches; `dispatch_reboot` lists what each does.

Left out are the reset-cause marker and the count of sent replies, which nothing here reads.
-/

namespace Cc3501eBridge

variable {ρ τ : Type}

/-! ## The latches -/

/-- `g_persist`: memory that is not initialised at boot. -/
structure Persist where
  magic : UInt32
  magicInv : UInt32
  boots : UInt32
  deriving DecidableEq, Repr

/-- `CC3501E_POLLED_BOOT_MAGIC`. -/
def polledBootMagic : UInt32 := 0x0A7AB007

/-- The exact contents that select update mode. -/
def Persist.Armed (p : Persist) : Prop := p.magic = polledBootMagic ∧ p.magicInv = ~~~polledBootMagic

instance Persist.decidableArmed (p : Persist) : Decidable p.Armed := inferInstanceAs (Decidable (_ ∧ _))

/-- The statics of the deferred reset and of the boot mode. -/
structure Reboot where
  persist : Persist
  /-- `g_polled`: this boot's mode. -/
  polled : Bool
  /-- `g_boot_read`. -/
  bootRead : Bool
  replyDrained : Bool
  resetPending : Bool
  /-- How often a reset was asked for (not a variable of the source). -/
  requests : Nat
  deriving DecidableEq, Repr

/-- `bridge_transport_spi_polled`.  The first query of a boot reads the flag and clears it.  `writable`
is the link-time check that the memory is where it can be written. -/
def spiPolled (writable : Bool) (h : Reboot) : Bool × Reboot :=
  if h.bootRead then (h.polled, h)
  else if writable = false then (false, { h with bootRead := true })
  else
    let valid : Bool := h.persist.magic = ~~~h.persist.magicInv
    let boots := if valid then h.persist.boots else 0
    let polled : Bool := valid && h.persist.magic = polledBootMagic
    (polled, { h with
      bootRead := true
      polled := polled
      persist := { magic := 0, magicInv := ~~~0, boots := boots + 1 } })

/-- `bridge_transport_spi_request_polled_boot`. -/
def spiRequestPolledBoot (writable : Bool) (h : Reboot) : Bool × Reboot :=
  if writable then
    (true, { h with persist := { h.persist with
      magic := polledBootMagic, magicInv := ~~~polledBootMagic } })
  else (false, h)

/-- `bridge_transport_spi_clear_polled_boot`. -/
def spiClearPolledBoot (writable : Bool) (h : Reboot) : Bool × Reboot :=
  if writable then
    (true, { h with persist := { h.persist with magic := 0, magicInv := ~~~0 } })
  else (false, h)

/-- `bridge_transport_spi_boot_mark`. -/
def spiBootMark (writable : Bool) (h : Reboot) : UInt8 :=
  if writable then (if h.polled then 0x80 else 0x00) ||| (h.persist.boots &&& 0x7F).toUInt8 else 0

/-- `cc3501e_hw_request_reset`. -/
def hwRequestReset (h : Reboot) : Reboot :=
  { h with replyDrained := false, resetPending := true, requests := h.requests + 1 }

/-- `cc3501e_hw_notify_reply_sent`. -/
def hwNotifyReplySent (h : Reboot) : Reboot := { h with replyDrained := true }

/-- What `cc3501e_hw_ota_promote` does to the latches. -/
def hwOtaPromote (writable : Bool) (h : Reboot) : Reboot :=
  { (spiClearPolledBoot writable h).2 with replyDrained := false }

/-- The latches after `main` has asked for the mode of this boot, with `p` in the memory that is not
initialised. -/
def Reboot.boot (writable : Bool) (p : Persist) : Reboot :=
  (spiPolled writable { persist := p, polled := false, bootRead := false, replyDrained := false,
                        resetPending := false, requests := 0 }).2

/-! ## The HAL with the latches -/

/-- A function of the rest of the HAL. -/
def onRest (f : ρ → Int × ρ) (h : τ × ρ) : Int × τ × ρ := ((f h.2).1, h.1, (f h.2).2)

/-- The HAL with a part beside it that none of its functions knows. -/
def HalOps.beside (τ : Type) (ops : HalOps ρ) : HalOps (τ × ρ) where
  requestReset h := (h.1, ops.requestReset h.2)
  setLogLevel h v := onRest (ops.setLogLevel · v) h
  resetCause h := ops.resetCause h.2
  radioRole h := ops.radioRole h.2
  uptimeMs h := ops.uptimeMs h.2
  freeHeapBytes h := ops.freeHeapBytes h.2
  wifiLastEventId h := ops.wifiLastEventId h.2
  otaFault h := ops.otaFault h.2
  bootMark h := ops.bootMark h.2
  wifiDhcpDiag h := ops.wifiDhcpDiag h.2
  gpioConfigure h a b c := onRest (ops.gpioConfigure · a b c) h
  gpioWrite h a b := onRest (ops.gpioWrite · a b) h
  gpioRead h a := ((ops.gpioRead h.2 a).1, (ops.gpioRead h.2 a).2.1, h.1, (ops.gpioRead h.2 a).2.2)
  gpioSetInterrupt h a b c := onRest (ops.gpioSetInterrupt · a b c) h
  camEnable h a b := onRest (ops.camEnable · a b) h
  setPowerPolicy h a b c := onRest (ops.setPowerPolicy · a b c) h
  powerRadioOk h := ops.powerRadioOk h.2
  otaBegin h n := onRest (ops.otaBegin · n) h
  otaWrite h n bytes := onRest (ops.otaWrite · n bytes) h
  otaFinish h := onRest ops.otaFinish h
  otaAbort h := onRest ops.otaAbort h
  otaPromote h := onRest ops.otaPromote h
  otaStatus h := ops.otaStatus h.2
  otaRebootRc h := ops.otaRebootRc h.2
  otaFlushPending h := ops.otaFlushPending h.2
  otaPending h := ops.otaPending h.2
  polled h := ops.polled h.2
  phase h := ops.phase h.2
  requestPolledBoot h := ((ops.requestPolledBoot h.2).1, h.1, (ops.requestPolledBoot h.2).2)
  clearPolledBoot h := ((ops.clearPolledBoot h.2).1, h.1, (ops.clearPolledBoot h.2).2)
  wifiScanStop h := onRest ops.wifiScanStop h
  wifiMarkConnecting h := (h.1, ops.wifiMarkConnecting h.2)
  wifiGetIp h iface := ops.wifiGetIp h.2 iface
  wifiConnStatus h := ops.wifiConnStatus h.2
  wifiLastReason h := ops.wifiLastReason h.2

/-- The HAL whose reboot functions are those of the source. -/
def HalOps.withReboot (ops : HalOps ρ) (writable : Bool) : HalOps (Reboot × ρ) :=
  { ops.beside Reboot with
    requestReset := fun h => (hwRequestReset h.1, h.2)
    bootMark := fun h => spiBootMark writable h.1
    otaPromote := fun h => (hwOk, hwOtaPromote writable h.1, (ops.otaPromote h.2).2)
    polled := fun h => (spiPolled writable h.1).1
    requestPolledBoot := fun h =>
      ((spiRequestPolledBoot writable h.1).1, (spiRequestPolledBoot writable h.1).2, h.2)
    clearPolledBoot := fun h =>
      ((spiClearPolledBoot writable h.1).1, (spiClearPolledBoot writable h.1).2, h.2) }

/-- The firmware compiled against that HAL. -/
def Env.withReboot (E : Env ρ) (writable : Bool) : Env (Reboot × ρ) where
  hdr := E.hdr
  build := E.build
  hal := E.hal.withReboot writable

/-! ## What a dispatch does to the latches -/

/-- One dispatch on the latches: the opcode, the request bytes, the latches before and after, and the
status of the reply. -/
inductive RebootStep (writable : Bool) (req : List UInt8) (h : Reboot) :
    Cmd → Reboot → Resp → Prop
  | /-- Every other opcode, and every refused request. -/
    keep {c : Cmd} {st : Resp} : (c = .otaUpdateMode → st ≠ .ok) → (c = .otaPromote → st ≠ .ok) →
      RebootStep writable req h c h st
  | reset : RebootStep writable req h .reset (hwRequestReset h) .ok
  | promote : RebootStep writable req h .otaPromote (hwOtaPromote writable h) .ok
  | /-- The requested mode is the running one. -/
    confirm : decide (byteAt req 0 = 1) = (spiPolled writable h).1 →
      RebootStep writable req h .otaUpdateMode h .ok
  | /-- The flag is set for the other mode. -/
    change {h' : Reboot} : decide (byteAt req 0 = 1) ≠ (spiPolled writable h).1 →
      (if byteAt req 0 = 1 then spiRequestPolledBoot writable h else spiClearPolledBoot writable h) =
        (true, h') →
      RebootStep writable req h .otaUpdateMode (hwRequestReset h') .ok

section

variable {E : Env ρ} {w : Bool} {fw : Fw (Reboot × ρ)} {req : List UInt8} {cap : Nat}

/-- An opcode that calls none of the reboot functions leaves the latches alone. -/
theorem handle_reboot_other {c : Cmd} (hc : c ≠ .reset ∧ c ≠ .otaPromote ∧ c ≠ .otaUpdateMode) :
    (handle (E.withReboot w) c fw req cap).1.hal.1 = fw.hal.1 := by
  -- the same firmware over a HAL whose reboot functions do nothing to the latches
  let E' : Env (Reboot × ρ) := { E.withReboot w with
    hal := { (E.withReboot w).hal with
      requestReset := (E.hal.beside Reboot).requestReset
      otaPromote := (E.hal.beside Reboot).otaPromote
      requestPolledBoot := (E.hal.beside Reboot).requestPolledBoot
      clearPolledBoot := (E.hal.beside Reboot).clearPolledBoot } }
  have hsame : handle (E.withReboot w) c fw req cap = handle E' c fw req cap := by
    cases c with
    | reset => exact absurd rfl hc.1
    | otaPromote => exact absurd rfl hc.2.1
    | otaUpdateMode => exact absurd rfl hc.2.2
    | _ => rfl
  have hR : E'.hal.Within fun h h' => h'.1 = h.1 := by
    constructor
    case trans => exact fun _ _ _ h h' => h'.trans h
    all_goals intros; rfl
  rw [hsame]
  by_cases hev : c = .getPendingEvents
  · subst hev
    change (handleGetPendingEvents fw req cap).1.hal.1 = fw.hal.1
    unfold handleGetPendingEvents
    split_ifs <;> rfl
  by_cases hwifi : c = .wifiConnectSta
  · subst hwifi
    have h := (@handleWifiConnectSta_cases _ E' fw req).2
    change (handleWifiConnectSta E' fw req).1.hal.1 = fw.hal.1
    rcases h with ⟨h, -⟩ | ⟨-, h⟩ <;> rw [h]
    rfl
  exact (handle_keeps hR fw req cap ⟨hev, hwifi⟩).moves

/-- A change of mode that is not refused sets the flag and asks for the reset. -/
private theorem change_reboot {out : Bool × Reboot} {data : List UInt8} {rest : ρ} {fw : Fw (Reboot × ρ)}
    (hne : decide (byteAt req 0 = 1) ≠ (spiPolled w fw.hal.1).1)
    (hout : (if byteAt req 0 = 1 then spiRequestPolledBoot w fw.hal.1
      else spiClearPolledBoot w fw.hal.1) = out) (hsame : out.1 = false → out.2 = fw.hal.1) :
    let res : Fw (Reboot × ρ) × Reply :=
      if out.1 = false then ({ fw with hal := (out.2, rest) }, { status := .errState, data := data })
      else ({ fw with hal := (hwRequestReset out.2, rest) }, { status := .ok, data := data })
    RebootStep w req fw.hal.1 .otaUpdateMode res.1.hal.1 res.2.status := by
  obtain ⟨ok, h'⟩ := out
  cases ok with
  | false =>
      obtain rfl := hsame rfl
      exact .keep (fun _ => by simp) (by simp)
  | true => exact .change hne hout

theorem handleOtaUpdateMode_reboot :
    RebootStep w req fw.hal.1 .otaUpdateMode (handleOtaUpdateMode (E.withReboot w) fw req cap).1.hal.1
      (handleOtaUpdateMode (E.withReboot w) fw req cap).2.status := by
  have hkeep : ∀ st : Resp, st ≠ .ok → RebootStep w req fw.hal.1 .otaUpdateMode fw.hal.1 st :=
    fun _ hst => .keep (fun _ => hst) (by simp)
  unfold handleOtaUpdateMode
  by_cases h1 : req.length ≠ 1
  · rw [if_pos h1]
    exact hkeep _ (by simp)
  by_cases h2 : byteAt req 0 > 1
  · rw [if_neg h1, if_pos h2]
    exact hkeep _ (by simp)
  by_cases h3 : cap < 4
  · rw [if_neg h1, if_neg h2, if_pos h3]
    exact hkeep _ (by simp)
  rw [if_neg h1, if_neg h2, if_neg h3]
  by_cases h4 : decide (byteAt req 0 = 1) = (spiPolled w fw.hal.1).1
  · simp only [show (E.withReboot w).hal.polled fw.hal = (spiPolled w fw.hal.1).1 from rfl, if_pos h4]
    exact .confirm h4
  · simp only [show (E.withReboot w).hal.polled fw.hal = (spiPolled w fw.hal.1).1 from rfl, if_neg h4]
    by_cases hwant : byteAt req 0 = 1
    · simp only [hwant, decide_true, if_true]
      refine change_reboot h4 (if_pos hwant) ?_
      unfold spiRequestPolledBoot
      split_ifs <;> simp
    · simp only [hwant, decide_false, Bool.false_eq_true, if_false]
      refine change_reboot h4 (if_neg hwant) ?_
      unfold spiClearPolledBoot
      split_ifs <;> simp

/-- What a handler does to the latches. -/
theorem handle_reboot (c : Cmd) :
    RebootStep w req fw.hal.1 c (handle (E.withReboot w) c fw req cap).1.hal.1
      (handle (E.withReboot w) c fw req cap).2.status := by
  by_cases hc : c ≠ .reset ∧ c ≠ .otaPromote ∧ c ≠ .otaUpdateMode
  · rw [handle_reboot_other hc]
    exact .keep (fun h => absurd h hc.2.2) (fun h => absurd h hc.2.1)
  · have hc' : c = .reset ∨ c = .otaPromote ∨ c = .otaUpdateMode := by tauto
    rcases hc' with rfl | rfl | rfl
    · change RebootStep w req fw.hal.1 .reset (handleReset (E.withReboot w) fw req).1.hal.1
        (handleReset (E.withReboot w) fw req).2.status
      unfold handleReset
      split_ifs
      · exact .keep (by simp) (by simp)
      · exact .reset
    · change RebootStep w req fw.hal.1 .otaPromote (handleOtaPromote (E.withReboot w) fw req).1.hal.1
        (handleOtaPromote (E.withReboot w) fw req).2.status
      unfold handleOtaPromote handleOtaArgless
      split_ifs
      · exact .keep (by simp) (by simp)
      · exact .promote
    · exact handleOtaUpdateMode_reboot

/-- What a dispatch does to the latches. -/
theorem dispatch_reboot {fw' : Fw (Reboot × ρ)} {reply : Reply} {cmd flags : UInt8}
    (hd : protocolDispatch (E.withReboot w) fw cmd flags req cap = (fw', reply)) :
    (E.hdr.decode cmd = none ∧ fw'.hal.1 = fw.hal.1) ∨
      ∃ c, E.hdr.decode cmd = some c ∧ RebootStep w req fw.hal.1 c fw'.hal.1 reply.status := by
  unfold protocolDispatch at hd
  cases hc : E.hdr.decode cmd with
  | none =>
      simp only [show (E.withReboot w).hdr.decode cmd = none from hc] at hd
      obtain rfl := (Prod.mk.inj hd).1
      exact .inl ⟨rfl, rfl⟩
  | some c =>
      simp only [show (E.withReboot w).hdr.decode cmd = some c from hc] at hd
      have h := @handle_reboot _ E w { fw with currentReqSeq := reqSeq flags } req cap c
      rw [hd] at h
      exact .inr ⟨c, rfl, h⟩

end

/-! ## Booting -/

/-- The mode of a boot is the flag, if the memory can be written. -/
theorem Reboot.boot_polled (w : Bool) (p : Persist) :
    (Reboot.boot w p).polled = (w && decide p.Armed) := by
  have hvalid : p.magic = ~~~p.magicInv ∧ p.magic = polledBootMagic ↔ p.Armed := by
    unfold Persist.Armed
    constructor
    · rintro ⟨h, h'⟩
      refine ⟨h', ?_⟩
      rw [← h', h, UInt32.not_not]
    · rintro ⟨h, h'⟩
      exact ⟨by rw [h, h', UInt32.not_not], h⟩
  cases w with
  | false => rfl
  | true =>
      change (decide (p.magic = ~~~p.magicInv) && decide (p.magic = polledBootMagic)) = _
      rw [Bool.true_and, ← Bool.decide_and, decide_eq_decide.mpr hvalid]

/-- After `main`'s query every further one gives the same answer. -/
theorem Reboot.boot_bootRead (w : Bool) (p : Persist) : (Reboot.boot w p).bootRead = true := by
  cases w <;> rfl

theorem spiPolled_of_bootRead {w : Bool} {h : Reboot} (hb : h.bootRead = true) :
    spiPolled w h = (h.polled, h) := if_pos hb

end Cc3501eBridge
