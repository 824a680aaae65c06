import Cc3501eBridge.Reboot
import Cc3501eBridge.Reference
import Cc3501eBridge.ReplyFrame
import Cc3501eBridge.SpiSlave

/-!
# The reset and its acknowledgement

A command that needs a reboot is to be acknowledged first, so `cc3501e_hw_tick` waits until
`on_transfer` has reported a reply as sent.  The report does not say which reply.  If the host gives up
on the acknowledgement and asks for something else, the reply to that releases the reset.  It is the
acknowledgement that releases it in every run in which no frame is served while the acknowledgement is
outstanding.

The machine is the SPI slave over the firmware with its reboot latches, and the tick.
-/

namespace Cc3501eBridge

variable {η ρ : Type}

open Trace

/-! ## What a step of the slave does to the HAL -/

namespace SpiSlave

section

variable (E : Env η) (D : Dispatcher η) (s : SpiSlave η)

/-- Whether the step serves a frame. -/
def dispatches : SpiAct η → Bool
  | .finish status bytes ok =>
      match s.armed with
      | some t => (((({ s with armed := none } : SpiSlave η).store t bytes).resume E D status
          ok).2).isSome
      | none => false
  | _ => false

/-- Whether the step completes the payload of a reply, where `on_transfer` calls
`cc3501e_hw_notify_reply_sent`. -/
def replySent : SpiAct η → Bool
  | .finish status _ _ => s.armed.isSome && s.phase = .replyPayload && status = .completed
  | _ => false

end

section

variable {E : Env η} {D : Dispatcher η} {polled ok : Bool} {s : SpiSlave η}

@[simp] theorem armTransfer_fw (t : SpiTransfer) : (s.armTransfer polled ok t).1.fw = s.fw := by
  unfold armTransfer
  split_ifs <;> rfl

@[simp] theorem armRequestHeader_fw : (s.armRequestHeader polled ok).fw = s.fw := by
  simp [armRequestHeader]

@[simp] theorem armWatched_fw (phase : SpiPhase) (t : SpiTransfer) :
    (s.armWatched polled ok phase t).fw = s.fw := by
  simp [armWatched]

@[simp] theorem pollNext_fw (turns : Nat) : (s.pollNext turns).fw = s.fw := by
  unfold pollNext
  split <;> rfl

@[simp] theorem close_fw : s.close.fw = s.fw := by
  unfold close
  split_ifs <;> rfl

/-- The slave moved from `s` to `out.1`; if it served a frame, the HAL moved within `R`, and if not,
the HAL stayed as it was. -/
def Moved (R : η → η → Prop) (s : SpiSlave η) (out : SpiSlave η × Option (List UInt8 × List UInt8)) :
    Prop :=
  R s.fw.hal out.1.fw.hal ∧ (out.2 = none → out.1.fw.hal = s.fw.hal)

variable {R : η → η → Prop}

theorem Moved.still (hR : ∀ h, R h h) {out : SpiSlave η × Option (List UInt8 × List UInt8)}
    (h : out.1.fw.hal = s.fw.hal) : Moved R s out := ⟨by rw [h]; exact hR _, fun _ => h⟩

/-- `on_transfer` serves at most one frame, and none at the end of a reply. -/
theorem advance_moved (hR : ∀ h, R h h)
    (hserve : ∀ (s : SpiSlave η) n, R s.fw.hal (s.dispatchFrame E D n).fw.hal) :
    Moved R s (s.advance E D polled ok) ∧
      (s.phase = .replyPayload → (s.advance E D polled ok).2 = none) := by
  unfold advance
  cases hp : s.phase with
  | reqHeader =>
      refine ⟨?_, by simp⟩
      dsimp only
      split_ifs
      · exact .still hR (by simp)
      · refine ⟨?_, by simp⟩
        rw [armWatched_fw]
        exact hserve _ headerBytes
      · exact .still hR (by simp)
  | reqPayload => exact ⟨⟨by simpa using hserve s _, by simp⟩, by simp⟩
  | replyHeader => exact ⟨.still hR (by simp), by simp⟩
  | replyPayload => exact ⟨.still hR (by simp), by simp⟩

theorem onTransfer_moved (hR : ∀ h, R h h)
    (hserve : ∀ (s : SpiSlave η) n, R s.fw.hal (s.dispatchFrame E D n).fw.hal) (status : SpiStatus) :
    Moved R s (s.onTransfer E D polled ok status) ∧
      (s.phase = .replyPayload → (s.onTransfer E D polled ok status).2 = none) := by
  unfold onTransfer
  cases status with
  | completed =>
      exact @advance_moved _ E D polled ok { s with replyArmed := false, ready := false } R hR hserve
  | canceled => exact ⟨.still hR rfl, fun _ => rfl⟩
  | failed => exact ⟨.still hR (by simp), fun _ => rfl⟩

theorem resume_moved (hR : ∀ h, R h h)
    (hserve : ∀ (s : SpiSlave η) n, R s.fw.hal (s.dispatchFrame E D n).fw.hal) (status : SpiStatus) :
    Moved R s (s.resume E D status ok) ∧
      (s.phase = .replyPayload → (s.resume E D status ok).2 = none) := by
  unfold resume
  split
  · unfold pollReturn
    split_ifs
    · have h := @onTransfer_moved _ E D true true { s with ready := false } R hR hserve .completed
      dsimp only
      split_ifs
      · exact h
      · refine ⟨⟨?_, ?_⟩, h.2⟩
        · simpa using h.1.1
        · simpa using h.1.2
    · exact ⟨.still hR (by simp), fun _ => rfl⟩
  · exact onTransfer_moved hR hserve status

end

end SpiSlave

/-- One step of the slave, the rest of the firmware apart: if it serves a frame, the HAL moves within
`R`, and otherwise it stays as it is; the end of a reply serves none. -/
theorem spiStep_hal {E : Env η} {D : Dispatcher η} {polled : Bool} {s s' : SpiSlave η} {a : SpiAct η}
    {e : SpiEv} {R : η → η → Prop} (hR : ∀ h, R h h)
    (hserve : ∀ (s : SpiSlave η) n, R s.fw.hal (s.dispatchFrame E D n).fw.hal)
    (ha : ∀ fw, a ≠ .fw fw) (hs : spiStep E D polled s a = some (s', e)) :
    (if s.dispatches E D a then R s.fw.hal s'.fw.hal else s'.fw.hal = s.fw.hal) ∧
      (s.replySent a = true → s.dispatches E D a = false) := by
  cases a with
  | fw fw => exact absurd rfl (ha fw)
  | clocked bytes =>
      simp only [spiStep] at hs
      split at hs
      · split_ifs at hs
        obtain rfl := (Prod.mk.inj (Option.some.inj hs)).1
        exact ⟨rfl, by simp [SpiSlave.replySent]⟩
      · simp at hs
  | finish status bytes ok =>
      simp only [spiStep] at hs
      split at hs
      next t harmed =>
        split_ifs at hs
        obtain rfl := congrArg Prod.fst (Option.some.inj hs)
        have hmoved := @SpiSlave.resume_moved _ E D ok
          (({ s with armed := none } : SpiSlave η).store t bytes) R hR hserve status
        simp only [SpiSlave.dispatches, harmed, SpiSlave.replySent, finishTransfer]
        constructor
        · split_ifs with hsome
          · exact hmoved.1.1
          · exact hmoved.1.2 (by simpa using hsome)
        · intro hsent
          simp only [Option.isSome_some, Bool.true_and, Bool.and_eq_true, decide_eq_true_eq] at hsent
          rw [hmoved.2 hsent.1]
          rfl
      next => simp at hs
  | quiesce on =>
      obtain rfl := (Prod.mk.inj (Option.some.inj hs)).1
      refine ⟨?_, by simp [SpiSlave.replySent]⟩
      change (s.hwQuiesce polled on).fw.hal = s.fw.hal
      unfold SpiSlave.hwQuiesce
      split_ifs <;> rfl
  | reinit opens ok =>
      obtain rfl := (Prod.mk.inj (Option.some.inj hs)).1
      refine ⟨?_, by simp [SpiSlave.replySent]⟩
      change (s.hwReinit polled opens ok).fw.hal = s.fw.hal
      unfold SpiSlave.hwReinit SpiSlave.openAndArm
      split_ifs <;> simp
  | release =>
      obtain rfl := (Prod.mk.inj (Option.some.inj hs)).1
      refine ⟨?_, by simp [SpiSlave.replySent]⟩
      change (s.hwRelease polled).fw.hal = s.fw.hal
      unfold SpiSlave.hwRelease
      split_ifs <;> simp
  | suspend =>
      obtain rfl := (Prod.mk.inj (Option.some.inj hs)).1
      refine ⟨?_, by simp [SpiSlave.replySent]⟩
      change (s.hwSuspend E D polled).fw.hal = s.fw.hal
      unfold SpiSlave.hwSuspend
      dsimp only
      split_ifs <;> simp [SpiSlave.onTransfer]
  | pollService =>
      simp only [spiStep] at hs
      split_ifs at hs
      obtain rfl := (Prod.mk.inj (Option.some.inj hs)).1
      refine ⟨?_, by simp [SpiSlave.replySent]⟩
      change (s.pollNext pollTurns).fw.hal = s.fw.hal
      simp

/-! ## What serving a frame does to the latches -/

/-- Serving a frame asks for a reset, or leaves the request for one alone. -/
def LatchMoves (h h' : Reboot) : Prop :=
  (h'.requests = h.requests ∧ h'.resetPending = h.resetPending) ∨
    (h'.requests ≠ h.requests ∧ h'.replyDrained = false)

theorem LatchMoves.refl (h : Reboot) : LatchMoves h h := .inl ⟨rfl, rfl⟩

theorem RebootStep.moves {w : Bool} {req : List UInt8} {h h' : Reboot} {c : Cmd} {st : Resp}
    (hs : RebootStep w req h c h' st) : LatchMoves h h' := by
  cases hs with
  | keep _ _ => exact .refl h
  | confirm _ => exact .refl h
  | reset => exact .inr ⟨Nat.succ_ne_self _, rfl⟩
  | promote =>
      unfold hwOtaPromote spiClearPolledBoot
      split_ifs <;> exact .inl ⟨rfl, rfl⟩
  | @change h' _ hset =>
      have hkeep : h'.requests = h.requests := by
        unfold spiRequestPolledBoot spiClearPolledBoot at hset
        split_ifs at hset <;> obtain rfl := (Prod.mk.inj hset).2 <;> rfl
      refine .inr ⟨?_, rfl⟩
      rw [← hkeep]
      exact Nat.succ_ne_self _

/-- `protocol_build_reply` moves the HAL as its dispatch does, if it dispatches at all. -/
theorem protocolBuildReply_hal {E : Env η} {R : η → η → Prop} (hR : ∀ h, R h h)
    (hdisp : ∀ (fw : Fw η) cmd flags req cap,
      R fw.hal (protocolDispatch E fw cmd flags req cap).1.hal)
    (fw : Fw η) (f : List UInt8) (frame : Buf) :
    R fw.hal (protocolBuildReply E (dispatcher E) fw f frame frameMaxBytes).fw.hal := by
  rw [protocolBuildReply_eq, (finishReply_eq _ _).2]
  change R fw.hal (requestOutcome E (dispatcher E) fw f frame frameMaxBytes).1.hal
  have hrun : ∀ m cmd flags req cap,
      R fw.hal ((dispatcher E).run { fw with crc := m } cmd flags req cap frame).1.hal :=
    fun m cmd flags req cap => hdisp { fw with crc := m } cmd flags req cap
  unfold requestOutcome requestCrc requestLegacy rejected
  dsimp only
  split_ifs <;> first | exact hR _ | exact hrun _ _ _ _ _

/-- So does the slave. -/
theorem dispatchFrame_hal {E : Env η} {R : η → η → Prop} (hR : ∀ h, R h h)
    (hdisp : ∀ (fw : Fw η) cmd flags req cap,
      R fw.hal (protocolDispatch E fw cmd flags req cap).1.hal) (s : SpiSlave η) (n : Nat) :
    R s.fw.hal (s.dispatchFrame E (dispatcher E) n).fw.hal := by
  change R s.fw.hal (SpiSeam.csHigh E (dispatcher E) s.fw _).1.hal
  unfold SpiSeam.csHigh
  split_ifs
  · exact hR _
  · exact protocolBuildReply_hal hR hdisp _ _ _

theorem dispatch_moves (E : Env ρ) (w : Bool) (fw : Fw (Reboot × ρ)) (cmd flags : UInt8)
    (req : List UInt8) (cap : Nat) :
    LatchMoves fw.hal.1 (protocolDispatch (E.withReboot w) fw cmd flags req cap).1.hal.1 := by
  rcases dispatch_reboot (Prod.mk.eta : _ = protocolDispatch (E.withReboot w) fw cmd flags req cap).symm
    with ⟨-, h⟩ | ⟨c, -, h⟩
  · rw [h]
    exact .refl _
  · exact h.moves

/-! ## The machine -/

/-- The slave with the firmware over its reboot latches. -/
structure ResetSys (ρ : Type) where
  spi : SpiSlave (Reboot × ρ)
  /-- A frame asked for a reset, and the reply to it was not sent yet (not a variable of the
  source). -/
  awaiting : Bool

/-- The latches. -/
def ResetSys.reboot (s : ResetSys ρ) : Reboot := s.spi.fw.hal.1

/-- Before `transport_spi_init`, with the mode of the boot taken from `p`. -/
def ResetSys.boot (w : Bool) (p : Persist) (rest : ρ) : ResetSys ρ where
  spi := .boot (.boot (Reboot.boot w p, rest))
  awaiting := false

/-- What can happen next. -/
inductive ResetAct (ρ : Type)
  | spi (a : SpiAct (Reboot × ρ))
  | /-- `cc3501e_hw_tick`, with what the rest of the HAL starts from if it resets. -/
    tick (rest : ρ)

/-- What a step shows. -/
structure ResetEv where
  /-- A frame was served. -/
  served : Bool
  /-- The frame asked for a reset. -/
  asked : Bool
  /-- The payload of a reply was sent to its end. -/
  sent : Bool
  /-- The chip was reset. -/
  fired : Bool
  deriving DecidableEq, Repr

/-- The rest of the firmware changes nothing of the latches but the flag of the next boot. -/
def ResetSys.Leaves (s : ResetSys ρ) : SpiAct (Reboot × ρ) → Prop
  | .fw fw => fw.hal.1 = { s.reboot with persist := fw.hal.1.persist }
  | _ => True

instance (s : ResetSys ρ) : DecidablePred s.Leaves
  | .fw fw => inferInstanceAs (Decidable (fw.hal.1 = { s.reboot with persist := fw.hal.1.persist }))
  | .clocked _ => inferInstanceAs (Decidable True)
  | .finish _ _ _ => inferInstanceAs (Decidable True)
  | .quiesce _ => inferInstanceAs (Decidable True)
  | .reinit _ _ => inferInstanceAs (Decidable True)
  | .release => inferInstanceAs (Decidable True)
  | .suspend => inferInstanceAs (Decidable True)
  | .pollService => inferInstanceAs (Decidable True)

/-- `cc3501e_hw_notify_reply_sent`, called by `on_transfer`. -/
def SpiSlave.notify (s : SpiSlave (Reboot × ρ)) : SpiSlave (Reboot × ρ) :=
  { s with fw := { s.fw with hal := (hwNotifyReplySent s.fw.hal.1, s.fw.hal.2) } }

/-- Whether the step serves a frame. -/
def ResetSys.serves (E : Env ρ) (w : Bool) (s : ResetSys ρ) (a : SpiAct (Reboot × ρ)) : Bool :=
  s.spi.dispatches (E.withReboot w) (dispatcher (E.withReboot w)) a

/-- The machine with the slave moved to `spi` by `a`. -/
def ResetSys.moved (E : Env ρ) (w : Bool) (s : ResetSys ρ) (a : SpiAct (Reboot × ρ))
    (spi : SpiSlave (Reboot × ρ)) : ResetSys ρ × ResetEv :=
  let asked := decide (spi.fw.hal.1.requests ≠ s.reboot.requests)
  let sent := s.spi.replySent a
  ({ spi := if sent then spi.notify else spi, awaiting := asked || (s.awaiting && !sent) },
    { served := s.serves E w a, asked := asked, sent := sent, fired := false })

/-- One step. -/
def resetStep (E : Env ρ) (w : Bool) (s : ResetSys ρ) : ResetAct ρ → Option (ResetSys ρ × ResetEv)
  | .spi a =>
      if s.Leaves a then
        (spiStep (E.withReboot w) (dispatcher (E.withReboot w)) s.reboot.polled s.spi a).map
          fun out => s.moved E w a out.1
      else none
  | .tick rest =>
      if s.reboot.resetPending && s.reboot.replyDrained then
        some (.boot w s.reboot.persist rest,
          { served := false, asked := false, sent := false, fired := true })
      else some (s, { served := false, asked := false, sent := false, fired := false })

/-- The slave, the latches and the tick as a machine. -/
def resetSystem (E : Env ρ) (w : Bool) : Machine (ResetSys ρ) (ResetAct ρ) ResetEv where
  step := resetStep E w

/-! ## Acknowledged before fired -/

/-- The reply to the frame served at `i` was sent before `k`: the end of a reply, and since `i` no other
frame was served whose reply it could be. -/
def AckedBetween (tr : List ResetEv) (i k : Nat) : Prop :=
  ∃ j, i < j ∧ j < k ∧ At (·.sent) tr j ∧ ∀ m, i < m → m < j → ¬ At (·.served) tr m

/-- Every reset of the chip was asked for in that boot, and every frame that asked for one was answered
before. -/
def AckFirst (tr : List ResetEv) : Prop :=
  ∀ k, At (·.fired) tr k →
    (∃ i < k, At (·.asked) tr i ∧ ∀ m, i < m → m < k → ¬ At (·.fired) tr m) ∧
    ∀ i < k, At (·.asked) tr i → AckedBetween tr i k

/-- No frame is served while the acknowledgement of a reset is outstanding. -/
def AckUndisturbed (E : Env ρ) (w : Bool) (s : ResetSys ρ) : ResetAct ρ → Prop
  | .spi a => s.awaiting = true → s.serves E w a = false
  | .tick _ => True

section

variable {tr : List ResetEv} {e : ResetEv} {i k : Nat}

theorem AckedBetween.snoc (h : AckedBetween tr i k) (hk : k ≤ tr.length) :
    AckedBetween (tr ++ [e]) i k := by
  obtain ⟨j, hij, hjk, hsent, hno⟩ := h
  refine ⟨j, hij, hjk, hsent.snoc, fun m him hmj hm => ?_⟩
  rcases at_snoc.mp hm with hm | ⟨rfl, -⟩
  · exact hno m him hmj hm
  · omega

theorem AckedBetween.grow (h : AckedBetween tr i tr.length) :
    AckedBetween (tr ++ [e]) i (tr ++ [e]).length := by
  obtain ⟨j, hij, hjk, hsent, hno⟩ := @AckedBetween.snoc tr e i _ h le_rfl
  exact ⟨j, hij, by rw [List.length_append]; omega, hsent, hno⟩

/-- A reset keeps the order if, when it fires, a frame of this boot asked for it and all that ever asked
have been answered. -/
theorem AckFirst.snoc (h : AckFirst tr)
    (he : e.fired = true → (∃ i, At (·.asked) tr i ∧ ∀ m, i < m → ¬ At (·.fired) tr m) ∧
      ∀ i, At (·.asked) tr i → AckedBetween tr i tr.length) : AckFirst (tr ++ [e]) := by
  -- the events before a position of the history are those of the history
  have hback : ∀ {p : ResetEv → Prop} {i : Nat}, i < tr.length → At p (tr ++ [e]) i → At p tr i := by
    intro p i hi hp
    rcases at_snoc.mp hp with hp | ⟨rfl, -⟩
    · exact hp
    · omega
  intro k hk
  rcases at_snoc.mp hk with hk | ⟨rfl, hfired⟩
  · have hlt := hk.lt
    obtain ⟨⟨i, hik, hask, hno⟩, hall⟩ := h k hk
    refine ⟨⟨i, hik, hask.snoc, fun m him hmk hm => hno m him hmk (hback (by omega) hm)⟩, ?_⟩
    intro i hik hask
    exact (hall i hik (hback (by omega) hask)).snoc hlt.le
  · obtain ⟨⟨i, hask, hno⟩, hall⟩ := he hfired
    refine ⟨⟨i, hask.lt, hask.snoc, fun m him hmk hm => hno m him (hback hmk hm)⟩, ?_⟩
    intro i hi hask
    exact (hall i (hback hi hask)).snoc le_rfl

end

/-- What the latches say about the history. -/
structure AckInv (tr : List ResetEv) (s : ResetSys ρ) : Prop where
  first : AckFirst tr
  /-- A pending reset was asked for in this boot. -/
  pending : s.reboot.resetPending = true →
    ∃ i, At (·.asked) tr i ∧ ∀ m, i < m → ¬ At (·.fired) tr m
  /-- No reply was sent since a reset was asked for. -/
  undrained : s.awaiting = true → s.reboot.replyDrained = false
  /-- A frame that asked for a reset was answered, or its reply is the one outstanding. -/
  outstanding : ∀ i, At (·.asked) tr i →
    AckedBetween tr i tr.length ∨ (s.awaiting = true ∧ ∀ m, i < m → ¬ At (·.served) tr m)

theorem AckInv.boot (w : Bool) (p : Persist) (rest : ρ) : AckInv [] (ResetSys.boot w p rest) where
  first := fun _ h => absurd h not_at_nil
  pending := by
    intro h
    cases w <;> cases h
  undrained := by simp [ResetSys.boot]
  outstanding := fun _ h => absurd h not_at_nil

/-- What a step of the slave shows of the latches: only a served frame asks for a reset, and the end of
a reply serves none. -/
structure LatchShown (s s' : ResetSys ρ) (e : ResetEv) : Prop where
  notFired : e.fired = false
  served_of_asked : e.asked = true → e.served = true
  served_of_sent : e.sent = true → e.served = false
  awaiting : s'.awaiting = (e.asked || (s.awaiting && !e.sent))
  pending : e.asked = false → s'.reboot.resetPending = s.reboot.resetPending
  undrained : e.asked = true → s'.reboot.replyDrained = false
  kept : e.served = false → e.sent = false → s'.reboot.replyDrained = s.reboot.replyDrained

/-- The same in terms of the latches before and after, the report of a sent reply apart. -/
private theorem latchShown_of_moves {E : Env ρ} {w : Bool} {s : ResetSys ρ} {a : SpiAct (Reboot × ρ)}
    {spi : SpiSlave (Reboot × ρ)} (hmoves : LatchMoves s.reboot spi.fw.hal.1)
    (hstill : s.serves E w a = false → spi.fw.hal.1.requests = s.reboot.requests ∧
      spi.fw.hal.1.replyDrained = s.reboot.replyDrained)
    (hsent : s.spi.replySent a = true → s.serves E w a = false) :
    LatchShown s (s.moved E w a spi).1 (s.moved E w a spi).2 where
  notFired := rfl
  served_of_asked := by
    intro hask
    by_contra hno
    have hno' : s.serves E w a = false := by simpa [ResetSys.moved] using hno
    exact of_decide_eq_true hask (hstill hno').1
  served_of_sent := hsent
  awaiting := rfl
  pending := by
    intro hask
    have hp : spi.fw.hal.1.resetPending = s.reboot.resetPending := by
      rcases hmoves with h | h
      · exact h.2
      · exact absurd h.1 (by simpa [ResetSys.moved] using hask)
    simp only [ResetSys.moved, ResetSys.reboot]
    split_ifs <;> exact hp
  undrained := by
    intro hask
    have hne : spi.fw.hal.1.requests ≠ s.reboot.requests := of_decide_eq_true hask
    have hnot : s.spi.replySent a = false := by
      by_contra hno
      exact hne (hstill (hsent (by simpa using hno))).1
    rcases hmoves with h | h
    · exact absurd h.1 hne
    · simpa [ResetSys.moved, ResetSys.reboot, hnot] using h.2
  kept := by
    intro hserved hnot
    have hnot' : s.spi.replySent a = false := hnot
    simpa [ResetSys.moved, ResetSys.reboot, hnot'] using (hstill hserved).2

theorem resetStep_spi {E : Env ρ} {w : Bool} {s s' : ResetSys ρ} {a : SpiAct (Reboot × ρ)} {e : ResetEv}
    (hs : resetStep E w s (.spi a) = some (s', e)) : LatchShown s s' e ∧ e.served = s.serves E w a := by
  simp only [resetStep] at hs
  split_ifs at hs with hl
  obtain ⟨⟨spi, ev⟩, hspi, hmoved⟩ := Option.map_eq_some_iff.mp hs
  obtain ⟨rfl, rfl⟩ := Prod.mk.inj hmoved.symm
  refine ⟨?_, rfl⟩
  by_cases hfw : ∃ fw, a = .fw fw
  · -- the rest of the firmware
    obtain ⟨fw, rfl⟩ := hfw
    obtain rfl := (Prod.mk.inj (Option.some.inj hspi)).1
    have hl : fw.hal.1 = { s.reboot with persist := fw.hal.1.persist } := hl
    refine latchShown_of_moves (.inl ?_) (fun _ => ?_) (by simp [SpiSlave.replySent])
    · change fw.hal.1.requests = _ ∧ fw.hal.1.resetPending = _
      rw [hl]
      exact ⟨rfl, rfl⟩
    · change fw.hal.1.requests = _ ∧ fw.hal.1.replyDrained = _
      rw [hl]
      exact ⟨rfl, rfl⟩
  · have hR : ∀ h : Reboot × ρ, LatchMoves h.1 h.1 := fun h => .refl h.1
    let R : Reboot × ρ → Reboot × ρ → Prop := fun h h' => LatchMoves h.1 h'.1
    have h := spiStep_hal (R := R) hR (dispatchFrame_hal (R := R) hR (dispatch_moves E w))
      (fun fw hfw' => hfw ⟨fw, hfw'⟩) hspi
    have hserves : s.spi.dispatches (E.withReboot w) (dispatcher (E.withReboot w)) a = s.serves E w a :=
      rfl
    rw [hserves] at h
    refine latchShown_of_moves ?_ (fun hno => ?_) h.2
    · have h1 := h.1
      split_ifs at h1 with hyes
      · exact h1
      · rw [h1]
        exact .refl _
    · have h1 := h.1
      rw [if_neg (by simp [hno])] at h1
      rw [h1]
      exact ⟨rfl, rfl⟩

/-- Everything but a reset of the chip keeps the invariant. -/
theorem AckInv.shown {tr : List ResetEv} {s s' : ResetSys ρ} {e : ResetEv} (h : AckInv tr s)
    (hl : LatchShown s s' e) (hquiet : s.awaiting = true → e.served = false) :
    AckInv (tr ++ [e]) s' where
  first := h.first.snoc (by simp [hl.notFired])
  pending := by
    intro hp
    by_cases hask : e.asked = true
    · refine ⟨tr.length, at_last hask, fun m hm hf => ?_⟩
      have := hf.lt
      rw [List.length_append, List.length_singleton] at this
      omega
    · rw [hl.pending (by simpa using hask)] at hp
      obtain ⟨i, hi, hno⟩ := h.pending hp
      refine ⟨i, hi.snoc, fun m him hm => ?_⟩
      rcases at_snoc.mp hm with hm | ⟨-, hm⟩
      · exact hno m him hm
      · exact absurd hm (by simp [hl.notFired])
  undrained := by
    intro haw
    rw [hl.awaiting] at haw
    by_cases hask : e.asked = true
    · exact hl.undrained hask
    · obtain ⟨haw, hsent⟩ : s.awaiting = true ∧ e.sent = false := by simpa [hask] using haw
      rw [hl.kept (hquiet haw) hsent]
      exact h.undrained haw
  outstanding := by
    intro i hi
    rcases at_snoc.mp hi with hi | ⟨rfl, hask⟩
    · rcases h.outstanding i hi with hacked | ⟨haw, hno⟩
      · exact .inl hacked.grow
      · by_cases hsent : e.sent = true
        · -- the reply that ends here is the one to `i`
          refine .inl ⟨tr.length, hi.lt, by simp, at_last hsent, fun m him hm hserved => ?_⟩
          rcases at_snoc.mp hserved with hserved | ⟨rfl, -⟩
          · exact hno m him hserved
          · omega
        · refine .inr ⟨by simp [hl.awaiting, haw, hsent], fun m him hserved => ?_⟩
          rcases at_snoc.mp hserved with hserved | ⟨-, hserved⟩
          · exact hno m him hserved
          · exact absurd hserved (by simp [hquiet haw])
    · refine .inr ⟨by simp [hl.awaiting, hask], fun m hm hserved => ?_⟩
      have := hserved.lt
      rw [List.length_append, List.length_singleton] at this
      omega

theorem AckInv.step {E : Env ρ} {w : Bool} {tr : List ResetEv} {s s' : ResetSys ρ} {a : ResetAct ρ}
    {e : ResetEv} (h : AckInv tr s) (hg : AckUndisturbed E w s a)
    (hs : resetStep E w s a = some (s', e)) : AckInv (tr ++ [e]) s' := by
  cases a with
  | spi a =>
      obtain ⟨hl, hserved⟩ := resetStep_spi hs
      exact h.shown hl fun haw => hserved.trans (hg haw)
  | tick rest =>
      simp only [resetStep] at hs
      split_ifs at hs with hfire
      · obtain ⟨rfl, rfl⟩ := Prod.mk.inj (Option.some.inj hs)
        rw [Bool.and_eq_true] at hfire
        -- a reply was sent since, so none of those to a reset is outstanding
        have hacked : ∀ i, At (·.asked) tr i → AckedBetween tr i tr.length := by
          intro i hi
          rcases h.outstanding i hi with hacked | ⟨haw, -⟩
          · exact hacked
          · rw [h.undrained haw] at hfire
            cases hfire.2
        refine ⟨h.first.snoc fun _ => ⟨h.pending hfire.1, hacked⟩, ?_, by simp [ResetSys.boot], ?_⟩
        · exact fun hp => absurd hp (by cases w <;> nofun)
        · intro i hi
          rcases at_snoc.mp hi with hi | ⟨-, hi⟩
          · exact .inl (hacked i hi).grow
          · cases hi
      · obtain ⟨rfl, rfl⟩ := Prod.mk.inj (Option.some.inj hs)
        exact h.shown ⟨rfl, by simp, by simp, by simp, by simp, by simp, by simp⟩ (by simp)

/-- If no frame is served while the acknowledgement of a reset is outstanding, the chip is reset only
after every frame that asked for it was acknowledged. -/
theorem reset_after_ack {E : Env ρ} {w : Bool} {p : Persist} {rest : ρ} {tr : List ResetEv}
    {s : ResetSys ρ} (hr : (resetSystem E w).RunIf (AckUndisturbed E w) (.boot w p rest) tr s) :
    AckFirst tr :=
  (hr.invariant (P := AckInv) (.boot w p rest) fun _ _ _ _ _ h hg hs => h.step hg hs).first

/-! ## Two runs -/

instance (E : Env ρ) (w : Bool) (s : ResetSys ρ) (a : ResetAct ρ) : Decidable (AckUndisturbed E w s a) :=
  match a with
  | .spi a => inferInstanceAs (Decidable (s.awaiting = true → s.serves E w a = false))
  | .tick _ => inferInstanceAs (Decidable True)

/-- The host clocks a request without arguments: the header and the trailer. -/
def clockRequest (cmd lo hi : UInt8) : List (ResetAct Unit) :=
  [.spi (.finish .completed [cmd, 0x08, 2, 0] true), .spi (.finish .completed [lo, hi] true)]

/-- The host clocks a reply without data. -/
def clockReply : List (ResetAct Unit) :=
  [.spi (.finish .completed (List.replicate 4 0) true),
    .spi (.finish .completed (List.replicate 8 0) true)]

/-- The memory that is not initialised, filled with zeros. -/
def Persist.zero : Persist where
  magic := 0
  magicInv := 0
  boots := 0

/-- A `RESET` whose reply is clocked, and the tick. -/
theorem reset_after_ack_sent :
    ∃ tr s, (resetSystem Env.reference true).RunIf (AckUndisturbed .reference true)
        (.boot true .zero ()) tr s ∧
      At (·.asked) tr 2 ∧ At (·.sent) tr 4 ∧ At (·.fired) tr 5 ∧ AckFirst tr := by
  have hexec : ((resetSystem Env.reference true).execIf (AckUndisturbed .reference true)
      (.boot true .zero ())
      (.spi (.reinit true true) :: clockRequest 0x02 0x6B 0xA6 ++ clockReply ++ [.tick ()])).map
        (fun p => (p.2[2]?.map (·.asked), p.2[4]?.map (·.sent), p.2[5]?.map (·.fired))) =
      some (some true, some true, some true) := by decide +kernel
  obtain ⟨⟨s, tr⟩, hs, hat⟩ := Option.map_eq_some_iff.mp hexec
  obtain ⟨hask, hsent, hfired⟩ := by simpa only [Prod.mk.injEq, Option.map_eq_some_iff] using hat
  have hr := Machine.runIf_of_execIf hs
  exact ⟨tr, s, hr, hask, hsent, hfired, reset_after_ack hr⟩

/-- The reply to a `RESET` is cut off when the slave is opened again, and the host goes on with a `PING`.
The reply to that fires the reset, and the `RESET` was never acknowledged. -/
theorem ack_abandoned :
    ∃ tr s, (resetSystem Env.reference true).Run (.boot true .zero ()) tr s ∧ ¬ AckFirst tr := by
  have hexec : ((resetSystem Env.reference true).exec (.boot true .zero ())
      (.spi (.reinit true true) :: clockRequest 0x02 0x6B 0xA6 ++ .spi (.reinit true true) ::
        clockRequest 0x00 0x03 0x4B ++ clockReply ++ [.tick ()])).map
        (fun p => (p.2.map (·.served), p.2.map (·.asked), p.2.map (·.sent), p.2.map (·.fired))) =
      some ([false, false, true, false, false, true, false, false, false],
        [false, false, true, false, false, false, false, false, false],
        [false, false, false, false, false, false, false, true, false],
        [false, false, false, false, false, false, false, false, true]) := by decide +kernel
  obtain ⟨⟨s, tr⟩, hs, hat⟩ := Option.map_eq_some_iff.mp hexec
  obtain ⟨hserved, hasked, hsent, hfired⟩ := by simpa only [Prod.mk.injEq] using hat
  have hAt : ∀ (f : ResetEv → Bool) (i : Nat), At (f ·) tr i ↔ (tr.map f)[i]? = some true := by
    intro f i
    rw [List.getElem?_map, Option.map_eq_some_iff]
    rfl
  refine ⟨tr, s, Machine.run_of_exec hs, fun h => ?_⟩
  obtain ⟨j, hij, hjk, hj, hno⟩ := (h 8 ((hAt _ 8).mpr (by rw [hfired]; rfl))).2 2 (by omega)
    ((hAt _ 2).mpr (by rw [hasked]; rfl))
  rw [hAt, hsent] at hj
  obtain rfl : j = 7 := by
    have hall : ∀ j : Fin 8, [false, false, false, false, false, false, false, true, false][j.val]? =
        some true → j.val = 7 := by decide
    exact hall ⟨j, hjk⟩ hj
  exact hno 5 (by omega) (by omega) ((hAt _ 5).mpr (by rw [hserved]; rfl))

end Cc3501eBridge
