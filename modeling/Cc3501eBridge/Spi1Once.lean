import Cc3501eBridge.ReplyFits

/-!
# A transfer on the pass-through bus is not repeated

`SPI1_TRANSFER` drives a device behind the chip, where clocking the same bytes twice may program a page
twice.  The handler therefore keeps a finished transfer in the job slot and answers every further request
with its sequence number from there.  That lasts as long as nobody else wants the slot.

Two facts about all runs carry this.  While the slot holds a transfer the instance is configured: a
`SPI1_RELEASE` that takes effect has had the slot, or is answered from the retry latch, which a later
`SPI1_CONFIGURE` has overwritten.  And the reset that follows a fire-and-forget job cannot hit a finished
transfer.
-/

namespace Cc3501eBridge

variable {η : Type}

open Trace

/-! ## What the handlers leave alone -/

/-- The handler leaves the pass-through flags alone, and the slot if it has no business there. -/
structure LeavesSpi1 (c : Cmd) (fw : Fw η) (out : Fw η × Reply) : Prop where
  spi1 : out.1.spi1 = fw.spi1
  slot : c.workerRouted = false → out.1.worker = fw.worker

namespace LeavesSpi1

variable {E : Env η} {c : Cmd} {fw : Fw η} {r : Reply} {req : List UInt8} {cap minCap : Nat}

theorem refl : LeavesSpi1 c fw (fw, r) := ⟨rfl, fun _ => rfl⟩

theorem hal (h : η) : LeavesSpi1 c fw ({ fw with hal := h }, r) := ⟨rfl, fun _ => rfl⟩

theorem report (x : Int × η) : LeavesSpi1 c fw (fw.report x) := .hal x.2

theorem ite {p : Prop} [Decidable p] {a b : Fw η × Reply} (ha : LeavesSpi1 c fw a)
    (hb : LeavesSpi1 c fw b) : LeavesSpi1 c fw (if p then a else b) := by
  split_ifs
  · exact ha
  · exact hb

theorem of_outcome (hc : c.workerRouted = true) {onIdle : Fw η → Fw η} {out : Fw η × Reply}
    (h : RoutedOutcome fw c cap onIdle out) (hidle : ∀ fw : Fw η, (onIdle fw).spi1 = fw.spi1) :
    LeavesSpi1 c fw out := by
  refine ⟨?_, fun hn => absurd hc (by simp [hn])⟩
  cases h with
  | latched _ => rfl
  | collected _ _ _ => rfl
  | submitted _ _ _ => exact hidle _
  | busy _ _ => rfl

theorem workerRouted (hc : c.workerRouted = true) :
    LeavesSpi1 c fw (handleWorkerRouted fw c minCap req cap) :=
  .ite .refl (.ite .refl (.of_outcome hc (routedPoll_outcome _ _ _ _) fun _ => rfl))

theorem workerRoutedPayload (hc : c.workerRouted = true) :
    LeavesSpi1 c fw (handleWorkerRoutedPayload E fw c req) := by
  refine .of_outcome hc (routedPoll_outcome _ _ _ _) fun fw₁ => ?_
  split_ifs <;> rfl

theorem workerRoutedPayloadReply (hc : c.workerRouted = true) :
    LeavesSpi1 c fw (handleWorkerRoutedPayloadReply fw c req minCap cap) := by
  refine .ite .refl (.of_outcome hc (routedPoll_outcome _ _ _ _) fun fw₁ => ?_)
  simp only [Fw.submitPayload]
  split_ifs <;> rfl

end LeavesSpi1

section Handlers

variable (E : Env η) (fw : Fw η) (req : List UInt8) (cap : Nat)

theorem handleSockSend_leaves : LeavesSpi1 .sockSend fw (handleSockSend fw req cap) := by
  have h := handleSockSend_outcome fw req cap
  generalize handleSockSend fw req cap = out at h
  refine ⟨?_, nofun⟩
  cases h with
  | invalid _ => rfl
  | cached _ _ _ => rfl
  | noMem _ _ _ _ => rfl
  | routed _ _ _ hfw ho =>
      have h := (LeavesSpi1.of_outcome rfl ho fun _ => rfl).spi1
      subst hfw
      exact h

theorem handleSockRecv_leaves : LeavesSpi1 .sockRecv fw (handleSockRecv fw req cap) := by
  have h := handleSockRecv_outcome fw req cap
  generalize handleSockRecv fw req cap = out at h
  cases h <;> exact ⟨rfl, nofun⟩

theorem handleSockClose_leaves : LeavesSpi1 .sockClose fw (handleSockClose E fw req) := by
  refine .ite .refl ?_
  have h : LeavesSpi1 .sockClose { fw with recv := fw.recv.forgetHandle (wordAt req 0) }
      (handleWorkerRoutedPayload E { fw with recv := fw.recv.forgetHandle (wordAt req 0) }
        .sockClose req) := .workerRoutedPayload rfl
  exact ⟨h.spi1, nofun⟩

theorem handleOtaUpdateMode_leaves : LeavesSpi1 .otaUpdateMode fw (handleOtaUpdateMode E fw req cap) := by
  unfold handleOtaUpdateMode
  exact .ite .refl (.ite .refl (.ite .refl (.ite .refl (.ite (.hal _) (.hal _)))))

theorem handleBleGattRegister_leaves :
    LeavesSpi1 .bleGattRegister fw (handleBleGattRegister E fw req cap) := by
  unfold handleBleGattRegister
  cases bleGattRegisterValidate E req with
  | none => exact .refl
  | some n => exact .workerRoutedPayloadReply rfl

/-- The three opcodes of the family apart, no opcode touches the pass-through flags; and the opcodes that
are not routed leave the slot alone. -/
theorem handle_leaves {c : Cmd} (h : c ≠ .spi1Configure ∧ c ≠ .spi1Transfer ∧ c ≠ .spi1Release) :
    LeavesSpi1 c fw (handle E c fw req cap) := by
  cases c with
  | spi1Configure => exact absurd rfl h.1
  | spi1Transfer => exact absurd rfl h.2.1
  | spi1Release => exact absurd rfl h.2.2
  | ping => exact .ite .refl .refl
  | getVersion => exact .ite .refl (.ite .refl .refl)
  | getMac => exact .workerRouted rfl
  | reset => exact .ite .refl (.hal _)
  | getDiagInfo => exact .ite .refl (.ite .refl .refl)
  | getPendingEvents => exact .ite .refl ⟨rfl, fun _ => rfl⟩
  | getCapabilities => exact .ite .refl (.ite .refl .refl)
  | otaBegin => exact .ite .refl (.report _)
  | otaWrite => exact .ite .refl (.report _)
  | otaFinish => exact .ite .refl (.report _)
  | otaAbort => exact .ite .refl (.report _)
  | otaStatus => exact .ite .refl (.ite .refl (.ite .refl .refl))
  | otaPromote => exact .ite .refl (.report _)
  | otaUpdateMode => exact handleOtaUpdateMode_leaves E fw req cap
  | streamWrite => exact ⟨rfl, fun _ => rfl⟩
  | gpioConfigure => exact .ite .refl (.report _)
  | gpioWrite => exact .ite .refl (.report _)
  | gpioRead => exact .ite .refl (.ite .refl (.hal _))
  | gpioSetInterrupt => exact .ite .refl (.report _)
  | camEnable => exact .ite .refl (.report _)
  | camDisable => exact .ite .refl (.report _)
  | wifiScanStart => exact .workerRouted rfl
  | wifiScanStop => exact .ite .refl (.report _)
  | wifiConnectSta => exact .ite .refl (.ite .refl (.workerRoutedPayload rfl))
  | wifiDisconnect => exact .ite .refl (.workerRouted rfl)
  | wifiApStart => exact .ite .refl (.ite .refl (.workerRoutedPayload rfl))
  | wifiApStop => exact .workerRouted rfl
  | wifiGetRssi => exact .workerRouted rfl
  | wifiGetIp => exact .ite .refl (.ite .refl (.ite .refl .refl))
  | wifiStatus => exact .ite .refl (.ite .refl .refl)
  | sockOpen => exact .ite .refl (.ite .refl (.workerRoutedPayloadReply rfl))
  | sockConnect => exact .ite .refl (.ite .refl (.workerRoutedPayload rfl))
  | sockSend => exact handleSockSend_leaves fw req cap
  | sockRecv => exact handleSockRecv_leaves fw req cap
  | sockClose => exact handleSockClose_leaves E fw req
  | sockBind => exact .ite .refl (.ite .refl (.workerRoutedPayload rfl))
  | sockListen => exact .ite .refl (.ite .refl (.workerRoutedPayload rfl))
  | bleEnable => exact .workerRouted rfl
  | bleDisable => exact .workerRouted rfl
  | bleAdvStart => exact .ite .refl (.ite .refl (.workerRoutedPayload rfl))
  | bleAdvStop => exact .workerRouted rfl
  | bleScanStart => exact .workerRouted rfl
  | bleScanStop => exact .ite .refl (.workerRouted rfl)
  | bleConnect => exact .ite .refl (.workerRoutedPayload rfl)
  | bleDisconnect => exact .ite .refl (.workerRouted rfl)
  | bleGattRegister => exact handleBleGattRegister_leaves E fw req cap
  | bleGattNotify => exact .ite .refl (.workerRoutedPayload rfl)
  | bleGattRead => exact .ite .refl (.workerRoutedPayloadReply rfl)
  | bleGattWrite => exact .ite .refl (.workerRoutedPayload rfl)
  | powerPolicy => exact .ite .refl (.hal _)
  | diagGetStats => exact .ite .refl (.ite .refl .refl)
  | diagLogLevel => exact .ite .refl (.report _)

end Handlers

/-! ## The instance is configured -/

/-- The flags agree with the latch and the slot: a latched `SPI1_RELEASE` is still in effect, and a
transfer in the slot was accepted for a configured instance. -/
structure Spi1Flags (fw : Fw η) : Prop where
  released : fw.latch.valid = true → fw.latch.cmd = .spi1Release → fw.spi1.configured = false
  configured : fw.worker.job.jobCmd = .spi1Transfer → fw.spi1.configured = true

/-- The opcode of the job after a step on the slot. -/
theorem SlotStep.jobCmd {c : Cmd} {req : List UInt8} {w w' : Worker} (h : SlotStep c req w w') :
    w'.job.jobCmd = w.job.jobCmd ∨ w'.job.jobCmd = .ping ∨ w'.job.jobCmd = c := by
  cases h with
  | keep => exact .inl rfl
  | free _ => exact .inr (.inl rfl)
  | submit _ _ => exact .inr (.inr rfl)
  | submitPayload _ _ _ => exact .inr (.inr rfl)

/-- After a routed request the latch is as it was and the answer is `BUSY`, or it is that request's. -/
theorem RoutedPoll.latch_cmd {fw : Fw η} {c : Cmd} {cap : Nat} {out : Fw η × Reply}
    (h : RoutedPoll fw c cap out) (hc : retryLatchApplies c = true)
    (hv : out.1.latch.valid = true) :
    out.1.latch.cmd = c ∨ out.1.latch = fw.latch ∧ out.2.status = .errBusy := by
  cases h with
  | served hl =>
      rcases retryLatchServe_cases hl with ⟨r, -, hentry, -, rfl⟩ | ⟨hno, -⟩ | ⟨hno, -⟩
      · exact .inl hentry.cmd
      · cases hno
      · cases hno
  | collected hl _ _ =>
      refine .inl ?_
      dsimp only at hv ⊢
      unfold retryLatchStore at hv ⊢
      simp only [hc, Bool.not_true, Bool.false_eq_true, if_false] at hv ⊢
      split_ifs at hv ⊢
      rfl
  | busy hl _ hfw =>
      refine .inr ⟨?_, rfl⟩
      rcases retryLatchServe_cases hl with ⟨r, hsome, -⟩ | ⟨-, rfl⟩ | ⟨-, -, -, -, rfl⟩
      · cases hsome
      · exact hfw
      · rw [hfw] at hv
        cases hv

section Handlers

variable {E : Env η} {fw : Fw η} {req : List UInt8} {cap : Nat}

/-- What every handler does to the latch: nothing, or it is left with the handler's own entry. -/
theorem handle_latch_cmd {c : Cmd} (hv : (handle E c fw req cap).1.latch.valid = true) :
    (handle E c fw req cap).1.latch = fw.latch ∨ (handle E c fw req cap).1.latch.cmd = c := by
  by_cases hs : c = .sockSend
  · subst hs
    exact .inl (handleSockSend_latch fw req cap)
  by_cases hr : c = .sockRecv
  · subst hr
    exact .inl (handleSockRecv_latch fw req cap)
  have h := handle_answered E fw req cap hs hr
  generalize handle E c fw req cap = out at h hv
  cases h with
  | own _ hl _ _ => exact .inl hl
  | @routed fw₁ _ _ _ _ hl₁ _ _ _ hp hl _ =>
      have hc : retryLatchApplies c = true := by
        cases c <;> first | rfl | exact absurd rfl hs | exact absurd rfl hr
      rw [hl] at hv ⊢
      rcases hp.latch_cmd hc hv with h | ⟨h, -⟩
      · exact .inr h
      · exact .inl (h.trans hl₁)

theorem handleSpi1Transfer_flags (h : Spi1Flags fw) : Spi1Flags (handleSpi1Transfer E fw req cap).1 := by
  have hlatch := (handleSpi1Transfer_inline E fw req cap).latch
  have hslot := (handleSpi1Transfer_plain E fw req cap).slot
  have hconf : (handleSpi1Transfer E fw req cap).1.spi1.configured = fw.spi1.configured ∧
      ((handleSpi1Transfer E fw req cap).1.worker = fw.worker ∨ fw.spi1.configured = true) := by
    unfold handleSpi1Transfer
    by_cases hvalid : spi1TransferValid E req = false
    · rw [if_pos hvalid]
      exact ⟨rfl, .inl rfl⟩
    by_cases hoff : fw.spi1.configured = false
    · rw [if_neg hvalid, if_pos hoff]
      exact ⟨rfl, .inl rfl⟩
    rw [if_neg hvalid, if_neg hoff]
    refine ⟨?_, .inr (by simpa using hoff)⟩
    split_ifs
    · rfl
    · dsimp only
      split
      · split_ifs <;> rfl
      · rfl
      · rfl
      · rfl
  refine ⟨?_, fun hcmd => ?_⟩
  · rw [hlatch, hconf.1]
    exact h.released
  · rw [hconf.1]
    rcases hconf.2 with hw | hw
    · rw [hw] at hcmd
      exact h.configured hcmd
    · exact hw

theorem handleSpi1Configure_flags (h : Spi1Flags fw) :
    Spi1Flags (handleSpi1Configure E fw req cap).1 := by
  unfold handleSpi1Configure
  split_ifs
  · exact h
  · exact h
  · exact h
  · exact h
  · exact h
  · have hleaves : LeavesSpi1 .spi1Configure fw
        (handleWorkerRoutedPayloadReply fw .spi1Configure req 8 cap) := .workerRoutedPayloadReply rfl
    have hslot : SlotStep .spi1Configure req fw.worker
        (handleWorkerRoutedPayloadReply fw .spi1Configure req 8 cap).1.worker :=
      (Plain.workerRoutedPayloadReply rfl (by decide)).slot
    have hlatch : (handleWorkerRoutedPayloadReply fw .spi1Configure req 8 cap).1.latch.valid = true →
        (handleWorkerRoutedPayloadReply fw .spi1Configure req 8 cap).1.latch.cmd = .spi1Release →
        (handleWorkerRoutedPayloadReply fw .spi1Configure req 8 cap).1.latch = fw.latch ∧
          (handleWorkerRoutedPayloadReply fw .spi1Configure req 8 cap).2.status ≠ .ok := by
      rw [handleWorkerRoutedPayloadReply_eq fw (by decide)]
      by_cases hcap : cap < 8
      · rw [if_pos hcap]
        exact fun _ _ => ⟨rfl, by simp⟩
      · rw [if_neg hcap]
        intro hv hcmd
        have hp := routedPoll_latch fw .spi1Configure cap (fun _ => rfl : ∀ fw : Fw η,
          (fw.submitPayload .spi1Configure req).latch = fw.latch)
        rcases hp.latch_cmd rfl hv with h | ⟨h, hbusy⟩
        · exact absurd (h.symm.trans hcmd) (by decide)
        · exact ⟨h, by rw [hbusy]; simp⟩
    generalize handleWorkerRoutedPayloadReply fw .spi1Configure req 8 cap = out at hleaves hslot hlatch
    dsimp only
    split_ifs with hok
    · exact ⟨fun hv hcmd => absurd hok (hlatch hv hcmd).2, fun _ => rfl⟩
    · refine ⟨fun hv hcmd => ?_, fun hcmd => ?_⟩
      · have hl := (hlatch hv hcmd).1
        rw [hl] at hv hcmd
        rw [hleaves.spi1]
        exact h.released hv hcmd
      · rw [hleaves.spi1]
        rcases hslot.jobCmd with h' | h' | h'
        · exact h.configured (h'.symm.trans hcmd)
        · exact absurd (h'.symm.trans hcmd) (by decide)
        · exact absurd (h'.symm.trans hcmd) (by decide)

theorem handleSpi1Release_flags (h : Spi1Flags fw) : Spi1Flags (handleSpi1Release fw req cap).1 := by
  unfold handleSpi1Release
  by_cases hlen : req.length ≠ 0
  · rw [if_pos hlen]
    exact h
  rw [if_neg hlen]
  have hleaves : LeavesSpi1 .spi1Release fw (handleWorkerRouted fw .spi1Release 0 req cap) :=
    .workerRouted rfl
  have hslot : SlotStep .spi1Release req fw.worker
      (handleWorkerRouted fw .spi1Release 0 req cap).1.worker := (Plain.workerRouted rfl).slot
  have hp : RoutedPoll fw .spi1Release cap (handleWorkerRouted fw .spi1Release 0 req cap) := by
    unfold handleWorkerRouted
    rw [if_neg hlen, if_neg (Nat.not_lt_zero _)]
    exact routedPoll_latch fw .spi1Release cap fun _ => rfl
  generalize handleWorkerRouted fw .spi1Release 0 req cap = out at hleaves hslot hp
  dsimp only
  cases hp with
  | served hl =>
      -- the latch already says that the instance was released
      rcases retryLatchServe_cases hl with ⟨r, -, hentry, -, rfl⟩ | ⟨hno, -⟩ | ⟨hno, -⟩
      · have hoff := h.released hentry.valid hentry.cmd
        split_ifs
        · refine ⟨fun _ _ => rfl, fun hcmd => ?_⟩
          exact absurd (h.configured hcmd) (by simp [hoff])
        · exact ⟨fun _ _ => hoff, h.configured⟩
      · cases hno
      · cases hno
  | collected _ _ _ =>
      rw [if_pos (slotReply_ne_busy _ _)]
      exact ⟨fun _ _ => rfl, fun hcmd => absurd hcmd (by simp [workerReset, Job.cleared])⟩
  | @busy l fw' hl _ hfw =>
      rw [if_neg (by simp)]
      refine ⟨fun hv hcmd => ?_, fun hcmd => ?_⟩
      · rw [hleaves.spi1]
        rcases retryLatchServe_cases hl with ⟨r, hsome, -⟩ | ⟨-, rfl⟩ | ⟨-, -, -, -, rfl⟩
        · cases hsome
        · rw [hfw] at hv hcmd
          exact h.released hv hcmd
        · rw [hfw] at hv
          cases hv
      · rw [hleaves.spi1]
        rcases hslot.jobCmd with h' | h' | h'
        · exact h.configured (h'.symm.trans hcmd)
        · exact absurd (h'.symm.trans hcmd) (by decide)
        · exact absurd (h'.symm.trans hcmd) (by decide)

theorem handle_flags (c : Cmd) (h : Spi1Flags fw) : Spi1Flags (handle E c fw req cap).1 := by
  by_cases hc : c ≠ .spi1Configure ∧ c ≠ .spi1Transfer ∧ c ≠ .spi1Release
  · have hspi1 := (handle_leaves E fw req cap hc).spi1
    refine ⟨fun hv hcmd => ?_, fun hcmd => ?_⟩
    · rw [hspi1]
      rcases handle_latch_cmd hv with hl | hl
      · rw [hl] at hv hcmd
        exact h.released hv hcmd
      · exact absurd (hl.symm.trans hcmd) hc.2.2
    · rw [hspi1]
      rcases (@handle_slot _ E fw req cap c).jobCmd with h' | h' | h'
      · exact h.configured (h'.symm.trans hcmd)
      · exact absurd (h'.symm.trans hcmd) (by decide)
      · exact absurd (h'.symm.trans hcmd) hc.2.1
  · have hc' : c = .spi1Configure ∨ c = .spi1Transfer ∨ c = .spi1Release := by tauto
    rcases hc' with rfl | rfl | rfl
    · exact handleSpi1Configure_flags h
    · exact handleSpi1Transfer_flags h
    · exact handleSpi1Release_flags h

end Handlers

/-! ## Along a run -/

/-- What holds of the family in every state: the flags are in order, and after the publication of a job
the slot holds that job or none that is finished. -/
structure Spi1Inv (s : Sys η) : Prop where
  flags : Spi1Flags s.fw
  after : ∀ c, s.pc = .reinit c ∨ s.pc = .reset c → s.job.Terminal → s.job.jobCmd = c

section

variable {E : Env η} {tr : List Ev} {s s' : Sys η} {e : Ev} {a : Act η}

/-- A finished job after a dispatch was there before it. -/
theorem SlotStep.terminal {c : Cmd} {req : List UInt8} {w w' : Worker} (h : SlotStep c req w w')
    (ht : w'.job.Terminal) : w' = w := by
  cases h with
  | keep => rfl
  | free _ => exact absurd rfl ht.ne_idle
  | submit _ _ => exact absurd (.inl rfl) ht.not_inFlight
  | submitPayload _ _ _ => exact absurd (.inl rfl) ht.not_inFlight

/-- Outside a dispatch the slot keeps its opcode or is freed. -/
theorem CoreStep.jobCmd (h : CoreStep E s s' e) (he : ∀ req reply sub, e ≠ .dispatch req reply sub) :
    s'.job.jobCmd = s.job.jobCmd ∨ s'.job.jobCmd = .ping := by
  cases h with
  | dispatch _ => exact absurd rfl (he _ _ _)
  | silent hw _ _ _ _ _ => exact .inl (congrArg (·.job.jobCmd) hw)
  | publish _ => exact .inl (Job.finish_jobCmd _ _)
  | reset _ _ => exact .inr rfl
  | _ => exact .inl rfl

theorem Spi1Inv.dispatch_step (h : Spi1Inv s) {req : Request} {fw : Fw η} {reply : Reply}
    (hd : protocolDispatch E s.fw req.cmd req.flags req.payload req.cap = (fw, reply)) :
    Spi1Inv { s with fw := fw } := by
  have hflags : Spi1Flags (s.fw.latchSeq req) := ⟨h.flags.released, h.flags.configured⟩
  constructor
  · rcases dispatch_cases hd with ⟨-, rfl⟩ | ⟨c, -, hh⟩
    · exact hflags
    · have := @handle_flags _ E _ req.payload req.cap c hflags
      rwa [hh] at this
  · intro c hpc ht
    have hw : fw.worker = s.fw.worker := by
      rcases dispatch_slot hd with hw | ⟨c, -, hs⟩
      · exact hw
      · exact hs.terminal ht
    have hjob : ({ s with fw := fw } : Sys η).job = s.job := congrArg Worker.job hw
    rw [hjob] at ht ⊢
    exact h.after c hpc ht

theorem Spi1Inv.step (hi : SlotInv E tr s) (h : Spi1Inv s)
    (hs : (system E).step s a = some (s', e)) : Spi1Inv s' := by
  by_cases ha : ∃ req, a = .dispatch req
  · obtain ⟨req, rfl⟩ := ha
    obtain ⟨rfl, -⟩ := Prod.mk.inj (Option.some.inj hs)
    exact h.dispatch_step rfl
  · have hnot : ∀ req, a ≠ .dispatch req := fun req h => ha ⟨req, h⟩
    have hcore := sysStep_core hs
    have he : ∀ req reply sub, e ≠ .dispatch req reply sub := by
      rintro req reply sub rfl
      exact hnot req (act_of_dispatch hs)
    obtain ⟨hlatch, -, hspi1⟩ := sysStep_keeps hs hnot
    refine ⟨⟨?_, fun hcmd => ?_⟩, ?_⟩
    · rw [hlatch, hspi1]
      exact h.flags.released
    · rw [hspi1]
      rcases hcore.jobCmd he with h' | h'
      · exact h.flags.configured (h'.symm.trans hcmd)
      · exact absurd (h'.symm.trans hcmd) (by decide)
    · intro c hpc ht
      cases hcore with
      | dispatch _ => exact absurd rfl (he _ _ _)
      | silent hw _ _ _ hpc' _ =>
          have hjob : s'.job = s.job := congrArg Worker.job hw
          rw [hjob] at ht ⊢
          rcases hpc' with hpc' | ⟨-, hout⟩
          · rw [hpc'] at hpc
            exact h.after c hpc ht
          · rcases hpc with hpc | hpc <;> rw [hpc] at hout <;> exact hout.elim
      | @publish cmd out hpub =>
          obtain rfl : cmd = c := by simpa using hpc
          refine (Job.finish_jobCmd _ _).trans (hi.cmd cmd ?_)
          rw [hpub]
          rfl
      | @reinit cmd hpub =>
          obtain rfl : cmd = c := by simpa using hpc
          exact h.after cmd (.inl hpub) ht
      | ret _ _ _ =>
          dsimp only at hpc
          split_ifs at hpc <;> simp at hpc
      | _ => simp at hpc

theorem Spi1Inv.boot (hal : η) : Spi1Inv (.boot hal) where
  flags := ⟨nofun, nofun⟩
  after := by simp [Sys.boot]

theorem Spi1Inv.of_run {hal : η} (hr : (system E).Run (.boot hal) tr s) : Spi1Inv s :=
  (core_invariant (P := fun _ s => Spi1Inv s) hr (.boot hal)
    fun _ _ _ _ _ hi _ h _ hs _ => h.step hi hs).2.2

end

/-! ## A finished transfer -/

/-- Of the opcodes that use the slot only transfers arrive, with the room `protocol_build_reply` offers,
and every one that is well formed has the sequence number `q`. -/
def SameTransfer (E : Env η) (q : UInt8) (_ : Sys η) : Act η → Prop
  | .dispatch req => ∀ c, E.hdr.decode req.cmd = some c → c.workerRouted = true →
      c = .spi1Transfer ∧ E.build.replyDataMax ≤ req.cap ∧
        (spi1TransferValid E req.payload = true → byteAt req.payload 3 = q)
  | _ => True

/-- The finished transfer `j` is in the slot, and nobody is about to free it. -/
structure TransferHeld (E : Env η) (j : Job) (s : Sys η) : Prop where
  job : s.job = j
  configured : s.fw.spi1.configured = true
  resting : s.pc.executing = none
  after : ∀ c, s.pc = .reinit c ∨ s.pc = .reset c → fireAndForget c = false

/-- A finished transfer whose reply fits and carries its sequence number. -/
structure Job.TransferDone (E : Env η) (j : Job) : Prop where
  done : j.state = .done
  cmd : j.jobCmd = .spi1Transfer
  fits : j.resultLen ≤ E.build.replyDataMax
  length : 4 ≤ j.resultBytes.length
  seq : byteAt j.resultBytes 3 = j.req 3

/-- The reply that a finished transfer is answered with. -/
def Job.transferReply (j : Job) : Reply where
  status := .ok
  data := j.resultBytes

section

variable {E : Env η} {hal : η} {tr : List Ev} {s s' : Sys η} {e : Ev} {a : Act η} {j : Job} {fw : Fw η}
  {req : List UInt8} {cap : Nat}

theorem transferDone_of_run (hr : (system E).Run (.boot hal) tr s) (hd : s.job.state = .done)
    (hc : s.job.jobCmd = .spi1Transfer) : s.job.TransferDone E := by
  obtain ⟨hle, -, r, -, hbytes⟩ := (finished_job_fits hr).done hd
  obtain ⟨hfour, hfourth⟩ := @packOk_spi1Transfer_seq _ E s.job.req r
  rw [hc] at hbytes
  refine ⟨hd, hc, hle.trans (Cmd.collectCap_le _ _), ?_, ?_⟩
  · rw [hbytes]
    exact hfour
  · rw [hbytes]
    exact hfourth

/-- A well-formed request for the transfer in the slot is answered from there, and the slot keeps it. -/
theorem handleSpi1Transfer_held (hj : fw.worker.job.TransferDone E) (hconf : fw.spi1.configured = true)
    (hcap : E.build.replyDataMax ≤ cap) (hvalid : spi1TransferValid E req = true)
    (hseq : byteAt req 3 = fw.worker.job.req 3) :
    (handleSpi1Transfer E fw req cap).2 = fw.worker.job.transferReply ∧
      (handleSpi1Transfer E fw req cap).1.worker = fw.worker ∧
      (handleSpi1Transfer E fw req cap).1.spi1.configured = true := by
  have hroom : ¬ cap < spi1TransferMinCap E req := by
    have := (spi1TransferValid_len hvalid).2
    unfold spi1TransferMinCap
    split_ifs <;> omega
  have hpoll := workerPoll_done hj.done hj.cmd (hj.fits.trans hcap)
  rw [handleSpi1Transfer, if_neg (by simp [hvalid]), if_neg (by simp [hconf]), if_neg hroom]
  simp only [hpoll]
  rw [if_pos ⟨hj.length, hj.seq.trans hseq.symm⟩]
  exact ⟨rfl, rfl, hconf⟩

/-- An answer to a transfer carries the sequence number it was asked with. -/
theorem handleSpi1Transfer_seq (h : (handleSpi1Transfer E fw req cap).2.status = .ok) :
    byteAt (handleSpi1Transfer E fw req cap).2.data 3 = byteAt req 3 := by
  revert h
  unfold handleSpi1Transfer
  by_cases hvalid : spi1TransferValid E req = false
  · rw [if_pos hvalid]
    exact nofun
  by_cases hoff : fw.spi1.configured = false
  · rw [if_neg hvalid, if_pos hoff]
    exact nofun
  by_cases hcap : cap < spi1TransferMinCap E req
  · rw [if_neg hvalid, if_neg hoff, if_pos hcap]
    exact nofun
  rw [if_neg hvalid, if_neg hoff, if_neg hcap]
  dsimp only
  split
  · split_ifs with hsame
    · exact fun _ => hsame.2
    · exact nofun
  · split_ifs <;> exact nofun
  · exact nofun
  · exact nofun

/-- A transfer with another sequence number is not answered with the reply of the one in the slot. -/
theorem handleSpi1Transfer_ne (hj : j.TransferDone E) (hseq : byteAt req 3 ≠ j.req 3) :
    (handleSpi1Transfer E fw req cap).2 ≠ j.transferReply := by
  intro h
  have hok : (handleSpi1Transfer E fw req cap).2.status = .ok := by rw [h]; rfl
  have hown := handleSpi1Transfer_seq hok
  rw [h] at hown
  exact hseq (hown.symm.trans hj.seq)

end

/-! ## While it is held -/

/-- What the steps show while the transfer `j` is held: nothing is executed, and every well-formed
transfer is answered with its reply and submits no job. -/
def Ev.Replays (E : Env η) (j : Job) : Ev → Prop
  | .dispatch req reply submitted => E.hdr.decode req.cmd = some .spi1Transfer →
      spi1TransferValid E req.payload = true → reply = j.transferReply ∧ submitted = none
  | .exec _ _ => False
  | _ => True

namespace TransferHeld

variable {E : Env η} {hal : η} {tr : List Ev} {s s' : Sys η} {e : Ev} {a : Act η} {j : Job} {fw : Fw η}

theorem of_run (hr : (system E).Run (.boot hal) tr s) (hd : s.job.state = .done)
    (hc : s.job.jobCmd = .spi1Transfer) : TransferHeld E s.job s where
  job := rfl
  configured := (Spi1Inv.of_run hr).flags.configured hc
  resting := by
    by_contra hne
    have hrun := (SlotInv.of_run hr).running.2 hne
    rw [hd] at hrun
    cases hrun
  after c hpc := by
    have hcmd := (Spi1Inv.of_run hr).after c hpc (.inl hd)
    rw [← hcmd, hc]
    rfl

/-- Only the slot, the flag and the task matter. -/
theorem of_eq (h : TransferHeld E j s) (hjob : s'.job = s.job)
    (hconf : s'.fw.spi1.configured = s.fw.spi1.configured) (hpc : s'.pc = s.pc) :
    TransferHeld E j s' where
  job := hjob.trans h.job
  configured := hconf.trans h.configured
  resting := hpc ▸ h.resting
  after := hpc ▸ h.after

theorem dispatch_step (hj : j.TransferDone E) (h : TransferHeld E j s) {req : Request} {reply : Reply}
    (hg : SameTransfer E (j.req 3) s (.dispatch req))
    (hd : protocolDispatch E s.fw req.cmd req.flags req.payload req.cap = (fw, reply)) :
    TransferHeld E j { s with fw := fw } ∧
      (Ev.dispatch req reply (queuedBy s.fw.worker fw.worker)).Replays E j := by
  rcases dispatch_cases hd with ⟨hnone, rfl⟩ | ⟨c, hc, hh⟩
  · refine ⟨h.of_eq rfl rfl rfl, fun hsome => ?_⟩
    rw [hnone] at hsome
    cases hsome
  by_cases hx : c = .spi1Transfer
  · subst hx
    obtain ⟨-, hcap, hseq⟩ := hg _ hc rfl
    change handleSpi1Transfer E (s.fw.latchSeq req) req.payload req.cap = (fw, reply) at hh
    cases hvalid : spi1TransferValid E req.payload with
    | false =>
        rw [handleSpi1Transfer, if_pos hvalid] at hh
        obtain ⟨rfl, rfl⟩ := Prod.mk.inj hh
        refine ⟨h.of_eq rfl rfl rfl, fun _ hv => ?_⟩
        rw [hvalid] at hv
        cases hv
    | true =>
        have hjob : (s.fw.latchSeq req).worker.job = j := h.job
        have hheld := @handleSpi1Transfer_held _ E (s.fw.latchSeq req) req.payload req.cap
          (hjob.symm ▸ hj) h.configured hcap hvalid (hjob.symm ▸ hseq hvalid)
        rw [hh, hjob] at hheld
        obtain ⟨hreply, hw, hconf⟩ := hheld
        have hw' : fw.worker = s.fw.worker := hw
        refine ⟨h.of_eq (congrArg Worker.job hw') (hconf.trans h.configured.symm) rfl, fun _ _ => ?_⟩
        exact ⟨hreply, if_pos (congrArg Worker.submits hw')⟩
  · have hroute : c.workerRouted = false := by
      by_contra hr
      exact hx (hg c hc (by simpa using hr)).1
    have hleaves := handle_leaves E (s.fw.latchSeq req) req.payload req.cap
      ⟨fun h => absurd (h ▸ hroute) (by decide), hx, fun h => absurd (h ▸ hroute) (by decide)⟩
    rw [hh] at hleaves
    have hw : fw.worker = s.fw.worker := hleaves.slot hroute
    refine ⟨h.of_eq (congrArg Worker.job hw) (congrArg Spi1.configured hleaves.spi1) rfl, ?_⟩
    intro hsome
    exact absurd (Option.some.inj (hc.symm.trans hsome)) hx

theorem step (hj : j.TransferDone E) (h : TransferHeld E j s)
    (hg : SameTransfer E (j.req 3) s a) (hs : (system E).step s a = some (s', e)) :
    TransferHeld E j s' ∧ e.Replays E j := by
  by_cases ha : ∃ req, a = .dispatch req
  · obtain ⟨req, rfl⟩ := ha
    obtain ⟨rfl, rfl⟩ := Prod.mk.inj (Option.some.inj hs)
    exact h.dispatch_step hj hg rfl
  · have hnot : ∀ req, a ≠ .dispatch req := fun req h => ha ⟨req, h⟩
    have hconf : s'.fw.spi1.configured = s.fw.spi1.configured :=
      congrArg Spi1.configured (sysStep_keeps hs hnot).2.2
    have hstate : s.job.state = .done := h.job ▸ hj.done
    have hcore := sysStep_core hs
    cases hcore with
    | dispatch _ => exact absurd (act_of_dispatch hs) (hnot _)
    | silent hw _ _ _ hpc hsil =>
        have hjob : s'.job = s.job := congrArg Worker.job hw
        refine ⟨?_, ?_⟩
        · rcases hpc with hpc | ⟨-, hout⟩
          · exact h.of_eq hjob hconf hpc
          · refine ⟨hjob.trans h.job, hconf.trans h.configured, hout.executing, ?_⟩
            rintro c (hc | hc) <;> rw [hc] at hout <;> exact hout.elim
        · cases e with
          | tau => trivial
          | lwipRecv _ => trivial
          | _ => exact hsil.elim
    | promote _ hq => exact absurd (hstate.symm.trans hq) (by decide)
    | reinit hpc =>
        refine ⟨⟨h.job, hconf.trans h.configured, rfl, ?_⟩, trivial⟩
        rintro c (hc | hc)
        · cases hc
        · obtain rfl := Pc.reset.inj hc
          exact h.after _ (.inl hpc)
    | reset hpc hf => exact absurd ((h.after _ (.inr hpc)).symm.trans hf) (by decide)
    | resetSkip _ _ => exact ⟨⟨h.job, hconf.trans h.configured, rfl, by simp⟩, trivial⟩
    | accept _ _ _ => exact ⟨⟨h.job, hconf.trans h.configured, rfl, by simp⟩, trivial⟩
    | acceptPush _ => exact ⟨⟨h.job, hconf.trans h.configured, rfl, by simp⟩, trivial⟩
    | exec hpc => exact absurd h.resting (by simp [hpc, Pc.executing])
    | ret hpc _ _ => exact absurd h.resting (by simp [hpc, Pc.executing])
    | invalidate hpc => exact absurd h.resting (by simp [hpc, Pc.executing])
    | copyResult _ hpc _ => exact absurd h.resting (by simp [hpc, Pc.executing])
    | copyResultDone hpc _ => exact absurd h.resting (by simp [hpc, Pc.executing])
    | copyCache _ hpc _ => exact absurd h.resting (by simp [hpc, Pc.executing])
    | copyCacheDone hpc _ => exact absurd h.resting (by simp [hpc, Pc.executing])
    | publish hpc => exact absurd h.resting (by simp [hpc, Pc.executing])

theorem run (hj : j.TransferDone E) (h : TransferHeld E j s)
    (hr : (system E).RunIf (SameTransfer E (j.req 3)) s tr s') :
    TransferHeld E j s' ∧ ∀ e ∈ tr, e.Replays E j := by
  refine hr.invariant (P := fun tr s => TransferHeld E j s ∧ ∀ e ∈ tr, e.Replays E j)
    ⟨h, by simp⟩ ?_
  rintro tr s a s' e ⟨hheld, htr⟩ hg hs
  obtain ⟨hheld', he⟩ := hheld.step hj hg hs
  refine ⟨hheld', fun e' he' => ?_⟩
  rcases List.mem_append.mp he' with he' | he'
  · exact htr e' he'
  · rw [List.mem_singleton.mp he']
    exact he

end TransferHeld

/-- A transfer that has completed with `OK` is not clocked again: from there on, along every run in which
the slot is asked for transfers with its sequence number only, nothing is executed and every well-formed
transfer gets the identical reply and submits nothing; and no state answers a transfer with another sequence
number with that reply. -/
theorem transfer_clocked_once {E : Env η} {hal : η} {tr : List Ev} {s : Sys η}
    (hr : (system E).Run (.boot hal) tr s) (hd : s.job.state = .done)
    (hc : s.job.jobCmd = .spi1Transfer) :
    (∀ tr' s', (system E).RunIf (SameTransfer E (s.job.req 3)) s tr' s' →
      (∀ t call, Ev.exec t call ∉ tr') ∧
      ∀ req reply submitted, Ev.dispatch req reply submitted ∈ tr' →
        E.hdr.decode req.cmd = some .spi1Transfer → spi1TransferValid E req.payload = true →
        reply = s.job.transferReply ∧ submitted = none) ∧
    ∀ fw req cap, byteAt req 3 ≠ s.job.req 3 →
      (handleSpi1Transfer E fw req cap).2 ≠ s.job.transferReply := by
  have hj := transferDone_of_run hr hd hc
  refine ⟨fun tr' s' hr' => ?_, fun fw req cap hseq => handleSpi1Transfer_ne hj hseq⟩
  have hev := ((TransferHeld.of_run hr hd hc).run hj hr').2
  exact ⟨fun t call he => hev _ he, fun req reply submitted he => hev _ he⟩

open Act in
/-- The instance is configured, and the transfer 7 has clocked two bytes. -/
def transferSeven : List (Act Unit) :=
  [dispatch (.of .spi1Configure 1 [0x40, 0x42, 0x0F, 0, 0, 8, 1, 0]), task, task,
    ret { rv := hwOk }] ++ List.replicate 20 task ++
  [dispatch (.of .spi1Configure 2 [0x40, 0x42, 0x0F, 0, 0, 8, 1, 0]),
    dispatch (.of .spi1Transfer 3 [2, 0, 0, 7, 0, 0, 0, 0, 0xAA, 0xBB]), task, task,
    ret { rv := hwOk, data := [0x11, 0x22] }] ++ List.replicate 20 task

/-- Asked again, it is answered with the two bytes it has read. -/
theorem transfer_clocked_once_seven :
    ∃ tr s, (system .reference).Run (.boot ()) tr s ∧
      s.job.transferReply = { status := .ok, data := [2, 0, 0, 7, 0x11, 0x22] } ∧
      ∃ s' reply submitted, (system .reference).RunIf (SameTransfer .reference (s.job.req 3)) s
          [.dispatch (.of .spi1Transfer 4 [2, 0, 0, 7, 0, 0, 0, 0, 0xAA, 0xBB]) reply submitted] s' ∧
        reply = s.job.transferReply ∧ submitted = none := by
  have h : ((system .reference).exec (.boot ()) transferSeven).map (fun p =>
      (p.1.job.state, p.1.job.jobCmd, p.1.job.req 3, p.1.job.resultBytes)) =
        some (.done, .spi1Transfer, 7, [2, 0, 0, 7, 0x11, 0x22]) := by
    decide +kernel
  obtain ⟨⟨s, tr⟩, hs, heq⟩ := Option.map_eq_some_iff.mp h
  obtain ⟨hd, hc, hseq, hbytes⟩ := by simpa only [Prod.mk.injEq] using heq
  have hrun := Machine.run_of_exec hs
  have hguard : SameTransfer .reference (s.job.req 3) s
      (.dispatch (.of .spi1Transfer 4 [2, 0, 0, 7, 0, 0, 0, 0, 0xAA, 0xBB])) := by
    intro c hdec _
    have hdec' : Env.reference.hdr.decode (Request.of .spi1Transfer 4
        [2, 0, 0, 7, 0, 0, 0, 0, 0xAA, 0xBB]).cmd = some .spi1Transfer := by decide +kernel
    refine ⟨Option.some.inj (hdec.symm.trans hdec'), by decide, fun _ => ?_⟩
    rw [hseq]
    rfl
  have hretry := Machine.RunIf.snoc .nil hguard (M := system .reference) rfl
  refine ⟨tr, s, hrun, congrArg (Reply.mk .ok) hbytes, _, _, _, hretry, ?_⟩
  exact ((transfer_clocked_once hrun hd hc).1 _ _ hretry).2 _ _ _ (List.mem_singleton.mpr rfl)
    (by decide +kernel) (by decide +kernel)

end Cc3501eBridge
