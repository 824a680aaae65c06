import Cc3501eBridge.Steps

/-!
# The retry latch

One entry of `protocol.c` is shared by all opcodes that go through the routed helpers.  This file
says what a dispatch does to it.  `Answered` splits the handlers in two: a request that fails the
checks before the latch is answered on the spot and leaves the entry alone, and every other one is
answered by `routedPoll`, whose three ways out (`RoutedPoll`) are a reply from the latch, a reply
collected from the slot, which is stored, and `BUSY`.
-/

namespace Cc3501eBridge

variable {η : Type}

/-! ## The routed poll -/

/-- How a routed request ends, as the latch sees it. -/
inductive RoutedPoll (fw : Fw η) (cmd : Cmd) (cap : Nat) : Fw η × Reply → Prop
  | served {r : Reply} {l : RetryLatch} :
      retryLatchServe fw.latch fw.currentReqSeq cmd cap = (some r, l) →
      RoutedPoll fw cmd cap ({ fw with latch := l }, r)
  | collected {l : RetryLatch} :
      retryLatchServe fw.latch fw.currentReqSeq cmd cap = (none, l) →
      fw.worker.job.jobCmd = cmd → fw.worker.job.Terminal →
      RoutedPoll fw cmd cap
        ({ fw with
            latch := retryLatchStore l fw.currentReqSeq cmd (slotReply fw.worker.job cap).status
              (slotReply fw.worker.job cap).data
            worker := workerReset fw.worker }, slotReply fw.worker.job cap)
  | busy {l : RetryLatch} {fw' : Fw η} :
      retryLatchServe fw.latch fw.currentReqSeq cmd cap = (none, l) →
      ¬ (fw.worker.job.jobCmd = cmd ∧ fw.worker.job.Terminal) → fw'.latch = l →
      RoutedPoll fw cmd cap (fw', .bare .errBusy)

/-- The three ways out of `routedPoll`. -/
theorem routedPoll_latch (fw : Fw η) (cmd : Cmd) (cap : Nat) {onIdle : Fw η → Fw η}
    (hidle : ∀ fw, (onIdle fw).latch = fw.latch) :
    RoutedPoll fw cmd cap (routedPoll fw cmd cap onIdle) := by
  unfold routedPoll
  rcases hl : retryLatchServe fw.latch fw.currentReqSeq cmd cap with ⟨_ | r, l⟩
  · rcases workerPoll_cases fw.worker cmd cap with
      ⟨hi, hp⟩ | ⟨hc, ht, hp⟩ | ⟨hf, st, hst, hp⟩ | ⟨hc, hd, hlen, hp⟩ | ⟨hc, hd, hlen, hp⟩ |
      ⟨hc, he, hp⟩
    · simp only [hp]
      exact .busy hl (fun h => h.2.ne_idle hi) (hidle _)
    · simp only [hp]
      exact .busy hl (fun h => hc h.1) (hidle _)
    · rcases hst with rfl | rfl <;> simp only [hp] <;>
        exact .busy hl (fun h => h.2.not_inFlight hf) rfl
    · have hr : slotReply fw.worker.job cap = .bare (workerErrToResp (Int8.ofInt hwErrNoMem)) := by
        rw [slotReply, if_pos hd, if_neg (by omega)]
        rfl
      have h := RoutedPoll.collected hl hc (.inl hd)
      rw [hr] at h
      simp only [hp]
      exact h
    · have hr : slotReply fw.worker.job cap =
          { status := .ok, data := fw.worker.job.resultBytes } := by
        rw [slotReply, if_pos hd, if_pos hlen]
      have h := RoutedPoll.collected hl hc (.inl hd)
      rw [hr] at h
      simp only [hp]
      exact h
    · have hr : slotReply fw.worker.job cap = .bare (workerErrToResp fw.worker.job.err) := by
        rw [slotReply, if_neg (by simp [he])]
      have h := RoutedPoll.collected hl hc (.inr he)
      rw [hr] at h
      simp only [hp]
      exact h
  · exact .served hl

/-- The latch stays out of the way of an opcode it does not cover. -/
theorem RoutedPoll.latch_eq {fw : Fw η} {cmd : Cmd} {cap : Nat} {out : Fw η × Reply}
    (h : RoutedPoll fw cmd cap out) (hc : retryLatchApplies cmd = false) :
    out.1.latch = fw.latch := by
  have hserve : retryLatchServe fw.latch fw.currentReqSeq cmd cap = (none, fw.latch) := by
    simp [retryLatchServe, hc]
  cases h with
  | served hl => simp [hserve] at hl
  | collected hl =>
      rw [hserve] at hl
      obtain rfl := (Prod.mk.inj hl).2
      simp [retryLatchStore, hc]
  | busy hl _ hlatch =>
      rw [hserve] at hl
      exact hlatch.trans (Prod.mk.inj hl).2.symm

/-! ## Before the latch -/

/-- The room for data the helper of an opcode offers: that of the opcodes without reply data offers
none. -/
def Cmd.latchCap (c : Cmd) (cap : Nat) : Nat :=
  match c with
  | .wifiConnectSta | .wifiApStart | .sockConnect | .sockClose | .sockBind | .sockListen
  | .bleAdvStart | .bleConnect | .bleGattNotify | .bleGattWrite => 0
  | _ => cap

/-- The opcodes the latch covers: those of the routed helpers but the two socket data opcodes. -/
def Cmd.latched : Cmd → Bool
  | .getMac | .wifiScanStart | .wifiDisconnect | .wifiApStop | .wifiGetRssi | .bleEnable
  | .bleDisable | .bleAdvStop | .bleScanStart | .bleScanStop | .bleDisconnect | .spi1Release
  | .wifiConnectSta | .wifiApStart | .sockOpen | .sockConnect | .sockBind | .sockListen | .sockClose
  | .bleAdvStart | .bleConnect | .bleGattRegister | .bleGattNotify | .bleGattWrite | .bleGattRead
  | .spi1Configure => true
  | _ => false

/-- Whether a request passes the checks that its handler and its helper make before the latch is
asked, the room for the reply apart.  False of the opcodes the latch does not cover. -/
def passesChecks (E : Env η) (fw : Fw η) (c : Cmd) (req : List UInt8) : Bool :=
  match c with
  | .getMac | .wifiScanStart | .wifiDisconnect | .wifiApStop | .wifiGetRssi | .bleEnable
  | .bleDisable | .bleAdvStop | .bleScanStart | .bleScanStop | .bleDisconnect | .spi1Release =>
      req.length = 0
  | .wifiConnectSta | .wifiApStart =>
      E.hdr.wifiConnectBytes ≤ req.length &&
        req.length = E.hdr.wifiConnectBytes + (byteAt req E.hdr.ssidLenOff).toNat +
          (byteAt req E.hdr.pskLenOff).toNat
  | .sockOpen => req.length = 4 && byteAt req 0 = E.hdr.sockFamilyIpv4
  | .sockConnect | .sockBind => req.length = 24 && byteAt req 4 = E.hdr.sockFamilyIpv4
  | .sockListen => req.length = 4 && !(byteAt req 0 = 0 && byteAt req 1 = 0)
  | .sockClose => req.length = 4
  | .bleAdvStart => 7 ≤ req.length && req.length = 7 + (byteAt req 6).toNat
  | .bleConnect => req.length = 7
  | .bleGattRegister => (bleGattRegisterValidate E req).isSome
  | .bleGattNotify | .bleGattWrite => 2 ≤ req.length
  | .bleGattRead => req.length = 2
  | .spi1Configure =>
      req.length = 8 && byteAt req 4 ≤ 3 && byteAt req 5 = 8 && byteAt req 6 ≤ E.hdr.spi1Cs1 &&
        !fw.spi1.csHeld
  | _ => false

theorem latched_of_passesChecks {E : Env η} {fw : Fw η} {c : Cmd} {req : List UInt8}
    (h : passesChecks E fw c req = true) : c.latched = true := by
  cases c <;> first | rfl | simp [passesChecks] at h

/-- The largest room any of the helpers asks for before the latch. -/
def latchMinCap : Nat := 2 + 2 * bleGattMaxChars

/-- How a handler answers: by itself, which leaves the latch alone, or through the routed poll. -/
inductive Answered (E : Env η) (fw : Fw η) (c : Cmd) (req : List UInt8) (cap : Nat) :
    Fw η × Reply → Prop
  | own {fw' : Fw η} {r : Reply} :
      (passesChecks E fw c req = true → cap < latchMinCap) → fw'.latch = fw.latch →
      (c.latched = true → fw'.worker = fw.worker) → r.status ≠ .errProtocol →
      Answered E fw c req cap (fw', r)
  | routed {fw₁ fw' : Fw η} {room : Nat} {out : Fw η × Reply} :
      passesChecks E fw c req = true → fw₁.latch = fw.latch → fw₁.worker = fw.worker →
      fw₁.currentReqSeq = fw.currentReqSeq → c.latchCap cap = room → RoutedPoll fw₁ c room out →
      fw'.latch = out.1.latch → fw'.worker = out.1.worker → Answered E fw c req cap (fw', out.2)

namespace Answered

variable {E : Env η} {fw : Fw η} {c : Cmd} {req : List UInt8} {cap minCap : Nat}

/-- A check before the latch. -/
theorem guard {p : Prop} [Decidable p] {r : Reply} {out : Fw η × Reply}
    (hr : r.status ≠ .errProtocol) (hp : p → passesChecks E fw c req = true → cap < latchMinCap)
    (hn : ¬ p → Answered E fw c req cap out) :
    Answered E fw c req cap (if p then (fw, r) else out) := by
  split_ifs with h
  · exact .own (hp h) rfl (fun _ => rfl) hr
  · exact hn h

/-- The helper for opcodes without payload. -/
theorem workerRouted (hpass : passesChecks E fw c req = decide (req.length = 0))
    (hcap : c.latchCap cap = cap) (hmin : minCap ≤ latchMinCap) :
    Answered E fw c req cap (handleWorkerRouted fw c minCap req cap) := by
  unfold handleWorkerRouted
  refine .guard (by simp) (fun h hp => ?_) fun h => .guard (by simp) (fun h' _ => ?_) fun _ => ?_
  · simp [hpass, h] at hp
  · exact Nat.lt_of_lt_of_le h' hmin
  · have hr := routedPoll_latch fw c cap
      (fun _ => rfl : ∀ fw : Fw η, (fw.submit c).latch = fw.latch)
    exact .routed (by simpa [hpass] using h) rfl rfl rfl hcap hr rfl rfl

/-- The helper for opcodes with payload and no reply data. -/
theorem workerRoutedPayload (hpass : passesChecks E fw c req = true) {fw₁ : Fw η}
    (hlatch : fw₁.latch = fw.latch) (hworker : fw₁.worker = fw.worker)
    (hseq : fw₁.currentReqSeq = fw.currentReqSeq) (hcap : c.latchCap cap = 0) :
    Answered E fw c req cap (handleWorkerRoutedPayload E fw₁ c req) := by
  have hr : RoutedPoll fw₁ c 0 (handleWorkerRoutedPayload E fw₁ c req) := by
    refine routedPoll_latch fw₁ c 0 fun fw => ?_
    split_ifs <;> rfl
  exact .routed hpass hlatch hworker hseq hcap hr rfl rfl

/-- The helper for opcodes with payload and reply data. -/
theorem workerRoutedPayloadReply (hpass : passesChecks E fw c req = true)
    (hcap : c.latchCap cap = cap) (hmin : minCap ≤ latchMinCap) :
    Answered E fw c req cap (handleWorkerRoutedPayloadReply fw c req minCap cap) := by
  unfold handleWorkerRoutedPayloadReply
  refine .guard (by simp) (fun h _ => Nat.lt_of_lt_of_le h hmin) fun _ => ?_
  have hr := routedPoll_latch fw c cap (fun fw => by split_ifs <;> rfl : ∀ fw : Fw η,
    ((if c = .sockRecv then { fw with recv := { fw.recv with jobSeq := fw.currentReqSeq } }
      else fw).submitPayload c req).latch = fw.latch)
  exact .routed hpass rfl rfl rfl hcap hr rfl rfl

/-- What a handler does after its helper, to other fields than the latch and the slot. -/
theorem andThen {out : Fw η × Reply} (h : Answered E fw c req cap out) {fw' : Fw η}
    (hl : fw'.latch = out.1.latch) (hw : fw'.worker = out.1.worker) :
    Answered E fw c req cap (fw', out.2) := by
  cases h with
  | own hp hl' hw' hs => exact .own hp (hl.trans hl') (fun hc => hw.trans (hw' hc)) hs
  | @routed fw₁ _ room out hp hl₁ hw₁ hq hc hr hl' hw' =>
      exact @routed _ E fw c req cap fw₁ fw' room out hp hl₁ hw₁ hq hc hr (hl.trans hl')
        (hw.trans hw')

end Answered

/-- An answer given on the spot. -/
structure Inline (fw : Fw η) (out : Fw η × Reply) : Prop where
  latch : out.1.latch = fw.latch
  status : out.2.status ≠ .errProtocol

theorem hwToResp_ne_protocol (rv : Int) : hwToResp rv ≠ .errProtocol := by
  unfold hwToResp
  split_ifs <;> simp

theorem workerErrToResp_ne_protocol (err : Int8) : workerErrToResp err ≠ .errProtocol := by
  unfold workerErrToResp
  split_ifs <;> simp

theorem slotReply_ne_protocol (j : Job) (cap : Nat) : (slotReply j cap).status ≠ .errProtocol := by
  unfold slotReply
  split_ifs <;> simp [workerErrToResp_ne_protocol]

namespace Inline

variable {fw fw' : Fw η} {r : Reply}

theorem bare (hl : fw'.latch = fw.latch) {st : Resp} (hst : st ≠ .errProtocol) :
    Inline fw (fw', .bare st) := ⟨hl, hst⟩

theorem report (x : Int × η) : Inline fw (fw.report x) := ⟨rfl, hwToResp_ne_protocol x.1⟩

theorem ite {p : Prop} [Decidable p] {a b : Fw η × Reply} (ha : Inline fw a) (hb : Inline fw b) :
    Inline fw (if p then a else b) := by
  split_ifs
  · exact ha
  · exact hb

/-- A check that fails with `INVALID`. -/
theorem invalidOr {p : Prop} [Decidable p] {out : Fw η × Reply} (h : Inline fw out) :
    Inline fw (if p then (fw, .bare .errInvalid) else out) := .ite (.bare rfl (by simp)) h

/-- A check that fails with `NO_MEM`. -/
theorem noMemOr {p : Prop} [Decidable p] {out : Fw η × Reply} (h : Inline fw out) :
    Inline fw (if p then (fw, .bare .errNoMem) else out) := .ite (.bare rfl (by simp)) h

end Inline

section

variable (E : Env η) (fw : Fw η) (req : List UInt8) (cap : Nat)

variable {E fw req cap} in
/-- An opcode the latch does not cover. -/
theorem Answered.inline {c : Cmd} {out : Fw η × Reply} (hc : c.latched = false)
    (h : Inline fw out) :
    Answered E fw c req cap out :=
  .own (fun hp => absurd (latched_of_passesChecks hp) (by simp [hc])) h.latch (by simp [hc])
    h.status

theorem handleSpi1Transfer_inline : Inline fw (handleSpi1Transfer E fw req cap) := by
  unfold handleSpi1Transfer
  refine .invalidOr (.ite (.bare rfl (by simp)) (.noMemOr ?_))
  simp only
  split
  · exact .ite ⟨rfl, Resp.noConfusion⟩ ⟨rfl, Resp.noConfusion⟩
  · refine ⟨rfl, ?_⟩
    rw [Reply.bare_status]
    split_ifs <;> simp
  · exact ⟨rfl, Resp.noConfusion⟩
  · exact ⟨rfl, Resp.noConfusion⟩

theorem handleOtaUpdateMode_inline : Inline fw (handleOtaUpdateMode E fw req cap) := by
  unfold handleOtaUpdateMode
  refine .invalidOr (.invalidOr (.noMemOr ?_))
  exact .ite ⟨rfl, by simp⟩ (.ite ⟨rfl, by simp⟩ ⟨rfl, by simp⟩)

theorem handleOtaStatus_inline : Inline fw (handleOtaStatus E fw req cap) := by
  unfold handleOtaStatus
  refine .invalidOr (.noMemOr ?_)
  exact .ite (.bare rfl (hwToResp_ne_protocol _)) ⟨rfl, by simp⟩

/-- `ble_gatt_register_validate` bounds the number of characteristics. -/
theorem bleGattRegisterValidate_le {n : Nat} (h : bleGattRegisterValidate E req = some n) :
    n ≤ bleGattMaxChars := by
  unfold bleGattRegisterValidate at h
  simp only at h
  split_ifs at h with _ _ hn
  split at h
  · simp at h
  · split_ifs at h
    obtain rfl : (byteAt req 17).toNat = n := by simpa using h
    exact Nat.not_lt.mp fun hlt => hn (.inr hlt)

theorem handleBleGattRegister_answered :
    Answered E fw .bleGattRegister req cap (handleBleGattRegister E fw req cap) := by
  unfold handleBleGattRegister
  cases hv : bleGattRegisterValidate E req with
  | none => exact .own (by simp [passesChecks, hv]) rfl (fun _ => rfl) (by simp)
  | some n =>
      have hn := bleGattRegisterValidate_le E req hv
      refine .workerRoutedPayloadReply (by simp [passesChecks, hv]) rfl ?_
      unfold latchMinCap
      omega

theorem handleSpi1Configure_answered :
    Answered E fw .spi1Configure req cap (handleSpi1Configure E fw req cap) := by
  have hiff : passesChecks E fw .spi1Configure req = true ↔
      req.length = 8 ∧ byteAt req 4 ≤ 3 ∧ byteAt req 5 = 8 ∧ byteAt req 6 ≤ E.hdr.spi1Cs1 ∧
        fw.spi1.csHeld = false := by
    simp [passesChecks, and_assoc]
  unfold handleSpi1Configure
  refine .guard (by simp) (fun h hp => absurd (hiff.mp hp).1 h) fun h1 =>
    .guard (by simp) (fun h hp => absurd (hiff.mp hp).2.1 (UInt8.not_le.mpr h)) fun h2 =>
    .guard (by simp) (fun h hp => absurd (hiff.mp hp).2.2.1 h) fun h3 =>
    .guard (by simp) (fun h hp => absurd (hiff.mp hp).2.2.2.1 (UInt8.not_le.mpr h)) fun h4 =>
    .guard (by simp) (fun h hp => absurd (hiff.mp hp).2.2.2.2 (by simp [h])) fun h5 => ?_
  have hp := hiff.mpr ⟨by simpa using h1, UInt8.not_lt.mp h2, by simpa using h3,
    UInt8.not_lt.mp h4, by simpa using h5⟩
  have ha : Answered E fw .spi1Configure req cap
      (handleWorkerRoutedPayloadReply fw .spi1Configure req 8 cap) :=
    .workerRoutedPayloadReply hp rfl (by decide)
  simp only
  split_ifs
  · exact ha.andThen rfl rfl
  · exact ha

theorem handleSpi1Release_answered :
    Answered E fw .spi1Release req cap (handleSpi1Release fw req cap) := by
  unfold handleSpi1Release
  refine .guard (by simp) (fun h hp => absurd (of_decide_eq_true hp) h) fun h => ?_
  have ha : Answered E fw .spi1Release req cap (handleWorkerRouted fw .spi1Release 0 req cap) :=
    .workerRouted rfl rfl (by decide)
  simp only
  split_ifs
  · exact ha.andThen rfl rfl
  · exact ha

/-- `WIFI_CONNECT_STA` and `WIFI_AP_START`. -/
theorem wifiJoin_answered {c : Cmd}
    (hp : passesChecks E fw c req = passesChecks E fw .wifiConnectSta req)
    (hc : c.latchCap cap = 0) : Answered E fw c req cap (wifiJoin E fw c req) := by
  have hiff : passesChecks E fw c req = true ↔ E.hdr.wifiConnectBytes ≤ req.length ∧
      req.length = E.hdr.wifiConnectBytes + (byteAt req E.hdr.ssidLenOff).toNat +
        (byteAt req E.hdr.pskLenOff).toNat := by
    rw [hp]
    simp [passesChecks]
  unfold wifiJoin
  refine .guard (by simp) (fun h hp => absurd (hiff.mp hp).1 (by omega)) fun h1 =>
    .guard (by simp) (fun h hp => absurd (hiff.mp hp).2 h) fun h2 => ?_
  exact .workerRoutedPayload (hiff.mpr ⟨by omega, by simpa using h2⟩) rfl rfl rfl hc

/-- `SOCK_CONNECT` and `SOCK_BIND`. -/
theorem handleSockEndpoint_answered {c : Cmd}
    (hp : passesChecks E fw c req = passesChecks E fw .sockConnect req)
    (hc : c.latchCap cap = 0) : Answered E fw c req cap (handleSockEndpoint E fw c req) := by
  have hiff : passesChecks E fw c req = true ↔
      req.length = 24 ∧ byteAt req 4 = E.hdr.sockFamilyIpv4 := by
    rw [hp]
    simp [passesChecks]
  unfold handleSockEndpoint
  refine .guard (by simp) (fun h hp => absurd (hiff.mp hp).1 h) fun h1 =>
    .guard (by simp) (fun h hp => absurd (hiff.mp hp).2 h) fun h2 => ?_
  exact .workerRoutedPayload (hiff.mpr ⟨by simpa using h1, by simpa using h2⟩) rfl rfl rfl hc

/-- Every opcode but the two socket data opcodes answers in one of the two ways. -/
theorem handle_answered {c : Cmd} (hs : c ≠ .sockSend) (hr : c ≠ .sockRecv) :
    Answered E fw c req cap (handle E c fw req cap) := by
  cases c with
  | sockSend => exact absurd rfl hs
  | sockRecv => exact absurd rfl hr
  -- opcodes without payload
  | getMac => exact .workerRouted rfl rfl (by decide)
  | wifiScanStart => exact .workerRouted rfl rfl (by decide)
  | wifiApStop => exact .workerRouted rfl rfl (by decide)
  | wifiGetRssi => exact .workerRouted rfl rfl (by decide)
  | bleEnable => exact .workerRouted rfl rfl (by decide)
  | bleDisable => exact .workerRouted rfl rfl (by decide)
  | bleAdvStop => exact .workerRouted rfl rfl (by decide)
  | bleScanStart => exact .workerRouted rfl rfl (by decide)
  | wifiDisconnect =>
      exact .guard (by simp) (fun h hp => absurd (of_decide_eq_true hp) h)
        fun _ => .workerRouted rfl rfl (by decide)
  | bleScanStop =>
      exact .guard (by simp) (fun h hp => absurd (of_decide_eq_true hp) h)
        fun _ => .workerRouted rfl rfl (by decide)
  | bleDisconnect =>
      exact .guard (by simp) (fun h hp => absurd (of_decide_eq_true hp) h)
        fun _ => .workerRouted rfl rfl (by decide)
  | spi1Release => exact handleSpi1Release_answered E fw req cap
  -- opcodes with payload
  | wifiConnectSta => exact wifiJoin_answered E fw req cap rfl rfl
  | wifiApStart => exact wifiJoin_answered E fw req cap rfl rfl
  | sockConnect => exact handleSockEndpoint_answered E fw req cap rfl rfl
  | sockBind => exact handleSockEndpoint_answered E fw req cap rfl rfl
  | sockOpen =>
      refine .guard (by simp) (fun h hp => ?_) fun h1 =>
        .guard (by simp) (fun h hp => ?_) fun h2 => .workerRoutedPayloadReply ?_ rfl (by decide)
      · simp [passesChecks, h] at hp
      · simp [passesChecks, h] at hp
      · simpa [passesChecks] using And.intro (not_not.mp h1) (not_not.mp h2)
  | sockListen =>
      refine .guard (by simp) (fun h hp => ?_) fun h1 =>
        .guard (by simp) (fun h hp => ?_) fun h2 => .workerRoutedPayload ?_ rfl rfl rfl rfl
      · simp [passesChecks, h] at hp
      · simp [passesChecks, h] at hp
      · simpa [passesChecks, ← not_and_or] using And.intro (not_not.mp h1) h2
  | sockClose =>
      exact .guard (by simp) (fun h hp => absurd (of_decide_eq_true hp) h)
        fun h => .workerRoutedPayload (by simpa [passesChecks] using h) rfl rfl rfl rfl
  | bleAdvStart =>
      refine .guard (by simp) (fun h hp => ?_) fun h1 =>
        .guard (by simp) (fun h hp => ?_) fun h2 => .workerRoutedPayload ?_ rfl rfl rfl rfl
      · simp [passesChecks] at hp
        omega
      · simp [passesChecks, h] at hp
      · simpa [passesChecks] using And.intro (Nat.not_lt.mp h1) (not_not.mp h2)
  | bleConnect =>
      exact .guard (by simp) (fun h hp => absurd (of_decide_eq_true hp) h)
        fun h => .workerRoutedPayload (by simpa [passesChecks] using h) rfl rfl rfl rfl
  | bleGattRegister => exact handleBleGattRegister_answered E fw req cap
  | bleGattNotify | bleGattWrite =>
      exact .guard (by simp) (fun h hp => absurd (of_decide_eq_true hp) (Nat.not_le.mpr h))
        fun h => .workerRoutedPayload (by exact decide_eq_true (Nat.not_lt.mp h)) rfl rfl rfl rfl
  | bleGattRead =>
      exact .guard (by simp) (fun h hp => absurd (of_decide_eq_true hp) h)
        fun h => .workerRoutedPayloadReply (by simpa [passesChecks] using h) rfl (by decide)
  | spi1Configure => exact handleSpi1Configure_answered E fw req cap
  -- opcodes that never ask the latch
  | otaUpdateMode => exact .inline rfl (handleOtaUpdateMode_inline E fw req cap)
  | otaStatus => exact .inline rfl (handleOtaStatus_inline E fw req cap)
  | spi1Transfer => exact .inline rfl (handleSpi1Transfer_inline E fw req cap)
  | streamWrite => exact .inline rfl ⟨rfl, Resp.noConfusion⟩
  | otaBegin => exact .inline rfl (.invalidOr (.report _))
  | otaWrite => exact .inline rfl (.invalidOr (.report _))
  | otaFinish => exact .inline rfl (.invalidOr (.report _))
  | otaAbort => exact .inline rfl (.invalidOr (.report _))
  | otaPromote => exact .inline rfl (.invalidOr (.report _))
  | gpioConfigure => exact .inline rfl (.invalidOr (.report _))
  | gpioWrite => exact .inline rfl (.invalidOr (.report _))
  | gpioSetInterrupt => exact .inline rfl (.invalidOr (.report _))
  | camEnable => exact .inline rfl (.invalidOr (.report _))
  | camDisable => exact .inline rfl (.invalidOr (.report _))
  | wifiScanStop => exact .inline rfl (.invalidOr (.report _))
  | diagLogLevel => exact .inline rfl (.invalidOr (.report _))
  | ping => exact .inline rfl (.invalidOr ⟨rfl, Resp.noConfusion⟩)
  | reset => exact .inline rfl (.invalidOr ⟨rfl, Resp.noConfusion⟩)
  | getPendingEvents => exact .inline rfl (.invalidOr ⟨rfl, Resp.noConfusion⟩)
  | powerPolicy => exact .inline rfl (.invalidOr ⟨rfl, hwToResp_ne_protocol _⟩)
  | gpioRead => exact .inline rfl (.invalidOr (.noMemOr ⟨rfl, hwToResp_ne_protocol _⟩))
  | wifiGetIp =>
      exact .inline rfl (.invalidOr (.invalidOr (.noMemOr ⟨rfl, hwToResp_ne_protocol _⟩)))
  | getVersion => exact .inline rfl (.invalidOr (.noMemOr ⟨rfl, Resp.noConfusion⟩))
  | getDiagInfo => exact .inline rfl (.invalidOr (.noMemOr ⟨rfl, Resp.noConfusion⟩))
  | getCapabilities => exact .inline rfl (.invalidOr (.noMemOr ⟨rfl, Resp.noConfusion⟩))
  | wifiStatus => exact .inline rfl (.invalidOr (.noMemOr ⟨rfl, Resp.noConfusion⟩))
  | diagGetStats => exact .inline rfl (.invalidOr (.noMemOr ⟨rfl, Resp.noConfusion⟩))

/-- The two socket data opcodes leave the latch alone. -/
theorem handleSockSend_latch : (handleSockSend fw req cap).1.latch = fw.latch := by
  unfold handleSockSend
  by_cases hv : sockSendValid req = false
  · rw [if_pos hv]
  rw [if_neg hv]
  simp only
  split_ifs
  · rfl
  · rfl
  · rfl
  · rw [handleWorkerRoutedPayloadReply_eq _ (by decide)]
    split_ifs
    · rfl
    · have hidle : ∀ fw : Fw η, (fw.submitPayload .sockSend req).latch = fw.latch := fun _ => rfl
      exact (routedPoll_latch _ .sockSend cap hidle).latch_eq rfl

theorem handleSockRecv_latch : (handleSockRecv fw req cap).1.latch = fw.latch := by
  have h := handleSockRecv_outcome fw req cap
  generalize handleSockRecv fw req cap = out at h
  cases h <;> rfl

end

/-- A dispatch leaves the latch alone or is that of an opcode that answers in one of the two ways.
-/
theorem dispatch_latch {E : Env η} {s : Sys η} {fw : Fw η} {req : Request} {reply : Reply}
    (h : protocolDispatch E s.fw req.cmd req.flags req.payload req.cap = (fw, reply)) :
    ((∀ c, E.hdr.decode req.cmd = some c → c.latched = false) ∧ fw.latch = s.fw.latch) ∨
      ∃ c, E.hdr.decode req.cmd = some c ∧
        Answered E (s.fw.latchSeq req) c req.payload req.cap (fw, reply) := by
  rcases dispatch_cases h with ⟨hd, rfl⟩ | ⟨c, hd, hh⟩
  · exact .inl ⟨by simp [hd], rfl⟩
  · by_cases hs : c = .sockSend
    · subst hs
      have hl := handleSockSend_latch (s.fw.latchSeq req) req.payload req.cap
      change handleSockSend (s.fw.latchSeq req) req.payload req.cap = _ at hh
      rw [hh] at hl
      refine .inl ⟨fun c hc => ?_, hl⟩
      obtain rfl : Cmd.sockSend = c := by simpa [hd] using hc
      rfl
    · by_cases hr : c = .sockRecv
      · subst hr
        have hl := handleSockRecv_latch (s.fw.latchSeq req) req.payload req.cap
        change handleSockRecv (s.fw.latchSeq req) req.payload req.cap = _ at hh
        rw [hh] at hl
        refine .inl ⟨fun c hc => ?_, hl⟩
        obtain rfl : Cmd.sockRecv = c := by simpa [hd] using hc
        rfl
      · exact .inr ⟨c, hd, hh ▸ handle_answered E (s.fw.latchSeq req) req.payload req.cap hs hr⟩

end Cc3501eBridge
