import Cc3501eBridge.LatchReplay
import Cc3501eBridge.RecvReplay
import Cc3501eBridge.ReplyData
import Cc3501eBridge.SendOnce

/-!
# A finished job fits its reply

The room for a result is reckoned in four places: `worker_execute` offers the HAL body a capacity,
the helper that collects the job offers `worker_poll` one, the receive cache has a size, and
`protocol_build_reply` has what is left of the frame.  Here they are shown to agree.  As long as a
body keeps to the capacity it was given, a result is never cut, never refused and never too long for
its frame, up to the last byte of the largest one.
-/

namespace Cc3501eBridge

variable {η : Type}

/-! ## The result -/

/-- The opcodes whose handlers answer from the job slot. -/
def Cmd.workerRouted (c : Cmd) : Bool :=
  c.latched || (c = .sockSend || c = .sockRecv || c = .spi1Transfer)

/-- The room of the helper that collects a job: none for `handle_worker_routed_payload`, a whole
reply for the others. -/
def Cmd.collectCap (B : Build) (c : Cmd) : Nat := c.latchCap B.replyDataMax

theorem Cmd.collectCap_le (B : Build) (c : Cmd) : c.collectCap B ≤ B.replyDataMax := by
  rcases c.latchCap_eq with h | h
  · exact (h B.replyDataMax).trans_le (Nat.zero_le _)
  · exact (h B.replyDataMax).le

section

variable {E : Env η} {req : Buf} {reqLen : Nat} {r : HalRet} {c : Cmd}

/-- What a body that kept to its capacity leaves to be published fits the room of the collector. -/
theorem length_packOk_le_collectCap (hfits : r.fits (E.halCall c req reqLen) = true)
    (hspi : c = .spi1Transfer → (req.word 0).toNat + 4 ≤ E.build.replyDataMax) :
    (E.packOk c req r).length ≤ c.collectCap E.build := by
  have hmax : 24 ≤ E.build.replyDataMax := by
    unfold Build.replyDataMax
    split <;> decide
  by_cases hc : c.returnsRecord = true
  · have hcap : c.collectCap E.build = E.build.replyDataMax := by
      cases c <;> first | rfl | cases hc
    exact hcap ▸ length_packOk_le hc hfits hspi
  · cases c with
    | getMac =>
        change (fixBytes 6 r.data).length ≤ E.build.replyDataMax
        rw [length_fixBytes]
        omega
    | wifiGetRssi =>
        change (fixBytes 1 r.data).length ≤ E.build.replyDataMax
        rw [length_fixBytes]
        omega
    | spi1Configure =>
        change 8 ≤ E.build.replyDataMax
        omega
    | _ => first | exact Nat.zero_le _ | exact absurd rfl hc

/-- So `worker_execute` clamps nothing. -/
theorem execOut_buf (hfits : r.fits (E.halCall c req reqLen) = true)
    (hspi : c = .spi1Transfer → (req.word 0).toNat + 4 ≤ E.build.replyDataMax) (hok : r.rv = hwOk) :
    (E.execOut c req r).buf = E.packOk c req r := by
  have hle := length_packOk_le_collectCap hfits hspi
  have hcap := c.collectCap_le E.build
  have hmax := E.build.replyDataMax_le
  rw [Env.execOut, if_pos hok]
  apply List.take_of_length_le
  unfold maxPayload
  omega

end

/-! ## The replies -/

section

variable {E : Env η} {fw : Fw η} {req : List UInt8} {cap : Nat}

/-- The data of an answer fits the room `cap`. -/
def Fits (cap : Nat) (out : Fw η × Reply) : Prop := out.2.data.length ≤ cap

namespace Fits

theorem bare (fw : Fw η) (st : Resp) : Fits cap (fw, .bare st) := Nat.zero_le cap

/-- A check that answers a status alone. -/
theorem guard {p : Prop} [Decidable p] {st : Resp} {out : Fw η × Reply} (h : Fits cap out) :
    Fits cap (if p then (fw, .bare st) else out) := by
  split_ifs
  · exact .bare fw st
  · exact h

theorem mono {n : Nat} {out : Fw η × Reply} (h : Fits n out) (hn : n ≤ cap) : Fits cap out :=
  Nat.le_trans h hn

/-- A latched reply that is too long is not served. -/
theorem latchServe {l l' : RetryLatch} {seq : UInt8} {c : Cmd} {r : Reply}
    (h : retryLatchServe l seq c cap = (some r, l')) : r.data.length ≤ cap := by
  unfold retryLatchServe at h
  split_ifs at h with _ _ _ _ hlen
  · simp at h
  · simp at h
  · simp at h
  · simp at h
  · simp at h
  · obtain ⟨hr, -⟩ := Prod.mk.inj h
    obtain rfl := Option.some.inj hr
    exact Nat.not_lt.mp hlen

/-- The routed helpers hand out no more than they have room for. -/
theorem routed (fw : Fw η) (c : Cmd) (onIdle : Fw η → Fw η) :
    Fits cap (routedPoll fw c cap onIdle) := by
  have h := routedPoll_outcome fw c cap onIdle
  generalize routedPoll fw c cap onIdle = out at h
  cases h with
  | latched hl => exact latchServe hl
  | collected _ _ _ => exact length_slotReply_le _ _
  | submitted _ _ _ => exact .bare _ _
  | busy _ _ => exact .bare _ _

theorem workerRouted (fw : Fw η) (c : Cmd) (minCap : Nat) (req : List UInt8) :
    Fits cap (handleWorkerRouted fw c minCap req cap) :=
  .guard (.guard (.routed fw c _))

theorem workerRoutedPayload (E : Env η) (fw : Fw η) (c : Cmd) (req : List UInt8) :
    Fits cap (handleWorkerRoutedPayload E fw c req) :=
  (routed fw c _).mono (Nat.zero_le cap)

theorem workerRoutedPayloadReply (fw : Fw η) (c : Cmd) (req : List UInt8) (minCap : Nat) :
    Fits cap (handleWorkerRoutedPayloadReply fw c req minCap cap) :=
  .guard (.routed fw c _)

end Fits

/-- `worker_poll` never stores more than the capacity. -/
theorem length_workerPoll_le (w : Worker) (c : Cmd) (cap : Nat) :
    (workerPoll w c cap).1.out.length ≤ cap := by
  rcases workerPoll_cases w c cap with
    ⟨-, hp⟩ | ⟨-, -, hp⟩ | ⟨-, st, -, hp⟩ | ⟨-, -, -, hp⟩ | ⟨-, -, hlen, hp⟩ | ⟨-, -, hp⟩ <;> rw [hp]
  · exact Nat.zero_le cap
  · exact Nat.zero_le cap
  · exact Nat.zero_le cap
  · exact Nat.zero_le cap
  · simpa [Job.resultBytes] using hlen
  · exact Nat.zero_le cap

/-- A result within the capacity is handed out whole. -/
theorem workerPoll_done {w : Worker} {c : Cmd} (hd : w.job.state = .done) (hc : w.job.jobCmd = c)
    (hle : w.job.resultLen ≤ cap) :
    workerPoll w c cap = ({ st := .done, out := w.job.resultBytes, err := 0 }, w) := by
  simp [workerPoll, hd, hc, Nat.not_lt.mpr hle]

theorem handleSpi1Transfer_fits : Fits cap (handleSpi1Transfer E fw req cap) := by
  have hout := length_workerPoll_le fw.worker .spi1Transfer cap
  unfold handleSpi1Transfer
  refine .guard (.guard (.guard ?_))
  simp only
  split
  · split_ifs
    · exact hout
    · exact .bare _ _
  · exact .bare _ _
  · exact .bare _ _
  · exact .bare _ _

theorem handleSpi1Configure_fits : Fits cap (handleSpi1Configure E fw req cap) := by
  have hout : Fits cap (handleWorkerRoutedPayloadReply fw .spi1Configure req 8 cap) :=
    .workerRoutedPayloadReply _ _ _ _
  unfold handleSpi1Configure
  refine .guard (.guard (.guard (.guard (.guard ?_))))
  simp only
  split_ifs
  · exact hout
  · exact hout

theorem handleSpi1Release_fits : Fits cap (handleSpi1Release fw req cap) := by
  have hout : Fits cap (handleWorkerRouted fw .spi1Release 0 req cap) := .workerRouted _ _ _ _
  unfold handleSpi1Release
  refine .guard ?_
  simp only
  split_ifs
  · exact hout
  · exact hout

theorem handleBleGattRegister_fits : Fits cap (handleBleGattRegister E fw req cap) := by
  unfold handleBleGattRegister
  split
  · exact .bare _ _
  · exact .workerRoutedPayloadReply _ _ _ _

theorem sockRecvCommit_le (tail uncommitted head : UInt32) (replay : Bool) (cap : UInt32) :
    (sockRecvCommit tail uncommitted head replay cap).n ≤ cap := by
  unfold sockRecvCommit
  generalize (if replay then tail else tail + uncommitted) = start
  change (if head - start < cap then head - start else cap) ≤ cap
  split_ifs with h
  · exact UInt32.le_of_lt h
  · exact UInt32.le_refl _

/-- The ring hands out no more than it is asked for. -/
theorem length_hwSockRecvRing_le (r : RxRing) (handle cap : UInt16) (replay : Bool) :
    (hwSockRecvRing r handle cap replay).1.out.length ≤ cap.toNat := by
  unfold hwSockRecvRing
  simp only
  split_ifs
  · exact Nat.zero_le _
  · exact Nat.zero_le _
  · have hn := sockRecvCommit_le r.tail r.uncommitted r.head replay cap.toUInt32
    generalize sockRecvCommit r.tail r.uncommitted r.head replay cap.toUInt32 = c at hn
    have hlen : (ringCopy r c.tail c.n).length = c.n.toNat := by simp [ringCopy]
    rw [hlen]
    exact UInt32.le_iff_toNat_le.mp hn

theorem sockRecvFromRing_fits {key : RecvKey} {r : Reply} {fw' : Fw η}
    (h : sockRecvFromRing fw key cap = (some r, fw')) : r.data.length ≤ cap := by
  have hroom : sockRecvRoom key cap ≤ cap - sockRecvRespBytes ∧ sockRecvRoom key cap < UInt16.size := by
    have := key.maxLen.toNat_lt_size
    unfold sockRecvRoom
    split_ifs <;> omega
  have hout := length_hwSockRecvRing_le fw.rx key.handle (UInt16.ofNat (sockRecvRoom key cap))
    (decide (key.seq ≠ 0 ∧ key = fw.last))
  rw [UInt16.toNat_ofNat_of_lt' hroom.2] at hout
  unfold sockRecvFromRing at h
  simp only at h
  split_ifs at h with hcap
  · simp at h
  · obtain rfl := Option.some.inj (Prod.mk.inj h).1
    rw [List.length_replicate]
    omega
  · obtain rfl := Option.some.inj (Prod.mk.inj h).1
    exact Nat.zero_le cap
  · obtain rfl := Option.some.inj (Prod.mk.inj h).1
    exact Nat.zero_le cap
  · obtain rfl := Option.some.inj (Prod.mk.inj h).1
    have hhead : ∀ n, (sockRecvRespHeader n).length = sockRecvRespBytes := fun _ => rfl
    rw [List.length_append, hhead]
    omega
  · simp at h

/-- A cached send reply of an earlier job is two bytes long. -/
def SendCache.Short (c : SendCache) : Prop :=
  c.cached = true → ∀ cap, 2 ≤ cap → (c.replyFor cap).data.length ≤ 2

theorem handleSockSend_fits (hsend : fw.send.Short) : Fits cap (handleSockSend fw req cap) := by
  have h := handleSockSend_outcome fw req cap
  generalize handleSockSend fw req cap = out at h
  cases h with
  | invalid _ => exact .bare _ _
  | noMem _ _ _ _ => exact .bare _ _
  | @cached send _ hs hc =>
      have heq : send = fw.send := by
        subst hs
        unfold SendCache.forget at hc ⊢
        split_ifs at hc ⊢
        rfl
      subst heq
      by_cases hcap : 2 ≤ cap
      · exact (hsend hc cap hcap).trans hcap
      · have : fw.send.replyFor cap = .bare .errNoMem ∨ fw.send.replyFor cap = .bare fw.send.status := by
          unfold SendCache.replyFor
          split_ifs
          · exact .inl rfl
          · omega
          · exact .inr rfl
        change (fw.send.replyFor cap).data.length ≤ cap
        rcases this with h | h <;> rw [h] <;> exact Nat.zero_le cap
  | routed _ _ _ _ hr =>
      cases hr with
      | latched hl => exact Fits.latchServe hl
      | collected _ _ _ => exact length_slotReply_le _ _
      | submitted _ _ _ => exact .bare _ _
      | busy _ _ => exact .bare _ _

theorem handleSockRecv_fits : Fits cap (handleSockRecv fw req cap) := by
  have h := handleSockRecv_outcome fw req cap
  generalize handleSockRecv fw req cap = out at h
  cases h with
  | invalid _ => exact .bare _ _
  | ring _ _ _ hr => exact sockRecvFromRing_fits hr
  | @cached _ recv _ _ _ _ =>
      change (recv.replyFor cap).data.length ≤ cap
      unfold RecvCache.replyFor
      split_ifs with _ hlen
      · exact Nat.zero_le cap
      · simpa using Nat.not_lt.mp hlen
      · exact Nat.zero_le cap
  | noMem _ _ _ _ _ => exact .bare _ _
  | submitted _ _ _ _ _ _ => exact .bare _ _
  | busy _ _ _ _ _ => exact .bare _ _

/-- No handler that answers from the slot reports more data than it was offered room for. -/
theorem handle_fits {c : Cmd} (hc : c.workerRouted = true) (hsend : fw.send.Short) :
    Fits cap (handle E c fw req cap) := by
  cases c with
  | getMac => exact .workerRouted _ _ _ _
  | wifiScanStart => exact .workerRouted _ _ _ _
  | wifiApStop => exact .workerRouted _ _ _ _
  | wifiGetRssi => exact .workerRouted _ _ _ _
  | bleEnable => exact .workerRouted _ _ _ _
  | bleDisable => exact .workerRouted _ _ _ _
  | bleAdvStop => exact .workerRouted _ _ _ _
  | bleScanStart => exact .workerRouted _ _ _ _
  | wifiDisconnect => exact .guard (.workerRouted _ _ _ _)
  | bleScanStop => exact .guard (.workerRouted _ _ _ _)
  | bleDisconnect => exact .guard (.workerRouted _ _ _ _)
  | spi1Release => exact handleSpi1Release_fits
  | wifiConnectSta => exact .guard (.guard (.workerRoutedPayload _ _ _ _))
  | wifiApStart => exact .guard (.guard (.workerRoutedPayload _ _ _ _))
  | sockConnect => exact .guard (.guard (.workerRoutedPayload _ _ _ _))
  | sockBind => exact .guard (.guard (.workerRoutedPayload _ _ _ _))
  | sockListen => exact .guard (.guard (.workerRoutedPayload _ _ _ _))
  | bleAdvStart => exact .guard (.guard (.workerRoutedPayload _ _ _ _))
  | sockClose => exact .guard (.workerRoutedPayload _ _ _ _)
  | bleConnect => exact .guard (.workerRoutedPayload _ _ _ _)
  | bleGattNotify => exact .guard (.workerRoutedPayload _ _ _ _)
  | bleGattWrite => exact .guard (.workerRoutedPayload _ _ _ _)
  | sockOpen => exact .guard (.guard (.workerRoutedPayloadReply _ _ _ _))
  | bleGattRead => exact .guard (.workerRoutedPayloadReply _ _ _ _)
  | bleGattRegister => exact handleBleGattRegister_fits
  | spi1Configure => exact handleSpi1Configure_fits
  | spi1Transfer => exact handleSpi1Transfer_fits
  | sockSend => exact handleSockSend_fits hsend
  | sockRecv => exact handleSockRecv_fits
  | _ => exact absurd hc (by decide)

/-- Nor does a frame with such an opcode reach the clamp of `protocol_build_reply`. -/
theorem requestOutcome_fits {c : Cmd} {f : List UInt8} {frame : Buf}
    (hdec : E.hdr.decode (cmdEcho f) = some c) (hc : c.workerRouted = true)
    (hsend : fw.send.Short) :
    (requestOutcome E (dispatcher E) fw f frame frameMaxBytes).2.dataLen ≤ E.build.replyDataMax := by
  have hrun : ∀ (fw' : Fw η) (flags : UInt8) (req : List UInt8), fw'.send = fw.send →
      ((dispatcher E).run fw' (cmdEcho f) flags req E.build.replyDataMax frame).2.dataLen ≤
        E.build.replyDataMax := by
    intro fw' flags req hfw
    have hfits : Fits E.build.replyDataMax (handle E c { fw' with currentReqSeq := reqSeq flags } req
        E.build.replyDataMax) := handle_fits hc (by rwa [hfw])
    simpa [dispatcher, protocolDispatch, hdec, Fits] using hfits
  have hcap := E.build.replyDataMax_eq
  unfold requestOutcome
  cases hb : E.build.wireCrc with
  | true =>
      rw [Build.trailerBytes, if_pos hb] at hcap
      simp only [if_true, requestCrc, hcap]
      split_ifs
      all_goals first | exact hrun _ _ _ rfl | exact Nat.zero_le _
  | false =>
      rw [Build.trailerBytes, if_neg (by simp [hb]), Nat.sub_zero] at hcap
      simp only [Bool.false_eq_true, if_false, requestLegacy, hcap]
      split_ifs
      all_goals first | exact hrun _ _ _ rfl | exact Nat.zero_le _

end

/-! ## Along a run -/

/-- The rooms agree in the state `s`, reached by the run `tr`. -/
structure JobFits (E : Env η) (tr : List Ev) (s : Sys η) : Prop where
  /-- Whatever the body at work returns within its capacity fits the collector's room, and
  `worker_execute` publishes it uncut. -/
  body : ∀ cmd call r, s.pc = .hal cmd call → r.fits call = true →
    (E.packOk cmd s.job.req r).length ≤ cmd.collectCap E.build ∧
      (r.rv = hwOk → (E.execOut cmd s.job.req r).buf = E.packOk cmd s.job.req r)
  /-- A finished job holds all that its body returned, and a poll with the collector's room hands
  all of it out. -/
  done : s.job.state = .done → s.job.resultLen ≤ s.job.jobCmd.collectCap E.build ∧
    workerPoll s.fw.worker s.job.jobCmd (s.job.jobCmd.collectCap E.build) =
      ({ st := .done, out := s.job.resultBytes, err := 0 }, s.fw.worker) ∧
    ∃ r, Returned E tr s.job r ∧ s.job.resultBytes = E.packOk s.job.jobCmd s.job.req r
  /-- An `SPI1_TRANSFER` that the handler accepts for the finished one is answered with all of it. -/
  spi1 : s.job.state = .done → s.job.jobCmd = .spi1Transfer → s.fw.spi1.configured = true →
    ∀ req, spi1TransferValid E req = true → byteAt req 3 = s.job.req 3 →
      (handleSpi1Transfer E s.fw req E.build.replyDataMax).2 =
        { status := .ok, data := s.job.resultBytes }
  /-- The received bytes on their way to the cache fit it. -/
  copied : ∀ out n, s.pc.cacheCopied = some (out, n) → out.rv = hwOk →
    out.buf.length ≤ E.build.replyDataMax
  /-- A cached receive is answered with all that the body returned. -/
  cached : s.fw.recv.cached = true → s.fw.recv.status ≠ .errNoMem ∧
    (s.fw.recv.status = .ok → s.fw.recv.replyLen ≤ E.build.replyDataMax) ∧
    ∃ t r, LastRecv E tr s.fw.recv.key t r ∧
      s.fw.recv.replyFor E.build.replyDataMax = sockRecvReply E r
  /-- A reply frame with a routed opcode is not clamped. -/
  framed : ∀ c f frame, E.hdr.decode (cmdEcho f) = some c → c.workerRouted = true →
    let o := (requestOutcome E (dispatcher E) s.fw f frame frameMaxBytes).2
    o.clamp (frameMaxBytes - replyDataOff - E.build.trailerBytes) = o

section

variable {E : Env η} {hal : η} {tr : List Ev} {s : Sys η}

/-- A finished job with an OK result holds what its body's return packs to, uncut. -/
theorem result_of_done (hr : (system E).Run (.boot hal) tr s) (hd : s.job.state = .done) :
    ∃ r, Returned E tr s.job r ∧ s.job.resultBytes = E.packOk s.job.jobCmd s.job.req r ∧
      s.job.resultLen = (E.packOk s.job.jobCmd s.job.req r).length := by
  have ht : s.job.Terminal := .inl hd
  obtain ⟨r, hret, hholds⟩ := (ResultInv.of_run hr).terminal ht
  have hok : r.rv = hwOk := by
    by_contra hne
    exact absurd (hd.symm.trans (hholds.err hne).1) (by decide)
  obtain ⟨-, hlen, hbytes⟩ := hholds.done hok
  have hbuf : (s.job.outOf E r).buf = E.packOk s.job.jobCmd s.job.req r :=
    execOut_buf hret.1 (spi1Room_of_run hr ht.ne_idle) hok
  rw [hbuf] at hlen hbytes
  exact ⟨r, hret, hbytes, hlen⟩

/-- The fourth byte of a transfer's result is its sequence number. -/
theorem packOk_spi1Transfer_seq (req : Buf) (r : HalRet) :
    4 ≤ (E.packOk .spi1Transfer req r).length ∧ byteAt (E.packOk .spi1Transfer req r) 3 = req 3 := by
  constructor
  · simp only [Env.packOk, List.length_append, length_le16, List.length_cons, List.length_nil]
    omega
  · simp [Env.packOk, byteAt, le16]

/-- What is copied to the cache is complete in the slot. -/
theorem Pc.copied_of_cacheCopied {pc : Pc} {out : ExecOut} {n : Nat}
    (h : pc.cacheCopied = some (out, n)) : pc.copied = some (out, out.buf.length) := by
  unfold cacheCopied at h
  split at h
  · obtain ⟨rfl, -⟩ := Prod.mk.inj (Option.some.inj h)
    rfl
  · obtain ⟨rfl, -⟩ := Prod.mk.inj (Option.some.inj h)
    rfl
  · simp at h

/-- A cached reply that answers as a body returned is neither an oversize error nor too long. -/
theorem RecvCache.fits_of_replyFor {B : Build} {c : RecvCache} {r : HalRet}
    (h : c.replyFor B.replyDataMax = sockRecvReply E r) :
    c.status ≠ .errNoMem ∧ (c.status = .ok → c.replyLen ≤ B.replyDataMax) := by
  have hne : (sockRecvReply E r).status ≠ .errNoMem := by
    unfold sockRecvReply sockWorkerHwErrToResp
    split_ifs <;> simp
  rw [← h] at hne
  unfold replyFor at hne
  constructor
  · intro hs
    rw [if_neg (by simp [hs])] at hne
    exact hne hs
  · intro hs
    rw [if_pos hs] at hne
    by_contra hlt
    rw [if_pos (by omega)] at hne
    exact hne rfl

/-- In every run in which the bodies keep to the capacities they are given, a finished job fits its
reply: no length is clamped, no result refused, and no received byte is lost on the way. -/
theorem finished_job_fits (hr : (system E).Run (.boot hal) tr s) : JobFits E tr s where
  body cmd call r hpc hfits := by
    have hx : s.pc.executing = some cmd := by rw [hpc]; rfl
    obtain rfl : s.job.jobCmd = cmd := (SlotInv.of_run hr).cmd cmd hx
    obtain rfl := (ResultInv.of_run hr).call _ call hpc
    have hrun : s.job.state = .running := (SlotInv.of_run hr).running.mpr (by simp [hx])
    have hspi := spi1Room_of_run hr (by simp [hrun])
    exact ⟨length_packOk_le_collectCap hfits hspi, execOut_buf hfits hspi⟩
  done hd := by
    obtain ⟨r, hret, hbytes, hlen⟩ := result_of_done hr hd
    have hle : s.job.resultLen ≤ s.job.jobCmd.collectCap E.build :=
      hlen ▸ length_packOk_le_collectCap hret.1 (spi1Room_of_run hr (by simp [hd]))
    exact ⟨hle, workerPoll_done hd rfl hle, r, hret, hbytes⟩
  spi1 hd hcmd hconf req hvalid hseq := by
    obtain ⟨r, hret, hbytes, hlen⟩ := result_of_done hr hd
    have hle : s.job.resultLen ≤ E.build.replyDataMax := by
      have := length_packOk_le_collectCap hret.1 (spi1Room_of_run hr (by simp [hd]))
      exact hlen ▸ this.trans (Cmd.collectCap_le _ _)
    obtain ⟨hfour, hfourth⟩ := @packOk_spi1Transfer_seq _ E s.job.req r
    rw [hcmd] at hbytes
    rw [← hbytes] at hfour hfourth
    have hroom : ¬ E.build.replyDataMax < spi1TransferMinCap E req := by
      have := (spi1TransferValid_len hvalid).2
      unfold spi1TransferMinCap
      split_ifs <;> omega
    have hpoll : workerPoll s.fw.worker .spi1Transfer E.build.replyDataMax =
        ({ st := .done, out := s.job.resultBytes, err := 0 }, s.fw.worker) :=
      workerPoll_done hd hcmd hle
    rw [handleSpi1Transfer, if_neg (by simp [hvalid]), if_neg (by simp [hconf]), if_neg hroom]
    simp only [hpoll]
    rw [if_pos ⟨hfour, hfourth.trans hseq.symm⟩]
  copied out n hc hok := by
    have hx := Pc.executing_of_cacheCopied hc
    have hcmd : s.job.jobCmd = .sockRecv := (SlotInv.of_run hr).cmd _ hx
    obtain ⟨r, hret, rfl, -⟩ := (ResultInv.of_run hr).copied out _ (Pc.copied_of_cacheCopied hc)
    have hfits : r.fits (E.halCall .sockRecv s.job.req s.job.reqLen) = true := hcmd ▸ hret.1
    have h := execOut_sockRecv E s.job.req hfits hok
    rw [Job.outOf, hcmd, h.1]
    exact h.2
  cached hc := by
    obtain ⟨t, r, hlast, hreply⟩ := (RecvInv.of_run hr).cached hc
    obtain ⟨hstatus, hlen⟩ := RecvCache.fits_of_replyFor hreply
    exact ⟨hstatus, hlen, t, r, hlast, hreply⟩
  framed c f frame hdec hc := by
    have hsend : s.fw.send.Short := by
      intro hcached cap hcap
      obtain ⟨t, r, -, hreply⟩ := (SendInv.of_run hr).cached hcached
      rw [hreply cap hcap, sockSendReply]
      split_ifs
      · exact Nat.le_refl 2
      · exact Nat.zero_le 2
    have hle : (requestOutcome E (dispatcher E) s.fw f frame frameMaxBytes).2.dataLen ≤
        E.build.replyDataMax := requestOutcome_fits hdec hc hsend
    simp only [Build.replyDataMax_eq, Outcome.clamp]
    rw [if_neg (Nat.not_lt.mpr hle)]

end

open Act in
/-- A receive of four bytes, up to the flip of the state. -/
def receiveFour : List (Act Unit) :=
  [dispatch (.of .sockRecv 1 [1, 0, 16, 0]), task, task,
    ret { rv := hwOk, data := [1, 2, 3, 4] }] ++ List.replicate 60 task

/-- After it the cache answers with the header and the four bytes. -/
theorem finished_job_fits_receive :
    ∃ tr s, (system .reference).Run (.boot ()) tr s ∧ s.fw.recv.cached = true ∧
      s.job.state = .done ∧ s.job.resultLen = 28 ∧ JobFits Env.reference tr s := by
  have h : ((system .reference).exec (.boot ()) receiveFour).map (fun p =>
      (p.1.fw.recv.cached, p.1.job.state, p.1.job.resultLen)) = some (true, .done, 28) := by
    decide +kernel
  obtain ⟨⟨s, tr⟩, hs, heq⟩ := Option.map_eq_some_iff.mp h
  simp only [Prod.mk.injEq] at heq
  have hrun := Machine.run_of_exec hs
  exact ⟨tr, s, hrun, heq.1, heq.2.1, heq.2.2, finished_job_fits hrun⟩

end Cc3501eBridge
