import Cc3501eBridge.SpiLink
import Cc3501eBridge.Latch

/-!
# The two transports

A request frame comes in over SPI, byte by byte into a buffer, or over SDIO, in one piece
(`transport_sdio.c`).  Behind both is `protocol_build_reply`, so the two could only differ where the
SPI buffer is full: from then on bytes are dropped, and the frame that is checked is not the frame
that was sent.

`SeamsAgree` is what the two are to have in common, and `seams_agree_iff` says for which frames they
have it.  A frame longer than the buffer must be refused by both; but if its first 4100 bytes are a
valid frame, SPI serves these, and if the whole of it is one, SDIO serves it.
-/

namespace Cc3501eBridge

variable {η : Type}

/-! ## No handler reports a protocol error -/

/-- No reply kept for later is a protocol error. -/
structure Fw.NoProtocolError (fw : Fw η) : Prop where
  latch : fw.latch.status ≠ .errProtocol
  send : fw.send.status ≠ .errProtocol
  recv : fw.recv.status ≠ .errProtocol

theorem sockWorkerHwErrToResp_ne_protocol (rv : Int) : sockWorkerHwErrToResp rv ≠ .errProtocol := by
  unfold sockWorkerHwErrToResp
  split_ifs <;> simp

theorem SendCache.forget_status (c : SendCache) (seq : UInt8) :
    (c.forget seq).status = c.status := by
  unfold forget
  split_ifs <;> rfl

theorem RecvCache.forget_status (c : RecvCache) (key : RecvKey) :
    (c.forget key).status = c.status := by
  unfold forget
  split_ifs <;> rfl

theorem RecvCache.forgetHandle_status (c : RecvCache) (handle : UInt16) :
    (c.forgetHandle handle).status = c.status := by
  unfold forgetHandle
  split_ifs <;> rfl

section

variable {E : Env η} {s s' : Sys η} {fw : Fw η} {req : Request} {reply : Reply}

/-- What the latch serves or keeps is what it held, or the reply just collected. -/
theorem RoutedPoll.ne_protocol {cmd : Cmd} {cap : Nat} {out : Fw η × Reply}
    (h : RoutedPoll fw cmd cap out) (hl : fw.latch.status ≠ .errProtocol) :
    out.2.status ≠ .errProtocol ∧ out.1.latch.status ≠ .errProtocol := by
  have hserve : ∀ {o l}, retryLatchServe fw.latch fw.currentReqSeq cmd cap = (o, l) →
      l.status = fw.latch.status ∧ ∀ r, o = some r → r.status = fw.latch.status := by
    intro o l h
    unfold retryLatchServe at h
    split_ifs at h <;> obtain ⟨rfl, rfl⟩ := Prod.mk.inj h <;> simp
  cases h with
  | served hs =>
      obtain ⟨hl', hr⟩ := hserve hs
      exact ⟨by rw [hr _ rfl]; exact hl, by rw [hl']; exact hl⟩
  | collected hs _ _ =>
      refine ⟨slotReply_ne_protocol _ _, ?_⟩
      unfold retryLatchStore
      split_ifs
      · rw [(hserve hs).1]
        exact hl
      · rw [(hserve hs).1]
        exact hl
      · rw [(hserve hs).1]
        exact hl
      · exact slotReply_ne_protocol _ _
  | busy hs _ hlatch =>
      refine ⟨by simp, ?_⟩
      rw [hlatch, (hserve hs).1]
      exact hl

theorem Answered.ne_protocol {c : Cmd} {payload : List UInt8} {cap : Nat} {out : Fw η × Reply}
    (h : Answered E fw c payload cap out) (hl : fw.latch.status ≠ .errProtocol) :
    out.2.status ≠ .errProtocol ∧ out.1.latch.status ≠ .errProtocol := by
  cases h with
  | own _ hl' _ hs => exact ⟨hs, by rw [hl']; exact hl⟩
  | routed _ hl₁ _ _ _ hpoll hl' _ =>
      obtain ⟨hs, hl₂⟩ := hpoll.ne_protocol (by rw [hl₁]; exact hl)
      exact ⟨hs, by rw [hl']; exact hl₂⟩

theorem SendCache.replyFor_ne_protocol {c : SendCache} (h : c.status ≠ .errProtocol) (cap : Nat) :
    (c.replyFor cap).status ≠ .errProtocol := by
  unfold replyFor
  split_ifs
  · simp
  · simp
  · exact h

theorem RecvCache.replyFor_ne_protocol {c : RecvCache} (h : c.status ≠ .errProtocol) (cap : Nat) :
    (c.replyFor cap).status ≠ .errProtocol := by
  unfold replyFor
  split_ifs
  · simp
  · simp
  · exact h

theorem sockRecvFromRing_ne_protocol {key : RecvKey} {cap : Nat} {r : Reply}
    (h : (sockRecvFromRing fw key cap).1 = some r) : r.status ≠ .errProtocol := by
  unfold sockRecvFromRing at h
  by_cases hcap : cap ≤ sockRecvRespBytes
  · simp [hcap] at h
  · simp only [if_neg hcap] at h
    split_ifs at h
    · rw [← Option.some.inj h]
      exact Resp.noConfusion
    · rw [← Option.some.inj h]
      exact Resp.noConfusion
    · rw [← Option.some.inj h]
      exact Resp.noConfusion
    · rw [← Option.some.inj h]
      exact Resp.noConfusion

theorem SendOutcome.ne_protocol {payload : List UInt8} {cap : Nat} {out : Fw η × Reply}
    (h : SendOutcome fw payload cap out) (hsend : fw.send.status ≠ .errProtocol) :
    out.2.status ≠ .errProtocol ∧ out.1.send.status = fw.send.status := by
  cases h with
  | invalid _ => exact ⟨by simp, rfl⟩
  | cached _ hs _ =>
      have hst := SendCache.forget_status fw.send (sockSendSeq payload)
      rw [← hs] at hst
      exact ⟨SendCache.replyFor_ne_protocol (by rw [hst]; exact hsend) cap, hst⟩
  | noMem _ hs _ _ => exact ⟨by simp, by rw [hs]; exact SendCache.forget_status _ _⟩
  | routed _ hs _ hfw ho =>
      subst hfw
      have hst := SendCache.forget_status fw.send (sockSendSeq payload)
      rw [← hs] at hst
      cases ho with
      | latched hl => simp [retryLatchServe, retryLatchApplies] at hl
      | collected _ _ _ => exact ⟨slotReply_ne_protocol _ _, hst⟩
      | submitted _ _ _ => exact ⟨by simp, hst⟩
      | busy _ _ => exact ⟨by simp, hst⟩

theorem RecvOutcome.ne_protocol {payload : List UInt8} {cap : Nat} {out : Fw η × Reply}
    (h : RecvOutcome fw payload cap out) (hrecv : fw.recv.status ≠ .errProtocol) :
    out.2.status ≠ .errProtocol ∧ out.1.recv.status = fw.recv.status := by
  have hst := fun key => RecvCache.forget_status fw.recv key
  cases h with
  | invalid _ => exact ⟨by simp, rfl⟩
  | ring _ _ hr hring =>
      subst hr
      exact ⟨sockRecvFromRing_ne_protocol (congrArg Prod.fst hring), hst _⟩
  | cached _ _ hr _ =>
      subst hr
      refine ⟨RecvCache.replyFor_ne_protocol (by rw [hst]; exact hrecv) cap, ?_⟩
      dsimp only
      split_ifs <;> exact hst _
  | noMem _ _ hr _ _ => exact ⟨by simp, by rw [hr]; exact hst _⟩
  | submitted _ _ hr _ _ _ => exact ⟨by simp, by rw [hr]; exact hst _⟩
  | busy _ _ hr _ _ => exact ⟨by simp, by rw [hr]; exact hst _⟩

/-- A dispatch does not answer with a protocol error, nor keep one for later. -/
theorem Fw.NoProtocolError.dispatch (h : s.fw.NoProtocolError)
    (hd : protocolDispatch E s.fw req.cmd req.flags req.payload req.cap = (fw, reply)) :
    reply.status ≠ .errProtocol ∧ fw.NoProtocolError := by
  have hlatch : fw.latch.status ≠ .errProtocol := by
    rcases dispatch_latch hd with ⟨-, hl⟩ | ⟨c, -, hans⟩
    · rw [hl]
      exact h.latch
    · exact (hans.ne_protocol h.latch).2
  rcases dispatch_send hd with ⟨hc, ho⟩ | ⟨hc, hs⟩
  · obtain ⟨hr, hs⟩ := ho.ne_protocol h.send
    refine ⟨hr, hlatch, by rw [hs]; exact h.send, ?_⟩
    rcases dispatch_recv hd with ⟨hc', -⟩ | ⟨hc', -⟩ | ⟨-, hrecv, -⟩
    · exact absurd (hc.symm.trans hc') (by decide)
    · exact absurd (hc.symm.trans hc') (by decide)
    · rw [hrecv]
      exact h.recv
  · have hsend : fw.send.status ≠ .errProtocol := by
      rw [hs]
      exact h.send
    have hother : reply.status ≠ .errProtocol ∨ E.hdr.decode req.cmd = some .sockRecv := by
      rcases dispatch_cases hd with ⟨hn, -⟩ | ⟨c, hdec, hh⟩
      · left
        have hd' := hd
        simp only [protocolDispatch, hn] at hd'
        rw [← (Prod.mk.inj hd').2]
        simp
      · by_cases hr : c = .sockRecv
        · exact .inr (by rw [hdec, hr])
        · have hs' : c ≠ .sockSend := fun heq => hc (by rw [hdec, heq])
          have hans := handle_answered E (s.fw.latchSeq req) req.payload req.cap hs' hr
          rw [hh] at hans
          exact .inl (hans.ne_protocol h.latch).1
    rcases dispatch_recv hd with ⟨-, ho⟩ | ⟨hc', -, hrecv⟩ | ⟨hc', hrecv, -⟩
    · obtain ⟨hr, hst⟩ := ho.ne_protocol h.recv
      exact ⟨hr, hlatch, hsend, by rw [hst]; exact h.recv⟩
    · refine ⟨hother.resolve_right (by rw [hc']; decide), hlatch, hsend, ?_⟩
      rw [hrecv, RecvCache.forgetHandle_status]
      exact h.recv
    · exact ⟨hother.resolve_right hc', hlatch, hsend, by rw [hrecv]; exact h.recv⟩

/-- Nor does a finished job leave one in the caches. -/
theorem Fw.NoProtocolError.publish (h : s.fw.NoProtocolError) (cmd : Cmd) (out : ExecOut) :
    (workerPublish E s.fw cmd out).NoProtocolError := by
  refine ⟨h.latch, ?_, ?_⟩
  · unfold workerPublish sockSendOnWorkerComplete
    dsimp only
    split_ifs
    · exact h.send
    · simp
    · exact sockWorkerHwErrToResp_ne_protocol _
    · exact h.send
  · unfold workerPublish sockRecvWorkerPublish
    dsimp only
    split_ifs
    · simp
    · simp
    · exact sockWorkerHwErrToResp_ne_protocol _
    · exact h.recv

theorem Fw.NoProtocolError.step (h : s.fw.NoProtocolError) {a : Act η} {e : Ev}
    (hs : (system E).step s a = some (s', e)) : s'.fw.NoProtocolError := by
  cases a with
  | dispatch req =>
      obtain ⟨rfl, -⟩ := by simpa [system, sysStep] using hs
      exact (h.dispatch rfl).2
  | _ =>
      have hlatch := (sysStep_keeps hs (by simp)).1
      refine ⟨by rw [hlatch]; exact h.latch, ?_, ?_⟩
      all_goals
        cases sysStep_core hs with
        | silent _ hsend hrecv _ _ _ =>
            first
              | rw [hsend]; exact h.send
              | rw [hrecv]; exact h.recv
        | dispatch hd => first | exact (h.dispatch hd).2.send | exact (h.dispatch hd).2.recv
        | publish hpc => first | exact (h.publish _ _).send | exact (h.publish _ _).recv
        | _ => first | exact h.send | exact h.recv

/-- In every state the firmware can reach, no protocol error is kept. -/
theorem noProtocolError_of_run {hal : η} {tr : List Ev} (hr : (system E).Run (.boot hal) tr s) :
    s.fw.NoProtocolError :=
  hr.invariant (P := fun _ s => s.fw.NoProtocolError) ⟨by simp [Sys.boot, Fw.boot],
    by simp [Sys.boot, Fw.boot], by simp [Sys.boot, Fw.boot]⟩ fun _ _ _ _ _ h hs => h.step hs

end

/-! ## The seams -/

/-- The staged reply of the SDIO transport. -/
structure SdioSeam where
  replyBuf : Buf
  replyLen : UInt16

namespace SdioSeam

/-- `sdio_slave_on_request`: the frame comes in one piece, with its length. -/
def onRequest (E : Env η) (D : Dispatcher η) (fw : Fw η) (m : SdioSeam) (frame : List UInt8) :
    Fw η × SdioSeam :=
  let r := protocolBuildReply E D fw frame m.replyBuf frameMaxBytes
  (r.fw, { m with replyBuf := r.frame, replyLen := UInt16.ofNat r.length })

/-- `sdio_slave_reply` and `sdio_slave_reply_len`: the bytes sent back. -/
def reply (m : SdioSeam) : List UInt8 := m.replyBuf.read 0 m.replyLen.toNat

end SdioSeam

namespace SpiSeam

/-- A whole transaction: select, the bytes one by one, deselect. -/
def onRequest (E : Env η) (D : Dispatcher η) (fw : Fw η) (m : SpiSeam) (frame : List UInt8) :
    Fw η × SpiSeam :=
  (frame.foldl rxByte m.csLow).csHigh E D fw

/-- The bytes that are clocked back from the cursor on. -/
def reply (m : SpiSeam) : List UInt8 := m.txBuf.read m.txCursor (m.txLen - m.txCursor)

/-- A full buffer takes no more. -/
theorem foldl_rxByte_full {m : SpiSeam} (h : frameMaxBytes ≤ m.rxLen) (bytes : List UInt8) :
    bytes.foldl rxByte m = m := by
  induction bytes with
  | nil => rfl
  | cons b bytes ih =>
      rw [List.foldl_cons, rxByte, if_neg (Nat.not_lt.mpr h)]
      exact ih

/-- What is captured of a frame is its beginning. -/
theorem foldl_rxByte_csLow (m : SpiSeam) (frame : List UInt8) :
    (frame.foldl rxByte m.csLow).rxBuf.read 0 (frame.foldl rxByte m.csLow).rxLen =
        frame.take frameMaxBytes ∧
      (frame.foldl rxByte m.csLow).rxLen = (frame.take frameMaxBytes).length ∧
      (frame.foldl rxByte m.csLow).txBuf = m.txBuf := by
  obtain ⟨hlen, hread, htx⟩ := foldl_rxByte (frame.take frameMaxBytes) m.csLow (by
    change 0 + _ ≤ _
    simp)
  change _ = 0 + _ at hlen
  change Buf.read _ 0 (0 + _) = Buf.read _ 0 0 ++ _ at hread
  rw [Nat.zero_add] at hlen hread
  have hall : frame.foldl rxByte m.csLow = (frame.take frameMaxBytes).foldl rxByte m.csLow := by
    conv_lhs => rw [← List.take_append_drop frameMaxBytes frame, List.foldl_append]
    rcases Nat.lt_or_ge frameMaxBytes frame.length with hlt | hge
    · apply foldl_rxByte_full
      rw [hlen, List.length_take]
      omega
    · rw [List.drop_eq_nil_of_le hge]
      rfl
  rw [hall, hlen]
  exact ⟨by simpa using hread, rfl, htx⟩

/-- SPI answers the beginning of the frame. -/
theorem onRequest_eq (E : Env η) (D : Dispatcher η) (fw : Fw η) (m : SpiSeam) {frame : List UInt8}
    (h : frame ≠ []) :
    (m.onRequest E D fw frame).1 =
        (protocolBuildReply E D fw (frame.take frameMaxBytes) m.txBuf frameMaxBytes).fw ∧
      (m.onRequest E D fw frame).2.reply =
        (protocolBuildReply E D fw (frame.take frameMaxBytes) m.txBuf frameMaxBytes).bytes := by
  obtain ⟨hread, hlen, htx⟩ := m.foldl_rxByte_csLow frame
  have hpos : (frame.foldl rxByte m.csLow).rxLen ≠ 0 := by
    rw [hlen, List.length_take]
    have := List.length_pos_of_ne_nil h
    unfold frameMaxBytes headerBytes maxPayload
    omega
  have hhigh := csHigh_of_request E D fw hpos hread
  rw [htx] at hhigh
  unfold onRequest
  rw [hhigh]
  exact ⟨rfl, rfl⟩

end SpiSeam

/-- SDIO answers the frame. -/
theorem SdioSeam.onRequest_eq (E : Env η) (D : Dispatcher η) (fw : Fw η) (m : SdioSeam)
    (frame : List UInt8) :
    (m.onRequest E D fw frame).1 =
        (protocolBuildReply E D fw frame m.replyBuf frameMaxBytes).fw ∧
      (m.onRequest E D fw frame).2.reply =
        (protocolBuildReply E D fw frame m.replyBuf frameMaxBytes).bytes := by
  refine ⟨rfl, ?_⟩
  have hmax := (protocolBuildReply_length E D fw frame m.replyBuf).2
  have hu16 : (UInt16.ofNat
      (protocolBuildReply E D fw frame m.replyBuf frameMaxBytes).length).toNat =
      (protocolBuildReply E D fw frame m.replyBuf frameMaxBytes).length := by
    apply UInt16.toNat_ofNat_of_lt'
    exact lt_of_le_of_lt hmax (by decide)
  unfold onRequest reply BuiltReply.bytes
  simp only [hu16]

/-! ## What is served and what is refused -/

/-- A reply with more data than there is room for becomes `NO_MEM`. -/
def Reply.clamp (r : Reply) (dataCap : Nat) : Reply :=
  if r.data.length > dataCap then .bare .errNoMem else r

theorem Reply.clamp_ne_protocol {r : Reply} (h : r.status ≠ .errProtocol) (dataCap : Nat) :
    (r.clamp dataCap).status ≠ .errProtocol := by
  unfold clamp
  split_ifs
  · exact Resp.noConfusion
  · exact h

/-- A reply that is no protocol error is not counted as one. -/
theorem Stats.count_ne {st : Stats} {status : Resp} (h : status ≠ .errProtocol) :
    st.count status ≠ st.count .errProtocol := by
  intro heq
  by_cases hok : status = .ok
  · subst hok
    have hok' : st.framesOk + 1 = st.framesOk := congrArg Stats.framesOk heq
    simp at hok'
  · rw [count, if_neg hok] at heq
    exact h (congrArg Stats.lastError heq)

section

variable {E : Env η} {s : Sys η} {req : List UInt8}

/-- An accepted frame is answered with what the handler returns, wherever the reply is built. -/
theorem buildReply_served (hready : s.fw.crc.ready = true) {payload : List UInt8}
    (h : Accepts E req payload) (old : Buf) :
    let out := protocolDispatch E s.fw (cmdEcho req) (byteAt req 1) payload E.build.replyDataMax
    let r := protocolBuildReply E (dispatcher E) s.fw req old frameMaxBytes
    r.bytes = encodeReply E (cmdEcho req) (out.2.clamp E.build.replyDataMax) ∧
      r.fw = { out.1 with
        stats := s.fw.stats.count (out.2.clamp E.build.replyDataMax).status } := by
  intro out r
  have hcrc : out.1.crc = s.fw.crc ∧ out.1.stats = s.fw.stats := protocolDispatch_frame _ _
  have hresult : Outcome.result E.build ((dispatcher E).run s.fw (cmdEcho req) (byteAt req 1)
      payload E.build.replyDataMax old).2 = out.2.clamp E.build.replyDataMax := by
    change Outcome.result E.build ⟨out.2.status, out.2.data.length,
      old.write replyDataOff out.2.data⟩ = _
    rw [Outcome.result, Reply.clamp, Buf.read_write]
  have hfw := @finishReply_fw _ E (cmdEcho req) ((dispatcher E).run s.fw (cmdEcho req)
    (byteAt req 1) payload E.build.replyDataMax old) (by rw [← hready, ← hcrc.1]; rfl)
  change (protocolBuildReply _ _ _ _ _ _).bytes = _ ∧ (protocolBuildReply _ _ _ _ _ _).fw = _
  rw [protocolBuildReply_eq, requestOutcome_eq hready h, (finishReply_eq _ _).1, hfw, hresult]
  refine ⟨rfl, ?_⟩
  rw [← hcrc.2]
  rfl

/-- The reply does not depend on what its buffer held before. -/
theorem buildReply_old_irrel (hready : s.fw.crc.ready = true) (req : List UInt8) (old old' : Buf) :
    (protocolBuildReply E (dispatcher E) s.fw req old frameMaxBytes).bytes =
        (protocolBuildReply E (dispatcher E) s.fw req old' frameMaxBytes).bytes ∧
      (protocolBuildReply E (dispatcher E) s.fw req old frameMaxBytes).fw =
        (protocolBuildReply E (dispatcher E) s.fw req old' frameMaxBytes).fw := by
  by_cases h : ∃ payload, Accepts E req payload
  · obtain ⟨payload, h⟩ := h
    obtain ⟨hb, hf⟩ := buildReply_served hready h old
    obtain ⟨hb', hf'⟩ := buildReply_served hready h old'
    exact ⟨hb.trans hb'.symm, hf.trans hf'.symm⟩
  · have hno : ∀ payload, ¬ Accepts E req payload := fun payload hp => h ⟨payload, hp⟩
    obtain ⟨hb, hf⟩ := buildReply_rejected hready (dispatcher E) hno old
    obtain ⟨hb', hf'⟩ := buildReply_rejected hready (dispatcher E) hno old'
    exact ⟨hb.trans hb'.symm, hf.trans hf'.symm⟩

/-- A frame that is served and one that is refused leave different counters. -/
theorem buildReply_fw_ne (hready : s.fw.crc.ready = true) (hprot : s.fw.NoProtocolError)
    {payload req' : List UInt8} (h : Accepts E req payload)
    (h' : ∀ payload, ¬ Accepts E req' payload) (old old' : Buf) :
    (protocolBuildReply E (dispatcher E) s.fw req old frameMaxBytes).fw ≠
      (protocolBuildReply E (dispatcher E) s.fw req' old' frameMaxBytes).fw := by
  intro heq
  rw [(buildReply_served hready h old).2,
    (buildReply_rejected hready (dispatcher E) h' old').2] at heq
  have hstats := congrArg Fw.stats heq
  have hne := (@Fw.NoProtocolError.dispatch _ E s _
    ⟨cmdEcho req, byteAt req 1, payload, E.build.replyDataMax⟩ _ hprot rfl).1
  exact Stats.count_ne (Reply.clamp_ne_protocol hne _) hstats

end

/-! ## What is seen of a long frame -/

theorem byteAt_take {frame : List UInt8} {n i : Nat} (h : i < n) :
    byteAt (frame.take n) i = byteAt frame i := by
  unfold byteAt
  rw [List.getD_eq_getElem?_getD, List.getD_eq_getElem?_getD, List.getElem?_take, if_pos h]

theorem declaredLen_take (frame : List UInt8) :
    declaredLen (frame.take frameMaxBytes) = declaredLen frame := by
  unfold declaredLen
  rw [byteAt_take (by decide), byteAt_take (by decide)]

theorem cmdEcho_take (frame : List UInt8) : cmdEcho (frame.take frameMaxBytes) = cmdEcho frame := by
  cases frame with
  | nil => rfl
  | cons b frame => rfl

/-- A frame of another length than it declares is not accepted. -/
theorem not_accepts_of_length {E : Env η} {frame : List UInt8}
    (h : frame.length ≠ headerBytes + (declaredLen frame).toNat) (payload : List UInt8) :
    ¬ Accepts E frame payload := fun hacc => h hacc.2.1.symm

/-- Of a frame that is too long, not both the beginning and the whole can be accepted. -/
theorem not_accepts_both {E : Env η} {frame payload : List UInt8}
    (hlong : frameMaxBytes < frame.length) (h : Accepts E (frame.take frameMaxBytes) payload)
    (payload' : List UInt8) :
    ¬ Accepts E frame payload' := by
  apply not_accepts_of_length
  have hdecl := h.2.1
  rw [declaredLen_take, List.length_take, Nat.min_eq_left hlong.le] at hdecl
  rw [hdecl]
  exact hlong.ne'

/-! ## The two seams side by side -/

/-- What the two transports are to have in common on a frame: the reply, the state left behind, and
that a frame of another length than it declares is a protocol error, whatever stands behind the
gate. -/
structure SeamsAgree (E : Env η) (fw : Fw η) (spi : SpiSeam) (sdio : SdioSeam)
    (frame : List UInt8) : Prop where
  reply : (spi.onRequest E (dispatcher E) fw frame).2.reply =
    (sdio.onRequest E (dispatcher E) fw frame).2.reply
  state : (spi.onRequest E (dispatcher E) fw frame).1 = (sdio.onRequest E (dispatcher E) fw frame).1
  refused : frame.length ≠ headerBytes + (declaredLen frame).toNat → ∀ D : Dispatcher η,
    (spi.onRequest E D fw frame).2.reply = encodeReply E (cmdEcho frame) (.bare .errProtocol) ∧
    (sdio.onRequest E D fw frame).2.reply = encodeReply E (cmdEcho frame) (.bare .errProtocol) ∧
    (spi.onRequest E D fw frame).1 = { fw with stats := fw.stats.count .errProtocol } ∧
    (sdio.onRequest E D fw frame).1 = { fw with stats := fw.stats.count .errProtocol }

/-- A frame longer than the SPI buffer that one of the two would serve: its beginning is a valid
frame, or the whole is. -/
def Overlong (E : Env η) (frame : List UInt8) : Prop :=
  frameMaxBytes < frame.length ∧
    ((∃ payload, Accepts E (frame.take frameMaxBytes) payload) ∨ ∃ payload, Accepts E frame payload)

section

variable {E : Env η} {s : Sys η} {frame : List UInt8}

/-- On such a frame they part: one serves it and the other does not. -/
theorem not_seamsAgree_of_overlong (hready : s.fw.crc.ready = true) (hprot : s.fw.NoProtocolError)
    (spi : SpiSeam) (sdio : SdioSeam) (h : Overlong E frame) :
    ¬ SeamsAgree E s.fw spi sdio frame := by
  intro hag
  obtain ⟨hlong, hacc⟩ := h
  have hne : frame ≠ [] := by
    rintro rfl
    exact Nat.not_lt_zero _ hlong
  have hstate := hag.state
  rw [(spi.onRequest_eq E _ s.fw hne).1, (sdio.onRequest_eq E _ s.fw frame).1] at hstate
  rcases hacc with ⟨payload, hp⟩ | ⟨payload, hp⟩
  · exact buildReply_fw_ne hready hprot hp (not_accepts_both hlong hp) _ _ hstate
  · exact buildReply_fw_ne hready hprot hp (fun payload' hp' => not_accepts_both hlong hp' _ hp) _ _
      hstate.symm

/-- A frame that neither serves is refused by both in the same way. -/
theorem seamsAgree_of_rejected (hready : s.fw.crc.ready = true) (spi : SpiSeam) (sdio : SdioSeam)
    (hne : frame ≠ []) (hspi : ∀ payload, ¬ Accepts E (frame.take frameMaxBytes) payload)
    (hsdio : ∀ payload, ¬ Accepts E frame payload) : SeamsAgree E s.fw spi sdio frame := by
  have hboth : ∀ D : Dispatcher η,
      (spi.onRequest E D s.fw frame).2.reply = encodeReply E (cmdEcho frame) (.bare .errProtocol) ∧
      (sdio.onRequest E D s.fw frame).2.reply = encodeReply E (cmdEcho frame) (.bare .errProtocol) ∧
      (spi.onRequest E D s.fw frame).1 = { s.fw with stats := s.fw.stats.count .errProtocol } ∧
      (sdio.onRequest E D s.fw frame).1 = { s.fw with stats := s.fw.stats.count .errProtocol } := by
    intro D
    obtain ⟨hfw, hreply⟩ := spi.onRequest_eq E D s.fw hne
    obtain ⟨hfw', hreply'⟩ := sdio.onRequest_eq E D s.fw frame
    obtain ⟨hb, hf⟩ := buildReply_rejected hready D hspi spi.txBuf
    obtain ⟨hb', hf'⟩ := buildReply_rejected hready D hsdio sdio.replyBuf
    rw [cmdEcho_take] at hb
    exact ⟨hreply.trans hb, hreply'.trans hb', hfw.trans hf, hfw'.trans hf'⟩
  obtain ⟨hr, hr', hf, hf'⟩ := hboth (dispatcher E)
  exact ⟨hr.trans hr'.symm, hf.trans hf'.symm, fun _ => hboth⟩

/-- A frame that fits the SPI buffer is the same frame on both. -/
theorem seamsAgree_of_fits (hready : s.fw.crc.ready = true) (spi : SpiSeam) (sdio : SdioSeam)
    (hne : frame ≠ []) (hfits : frame.length ≤ frameMaxBytes) :
    SeamsAgree E s.fw spi sdio frame := by
  have htake : frame.take frameMaxBytes = frame := List.take_of_length_le hfits
  by_cases hlen : frame.length = headerBytes + (declaredLen frame).toNat
  · obtain ⟨hfw, hreply⟩ := spi.onRequest_eq E (dispatcher E) s.fw hne
    obtain ⟨hfw', hreply'⟩ := sdio.onRequest_eq E (dispatcher E) s.fw frame
    rw [htake] at hfw hreply
    obtain ⟨hb, hf⟩ := buildReply_old_irrel (E := E) hready frame spi.txBuf sdio.replyBuf
    exact ⟨(hreply.trans hb).trans hreply'.symm, (hfw.trans hf).trans hfw'.symm, (absurd hlen ·)⟩
  · have hno := not_accepts_of_length (E := E) hlen
    exact seamsAgree_of_rejected hready spi sdio hne (by rw [htake]; exact hno) hno

end

/-- When the two transports agree.  In every state the firmware can reach, whatever the two staged
before, a frame gets the same reply and leaves the same state on both, and is a protocol error
without any handler run if its length is not the declared one, exactly if it is not one that is
longer than the SPI buffer and served by one of the two. -/
theorem seams_agree_iff {E : Env η} {hal : η} {tr : List FrameEv} {s : Sys η}
    (hr : (frameSystem E).Run (.boot hal) tr s) (spi : SpiSeam) (sdio : SdioSeam)
    {frame : List UInt8} (hne : frame ≠ []) :
    SeamsAgree E s.fw spi sdio frame ↔ ¬ Overlong E frame := by
  obtain ⟨tr', hr'⟩ := frame_run_refines hr
  have hready := crc_ready_of_run hr'
  constructor
  · intro hag hover
    exact not_seamsAgree_of_overlong hready (noProtocolError_of_run hr') spi sdio hover hag
  · intro hover
    rcases Nat.lt_or_ge frameMaxBytes frame.length with hlong | hfits
    · exact seamsAgree_of_rejected hready spi sdio hne
        (fun payload hp => hover ⟨hlong, .inl ⟨payload, hp⟩⟩)
        (fun payload hp => hover ⟨hlong, .inr ⟨payload, hp⟩⟩)
    · exact seamsAgree_of_fits hready spi sdio hne hfits

/-- A `PING` fits, so that the two agree on it. -/
theorem seams_agree_iff_ping :
    SeamsAgree .reference (Sys.boot () : Sys Unit).fw .init ⟨.zero, 0⟩
      [0x00, 0x08, 2, 0, 0x03, 0x4B] :=
  (@seams_agree_iff _ .reference () [] _ .nil .init ⟨.zero, 0⟩ _ (by decide)).mpr
    fun hover => absurd hover.1 (by decide)

/-- A stream of 4094 bytes in a frame as long as a frame may be. -/
def longestFrame : List UInt8 :=
  ([0x45, 0x08, 0x00, 0x10] ++ List.replicate 4094 0) ++
    frameCrc ([0x45, 0x08, 0x00, 0x10] ++ List.replicate 4094 0)

/-- Followed by one more byte, it is served over SPI and refused over SDIO. -/
theorem longest_frame_and_byte_differ :
    (longestFrame ++ [0]).length = 4101 ∧ (declaredLen (longestFrame ++ [0])).toNat = 4096 ∧
      ¬ SeamsAgree .reference (Sys.boot () : Sys Unit).fw .init ⟨.zero, 0⟩
        (longestFrame ++ [0]) := by
  have hcov : ([0x45, 0x08, 0x00, 0x10] ++ List.replicate 4094 (0 : UInt8)).length = 4098 := by
    rw [List.length_append, List.length_replicate]
    rfl
  have hlen : longestFrame.length = frameMaxBytes := by
    rw [longestFrame, List.length_append, hcov]
    rfl
  have htake : (longestFrame ++ [0]).take frameMaxBytes = longestFrame := by
    rw [List.take_append_of_le_length hlen.ge]
    exact List.take_of_length_le hlen.le
  have hacc : Accepts Env.reference longestFrame (List.replicate 4094 0) :=
    ⟨by rw [hlen]; decide, by rw [hlen]; rfl, .inr ⟨_, by rw [hcov]; decide, rfl, rfl⟩⟩
  have hrun : (system Env.reference).Run (.boot ()) [] (.boot ()) := .nil
  have hover : Overlong Env.reference (longestFrame ++ [0]) := by
    refine ⟨by rw [List.length_append, hlen]; decide, .inl ?_⟩
    rw [htake]
    exact ⟨_, hacc⟩
  refine ⟨by rw [List.length_append, hlen]; rfl, rfl, ?_⟩
  exact not_seamsAgree_of_overlong (crc_ready_of_run hrun) (noProtocolError_of_run hrun) _ _ hover

end Cc3501eBridge
