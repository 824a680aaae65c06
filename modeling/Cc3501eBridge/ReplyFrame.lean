import Cc3501eBridge.Frame

/-!
# Replies are well formed

Whatever a handler reports, the frame built from it is one a host can take apart.  `encodeReply` is
the reply as the protocol describes it: header, status, data, zeros up to a multiple of eight, and
on the wire with CRC the code of all that.  Both bodies of `protocol_build_reply` compute it, over a
buffer with arbitrary old contents and in 16-bit arithmetic that is nowhere truncated.
-/

namespace Cc3501eBridge

variable {η : Type}

/-! ## The reply as the protocol describes it -/

section

variable (E : Env η)

/-- The bytes of the CRC trailer. -/
def Build.trailerBytes (B : Build) : Nat := if B.wireCrc then crcBytes else 0

/-- The trailer of a frame whose other bytes are `covered`. -/
def trailer (B : Build) (covered : List UInt8) : List UInt8 :=
  if B.wireCrc then le16 (Crc16.update Crc16.initReg covered) else []

/-- The status byte on the wire. -/
def statusByte (status : Resp) : UInt8 :=
  if E.build.wireCrc = false ∧ status = .ok then respOkLegacy else E.hdr.respByte status

/-- The zeros that bring a payload with `n` data bytes to a multiple of eight. -/
def padBytes (B : Build) (n : Nat) : Nat :=
  (replyPad - (1 + n + B.trailerBytes) % replyPad) % replyPad

/-- The payload length of a reply with `n` data bytes. -/
def payloadBytes (B : Build) (n : Nat) : Nat := 1 + n + padBytes B n + B.trailerBytes

/-- The part of a reply frame that the trailer covers. -/
def coveredBytes (cmd : UInt8) (reply : Reply) : List UInt8 :=
  [cmd, 0] ++ le16 (UInt16.ofNat (payloadBytes E.build reply.data.length)) ++
    (statusByte E reply.status :: (reply.data ++
      List.replicate (padBytes E.build reply.data.length) 0))

/-- A reply frame. -/
def encodeReply (cmd : UInt8) (reply : Reply) : List UInt8 :=
  coveredBytes E cmd reply ++ trailer E.build (coveredBytes E cmd reply)

end

/-- The reply an outcome amounts to: a handler that reports too much data fails. -/
def Outcome.result (B : Build) (o : Outcome) : Reply :=
  if o.dataLen > B.replyDataMax then .bare .errNoMem
  else { status := o.status, data := o.frame.read replyDataOff o.dataLen }

/-! ## Lengths -/

namespace Build

variable (B : Build) {n : Nat}

theorem replyDataMax_add : B.replyDataMax + B.trailerBytes + 1 = maxPayload := by
  unfold replyDataMax trailerBytes
  split <;> rfl

/-- The room for data that a full frame buffer leaves. -/
theorem replyDataMax_eq : frameMaxBytes - replyDataOff - B.trailerBytes = B.replyDataMax := by
  unfold replyDataMax trailerBytes
  split <;> rfl

end Build

section

variable (B : Build) {n : Nat}

theorem padBytes_lt (n : Nat) : padBytes B n < replyPad := Nat.mod_lt _ (by decide)

theorem replyPad_dvd_payloadBytes (n : Nat) : replyPad ∣ payloadBytes B n := by
  unfold payloadBytes padBytes replyPad
  omega

/-- Padding does not push a payload over the limit, for the limit is a multiple of eight. -/
theorem payloadBytes_le (h : n ≤ B.replyDataMax) : payloadBytes B n ≤ maxPayload := by
  have hmax := B.replyDataMax_add
  unfold payloadBytes padBytes replyPad
  unfold maxPayload at hmax ⊢
  omega

theorem toNat_payloadBytes (h : n ≤ B.replyDataMax) :
    (UInt16.ofNat (payloadBytes B n)).toNat = payloadBytes B n := by
  have hle := payloadBytes_le B h
  apply UInt16.toNat_ofNat_of_lt'
  unfold maxPayload at hle
  unfold UInt16.size
  omega

theorem length_trailer (covered : List UInt8) : (trailer B covered).length = B.trailerBytes := by
  unfold trailer Build.trailerBytes
  split <;> rfl

end

theorem length_encodeReply (E : Env η) (cmd : UInt8) (reply : Reply) :
    (encodeReply E cmd reply).length = headerBytes + payloadBytes E.build reply.data.length := by
  simp [encodeReply, coveredBytes, length_trailer, payloadBytes, le16, headerBytes]
  omega

theorem Outcome.length_result_le (B : Build) (o : Outcome) :
    (o.result B).data.length ≤ B.replyDataMax := by
  unfold result
  split_ifs with h
  · exact Nat.zero_le _
  · simpa using h

/-! ## The code computes it -/

/-- The frame before its trailer: the head written over a buffer whose pad has been zeroed. -/
theorem read_laid (b : Buf) (head : List UInt8) (s : UInt8) (hhead : head.length = headerBytes)
    (n pad : Nat) :
    (((b.write (replyDataOff + n) (List.replicate pad 0)).write 0 head).write replyStatusOff
        [s]).read 0 (replyDataOff + n + pad) =
      head ++ s :: (b.read replyDataOff n ++ List.replicate pad 0) := by
  have hlen : replyDataOff + n + pad = headerBytes + (1 + (n + pad)) := by
    simp only [replyDataOff, headerBytes]
    omega
  rw [hlen, Buf.read_add, Buf.read_add, Buf.read_add]
  have h0 : (((b.write (replyDataOff + n) (List.replicate pad 0)).write 0 head).write
      replyStatusOff [s]).read 0 headerBytes = head := by
    rw [Buf.read_write_of_disjoint (.inl (by simp [replyStatusOff]))]
    rw [← hhead]
    exact Buf.read_write
  have h1 : (((b.write (replyDataOff + n) (List.replicate pad 0)).write 0 head).write
      replyStatusOff [s]).read (0 + headerBytes) 1 = [s] := Buf.read_write
  have h2 : (((b.write (replyDataOff + n) (List.replicate pad 0)).write 0 head).write
      replyStatusOff [s]).read (0 + headerBytes + 1) n = b.read replyDataOff n := by
    rw [Buf.read_write_of_disjoint (.inr (by simp [replyStatusOff])),
      Buf.read_write_of_disjoint (.inr (by simp [hhead])),
      Buf.read_write_of_disjoint (.inl (by simp [replyDataOff]))]
    rfl
  have h3 : (((b.write (replyDataOff + n) (List.replicate pad 0)).write 0 head).write
      replyStatusOff [s]).read (0 + headerBytes + 1 + n) pad = List.replicate pad 0 := by
    rw [Buf.read_write_of_disjoint (.inr (by simp [replyStatusOff])),
      Buf.read_write_of_disjoint (.inr (by simp [hhead]; omega))]
    have := @Buf.read_write b (replyDataOff + n) (List.replicate pad 0)
    rw [List.length_replicate] at this
    simpa [replyDataOff] using this
  rw [h0, h1, h2, h3]
  rfl

/-- The pad in plain arithmetic. -/
theorem toNat_replyPadding (p : UInt16) (cap : Nat) :
    (replyPadding p cap).toNat =
      if p.toNat % 8 = 0 then 0
      else if 4 + p.toNat + (8 - p.toNat % 8) ≤ cap then 8 - p.toNat % 8 else 0 := by
  have hrem : (p % UInt16.ofNat replyPad).toNat = p.toNat % 8 := by
    rw [UInt16.toNat_mod]
    rfl
  have hsub : (UInt16.ofNat replyPad - p % UInt16.ofNat replyPad).toNat = 8 - p.toNat % 8 := by
    rw [UInt16.toNat_sub_of_le, hrem]
    · rfl
    · rw [UInt16.le_iff_toNat_le, hrem]
      change _ ≤ 8
      omega
  have hzero : p % UInt16.ofNat replyPad = 0 ↔ p.toNat % 8 = 0 := by
    rw [← UInt16.toNat_inj, hrem]
    rfl
  unfold replyPadding
  simp only [ne_eq, hzero, hsub, ite_not, headerBytes]
  split_ifs
  · rfl
  · exact hsub
  · rfl

/-- The pad of the source is the pad of the protocol: it always fits a full frame buffer. -/
theorem replyPadding_eq (B : Build) {n : Nat} (h : n ≤ B.replyDataMax) :
    (replyPadding (UInt16.ofNat (1 + n + B.trailerBytes)) frameMaxBytes).toNat = padBytes B n ∧
      UInt16.ofNat (1 + n + B.trailerBytes) +
        replyPadding (UInt16.ofNat (1 + n + B.trailerBytes)) frameMaxBytes =
        UInt16.ofNat (payloadBytes B n) := by
  have hmax : B.replyDataMax + B.trailerBytes + 1 = 4096 := B.replyDataMax_add
  have hlen : (UInt16.ofNat (1 + n + B.trailerBytes)).toNat = 1 + n + B.trailerBytes :=
    UInt16.toNat_ofNat_of_lt' (by unfold UInt16.size; omega)
  have hpad : (replyPadding (UInt16.ofNat (1 + n + B.trailerBytes)) frameMaxBytes).toNat =
      padBytes B n := by
    rw [toNat_replyPadding, hlen]
    unfold padBytes replyPad frameMaxBytes headerBytes maxPayload
    split_ifs <;> omega
  refine ⟨hpad, ?_⟩
  have hle : payloadBytes B n ≤ 4096 := payloadBytes_le B h
  rw [← UInt16.toNat_inj, UInt16.toNat_add, hlen, hpad, toNat_payloadBytes B h]
  unfold payloadBytes at hle ⊢
  omega

/-! ## The whole reply -/

section

variable (E : Env η) (D : Dispatcher η)

/-- The gate of the build at hand. -/
def requestOutcome (fw : Fw η) (req : List UInt8) (frame : Buf) (replyCap : Nat) : Fw η × Outcome :=
  if E.build.wireCrc then requestCrc E D fw req frame replyCap
  else requestLegacy E D fw req frame replyCap

/-- What follows the gate in the build at hand. -/
def finishReply (cmd : UInt8) (out : Fw η × Outcome) (replyCap : Nat) : BuiltReply η :=
  if E.build.wireCrc then finishCrc E cmd out.1 out.2 replyCap
  else finishLegacy E cmd out.1 out.2 replyCap

/-- In a full frame buffer a reply is always built. -/
theorem protocolBuildReply_eq (fw : Fw η) (req : List UInt8) (frame : Buf) :
    protocolBuildReply E D fw req frame frameMaxBytes =
      finishReply E (cmdEcho req) (requestOutcome E D fw req frame frameMaxBytes)
        frameMaxBytes := by
  unfold protocolBuildReply requestOutcome finishReply
  cases E.build.wireCrc with
  | true =>
      simp only [if_true, protocolBuildReplyCrc]
      rw [if_neg (by decide)]
  | false =>
      simp only [Bool.false_eq_true, if_false, protocolBuildReplyLegacy]
      rw [if_neg (by decide)]

/-- The gate leaves the frame counters alone. -/
theorem requestOutcome_stats (fw : Fw η) (req : List UInt8) (frame : Buf) (replyCap : Nat) :
    (requestOutcome E D fw req frame replyCap).1.stats = fw.stats := by
  unfold requestOutcome requestCrc requestLegacy rejected
  simp only []
  split_ifs <;> first | rfl | rw [D.run_stats]

variable {E} (cmd : UInt8) (fw : Fw η) (o : Outcome)

/-- What the clamp makes of an outcome, and its reading as a reply. -/
theorem Outcome.clamp_result (B : Build) :
    (o.clamp B.replyDataMax).dataLen = (o.result B).data.length ∧
      (o.clamp B.replyDataMax).status = (o.result B).status ∧
      (o.clamp B.replyDataMax).frame.read replyDataOff (o.clamp B.replyDataMax).dataLen =
        (o.result B).data := by
  unfold clamp result
  split_ifs
  · exact ⟨rfl, rfl, rfl⟩
  · exact ⟨by simp, rfl, rfl⟩

private theorem finishCrc_eq (hb : E.build.wireCrc = true) :
    (finishCrc E cmd fw o frameMaxBytes).bytes = encodeReply E cmd (o.result E.build) ∧
      (finishCrc E cmd fw o frameMaxBytes).fw =
        { fw with stats := fw.stats.count (o.result E.build).status, crc := fw.crc.ensure } := by
  obtain ⟨hlen, hstatus, hdata⟩ := o.clamp_result E.build
  have hcap : frameMaxBytes - replyDataOff - crcBytes = E.build.replyDataMax := by
    rw [← E.build.replyDataMax_eq, Build.trailerBytes, if_pos hb]
  have htrailer : E.build.trailerBytes = crcBytes := by rw [Build.trailerBytes, if_pos hb]
  obtain ⟨hpad, hpayload⟩ := replyPadding_eq E.build (o.length_result_le E.build)
  have htoNat := toNat_payloadBytes E.build (o.length_result_le E.build)
  rw [htrailer] at hpad hpayload
  set reply := o.result E.build with hreply
  set n := reply.data.length with hn
  rw [hlen] at hdata
  have hstat : E.hdr.respByte reply.status = statusByte E reply.status := by
    simp [statusByte, hb]
  have hcov : (UInt16.ofNat (payloadBytes E.build n)).toNat - crcBytes =
      1 + n + padBytes E.build n := by
    rw [htoNat, payloadBytes, htrailer]
    omega
  have hoff : replyStatusOff + 1 + n = replyDataOff + n := rfl
  unfold finishCrc BuiltReply.bytes
  simp only [hcap, frameReplyCrc, hlen, hstatus, crc16TableUpdate, hpad, hpayload, hcov, hoff,
    Crc16.Memo.ensure_ensure, Crc16.Memo.updateTable_ensure]
  refine ⟨?_, trivial⟩
  set frame := (((o.clamp E.build.replyDataMax).frame.write (replyDataOff + n)
    (List.replicate (padBytes E.build n) 0)).write 0
    ([cmd, 0] ++ le16 (UInt16.ofNat (payloadBytes E.build n)))).write replyStatusOff
    [E.hdr.respByte reply.status] with hframe
  -- the frame up to the trailer, in one piece and in the two pieces the code is computed over
  have hlaid : frame.read 0 (replyStatusOff + (1 + n + padBytes E.build n)) =
      coveredBytes E cmd reply := by
    rw [show replyStatusOff + (1 + n + padBytes E.build n) =
        replyDataOff + n + padBytes E.build n by simp only [replyDataOff, replyStatusOff]; omega,
      hframe, read_laid _ _ _ rfl, hdata, hstat]
    rfl
  have hcrc : Crc16.update (Crc16.update Crc16.initReg (frame.read 0 headerBytes))
      (frame.read replyStatusOff (1 + n + padBytes E.build n)) =
      Crc16.update Crc16.initReg (coveredBytes E cmd reply) := by
    rw [← Crc16.update_append, ← hlaid]
    exact congrArg _ (Buf.read_add headerBytes _).symm
  have htotal : headerBytes + (UInt16.ofNat (payloadBytes E.build n)).toNat =
      replyStatusOff + (1 + n + padBytes E.build n) +
        (le16 (Crc16.update Crc16.initReg (coveredBytes E cmd reply))).length := by
    rw [htoNat, payloadBytes, htrailer]
    rfl
  rw [hcrc, htotal, Buf.read_write_end, hlaid, encodeReply, trailer, if_pos hb]

private theorem finishLegacy_eq (hb : E.build.wireCrc = false) :
    (finishLegacy E cmd fw o frameMaxBytes).bytes = encodeReply E cmd (o.result E.build) ∧
      (finishLegacy E cmd fw o frameMaxBytes).fw =
        { fw with stats := fw.stats.count (o.result E.build).status } := by
  obtain ⟨hlen, hstatus, hdata⟩ := o.clamp_result E.build
  have hnot : ¬ E.build.wireCrc = true := by simp [hb]
  have htrailer : E.build.trailerBytes = 0 := by rw [Build.trailerBytes, if_neg hnot]
  have hcap : frameMaxBytes - replyDataOff = E.build.replyDataMax := by
    rw [← E.build.replyDataMax_eq, htrailer]
    rfl
  have hle := o.length_result_le E.build
  obtain ⟨hpad, hpayload⟩ := replyPadding_eq E.build hle
  have htoNat := toNat_payloadBytes E.build hle
  rw [htrailer, Nat.add_zero] at hpad hpayload
  set reply := o.result E.build with hreply
  set n := reply.data.length with hn
  rw [hlen] at hdata
  have hstat : (if reply.status = .ok then respOkLegacy else E.hdr.respByte reply.status) =
      statusByte E reply.status := by
    simp [statusByte, hb]
  have hfirst : (UInt16.ofNat (1 + n)).toNat = 1 + n := by
    have := E.build.replyDataMax_le
    exact UInt16.toNat_ofNat_of_lt' (by unfold UInt16.size; omega)
  have hoff : replyStatusOff + (1 + n) = replyDataOff + n := by
    simp only [replyStatusOff, replyDataOff]
    omega
  unfold finishLegacy BuiltReply.bytes
  simp only [hcap, frameReplyLegacy, hlen, hstatus, hpad, hpayload, hfirst, hoff]
  refine ⟨?_, trivial⟩
  have htotal : headerBytes + (UInt16.ofNat (payloadBytes E.build n)).toNat =
      replyDataOff + n + padBytes E.build n := by
    rw [htoNat, payloadBytes, htrailer]
    simp only [replyDataOff]
    omega
  rw [htotal, read_laid _ _ _ rfl, hdata, hstat, encodeReply, trailer, if_neg hnot,
    List.append_nil]
  rfl

/-- Both builds frame the reply the outcome amounts to, and count it. -/
theorem finishReply_eq (out : Fw η × Outcome) :
    (finishReply E cmd out frameMaxBytes).bytes = encodeReply E cmd (out.2.result E.build) ∧
      (finishReply E cmd out frameMaxBytes).fw =
        { out.1 with
          stats := out.1.stats.count (out.2.result E.build).status
          crc := if E.build.wireCrc then out.1.crc.ensure else out.1.crc } := by
  unfold finishReply
  cases hb : E.build.wireCrc with
  | true =>
      simp only [if_true]
      exact finishCrc_eq cmd out.1 out.2 hb
  | false =>
      simp only [Bool.false_eq_true, if_false]
      exact finishLegacy_eq cmd out.1 out.2 hb

/-- With the CRC table built, only the counters move. -/
theorem finishReply_fw {out : Fw η × Outcome} (hready : out.1.crc.ready = true) :
    (finishReply E cmd out frameMaxBytes).fw =
      { out.1 with stats := out.1.stats.count (out.2.result E.build).status } := by
  rw [(finishReply_eq cmd out).2, Crc16.Memo.ensure_of_ready hready, ite_self]

end

/-! ## The guarantee -/

/-- `protocol_build_reply` always frames a well-formed reply.  For every request, state, dispatcher
and old frame contents there are a payload length and a pad such that the bytes returned are the
echoed opcode, a zero, the length, the status byte, the data, the pad as zeros and, on the wire with
CRC, the code of all that.  The length is that of the payload, without truncation, is a multiple of
eight and within the limit; the reply is the handler's unless it reported more data than it was
offered room for, which gives `NO_MEM` without data; and exactly one of the counters advances. -/
theorem buildReply_wellFormed (E : Env η) (D : Dispatcher η) (fw : Fw η) (req : List UInt8)
    (frame : Buf) :
    let o := (requestOutcome E D fw req frame frameMaxBytes).2
    let r := protocolBuildReply E D fw req frame frameMaxBytes
    ∃ (len : UInt16) (pad : Nat) (reply : Reply) (covered : List UInt8),
      covered = [cmdEcho req, 0] ++ le16 len ++
        (statusByte E reply.status :: (reply.data ++ List.replicate pad 0)) ∧
      r.bytes = covered ++ trailer E.build covered ∧
      r.length = headerBytes + len.toNat ∧ r.length ≤ frameMaxBytes ∧
      len.toNat = 1 + reply.data.length + pad + E.build.trailerBytes ∧
      8 ∣ len.toNat ∧ len.toNat ≤ maxPayload ∧ pad < 8 ∧
      (o.dataLen ≤ E.build.replyDataMax →
        reply = { status := o.status, data := o.frame.read replyDataOff o.dataLen }) ∧
      (o.dataLen > E.build.replyDataMax → reply = .bare .errNoMem) ∧
      r.fw.stats =
        (if reply.status = .ok then { fw.stats with framesOk := fw.stats.framesOk + 1 }
        else { fw.stats with framesErr := fw.stats.framesErr + 1, lastError := reply.status }) := by
  intro o r
  have hr : r = finishReply E (cmdEcho req) (requestOutcome E D fw req frame frameMaxBytes)
      frameMaxBytes := protocolBuildReply_eq E D fw req frame
  obtain ⟨hbytes, hfw⟩ := finishReply_eq (E := E) (cmdEcho req)
    (requestOutcome E D fw req frame frameMaxBytes)
  rw [← hr] at hbytes hfw
  have hle := o.length_result_le E.build
  have htoNat := toNat_payloadBytes E.build hle
  have hlen : r.length = headerBytes + payloadBytes E.build (o.result E.build).data.length := by
    rw [← length_encodeReply, ← hbytes, BuiltReply.bytes, Buf.length_read]
  have hmax : payloadBytes E.build (o.result E.build).data.length ≤ maxPayload :=
    payloadBytes_le E.build hle
  refine ⟨UInt16.ofNat (payloadBytes E.build (o.result E.build).data.length),
    padBytes E.build (o.result E.build).data.length, o.result E.build, _, rfl, hbytes, ?_, ?_, ?_,
    ?_, ?_, padBytes_lt _ _, ?_, ?_, ?_⟩
  · rw [htoNat]
    exact hlen
  · rw [hlen]
    unfold frameMaxBytes
    omega
  · exact htoNat
  · rw [htoNat]
    exact replyPad_dvd_payloadBytes _ _
  · rw [htoNat]
    exact hmax
  · intro h
    rw [Outcome.result, if_neg (by omega)]
  · intro h
    rw [Outcome.result, if_pos h]
  · rw [hfw]
    change Stats.count (requestOutcome E D fw req frame frameMaxBytes).1.stats _ = _
    rw [requestOutcome_stats]
    rfl

end Cc3501eBridge
