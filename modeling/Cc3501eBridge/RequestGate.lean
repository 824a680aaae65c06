import Cc3501eBridge.ReplyFrame
import Cc3501eBridge.Reference
import Cc3501eBridge.Steps

/-!
# The request gate

Which frames reach a handler, and that a frame which does not leaves no trace but in the counters.
`Accepts` is the rule of the protocol, stated without the order of the checks; `requestOutcome_eq`
and `requestOutcome_rejected` show that the code follows it, whatever stands behind the gate.

`frameSystem` is the machine of `System` with whole frames in place of decoded requests.  Its runs
are runs of `system` (`frame_run_refines`), so everything shown of those holds of the firmware as the
host sees it.
-/

namespace Cc3501eBridge

variable {η : Type}

/-! ## The rule -/

/-- The code over all bytes before the trailer. -/
def frameCrc (covered : List UInt8) : List UInt8 := le16 (Crc16.update Crc16.initReg covered)

/-- The frame `req` is to be served, with `payload` for the handler. -/
def Accepts (E : Env η) (req payload : List UInt8) : Prop :=
  headerBytes ≤ req.length ∧ headerBytes + (declaredLen req).toNat = req.length ∧
    if E.build.wireCrc then
      (cmdEcho req = E.hdr.opcode .getVersion ∧ req.length = headerBytes ∧ payload = []) ∨
        ∃ covered, headerBytes ≤ covered.length ∧ req = covered ++ frameCrc covered ∧
          payload = covered.drop headerBytes
    else
      if cmdEcho req = E.hdr.opcode .getVersion ∧ req.length = headerBytes + crcBytes then
        req = req.take headerBytes ++ frameCrc (req.take headerBytes) ∧ payload = []
      else payload = req.drop headerBytes

/-! ## The code follows it -/

/-- Two bytes spell a word if they are the word stored. -/
theorem getLe16_eq_iff {v : UInt16} {a b : UInt8} : v = getLe16 a b ↔ [a, b] = le16 v := by
  constructor
  · rintro rfl
    exact (le16_getLe16 a b).symm
  · intro h
    exact le16_injective (by rw [le16_getLe16, h])

/-- The last two bytes of a string. -/
theorem drop_eq_pair {req : List UInt8} {n : Nat} (h : req.length = n + 2) :
    req.drop n = [byteAt req n, byteAt req (n + 1)] := by
  have h0 : n < req.length := by omega
  have h1 : n + 1 < req.length := by omega
  rw [List.drop_eq_getElem_cons h0, List.drop_eq_getElem_cons h1,
    List.drop_eq_nil_of_le (by omega)]
  simp [byteAt, List.getD_eq_getElem?_getD, h0, h1]

/-- The check of a trailer: the last two bytes are the code of the others. -/
theorem trailer_check {req : List UInt8} {n : Nat} (h : req.length = n + 2) :
    Crc16.update Crc16.initReg (req.take n) = getLe16 (byteAt req n) (byteAt req (n + 1)) ↔
      req = req.take n ++ frameCrc (req.take n) := by
  rw [getLe16_eq_iff, ← drop_eq_pair h]
  constructor
  · intro heq
    rw [frameCrc, ← heq, List.take_append_drop]
  · intro heq
    have hdrop := congrArg (List.drop n) heq
    rwa [List.drop_left' (by rw [List.length_take]; omega)] at hdrop

/-- The code of header and payload is computed in two pieces. -/
theorem update_header (req : List UInt8) (n : Nat) :
    Crc16.update (Crc16.update Crc16.initReg (req.take headerBytes))
      ((req.drop headerBytes).take n) = Crc16.update Crc16.initReg (req.take (headerBytes + n)) := by
  rw [← Crc16.update_append, List.take_add]

section

variable {E : Env η} {D : Dispatcher η} {fw : Fw η} {req payload : List UInt8} {frame : Buf}

/-- The CRC gate's check comes down to the trailer. -/
theorem requestCrc_of_payload (hlen : headerBytes ≤ req.length)
    (hdecl : headerBytes + (declaredLen req).toNat = req.length)
    (hv : ¬ (cmdEcho req = E.hdr.opcode .getVersion ∧ declaredLen req = 0))
    (h2 : headerBytes + crcBytes ≤ req.length) {n replyCap : Nat}
    (hn : req.length = headerBytes + n + 2) :
    requestCrc E D fw req frame replyCap =
      if req = req.take (headerBytes + n) ++ frameCrc (req.take (headerBytes + n)) then
        D.run { fw with crc := fw.crc.ensure } (cmdEcho req) (byteAt req 1)
          ((req.drop headerBytes).take n) (replyCap - replyDataOff - crcBytes) frame
      else rejected { fw with crc := fw.crc.ensure } frame := by
  have hge : UInt16.ofNat crcBytes ≤ declaredLen req := by
    rw [UInt16.le_iff_toNat_le]
    change crcBytes ≤ _
    omega
  have hlogical : (declaredLen req - UInt16.ofNat crcBytes).toNat = n := by
    rw [UInt16.toNat_sub_of_le _ _ hge]
    change (declaredLen req).toNat - 2 = n
    omega
  have hcrc : (if 0 < n then
        crc16TableUpdate fw.crc.ensure
          (Crc16.update Crc16.initReg (req.take headerBytes)) ((req.drop headerBytes).take n)
      else (Crc16.update Crc16.initReg (req.take headerBytes), fw.crc.ensure)) =
      (Crc16.update Crc16.initReg (req.take (headerBytes + n)), fw.crc.ensure) := by
    rw [← update_header]
    split_ifs with hpos
    · simp [crc16TableUpdate]
    · obtain rfl : n = 0 := by omega
      simp
  unfold requestCrc
  simp only [if_pos hlen, if_pos hdecl, if_neg hv, if_pos hge, hlogical]
  rw [show crc16TableUpdate fw.crc Crc16.initReg (req.take headerBytes) =
    (Crc16.update Crc16.initReg (req.take headerBytes), fw.crc.ensure) by simp [crc16TableUpdate]]
  simp only [hcrc]
  exact if_congr (trailer_check (by omega)) rfl rfl

/-- The room for data the gate offers. -/
private theorem offered (E : Env η) :
    (if E.build.wireCrc then frameMaxBytes - replyDataOff - crcBytes
      else frameMaxBytes - replyDataOff) = E.build.replyDataMax := by
  rw [← E.build.replyDataMax_eq, Build.trailerBytes]
  split <;> rfl

/-- A frame the protocol accepts is dispatched, with its payload. -/
theorem requestOutcome_eq (hready : fw.crc.ready = true) (h : Accepts E req payload) :
    requestOutcome E D fw req frame frameMaxBytes =
      D.run fw (cmdEcho req) (byteAt req 1) payload E.build.replyDataMax frame := by
  obtain ⟨hlen, hdecl, h⟩ := h
  have hfw : ({ fw with crc := fw.crc.ensure } : Fw η) = fw := by
    rw [Crc16.Memo.ensure_of_ready hready]
  have hcap := offered E
  unfold requestOutcome
  cases hb : E.build.wireCrc with
  | true =>
      simp only [hb, if_true] at h hcap ⊢
      rcases h with ⟨hv, h4, rfl⟩ | ⟨covered, hcov, heq, rfl⟩
      · have h0 : declaredLen req = 0 := by
          rw [← UInt16.toNat_inj]
          change _ = 0
          omega
        unfold requestCrc
        simp only [if_pos hlen, if_pos hdecl, if_pos (And.intro hv h0), hcap]
      · have hreq : req.length = covered.length + 2 := by
          rw [heq, List.length_append]
          rfl
        have hn : req.length = headerBytes + (covered.length - headerBytes) + 2 := by omega
        have hcovered : req.take (headerBytes + (covered.length - headerBytes)) = covered := by
          rw [show headerBytes + (covered.length - headerBytes) = covered.length by omega, heq,
            List.take_left]
        have hv : ¬ (cmdEcho req = E.hdr.opcode .getVersion ∧ declaredLen req = 0) := by
          rintro ⟨-, h0⟩
          rw [h0] at hdecl
          change headerBytes + 0 = _ at hdecl
          omega
        rw [requestCrc_of_payload hlen hdecl hv (by change headerBytes + 2 ≤ _; omega) hn, hcovered,
          if_pos heq, hfw, hcap]
        congr 1
        rw [heq, List.drop_append_of_le_length hcov, List.take_left' (by rw [List.length_drop])]
  | false =>
      simp only [hb, Bool.false_eq_true, if_false] at h hcap ⊢
      unfold requestLegacy
      simp only [if_pos hlen, if_pos hdecl, hcap]
      have hiff : declaredLen req = UInt16.ofNat crcBytes ↔ req.length = headerBytes + crcBytes := by
        rw [← UInt16.toNat_inj]
        change (declaredLen req).toNat = crcBytes ↔ _
        omega
      by_cases hv : cmdEcho req = E.hdr.opcode .getVersion ∧ req.length = headerBytes + crcBytes
      · rw [if_pos hv] at h
        obtain ⟨heq, rfl⟩ := h
        rw [if_pos ⟨hv.1, hiff.mpr hv.2⟩]
        simp only [crc16TableUpdate, Crc16.Memo.updateTable_ensure, hfw]
        exact if_pos ((trailer_check hv.2).mpr heq)
      · rw [if_neg hv] at h
        rw [if_neg fun hv' => hv ⟨hv'.1, hiff.mp hv'.2⟩, h]

/-- A frame the protocol does not accept is not dispatched. -/
theorem requestOutcome_rejected (hready : fw.crc.ready = true) (h : ∀ payload, ¬ Accepts E req payload) :
    requestOutcome E D fw req frame frameMaxBytes = rejected fw frame := by
  have hfw : ({ fw with crc := fw.crc.ensure } : Fw η) = fw := by
    rw [Crc16.Memo.ensure_of_ready hready]
  unfold Accepts at h
  unfold requestOutcome
  by_cases hlen : headerBytes ≤ req.length
  swap
  · cases E.build.wireCrc <;> simp [requestCrc, requestLegacy, hlen]
  by_cases hdecl : headerBytes + (declaredLen req).toNat = req.length
  swap
  · cases E.build.wireCrc <;> simp [requestCrc, requestLegacy, hlen, hdecl]
  cases hb : E.build.wireCrc with
  | true =>
      simp only [hb, if_true] at h ⊢
      have hv : ¬ (cmdEcho req = E.hdr.opcode .getVersion ∧ declaredLen req = 0) := by
        rintro ⟨hv, h0⟩
        rw [h0] at hdecl
        exact h [] ⟨hlen, by rw [h0]; exact hdecl, .inl ⟨hv, hdecl.symm, rfl⟩⟩
      by_cases h2 : headerBytes + crcBytes ≤ req.length
      · have h2' : headerBytes + 2 ≤ req.length := h2
        have hn : req.length = headerBytes + (req.length - headerBytes - 2) + 2 := by omega
        rw [requestCrc_of_payload hlen hdecl hv h2 hn, hfw]
        refine if_neg fun heq => h _ ⟨hlen, hdecl, .inr ⟨_, ?_, heq, rfl⟩⟩
        rw [List.length_take]
        omega
      · have hlt : ¬ UInt16.ofNat crcBytes ≤ declaredLen req := by
          rw [UInt16.le_iff_toNat_le]
          change ¬ crcBytes ≤ _
          omega
        unfold requestCrc
        simp only [if_pos hlen, if_pos hdecl, if_neg hv, if_neg hlt]
  | false =>
      simp only [hb, Bool.false_eq_true, if_false] at h ⊢
      by_cases hv : cmdEcho req = E.hdr.opcode .getVersion ∧ req.length = headerBytes + crcBytes
      · simp only [if_pos hv] at h
        have h2 : declaredLen req = UInt16.ofNat crcBytes := by
          rw [← UInt16.toNat_inj]
          change (declaredLen req).toNat = crcBytes
          omega
        unfold requestLegacy
        simp only [if_pos hlen, if_pos hdecl, if_pos (And.intro hv.1 h2), crc16TableUpdate,
          Crc16.Memo.updateTable_ensure, hfw]
        refine if_neg fun heq => h [] ⟨hlen, hdecl, (trailer_check hv.2).mp heq, rfl⟩
      · simp only [if_neg hv] at h
        exact absurd ⟨hlen, hdecl, rfl⟩ (h (req.drop headerBytes))

end

/-! ## Frames in motion -/

/-- What can happen next: a frame arrives, over whatever the reply buffer held, or something else
does. -/
inductive FrameAct (η : Type)
  | frame (req : List UInt8) (old : Buf)
  | env (a : Act η)

/-- What such a step shows. -/
inductive FrameEv
  | reply (req bytes : List UInt8)
  | env (e : Ev)

/-- An input of the machine that is not part of handling a frame. -/
def Act.isEnv : Act η → Bool
  | .dispatch _ | .stats _ => false
  | _ => true

/-- One step of the firmware, with frames for requests. -/
def frameStep (E : Env η) (s : Sys η) : FrameAct η → Option (Sys η × FrameEv)
  | .frame req old =>
      let r := protocolBuildReply E (dispatcher E) s.fw req old frameMaxBytes
      some ({ s with fw := r.fw }, .reply req r.bytes)
  | .env a =>
      if a.isEnv then (sysStep E s a).map fun p => (p.1, .env p.2) else none

/-- The firmware as the host sees it. -/
def frameSystem (E : Env η) : Machine (Sys η) (FrameAct η) FrameEv where
  step := frameStep E

section

variable {E : Env η} {s s' : Sys η}

/-- No step touches the CRC table. -/
theorem sysStep_crc {a : Act η} {e : Ev} (h : (system E).step s a = some (s', e)) :
    s'.fw.crc = s.fw.crc := by
  cases a with
  | dispatch req =>
      obtain ⟨rfl, -⟩ := by simpa [system, sysStep] using h
      exact (protocolDispatch_frame req.cmd req.flags).1
  | _ => exact (sysStep_keeps h (by simp)).2.1

/-- The CRC table stays built. -/
theorem crc_ready_of_run {hal : η} {tr : List Ev} (hr : (system E).Run (.boot hal) tr s) :
    s.fw.crc.ready = true := by
  refine hr.invariant (P := fun _ s => s.fw.crc.ready = true) rfl ?_
  intro tr s a s' e h hs
  rw [sysStep_crc hs]
  exact h

/-- An accepted frame is its request's dispatch, counted. -/
private theorem buildReply_fw (hready : s.fw.crc.ready = true) {req payload : List UInt8}
    (h : Accepts E req payload) (old : Buf) :
    ∃ st, (protocolBuildReply E (dispatcher E) s.fw req old frameMaxBytes).fw =
      { (protocolDispatch E s.fw (cmdEcho req) (byteAt req 1) payload E.build.replyDataMax).1 with
        stats := st } := by
  have hcrc := (@protocolDispatch_frame _ E s.fw payload E.build.replyDataMax (cmdEcho req)
    (byteAt req 1)).1
  rw [protocolBuildReply_eq, requestOutcome_eq hready h]
  exact ⟨_, finishReply_fw (cmdEcho req) (by rw [← hready, ← hcrc]; rfl)⟩

/-- A frame that is not accepted is only counted. -/
theorem buildReply_rejected (hready : s.fw.crc.ready = true) (D : Dispatcher η) {req : List UInt8}
    (h : ∀ payload, ¬ Accepts E req payload) (old : Buf) :
    (protocolBuildReply E D s.fw req old frameMaxBytes).bytes =
        encodeReply E (cmdEcho req) (.bare .errProtocol) ∧
      (protocolBuildReply E D s.fw req old frameMaxBytes).fw =
        { s.fw with stats := { s.fw.stats with
            framesErr := s.fw.stats.framesErr + 1, lastError := .errProtocol } } := by
  have hresult : (rejected s.fw old).2.result E.build = .bare .errProtocol := by
    rw [Outcome.result]
    exact if_neg (Nat.not_lt_zero _)
  have hfw := @finishReply_fw _ E (cmdEcho req) (rejected s.fw old) hready
  rw [protocolBuildReply_eq, requestOutcome_rejected hready h, (finishReply_eq _ _).1, hfw, hresult]
  exact ⟨rfl, rfl⟩

/-- A run with frames is a run with requests, to the same state. -/
theorem frame_run_refines {hal : η} {tr : List FrameEv}
    (hr : (frameSystem E).Run (.boot hal) tr s) : ∃ tr', (system E).Run (.boot hal) tr' s := by
  refine hr.invariant (P := fun _ s => ∃ tr', (system E).Run (.boot hal) tr' s) ⟨[], .nil⟩ ?_
  rintro tr s a s' e ⟨tr', hr'⟩ hs
  change frameStep E s a = _ at hs
  have hready := crc_ready_of_run hr'
  cases a with
  | frame req old =>
      simp only [frameStep, Option.some.injEq, Prod.mk.injEq] at hs
      obtain ⟨rfl, -⟩ := hs
      by_cases hacc : ∃ payload, Accepts E req payload
      · obtain ⟨payload, hacc⟩ := hacc
        obtain ⟨st, hfw⟩ := buildReply_fw hready hacc old
        have hd := hr'.snoc (i := .dispatch
          ⟨cmdEcho req, byteAt req 1, payload, E.build.replyDataMax⟩) rfl
        rw [hfw]
        exact ⟨_, hd.snoc (i := .stats st) rfl⟩
      · have hfw := (buildReply_rejected hready (dispatcher E)
          (fun payload h => hacc ⟨payload, h⟩) old).2
        rw [hfw]
        exact ⟨_, hr'.snoc (i := .stats _) rfl⟩
  | env a =>
      simp only [frameStep] at hs
      split_ifs at hs
      obtain ⟨⟨s'', e'⟩, hstep, heq⟩ := Option.map_eq_some_iff.mp hs
      obtain ⟨rfl, -⟩ := Prod.mk.inj heq
      exact ⟨_, hr'.snoc (i := a) hstep⟩

end

/-! ## The guarantee -/

/-- The gate is exact and a rejected frame leaves no trace.  In every state the firmware can reach,
a frame is dispatched exactly if the protocol accepts it, and then with the payload without trailer;
otherwise the reply is a bare `ERR_PROTOCOL` and nothing has changed but the error counter and the
last error, whatever stands behind the gate. -/
theorem request_gate_exact {E : Env η} {hal : η} {tr : List FrameEv} {s : Sys η}
    (hr : (frameSystem E).Run (.boot hal) tr s) (D : Dispatcher η) (req : List UInt8)
    (frame : Buf) :
    (∀ payload, Accepts E req payload →
      protocolBuildReply E D s.fw req frame frameMaxBytes =
        finishReply E (cmdEcho req)
          (D.run s.fw (cmdEcho req) (byteAt req 1) payload E.build.replyDataMax frame)
          frameMaxBytes) ∧
    ((∀ payload, ¬ Accepts E req payload) →
      (protocolBuildReply E D s.fw req frame frameMaxBytes).bytes =
        encodeReply E (cmdEcho req) (.bare .errProtocol) ∧
      (protocolBuildReply E D s.fw req frame frameMaxBytes).fw =
        { s.fw with stats := { s.fw.stats with
            framesErr := s.fw.stats.framesErr + 1, lastError := .errProtocol } }) := by
  obtain ⟨tr', hr'⟩ := frame_run_refines hr
  have hready := crc_ready_of_run hr'
  constructor
  · intro payload h
    rw [protocolBuildReply_eq, requestOutcome_eq hready h]
  · intro h
    exact buildReply_rejected hready D h frame

/-- A `PING` with its trailer is served; the same frame cut short by a byte is not, and leaves the
state as the first left it but for the error counter. -/
theorem request_gate_exact_ping :
    ∃ s tr, (frameSystem .reference).Run (.boot ()) tr s ∧ s.fw.stats.framesOk = 1 ∧
      protocolBuildReply .reference (dispatcher .reference) s.fw [0x00, 0x08, 2, 0, 0x03, 0x4B] .zero
          frameMaxBytes =
        finishReply .reference 0x00
          ((dispatcher .reference).run s.fw 0x00 0x08 [] 4093 .zero) frameMaxBytes ∧
      (protocolBuildReply .reference (dispatcher .reference) s.fw [0x00, 0x08, 2, 0, 0x03] .zero
          frameMaxBytes).bytes = encodeReply .reference 0x00 (.bare .errProtocol) ∧
      (protocolBuildReply .reference (dispatcher .reference) s.fw [0x00, 0x08, 2, 0, 0x03] .zero
          frameMaxBytes).fw =
        { s.fw with stats := { s.fw.stats with
            framesErr := s.fw.stats.framesErr + 1, lastError := .errProtocol } } := by
  have hexec : ((frameSystem .reference).exec (.boot ())
      [.frame [0x00, 0x08, 2, 0, 0x03, 0x4B] .zero]).map (fun p => p.1.fw.stats.framesOk) =
      some 1 := by decide +kernel
  obtain ⟨⟨s, tr⟩, hs, hok⟩ := Option.map_eq_some_iff.mp hexec
  have hr := Machine.run_of_exec hs
  have hgood : Accepts Env.reference [0x00, 0x08, 2, 0, 0x03, 0x4B] [] :=
    ⟨by decide, by decide, .inr ⟨[0x00, 0x08, 2, 0], by decide, by decide +kernel, rfl⟩⟩
  have hbad : ∀ payload, ¬ Accepts Env.reference [0x00, 0x08, 2, 0, 0x03] payload :=
    fun payload h => absurd h.2.1 (by decide)
  exact ⟨s, tr, hr, hok, (request_gate_exact hr (dispatcher .reference) _ .zero).1 [] hgood,
    (request_gate_exact hr (dispatcher .reference) _ .zero).2 hbad⟩

end Cc3501eBridge
