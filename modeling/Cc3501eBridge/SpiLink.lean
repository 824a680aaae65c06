import Cc3501eBridge.SpiSlave
import Cc3501eBridge.RequestGate

/-!
# The slave answers requests

Seen from above, the SPI slave is a function from requests to replies: what it dispatches is a header
it received followed by the payload it received for that header, and what it sends is the reply to the
frame dispatched last.  The four phases, the lengths kept between them and the two buffers are in the
way, and so are the ways out of a transaction: a misframed header, a transfer that fails or is
cancelled, a transfer the driver refuses, a quiesced or re-opened slave.

`PhaseInv` says for each phase what its transfer is and what the buffers hold.  Only the transfer that
is armed, or recorded for `poll_service`, has to meet it: on every way out there is none, and the next
one armed is for a header, of which the invariant asks nothing.
-/

namespace Cc3501eBridge

variable {η : Type}

open Trace

/-! ## The seam -/

namespace SpiSeam

variable {m : SpiSeam} {b : UInt8}

/-- A byte that fits is appended. -/
theorem rxByte_spec (h : m.rxLen < frameMaxBytes) :
    (m.rxByte b).rxLen = m.rxLen + 1 ∧
      (m.rxByte b).rxBuf.read 0 (m.rxLen + 1) = m.rxBuf.read 0 m.rxLen ++ [b] ∧
      (m.rxByte b).txBuf = m.txBuf := by
  rw [rxByte, if_pos h]
  refine ⟨rfl, ?_, rfl⟩
  rw [Buf.read_succ, Buf.read_set_of_ge _ _ (by omega), Nat.zero_add]
  exact congrArg (_ ++ [·]) (Buf.set_self _ _ _)

/-- Bytes fed through the seam stand in its buffer, if they fit. -/
theorem foldl_rxByte (bytes : List UInt8) (m : SpiSeam)
    (h : m.rxLen + bytes.length ≤ frameMaxBytes) :
    (bytes.foldl rxByte m).rxLen = m.rxLen + bytes.length ∧
      (bytes.foldl rxByte m).rxBuf.read 0 (m.rxLen + bytes.length) =
        m.rxBuf.read 0 m.rxLen ++ bytes ∧
      (bytes.foldl rxByte m).txBuf = m.txBuf := by
  induction bytes generalizing m with
  | nil => exact ⟨rfl, by simp, rfl⟩
  | cons b bytes ih =>
      rw [List.length_cons] at h
      obtain ⟨hlen, hread, htx⟩ := @rxByte_spec m b (by omega)
      obtain ⟨hlen', hread', htx'⟩ := ih (m.rxByte b) (by omega)
      have hsum : m.rxLen + (b :: bytes).length = (m.rxByte b).rxLen + bytes.length := by
        rw [hlen, List.length_cons]
        omega
      rw [List.foldl_cons, hsum]
      refine ⟨hlen', ?_, htx'.trans htx⟩
      rw [hread', hlen, hread, List.append_assoc]
      rfl

/-- With a request in the buffer, the reply to it is staged. -/
theorem csHigh_of_request (E : Env η) (D : Dispatcher η) (fw : Fw η) {req : List UInt8}
    (hpos : m.rxLen ≠ 0) (hreq : m.rxBuf.read 0 m.rxLen = req) :
    m.csHigh E D fw =
      ((protocolBuildReply E D fw req m.txBuf frameMaxBytes).fw,
        { m with
          txBuf := (protocolBuildReply E D fw req m.txBuf frameMaxBytes).frame
          txLen := (protocolBuildReply E D fw req m.txBuf frameMaxBytes).length
          txCursor := 0 }) := by
  rw [csHigh, if_neg hpos, hreq]

/-- A reply taken from its beginning is taken whole, if it fits. -/
theorem txTake_of_le (dst : Buf) {cap : Nat} (hpos : 0 < cap) (h0 : m.txCursor = 0)
    (hle : m.txLen ≤ cap) :
    m.txTake dst cap = (dst.write 0 (m.txBuf.read 0 m.txLen), m.txLen,
      { m with txCursor := (UInt16.ofNat m.txLen).toNat }) := by
  rw [txTake, if_neg (by omega), h0]
  simp only [Nat.sub_zero, if_neg (Nat.not_lt.mpr hle), Nat.zero_add]

end SpiSeam

/-- Every reply has a payload, and fits its buffer. -/
theorem protocolBuildReply_length (E : Env η) (D : Dispatcher η) (fw : Fw η) (req : List UInt8)
    (frame : Buf) :
    let r := protocolBuildReply E D fw req frame frameMaxBytes
    headerBytes + 8 ≤ r.length ∧ r.length ≤ frameMaxBytes := by
  intro r
  obtain ⟨len, pad, reply, covered, -, -, hlen, hmax, hval, hdvd, -⟩ :=
    buildReply_wellFormed E D fw req frame
  change r.length = _ at hlen
  have hpos : 8 ≤ len.toNat := by omega
  exact ⟨by omega, hmax⟩

namespace SpiSlave

variable (E : Env η) (D : Dispatcher η)

/-- The reply to the first `n` bytes of `frame_buf`, in the state at hand. -/
def replyTo (s : SpiSlave η) (n : Nat) : BuiltReply η :=
  protocolBuildReply E D s.fw (s.frameBuf.read 0 n) s.seam.txBuf frameMaxBytes

/-- `dispatch_frame` leaves the reply to the frame in `reply_buf`, and everything else but the seam
and the firmware's memory as it was. -/
theorem dispatchFrame_spec (s : SpiSlave η) {n : Nat} (hpos : 0 < n) (hn : n ≤ frameMaxBytes) :
    ∃ seam replyBuf, s.dispatchFrame E D n =
        { s with
          fw := (s.replyTo E D n).fw
          seam := seam
          replyBuf := replyBuf
          replyLen := (s.replyTo E D n).length } ∧
      replyBuf.read 0 (s.replyTo E D n).length = (s.replyTo E D n).bytes := by
  obtain ⟨hlen, hbuf, htx⟩ := SpiSeam.foldl_rxByte (s.frameBuf.read 0 n) s.seam.csLow
    (by simpa [SpiSeam.csLow] using hn)
  have hreply : (s.replyTo E D n).length ≤ frameMaxBytes :=
    (protocolBuildReply_length E D s.fw (s.frameBuf.read 0 n) s.seam.txBuf).2
  have hu16 : (UInt16.ofNat (s.replyTo E D n).length).toNat = (s.replyTo E D n).length := by
    apply UInt16.toNat_ofNat_of_lt'
    unfold frameMaxBytes headerBytes maxPayload at hreply
    unfold UInt16.size
    omega
  -- the request is complete in the seam, so the reply to it is staged there, and taken whole
  have hlen' : ((s.frameBuf.read 0 n).foldl SpiSeam.rxByte s.seam.csLow).rxLen = n := by
    simpa [SpiSeam.csLow] using hlen
  have hreq : ((s.frameBuf.read 0 n).foldl SpiSeam.rxByte s.seam.csLow).rxBuf.read 0
      ((s.frameBuf.read 0 n).foldl SpiSeam.rxByte s.seam.csLow).rxLen = s.frameBuf.read 0 n := by
    rw [hlen']
    simpa [SpiSeam.csLow] using hbuf
  have hhigh := SpiSeam.csHigh_of_request E D s.fw (hlen'.trans_ne (by omega)) hreq
  rw [htx] at hhigh
  have hhigh' : ((s.frameBuf.read 0 n).foldl SpiSeam.rxByte s.seam.csLow).csHigh E D s.fw =
      ((s.replyTo E D n).fw, _) := hhigh
  have hread := @Buf.read_write s.replyBuf 0 (s.replyTo E D n).bytes
  rw [BuiltReply.bytes, Buf.length_read] at hread
  refine ⟨(s.dispatchFrame E D n).seam, _, ?_, hread⟩
  unfold dispatchFrame
  simp only [hhigh']
  rw [SpiSeam.txTake_of_le _ (by decide) rfl hreply]
  simp only [SpiSlave.mk.injEq, true_and, and_true]
  exact ⟨rfl, hu16⟩

end SpiSlave

/-! ## What the history says -/

namespace SpiEv

/-- The frame dispatched in a step, with its reply. -/
def exchange : SpiEv → Option (List UInt8 × List UInt8)
  | .received _ _ d => d
  | _ => none

/-- Something was received. -/
def receives : SpiEv → Bool
  | .received _ _ _ => true
  | _ => false

end SpiEv

/-- The header `h`, received at `j`, waits for its payload. -/
structure OpenHeader (tr : List SpiEv) (j : Nat) (h : List UInt8) : Prop where
  header : tr[j]? = some (.received 0 h none)
  last : ∀ k e, j < k → tr[k]? = some e → e.receives = false

namespace OpenHeader

variable {tr : List SpiEv} {j : Nat} {h : List UInt8} {e : SpiEv}

theorem lt (ho : OpenHeader tr j h) : j < tr.length := (List.getElem?_eq_some_iff.mp ho.header).1

theorem snoc (ho : OpenHeader tr j h) (he : e.receives = false) : OpenHeader (tr ++ [e]) j h := by
  constructor
  · rw [List.getElem?_append_left ho.lt]
    exact ho.header
  · intro k e' hk hk'
    rcases Nat.lt_or_ge k tr.length with hlt | hge
    · rw [List.getElem?_append_left hlt] at hk'
      exact ho.last k e' hk hk'
    · rw [List.getElem?_append_right hge] at hk'
      obtain rfl : e' = e := by simpa using List.mem_of_getElem? hk'
      exact he

theorem of_last : OpenHeader (tr ++ [.received 0 h none]) tr.length h := by
  constructor
  · simp
  · intro k e hk he
    have hlt := (List.getElem?_eq_some_iff.mp he).1
    simp only [List.length_append, List.length_cons, List.length_nil] at hlt
    omega

end OpenHeader

/-- A header that is not taken for a probe. -/
structure Admitted (h : List UInt8) : Prop where
  length : h.length = headerBytes
  opcode : byteAt h 0 < cmdReservedVendorBase

/-- The buffers of the slave, with the lengths kept beside them. -/
structure SpiBufs where
  frameBuf : Buf
  replyBuf : Buf
  replyLen : Nat
  curPayloadLen : UInt16

/-- The buffers in a state. -/
def SpiSlave.bufs (s : SpiSlave η) : SpiBufs where
  frameBuf := s.frameBuf
  replyBuf := s.replyBuf
  replyLen := s.replyLen
  curPayloadLen := s.curPayloadLen

/-- The reply to the frame dispatched last is in `reply_buf`. -/
def Staged (tr : List SpiEv) (b : SpiBufs) : Prop :=
  headerBytes + 8 ≤ b.replyLen ∧
    ∃ f, latest SpiEv.exchange tr = some (f, b.replyBuf.read 0 b.replyLen)

/-- What is so while the transfer `t` of a phase is under way. -/
def PhaseInv (tr : List SpiEv) (b : SpiBufs) (t : SpiTransfer) : SpiPhase → Prop
  | .reqHeader => t = headerTransfer
  | .reqPayload => t = payloadTransfer b.curPayloadLen.toNat ∧ b.curPayloadLen ≠ 0 ∧
      ∃ j h, OpenHeader tr j h ∧ Admitted h ∧ b.frameBuf.read 0 headerBytes = h ∧
        b.curPayloadLen = SpiSlave.clampLen (declaredLen h)
  | .replyHeader => t = replyTransfer 0 headerBytes ∧ Staged tr b
  | .replyPayload =>
      t = replyTransfer headerBytes (b.replyLen - headerBytes) ∧ Staged tr b

/-- What is so when that transfer was completed with `bytes`. -/
def PhaseDone (tr : List SpiEv) (b : SpiBufs) (bytes : List UInt8) : SpiPhase → Prop
  | .reqHeader => b.frameBuf.read 0 headerBytes = bytes
  | .reqPayload => bytes.length = b.curPayloadLen.toNat ∧ ∃ j h, OpenHeader tr j h ∧ Admitted h ∧
      b.curPayloadLen = SpiSlave.clampLen (declaredLen h) ∧
      b.frameBuf.read 0 (headerBytes + b.curPayloadLen.toNat) = h ++ bytes
  | .replyHeader | .replyPayload => Staged tr b

/-- What a completed phase shows. -/
def SpiPhase.shown (phase : SpiPhase) (bytes : List UInt8)
    (dispatched : Option (List UInt8 × List UInt8)) : SpiEv :=
  match phase with
  | .reqHeader => .received 0 bytes dispatched
  | .reqPayload => .received headerBytes bytes dispatched
  | .replyHeader => .tau
  | .replyPayload => .replySent

theorem SpiSlave.toNat_clampLen (declared : UInt16) :
    (SpiSlave.clampLen declared).toNat = min declared.toNat maxPayload := by
  unfold SpiSlave.clampLen
  split_ifs with h
  · rw [gt_iff_lt, UInt16.lt_iff_toNat_lt] at h
    change maxPayload < declared.toNat at h
    rw [Nat.min_eq_right (Nat.le_of_lt h)]
    rfl
  · rw [gt_iff_lt, UInt16.lt_iff_toNat_lt] at h
    change ¬ maxPayload < declared.toNat at h
    rw [Nat.min_eq_left (Nat.not_lt.mp h)]

theorem Staged.snoc {tr : List SpiEv} {b : SpiBufs} {e : SpiEv} (h : Staged tr b)
    (he : e.exchange = none) : Staged (tr ++ [e]) b := by
  obtain ⟨hlen, f, hf⟩ := h
  exact ⟨hlen, f, by rw [latest_snoc, he, Option.none_or, hf]⟩

namespace PhaseInv

variable {tr : List SpiEv} {b : SpiBufs} {s : SpiSlave η} {t : SpiTransfer} {phase : SpiPhase}
  {e : SpiEv}

/-- Steps that receive nothing keep what the history says. -/
theorem snoc (h : PhaseInv tr b t phase) (he : e.receives = false) :
    PhaseInv (tr ++ [e]) b t phase := by
  have hex : e.exchange = none := by
    cases e with
    | received => exact absurd he (by simp [SpiEv.receives])
    | replySent => rfl
    | tau => rfl
  cases phase with
  | reqHeader => exact h
  | reqPayload =>
      obtain ⟨ht, hne, j, hdr, ho, hrest⟩ := h
      exact ⟨ht, hne, j, hdr, ho.snoc he, hrest⟩
  | replyHeader => exact ⟨h.1, h.2.snoc hex⟩
  | replyPayload => exact ⟨h.1, h.2.snoc hex⟩

/-- Every transfer clocks something. -/
theorem count_pos (h : PhaseInv tr b t phase) : 1 ≤ t.count := by
  cases phase with
  | reqHeader =>
      obtain rfl := h
      decide
  | reqPayload =>
      obtain ⟨rfl, hne, -⟩ := h
      change 1 ≤ b.curPayloadLen.toNat
      rw [Nat.one_le_iff_ne_zero]
      exact fun h0 => hne (UInt16.toNat_inj.mp h0)
  | replyHeader =>
      obtain ⟨rfl, -⟩ := h
      decide
  | replyPayload =>
      obtain ⟨rfl, hlen, -⟩ := h
      change 1 ≤ b.replyLen - headerBytes
      omega

/-- What is received stays within `frame_buf`. -/
theorem rx_le (h : PhaseInv tr b t phase) {off : Nat} (hoff : t.rx = some off) :
    off + t.count ≤ frameMaxBytes := by
  cases phase with
  | reqHeader =>
      obtain rfl := h
      obtain rfl : 0 = off := by simpa [headerTransfer] using hoff
      decide
  | reqPayload =>
      obtain ⟨rfl, -, j, hdr, -, -, -, hlen⟩ := h
      obtain rfl : headerBytes = off := by simpa [payloadTransfer] using hoff
      have hclamp := SpiSlave.toNat_clampLen (declaredLen hdr)
      rw [← hlen] at hclamp
      change headerBytes + b.curPayloadLen.toNat ≤ headerBytes + maxPayload
      omega
  | replyHeader =>
      obtain ⟨rfl, -⟩ := h
      simp [replyTransfer] at hoff
  | replyPayload =>
      obtain ⟨rfl, -⟩ := h
      simp [replyTransfer] at hoff

/-- Bytes that arrive do not disturb what the phase relies on. -/
theorem store (h : PhaseInv tr s.bufs t phase) (bytes : List UInt8) :
    PhaseInv tr (s.store t bytes).bufs t phase := by
  cases phase with
  | reqHeader => exact h
  | reqPayload =>
      obtain ⟨rfl, hne, j, hdr, ho, ha, hread, hlen⟩ := h
      refine ⟨rfl, hne, j, hdr, ho, ha, ?_, hlen⟩
      change (s.frameBuf.write headerBytes bytes).read 0 headerBytes = hdr
      rw [Buf.read_write_of_disjoint (.inl (by simp))]
      exact hread
  | replyHeader =>
      obtain ⟨rfl, hst⟩ := h
      exact ⟨rfl, hst⟩
  | replyPayload =>
      obtain ⟨rfl, hst⟩ := h
      exact ⟨rfl, hst⟩

/-- The transfer is completed. -/
theorem done (h : PhaseInv tr s.bufs t phase) {bytes : List UInt8} (hlen : bytes.length = t.count) :
    PhaseDone tr (s.store t bytes).bufs bytes phase := by
  cases phase with
  | reqHeader =>
      obtain rfl := h
      change (s.frameBuf.write 0 bytes).read 0 headerBytes = bytes
      rw [show headerBytes = bytes.length from hlen.symm]
      exact Buf.read_write
  | reqPayload =>
      obtain ⟨rfl, -, j, hdr, ho, ha, hread, hclamp⟩ := h
      have hlen' : bytes.length = s.curPayloadLen.toNat := hlen
      refine ⟨hlen', j, hdr, ho, ha, hclamp, ?_⟩
      change (s.frameBuf.write headerBytes bytes).read 0 (headerBytes + s.curPayloadLen.toNat) = _
      rw [← hlen', Buf.read_write_end]
      exact congrArg (· ++ bytes) hread
  | replyHeader =>
      obtain ⟨rfl, hst⟩ := h
      exact hst
  | replyPayload =>
      obtain ⟨rfl, hst⟩ := h
      exact hst

/-- What a completed transfer shows depends on the phase only. -/
theorem shown_eq (h : PhaseInv tr b t phase) (bytes : List UInt8)
    (out : Option (List UInt8 × List UInt8)) : t.shown phase bytes out = phase.shown bytes out := by
  cases phase with
  | reqHeader =>
      obtain rfl := h
      rfl
  | reqPayload =>
      obtain ⟨rfl, -⟩ := h
      rfl
  | replyHeader =>
      obtain ⟨rfl, -⟩ := h
      rfl
  | replyPayload =>
      obtain ⟨rfl, -⟩ := h
      rfl

end PhaseInv

/-! ## Arming -/

/-- `s'` is `s` in the phase `phase` and with the buffers `b`, after an attempt to arm `t`: it was
refused, or recorded, or armed. -/
structure Arms (polled : Bool) (phase : SpiPhase) (t : SpiTransfer) (b : SpiBufs)
    (s s' : SpiSlave η) : Prop where
  phase : s'.phase = phase
  bufs : s'.bufs = b
  isOpen : s'.isOpen = s.isOpen
  polling : s'.polling = s.polling
  quiesce : s'.quiesce = s.quiesce
  transfer : (s'.armed = s.armed ∧ s'.pend = s.pend) ∨
    (polled = true ∧ s'.armed = s.armed ∧ s'.pend = some t) ∨
    (polled = false ∧ s'.armed = some t ∧ s'.pend = s.pend)

section

variable (polled ok : Bool) (s : SpiSlave η) (phase : SpiPhase) (t : SpiTransfer)

theorem armTransfer_arms :
    Arms polled phase t s.bufs s
      (({ s with phase := phase } : SpiSlave η).armTransfer polled ok t).1 := by
  unfold SpiSlave.armTransfer
  split_ifs with hq hp hok
  · exact ⟨rfl, rfl, rfl, rfl, rfl, .inl ⟨rfl, rfl⟩⟩
  · exact ⟨rfl, rfl, rfl, rfl, rfl, .inr (.inl ⟨hp, rfl, rfl⟩)⟩
  · exact ⟨rfl, rfl, rfl, rfl, rfl, .inr (.inr ⟨by simpa using hp, rfl, rfl⟩)⟩
  · exact ⟨rfl, rfl, rfl, rfl, rfl, .inl ⟨rfl, rfl⟩⟩

theorem armRequestHeader_arms :
    Arms polled .reqHeader headerTransfer s.bufs s (s.armRequestHeader polled ok) :=
  armTransfer_arms polled ok s .reqHeader headerTransfer

theorem armWatched_arms : Arms polled phase t s.bufs s (s.armWatched polled ok phase t) := by
  obtain ⟨h1, h2, h3, h4, h5, h6⟩ := armTransfer_arms polled ok s phase t
  exact ⟨h1, h2, h3, h4, h5, h6⟩

end

/-- No transfer is under way. -/
structure Idle (polled : Bool) (s : SpiSlave η) : Prop where
  armed : s.armed = none
  pend : s.pend = none
  quiet : polled = true → s.quiesce = false

/-- The code is done: the transfer it armed or recorded, if any, meets its phase. -/
structure Settled (polled : Bool) (tr : List SpiEv) (s : SpiSlave η) : Prop where
  current : ∀ t, s.armed = some t ∨ s.pend = some t → PhaseInv tr s.bufs t s.phase
  armed : polled = true → s.armed = none
  pend : polled = false → s.pend = none
  quiet : polled = true → s.quiesce = false

namespace Idle

variable {polled : Bool} {tr : List SpiEv} {s s' : SpiSlave η} {t : SpiTransfer} {b : SpiBufs}
  {phase : SpiPhase}

theorem settled (h : Idle polled s) : Settled polled tr s := by
  refine ⟨?_, fun _ => h.armed, fun _ => h.pend, h.quiet⟩
  rintro t (ht | ht)
  · simp [h.armed] at ht
  · simp [h.pend] at ht

/-- A transfer that meets its phase may be armed. -/
theorem arms (h : Idle polled s) (ha : Arms polled phase t b s s') (ht : PhaseInv tr b t phase) :
    Settled polled tr s' := by
  have hquiet : polled = true → s'.quiesce = false := fun hp => ha.quiesce.trans (h.quiet hp)
  rcases ha.transfer with ⟨harmed, hpend⟩ | ⟨hp, harmed, hpend⟩ | ⟨hp, harmed, hpend⟩
  · exact settled ⟨harmed.trans h.armed, hpend.trans h.pend, hquiet⟩
  · refine ⟨?_, fun _ => harmed.trans h.armed, fun hp' => by simp [hp] at hp', hquiet⟩
    rintro t' (ht' | ht')
    · simp [harmed, h.armed] at ht'
    · obtain rfl : t = t' := by simpa [hpend] using ht'
      rwa [ha.bufs, ha.phase]
  · refine ⟨?_, fun hp' => by simp [hp] at hp', fun _ => hpend.trans h.pend, hquiet⟩
    rintro t' (ht' | ht')
    · obtain rfl : t = t' := by simpa [harmed] using ht'
      rwa [ha.bufs, ha.phase]
    · simp [hpend, h.pend] at ht'

end Idle

/-! ## From one phase to the next -/

/-- What `on_transfer` does with a completed transfer. -/
inductive Advanced (E : Env η) (D : Dispatcher η) (polled : Bool) (s : SpiSlave η) :
    SpiSlave η → Option (List UInt8 × List UInt8) → Prop
  | /-- The header is a probe. -/
    probe {s' : SpiSlave η} : s.phase = .reqHeader →
      Arms polled .reqHeader headerTransfer s.bufs s s' → Advanced E D polled s s' none
  | /-- The header announces a payload. -/
    header {s' : SpiSlave η} {plen : UInt16} : s.phase = .reqHeader →
      s.frameBuf 0 < cmdReservedVendorBase →
      plen = SpiSlave.clampLen (getLe16 (s.frameBuf 2) (s.frameBuf 3)) → plen ≠ 0 →
      Arms polled .reqPayload (payloadTransfer plen.toNat) { s.bufs with curPayloadLen := plen } s s' →
      Advanced E D polled s s' none
  | /-- The frame is complete with its first `n` bytes. -/
    frame {s' : SpiSlave η} {n : Nat} {b : SpiBufs} :
      (s.phase = .reqHeader ∧ s.frameBuf 0 < cmdReservedVendorBase ∧
          SpiSlave.clampLen (getLe16 (s.frameBuf 2) (s.frameBuf 3)) = 0 ∧ n = headerBytes) ∨
        (s.phase = .reqPayload ∧ n = headerBytes + s.curPayloadLen.toNat) →
      b.replyLen = (s.replyTo E D n).length →
      b.replyBuf.read 0 b.replyLen = (s.replyTo E D n).bytes →
      Arms polled .replyHeader (replyTransfer 0 headerBytes) b s s' →
      Advanced E D polled s s' (some (s.frameBuf.read 0 n, (s.replyTo E D n).bytes))
  | /-- The reply's header was sent. -/
    replyHeader {s' : SpiSlave η} : s.phase = .replyHeader →
      Arms polled .replyPayload (replyTransfer headerBytes (s.replyLen - headerBytes)) s.bufs s s' →
      Advanced E D polled s s' none
  | /-- The reply was sent. -/
    replyPayload {s' : SpiSlave η} : s.phase = .replyPayload →
      Arms polled .reqHeader headerTransfer s.bufs s s' → Advanced E D polled s s' none

section

variable (E : Env η) (D : Dispatcher η) {polled ok : Bool} {s : SpiSlave η}

/-- A dispatch, and the reply header armed after it. -/
theorem dispatchFrame_arms (s : SpiSlave η) {n : Nat} (hpos : 0 < n) (hn : n ≤ frameMaxBytes) :
    ∃ b : SpiBufs, b.replyLen = (s.replyTo E D n).length ∧
      b.replyBuf.read 0 b.replyLen = (s.replyTo E D n).bytes ∧
      Arms polled .replyHeader (replyTransfer 0 headerBytes) b s
        ((s.dispatchFrame E D n).armWatched polled ok .replyHeader (replyTransfer 0 headerBytes)) ∧
      (s.dispatchFrame E D n).exchanged n = (s.frameBuf.read 0 n, (s.replyTo E D n).bytes) := by
  obtain ⟨seam, replyBuf, heq, hread⟩ := s.dispatchFrame_spec E D hpos hn
  have ha := armWatched_arms polled ok (s.dispatchFrame E D n) .replyHeader
    (replyTransfer 0 headerBytes)
  rw [heq] at ha ⊢
  refine ⟨_, rfl, hread, ⟨ha.phase, ha.bufs, ha.isOpen, ha.polling, ha.quiesce, ha.transfer⟩, ?_⟩
  exact congrArg (Prod.mk _) hread

theorem advance_advanced (hlen : s.phase = .reqPayload → s.curPayloadLen.toNat ≤ maxPayload) :
    Advanced E D polled s (s.advance E D polled ok).1 (s.advance E D polled ok).2 := by
  rw [SpiSlave.advance]
  split
  next hphase =>
    simp only []
    split_ifs with hop hplen
    · have ha := armRequestHeader_arms polled ok
        ({ s with resyncCount := s.resyncCount + 1 } : SpiSlave η)
      exact .probe hphase ⟨ha.phase, ha.bufs, ha.isOpen, ha.polling, ha.quiesce, ha.transfer⟩
    · obtain ⟨b, hb, hread, ha, hex⟩ := @dispatchFrame_arms _ E D polled ok
        { s with curPayloadLen := SpiSlave.clampLen (getLe16 (s.frameBuf 2) (s.frameBuf 3)) }
        headerBytes (by decide) (by decide)
      rw [hex]
      exact .frame (.inl ⟨hphase, UInt8.not_le.mp hop, hplen, rfl⟩) hb hread
        ⟨ha.phase, ha.bufs, ha.isOpen, ha.polling, ha.quiesce, ha.transfer⟩
    · have ha := armWatched_arms polled ok
        ({ s with curPayloadLen := SpiSlave.clampLen (getLe16 (s.frameBuf 2) (s.frameBuf 3)) } :
          SpiSlave η) .reqPayload
        (payloadTransfer (SpiSlave.clampLen (getLe16 (s.frameBuf 2) (s.frameBuf 3))).toNat)
      exact .header hphase (UInt8.not_le.mp hop) rfl hplen
        ⟨ha.phase, ha.bufs, ha.isOpen, ha.polling, ha.quiesce, ha.transfer⟩
  next hphase =>
    obtain ⟨b, hb, hread, ha, hex⟩ := @dispatchFrame_arms _ E D polled ok s
      (headerBytes + s.curPayloadLen.toNat) (Nat.add_pos_left (by decide) _)
      (Nat.add_le_add_left (hlen hphase) _)
    simp only [hex]
    exact .frame (.inr ⟨hphase, rfl⟩) hb hread ha
  next hphase => exact .replyHeader hphase (armWatched_arms polled ok s _ _)
  next hphase => exact .replyPayload hphase (armRequestHeader_arms polled ok s)

/-- The bytes of a header in the frame buffer. -/
theorem byteAt_read {b : Buf} {n i : Nat} (hi : i < n) : byteAt (b.read 0 n) i = b i := by
  rw [byteAt, List.getD_eq_getElem?_getD, Buf.getElem?_read, if_pos hi, Nat.zero_add, Option.getD_some]

variable {E D} {tr : List SpiEv} {s' : SpiSlave η} {bytes : List UInt8}
  {out : Option (List UInt8 × List UInt8)}

/-- The next phase starts as it should. -/
theorem Advanced.settled (h : Advanced E D polled s s' out) (hidle : Idle polled s)
    (hdone : PhaseDone tr s.bufs bytes s.phase) :
    Settled polled (tr ++ [s.phase.shown bytes out]) s' := by
  cases h with
  | probe hphase ha => exact hidle.arms ha rfl
  | header hphase hop hplen hne ha =>
      rw [hphase] at hdone ⊢
      have hdone' : s.frameBuf.read 0 headerBytes = bytes := hdone
      refine hidle.arms ha ⟨rfl, hne, tr.length, bytes, .of_last, ⟨?_, ?_⟩, hdone', ?_⟩
      · rw [← hdone', Buf.length_read]
      · rwa [← hdone', byteAt_read (by decide)]
      · rw [← hdone', declaredLen, byteAt_read (by decide), byteAt_read (by decide)]
        exact hplen
  | @frame n b hwhole hlen hread ha =>
      refine hidle.arms ha ⟨rfl, ?_, s.frameBuf.read 0 n, ?_⟩
      · rw [hlen]
        exact (protocolBuildReply_length E D s.fw _ _).1
      · rw [latest_snoc, hread]
        rcases hwhole with ⟨hphase, -⟩ | ⟨hphase, -⟩ <;> rw [hphase] <;> rfl
  | replyHeader hphase ha =>
      rw [hphase] at hdone ⊢
      have hst : Staged tr s.bufs := hdone
      exact hidle.arms ha ⟨rfl, hst.snoc rfl⟩
  | replyPayload hphase ha => exact hidle.arms ha rfl

/-- What does not change from one phase to the next. -/
theorem Advanced.kept (h : Advanced E D polled s s' out) :
    s'.isOpen = s.isOpen ∧ s'.polling = s.polling := by
  cases h with
  | probe _ ha => exact ⟨ha.isOpen, ha.polling⟩
  | header _ _ _ _ ha => exact ⟨ha.isOpen, ha.polling⟩
  | frame _ _ _ ha => exact ⟨ha.isOpen, ha.polling⟩
  | replyHeader _ ha => exact ⟨ha.isOpen, ha.polling⟩
  | replyPayload _ ha => exact ⟨ha.isOpen, ha.polling⟩

theorem PhaseDone.curPayloadLen_le {b : SpiBufs} (h : PhaseDone tr b bytes .reqPayload) :
    b.curPayloadLen.toNat ≤ maxPayload := by
  obtain ⟨-, j, hdr, -, -, hlen, -⟩ := h
  rw [hlen, SpiSlave.toNat_clampLen]
  exact Nat.min_le_right _ _

/-- `on_transfer` leaves the slave settled, however the transfer ended. -/
theorem onTransfer_settled {status : SpiStatus} (hidle : Idle polled s)
    (hdone : status = .completed → PhaseDone tr s.bufs bytes s.phase) :
    let r := s.onTransfer E D polled ok status
    Settled polled (tr ++ [if status = .completed then s.phase.shown bytes r.2 else .tau]) r.1 ∧
      r.1.isOpen = s.isOpen ∧ r.1.polling = s.polling := by
  have hidle' : Idle polled ({ s with replyArmed := false, ready := false } : SpiSlave η) :=
    ⟨hidle.armed, hidle.pend, hidle.quiet⟩
  cases status with
  | completed =>
      have hadv := @advance_advanced _ E D polled ok { s with replyArmed := false, ready := false }
        fun hphase => by
          have hd := hdone rfl
          rw [show s.phase = .reqPayload from hphase] at hd
          exact hd.curPayloadLen_le
      exact ⟨hadv.settled hidle' (hdone rfl), hadv.kept⟩
  | canceled => exact ⟨hidle'.settled, rfl, rfl⟩
  | failed =>
      have ha := armRequestHeader_arms polled ok
        ({ s with replyArmed := false, ready := false } : SpiSlave η)
      exact ⟨hidle'.arms ha rfl, ha.isOpen, ha.polling⟩

end

/-! ## The invariant -/

/-- What every run keeps true of the slave. -/
structure SpiInv (polled : Bool) (tr : List SpiEv) (s : SpiSlave η) : Prop where
  current : ∀ t, s.armed = some t ∨ s.pend = some t → PhaseInv tr s.bufs t s.phase
  callback : polled = false → s.pend = none ∧ s.polling = none
  quiet : polled = true → s.quiesce = false
  /-- In update mode the driver has a transfer exactly while `poll_service` waits for it. -/
  turn : polled = true → (s.armed = none ↔ s.polling = none)
  exclusive : s.armed = none ∨ s.pend = none
  closed : s.isOpen = false → s.armed = none ∧ s.pend = none

namespace Settled

variable {polled : Bool} {tr : List SpiEv} {s : SpiSlave η}

/-- Outside `poll_service` a settled slave is as it should be. -/
theorem inv (h : Settled polled tr s) (hpolling : s.polling = none)
    (hopen : s.isOpen = false → s.armed = none ∧ s.pend = none) : SpiInv polled tr s := by
  refine ⟨h.current, fun hp => ⟨h.pend hp, hpolling⟩, h.quiet, ?_, ?_, hopen⟩
  · intro hp
    simp [h.armed hp, hpolling]
  · cases polled with
    | true => exact .inl (h.armed rfl)
    | false => exact .inr (h.pend rfl)

/-- Inside `poll_service` the recorded transfer goes to the driver. -/
theorem pollNext (h : Settled true tr s) (hopen : s.isOpen = true) (turns : Nat) :
    SpiInv true tr (s.pollNext turns) := by
  have hleave : SpiInv true tr ({ s with polling := none } : SpiSlave η) :=
    inv ⟨h.current, h.armed, h.pend, h.quiet⟩ rfl (by simp [hopen])
  unfold SpiSlave.pollNext
  split
  next n t hpend =>
    refine ⟨?_, by simp, h.quiet, by simp, .inr rfl, by simp [hopen]⟩
    rintro t' (ht' | ht')
    · obtain rfl : t = t' := by simpa using ht'
      exact h.current t (.inr hpend)
    · simp at ht'
  next => exact hleave

end Settled

namespace SpiInv

variable {E : Env η} {D : Dispatcher η} {polled : Bool} {tr : List SpiEv} {s s' : SpiSlave η}
  {e : SpiEv}

/-- A step that leaves the transfer under way and its buffers alone. -/
private theorem keep (h : SpiInv polled tr s) (he : e.receives = false) (hphase : s'.phase = s.phase)
    (hbufs : ∀ t, s.armed = some t ∨ s.pend = some t → PhaseInv tr s'.bufs t s.phase)
    (harmed : s'.armed = s.armed) (hpend : s'.pend = s.pend) (hpolling : s'.polling = s.polling)
    (hquiet : polled = true → s'.quiesce = s.quiesce) (hopen : s'.isOpen = s.isOpen) :
    SpiInv polled (tr ++ [e]) s' := by
  refine ⟨?_, ?_, ?_, ?_, ?_, ?_⟩
  · rw [harmed, hpend, hphase]
    exact fun t ht => (hbufs t ht).snoc he
  · rw [hpend, hpolling]
    exact h.callback
  · intro hp
    rw [hquiet hp]
    exact h.quiet hp
  · rw [harmed, hpolling]
    exact h.turn
  · rw [harmed, hpend]
    exact h.exclusive
  · rw [hopen, harmed, hpend]
    exact h.closed

/-- An open slave may be armed afresh once no transfer is under way. -/
private theorem close_idle (h : SpiInv polled tr s) (hno : ¬ (polled = true ∧ s.isOpen = true)) :
    Idle polled s.close ∧ s.close.polling = none := by
  cases hopen : s.isOpen with
  | true =>
      have hp : polled = false := by
        cases polled with
        | true => exact absurd ⟨rfl, hopen⟩ hno
        | false => rfl
      obtain ⟨hpend, hpolling⟩ := h.callback hp
      rw [SpiSlave.close, if_pos hopen]
      exact ⟨⟨rfl, hpend, by simp [hp]⟩, hpolling⟩
  | false =>
      obtain ⟨harmed, hpend⟩ := h.closed hopen
      rw [SpiSlave.close, if_neg (by simp [hopen])]
      refine ⟨⟨harmed, hpend, h.quiet⟩, ?_⟩
      cases polled with
      | true => exact (h.turn rfl).mp harmed
      | false => exact (h.callback rfl).2

/-- The slave waits for a request. -/
private theorem rearmed (hidle : Idle polled s) (hpolling : s.polling = none) (hopen : s.isOpen = true)
    (ok : Bool) : SpiInv polled tr (s.armRequestHeader polled ok) := by
  have ha := armRequestHeader_arms polled ok s
  refine (hidle.arms ha rfl).inv (ha.polling.trans hpolling) fun hno => ?_
  rw [ha.isOpen, hopen] at hno
  exact Bool.noConfusion hno

/-- The slave has no transfer and arms none. -/
private theorem resting (hidle : Idle polled s) (hpolling : s.polling = none) : SpiInv polled tr s :=
  hidle.settled.inv hpolling fun _ => ⟨hidle.armed, hidle.pend⟩

private theorem same (h : SpiInv polled tr s) (he : e.receives = false) :
    SpiInv polled (tr ++ [e]) s :=
  h.keep he rfl (fun t ht => h.current t ht) rfl rfl rfl (fun _ => rfl) rfl

private theorem reinit_step (h : SpiInv polled tr s) (opens ok : Bool) :
    SpiInv polled (tr ++ [.tau]) (s.hwReinit polled opens ok) := by
  unfold SpiSlave.hwReinit
  split_ifs with hno
  · exact h.same rfl
  · obtain ⟨⟨harmed, hpend, hquiet⟩, hpolling⟩ := h.close_idle hno
    cases opens with
    | true =>
        refine rearmed ?_ ?_ rfl ok
        · exact ⟨harmed, hpend, hquiet⟩
        · exact hpolling
    | false =>
        refine resting ?_ ?_
        · exact ⟨harmed, hpend, hquiet⟩
        · exact hpolling

/-- The handle is closed until the next re-init. -/
private theorem closed_step (h : SpiInv polled tr s) (hp : ¬ polled = true) :
    SpiInv polled (tr ++ [.tau])
      ({ s.close with phase := .reqHeader, replyArmed := false } : SpiSlave η) := by
  obtain ⟨⟨harmed, hpend, hquiet⟩, hpolling⟩ := h.close_idle fun hpo => hp hpo.1
  exact resting ⟨harmed, hpend, hquiet⟩ hpolling

private theorem release_step (h : SpiInv polled tr s) :
    SpiInv polled (tr ++ [.tau]) (s.hwRelease polled) := by
  unfold SpiSlave.hwRelease
  split_ifs with hp
  · exact h.same rfl
  · exact h.closed_step hp

private theorem suspend_step (h : SpiInv polled tr s) :
    SpiInv polled (tr ++ [.tau]) (s.hwSuspend E D polled) := by
  unfold SpiSlave.hwSuspend
  by_cases hp : polled = true
  · rw [if_pos hp]
    exact h.same rfl
  · rw [if_neg hp]
    obtain ⟨hpend, hpolling⟩ := h.callback (by simpa using hp)
    apply closed_step _ hp
    split_ifs
    · -- the callback of the cancelled transfer arms nothing
      exact resting ⟨rfl, hpend, h.quiet⟩ hpolling
    · exact h

/-- The blocking transfer of `poll_service` returned. -/
private theorem pollReturn_step {bytes : List UInt8} (hidle : Idle true s) (hopen : s.isOpen = true)
    (turns : Nat) {returned : Bool} (hdone : returned = true → PhaseDone tr s.bufs bytes s.phase) :
    SpiInv true (tr ++ [if returned = true then s.phase.shown bytes (s.pollReturn E D turns returned).2
      else .tau]) (s.pollReturn E D turns returned).1 := by
  cases returned with
  | true =>
      obtain ⟨hset, hopen', hpolling'⟩ := @onTransfer_settled _ E D true true
        { s with ready := false } tr bytes .completed ⟨hidle.armed, hidle.pend, hidle.quiet⟩
        fun _ => hdone rfl
      have hopen'' := hopen'.trans hopen
      simp only [SpiSlave.pollReturn, if_true]
      split_ifs with hphase
      · refine Settled.inv ?_ rfl fun hno => ?_
        · exact ⟨hset.current, hset.armed, hset.pend, hset.quiet⟩
        · exact Bool.noConfusion (hno.symm.trans hopen'')
      · exact hset.pollNext hopen'' turns
  | false =>
      have ha := armRequestHeader_arms true true
        ({ s with armFailCount := s.armFailCount + 1 } : SpiSlave η)
      have hidle' : Idle true ({ s with armFailCount := s.armFailCount + 1 } : SpiSlave η) :=
        ⟨hidle.armed, hidle.pend, hidle.quiet⟩
      have hset : Settled true (tr ++ [SpiEv.tau]) _ := hidle'.arms ha rfl
      refine Settled.inv ?_ rfl fun hno => ?_
      · exact ⟨hset.current, hset.armed, hset.pend, hset.quiet⟩
      · exact Bool.noConfusion (hno.symm.trans (ha.isOpen.trans hopen))

private theorem finish_step (h : SpiInv polled tr s) {t : SpiTransfer} (ht : s.armed = some t)
    {status : SpiStatus} {bytes : List UInt8} (hlen : status = .completed → bytes.length = t.count)
    (ok : Bool) :
    SpiInv polled (tr ++ [(finishTransfer E D s t status bytes ok).2])
      (finishTransfer E D s t status bytes ok).1 := by
  have hinv := h.current t (.inl ht)
  have hopen : s.isOpen = true := by
    by_contra hno
    simp [(h.closed (by simpa using hno)).1] at ht
  have hpend : s.pend = none := h.exclusive.resolve_left (by simp [ht])
  have hidle : Idle polled (({ s with armed := none } : SpiSlave η).store t bytes) :=
    ⟨rfl, hpend, h.quiet⟩
  have hdone : status = .completed →
      PhaseDone tr (({ s with armed := none } : SpiSlave η).store t bytes).bufs bytes s.phase :=
    fun hs => PhaseInv.done (s := { s with armed := none }) hinv (hlen hs)
  simp only [finishTransfer, hinv.shown_eq]
  generalize hs₁ : ({ s with armed := none } : SpiSlave η).store t bytes = s₁ at hidle hdone
  have hphase : s₁.phase = s.phase := by rw [← hs₁]; rfl
  have hpolling : s₁.polling = s.polling := by rw [← hs₁]; rfl
  have hopen₁ : s₁.isOpen = true := by rw [← hs₁]; exact hopen
  rw [← hphase] at hdone ⊢
  cases polled with
  | true =>
      obtain ⟨turns, hturns⟩ : ∃ turns, s₁.polling = some turns := by
        rw [hpolling, ← Option.ne_none_iff_exists']
        exact fun hno => by simp [(h.turn rfl).mpr hno] at ht
      have hpoll := @pollReturn_step _ E D tr s₁ bytes hidle hopen₁ turns
        (decide (status = .completed)) fun hs => hdone (of_decide_eq_true hs)
      simpa only [SpiSlave.resume, hturns, decide_eq_true_eq] using hpoll
  | false =>
      have hnone : s₁.polling = none := hpolling.trans (h.callback rfl).2
      obtain ⟨hset, hopen', hpolling'⟩ := @onTransfer_settled _ E D false ok _ tr bytes status
        hidle hdone
      simp only [SpiSlave.resume, hnone]
      exact hset.inv (hpolling'.trans hnone) fun hno =>
        Bool.noConfusion (hno.symm.trans (hopen'.trans hopen₁))

/-- The invariant is kept by every step. -/
theorem step {a : SpiAct η} (h : SpiInv polled tr s)
    (hs : spiStep E D polled s a = some (s', e)) : SpiInv polled (tr ++ [e]) s' := by
  cases a with
  | fw fw =>
      obtain ⟨rfl, rfl⟩ : { s with fw := fw } = s' ∧ .tau = e := by simpa [spiStep] using hs
      exact h.keep rfl rfl (fun t ht => h.current t ht) rfl rfl rfl (fun _ => rfl) rfl
  | clocked bytes =>
      cases harmed : s.armed with
      | none => simp [spiStep, harmed] at hs
      | some t =>
          simp only [spiStep, harmed] at hs
          split_ifs at hs
          obtain ⟨rfl, rfl⟩ : s.store t bytes = s' ∧ .tau = e := by simpa using hs
          refine h.keep rfl rfl ?_ rfl rfl rfl (fun _ => rfl) rfl
          intro t' ht'
          have hpend : s.pend = none := h.exclusive.resolve_left (by simp [harmed])
          obtain rfl : t = t' := by simpa [harmed, hpend] using ht'
          exact (h.current t ht').store bytes
  | finish status bytes ok =>
      cases harmed : s.armed with
      | none => simp [spiStep, harmed] at hs
      | some t =>
          simp only [spiStep, harmed] at hs
          split_ifs at hs with hlen
          have heq := Option.some.inj hs
          have hstep := @finish_step _ E D polled tr s h t harmed status bytes hlen.2 ok
          rwa [heq] at hstep
  | quiesce on =>
      obtain ⟨rfl, rfl⟩ : s.hwQuiesce polled on = s' ∧ .tau = e := by simpa [spiStep] using hs
      unfold SpiSlave.hwQuiesce
      split_ifs with hp
      · exact h.same rfl
      · exact h.keep rfl rfl (fun t ht => h.current t ht) rfl rfl rfl (fun hp' => absurd hp' hp) rfl
  | reinit opens ok =>
      obtain ⟨rfl, rfl⟩ : s.hwReinit polled opens ok = s' ∧ .tau = e := by simpa [spiStep] using hs
      exact h.reinit_step opens ok
  | release =>
      obtain ⟨rfl, rfl⟩ : s.hwRelease polled = s' ∧ .tau = e := by simpa [spiStep] using hs
      exact h.release_step
  | suspend =>
      obtain ⟨rfl, rfl⟩ : s.hwSuspend E D polled = s' ∧ .tau = e := by simpa [spiStep] using hs
      exact h.suspend_step
  | pollService =>
      simp only [spiStep] at hs
      split_ifs at hs with hg
      obtain ⟨rfl, hopen, hnone, -⟩ := hg
      obtain ⟨rfl, rfl⟩ : s.pollNext pollTurns = s' ∧ .tau = e := by simpa using hs
      have h' := h.same (e := .tau) rfl
      have hset : Settled true (tr ++ [.tau]) s :=
        ⟨h'.current, fun _ => (h.turn rfl).mpr hnone, by simp, h.quiet⟩
      exact hset.pollNext hopen pollTurns

/-- Before anything happened. -/
theorem boot (fw : Fw η) : SpiInv polled [] (.boot fw) :=
  resting ⟨rfl, rfl, fun _ => rfl⟩ rfl

/-- The slave along every run. -/
theorem of_run {fw : Fw η} (hr : (spiSystem E D polled).Run (.boot fw) tr s) : SpiInv polled tr s :=
  Machine.Run.invariant hr (boot fw) fun _ _ _ _ _ h hs => h.step hs

end SpiInv

/-! ## The guarantee -/

/-- The frame `f` dispatched at `i` consists of the header `h` received at `j` and the payload `p`
received for it: the next thing received, unless the header announces no payload. -/
structure RequestAt (tr : List SpiEv) (j i : Nat) (h p f : List UInt8) : Prop where
  frame : f = h ++ p
  header : h.length = headerBytes
  payload : p.length = min (declaredLen h).toNat maxPayload
  opcode : byteAt h 0 < cmdReservedVendorBase
  captured : (j = i ∧ p = [] ∧ ∃ d, tr[i]? = some (.received 0 h d)) ∨
    (j < i ∧ tr[j]? = some (.received 0 h none) ∧ (∃ d, tr[i]? = some (.received headerBytes p d)) ∧
      ∀ k e, j < k → k < i → tr[k]? = some e → e.receives = false)

/-- One header is dispatched at one place only. -/
theorem RequestAt.unique {tr : List SpiEv} {j i i' : Nat} {h p f h' p' f' : List UInt8}
    {off off' : Nat} {bytes bytes' : List UInt8} {x x' : List UInt8 × List UInt8}
    (hi : tr[i]? = some (.received off bytes (some x)))
    (hi' : tr[i']? = some (.received off' bytes' (some x')))
    (hr : RequestAt tr j i h p f) (hr' : RequestAt tr j i' h' p' f') : i = i' := by
  -- the header at `j` either is the dispatch or comes without one, and nothing else is received
  -- before the dispatch
  rcases hr.captured with ⟨rfl, -⟩ | ⟨hji, hj, -, hbetween⟩ <;>
    rcases hr'.captured with ⟨rfl, -⟩ | ⟨hji', hj', -, hbetween'⟩
  · rfl
  · simp [hj'] at hi
  · simp [hj] at hi'
  · rcases Nat.lt_trichotomy i i' with hlt | heq | hlt
    · exact Bool.noConfusion (hbetween' i _ hji hlt hi)
    · exact heq
    · exact Bool.noConfusion (hbetween i' _ hji' hlt hi')

section

variable {E : Env η} {D : Dispatcher η} {polled : Bool} {tr : List SpiEv} {s s' : SpiSlave η}
  {bytes f r : List UInt8}

/-- What is dispatched when a phase is completed, and the reply to it. -/
theorem Advanced.exchange (h : Advanced E D polled s s' (some (f, r)))
    (hdone : PhaseDone tr s.bufs bytes s.phase) :
    r = (protocolBuildReply E D s.fw f s.seam.txBuf frameMaxBytes).bytes ∧
      ((s.phase = .reqHeader ∧ f = bytes ∧ Admitted f ∧ SpiSlave.clampLen (declaredLen f) = 0) ∨
        (s.phase = .reqPayload ∧ ∃ j hdr, OpenHeader tr j hdr ∧ Admitted hdr ∧
          bytes.length = (SpiSlave.clampLen (declaredLen hdr)).toNat ∧ f = hdr ++ bytes)) := by
  generalize hout : some (f, r) = out at h
  cases h with
  | probe | header | replyHeader | replyPayload => simp at hout
  | @frame n b hwhole hlen hread ha =>
      obtain ⟨rfl, rfl⟩ : f = s.frameBuf.read 0 n ∧ r = (s.replyTo E D n).bytes := by simpa using hout
      refine ⟨rfl, ?_⟩
      rcases hwhole with ⟨hphase, hop, hplen, rfl⟩ | ⟨hphase, rfl⟩
      · rw [hphase] at hdone
        refine .inl ⟨hphase, hdone, ⟨Buf.length_read, ?_⟩, ?_⟩
        · rwa [byteAt_read (by decide)]
        · rw [declaredLen, byteAt_read (by decide), byteAt_read (by decide)]
          exact hplen
      · rw [hphase] at hdone
        obtain ⟨hbytes, j, hdr, ho, hadm, hclamp, hframe⟩ := hdone
        exact .inr ⟨hphase, j, hdr, ho, hadm, by rw [hbytes, hclamp], hframe⟩

/-- In both modes a completed transfer goes the same way. -/
theorem resume_exchange (E : Env η) (D : Dispatcher η) (s : SpiSlave η) (ok : Bool) :
    ∃ polled ok', (s.resume E D .completed ok).2 =
      (({ s with replyArmed := false, ready := false } : SpiSlave η).advance E D polled ok').2 := by
  rw [SpiSlave.resume]
  split
  · exact ⟨true, true, rfl⟩
  · exact ⟨false, ok, rfl⟩

/-- A frame is dispatched when a transfer that receives is completed, and the reply is built in the
state at hand. -/
theorem spiStep_exchange {a : SpiAct η} {off : Nat} (h : SpiInv polled tr s)
    (hs : spiStep E D polled s a = some (s', .received off bytes (some (f, r)))) :
    r = (protocolBuildReply E D s.fw f s.seam.txBuf frameMaxBytes).bytes ∧
      ((off = 0 ∧ f = bytes ∧ Admitted f ∧ SpiSlave.clampLen (declaredLen f) = 0) ∨
        (off = headerBytes ∧ ∃ j hdr, OpenHeader tr j hdr ∧ Admitted hdr ∧
          bytes.length = (SpiSlave.clampLen (declaredLen hdr)).toNat ∧ f = hdr ++ bytes)) := by
  cases a with
  | finish status bytes' ok =>
      cases harmed : s.armed with
      | none => simp [spiStep, harmed] at hs
      | some t =>
          simp only [spiStep, harmed] at hs
          split_ifs at hs with hlen
          have hinv := h.current t (.inl harmed)
          simp only [finishTransfer, hinv.shown_eq, Option.some.injEq, Prod.mk.injEq] at hs
          obtain ⟨-, hev⟩ := hs
          split_ifs at hev with hstatus
          subst hstatus
          obtain ⟨p, ok', hout⟩ := resume_exchange E D
            (({ s with armed := none } : SpiSlave η).store t bytes') ok
          rw [hout] at hev
          have hdone := PhaseInv.done (s := { s with armed := none }) hinv (hlen.2 rfl)
          have hadv := @advance_advanced _ E D p ok'
            { ({ s with armed := none } : SpiSlave η).store t bytes' with
              replyArmed := false, ready := false } fun hphase => by
              rw [show s.phase = .reqPayload from hphase] at hdone
              exact hdone.curPayloadLen_le
          generalize SpiSlave.advance E D p ok' _ = res at hev hadv
          cases hphase : s.phase with
          | reqHeader =>
              rw [hphase] at hev
              obtain ⟨rfl, rfl, hres⟩ := SpiEv.received.inj hev
              rw [hres] at hadv
              obtain ⟨hr, ⟨-, hcase⟩ | ⟨hno, -⟩⟩ := hadv.exchange hdone
              · exact ⟨hr, .inl ⟨rfl, hcase⟩⟩
              · exact SpiPhase.noConfusion (hphase.symm.trans hno)
          | reqPayload =>
              rw [hphase] at hev
              obtain ⟨rfl, rfl, hres⟩ := SpiEv.received.inj hev
              rw [hres] at hadv
              obtain ⟨hr, ⟨hno, -⟩ | ⟨-, hcase⟩⟩ := hadv.exchange hdone
              · exact SpiPhase.noConfusion (hphase.symm.trans hno)
              · exact ⟨hr, .inr ⟨rfl, hcase⟩⟩
          | replyHeader => simp [hphase, SpiPhase.shown] at hev
          | replyPayload => simp [hphase, SpiPhase.shown] at hev
  | clocked bytes =>
      cases harmed : s.armed with
      | none => simp [spiStep, harmed] at hs
      | some t => simp [spiStep, harmed] at hs
  | fw | quiesce | reinit | release | suspend | pollService => simp [spiStep] at hs

end

theorem RequestAt.length_le {tr : List SpiEv} {j i : Nat} {h p f : List UInt8}
    (hr : RequestAt tr j i h p f) : f.length ≤ frameMaxBytes := by
  rw [hr.frame, List.length_append, hr.header, hr.payload]
  exact Nat.add_le_add_left (Nat.min_le_right _ _) _

/-- A frame dispatched at `i` was received. -/
theorem requestAt_of_exchange {tr : List SpiEv} {i off : Nat} {bytes f r : List UInt8}
    (hi : tr[i]? = some (.received off bytes (some (f, r))))
    (hcase : (off = 0 ∧ f = bytes ∧ Admitted f ∧ SpiSlave.clampLen (declaredLen f) = 0) ∨
      (off = headerBytes ∧ ∃ j hdr, OpenHeader (tr.take i) j hdr ∧ Admitted hdr ∧
        bytes.length = (SpiSlave.clampLen (declaredLen hdr)).toNat ∧ f = hdr ++ bytes)) :
    ∃ j h p, RequestAt tr j i h p f := by
  rcases hcase with ⟨rfl, rfl, hadm, hzero⟩ | ⟨rfl, j, hdr, ho, hadm, hlen, rfl⟩
  · refine ⟨i, f, [], (List.append_nil f).symm, hadm.length, ?_, hadm.opcode,
      .inl ⟨rfl, rfl, _, hi⟩⟩
    rw [← SpiSlave.toNat_clampLen, hzero]
    rfl
  · have hji : j < i := by
      have := ho.lt
      rw [List.length_take] at this
      omega
    refine ⟨j, hdr, bytes, rfl, hadm.length, ?_, hadm.opcode, .inr ⟨hji, ?_, ⟨_, hi⟩, ?_⟩⟩
    · rw [hlen, SpiSlave.toNat_clampLen]
    · rw [← List.getElem?_take_of_lt hji]
      exact ho.header
    · intro k e hjk hki hk
      rw [← List.getElem?_take_of_lt hki] at hk
      exact ho.last k e hjk hk

/-- A staged reply is its header and the rest. -/
theorem staged_split {b : Buf} {n : Nat} (h : headerBytes ≤ n) :
    (b.read 0 n).take headerBytes = b.read 0 headerBytes ∧
      (b.read 0 n).drop headerBytes = b.read headerBytes (n - headerBytes) := by
  have hsplit : b.read 0 n = b.read 0 headerBytes ++ b.read headerBytes (n - headerBytes) := by
    have hadd := @Buf.read_add b 0 headerBytes (n - headerBytes)
    rwa [Nat.add_sub_cancel' h, Nat.zero_add] at hadd
  rw [hsplit]
  exact ⟨List.take_left' Buf.length_read, List.drop_left' Buf.length_read⟩

/-- A frame that declares more than a frame can hold is rejected before any handler. -/
theorem requestOutcome_of_oversize (E : Env η) (D : Dispatcher η) (fw : Fw η) {req : List UInt8}
    (frame : Buf) (hlen : req.length ≤ frameMaxBytes) (h : maxPayload < (declaredLen req).toNat) :
    requestOutcome E D fw req frame frameMaxBytes = rejected fw frame := by
  have hne : ¬ headerBytes + (declaredLen req).toNat = req.length := by
    unfold frameMaxBytes at hlen
    omega
  unfold requestOutcome requestCrc requestLegacy
  simp only [if_neg hne, ite_self]

/-- The SPI slave is a function from requests to replies.  In callback and in update mode, in every
run and whatever the driver does:

* a dispatched frame is a header that was received, of an opcode below `0x80`, followed by the payload
  received for it, of the declared length or the largest a frame can hold; the reply is the one
  `protocol_build_reply` builds for it in the state at hand; and if the header declares more than a
  frame can hold, no handler is executed, whatever stands behind the gate;
* a header is dispatched at most once;
* every transfer that is armed or recorded clocks at least one byte and receives within `frame_buf`,
  and what it offers the host in the two reply phases are the first four and all remaining bytes of
  the reply to the frame dispatched last. -/
theorem spi_slave_refines {E : Env η} {D : Dispatcher η} {polled : Bool} {fw₀ : Fw η}
    {tr : List SpiEv} {s : SpiSlave η} (hr : (spiSystem E D polled).Run (.boot fw₀) tr s) :
    (∀ i off bytes f r, tr[i]? = some (.received off bytes (some (f, r))) →
      (∃ j h p, RequestAt tr j i h p f) ∧
      (∃ s₀, (spiSystem E D polled).Run (.boot fw₀) (tr.take i) s₀ ∧
        r = (protocolBuildReply E D s₀.fw f s₀.seam.txBuf frameMaxBytes).bytes) ∧
      (maxPayload < (declaredLen f).toNat → ∀ D' fw frame,
        requestOutcome E D' fw f frame frameMaxBytes = rejected fw frame)) ∧
    (∀ j i i' off off' bytes bytes' f r f' r' h p h' p',
      tr[i]? = some (.received off bytes (some (f, r))) →
      tr[i']? = some (.received off' bytes' (some (f', r'))) →
      RequestAt tr j i h p f → RequestAt tr j i' h' p' f' → i = i') ∧
    (∀ t, s.armed = some t ∨ s.pend = some t →
      1 ≤ t.count ∧ (∀ off, t.rx = some off → off + t.count ≤ frameMaxBytes) ∧
      (s.phase = .replyHeader → ∃ f r, latest SpiEv.exchange tr = some (f, r) ∧
        s.offered t = r.take headerBytes) ∧
      (s.phase = .replyPayload → ∃ f r, latest SpiEv.exchange tr = some (f, r) ∧
        s.offered t = r.drop headerBytes)) := by
  refine ⟨?_, ?_, ?_⟩
  · intro i off bytes f r hi
    obtain ⟨s₀, a, s₁, hrun, -, hstep⟩ := hr.step_at hi
    obtain ⟨hreply, hcase⟩ := spiStep_exchange (SpiInv.of_run hrun) hstep
    obtain ⟨j, h, p, hreq⟩ := requestAt_of_exchange hi hcase
    exact ⟨⟨j, h, p, hreq⟩, ⟨s₀, hrun, hreply⟩, fun hover D' fw frame =>
      requestOutcome_of_oversize E D' fw frame hreq.length_le hover⟩
  · intro j i i' off off' bytes bytes' f r f' r' h p h' p' hi hi' hreq hreq'
    exact hreq.unique hi hi' hreq'
  · intro t ht
    have hinv := (SpiInv.of_run hr).current t ht
    refine ⟨hinv.count_pos, fun off hoff => hinv.rx_le hoff, ?_, ?_⟩
    · intro hphase
      rw [hphase] at hinv
      obtain ⟨rfl, hlen, f, hf⟩ := hinv
      exact ⟨f, _, hf, (staged_split (Nat.le_of_add_right_le hlen)).1.symm⟩
    · intro hphase
      rw [hphase] at hinv
      obtain ⟨rfl, hlen, f, hf⟩ := hinv
      exact ⟨f, _, hf, (staged_split (Nat.le_of_add_right_le hlen)).2.symm⟩

/-- The host sends a `PING` and fetches the reply header. -/
def pingExchange : List (SpiAct Unit) :=
  [.reinit true true, .finish .completed [0x00, 0x08, 2, 0] true,
    .finish .completed [0x03, 0x4B] true, .finish .completed [0, 0, 0, 0] true]

/-- It is answered, and the rest of the reply is on offer. -/
theorem spi_slave_refines_ping :
    ∃ (tr : List SpiEv) (s : SpiSlave Unit) (t : SpiTransfer) (f r : List UInt8),
      (spiSystem .reference (dispatcher .reference) false).Run (.boot (.boot ())) tr s ∧
      s.armed = some t ∧ t.count = 8 ∧ s.phase = .replyPayload ∧
      latest SpiEv.exchange tr = some (f, r) ∧ f = [0x00, 0x08, 2, 0, 0x03, 0x4B] ∧
      s.offered t = r.drop headerBytes := by
  have hexec : ((spiSystem .reference (dispatcher .reference) false).exec (.boot (.boot ()))
      pingExchange).map (fun p => (p.1.armed, p.1.phase, (latest SpiEv.exchange p.2).map Prod.fst)) =
      some (some (replyTransfer 4 8), .replyPayload, some [0x00, 0x08, 2, 0, 0x03, 0x4B]) := by
    decide +kernel
  obtain ⟨⟨s, tr⟩, hs, heq⟩ := Option.map_eq_some_iff.mp hexec
  simp only [Prod.mk.injEq] at heq
  obtain ⟨harmed, hphase, hlast⟩ := heq
  have hrun := Machine.run_of_exec hs
  obtain ⟨-, -, htransfer⟩ := spi_slave_refines hrun
  obtain ⟨-, -, -, hpay⟩ := htransfer _ (.inl harmed)
  obtain ⟨f, r, hf, hoffered⟩ := hpay hphase
  rw [hf] at hlast
  exact ⟨tr, s, _, f, r, hrun, harmed, rfl, hphase, hf, by simpa using hlast, hoffered⟩

end Cc3501eBridge
