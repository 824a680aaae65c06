import Cc3501eBridge.Lib.Fetch
import Cc3501eBridge.Latch
import Cc3501eBridge.Reference
import Cc3501eBridge.ResultInv

/-!
# A job reads its own payload

`worker_execute` parses the request a second time, by offset, out of a buffer that is never cleared.
Here its reads are a program over that buffer: `fetchCall` up to the HAL call, `fetchPack` while the
result is packed, `fetchKeys` in the two completion hooks of the sockets.  What the validators of
the handlers promise (`PayloadFits`) keeps all three within the submitted payload, so a longer
request that stood in the buffer before has no influence on the call or on the result.
-/

namespace Cc3501eBridge

variable {η : Type}

open Fetch

/-! ## What `worker_execute` reads -/

/-- `wk_get_le16`. -/
def fetchWord (off : Nat) : Fetch UInt8 UInt16 := do
  let lo ← cell off
  let hi ← cell (off + 1)
  return getLe16 lo hi

/-- `wk_get_le32`. -/
def fetchLong (off : Nat) : Fetch UInt8 UInt32 := do
  let a ← cell off
  let b ← cell (off + 1)
  let c ← cell (off + 2)
  let d ← cell (off + 3)
  return getLe32 a b c d

/-- The bytes an `SPI1_TRANSFER` clocks out: `NULL` with `NO_TX`. -/
def Env.fetchTx (E : Env η) (len : UInt16) (flags : UInt8) : Fetch UInt8 (Option (List UInt8)) :=
  if hasFlag flags E.hdr.spi1XferNoTx then pure none
  else do
    let bytes ← span 8 len.toNat
    return some bytes

/-- The reads of `worker_execute`'s `switch` up to the HAL call, for a job with `reqLen` request
bytes. -/
def Env.fetchCall (E : Env η) (cmd : Cmd) (reqLen : Nat) : Fetch UInt8 HalCall :=
  match cmd with
  | .bleAdvStart => do
      let connectable ← cell 0
      let itvlMin ← fetchWord 2
      let itvlMax ← fetchWord 4
      let advDataLen ← cell 6
      let advData ← span 7 advDataLen.toNat
      return .bleAdvStart connectable itvlMin itvlMax advData
  | .bleConnect => do
      let addrType ← cell 0
      let addr ← span 1 6
      return .bleConnect addrType addr
  | .bleGattRegister => do
      let descriptor ← span 0 reqLen
      return .bleGattRegister descriptor bleGattMaxChars
  | .bleGattNotify => do
      let handle ← fetchWord 0
      let data ← span 2 (reqLen - 2)
      return .bleGattNotify handle data
  | .bleGattWrite => do
      let handle ← fetchWord 0
      let data ← span 2 (reqLen - 2)
      return .bleGattWrite handle data
  | .bleGattRead => do
      let handle ← fetchWord 0
      return .bleGattRead handle E.build.replyDataMax
  | .wifiApStart | .wifiConnectSta => do
      let ssidLen ← cell E.hdr.ssidLenOff
      let pskLen ← cell E.hdr.pskLenOff
      let ssid ← span E.hdr.wifiConnectBytes ssidLen.toNat
      let psk ← span (E.hdr.wifiConnectBytes + ssidLen.toNat) pskLen.toNat
      let security ← cell E.hdr.securityOff
      return if cmd = .wifiApStart then .wifiApStart ssid psk security
        else .wifiConnectSta ssid psk security
  | .sockOpen => do
      let family ← cell 0
      let type ← cell 1
      let protocol ← cell 2
      return .sockOpen family type protocol
  | .sockConnect => do
      let handle ← fetchWord 0
      let family ← cell 4
      let port ← fetchWord 6
      let addr ← span 8 4
      return .sockConnect handle family port addr
  | .sockSend => do
      let handle ← fetchWord 0
      let flags ← cell 2
      let dataLen ← fetchWord 4
      let data ← span 8 dataLen.toNat
      return .sockSend handle flags data
  | .sockRecv => do
      let handle ← fetchWord 0
      let maxLen ← fetchWord 2
      return .sockRecv handle maxLen (sockRecvDataCap E.build maxLen)
  | .sockClose => do
      let handle ← fetchWord 0
      return .sockClose handle
  | .sockBind => do
      let handle ← fetchWord 0
      let family ← cell 4
      let port ← fetchWord 6
      let addr ← span 8 4
      return .sockBind handle family port addr
  | .sockListen => do
      let handle ← fetchWord 0
      let backlog ← cell 2
      return .sockListen handle backlog
  | .spi1Configure => do
      let freqHz ← fetchLong 0
      let mode ← cell 4
      let bits ← cell 5
      let cs ← cell 6
      return .spi1Configure freqHz mode bits cs
  | .spi1Transfer => do
      let len ← fetchWord 0
      let flags ← cell 2
      let fill ← cell 4
      let tx ← E.fetchTx len flags
      return .spi1Transfer tx (!hasFlag flags E.hdr.spi1XferNoRx) len.toNat fill
        (hasFlag flags E.hdr.spi1XferCsHold)
  -- the others read nothing
  | cmd => return E.halCall cmd .zero 0

/-- The reads while an OK result `r` is packed. -/
def Env.fetchPack (E : Env η) (cmd : Cmd) (r : HalRet) : Fetch UInt8 (List UInt8) :=
  match cmd with
  | .spi1Configure => do
      let bits ← cell 5
      return le32 r.freqHz ++ le16 (UInt16.ofNat E.build.spi1MaxXferV4) ++ [bits, 0]
  | .spi1Transfer => do
      let len ← fetchWord 0
      let flags ← cell 2
      let seq ← cell 3
      let noRx := hasFlag flags E.hdr.spi1XferNoRx
      return le16 (if noRx then 0 else len) ++
        [if hasFlag flags E.hdr.spi1XferCsHold then E.hdr.spi1XferCsHold else 0, seq] ++
        (if noRx then [] else fixBytes len.toNat r.data)
  | cmd => return E.packOk cmd .zero r

/-- The request bytes the completion hooks of the sockets are given. -/
def fetchKeys : Cmd → Fetch UInt8 (List UInt8)
  | .sockSend => do
      let seq ← cell 3
      return [seq]
  | .sockRecv => span 0 4
  | _ => return []

section

variable {E : Env η} {cmd : Cmd} {req : Buf} {reqLen : Nat}

@[simp] theorem run_fetchWord (off : Nat) : (fetchWord off).run req = req.word off := rfl

@[simp] theorem run_fetchLong (off : Nat) : (fetchLong off).run req = req.long off := rfl

@[simp] theorem run_span_buf (off n : Nat) : (span off n).run req = req.read off n := run_span off n

@[simp] theorem run_fetchTx (len : UInt16) (flags : UInt8) : (E.fetchTx len flags).run req =
    if hasFlag flags E.hdr.spi1XferNoTx then none else some (req.read 8 len.toNat) := by
  unfold Env.fetchTx
  cases hasFlag flags E.hdr.spi1XferNoTx <;> simp

/-- The program computes the call of the model. -/
theorem run_fetchCall : (E.fetchCall cmd reqLen).run req = E.halCall cmd req reqLen := by
  cases cmd with
  | spi1Transfer =>
      simp only [Env.fetchCall, Env.halCall, run_bind, run_pure, run_fetchWord, run_cell, run_fetchTx]
  | _ => simp [Env.fetchCall, Env.halCall]

theorem run_fetchPack (r : HalRet) : (E.fetchPack cmd r).run req = E.packOk cmd req r := by
  cases cmd with
  | spi1Transfer => rfl
  | _ => simp [Env.fetchPack, Env.packOk]

end

/-! ## What the validators promise -/

/-- The fields `worker_execute` uses of `alp_cc3501e_wifi_connect_t` lie inside the struct. -/
structure Header.WifiConnectFields (H : Header) : Prop where
  ssidLen : H.ssidLenOff < H.wifiConnectBytes
  pskLen : H.pskLenOff < H.wifiConnectBytes
  security : H.securityOff < H.wifiConnectBytes

/-- What `worker_execute` takes for granted of the `n` request bytes of a job. -/
def PayloadFits (E : Env η) (req : Buf) (n : Nat) : Cmd → Prop
  | .wifiConnectSta | .wifiApStart =>
      E.hdr.wifiConnectBytes ≤ n ∧
        n = E.hdr.wifiConnectBytes + (req E.hdr.ssidLenOff).toNat + (req E.hdr.pskLenOff).toNat
  | .sockOpen | .sockListen | .sockClose | .sockRecv => n = 4
  | .sockConnect | .sockBind => n = 24
  | .sockSend => 8 ≤ n ∧ n = 8 + (req.word 4).toNat
  | .bleAdvStart => 7 ≤ n ∧ n = 7 + (req 6).toNat
  | .bleConnect => n = 7
  | .bleGattNotify | .bleGattWrite => 2 ≤ n
  | .bleGattRead => n = 2
  | .spi1Configure => n = 8
  | .spi1Transfer =>
      8 ≤ n ∧ n = if hasFlag (req 2) E.hdr.spi1XferNoTx then 8 else 8 + (req.word 0).toNat
  | _ => True

section

variable {E : Env η} {cmd : Cmd} {req : Buf} {n : Nat}

theorem within_fetchWord {off : Nat} (h : off + 1 < n) : (fetchWord off).Within n req :=
  (Within.cell (by omega)).bind ((Within.cell h).bind (.pure _))

theorem within_fetchLong {off : Nat} (h : off + 3 < n) : (fetchLong off).Within n req :=
  (Within.cell (by omega)).bind ((Within.cell (by omega)).bind ((Within.cell (by omega)).bind
    ((Within.cell h).bind (.pure _))))

/-- Up to the call, every read is inside the payload. -/
theorem within_fetchCall (hf : E.hdr.WifiConnectFields) (h : PayloadFits E req n cmd) :
    (E.fetchCall cmd n).Within n req := by
  cases cmd with
  | bleAdvStart =>
      obtain ⟨hmin, hn⟩ := h
      exact (Within.cell (by omega)).bind ((within_fetchWord (by omega)).bind
        ((within_fetchWord (by omega)).bind ((Within.cell (by omega)).bind
          ((Within.span (by rw [run_cell]; omega)).bind (.pure _)))))
  | bleConnect =>
      obtain rfl : n = 7 := h
      exact (Within.cell (by omega)).bind ((Within.span (by omega)).bind (.pure _))
  | bleGattRegister => exact (Within.span (by omega)).bind (.pure _)
  | bleGattNotify | bleGattWrite =>
      have hmin : 2 ≤ n := h
      exact (within_fetchWord (by omega)).bind ((Within.span (by omega)).bind (.pure _))
  | bleGattRead =>
      obtain rfl : n = 2 := h
      exact (within_fetchWord (by omega)).bind (.pure _)
  | wifiApStart | wifiConnectSta =>
      obtain ⟨hmin, hn⟩ := h
      have hs := hf.ssidLen
      have hp := hf.pskLen
      have hc := hf.security
      exact (Within.cell (by omega)).bind ((Within.cell (by omega)).bind
        ((Within.span (by rw [run_cell]; omega)).bind ((Within.span
          (by rw [run_cell, run_cell]; omega)).bind ((Within.cell (by omega)).bind (.pure _)))))
  | sockOpen =>
      obtain rfl : n = 4 := h
      exact (Within.cell (by omega)).bind ((Within.cell (by omega)).bind
        ((Within.cell (by omega)).bind (.pure _)))
  | sockConnect | sockBind =>
      obtain rfl : n = 24 := h
      exact (within_fetchWord (by omega)).bind ((Within.cell (by omega)).bind
        ((within_fetchWord (by omega)).bind ((Within.span (by omega)).bind (.pure _))))
  | sockSend =>
      obtain ⟨hmin, hn⟩ := h
      exact (within_fetchWord (by omega)).bind ((Within.cell (by omega)).bind
        ((within_fetchWord (by omega)).bind ((Within.span
          (by rw [run_fetchWord]; omega)).bind (.pure _))))
  | sockRecv =>
      obtain rfl : n = 4 := h
      exact (within_fetchWord (by omega)).bind ((within_fetchWord (by omega)).bind (.pure _))
  | sockClose =>
      obtain rfl : n = 4 := h
      exact (within_fetchWord (by omega)).bind (.pure _)
  | sockListen =>
      obtain rfl : n = 4 := h
      exact (within_fetchWord (by omega)).bind ((Within.cell (by omega)).bind (.pure _))
  | spi1Configure =>
      obtain rfl : n = 8 := h
      exact (within_fetchLong (by omega)).bind ((Within.cell (by omega)).bind
        ((Within.cell (by omega)).bind ((Within.cell (by omega)).bind (.pure _))))
  | spi1Transfer =>
      obtain ⟨hmin, hn⟩ := h
      refine (within_fetchWord (by omega)).bind ((Within.cell (by omega)).bind
        ((Within.cell (by omega)).bind (Within.bind ?_ (.pure _))))
      rw [run_fetchWord, run_cell]
      unfold Env.fetchTx
      split_ifs with htx
      · exact .pure _
      · rw [if_neg htx] at hn
        exact (Within.span (by omega)).bind (.pure _)
  | _ => exact .pure _

/-- So is every read while the result is packed, -/
theorem within_fetchPack (h : PayloadFits E req n cmd) (r : HalRet) :
    (E.fetchPack cmd r).Within n req := by
  cases cmd with
  | spi1Configure =>
      obtain rfl : n = 8 := h
      exact (Within.cell (by omega)).bind (.pure _)
  | spi1Transfer =>
      obtain ⟨hmin, -⟩ := h
      exact (within_fetchWord (by omega)).bind ((Within.cell (by omega)).bind
        ((Within.cell (by omega)).bind (.pure _)))
  | _ => exact .pure _

/-- and every read of the completion hooks. -/
theorem within_fetchKeys (h : PayloadFits E req n cmd) : (fetchKeys cmd).Within n req := by
  cases cmd with
  | sockSend =>
      obtain ⟨hmin, -⟩ := h
      exact (Within.cell (by omega)).bind (.pure _)
  | sockRecv =>
      obtain rfl : n = 4 := h
      exact Within.span le_rfl
  | _ => exact .pure _

end

/-! ## Accepted requests -/

/-- The payload fits, said of the payload itself. -/
theorem payloadFits_of_read {E : Env η} {b : Buf} {p : List UInt8} {c : Cmd}
    (hb : b.read 0 p.length = p) (h : PayloadFits E (byteAt p) p.length c)
    (hf : E.hdr.WifiConnectFields) : PayloadFits E b p.length c := by
  have hbyte : ∀ {i}, i < p.length → b i = byteAt p i := by
    intro i hi
    rw [byteAt, List.getD_eq_getElem?_getD, ← hb, Buf.getElem?_read, if_pos hi]
    simp
  have hword : ∀ {i}, i + 1 < p.length → b.word i = Buf.word (byteAt p) i := by
    intro i hi
    rw [Buf.word, Buf.word, hbyte (by omega), hbyte hi]
  cases c with
  | wifiConnectSta | wifiApStart =>
      obtain ⟨hmin, hn⟩ := h
      have hs := hf.ssidLen
      have hp := hf.pskLen
      refine ⟨hmin, ?_⟩
      rw [hbyte (by omega), hbyte (by omega)]
      exact hn
  | sockSend =>
      obtain ⟨hmin, hn⟩ := h
      exact ⟨hmin, by rw [hword (by omega)]; exact hn⟩
  | bleAdvStart =>
      obtain ⟨hmin, hn⟩ := h
      exact ⟨hmin, by rw [hbyte (by omega)]; exact hn⟩
  | spi1Transfer =>
      obtain ⟨hmin, hn⟩ := h
      exact ⟨hmin, by rw [hbyte (by omega), hword (by omega)]; exact hn⟩
  | _ => exact h

/-- A request that passes the checks before the latch fits. -/
theorem payloadFits_of_passesChecks {E : Env η} {fw : Fw η} {c : Cmd} {p : List UInt8}
    (h : passesChecks E fw c p = true) : PayloadFits E (byteAt p) p.length c := by
  cases c <;> simp [passesChecks, PayloadFits] at h ⊢ <;> omega

section

variable {E : Env η} {fw fw' : Fw η} {req : Request} {reply : Reply} {c : Cmd}

theorem queuedBy_self (w : Worker) : queuedBy w w = none := by simp [queuedBy]

theorem queuedBy_reset (w : Worker) : queuedBy w (workerReset w) = none := by
  simp [queuedBy, workerReset]

/-- A request that was queued had passed its handler's checks. -/
theorem payloadFits_of_handled (hh : handle E c fw req.payload req.cap = (fw', reply))
    (hq : queuedBy fw.worker fw'.worker ≠ none) (hc : c.carriesPayload = true) :
    PayloadFits E (byteAt req.payload) req.payload.length c := by
  have hkept : fw'.worker ≠ fw.worker := by
    intro hw
    exact hq (by rw [hw, queuedBy_self])
  by_cases hs : c = .sockSend
  · subst hs
    have ho : SendOutcome fw req.payload req.cap (fw', reply) := hh ▸ handleSockSend_outcome _ _ _
    have hvalid : sockSendValid req.payload = true := by
      cases ho with
      | invalid _ => exact absurd rfl hkept
      | cached hv _ _ => exact hv
      | noMem hv _ _ _ => exact hv
      | routed hv _ _ _ _ => exact hv
    simp only [sockSendValid, Bool.and_eq_true, decide_eq_true_eq] at hvalid
    exact hvalid
  by_cases hr : c = .sockRecv
  · subst hr
    have ho : RecvOutcome fw req.payload req.cap (fw', reply) := hh ▸ handleSockRecv_outcome _ _ _
    cases ho with
    | invalid _ => exact absurd rfl hkept
    | ring hl _ _ _ => exact hl
    | cached hl _ _ _ => exact hl
    | noMem hl _ _ _ _ => exact hl
    | submitted hl _ _ _ _ _ => exact hl
    | busy hl _ _ _ _ => exact hl
  by_cases ht : c = .spi1Transfer
  · subst ht
    have hvalid : spi1TransferValid E req.payload = true := by
      by_contra hinv
      rw [handle, handleSpi1Transfer, if_pos (by simpa using hinv)] at hh
      exact hkept (congrArg Fw.worker (Prod.mk.inj hh).1.symm)
    simp only [spi1TransferValid, Bool.and_eq_true, decide_eq_true_eq] at hvalid
    exact ⟨hvalid.1, hvalid.2.2.2⟩
  · have ha : Answered E fw c req.payload req.cap (fw', reply) := hh ▸ handle_answered E fw req.payload req.cap hs hr
    have hl : c.latched = true := by
      cases c <;> first | rfl | simp_all [Cmd.carriesPayload]
    cases ha with
    | own _ _ hw _ => exact absurd (hw hl) hkept
    | routed hpass _ _ _ _ _ _ _ => exact payloadFits_of_passesChecks hpass

/-- The job a dispatch queued: its opcode, its request bytes and their number are the request's. -/
theorem job_of_queued
    (h : protocolDispatch E fw req.cmd req.flags req.payload req.cap = (fw', reply))
    (hq : queuedBy fw.worker fw'.worker ≠ none) :
    ∃ c, E.hdr.decode req.cmd = some c ∧ fw'.worker.job.jobCmd = c ∧
      (c.carriesPayload = true → fw'.worker.job.reqLen = req.payload.length ∧
        fw'.worker.job.payload = req.payload ∧
        PayloadFits E (byteAt req.payload) req.payload.length c) := by
  rcases @dispatch_cases _ E { fw := fw, pc := .loop, pending := [], isOpen := fun _ => false } fw'
    req reply h with ⟨-, rfl⟩ | ⟨c, hdec, hh⟩
  · exact absurd (queuedBy_self _) hq
  · refine ⟨c, hdec, ?_⟩
    have hfits := payloadFits_of_handled hh hq
    have hslot := @handle_slot _ E (fw.latchSeq req) req.payload req.cap c
    rw [show handle E c (fw.latchSeq req) req.payload req.cap = _ from hh] at hslot
    change SlotStep c req.payload fw.worker fw'.worker at hslot
    generalize fw'.worker = w at hslot hq
    cases hslot with
    | keep => exact absurd (queuedBy_self _) hq
    | free _ => exact absurd (queuedBy_reset _) hq
    | submit _ hc => exact ⟨rfl, by simp [hc]⟩
    | submitPayload _ hc _ =>
        have hpay : (fw.worker.queuedPayload c req.payload).job.payload = req.payload :=
          @Buf.read_write fw.worker.job.req 0 req.payload
        exact ⟨rfl, fun hc => ⟨rfl, hpay, hfits hc⟩⟩

end

/-! ## Two states -/

/-- The two jobs make one HAL call and, for every outcome of it, publish one result; their
completion hooks are given the same bytes. -/
structure SameWork (E : Env η) (j₁ j₂ : Job) : Prop where
  cmd : j₁.jobCmd = j₂.jobCmd
  call : j₁.call E = j₂.call E
  out : ∀ r, j₁.outOf E r = j₂.outOf E r
  keys : (fetchKeys j₁.jobCmd).run j₁.req = (fetchKeys j₂.jobCmd).run j₂.req

/-- The reads of a job stay inside its payload, and so do the lengths it computes. -/
structure ReadsPayload (E : Env η) (j : Job) (payload : List UInt8) : Prop where
  payload_eq : j.payload = payload
  lengths : PayloadFits E j.req payload.length j.jobCmd
  call : (E.fetchCall j.jobCmd j.reqLen).Within payload.length j.req
  pack : ∀ r, (E.fetchPack j.jobCmd r).Within payload.length j.req
  keys : (fetchKeys j.jobCmd).Within payload.length j.req

section

variable {E : Env η} {fw₁ fw₂ fw₁' fw₂' : Fw η} {req : Request} {reply₁ reply₂ : Reply}

theorem readsPayload_of_queued (hf : E.hdr.WifiConnectFields)
    (h : protocolDispatch E fw₁ req.cmd req.flags req.payload req.cap = (fw₁', reply₁))
    (hq : queuedBy fw₁.worker fw₁'.worker ≠ none)
    (hc : fw₁'.worker.job.jobCmd.carriesPayload = true) :
    ReadsPayload E fw₁'.worker.job req.payload := by
  obtain ⟨c, -, rfl, hjob⟩ := job_of_queued h hq
  obtain ⟨hlen, hpay, hfits⟩ := hjob hc
  have hread : fw₁'.worker.job.req.read 0 req.payload.length = req.payload := by
    rw [← hlen]
    exact hpay
  have hfits := payloadFits_of_read hread hfits hf
  refine ⟨hpay, hfits, ?_, within_fetchPack hfits, within_fetchKeys hfits⟩
  rw [hlen]
  exact within_fetchCall hf hfits

/-- A job never reads a previous job's bytes: whatever two states a request is queued in, its job
makes the same call and publishes the same result, and reads nothing but the request's payload. -/
theorem job_reads_own_payload (hf : E.hdr.WifiConnectFields)
    (h₁ : protocolDispatch E fw₁ req.cmd req.flags req.payload req.cap = (fw₁', reply₁))
    (h₂ : protocolDispatch E fw₂ req.cmd req.flags req.payload req.cap = (fw₂', reply₂))
    (hq₁ : queuedBy fw₁.worker fw₁'.worker ≠ none) (hq₂ : queuedBy fw₂.worker fw₂'.worker ≠ none) :
    SameWork E fw₁'.worker.job fw₂'.worker.job ∧
      (fw₁'.worker.job.jobCmd.carriesPayload = true →
        ReadsPayload E fw₁'.worker.job req.payload) := by
  refine ⟨?_, readsPayload_of_queued hf h₁ hq₁⟩
  obtain ⟨c, hdec, hcmd, hjob⟩ := job_of_queued h₁ hq₁
  obtain ⟨c', hdec', hcmd', hjob'⟩ := job_of_queued h₂ hq₂
  obtain rfl : c = c' := Option.some.inj (hdec.symm.trans hdec')
  cases hc : c.carriesPayload with
  | false =>
      -- nothing is read
      have hcall : ∀ (b : Buf) n, E.halCall c b n = E.halCall c .zero 0 := by
        intro b n
        cases c <;> first | rfl | simp [Cmd.carriesPayload] at hc
      have hpack : ∀ (b : Buf) r, E.packOk c b r = E.packOk c .zero r := by
        intro b r
        cases c <;> first | rfl | simp [Cmd.carriesPayload] at hc
      have hkeys : ∀ b : Buf, (fetchKeys c).run b = [] := by
        intro b
        cases c <;> first | rfl | simp [Cmd.carriesPayload] at hc
      refine ⟨hcmd.trans hcmd'.symm, ?_, fun r => ?_, ?_⟩
      · rw [Job.call, Job.call, hcmd, hcmd', hcall, hcall fw₂'.worker.job.req]
      · rw [Job.outOf, Job.outOf, hcmd, hcmd', Env.execOut, Env.execOut, hpack,
          hpack fw₂'.worker.job.req]
      · rw [hcmd, hcmd', hkeys, hkeys]
  | true =>
      obtain ⟨hlen, hpay, -⟩ := hjob hc
      obtain ⟨hlen', hpay', -⟩ := hjob' hc
      obtain ⟨-, -, hcall, hpack, hkeys⟩ := readsPayload_of_queued hf h₁ hq₁ (by rw [hcmd, hc])
      -- the buffers agree on the payload
      have hagree : ∀ i < req.payload.length, fw₁'.worker.job.req i = fw₂'.worker.job.req i := by
        intro i hi
        have hi₁ := Job.byteAt_payload fw₁'.worker.job (hpay ▸ hi)
        have hi₂ := Job.byteAt_payload fw₂'.worker.job (hpay' ▸ hi)
        rw [← hi₁, ← hi₂, hpay, hpay']
      refine ⟨hcmd.trans hcmd'.symm, ?_, fun r => ?_, ?_⟩
      · rw [Job.call, Job.call, ← run_fetchCall, ← run_fetchCall, hcmd', ← hcmd, hlen', ← hlen]
        exact hcall.run_eq hagree
      · have hrun := (hpack r).run_eq hagree
        rw [run_fetchPack, run_fetchPack] at hrun
        rw [Job.outOf, Job.outOf, Env.execOut, Env.execOut, hcmd', ← hcmd, hrun]
      · rw [hcmd', ← hcmd]
        exact hkeys.run_eq hagree

end

/-- A freshly booted firmware whose request buffer still holds 100 bytes `0xFF`. -/
def leftoverFw : Fw Unit :=
  let fw := Fw.boot ()
  { fw with worker := { fw.worker with job := { fw.worker.job with
      req := fun _ => 0xFF, reqLen := 100, result := fun _ => 0xFF } } }

/-- A request to join the open network `A`. -/
def joinRequest : Request := .of .wifiConnectSta 1 [1, 0, 0, 0, 0x41]

theorem job_reads_own_payload_join :
    let fw₁ := (protocolDispatch Env.reference (.boot ()) joinRequest.cmd joinRequest.flags
      joinRequest.payload joinRequest.cap).1
    let fw₂ := (protocolDispatch Env.reference leftoverFw joinRequest.cmd joinRequest.flags
      joinRequest.payload joinRequest.cap).1
    fw₁.worker.job.call Env.reference = .wifiConnectSta [0x41] [] 0 ∧
      SameWork Env.reference fw₁.worker.job fw₂.worker.job ∧
      ReadsPayload Env.reference fw₁.worker.job joinRequest.payload := by
  intro fw₁ fw₂
  obtain ⟨hsame, hreads⟩ := @job_reads_own_payload _ Env.reference (.boot ()) leftoverFw fw₁ fw₂
    joinRequest _ _ ⟨by decide, by decide, by decide⟩ rfl rfl (by decide +kernel) (by decide +kernel)
  exact ⟨by decide +kernel, hsame, hreads (by decide +kernel)⟩

end Cc3501eBridge
