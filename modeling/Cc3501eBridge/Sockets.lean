import Cc3501eBridge.Routed

/-!
# Socket requests

`protocol_sockets.c`.  Five of the seven opcodes only check their request and go to the worker.
The two data opcodes each keep a reply cache of their own, filled by the drain when a job finishes
(`protocol_sock_send_on_worker_complete`, `protocol_sock_recv_worker_*`), so that a repeated request
is answered without touching the socket again.  `SOCK_RECV` first offers the request to the
prefetch ring.
-/

namespace Cc3501eBridge

variable {η : Type}

/-- Byte `i` of a request whose length has been checked. -/
def byteAt (req : List UInt8) (i : Nat) : UInt8 := req.getD i 0

/-- The 16-bit field at offset `i`. -/
def wordAt (req : List UInt8) (i : Nat) : UInt16 := getLe16 (byteAt req i) (byteAt req (i + 1))

/-- A word is read back from where it was stored. -/
theorem wordAt_append_le16 (pre post : List UInt8) (v : UInt16) :
    wordAt (pre ++ (le16 v ++ post)) pre.length = v := by
  simp only [wordAt, byteAt, List.getD_eq_getElem?_getD]
  rw [List.getElem?_append_right (Nat.le_refl _),
    List.getElem?_append_right (Nat.le_add_right _ 1), Nat.sub_self, Nat.add_sub_cancel_left]
  exact getLe16_le16 v

/-- `sock_worker_hw_err_to_resp`. -/
def sockWorkerHwErrToResp (rv : Int) : Resp :=
  if rv = hwErrNotimpl then .errNotReady
  else if rv = hwErrInval then .errInvalid
  else if rv = hwErrState then .errState
  else .errRadio

theorem sockWorkerHwErrToResp_ne_ok (rv : Int) : sockWorkerHwErrToResp rv ≠ .ok := by
  unfold sockWorkerHwErrToResp
  split_ifs <;> simp

/-! ## Filling the caches -/

/-- `protocol_sock_send_on_worker_complete`. -/
def sockSendOnWorkerComplete (c : SendCache) (seq : UInt8) (hwRv : Int) (data : List UInt8) :
    SendCache :=
  if hwRv = hwOk then
    if data.length ≠ 2 then c else { cached := true, seq := seq, status := .ok, reply := data }
  else { cached := true, seq := seq, status := sockWorkerHwErrToResp hwRv, reply := c.reply }

/-- `protocol_sock_recv_worker_invalidate`. -/
def sockRecvWorkerInvalidate (c : RecvCache) : RecvCache := { c with cached := false }

/-- `protocol_sock_recv_worker_publish`: the key of the finished job and how it ended.  The bytes
were copied before, and a result that did not fit the cache was not copied at all. -/
def sockRecvWorkerPublish (B : Build) (c : RecvCache) (handle maxLen : UInt16) (hwRv : Int)
    (len : Nat) : RecvCache :=
  let key : RecvKey := { seq := c.jobSeq, handle := handle, maxLen := maxLen }
  if hwRv = hwOk ∧ len > B.replyDataMax then
    { c with key := key, replyLen := 0, status := .errNoMem, cached := true }
  else if hwRv = hwOk then { c with key := key, replyLen := len, status := .ok, cached := true }
  else { c with key := key, replyLen := 0, status := sockWorkerHwErrToResp hwRv, cached := true }

/-! ## Requests without a cache -/

/-- `handle_sock_open`. -/
def handleSockOpen (E : Env η) (fw : Fw η) (req : List UInt8) (replyCap : Nat) : Fw η × Reply :=
  if req.length ≠ 4 then (fw, .bare .errInvalid)
  else if byteAt req 0 ≠ E.hdr.sockFamilyIpv4 then (fw, .bare .errInvalid)
  else handleWorkerRoutedPayloadReply fw .sockOpen req 4 replyCap

/-- The common body of `handle_sock_connect` and `handle_sock_bind`: a handle and an IPv4 endpoint. -/
def handleSockEndpoint (E : Env η) (fw : Fw η) (cmd : Cmd) (req : List UInt8) : Fw η × Reply :=
  if req.length ≠ 24 then (fw, .bare .errInvalid)
  else if byteAt req 4 ≠ E.hdr.sockFamilyIpv4 then (fw, .bare .errInvalid)
  else handleWorkerRoutedPayload E fw cmd req

/-- `handle_sock_connect`. -/
def handleSockConnect (E : Env η) (fw : Fw η) (req : List UInt8) : Fw η × Reply :=
  handleSockEndpoint E fw .sockConnect req

/-- `handle_sock_bind`. -/
def handleSockBind (E : Env η) (fw : Fw η) (req : List UInt8) : Fw η × Reply :=
  handleSockEndpoint E fw .sockBind req

/-- `handle_sock_listen`. -/
def handleSockListen (E : Env η) (fw : Fw η) (req : List UInt8) : Fw η × Reply :=
  if req.length ≠ 4 then (fw, .bare .errInvalid)
  else if byteAt req 0 = 0 ∧ byteAt req 1 = 0 then (fw, .bare .errInvalid)
  else handleWorkerRoutedPayload E fw .sockListen req

/-- Drop the cached receive reply if it belongs to `handle`. -/
def RecvCache.forgetHandle (c : RecvCache) (handle : UInt16) : RecvCache :=
  if c.cached = true ∧ handle = c.key.handle then { c with cached := false } else c

/-- `handle_sock_close`: forget a cached receive of the handle, then close on the worker. -/
def handleSockClose (E : Env η) (fw : Fw η) (req : List UInt8) : Fw η × Reply :=
  if req.length ≠ 4 then (fw, .bare .errInvalid)
  else
    handleWorkerRoutedPayload E { fw with recv := fw.recv.forgetHandle (wordAt req 0) } .sockClose
      req

/-! ## `SOCK_SEND` -/

/-- The length check of `handle_sock_send`: an 8-byte header and the announced data. -/
def sockSendValid (req : List UInt8) : Bool :=
  8 ≤ req.length && req.length = 8 + (wordAt req 4).toNat

/-- The sequence byte of a `SOCK_SEND`. -/
def sockSendSeq (req : List UInt8) : UInt8 := byteAt req 3

/-- Drop the cached send reply if it answers another sequence number. -/
def SendCache.forget (c : SendCache) (seq : UInt8) : SendCache :=
  if c.cached = true ∧ seq ≠ c.seq then { c with cached := false } else c

/-- `handle_sock_send`. -/
def handleSockSend (fw : Fw η) (req : List UInt8) (replyCap : Nat) : Fw η × Reply :=
  if sockSendValid req = false then (fw, .bare .errInvalid)
  else
    let seq := sockSendSeq req
    let send := fw.send.forget seq
    if send.cached then
      let fw := { fw with
        send := send
        worker := (workerReclaimMatchingTerminal fw.worker .sockSend 3 seq).2 }
      if send.status = .ok then
        if replyCap < 2 then (fw, .bare .errNoMem)
        else (fw, { status := .ok, data := send.reply })
      else (fw, .bare send.status)
    else
      let fw := { fw with
        send := send
        worker := (workerDiscardStaleTerminal fw.worker .sockSend 3 seq).2 }
      handleWorkerRoutedPayloadReply fw .sockSend req 2 replyCap

/-! ## `SOCK_RECV` -/

/-- `sizeof(alp_cc3501e_sock_recv_resp_t)`. -/
def sockRecvRespBytes : Nat := 24

/-- The header of a ring-served receive: zeros but for the data length at offset 20. -/
def sockRecvRespHeader (got : Nat) : List UInt8 :=
  List.replicate 20 0 ++ le16 (UInt16.ofNat got) ++ [0, 0]

/-- The identity of a receive request. -/
def sockRecvKey (seq : UInt8) (req : List UInt8) : RecvKey where
  seq := seq
  handle := wordAt req 0
  maxLen := wordAt req 2

/-- How much data the ring may hand out: the reply's room beside the header, at most what was
asked for, and nothing for a request of length 0. -/
def sockRecvRoom (key : RecvKey) (replyCap : Nat) : Nat :=
  if key.maxLen = 0 then 0 else min (replyCap - sockRecvRespBytes) key.maxLen.toNat

/-- The ring part of `handle_sock_recv`: `none` when the ring does not own the handle and the
worker has to serve it. -/
def sockRecvFromRing (fw : Fw η) (key : RecvKey) (replyCap : Nat) : Option Reply × Fw η :=
  if replyCap ≤ sockRecvRespBytes then (none, fw)
  else
    let replay : Bool := key.seq ≠ 0 ∧ key = fw.last
    let (read, rx) :=
      hwSockRecvRing fw.rx key.handle (UInt16.ofNat (sockRecvRoom key replyCap)) replay
    let fw := { fw with rx := rx, last := key }
    if read.rc = -2 then
      if key.maxLen = 0 then
        (some { status := .ok, data := List.replicate sockRecvRespBytes 0 }, fw)
      else (some (.bare .errBusy), fw)
    else if read.rc = -3 then (some (.bare .errRadio), fw)
    else if read.rc ≥ 0 then
      (some { status := .ok, data := sockRecvRespHeader read.out.length ++ read.out }, fw)
    else (none, fw)

/-- The worker part of `handle_sock_recv`: the cached reply, or another poll of the slot.  A cached
reply to a request without a sequence number is handed out once. -/
def sockRecvFromWorker (fw : Fw η) (key : RecvKey) (req : List UInt8) (replyCap : Nat) :
    Fw η × Reply :=
  if fw.recv.cached then
    let fw := { fw with
      recv := if key.seq = 0 then { fw.recv with cached := false } else fw.recv
      worker := (workerReclaimMatchingTerminal fw.worker .sockRecv 0 (byteAt req 0)).2 }
    if fw.recv.status = .ok then
      if replyCap < fw.recv.replyLen then (fw, .bare .errNoMem)
      else (fw, { status := .ok, data := fw.recv.reply.read 0 fw.recv.replyLen })
    else (fw, .bare fw.recv.status)
  else
    handleWorkerRoutedPayloadReply { fw with worker := (workerDiscardStaleRecv fw.worker).2 }
      .sockRecv req sockRecvRespBytes replyCap

/-- Drop the cached receive reply if it answers another request. -/
def RecvCache.forget (c : RecvCache) (key : RecvKey) : RecvCache :=
  if c.cached = true ∧ key ≠ c.key then { c with cached := false } else c

/-- `handle_sock_recv`. -/
def handleSockRecv (fw : Fw η) (req : List UInt8) (replyCap : Nat) : Fw η × Reply :=
  if req.length ≠ 4 then (fw, .bare .errInvalid)
  else
    let key := sockRecvKey fw.currentReqSeq req
    let fw := { fw with recv := fw.recv.forget key }
    match sockRecvFromRing fw key replyCap with
    | (some r, fw) => (fw, r)
    | (none, fw) => sockRecvFromWorker fw key req replyCap

end Cc3501eBridge
