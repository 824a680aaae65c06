import Cc3501eBridge.Dispatch

/-!
# What the drain runs

The `switch` of `worker_execute`: which HAL body a job calls, with which arguments read from the
request buffer, and how the body's results are packed into the reply data.  The bodies block for as
long as they like and return whatever the radio gives them, so a return is a value `HalRet` chosen
by the environment; `HalRet.fits` is the part of the HAL's contract the packing relies on.
-/

namespace Cc3501eBridge

variable {η : Type}

/-- A call of a blocking HAL body with its arguments. -/
inductive HalCall
  | getMac
  | wifiGetRssi
  | wifiScan (cap : Nat)
  | wifiConnectSta (ssid psk : List UInt8) (security : UInt8)
  | wifiApStart (ssid psk : List UInt8) (security : UInt8)
  | wifiDisconnect
  | wifiApStop
  | bleEnable
  | bleDisable
  | bleScan (cap : Nat)
  | bleScanStop
  | bleAdvStart (connectable : UInt8) (itvlMin itvlMax : UInt16) (advData : List UInt8)
  | bleAdvStop
  | bleConnect (addrType : UInt8) (addr : List UInt8)
  | bleDisconnect
  | bleGattRegister (desc : List UInt8) (maxHandles : Nat)
  | bleGattNotify (handle : UInt16) (data : List UInt8)
  | bleGattWrite (handle : UInt16) (data : List UInt8)
  | bleGattRead (handle : UInt16) (cap : Nat)
  | sockOpen (family type protocol : UInt8)
  | sockConnect (handle : UInt16) (family : UInt8) (port : UInt16) (addr : List UInt8)
  | sockBind (handle : UInt16) (family : UInt8) (port : UInt16) (addr : List UInt8)
  | sockListen (handle : UInt16) (backlog : UInt8)
  | sockSend (handle : UInt16) (flags : UInt8) (data : List UInt8)
  | sockRecv (handle maxLen : UInt16) (cap : Nat)
  | sockClose (handle : UInt16)
  | spi1Configure (freqHz : UInt32) (mode bitsPerWord cs : UInt8)
  | spi1Transfer (tx : Option (List UInt8)) (wantRx : Bool) (len : Nat) (txFill : UInt8)
      (csHold : Bool)
  | spi1Release
  | notimpl
  deriving DecidableEq, Repr

/-- What a body returns and stores through its out-pointers. -/
structure HalRet where
  rv : Int
  /-- The byte output: MAC address, RSSI, scan records, attribute value or received data. -/
  data : List UInt8 := []
  /-- The 16-bit output: a socket handle or a byte count. -/
  word : UInt16 := 0
  /-- The attribute handles of `BLE_GATT_REGISTER`. -/
  handles : List UInt16 := []
  /-- The actual clock of `SPI1_CONFIGURE`. -/
  freqHz : UInt32 := 0
  /-- The sender of a datagram. -/
  fromAddr : List UInt8 := []
  fromPort : UInt16 := 0
  /-- Whether the socket just connected is a stream socket. -/
  stream : Bool := false
  deriving DecidableEq, Repr

/-- `n` bytes of an output array. -/
def fixBytes (n : Nat) (xs : List UInt8) : List UInt8 := (List.range n).map (byteAt xs)

@[simp] theorem length_fixBytes (n : Nat) (xs : List UInt8) : (fixBytes n xs).length = n := by
  simp [fixBytes]

namespace Buf

/-- `wk_get_le16(p, off)`. -/
def word (b : Buf) (off : Nat) : UInt16 := getLe16 (b off) (b (off + 1))

/-- `wk_get_le32(p, off)`. -/
def long (b : Buf) (off : Nat) : UInt32 :=
  getLe32 (b off) (b (off + 1)) (b (off + 2)) (b (off + 3))

end Buf

/-- The receive capacity `worker_execute` offers: what a reply can carry beside its header, and no
more than was asked for. -/
def sockRecvDataCap (B : Build) (maxLen : UInt16) : Nat :=
  let dataCap := B.replyDataMax - sockRecvRespBytes
  if maxLen ≠ 0 ∧ maxLen.toNat < dataCap then maxLen.toNat else dataCap

/-- The HAL call of a job with request buffer `req`: the `switch` of `worker_execute` up to the
call. -/
def Env.halCall (E : Env η) (cmd : Cmd) (req : Buf) (reqLen : Nat) : HalCall :=
  match cmd with
  | .getMac => .getMac
  | .wifiGetRssi => .wifiGetRssi
  | .wifiScanStart => .wifiScan E.build.replyDataMax
  | .bleEnable => .bleEnable
  | .bleScanStart => .bleScan E.build.replyDataMax
  | .bleAdvStart =>
      .bleAdvStart (req 0) (req.word 2) (req.word 4) (req.read 7 (req 6).toNat)
  | .bleAdvStop => .bleAdvStop
  | .bleScanStop => .bleScanStop
  | .bleDisconnect => .bleDisconnect
  | .bleDisable => .bleDisable
  | .bleConnect => .bleConnect (req 0) (req.read 1 6)
  | .bleGattRegister => .bleGattRegister (req.read 0 reqLen) bleGattMaxChars
  | .bleGattNotify => .bleGattNotify (req.word 0) (req.read 2 (reqLen - 2))
  | .bleGattWrite => .bleGattWrite (req.word 0) (req.read 2 (reqLen - 2))
  | .bleGattRead => .bleGattRead (req.word 0) E.build.replyDataMax
  | .wifiApStart | .wifiConnectSta =>
      let ssidLen := (req E.hdr.ssidLenOff).toNat
      let pskLen := (req E.hdr.pskLenOff).toNat
      let ssid := req.read E.hdr.wifiConnectBytes ssidLen
      let psk := req.read (E.hdr.wifiConnectBytes + ssidLen) pskLen
      if cmd = .wifiApStart then .wifiApStart ssid psk (req E.hdr.securityOff)
      else .wifiConnectSta ssid psk (req E.hdr.securityOff)
  | .wifiDisconnect => .wifiDisconnect
  | .wifiApStop => .wifiApStop
  | .sockOpen => .sockOpen (req 0) (req 1) (req 2)
  | .sockConnect => .sockConnect (req.word 0) (req 4) (req.word 6) (req.read 8 4)
  | .sockSend => .sockSend (req.word 0) (req 2) (req.read 8 (req.word 4).toNat)
  | .sockRecv => .sockRecv (req.word 0) (req.word 2) (sockRecvDataCap E.build (req.word 2))
  | .sockClose => .sockClose (req.word 0)
  | .sockBind => .sockBind (req.word 0) (req 4) (req.word 6) (req.read 8 4)
  | .sockListen => .sockListen (req.word 0) (req 2)
  | .spi1Configure => .spi1Configure (req.long 0) (req 4) (req 5) (req 6)
  | .spi1Transfer =>
      let len := (req.word 0).toNat
      let flags := req 2
      .spi1Transfer
        (if hasFlag flags E.hdr.spi1XferNoTx then none else some (req.read 8 len))
        (!hasFlag flags E.hdr.spi1XferNoRx) len (req 4) (hasFlag flags E.hdr.spi1XferCsHold)
  | .spi1Release => .spi1Release
  | _ => .notimpl

/-- What the HAL promises about a return: an output stays within the capacity it was given. -/
def HalRet.fits (r : HalRet) : HalCall → Bool
  | .wifiScan cap | .bleScan cap | .bleGattRead _ cap | .sockRecv _ _ cap => r.data.length ≤ cap
  | .bleGattRegister _ n => r.handles.length ≤ n
  | .notimpl => r.rv = hwErrNotimpl
  | _ => true

/-- The header of a worker-served receive: sender, data length, reserved bytes. -/
def sockRecvHeader (E : Env η) (r : HalRet) : List UInt8 :=
  [E.hdr.sockFamilyIpv4, 0] ++ le16 r.fromPort ++ fixBytes 4 r.fromAddr ++ List.replicate 12 0 ++
    le16 (UInt16.ofNat r.data.length) ++ [0, 0]

/-- The reply data of a body that returned OK: the second half of each case of `worker_execute`. -/
def Env.packOk (E : Env η) (cmd : Cmd) (req : Buf) (r : HalRet) : List UInt8 :=
  match cmd with
  | .getMac => fixBytes 6 r.data
  | .wifiGetRssi => fixBytes 1 r.data
  | .wifiScanStart | .bleScanStart | .bleGattRead => r.data
  | .bleGattRegister =>
      [0, UInt8.ofNat r.handles.length] ++ (r.handles.map le16).flatten
  | .sockOpen => le16 r.word ++ [0, 0]
  | .sockSend => le16 r.word
  | .sockRecv => sockRecvHeader E r ++ r.data
  | .spi1Configure =>
      le32 r.freqHz ++ le16 (UInt16.ofNat E.build.spi1MaxXferV4) ++ [req 5, 0]
  | .spi1Transfer =>
      let noRx := hasFlag (req 2) E.hdr.spi1XferNoRx
      le16 (if noRx then 0 else req.word 0) ++
        [if hasFlag (req 2) E.hdr.spi1XferCsHold then E.hdr.spi1XferCsHold else 0, req 3] ++
        (if noRx then [] else fixBytes (req.word 0).toNat r.data)
  | _ => []

/-- What `worker_execute` publishes: the return code and, on success, the packed bytes, clamped to
the result buffer. -/
structure ExecOut where
  rv : Int
  buf : List UInt8

/-- The state of `worker_execute` after the `switch` and the clamp. -/
def Env.execOut (E : Env η) (cmd : Cmd) (req : Buf) (r : HalRet) : ExecOut where
  rv := r.rv
  buf := if r.rv = hwOk then (E.packOk cmd req r).take maxPayload else []

@[simp] theorem length_sockRecvHeader (E : Env η) (r : HalRet) :
    (sockRecvHeader E r).length = sockRecvRespBytes := by
  simp [sockRecvHeader, sockRecvRespBytes]

/-- The data a receive may bring back fits its cache together with the header. -/
theorem sockRecvDataCap_le (B : Build) (maxLen : UInt16) :
    sockRecvDataCap B maxLen + sockRecvRespBytes ≤ B.replyDataMax := by
  have h : sockRecvRespBytes ≤ B.replyDataMax := by
    unfold Build.replyDataMax
    split <;> decide
  simp only [sockRecvDataCap]
  split_ifs <;> omega

/-- Byte `i` of a job's payload is byte `i` of its request buffer. -/
theorem Job.byteAt_payload (j : Job) {i : Nat} (h : i < j.payload.length) :
    byteAt j.payload i = j.req i := by
  have hi : i < j.reqLen := by simpa [payload] using h
  rw [byteAt, List.getD_eq_getElem?_getD, payload, Buf.getElem?_read, if_pos hi]
  simp

theorem Job.wordAt_payload (j : Job) {i : Nat} (h : i + 1 < j.payload.length) :
    wordAt j.payload i = j.req.word i := by
  rw [wordAt, j.byteAt_payload (Nat.lt_of_succ_lt h), j.byteAt_payload h, Buf.word]

end Cc3501eBridge
