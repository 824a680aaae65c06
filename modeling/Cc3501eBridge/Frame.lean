import Cc3501eBridge.Outcomes

/-!
# Building a reply

`protocol_build_reply`: check a request frame, hand its payload to `protocol_dispatch`, and frame
what comes back.  The source has two bodies, chosen when it is compiled: one for the wire with a CRC
trailer and one for the legacy wire without.  Both are here, each in the three parts it consists of:
the request gate, the clamp with the frame counters, and the framing.

Handlers write straight into the reply frame, so the frame is a buffer with whatever it held before,
and an outcome says what the handler reported about it.  The gate is written over an arbitrary
`Dispatcher`: what it lets through does not depend on what happens behind it.
-/

namespace Cc3501eBridge

variable {η : Type}

/-! ## What is behind the gate -/

/-- What a handler reports, and the reply frame as it left it. -/
structure Outcome where
  status : Resp
  dataLen : Nat
  frame : Buf

/-- Something that serves requests: state, opcode, flags, payload, room for data, reply frame.  It
leaves the frame counters alone. -/
structure Dispatcher (η : Type) where
  run : Fw η → UInt8 → UInt8 → List UInt8 → Nat → Buf → Fw η × Outcome
  run_stats : ∀ fw cmd flags req cap frame, (run fw cmd flags req cap frame).1.stats = fw.stats

/-- `protocol_dispatch` in that role: a handler's data is written behind the status byte. -/
def dispatcher (E : Env η) : Dispatcher η where
  run fw cmd flags req cap frame :=
    let (fw, reply) := protocolDispatch E fw cmd flags req cap
    (fw, { status := reply.status, dataLen := reply.data.length,
           frame := frame.write replyDataOff reply.data })
  run_stats _ cmd flags _ _ _ := (protocolDispatch_frame cmd flags).2

/-! ## The request gate -/

/-- `crc16_table_update`: the table is built on first use. -/
def crc16TableUpdate (m : Crc16.Memo) (crc : UInt16) (buf : List UInt8) : UInt16 × Crc16.Memo :=
  (Crc16.updateTable m.ensure.table crc buf, m.ensure)

/-- The opcode a reply echoes. -/
def cmdEcho (req : List UInt8) : UInt8 := req.headD 0

/-- The payload length a request declares. -/
def declaredLen (req : List UInt8) : UInt16 := getLe16 (byteAt req 2) (byteAt req 3)

/-- No dispatch. -/
def rejected (fw : Fw η) (frame : Buf) : Fw η × Outcome :=
  (fw, { status := .errProtocol, dataLen := 0, frame := frame })

variable (E : Env η) (D : Dispatcher η)

/-- The gate of the wire with CRC. -/
def requestCrc (fw : Fw η) (req : List UInt8) (frame : Buf) (replyCap : Nat) : Fw η × Outcome :=
  if headerBytes ≤ req.length then
    let flags := byteAt req 1
    let payloadLen := declaredLen req
    if headerBytes + payloadLen.toNat = req.length then
      if cmdEcho req = E.hdr.opcode .getVersion ∧ payloadLen = 0 then
        D.run fw (cmdEcho req) flags [] (replyCap - replyDataOff - crcBytes) frame
      else if UInt16.ofNat crcBytes ≤ payloadLen then
        let logicalLen := (payloadLen - UInt16.ofNat crcBytes).toNat
        let logical := (req.drop headerBytes).take logicalLen
        let (crc, m) := crc16TableUpdate fw.crc Crc16.initReg (req.take headerBytes)
        let (crc, m) := if 0 < logicalLen then crc16TableUpdate m crc logical else (crc, m)
        let wireCrc := getLe16 (byteAt req (headerBytes + logicalLen))
          (byteAt req (headerBytes + logicalLen + 1))
        let fw := { fw with crc := m }
        if crc = wireCrc then
          D.run fw (cmdEcho req) flags logical (replyCap - replyDataOff - crcBytes) frame
        else rejected fw frame
      else rejected fw frame
    else rejected fw frame
  else rejected fw frame

/-- The gate of the legacy wire: only a `GET_VERSION` may carry a CRC. -/
def requestLegacy (fw : Fw η) (req : List UInt8) (frame : Buf) (replyCap : Nat) : Fw η × Outcome :=
  if headerBytes ≤ req.length then
    let flags := byteAt req 1
    let payloadLen := declaredLen req
    if headerBytes + payloadLen.toNat = req.length then
      if cmdEcho req = E.hdr.opcode .getVersion ∧ payloadLen = UInt16.ofNat crcBytes then
        let (crc, m) := crc16TableUpdate fw.crc Crc16.initReg (req.take headerBytes)
        let wireCrc := getLe16 (byteAt req headerBytes) (byteAt req (headerBytes + 1))
        let fw := { fw with crc := m }
        if crc = wireCrc then D.run fw (cmdEcho req) flags [] (replyCap - replyDataOff) frame
        else rejected fw frame
      else
        D.run fw (cmdEcho req) flags (req.drop headerBytes) (replyCap - replyDataOff) frame
    else rejected fw frame
  else rejected fw frame

/-! ## Clamp and counters -/

/-- A handler that reports more data than it was offered room for fails instead. -/
def Outcome.clamp (o : Outcome) (dataCap : Nat) : Outcome :=
  if o.dataLen > dataCap then { o with dataLen := 0, status := .errNoMem } else o

/-- Count a reply by its status. -/
def Stats.count (st : Stats) (status : Resp) : Stats :=
  if status = .ok then { st with framesOk := st.framesOk + 1 }
  else { st with framesErr := st.framesErr + 1, lastError := status }

/-! ## Framing -/

/-- The zero bytes a payload is padded with, if they still fit. -/
def replyPadding (replyPayload : UInt16) (replyCap : Nat) : UInt16 :=
  let rem := replyPayload % UInt16.ofNat replyPad
  if rem ≠ 0 then
    let pad := UInt16.ofNat replyPad - rem
    if headerBytes + replyPayload.toNat + pad.toNat ≤ replyCap then pad else 0
  else 0

/-- A reply as it stands in the frame buffer, with the state it leaves. -/
structure BuiltReply (η : Type) where
  fw : Fw η
  length : Nat
  frame : Buf

/-- The bytes that go on the wire. -/
def BuiltReply.bytes (r : BuiltReply η) : List UInt8 := r.frame.read 0 r.length

/-- The framing of the wire with CRC: the pad goes before the trailer. -/
def frameReplyCrc (cmd : UInt8) (m : Crc16.Memo) (o : Outcome) (replyCap : Nat) :
    Crc16.Memo × Nat × Buf :=
  let replyPayload := UInt16.ofNat (1 + o.dataLen + crcBytes)
  let pad := replyPadding replyPayload replyCap
  let frame := o.frame.write (replyStatusOff + 1 + o.dataLen) (List.replicate pad.toNat 0)
  let replyPayload := replyPayload + pad
  let frame := frame.write 0 ([cmd, 0] ++ le16 replyPayload)
  let frame := frame.write replyStatusOff [E.hdr.respByte o.status]
  let covered := replyPayload.toNat - crcBytes
  let (crc, m) := crc16TableUpdate m Crc16.initReg (frame.read 0 headerBytes)
  let (crc, m) := crc16TableUpdate m crc (frame.read replyStatusOff covered)
  let frame := frame.write (replyStatusOff + covered) (le16 crc)
  (m, headerBytes + replyPayload.toNat, frame)

/-- The framing of the legacy wire: the pad ends the frame, and success has its own byte. -/
def frameReplyLegacy (cmd : UInt8) (o : Outcome) (replyCap : Nat) : Nat × Buf :=
  let replyPayload := UInt16.ofNat (1 + o.dataLen)
  let pad := replyPadding replyPayload replyCap
  let frame := o.frame.write (replyStatusOff + replyPayload.toNat) (List.replicate pad.toNat 0)
  let replyPayload := replyPayload + pad
  let frame := frame.write 0 ([cmd, 0] ++ le16 replyPayload)
  let frame := frame.write replyStatusOff
    [if o.status = .ok then respOkLegacy else E.hdr.respByte o.status]
  (headerBytes + replyPayload.toNat, frame)

/-! ## The two builds -/

/-- What follows the gate on the wire with CRC. -/
def finishCrc (cmd : UInt8) (fw : Fw η) (o : Outcome) (replyCap : Nat) : BuiltReply η :=
  let o := o.clamp (replyCap - replyDataOff - crcBytes)
  let (m, length, frame) := frameReplyCrc E cmd fw.crc o replyCap
  { fw := { fw with stats := fw.stats.count o.status, crc := m }, length := length, frame := frame }

/-- What follows the gate on the legacy wire. -/
def finishLegacy (cmd : UInt8) (fw : Fw η) (o : Outcome) (replyCap : Nat) : BuiltReply η :=
  let o := o.clamp (replyCap - replyDataOff)
  let (length, frame) := frameReplyLegacy E cmd o replyCap
  { fw := { fw with stats := fw.stats.count o.status }, length := length, frame := frame }

/-- `protocol_build_reply` with `CC3501E_WIRE_CRC`. -/
def protocolBuildReplyCrc (fw : Fw η) (req : List UInt8) (frame : Buf) (replyCap : Nat) :
    BuiltReply η :=
  if replyCap < replyDataOff + crcBytes then { fw := fw, length := 0, frame := frame }
  else
    let (fw, o) := requestCrc E D fw req frame replyCap
    finishCrc E (cmdEcho req) fw o replyCap

/-- `protocol_build_reply` without `CC3501E_WIRE_CRC`. -/
def protocolBuildReplyLegacy (fw : Fw η) (req : List UInt8) (frame : Buf) (replyCap : Nat) :
    BuiltReply η :=
  if replyCap < replyDataOff then { fw := fw, length := 0, frame := frame }
  else
    let (fw, o) := requestLegacy E D fw req frame replyCap
    finishLegacy E (cmdEcho req) fw o replyCap

/-- `protocol_build_reply`. -/
def protocolBuildReply (fw : Fw η) (req : List UInt8) (frame : Buf) (replyCap : Nat) :
    BuiltReply η :=
  if E.build.wireCrc then protocolBuildReplyCrc E D fw req frame replyCap
  else protocolBuildReplyLegacy E D fw req frame replyCap

end Cc3501eBridge
