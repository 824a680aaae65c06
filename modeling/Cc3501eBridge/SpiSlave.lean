import Cc3501eBridge.Lib.Trace
import Cc3501eBridge.Frame

/-!
# The SPI slave

The transport under the frames.  The host clocks a transaction in four transfers: request header,
request payload, reply header, reply payload.  The slave arms one of them at a time and moves on when
the driver reports that it has finished (`on_transfer`).  In update mode there are no callbacks: a
transfer is only recorded, and `poll_service` executes it with a blocking call.

The driver is the environment.  It holds at most one armed transfer, finishes it at most once, and
has stored exactly the armed number of bytes when it reports `COMPLETED`; everything else about it is
open: the bytes, the status, and whether it accepts the next transfer.  Closing the handle discards
the armed transfer.  `on_transfer` runs in the driver's callback, and a callback needs an armed
transfer, so it does not interrupt the re-opening of the slave, during which there is none.

Left out are the hardware FIFOs, the time stamps of the two watchdogs and the statistics nothing here
reads.
-/

namespace Cc3501eBridge

variable {η : Type}

/-! ## The seam -/

/-- The buffers between the slave and the protocol: the request being received and the reply being
sent. -/
structure SpiSeam where
  rxBuf : Buf
  rxLen : Nat
  txBuf : Buf
  txLen : Nat
  txCursor : Nat

namespace SpiSeam

/-- `transport_spi_init`. -/
def init : SpiSeam where
  rxBuf := .zero
  rxLen := 0
  txBuf := .zero
  txLen := 0
  txCursor := 0

/-- `spi_slave_cs_low`. -/
def csLow (m : SpiSeam) : SpiSeam := { m with rxLen := 0 }

/-- `spi_slave_rx_byte`: a byte past the buffer is dropped. -/
def rxByte (m : SpiSeam) (b : UInt8) : SpiSeam :=
  if m.rxLen < frameMaxBytes then { m with rxBuf := m.rxBuf.set m.rxLen b, rxLen := m.rxLen + 1 }
  else m

/-- `spi_slave_cs_high`: without a request the staged reply is served again from its beginning. -/
def csHigh (E : Env η) (D : Dispatcher η) (fw : Fw η) (m : SpiSeam) : Fw η × SpiSeam :=
  if m.rxLen = 0 then (fw, { m with txCursor := 0 })
  else
    let r := protocolBuildReply E D fw (m.rxBuf.read 0 m.rxLen) m.txBuf frameMaxBytes
    (r.fw, { m with txBuf := r.frame, txLen := r.length, txCursor := 0 })

/-- `spi_slave_tx_take`: copy what is left of the reply to `dst`. -/
def txTake (m : SpiSeam) (dst : Buf) (cap : Nat) : Buf × Nat × SpiSeam :=
  if cap = 0 then (dst, 0, m)
  else
    let n := m.txLen - m.txCursor
    let n := if n > cap then cap else n
    (dst.write 0 (m.txBuf.read m.txCursor n), n,
      { m with txCursor := m.txCursor + (UInt16.ofNat n).toNat })

end SpiSeam

/-! ## States -/

/-- What the host is to clock next, `enum spi_phase`. -/
inductive SpiPhase
  | reqHeader
  | reqPayload
  | replyHeader
  | replyPayload
  deriving DecidableEq, Repr

/-- Where the bytes of a transfer are sent from. -/
inductive TxSource
  | /-- The marker of a frame boundary. -/
    syncIdle
  | dummyZero
  | /-- `reply_buf`, from an offset on. -/
    reply (off : Nat)
  deriving DecidableEq, Repr

/-- An `SPI_Transaction`: where received bytes are stored in `frame_buf`, if anywhere, what is sent,
and how many bytes are clocked. -/
structure SpiTransfer where
  rx : Option Nat
  tx : TxSource
  count : Nat
  deriving DecidableEq, Repr

/-- How a transfer ended. -/
inductive SpiStatus
  | completed
  | canceled
  | failed
  deriving DecidableEq, Repr

/-- The slave, the seam above it and the driver below. -/
structure SpiSlave (η : Type) where
  fw : Fw η
  seam : SpiSeam
  /-- Whether the handle `spi` is open. -/
  isOpen : Bool
  phase : SpiPhase
  frameBuf : Buf
  replyBuf : Buf
  replyLen : Nat
  curPayloadLen : UInt16
  syncIdle : Buf
  quiesce : Bool
  /-- The transfer recorded for `poll_service`. -/
  pend : Option SpiTransfer
  replyArmed : Bool
  /-- The level of the READY line. -/
  ready : Bool
  resyncCount : UInt32
  armFailCount : UInt32
  openFailed : Bool
  /-- The transfer the driver holds. -/
  armed : Option SpiTransfer
  /-- Inside `poll_service`: the turns its loop has left. -/
  polling : Option Nat

/-- Before `transport_spi_init`. -/
def SpiSlave.boot (fw : Fw η) : SpiSlave η where
  fw := fw
  seam := .init
  isOpen := false
  phase := .reqHeader
  frameBuf := .zero
  replyBuf := .zero
  replyLen := 0
  curPayloadLen := 0
  syncIdle := .zero
  quiesce := false
  pend := none
  replyArmed := false
  ready := false
  resyncCount := 0
  armFailCount := 0
  openFailed := false
  armed := none
  polling := none

/-- What a step shows. -/
inductive SpiEv
  | /-- A transfer that receives was completed: its place in `frame_buf`, its bytes and, if the frame
    was dispatched, the frame and the reply to it. -/
    received (off : Nat) (bytes : List UInt8) (dispatched : Option (List UInt8 × List UInt8))
  | /-- A reply was sent to its end. -/
    replySent
  | tau
  deriving DecidableEq, Repr

/-! ## The phase machine -/

/-- The opcodes from here on are no requests. -/
def cmdReservedVendorBase : UInt8 := 0x80

/-- The byte sent while the slave waits for a request. -/
def syncIdleByte : UInt8 := 0xA5

/-- The number of turns of `poll_service`. -/
def pollTurns : Nat := 8

/-- The transfer that receives a request header. -/
def headerTransfer : SpiTransfer where
  rx := some 0
  tx := .syncIdle
  count := headerBytes

/-- The transfer that receives a request payload of `n` bytes. -/
def payloadTransfer (n : Nat) : SpiTransfer where
  rx := some headerBytes
  tx := .dummyZero
  count := n

/-- The transfer that sends `n` bytes of the reply from an offset on. -/
def replyTransfer (off n : Nat) : SpiTransfer where
  rx := none
  tx := .reply off
  count := n

namespace SpiSlave

section

variable (polled : Bool) (ok : Bool) (s : SpiSlave η)

/-- `arm_transfer`, where `ok` tells whether the driver accepts the transfer. -/
def armTransfer (t : SpiTransfer) : SpiSlave η × Bool :=
  if s.quiesce then (s, false)
  else if polled then ({ s with pend := some t }, true)
  else if ok then ({ s with armed := some t, ready := true }, true)
  else ({ s with armFailCount := s.armFailCount + 1 }, false)

/-- `arm_request_header`. -/
def armRequestHeader : SpiSlave η :=
  (({ s with phase := .reqHeader } : SpiSlave η).armTransfer polled ok headerTransfer).1

/-- Enter a phase the watchdog looks after, and arm its transfer. -/
def armWatched (phase : SpiPhase) (t : SpiTransfer) : SpiSlave η :=
  let (s, armed) := ({ s with phase := phase } : SpiSlave η).armTransfer polled ok t
  { s with replyArmed := if armed then true else s.replyArmed }

end

/-- `dispatch_frame`: replay the captured frame through the seam and fetch the reply. -/
def dispatchFrame (E : Env η) (D : Dispatcher η) (s : SpiSlave η) (frameLen : Nat) : SpiSlave η :=
  let m := (s.frameBuf.read 0 frameLen).foldl SpiSeam.rxByte s.seam.csLow
  let (fw, m) := m.csHigh E D s.fw
  let (replyBuf, n, m) := m.txTake s.replyBuf frameMaxBytes
  { s with fw := fw, seam := m, replyBuf := replyBuf, replyLen := (UInt16.ofNat n).toNat }

/-- The declared payload length, bounded by the buffer. -/
def clampLen (declared : UInt16) : UInt16 :=
  if declared > UInt16.ofNat maxPayload then UInt16.ofNat maxPayload else declared

/-- The frame in `frame_buf` and the staged reply to it. -/
def exchanged (s : SpiSlave η) (frameLen : Nat) : List UInt8 × List UInt8 :=
  (s.frameBuf.read 0 frameLen, s.replyBuf.read 0 s.replyLen)

/-- `on_transfer` once the transfer was completed, by phase.  With the state comes the exchange, if a
frame was dispatched. -/
def advance (E : Env η) (D : Dispatcher η) (polled ok : Bool) (s : SpiSlave η) :
    SpiSlave η × Option (List UInt8 × List UInt8) :=
  match s.phase with
  | .reqHeader =>
      if s.frameBuf 0 ≥ cmdReservedVendorBase then
        (({ s with resyncCount := s.resyncCount + 1 } : SpiSlave η).armRequestHeader polled ok, none)
      else
        let plen := clampLen (getLe16 (s.frameBuf 2) (s.frameBuf 3))
        let s := { s with curPayloadLen := plen }
        if plen = 0 then
          let s := s.dispatchFrame E D headerBytes
          (s.armWatched polled ok .replyHeader (replyTransfer 0 headerBytes),
            some (s.exchanged headerBytes))
        else (s.armWatched polled ok .reqPayload (payloadTransfer plen.toNat), none)
  | .reqPayload =>
      let frameLen := headerBytes + s.curPayloadLen.toNat
      let s := s.dispatchFrame E D frameLen
      (s.armWatched polled ok .replyHeader (replyTransfer 0 headerBytes), some (s.exchanged frameLen))
  | .replyHeader =>
      (s.armWatched polled ok .replyPayload (replyTransfer headerBytes (s.replyLen - headerBytes)),
        none)
  | .replyPayload => (s.armRequestHeader polled ok, none)

/-- `on_transfer`.  Of the transfers that were not completed, only a cancelled one leaves the slave
without a transfer. -/
def onTransfer (E : Env η) (D : Dispatcher η) (polled ok : Bool) (s : SpiSlave η)
    (status : SpiStatus) : SpiSlave η × Option (List UInt8 × List UInt8) :=
  let s := { s with replyArmed := false, ready := false }
  match status with
  | .completed => s.advance E D polled ok
  | .canceled => (s, none)
  | .failed => (s.armRequestHeader polled ok, none)

/-! ## Opening and closing -/

/-- `SPI_close`. -/
def close (s : SpiSlave η) : SpiSlave η :=
  if s.isOpen then { s with isOpen := false, armed := none } else s

/-- `spi_open_and_arm`, where `opens` tells whether one of the attempts to open succeeds. -/
def openAndArm (polled opens ok : Bool) (s : SpiSlave η) : SpiSlave η :=
  let s := { s with
    replyArmed := false
    syncIdle := s.syncIdle.write 0 (List.replicate headerBytes syncIdleByte)
    isOpen := opens }
  if opens then
    ({ s with
        openFailed := false
        resyncCount := 0
        fw := { s.fw with crc := s.fw.crc.ensure } } : SpiSlave η).armRequestHeader polled ok
  else { s with openFailed := true }

/-- `bridge_transport_spi_hw_reinit`; with no handle open also `bridge_transport_spi_hw_init`. -/
def hwReinit (polled opens ok : Bool) (s : SpiSlave η) : SpiSlave η :=
  if polled ∧ s.isOpen then s else s.close.openAndArm polled opens ok

/-- `bridge_transport_spi_hw_release`. -/
def hwRelease (polled : Bool) (s : SpiSlave η) : SpiSlave η :=
  if polled then s else { s.close with phase := .reqHeader, replyArmed := false }

/-- `bridge_transport_spi_hw_suspend`: the transfer is cancelled, which calls `on_transfer`, before
the handle is closed. -/
def hwSuspend (E : Env η) (D : Dispatcher η) (polled : Bool) (s : SpiSlave η) : SpiSlave η :=
  if polled then s
  else
    let s := if s.isOpen ∧ s.armed ≠ none then
        (({ s with armed := none } : SpiSlave η).onTransfer E D polled false .canceled).1
      else s
    { s.close with phase := .reqHeader, replyArmed := false }

/-- `bridge_transport_spi_hw_quiesce`. -/
def hwQuiesce (polled on : Bool) (s : SpiSlave η) : SpiSlave η :=
  if polled then s else { s with quiesce := on }

/-! ## The driver -/

/-- The driver stores received bytes. -/
def store (s : SpiSlave η) (t : SpiTransfer) (bytes : List UInt8) : SpiSlave η :=
  { s with
    frameBuf := match t.rx with
      | some off => s.frameBuf.write off bytes
      | none => s.frameBuf }

/-- The top of the loop of `poll_service`, with `turns` turns left: the recorded transfer is handed
to the driver, and the call blocks. -/
def pollNext (s : SpiSlave η) (turns : Nat) : SpiSlave η :=
  match turns, s.pend with
  | n + 1, some t => { s with pend := none, armed := some t, ready := true, polling := some n }
  | _, _ => { s with polling := none }

/-- The blocking transfer of `poll_service` returned: `true` with the phase completed, or `false`. -/
def pollReturn (E : Env η) (D : Dispatcher η) (s : SpiSlave η) (turns : Nat) (returned : Bool) :
    SpiSlave η × Option (List UInt8 × List UInt8) :=
  if returned then
    let (s, out) := ({ s with ready := false } : SpiSlave η).onTransfer E D true true .completed
    (if s.phase = .reqHeader then { s with polling := none } else s.pollNext turns, out)
  else
    let s := ({ s with armFailCount := s.armFailCount + 1 } : SpiSlave η).armRequestHeader true true
    ({ s with ready := false, polling := none }, none)

end SpiSlave

/-! ## The machine -/

/-- What can happen next. -/
inductive SpiAct (η : Type)
  | /-- The rest of the firmware moves. -/
    fw (fw : Fw η)
  | /-- The driver has stored a part of what it receives. -/
    clocked (bytes : List UInt8)
  | /-- The armed transfer ends; `ok` tells whether the driver accepts the next one. -/
    finish (status : SpiStatus) (bytes : List UInt8) (ok : Bool)
  | quiesce (on : Bool)
  | reinit (opens ok : Bool)
  | release
  | suspend
  | /-- The update-mode loop calls `poll_service`. -/
    pollService

/-- What is shown of a transfer that was completed in the phase `phase`. -/
def SpiTransfer.shown (t : SpiTransfer) (phase : SpiPhase) (bytes : List UInt8)
    (dispatched : Option (List UInt8 × List UInt8)) : SpiEv :=
  match t.rx with
  | some off => .received off bytes dispatched
  | none => if phase = .replyPayload then .replySent else .tau

/-- What the code makes of the end of a transfer, in callback mode or inside `poll_service`. -/
def SpiSlave.resume (E : Env η) (D : Dispatcher η) (s : SpiSlave η) (status : SpiStatus) (ok : Bool) :
    SpiSlave η × Option (List UInt8 × List UInt8) :=
  match s.polling with
  | some turns => s.pollReturn E D turns (decide (status = .completed))
  | none => s.onTransfer E D false ok status

/-- The transfer `t` ends. -/
def finishTransfer (E : Env η) (D : Dispatcher η) (s : SpiSlave η) (t : SpiTransfer)
    (status : SpiStatus) (bytes : List UInt8) (ok : Bool) : SpiSlave η × SpiEv :=
  let (s', out) := (({ s with armed := none } : SpiSlave η).store t bytes).resume E D status ok
  (s', if status = .completed then t.shown s.phase bytes out else .tau)

/-- One step of the slave in its environment. -/
def spiStep (E : Env η) (D : Dispatcher η) (polled : Bool) (s : SpiSlave η) :
    SpiAct η → Option (SpiSlave η × SpiEv)
  | .fw fw => some ({ s with fw := fw }, .tau)
  | .clocked bytes =>
      match s.armed with
      | some t => if bytes.length ≤ t.count then some (s.store t bytes, .tau) else none
      | none => none
  | .finish status bytes ok =>
      match s.armed with
      | some t =>
          if bytes.length ≤ t.count ∧ (status = .completed → bytes.length = t.count) then
            some (finishTransfer E D s t status bytes ok)
          else none
      | none => none
  | .quiesce on => some (s.hwQuiesce polled on, .tau)
  | .reinit opens ok => some (s.hwReinit polled opens ok, .tau)
  | .release => some (s.hwRelease polled, .tau)
  | .suspend => some (s.hwSuspend E D polled, .tau)
  | .pollService =>
      if polled ∧ s.isOpen ∧ s.polling = none ∧ s.pend ≠ none then
        some (s.pollNext pollTurns, .tau)
      else none

/-- The SPI slave as a machine. -/
def spiSystem (E : Env η) (D : Dispatcher η) (polled : Bool) : Machine (SpiSlave η) (SpiAct η) SpiEv where
  step := spiStep E D polled

/-- The bytes an armed transfer sends, as the buffers stand. -/
def SpiSlave.offered (s : SpiSlave η) (t : SpiTransfer) : List UInt8 :=
  match t.tx with
  | .syncIdle => s.syncIdle.read 0 t.count
  | .dummyZero => List.replicate t.count 0
  | .reply off => s.replyBuf.read off t.count

end Cc3501eBridge
