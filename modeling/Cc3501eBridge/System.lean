import Cc3501eBridge.Lib.Trace
import Cc3501eBridge.Execute

/-!
# The interrupt and the drain

The firmware in motion.  One side is the SPI interrupt: each dispatch runs to completion and is one
step.  The other is the main task, which runs the drain (`worker_run_pending`), pumps the receive
ring and accepts connections; it can be preempted by a dispatch anywhere outside a critical section,
so it appears as the micro-steps between which a dispatch can land.  A copy outside a critical
section is one step per byte.

The environment supplies what the code does not decide: the requests, the results of the blocking
HAL bodies and of lwIP, and every change of the HAL's own state and of the frame counters.  A run of
the machine `system E` is thus one interleaving, and a statement about all runs is a statement about
all of them.

Each step yields one event.  `Ev.dispatch` records the request with its reply and the number of the
job it queued, if it queued one; `exec` and `ret` mark where a HAL body is entered and left.
-/

namespace Cc3501eBridge

variable {η : Type}

/-! ## States -/

/-- A request as `protocol_dispatch` receives it. -/
structure Request where
  cmd : UInt8
  flags : UInt8
  payload : List UInt8
  cap : Nat
  deriving DecidableEq, Repr

/-- Where the main task stands. -/
inductive Pc
  | /-- Between two turns of the main loop's work. -/
    loop
  | /-- The job was promoted to `RUNNING`; `worker_execute` is next. -/
    execute (cmd : Cmd)
  | /-- Inside the HAL body. -/
    hal (cmd : Cmd) (call : HalCall)
  | /-- Before a `SOCK_RECV` invalidates the receive cache. -/
    invalidate (out : ExecOut)
  | /-- `i` bytes of the result copied to `job.result`. -/
    copyResult (cmd : Cmd) (out : ExecOut) (i : Nat)
  | /-- `i` bytes of the result copied to the receive cache. -/
    copyCache (cmd : Cmd) (out : ExecOut) (i : Nat)
  | /-- Before the critical section that publishes the result. -/
    publish (cmd : Cmd) (out : ExecOut)
  | /-- The result is published; the slave is being re-initialised. -/
    reinit (cmd : Cmd)
  | /-- Before the reset that follows a fire-and-forget job. -/
    reset (cmd : Cmd)
  | /-- Before the line is raised again. -/
    ready
  | /-- At the top of pass `pass` of the socket pump. -/
    pumpPass (pass : Nat)
  | /-- Blocked in `lwip_recv` for at most `chunk` bytes at offset `idx`. -/
    pumpRecv (pass idx chunk : Nat)
  | /-- `i` bytes of the received data stored in the ring. -/
    pumpFill (pass idx chunk : Nat) (data : List UInt8) (i : Nat)
  | /-- A connection was accepted; its event is to be pushed. -/
    acceptPush (handle : UInt16) (event : List UInt8)

/-- The firmware's memory, the main task and what lwIP has open. -/
structure Sys (η : Type) where
  fw : Fw η
  pc : Pc
  /-- The ring stores the HAL body at hand still has to make. -/
  pending : List PrefetchStore
  /-- Which handles lwIP has open. -/
  isOpen : UInt16 → Bool

/-! ## Inputs and events -/

/-- What `lwip_recv` returns. -/
inductive LwipRecv
  | data (bytes : List UInt8)
  | closed
  | wouldBlock
  | error
  deriving DecidableEq, Repr

/-- What can happen next. -/
inductive Act (η : Type)
  | /-- The host's request arrives. -/
    dispatch (req : Request)
  | /-- The task takes its next step. -/
    task
  | /-- The HAL body returns. -/
    ret (r : HalRet)
  | /-- The main loop turns to the socket pump. -/
    pump
  | /-- `lwip_recv` returns. -/
    lwip (r : LwipRecv)
  | /-- `lwip_accept` returns a connection on listener `listener` from `peer`. -/
    accept (listener handle port : UInt16) (addr : List UInt8)
  | /-- A driver callback pushes an event. -/
    event (opcode : UInt8) (payload : List UInt8)
  | /-- The HAL's own state changes. -/
    hal (h : η)
  | /-- The frame counters move: `protocol_build_reply` counts a reply. -/
    stats (st : Stats)

/-- What a step shows. -/
inductive Ev
  | dispatch (req : Request) (reply : Reply) (submitted : Option Nat)
  | promote (ticket : Nat)
  | exec (ticket : Nat) (call : HalCall)
  | ret (ticket : Nat) (call : HalCall) (r : HalRet)
  | publish (ticket : Nat) (cmd : Cmd)
  | reset
  | issued (handle : UInt16)
  | lwipRecv (bytes : List UInt8)
  | tau
  deriving DecidableEq, Repr

/-! ## The drain -/

/-- The job the slot holds. -/
def Sys.job (s : Sys η) : Job := s.fw.worker.job

/-- The scalars `worker_execute` stores last: the state flips to `DONE` or `ERR`. -/
def Job.finish (j : Job) (out : ExecOut) : Job :=
  if out.rv = hwOk then { j with resultLen := out.buf.length, err := 0, state := .done }
  else { j with resultLen := 0, err := Int8.ofInt out.rv, state := .err }

/-- The critical section at the end of `worker_execute`: fill the socket caches, then flip the job's
state. -/
def workerPublish (E : Env η) (fw : Fw η) (cmd : Cmd) (out : ExecOut) : Fw η :=
  let job := fw.worker.job
  { fw with
    send := if cmd = .sockSend then
        sockSendOnWorkerComplete fw.send (job.req 3) out.rv out.buf
      else fw.send
    recv := if cmd = .sockRecv then
        sockRecvWorkerPublish E.build fw.recv (job.req.word 0) (job.req.word 2) out.rv out.buf.length
      else fw.recv
    worker := { fw.worker with job := job.finish out } }

namespace Job

variable (j : Job) (out : ExecOut)

@[simp] theorem finish_jobCmd : (j.finish out).jobCmd = j.jobCmd := by unfold finish; split <;> rfl

@[simp] theorem finish_ticket : (j.finish out).ticket = j.ticket := by unfold finish; split <;> rfl

@[simp] theorem finish_req : (j.finish out).req = j.req := by unfold finish; split <;> rfl

@[simp] theorem finish_reqLen : (j.finish out).reqLen = j.reqLen := by unfold finish; split <;> rfl

@[simp] theorem finish_payload : (j.finish out).payload = j.payload := by simp [payload]

theorem finish_terminal : (j.finish out).Terminal := by
  unfold finish Terminal
  split <;> simp

end Job

/-- Whether the drain frees the slot by itself (`WIFI_CONNECT_STA`, `WIFI_AP_START`). -/
def fireAndForget (cmd : Cmd) : Bool := cmd = .wifiConnectSta || cmd = .wifiApStart

/-- The ring stores a HAL body starts with: a close gives the ring up. -/
def prefetchOnEntry (rx : RxRing) : HalCall → List PrefetchStore
  | .sockClose handle => sockPrefetch rx handle false
  | _ => []

/-- The ring stores a HAL body ends with: a connected stream socket takes the ring if it is free. -/
def prefetchOnReturn (rx : RxRing) (r : HalRet) : HalCall → List PrefetchStore
  | .sockConnect handle _ _ _ =>
      if r.rv = hwOk ∧ r.stream = true then sockPrefetch rx handle true else []
  | _ => []

/-- What lwIP allows a body to return: an opened handle was not open, a closed one was. -/
def lwipAllows (isOpen : UInt16 → Bool) (r : HalRet) : HalCall → Bool
  | .sockOpen _ _ _ => r.rv ≠ hwOk || (r.word ≠ 0 && !isOpen r.word)
  | .sockClose handle => r.rv ≠ hwOk || isOpen handle
  | _ => true

/-- What lwIP has open after a body returned. -/
def lwipAfter (isOpen : UInt16 → Bool) (r : HalRet) : HalCall → UInt16 → Bool
  | .sockOpen _ _ _ => if r.rv = hwOk then Function.update isOpen r.word true else isOpen
  | .sockClose handle => if r.rv = hwOk then Function.update isOpen handle false else isOpen
  | _ => isOpen

/-- Store one byte of the result. -/
def Fw.storeResult (fw : Fw η) (i : Nat) (b : UInt8) : Fw η :=
  { fw with worker := { fw.worker with job := { fw.worker.job with
      result := fw.worker.job.result.set i b } } }

/-- Store one byte of the receive cache. -/
def Fw.storeCache (fw : Fw η) (i : Nat) (b : UInt8) : Fw η :=
  { fw with recv := { fw.recv with reply := fw.recv.reply.set i b } }

/-- The next step of the task, when it does not wait for the environment. -/
def taskStep (E : Env η) (s : Sys η) : Option (Sys η × Ev) :=
  match s.pc with
  | .loop =>
      -- `worker_run_pending`'s promotion, under its critical section
      if s.job.state = .queued then
        let worker := { s.fw.worker with job := { s.job with state := .running } }
        some ({ s with fw := { s.fw with worker := worker }, pc := .execute s.job.jobCmd },
          .promote s.job.ticket)
      else some (s, .tau)
  | .execute cmd =>
      let call := E.halCall cmd s.job.req s.job.reqLen
      let worker := { s.fw.worker with execs := s.fw.worker.execs + 1 }
      some ({ s with
          fw := { s.fw with worker := worker }
          pc := .hal cmd call
          pending := prefetchOnEntry s.fw.rx call }, .exec s.job.ticket call)
  | .hal _ _ => none
  | .invalidate out =>
      some ({ s with
          fw := { s.fw with recv := sockRecvWorkerInvalidate s.fw.recv }
          pc := .copyResult .sockRecv out 0 }, .tau)
  | .copyResult cmd out i =>
      if h : out.rv = hwOk ∧ i < out.buf.length then
        some ({ s with
            fw := s.fw.storeResult i out.buf[i]
            pc := .copyResult cmd out (i + 1) }, .tau)
      else some ({ s with pc := .copyCache cmd out 0 }, .tau)
  | .copyCache cmd out i =>
      if h : (cmd = .sockRecv ∧ out.rv = hwOk ∧ out.buf.length ≤ E.build.replyDataMax) ∧
          i < out.buf.length then
        some ({ s with
            fw := s.fw.storeCache i out.buf[i]
            pc := .copyCache cmd out (i + 1) }, .tau)
      else some ({ s with pc := .publish cmd out }, .tau)
  | .publish cmd out =>
      some ({ s with fw := workerPublish E s.fw cmd out, pc := .reinit cmd },
        .publish s.job.ticket cmd)
  | .reinit cmd => some ({ s with pc := .reset cmd }, .tau)
  | .reset cmd =>
      if fireAndForget cmd then
        some ({ s with fw := { s.fw with worker := workerReset s.fw.worker }, pc := .ready }, .reset)
      else some ({ s with pc := .ready }, .tau)
  | .ready => some ({ s with pc := .loop }, .tau)
  | .pumpPass pass =>
      if pass < sockPumpPasses then
        match sockPumpPass s.fw.rx with
        | none => some ({ s with pc := .loop }, .tau)
        | some (idx, chunk) => some ({ s with pc := .pumpRecv pass idx chunk }, .tau)
      else some ({ s with pc := .loop }, .tau)
  | .pumpRecv _ _ _ => none
  | .pumpFill pass idx chunk data i =>
      if h : i < data.length then
        some ({ s with
            fw := { s.fw with rx := sockPumpStore s.fw.rx (idx + i) data[i] }
            pc := .pumpFill pass idx chunk data (i + 1) }, .tau)
      else
        some ({ s with
            fw := { s.fw with rx := sockPumpAdvance s.fw.rx data.length }
            pc := if data.length < chunk then .loop else .pumpPass (pass + 1) }, .tau)
  | .acceptPush handle event =>
      let (accepted, events) := eventRingPush s.fw.events E.hdr.evtSockAccepted event
      some ({ s with
          fw := { s.fw with events := events }
          pc := .loop
          isOpen := if accepted then s.isOpen else Function.update s.isOpen handle false }, .tau)

/-- The HAL body returns `r`. -/
def retStep (E : Env η) (s : Sys η) (r : HalRet) : Option (Sys η × Ev) :=
  match s.pc with
  | .hal cmd call =>
      if s.pending = [] ∧ r.fits call = true ∧ lwipAllows s.isOpen r call = true then
        let out := E.execOut cmd s.job.req r
        some ({ fw := s.fw
                pc := if cmd = .sockRecv then .invalidate out else .copyResult cmd out 0
                pending := prefetchOnReturn s.fw.rx r call
                isOpen := lwipAfter s.isOpen r call }, .ret s.job.ticket call r)
      else none
  | _ => none

/-- `lwip_recv` returns. -/
def lwipStep (s : Sys η) (r : LwipRecv) : Option (Sys η × Ev) :=
  match s.pc with
  | .pumpRecv pass idx chunk =>
      match r with
      | .data bytes =>
          if bytes ≠ [] ∧ bytes.length ≤ chunk then
            some ({ s with pc := .pumpFill pass idx chunk bytes 0 }, .lwipRecv bytes)
          else none
      | .closed =>
          some ({ s with fw := { s.fw with rx := { s.fw.rx with peerClosed := true } }, pc := .loop },
            .tau)
      | .wouldBlock => some ({ s with pc := .loop }, .tau)
      | .error =>
          some ({ s with fw := { s.fw with rx := { s.fw.rx with peerError := true } }, pc := .loop },
            .tau)
  | _ => none

/-- The payload of the event that announces an accepted connection. -/
def acceptEvent (E : Env η) (listener handle port : UInt16) (addr : List UInt8) : List UInt8 :=
  le16 listener ++ le16 handle ++ le16 port ++ [E.hdr.sockFamilyIpv4, 0] ++ fixBytes 4 addr

/-- The number of the job a dispatch queued, read off the submission counter. -/
def queuedBy (w w' : Worker) : Option Nat := if w'.submits = w.submits then none else some w.submits

/-- One step of the firmware in its environment. -/
def sysStep (E : Env η) (s : Sys η) : Act η → Option (Sys η × Ev)
  | .dispatch req =>
      let (fw, reply) := protocolDispatch E s.fw req.cmd req.flags req.payload req.cap
      some ({ s with fw := fw }, .dispatch req reply (queuedBy s.fw.worker fw.worker))
  | .task =>
      match s.pending with
      | [] => taskStep E s
      | st :: rest => some ({ s with fw := { s.fw with rx := st.apply s.fw.rx }, pending := rest }, .tau)
  | .ret r => retStep E s r
  | .pump =>
      match s.pc, s.pending, sockPumpStart s.fw.rx with
      | .loop, [], some _ => some ({ s with pc := .pumpPass 0 }, .tau)
      | _, _, _ => none
  | .lwip r => lwipStep s r
  | .accept listener handle port addr =>
      match s.pc with
      | .loop =>
          if handle ≠ 0 ∧ s.isOpen handle = false then
            some ({ s with
                pc := .acceptPush handle (acceptEvent E listener handle port addr)
                isOpen := Function.update s.isOpen handle true }, .issued handle)
          else none
      | _ => none
  | .event opcode payload =>
      some ({ s with fw := { s.fw with events := (eventRingPush s.fw.events opcode payload).2 } }, .tau)
  | .hal h => some ({ s with fw := { s.fw with hal := h } }, .tau)
  | .stats st => some ({ s with fw := { s.fw with stats := st } }, .tau)

/-- The firmware as a machine. -/
def system (E : Env η) : Machine (Sys η) (Act η) Ev where
  step := sysStep E

/-- The state in which the main loop starts: nothing queued, nothing cached, no socket. -/
def Sys.boot (hal : η) : Sys η where
  fw := .boot hal
  pc := .loop
  pending := []
  isOpen := fun _ => false

end Cc3501eBridge
