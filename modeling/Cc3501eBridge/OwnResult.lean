import Cc3501eBridge.Reference
import Cc3501eBridge.ResultInv

/-!
# Whose result a request is answered with

A worker-routed request polls the slot by its opcode and is answered with the finished job it finds
there.  The slot remembers which request that job came from, but the poll does not look: if the host
gave up on one request and then issues another of the same opcode with other arguments, the second
is answered with the outcome of the first.  `SOCK_SEND`, `SOCK_RECV` and `SPI1_TRANSFER` guard
against this, each in its own way; the opcodes of `Cmd.routedPayload` do not.

`OwnJob` is the condition under which they are answered with their own result all the same.
-/

namespace Cc3501eBridge

variable {η : Type}

open Trace

/-- The opcodes with a payload that answer from the slot without a guard of their own. -/
def Cmd.routedPayload (c : Cmd) : Bool :=
  c.carriesPayload && c != .sockSend && c != .sockRecv && c != .spi1Transfer

/-- If the request's opcode is routed and the slot holds a finished job of that opcode, the job has
the request's payload. -/
def OwnJob (E : Env η) (s : Sys η) (req : Request) : Prop :=
  ∀ c, E.hdr.decode req.cmd = some c → c.routedPayload = true → s.job.jobCmd = c →
    s.job.Terminal → s.job.payload = req.payload

/-! ## Answers from the slot -/

/-- How a routed request is answered: it leaves the slot as it was, it is answered `BUSY`, or it
takes the finished job of its own opcode. -/
def FromSlot (c : Cmd) (cap : Nat) (fw : Fw η) (out : Fw η × Reply) : Prop :=
  out.1.worker = fw.worker ∨ out.2.status = .errBusy ∨
    (fw.worker.job.jobCmd = c ∧ fw.worker.job.Terminal ∧ out.2 = slotReply fw.worker.job cap)

namespace FromSlot

variable {c : Cmd} {cap minCap : Nat} {fw : Fw η} {r : Reply} {req : List UInt8}

theorem refl : FromSlot c cap fw (fw, r) := .inl rfl

theorem of_outcome {onIdle : Fw η → Fw η} {out : Fw η × Reply}
    (h : RoutedOutcome fw c cap onIdle out) : FromSlot c cap fw out := by
  cases h with
  | latched _ => exact .inl rfl
  | collected _ hc ht => exact .inr (.inr ⟨hc, ht, rfl⟩)
  | submitted _ _ _ => exact .inr (.inl rfl)
  | busy _ _ => exact .inr (.inl rfl)

theorem workerRoutedPayload (E : Env η) : FromSlot c 0 fw (handleWorkerRoutedPayload E fw c req) :=
  of_outcome (routedPoll_outcome _ _ _ _)

theorem workerRoutedPayloadReply :
    FromSlot c cap fw (handleWorkerRoutedPayloadReply fw c req minCap cap) := by
  unfold handleWorkerRoutedPayloadReply
  split_ifs
  · exact refl
  · exact of_outcome (routedPoll_outcome _ _ _ _)
  · exact of_outcome (routedPoll_outcome _ _ _ _)

theorem ite {p : Prop} [Decidable p] {a b : Fw η × Reply} (ha : FromSlot c cap fw a)
    (hb : FromSlot c cap fw b) : FromSlot c cap fw (if p then a else b) := by
  split_ifs
  · exact ha
  · exact hb

end FromSlot

/-- The room a routed opcode polls the slot with. -/
def Cmd.pollCap (c : Cmd) (cap : Nat) : Nat :=
  match c with
  | .sockOpen | .bleGattRegister | .bleGattRead | .spi1Configure => cap
  | _ => 0

/-- Every routed opcode answers from the slot. -/
theorem handle_fromSlot (E : Env η) (fw : Fw η) (req : List UInt8) (cap : Nat) {c : Cmd}
    (h : c.routedPayload = true) : FromSlot c (c.pollCap cap) fw (handle E c fw req cap) := by
  cases c with
  | sockOpen => exact .ite .refl (.ite .refl .workerRoutedPayloadReply)
  | sockConnect => exact .ite .refl (.ite .refl (.workerRoutedPayload E))
  | sockBind => exact .ite .refl (.ite .refl (.workerRoutedPayload E))
  | sockListen => exact .ite .refl (.ite .refl (.workerRoutedPayload E))
  | sockClose =>
      refine .ite .refl ?_
      exact @FromSlot.workerRoutedPayload _ _ { fw with recv := fw.recv.forgetHandle _ } _ E
  | wifiConnectSta => exact .ite .refl (.ite .refl (.workerRoutedPayload E))
  | wifiApStart => exact .ite .refl (.ite .refl (.workerRoutedPayload E))
  | bleAdvStart => exact .ite .refl (.ite .refl (.workerRoutedPayload E))
  | bleConnect => exact .ite .refl (.workerRoutedPayload E)
  | bleGattNotify => exact .ite .refl (.workerRoutedPayload E)
  | bleGattWrite => exact .ite .refl (.workerRoutedPayload E)
  | bleGattRead => exact .ite .refl .workerRoutedPayloadReply
  | bleGattRegister =>
      simp only [handle, handleBleGattRegister]
      cases bleGattRegisterValidate E req with
      | none => exact .refl
      | some n => exact .workerRoutedPayloadReply
  | spi1Configure =>
      simp only [handle, handleSpi1Configure]
      refine .ite .refl (.ite .refl (.ite .refl (.ite .refl (.ite .refl ?_))))
      have hr : FromSlot .spi1Configure cap fw
          (handleWorkerRoutedPayloadReply fw .spi1Configure req 8 cap) := .workerRoutedPayloadReply
      split_ifs
      · exact hr
      · exact hr
  | _ => exact absurd h (by decide)

/-! ## The result a slot reply carries -/

/-- What a routed request is told when the body of `j` returned `r`: the packed result, if it fits,
or the mapped error. -/
def Job.replyOf (E : Env η) (j : Job) (r : HalRet) (cap : Nat) : Reply :=
  if r.rv = hwOk then
    if (j.outOf E r).buf.length ≤ cap then { status := .ok, data := (j.outOf E r).buf }
    else .bare .errNoMem
  else .bare (workerErrToResp (Int8.ofInt r.rv))

/-- A slot that holds an outcome answers with it. -/
theorem slotReply_of_holds {E : Env η} {j : Job} {r : HalRet} (h : j.Holds (j.outOf E r)) (cap : Nat) :
    slotReply j cap = j.replyOf E r cap := by
  by_cases hr : r.rv = hwOk
  · obtain ⟨hstate, hlen, hbytes⟩ := h.done hr
    rw [slotReply, if_pos hstate, hlen, hbytes, Job.replyOf, if_pos hr]
  · obtain ⟨hstate, herr⟩ := h.err hr
    rw [slotReply, if_neg (by simp [hstate]), herr, Job.replyOf, if_neg hr]
    rfl

/-- The opcodes that poll with no room have no result bytes, so the room makes no difference. -/
theorem Job.replyOf_pollCap (E : Env η) (j : Job) (r : HalRet) (cap : Nat)
    (h : j.jobCmd.routedPayload = true) : j.replyOf E r (j.jobCmd.pollCap cap) = j.replyOf E r cap := by
  cases hc : j.jobCmd with
  | sockOpen | bleGattRegister | bleGattRead | spi1Configure => rfl
  | sockConnect | sockBind | sockListen | sockClose | wifiConnectSta | wifiApStart | bleAdvStart
  | bleConnect | bleGattNotify | bleGattWrite =>
      have hbuf : (j.outOf E r).buf = [] := by simp [Job.outOf, Env.execOut, hc, Env.packOk]
      simp [Job.replyOf, hbuf, Cmd.pollCap]
  | _ => rw [hc] at h; exact absurd h (by decide)

/-- The dispatch that leads to `fw` took the finished job out of the slot. -/
def Collects (s : Sys η) (fw : Fw η) : Prop :=
  s.job.Terminal ∧ fw.worker.job.state = .idle

instance (s : Sys η) (fw : Fw η) : Decidable (Collects s fw) := inferInstanceAs (Decidable (_ ∧ _))

/-- The reply is the result of the job in the slot, and that job was submitted with the payload of
the request that is answered. -/
def OwnResult (E : Env η) (tr : List Ev) (s : Sys η) (req : Request) (reply : Reply) : Prop :=
  ∃ q i r, At (Ev.Submits s.job.ticket q) tr i ∧ q.payload = req.payload ∧
    Returned E tr s.job r ∧ reply = s.job.replyOf E r req.cap

/-- In every run and for every routed opcode: a reply collected from the slot is the result of a job
submitted with the request's own payload exactly if the finished job in the slot has that payload. -/
theorem collected_own_result_iff {E : Env η} {hal : η} {tr : List Ev} {s : Sys η}
    (hr : (system E).Run (.boot hal) tr s) {req : Request} {fw : Fw η} {reply : Reply} {c : Cmd}
    (hd : protocolDispatch E s.fw req.cmd req.flags req.payload req.cap = (fw, reply))
    (hdec : E.hdr.decode req.cmd = some c) (hc : c.routedPayload = true)
    (hcol : Collects s fw) (hb : reply.status ≠ .errBusy) :
    OwnResult E tr s req reply ↔ OwnJob E s req := by
  have hi : SlotInv E tr s := .of_run hr
  obtain ⟨ht, hidle⟩ := hcol
  -- the reply is the finished job of this opcode
  have hslot : s.job.jobCmd = c ∧ reply = slotReply s.job (c.pollCap req.cap) := by
    rcases dispatch_cases hd with ⟨hnone, -⟩ | ⟨c', hdec', hh⟩
    · simp [hdec] at hnone
    · obtain rfl : c' = c := by simpa [hdec] using hdec'.symm
      have hf := handle_fromSlot E (s.fw.latchSeq req) req.payload req.cap hc
      rw [hh] at hf
      rcases hf with hkeep | hbusy | ⟨hcmd, -, hreply⟩
      · have hkeep' : fw.worker = s.fw.worker := hkeep
        rw [hkeep'] at hidle
        exact absurd hidle ht.ne_idle
      · exact absurd hbusy hb
      · exact ⟨hcmd, hreply⟩
  obtain ⟨hcmd, hreply⟩ := hslot
  subst hcmd
  have hcarries : s.job.jobCmd.carriesPayload = true := by
    simp only [Cmd.routedPayload, Bool.and_eq_true] at hc
    exact hc.1.1.1
  constructor
  · rintro ⟨q, i, r, hsub, hpay, -, -⟩ c' hdec' - - -
    obtain ⟨q', i', hsub', -, hpay'⟩ := hi.origin ht.ne_idle
    rw [hpay' hcarries, ← hi.submits_inj hsub hsub', hpay]
  · intro hown
    obtain ⟨q, i, hsub, -, hpay⟩ := hi.origin ht.ne_idle
    obtain ⟨r, hret, hholds⟩ := (ResultInv.of_run hr).terminal ht
    refine ⟨q, i, r, hsub, ?_, hret, ?_⟩
    · rw [← hpay hcarries]
      exact hown _ hdec hc rfl ht
    · rw [hreply, slotReply_of_holds hholds, Job.replyOf_pollCap E _ _ _ hc]

/-- A stream socket is opened as handle 1; nobody collects the result. -/
def openedSocket : List (Act Unit) :=
  [.dispatch (.of .sockOpen 1 [0, 1, 0, 0]), .task, .task, .ret { rv := hwOk, word := 1 }, .task,
    .task, .task, .task, .task, .task, .task]

/-- The events of that run. -/
def openedSocketTrace : List Ev :=
  [.dispatch (.of .sockOpen 1 [0, 1, 0, 0]) (.bare .errBusy) (some 0), .promote 0,
    .exec 0 (.sockOpen 0 1 0), .ret 0 (.sockOpen 0 1 0) { rv := hwOk, word := 1 }, .tau, .tau, .tau,
    .tau, .tau, .tau, .publish 0 .sockOpen]

/-- The request for a datagram socket that follows. -/
def openDatagram : Request := .of .sockOpen 2 [0, 2, 0, 0]

/-- The host gives up on the stream socket and asks for a datagram socket instead: it is handed the
stream socket, the result of a job that was submitted with another payload. -/
theorem abandoned_open_answers_next :
    ∃ s fw reply, (system .reference).Run (.boot ()) openedSocketTrace s ∧
      protocolDispatch .reference s.fw openDatagram.cmd openDatagram.flags openDatagram.payload
        openDatagram.cap = (fw, reply) ∧
      reply = { status := .ok, data := [1, 0, 0, 0] } ∧ Collects s fw ∧
      ¬ OwnResult .reference openedSocketTrace s openDatagram reply := by
  have hexec : ((system .reference).exec (.boot ()) openedSocket).map Prod.snd =
      some openedSocketTrace := by decide +kernel
  have hreply : ((system .reference).exec (.boot ()) openedSocket).map (fun p =>
      let out := protocolDispatch .reference p.1.fw openDatagram.cmd openDatagram.flags
        openDatagram.payload openDatagram.cap
      (out.2, decide (Collects p.1 out.1))) =
        some ({ status := .ok, data := [1, 0, 0, 0] }, true) := by decide +kernel
  obtain ⟨⟨s, tr⟩, hs, rfl⟩ := Option.map_eq_some_iff.mp hexec
  simp only [hs, Option.map_some, Option.some.injEq, Prod.mk.injEq, decide_eq_true_eq] at hreply
  refine ⟨s, _, _, Machine.run_of_exec hs, rfl, hreply.1, hreply.2, ?_⟩
  rintro ⟨q, i, r, ⟨e, he, answer, rfl⟩, hpay, -, -⟩
  have hmem := List.mem_of_getElem? he
  simp only [openedSocketTrace, List.mem_cons, Ev.dispatch.injEq, reduceCtorEq, List.not_mem_nil,
    or_false] at hmem
  rw [hmem.1] at hpay
  exact absurd hpay (by decide)

/-- The request for a stream socket, repeated. -/
def openStream : Request := .of .sockOpen 2 [0, 1, 0, 0]

/-- Had the host asked for a stream socket again, the reply would have been its own. -/
theorem collected_own_result_iff_openStream :
    ∃ s fw reply, (system .reference).Run (.boot ()) openedSocketTrace s ∧
      protocolDispatch .reference s.fw openStream.cmd openStream.flags openStream.payload
        openStream.cap = (fw, reply) ∧
      Collects s fw ∧ (OwnResult .reference openedSocketTrace s openStream reply ↔
        OwnJob .reference s openStream) := by
  have hexec : ((system .reference).exec (.boot ()) openedSocket).map Prod.snd =
      some openedSocketTrace := by decide +kernel
  have hreply : ((system .reference).exec (.boot ()) openedSocket).map (fun p =>
      let out := protocolDispatch .reference p.1.fw openStream.cmd openStream.flags
        openStream.payload openStream.cap
      (out.2.status, decide (Collects p.1 out.1))) = some (.ok, true) := by decide +kernel
  obtain ⟨⟨s, tr⟩, hs, rfl⟩ := Option.map_eq_some_iff.mp hexec
  simp only [hs, Option.map_some, Option.some.injEq, Prod.mk.injEq, decide_eq_true_eq] at hreply
  have hrun := Machine.run_of_exec hs
  refine ⟨s, _, _, hrun, rfl, hreply.2, ?_⟩
  exact collected_own_result_iff hrun rfl (by decide : _ = some .sockOpen) rfl hreply.2
    (fun hb => Resp.noConfusion (hreply.1.symm.trans hb))

end Cc3501eBridge
