import Cc3501eBridge.Spi1Once
import Cc3501eBridge.OwnResult
import Cc3501eBridge.SpiLink

/-!
# Whose error a transfer is answered with

A finished `SPI1_TRANSFER` is compared with the request that polls it: the reply bytes in the slot
carry the sequence number of the job, and a result of another number makes room for the new request.
A failed transfer has no reply bytes, and the handler answers with its error whatever the sequence
number.  An error that the host gave up on is reported to the next transfer, which is not executed.

`NoForeignError` is the condition under which a transfer is answered with its own outcome.
-/

namespace Cc3501eBridge

variable {η : Type}

open Trace

/-- The status of a failed transfer. -/
def spi1ErrToResp (err : Int8) : Resp :=
  if err = Int8.ofInt hwErrNotimpl then .errNotReady
  else if err = Int8.ofInt hwErrInval then .errInvalid
  else .errState

theorem spi1ErrToResp_ne_ok (err : Int8) : spi1ErrToResp err ≠ .ok := by
  unfold spi1ErrToResp
  split_ifs <;> decide

/-- What a transfer is told when the body of `j` returned `r`. -/
def Job.transferOutcome (E : Env η) (j : Job) (r : HalRet) : Reply :=
  if r.rv = hwOk then { status := .ok, data := (j.outOf E r).buf }
  else .bare (spi1ErrToResp (Int8.ofInt r.rv))

/-- A transfer that passes the checks of the handler: well formed, on an open bus, with room for its
reply. -/
structure ValidTransfer (E : Env η) (s : Sys η) (req : Request) : Prop where
  decode : E.hdr.decode req.cmd = some .spi1Transfer
  wellFormed : spi1TransferValid E req.payload = true
  configured : s.fw.spi1.configured = true
  room : spi1TransferMinCap E req.payload ≤ req.cap

/-- The reply is the outcome of the job in the slot, an executed transfer whose request carried the
sequence number of `req`. -/
def OwnTransfer (E : Env η) (tr : List Ev) (s : Sys η) (req : Request) (reply : Reply) : Prop :=
  ∃ q i r, At (Ev.Submits s.job.ticket q) tr i ∧ E.hdr.decode q.cmd = some .spi1Transfer ∧
    byteAt q.payload 3 = byteAt req.payload 3 ∧ Returned E tr s.job r ∧
    s.job.Holds (s.job.outOf E r) ∧ reply = s.job.transferOutcome E r

/-- A failed transfer in the slot has the sequence number of `req`; and a finished one fits the room
of the reply. -/
def NoForeignError (s : Sys η) (req : Request) : Prop :=
  s.job.jobCmd = .spi1Transfer →
    (s.job.state = .err → s.job.req 3 = byteAt req.payload 3) ∧
      (s.job.state = .done → s.job.resultLen ≤ req.cap)

/-- How a transfer is answered from the slot: with the result of its own number, or with the error
that is there. -/
inductive TransferAnswer (j : Job) (req : List UInt8) (cap : Nat) : Reply → Prop
  | done : j.state = .done → j.resultLen ≤ cap → byteAt j.resultBytes 3 = byteAt req 3 →
      TransferAnswer j req cap { status := .ok, data := j.resultBytes }
  | overflow : j.state = .done → cap < j.resultLen → TransferAnswer j req cap (.bare .errState)
  | err : j.state = .err → TransferAnswer j req cap (.bare (spi1ErrToResp j.err))

theorem TransferAnswer.terminal {j : Job} {req : List UInt8} {cap : Nat} {reply : Reply}
    (h : TransferAnswer j req cap reply) : j.Terminal := by
  cases h with
  | done hd => exact .inl hd
  | overflow hd => exact .inl hd
  | err he => exact .inr he

/-- A finished job holds a success, and a failed one an error. -/
theorem Job.Holds.rv_iff {j : Job} {out : ExecOut} (h : j.Holds out) :
    (j.state = .done → out.rv = hwOk) ∧ (j.state = .err → out.rv ≠ hwOk) := by
  constructor
  · intro hd
    by_contra hne
    have he := (h.err hne).1
    rw [hd] at he
    cases he
  · intro he hok
    have hd := (h.done hok).1
    rw [he] at hd
    cases hd

section

variable {E : Env η} {fw : Fw η} {req : List UInt8} {cap : Nat}

theorem handleSpi1Transfer_answer (hvalid : spi1TransferValid E req = true)
    (hconf : fw.spi1.configured = true) (hroom : spi1TransferMinCap E req ≤ cap)
    (hb : (handleSpi1Transfer E fw req cap).2.status ≠ .errBusy) :
    fw.worker.job.jobCmd = .spi1Transfer ∧
      TransferAnswer fw.worker.job req cap (handleSpi1Transfer E fw req cap).2 := by
  rw [handleSpi1Transfer, if_neg (by simp [hvalid]), if_neg (by simp [hconf]),
    if_neg (Nat.not_lt.mpr hroom)] at hb ⊢
  rcases workerPoll_cases fw.worker .spi1Transfer cap with ⟨-, hp⟩ | ⟨-, -, hp⟩ |
    ⟨-, st, hst, hp⟩ | ⟨hcmd, hd, hlen, hp⟩ | ⟨hcmd, hd, hlen, hp⟩ | ⟨hcmd, he, hp⟩
  · rw [hp] at hb
    exact absurd rfl hb
  · rw [hp] at hb
    exact absurd rfl hb
  · rw [hp] at hb
    rcases hst with rfl | rfl <;> exact absurd rfl hb
  · rw [hp]
    exact ⟨hcmd, .overflow hd hlen⟩
  · rw [hp] at hb ⊢
    dsimp only at hb ⊢
    split_ifs at hb ⊢ with hsame
    · exact ⟨hcmd, .done hd hlen hsame.2⟩
    · exact absurd rfl hb
  · rw [hp]
    exact ⟨hcmd, .err he⟩

end

section

variable {E : Env η} {hal : η} {tr : List Ev} {s : Sys η}

/-- A transfer in the slot was submitted by a well-formed request, whose sequence number it holds. -/
theorem transfer_origin (hr : (system E).Run (.boot hal) tr s) (hni : s.job.state ≠ .idle)
    (hc : s.job.jobCmd = .spi1Transfer) :
    ∃ q i, At (Ev.Submits s.job.ticket q) tr i ∧ E.hdr.decode q.cmd = some .spi1Transfer ∧
      byteAt q.payload 3 = s.job.req 3 := by
  obtain ⟨q, i, hsub, hdec, hpay⟩ := (SlotInv.of_run hr).origin hni
  rw [hc] at hdec hpay
  have hlen := (spi1TransferValid_len (spi1TransferValid_of_submits hr hsub hdec)).1
  refine ⟨q, i, hsub, hdec, ?_⟩
  rw [← hpay rfl, Job.payload, byteAt_read]
  rw [← hpay rfl, Job.payload, Buf.length_read] at hlen
  omega

/-- In every run: a transfer that passes the checks and is not answered `BUSY` is answered with the
outcome of an executed transfer of its own sequence number exactly if no error of another number is in
the slot, and no result that the reply has no room for. -/
theorem transfer_answer_own_iff (hr : (system E).Run (.boot hal) tr s) {req : Request} {fw : Fw η}
    {reply : Reply} (hv : ValidTransfer E s req)
    (hd : protocolDispatch E s.fw req.cmd req.flags req.payload req.cap = (fw, reply))
    (hb : reply.status ≠ .errBusy) :
    OwnTransfer E tr s req reply ↔ NoForeignError s req := by
  have hi : SlotInv E tr s := .of_run hr
  have hanswer : s.job.jobCmd = .spi1Transfer ∧ TransferAnswer s.job req.payload req.cap reply := by
    rcases dispatch_cases hd with ⟨hnone, -⟩ | ⟨c, hc, hh⟩
    · simp [hv.decode] at hnone
    · obtain rfl : c = .spi1Transfer := by simpa [hv.decode] using hc.symm
      have hreply : (handleSpi1Transfer E (s.fw.latchSeq req) req.payload req.cap).2 = reply :=
        congrArg Prod.snd hh
      subst hreply
      have hconf : (s.fw.latchSeq req).spi1.configured = true := hv.configured
      exact handleSpi1Transfer_answer hv.wellFormed hconf hv.room hb
  clear hd hb
  obtain ⟨hcmd, hanswer⟩ := hanswer
  have ht := hanswer.terminal
  obtain ⟨q, i, hsub, hdec, hseq⟩ := transfer_origin hr ht.ne_idle hcmd
  constructor
  · rintro ⟨q', i', r, hsub', -, hseq', -, hholds, hreply⟩ -
    obtain rfl := hi.submits_inj hsub hsub'
    refine ⟨fun _ => hseq.symm.trans hseq', fun hdone => ?_⟩
    -- the outcome of a finished job is a success, and a result that does not fit is not answered so
    have hok : r.rv = hwOk := hholds.rv_iff.1 hdone
    rw [Job.transferOutcome, if_pos hok] at hreply
    cases hanswer with
    | done _ hlen _ => exact hlen
    | overflow _ _ => cases hreply
    | err _ => exact absurd (congrArg Reply.status hreply) (spi1ErrToResp_ne_ok _)
  · intro hown
    obtain ⟨herr, hfit⟩ := hown hcmd
    obtain ⟨r, hret, hholds⟩ := (ResultInv.of_run hr).terminal ht
    refine ⟨q, i, r, hsub, hdec, ?_, hret, hholds, ?_⟩
    · cases hanswer with
      | done hd hlen hsame =>
          rw [hseq, ← hsame]
          exact ((transferDone_of_run hr hd hcmd).seq).symm
      | overflow hd hlen => exact absurd (hfit hd) (Nat.not_le.mpr hlen)
      | err he => exact hseq.trans (herr he)
    · cases hanswer with
      | done hd hlen _ =>
          have hok : r.rv = hwOk := hholds.rv_iff.1 hd
          rw [Job.transferOutcome, if_pos hok, (hholds.done hok).2.2]
      | overflow hd hlen => exact absurd (hfit hd) (Nat.not_le.mpr hlen)
      | err he =>
          have hne : r.rv ≠ hwOk := hholds.rv_iff.2 he
          rw [Job.transferOutcome, if_neg hne, (hholds.err hne).2]
          rfl

end

open Act in
/-- The bus is opened, and a transfer with the sequence number 7 fails on it; nobody collects the error. -/
def failedSeven : List (Act Unit) :=
  [dispatch (.of .spi1Configure 1 [0x40, 0x42, 0x0F, 0, 0, 8, 1, 0]), task, task,
    ret { rv := hwOk }] ++ List.replicate 20 task ++
  [dispatch (.of .spi1Configure 2 [0x40, 0x42, 0x0F, 0, 0, 8, 1, 0]),
    dispatch (.of .spi1Transfer 3 [2, 0, 0, 7, 0, 0, 0, 0, 0xAA, 0xBB]), task, task,
    ret { rv := hwErrIo }] ++ List.replicate 20 task

/-- A transfer of two bytes with the sequence number `n`. -/
def transferTwo (n : UInt8) : Request := .of .spi1Transfer 4 [2, 0, 0, n, 0, 0, 0, 0, 0xAA, 0xBB]

/-- The run, and how a transfer with the number `n` is answered after it. -/
theorem failedSeven_run (n : UInt8) (hn : n = 7 ∨ n = 8) :
    ∃ tr s fw, (system .reference).Run (.boot ()) tr s ∧ ValidTransfer .reference s (transferTwo n) ∧
      protocolDispatch .reference s.fw (transferTwo n).cmd (transferTwo n).flags (transferTwo n).payload
        (transferTwo n).cap = (fw, .bare .errState) ∧
      s.job.state = .err ∧ s.job.jobCmd = .spi1Transfer ∧ s.job.req 3 = 7 := by
  have h : ((system .reference).exec (.boot ()) failedSeven).map (fun p =>
      (p.1.fw.spi1.configured, p.1.job.state, p.1.job.jobCmd, p.1.job.req 3,
        (protocolDispatch .reference p.1.fw (transferTwo n).cmd (transferTwo n).flags
          (transferTwo n).payload (transferTwo n).cap).2)) =
        some (true, .err, .spi1Transfer, 7, .bare .errState) := by
    rcases hn with rfl | rfl <;> decide +kernel
  obtain ⟨⟨s, tr⟩, hs, heq⟩ := Option.map_eq_some_iff.mp h
  obtain ⟨hconf, he, hc, hseq, hreply⟩ := by simpa only [Prod.mk.injEq] using heq
  refine ⟨tr, s, _, Machine.run_of_exec hs, ⟨?_, ?_, hconf, ?_⟩, Prod.ext rfl hreply, he, hc, hseq⟩
  · rcases hn with rfl | rfl <;> decide +kernel
  · rcases hn with rfl | rfl <;> decide +kernel
  · rcases hn with rfl | rfl <;> decide +kernel

/-- The next transfer, with the number 8, is answered with the error of the first. -/
theorem error_of_seven_answers_eight :
    ∃ tr s fw reply, (system .reference).Run (.boot ()) tr s ∧
      ValidTransfer .reference s (transferTwo 8) ∧
      protocolDispatch .reference s.fw (transferTwo 8).cmd (transferTwo 8).flags (transferTwo 8).payload
        (transferTwo 8).cap = (fw, reply) ∧
      reply.status ≠ .errBusy ∧ ¬ OwnTransfer .reference tr s (transferTwo 8) reply := by
  obtain ⟨tr, s, fw, hrun, hv, hd, he, hc, hseq⟩ := failedSeven_run 8 (.inr rfl)
  refine ⟨tr, s, fw, _, hrun, hv, hd, by decide, ?_⟩
  rintro ⟨q', i', r, hsub', -, hseq', -⟩
  obtain ⟨q, i, hsub, -, hown⟩ := transfer_origin hrun (by rw [he]; decide) hc
  obtain rfl := (SlotInv.of_run hrun).submits_inj hsub hsub'
  rw [hown, hseq] at hseq'
  exact absurd hseq' (by decide)

/-- Asked again with the number 7, it is answered with its own error. -/
theorem transfer_answer_own_iff_seven :
    ∃ tr s fw, (system .reference).Run (.boot ()) tr s ∧
      protocolDispatch .reference s.fw (transferTwo 7).cmd (transferTwo 7).flags (transferTwo 7).payload
        (transferTwo 7).cap = (fw, .bare .errState) ∧
      (OwnTransfer .reference tr s (transferTwo 7) (.bare .errState) ↔
        NoForeignError s (transferTwo 7)) := by
  obtain ⟨tr, s, fw, hrun, hv, hd, -⟩ := failedSeven_run 7 (.inl rfl)
  exact ⟨tr, s, fw, hrun, hd, transfer_answer_own_iff hrun hv hd (by decide)⟩

end Cc3501eBridge
