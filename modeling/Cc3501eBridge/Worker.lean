import Cc3501eBridge.Wire

/-!
# The job slot

`worker.c` keeps a single job: the SPI interrupt submits it and polls for its result, the drain on
the main task runs it.  Every function below runs under `worker_critical_enter`/`exit` in the
source, so each is one atomic step on the slot.

Two fields are ours and are never read by the code: `Worker.submits` counts the accepted
submissions and `Job.ticket` is the number of the job in the slot.  They let a statement speak of
*that* job after the slot has moved on.

`SlotStep` says once what a dispatch can do to the slot: nothing, drop a finished job, or queue a
new one into a slot that is not in flight.  All invariants of the slot are derived from it.
-/

namespace Cc3501eBridge

/-- `enum worker_state`. -/
inductive WorkerState
  | idle | queued | running | done | err
  deriving DecidableEq, Repr

/-- The single in-flight job with its cached result. -/
structure Job where
  state : WorkerState
  jobCmd : Cmd
  result : Buf
  resultLen : Nat
  err : Int8
  req : Buf
  reqLen : Nat
  /-- The number of this submission (not a field of the source). -/
  ticket : Nat

namespace Job

/-- A finished job nobody has collected. -/
def Terminal (j : Job) : Prop := j.state = .done ∨ j.state = .err

/-- A job that is waiting for the drain or in its hands. -/
def InFlight (j : Job) : Prop := j.state = .queued ∨ j.state = .running

instance (j : Job) : Decidable j.Terminal := inferInstanceAs (Decidable (_ ∨ _))

instance (j : Job) : Decidable j.InFlight := inferInstanceAs (Decidable (_ ∨ _))

/-- The four stores that free the slot.  The opcode 0 they leave behind is `PING`'s, which is never
queued. -/
def cleared (j : Job) : Job := { j with state := .idle, jobCmd := .ping, resultLen := 0, err := 0 }

/-- The request bytes of the job. -/
def payload (j : Job) : List UInt8 := j.req.read 0 j.reqLen

/-- The result bytes of the job. -/
def resultBytes (j : Job) : List UInt8 := j.result.read 0 j.resultLen

@[simp] theorem cleared_state (j : Job) : j.cleared.state = .idle := rfl

theorem Terminal.not_inFlight {j : Job} (h : j.Terminal) : ¬ j.InFlight := by
  rcases h with h | h <;> simp [InFlight, h]

theorem Terminal.ne_idle {j : Job} (h : j.Terminal) : j.state ≠ .idle := by
  rcases h with h | h <;> simp [h]

theorem Terminal.ne_running {j : Job} (h : j.Terminal) : j.state ≠ .running := by
  rcases h with h | h <;> simp [h]

theorem InFlight.ne_idle {j : Job} (h : j.InFlight) : j.state ≠ .idle := by
  rcases h with h | h <;> simp [h]

/-- A slot is idle, in flight or finished. -/
theorem cases_state (j : Job) : j.state = .idle ∨ j.InFlight ∨ j.Terminal := by
  cases h : j.state <;> simp [InFlight, Terminal, h]

end Job

/-- `worker.c`'s statics. -/
structure Worker where
  job : Job
  /-- `g_worker_execs`. -/
  execs : UInt32
  /-- How many submissions have been accepted (not a field of the source). -/
  submits : Nat

namespace Worker

/-- The worker as `worker_init` leaves it on zeroed memory. -/
def init : Worker where
  job := { state := .idle, jobCmd := .ping, result := .zero, resultLen := 0, err := 0, req := .zero,
           reqLen := 0, ticket := 0 }
  execs := 0
  submits := 0

/-- The slot after an accepted `worker_submit`: the request buffer keeps its old contents. -/
def queued (w : Worker) (cmd : Cmd) : Worker where
  job := { w.job with
    state := .queued, jobCmd := cmd, resultLen := 0, err := 0, ticket := w.submits }
  execs := w.execs
  submits := w.submits + 1

/-- The slot after an accepted `worker_submit_payload`. -/
def queuedPayload (w : Worker) (cmd : Cmd) (payload : List UInt8) : Worker where
  job := { w.job with
    state := .queued, jobCmd := cmd, resultLen := 0, err := 0, ticket := w.submits,
    req := w.job.req.write 0 payload, reqLen := payload.length }
  execs := w.execs
  submits := w.submits + 1

end Worker

/-- `worker_reset`. -/
def workerReset (w : Worker) : Worker := { w with job := w.job.cleared }

/-- `worker_submit`: queue a job without payload if the slot is idle. -/
def workerSubmit (w : Worker) (cmd : Cmd) : Bool × Worker :=
  if w.job.state ≠ .idle then (false, w) else (true, w.queued cmd)

/-- `worker_submit_payload`: queue a job with its request bytes if they fit and the slot is idle. -/
def workerSubmitPayload (w : Worker) (cmd : Cmd) (payload : List UInt8) : Bool × Worker :=
  if payload.length > maxPayload then (false, w)
  else if w.job.state ≠ .idle then (false, w)
  else (true, w.queuedPayload cmd payload)

/-- What `worker_poll` hands its caller. -/
structure Poll where
  st : WorkerState
  out : List UInt8
  err : Int8
  deriving DecidableEq

/-- `worker_poll`: look at the job of opcode `cmd`.  A finished job of another opcode is dropped, a
result that does not fit `outCap` is reported as an error and left in the slot. -/
def workerPoll (w : Worker) (cmd : Cmd) (outCap : Nat) : Poll × Worker :=
  if w.job.state = .idle ∨ w.job.jobCmd ≠ cmd then
    if w.job.jobCmd ≠ cmd ∧ w.job.state ≠ .idle then
      if w.job.Terminal then ({ st := .idle, out := [], err := 0 }, workerReset w)
      else ({ st := .running, out := [], err := 0 }, w)
    else ({ st := .idle, out := [], err := 0 }, w)
  else if w.job.state = .done then
    if w.job.resultLen > outCap then ({ st := .err, out := [], err := Int8.ofInt hwErrNoMem }, w)
    else ({ st := .done, out := w.job.resultBytes, err := 0 }, w)
  else if w.job.state = .err then ({ st := .err, out := [], err := w.job.err }, w)
  else ({ st := w.job.state, out := [], err := 0 }, w)

/-- Free the slot if it holds a finished job of opcode `cmd` whose request satisfies `p`; the
common body of the three guards below. -/
def dropTerminal (w : Worker) (cmd : Cmd) (p : Job → Bool) : Bool × Worker :=
  if w.job.jobCmd = cmd ∧ w.job.Terminal ∧ p w.job then (true, workerReset w) else (false, w)

/-- `worker_discard_stale_terminal`: drop a finished job whose request byte differs. -/
def workerDiscardStaleTerminal (w : Worker) (cmd : Cmd) (reqOff : Nat) (reqByte : UInt8) :
    Bool × Worker :=
  dropTerminal w cmd fun j => reqOff < j.reqLen ∧ j.req reqOff ≠ reqByte

/-- `worker_reclaim_matching_terminal`: drop a finished job whose request byte agrees. -/
def workerReclaimMatchingTerminal (w : Worker) (cmd : Cmd) (reqOff : Nat) (reqByte : UInt8) :
    Bool × Worker :=
  dropTerminal w cmd fun j => reqOff < j.reqLen ∧ j.req reqOff = reqByte

/-- `worker_discard_stale_recv`: drop any finished `SOCK_RECV`. -/
def workerDiscardStaleRecv (w : Worker) : Bool × Worker :=
  dropTerminal w .sockRecv fun _ => true

/-! ## What a dispatch can do to the slot -/

/-- One dispatch of opcode `cmd` with request bytes `req` on the slot. -/
inductive SlotStep (cmd : Cmd) (req : List UInt8) (w : Worker) : Worker → Prop
  | keep : SlotStep cmd req w w
  | free : w.job.Terminal → SlotStep cmd req w (workerReset w)
  | submit : ¬ w.job.InFlight → cmd.carriesPayload = false → SlotStep cmd req w (w.queued cmd)
  | submitPayload : ¬ w.job.InFlight → cmd.carriesPayload = true → req.length ≤ maxPayload →
      SlotStep cmd req w (w.queuedPayload cmd req)

namespace SlotStep

variable {cmd : Cmd} {req : List UInt8} {w w₁ w₂ : Worker}

/-- A job in flight is left alone. -/
theorem eq_of_inFlight (h : SlotStep cmd req w w₁) (hw : w.job.InFlight) : w₁ = w := by
  cases h with
  | keep => rfl
  | free ht => exact absurd hw ht.not_inFlight
  | submit hn => exact absurd hw hn
  | submitPayload hn => exact absurd hw hn

/-- Freeing the slot first and stepping from there is still one step. -/
theorem of_reset (ht : w.job.Terminal) (h : SlotStep cmd req (workerReset w) w₁) :
    SlotStep cmd req w w₁ := by
  cases h with
  | keep => exact .free ht
  | free _ => exact .free ht
  | submit _ hc => exact .submit ht.not_inFlight hc
  | submitPayload _ hc hl => exact .submitPayload ht.not_inFlight hc hl

theorem execs_eq (h : SlotStep cmd req w w₁) : w₁.execs = w.execs := by cases h <;> rfl

end SlotStep

section Lemmas

variable {w : Worker} {cmd : Cmd} {req : List UInt8}

/-- A submission queues a job into an idle slot and does nothing otherwise. -/
theorem workerSubmit_slotStep (w : Worker) (req : List UInt8) (hc : cmd.carriesPayload = false) :
    SlotStep cmd req w (workerSubmit w cmd).2 := by
  unfold workerSubmit
  split
  · exact .keep
  · next h => exact .submit (fun hf => h hf.ne_idle) hc

theorem workerSubmitPayload_slotStep (w : Worker) (req : List UInt8)
    (hc : cmd.carriesPayload = true) :
    SlotStep cmd req w (workerSubmitPayload w cmd req).2 := by
  unfold workerSubmitPayload
  split
  · exact .keep
  · next hl =>
    split
    · exact .keep
    · next h => exact .submitPayload (fun hf => h hf.ne_idle) hc (by omega)

theorem workerSubmitPayload_idle (h : w.job.state = .idle) (hl : req.length ≤ maxPayload) :
    (workerSubmitPayload w cmd req).2 = w.queuedPayload cmd req := by
  simp [workerSubmitPayload, h, show ¬ req.length > maxPayload by omega]

/-- A guard frees the slot from a finished job or does nothing. -/
theorem dropTerminal_cases (w : Worker) (cmd : Cmd) (p : Job → Bool) :
    (dropTerminal w cmd p).2 = w ∨
      w.job.jobCmd = cmd ∧ w.job.Terminal ∧ p w.job = true ∧
        (dropTerminal w cmd p).2 = workerReset w := by
  unfold dropTerminal
  split
  · next h => exact .inr ⟨h.1, h.2.1, h.2.2, rfl⟩
  · exact .inl rfl

theorem dropTerminal_slotStep (w : Worker) (cmd cmd' : Cmd) (req : List UInt8) (p : Job → Bool) :
    SlotStep cmd' req w (dropTerminal w cmd p).2 := by
  rcases dropTerminal_cases w cmd p with h | ⟨-, ht, -, h⟩
  · rw [h]; exact .keep
  · rw [h]; exact .free ht

/-- Whatever a guard leaves behind, a step from there is one step from the start. -/
theorem SlotStep.of_dropTerminal {cmd' : Cmd} {p : Job → Bool} {w₁ : Worker}
    (h : SlotStep cmd' req (dropTerminal w cmd p).2 w₁) : SlotStep cmd' req w w₁ := by
  rcases dropTerminal_cases w cmd p with hd | ⟨-, ht, -, hd⟩
  · rwa [hd] at h
  · rw [hd] at h
    exact h.of_reset ht

/-- Everything `worker_poll` can report, with the slot it leaves. -/
theorem workerPoll_cases (w : Worker) (cmd : Cmd) (outCap : Nat) :
    (w.job.state = .idle ∧ workerPoll w cmd outCap = ({ st := .idle, out := [], err := 0 }, w)) ∨
    (w.job.jobCmd ≠ cmd ∧ w.job.Terminal ∧
      workerPoll w cmd outCap = ({ st := .idle, out := [], err := 0 }, workerReset w)) ∨
    (w.job.InFlight ∧ ∃ st, (st = .queued ∨ st = .running) ∧
      workerPoll w cmd outCap = ({ st := st, out := [], err := 0 }, w)) ∨
    (w.job.jobCmd = cmd ∧ w.job.state = .done ∧ outCap < w.job.resultLen ∧
      workerPoll w cmd outCap = ({ st := .err, out := [], err := Int8.ofInt hwErrNoMem }, w)) ∨
    (w.job.jobCmd = cmd ∧ w.job.state = .done ∧ w.job.resultLen ≤ outCap ∧
      workerPoll w cmd outCap = ({ st := .done, out := w.job.resultBytes, err := 0 }, w)) ∨
    (w.job.jobCmd = cmd ∧ w.job.state = .err ∧
      workerPoll w cmd outCap = ({ st := .err, out := [], err := w.job.err }, w)) := by
  rcases w.job.cases_state with hi | hf | ht
  · exact .inl ⟨hi, by simp [workerPoll, hi]⟩
  · refine .inr (.inr (.inl ⟨hf, ?_⟩))
    have hnt : ¬ w.job.Terminal := fun ht => ht.not_inFlight hf
    by_cases hc : w.job.jobCmd = cmd
    · refine ⟨w.job.state, hf, ?_⟩
      rcases hf with hf | hf <;> simp [workerPoll, hc, hf]
    · exact ⟨.running, .inr rfl, by simp [workerPoll, hc, hf.ne_idle, hnt]⟩
  · by_cases hc : w.job.jobCmd = cmd
    · refine .inr (.inr (.inr ?_))
      rcases ht with hd | he
      · by_cases hl : w.job.resultLen ≤ outCap
        · exact .inr (.inl ⟨hc, hd, hl, by
            simp [workerPoll, hc, hd, show ¬ w.job.resultLen > outCap by omega]⟩)
        · exact .inl ⟨hc, hd, by omega, by
            simp [workerPoll, hc, hd, show w.job.resultLen > outCap by omega]⟩
      · exact .inr (.inr ⟨hc, he, by simp [workerPoll, hc, he]⟩)
    · exact .inr (.inl ⟨hc, ht, by simp [workerPoll, hc, ht, ht.ne_idle]⟩)

end Lemmas

end Cc3501eBridge
