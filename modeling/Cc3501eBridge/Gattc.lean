import Cc3501eBridge.Lib.Trace
import Mathlib.Logic.Function.Basic

/-!
# The GATT client of the NimBLE host

`cc3501e_nimble_gatt_read` and `cc3501e_nimble_gatt_write` run on the worker task.  Each clears the
sync object `s_gattc_op_sync`, issues its request, waits up to four seconds for the signal and reads
`s_gattc_op_status`.  The request completes on the NimBLE host task, which runs the callback of that
request: once at most, but at any time, also after the caller has given up.

The machine below takes one step for every access to the shared variables.  A callback is one step.
What NimBLE and the OSI layer decide is an input: whether a call passes its entry checks, what
`ble_gattc_read` and `ble_gattc_write_flat` return, and what a callback is handed.
-/

namespace Cc3501eBridge

/-! ## The shared variables -/

/-- `BLE_ATT_ATTR_MAX_LEN`, the size of `s_gattc_read_bounce`. -/
def bleAttAttrMaxLen : Nat := 512

/-- What the worker's calls and the two callbacks share. -/
structure Gattc where
  /-- `s_gattc_op_sync` is signalled. -/
  opSync : Bool := false
  opStatus : Int := 0
  readLen : Nat := 0
  readBounce : Nat → UInt8 := fun _ => 0
  readPending : Bool := false
  readGen : UInt32 := 0

/-- What a callback is handed. -/
structure GattAnswer where
  /-- `error->status`; `none` is a null `error`. -/
  error : Option Int := none
  /-- `attr->om`, if there is one: what `ble_hs_mbuf_to_flat` returns for it and the bytes it copies. -/
  om : Option (Int × List UInt8) := none
  deriving DecidableEq, Repr

/-- The status a callback starts from. -/
def GattAnswer.status (ans : GattAnswer) : Int := ans.error.getD 0

/-- The bytes `ble_hs_mbuf_to_flat` puts into the bounce buffer. -/
def GattAnswer.flat (ans : GattAnswer) : List UInt8 :=
  match ans.om with
  | some (_, bytes) => bytes.take bleAttAttrMaxLen
  | none => []

/-- The first bytes of a buffer overwritten. -/
def storeFlat (buf : Nat → UInt8) (bytes : List UInt8) : Nat → UInt8 := fun i => bytes.getD i (buf i)

/-- The body of `cc3501e_gattc_read_cb` once the response is its own. -/
def Gattc.storeRead (g : Gattc) (ans : GattAnswer) : Gattc :=
  if ans.status = 0 then
    match ans.om with
    | some (rc, _) =>
        if rc ≠ 0 then
          { g with opStatus := rc, readBounce := storeFlat g.readBounce ans.flat, opSync := true }
        else
          { g with
            opStatus := 0
            readBounce := storeFlat g.readBounce ans.flat
            readLen := ans.flat.length
            opSync := true }
    | none => { g with opStatus := 0, opSync := true }
  else { g with opStatus := ans.status, opSync := true }

/-- `cc3501e_gattc_read_cb`, called with the generation `gen`. -/
def Gattc.readCb (g : Gattc) (gen : UInt32) (ans : GattAnswer) : Gattc :=
  if g.readPending = true ∧ gen = g.readGen then g.storeRead ans else g

/-- `cc3501e_gattc_write_cb`. -/
def Gattc.writeCb (g : Gattc) (ans : GattAnswer) : Gattc :=
  { g with opStatus := ans.status, opSync := true }

/-! ## The calls -/

/-- The two calls; a read has room for `cap` bytes. -/
inductive GattOp
  | read (cap : Nat)
  | write
  deriving DecidableEq, Repr

/-- What the entry checks of a call find. -/
structure GattEntry where
  /-- `ble_hs_is_enabled` -/
  enabled : Bool := true
  /-- `s_conn_handle != BLE_HS_CONN_HANDLE_NONE` -/
  connected : Bool := true
  /-- `cc3501e_ensure_syncs() == 0` -/
  syncs : Bool := true
  /-- `out != NULL`, checked by a read -/
  out : Bool := true
  deriving DecidableEq, Repr

/-- The call goes on after its entry checks. -/
def GattEntry.passes (entry : GattEntry) : GattOp → Bool
  | .read _ => entry.enabled && (entry.out && (entry.connected && entry.syncs))
  | .write => entry.enabled && (entry.connected && entry.syncs)

/-- Where the worker stands: the access it makes next. -/
inductive GattPc
  | idle
  | /-- `osi_SyncObjClear` -/
    clear (op : GattOp)
  | /-- `s_gattc_op_status = -1` -/
    status (op : GattOp)
  | /-- `s_gattc_read_len = 0` -/
    readLen (cap : Nat)
  | /-- the critical section that takes the next generation and sets `s_gattc_read_pending` -/
    readClaim (cap : Nat)
  | /-- `ble_gattc_read` -/
    readIssue (cap : Nat) (gen : UInt32)
  | /-- the request was refused: `s_gattc_read_pending = 0` -/
    readUnclaim (cap : Nat) (rc : Int)
  | /-- `ble_gattc_write_flat` -/
    writeIssue
  | /-- `osi_SyncObjWait` for a second, with `more` further seconds in the budget -/
    wait (op : GattOp) (more : Nat)
  | /-- `s_gattc_read_pending = 0` after the wait -/
    readRetire (cap : Nat) (signaled : Bool)
  | /-- `waited != 0 || s_gattc_op_status != 0` -/
    readCheck (cap : Nat) (signaled : Bool)
  | /-- `n = s_gattc_read_len`, at most `cap` -/
    readTake (cap : Nat)
  | /-- the copy out of the bounce buffer -/
    readCopy (cap n : Nat)
  | /-- `s_gattc_op_status == 0` -/
    writeCheck
  deriving DecidableEq, Repr

/-- A request NimBLE has accepted: the callback it will run.  `nth` counts the reads up to this one. -/
inductive GattRequest
  | read (gen : UInt32) (nth : Nat)
  | write
  deriving DecidableEq, Repr

/-- The callback that a request asks for. -/
def GattRequest.run (r : GattRequest) (g : Gattc) (ans : GattAnswer) : Gattc :=
  match r with
  | .read gen _ => g.readCb gen ans
  | .write => g.writeCb ans

/-- The client with its calls numbered: `call` is the latest one, `reads` the number of reads so far, and
`flight` has the requests whose callbacks have not run. -/
structure GattSys where
  sh : Gattc := {}
  pc : GattPc := .idle
  call : Nat := 0
  reads : Nat := 0
  flight : Nat → Option GattRequest := fun _ => none

/-- What may happen next. -/
inductive GattAct
  | /-- The worker calls the client. -/
    call (op : GattOp) (entry : GattEntry)
  | /-- The worker makes its next access. -/
    task
  | /-- NimBLE answers the attempt to issue a request with `rc`. -/
    issue (rc : Int)
  | /-- The callback of the request of call `k` runs. -/
    callback (k : Nat) (ans : GattAnswer)
  deriving DecidableEq, Repr

/-- What is seen: the callbacks, and the calls returning. -/
inductive GattEv
  | callback (k : Nat) (ans : GattAnswer)
  | ret (k : Nat) (op : GattOp) (rc : Int) (out : List UInt8)
  | tau
  deriving DecidableEq, Repr

namespace GattSys

/-- The current call returns. -/
def ret (s : GattSys) (op : GattOp) (rc : Int) (out : List UInt8) : GattSys × GattEv :=
  ({ s with pc := .idle }, .ret s.call op rc out)

/-- The worker goes on without being seen. -/
def next (s : GattSys) (pc : GattPc) : GattSys × GattEv := ({ s with pc := pc }, .tau)

/-- The worker's next access. -/
def taskStep (s : GattSys) : Option (GattSys × GattEv) :=
  match s.pc with
  | .idle => none
  | .clear op => some ({ s with sh.opSync := false }.next (.status op))
  | .status op =>
      some ({ s with sh.opStatus := -1 }.next
        (match op with
          | .read cap => .readLen cap
          | .write => .writeIssue))
  | .readLen cap => some ({ s with sh.readLen := 0 }.next (.readClaim cap))
  | .readClaim cap =>
      some ({ s with
          sh.readGen := s.sh.readGen + 1, sh.readPending := true, reads := s.reads + 1 }.next
        (.readIssue cap (s.sh.readGen + 1)))
  | .readIssue _ _ => none
  | .readUnclaim cap rc => some ({ s with sh.readPending := false }.ret (.read cap) rc [])
  | .writeIssue => none
  | .wait op more =>
      if s.sh.opSync = true then
        some ({ s with sh.opSync := false }.next
          (match op with
            | .read cap => .readRetire cap true
            | .write => .writeCheck))
      else
        match more, op with
        | more + 1, op => some (s.next (.wait op more))
        | 0, .read cap => some (s.next (.readRetire cap false))
        | 0, .write => some (s.ret .write (-1) [])
  | .readRetire cap signaled =>
      some ({ s with sh.readPending := false }.next (.readCheck cap signaled))
  | .readCheck cap signaled =>
      if signaled = false ∨ s.sh.opStatus ≠ 0 then some (s.ret (.read cap) (-1) [])
      else some (s.next (.readTake cap))
  | .readTake cap => some (s.next (.readCopy cap (min s.sh.readLen cap)))
  | .readCopy cap n => some (s.ret (.read cap) 0 ((List.range n).map s.sh.readBounce))
  | .writeCheck => some (s.ret .write (if s.sh.opStatus = 0 then 0 else -1) [])

/-- NimBLE's answer to a request: with 0 its callback is due. -/
def issueStep (s : GattSys) (rc : Int) : Option (GattSys × GattEv) :=
  match s.pc with
  | .readIssue cap gen =>
      if rc ≠ 0 then some (s.next (.readUnclaim cap rc))
      else
        some ({ s with flight := Function.update s.flight s.call (some (.read gen s.reads)) }.next
          (.wait (.read cap) 3))
  | .writeIssue =>
      if rc ≠ 0 then some (s.ret .write rc [])
      else
        some ({ s with flight := Function.update s.flight s.call (some .write) }.next (.wait .write 3))
  | _ => none

/-- The callback of the request of call `k`. -/
def callbackStep (s : GattSys) (k : Nat) (ans : GattAnswer) : Option (GattSys × GattEv) :=
  match s.flight k with
  | some r =>
      some ({ s with sh := r.run s.sh ans, flight := Function.update s.flight k none },
        .callback k ans)
  | none => none

/-- One step. -/
def step (s : GattSys) : GattAct → Option (GattSys × GattEv)
  | .call op entry =>
      if s.pc = .idle then
        if entry.passes op then some ({ s with call := s.call + 1 }.next (.clear op))
        else some ({ s with call := s.call + 1 }.ret op (-1) [])
      else none
  | .task => s.taskStep
  | .issue rc => s.issueStep rc
  | .callback k ans => s.callbackStep k ans

end GattSys

/-- The client as a machine. -/
def gattSystem : Machine GattSys GattAct GattEv := ⟨GattSys.step⟩

end Cc3501eBridge
