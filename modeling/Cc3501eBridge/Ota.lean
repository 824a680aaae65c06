import Cc3501eBridge.Lib.Calls
import Cc3501eBridge.Lib.Trace
import Cc3501eBridge.Wire

/-!
# Firmware update over the bridge

The session of `cc3501e_hw_ti_ota.c`.  `BEGIN`, `WRITE`, `FINISH` and `ABORT` come from the host
and only touch RAM: image bytes go into a window of 16 KiB, and whatever needs the flash is queued
as one operation, `op` with `op_rc = INFLIGHT`.  The pump, on a task, executes it: it closes the
SPI slave, makes the PSA calls, opens the slave again and publishes the result.  `psa_fwu` is
outside the repository, so its calls are logged and answered by an oracle.

With the slave open, a call of the host can come between any two accesses of the pump to the
session: after it found an operation in flight and before the slave is closed, and after the slave
is open again, before and after `op` is written and until `op_rc` is.  `OtaSys` has the pump at
these points.  In update mode the pump and the bridge share one task, and nothing comes in between.

All lengths are at most the image size of 2 MiB (`ota_begin` refuses more), so that no `uint32_t`
computation of the source wraps, and they are natural numbers here.
-/

namespace Cc3501eBridge

/-! ## The PSA firmware-update calls -/

/-- The two vendor slots. -/
inductive VendorSlot
  | slot1 | slot2
  deriving DecidableEq, Repr

/-- The state of a slot, as far as the code tells states apart. -/
inductive FwuState
  | ready | writing | candidate | staged | failed | trial | updated | other
  deriving DecidableEq, Repr

/-- A call of `psa_fwu`. -/
inductive PsaCall
  | init
  | query (slot : VendorSlot)
  | reject
  | cancel (slot : VendorSlot)
  | clean (slot : VendorSlot)
  | start (slot : VendorSlot) (manifest : List UInt8)
  | write (slot : VendorSlot) (off : Nat) (data : List UInt8)
  | finish (slot : VendorSlot)
  | install
  deriving DecidableEq, Repr

/-- What a call returns; the last two are filled in by a query. -/
structure PsaRet where
  status : Int
  primary : Bool
  state : FwuState

/-- The answers of `psa_fwu`, given the calls made so far. -/
abbrev PsaOracle := List PsaCall → PsaCall → PsaRet

/-- `PSA_SUCCESS`. -/
def psaSuccess : Int := 0

/-- `PSA_SUCCESS_REBOOT`: done, and a reboot completes it. -/
def psaSuccessReboot : Int := 1

/-- The low byte of a status. -/
def psaLow (status : Int) : UInt8 := UInt8.ofNat (status % 256).toNat

/-! ## The session -/

/-- `CC3501E_OTA_IMAGE_MAX`. -/
def otaImageMax : Nat := 2 * 1024 * 1024

/-- `CC3501E_OTA_FINISH_FLASH_BLOCK`. -/
def otaFinishFlashBlock : Nat := 4096

/-- `CC3501E_OTA_WINDOW`. -/
def otaWindow : Nat := 4 * otaFinishFlashBlock

/-- `alp_cc3501e_ota_state_t`. -/
inductive OtaState
  | idle | writing | staged | error
  deriving DecidableEq, Repr

/-- `OTA_OP_*`. -/
inductive OtaOp
  | idle | begin | finish | flush
  deriving DecidableEq, Repr

/-- `OTA_OP_INFLIGHT`. -/
def otaOpInflight : Int := 2

/-- The session `ota`. -/
structure Ota where
  state : OtaState
  target : VendorSlot
  totalLen : Nat
  cursor : Nat
  op : OtaOp
  opRc : Int
  opTotal : Nat
  failStage : Nat
  failPsa : UInt8
  windowBase : Nat
  windowUsed : Nat
  flushed : Nat
  started : Bool
  window : Buf

/-- The session after a reset. -/
def Ota.boot : Ota where
  state := .idle
  target := .slot1
  totalLen := 0
  cursor := 0
  op := .idle
  opRc := 0
  opTotal := 0
  failStage := 0
  failPsa := 0
  windowBase := 0
  windowUsed := 0
  flushed := 0
  started := false
  window := .zero

/-- `ota_submit`. -/
def otaSubmit (o : Ota) (op : OtaOp) : Ota × Int :=
  if o.opRc = otaOpInflight then (o, hwBusy)
  else ({ o with op := op, opRc := otaOpInflight }, hwBusy)

/-! ## What the pump executes -/

open Calls (call)

section

variable (O : PsaOracle)

/-- The slot to write: the one that is not primary; if that is unclear, both are cleaned first. -/
def otaPickTarget (i1 i2 : PsaRet) : Calls PsaCall VendorSlot :=
  if i1.primary && !i2.primary then pure .slot2
  else if i2.primary && !i1.primary then pure .slot1
  else do
    let _ ← call O .reject
    let _ ← call O (.cancel .slot1)
    let _ ← call O (.clean .slot1)
    let _ ← call O (.cancel .slot2)
    let _ ← call O (.clean .slot2)
    let i2 ← call O (.query .slot2)
    pure (if i2.status = psaSuccess ∧ i2.primary then .slot1 else .slot2)

/-- Walk a slot back to ready, if it is not. -/
def otaPrepareSlot (target : VendorSlot) (state : FwuState) : Calls PsaCall PUnit :=
  if state ≠ .ready then
    if state = .writing ∨ state = .candidate then do
      let _ ← call O (.cancel target)
      let _ ← call O (.clean target)
    else if state = .staged ∨ state = .trial then do
      let _ ← call O .reject
      let _ ← call O (.clean target)
    else do
      let _ ← call O (.clean target)
  else pure ⟨⟩

/-- A new session for the image announced last. -/
def Ota.begun (o : Ota) (target : VendorSlot) : Ota :=
  { o with
    target := target
    totalLen := o.opTotal
    cursor := 0
    windowBase := 0
    windowUsed := 0
    flushed := 0
    started := false
    failStage := 0
    failPsa := 0
    state := .writing }

/-- `ota_do_begin`. -/
def otaDoBegin (o : Ota) : Calls PsaCall (Ota × Int) := do
  let _ ← call O .init
  let i1 ← call O (.query .slot1)
  if i1.status ≠ psaSuccess then pure (o, hwErrIo)
  else do
    let i2 ← call O (.query .slot2)
    if i2.status ≠ psaSuccess then pure (o, hwErrIo)
    else do
      let target ← otaPickTarget O i1 i2
      let ti ← call O (.query target)
      if ti.status ≠ psaSuccess then pure (o, hwErrIo)
      else do
        otaPrepareSlot O target ti.state
        pure (o.begun target, hwOk)

/-- The first part of `ota_flush`: open the slot with the manifest, if it is not open. -/
def otaOpenSlot (manifest : Nat) (o : Ota) : Calls PsaCall (Ota × Int) :=
  if o.started then pure (o, hwOk)
  else if o.windowUsed < manifest then pure ({ o with failStage := 5 }, hwErrInval)
  else do
    let ps ← call O (.start o.target (o.window.read 0 manifest))
    if ps.status ≠ psaSuccess then
      pure ({ o with failStage := 1, failPsa := psaLow ps.status }, hwErrIo)
    else pure ({ o with started := true, flushed := manifest }, hwOk)

/-- The bytes to commit: whole blocks, unless this is the last flush or the window is full of less
than a block. -/
def otaReady (final : Bool) (o : Ota) : Nat :=
  let stop := o.windowBase + o.windowUsed
  let ready := if stop > o.flushed then stop - o.flushed else 0
  if final then ready
  else
    let whole := ready - ready % otaFinishFlashBlock
    if whole = 0 ∧ o.windowUsed ≥ otaWindow then ready else whole

/-- The write loop of `ota_flush` from `off` to `stop`, with a bound on its turns; the status that
stopped it, if one did. -/
def otaWriteBlocks (o : Ota) (stop : Nat) : Nat → Nat → Calls PsaCall (Option Int)
  | 0, _ => pure none
  | turns + 1, off =>
      if off < stop then do
        let n := min (stop - off) otaFinishFlashBlock
        let pw ← call O (.write o.target off (o.window.read (off - o.windowBase) n))
        if pw.status ≠ psaSuccess then pure (some pw.status)
        else otaWriteBlocks o stop turns (off + n)
      else pure none

/-- The window after everything below `stop` is committed: what is left moves to the front. -/
def Ota.slid (o : Ota) (stop : Nat) : Ota :=
  let keep := o.windowBase + o.windowUsed - stop
  { o with
    flushed := stop
    window := if keep ≠ 0 then o.window.write 0 (o.window.read (stop - o.windowBase) keep)
      else o.window
    windowBase := stop
    windowUsed := keep }

/-- The second part of `ota_flush`: commit what is ready and slide the window. -/
def otaCommit (final : Bool) (o : Ota) : Calls PsaCall (Ota × Int) :=
  let ready := otaReady final o
  if ready = 0 then pure (o, hwOk)
  else do
    let stop := o.flushed + ready
    match ← otaWriteBlocks O o stop ready o.flushed with
    | some pw => pure ({ o with failStage := 2, failPsa := psaLow pw }, hwErrIo)
    | none => pure (o.slid stop, hwOk)

/-- `ota_flush`. -/
def otaFlush (manifest : Nat) (final : Bool) (o : Ota) : Calls PsaCall (Ota × Int) := do
  let (o, rc) ← otaOpenSlot O manifest o
  if rc ≠ hwOk then pure (o, rc) else otaCommit O final o

/-- `ota_do_finish`. -/
def otaDoFinish (manifest : Nat) (o : Ota) : Calls PsaCall (Ota × Int) :=
  if o.cursor ≠ o.totalLen ∨ o.totalLen ≤ manifest then pure (o, hwErrInval)
  else do
    let (o, fr) ← otaFlush O manifest true o
    if fr ≠ hwOk then pure (o, fr)
    else if o.flushed ≠ o.totalLen then pure (o, hwErrIo)
    else do
      let pf ← call O (.finish o.target)
      if pf.status ≠ psaSuccess ∧ pf.status ≠ psaSuccessReboot then
        pure ({ o with failStage := 3, failPsa := psaLow pf.status }, hwErrIo)
      else do
        let pi ← call O .install
        if pi.status ≠ psaSuccess ∧ pi.status ≠ psaSuccessReboot then
          pure ({ o with failStage := 4, failPsa := psaLow pi.status }, hwErrIo)
        else pure ({ o with state := .staged }, hwOk)

/-- The `switch` of `cc3501e_hw_ota_pump`. -/
def otaRunOp (manifest : Nat) (o : Ota) : Calls PsaCall (Ota × Int) :=
  match o.op with
  | .begin => otaDoBegin O o
  | .finish => otaDoFinish O manifest o
  | .flush => otaFlush O manifest false o
  | .idle => pure (o, hwErrInval)

/-- The part of the pump with the slave closed: the operation, and `ERROR` if it failed. -/
def otaExecute (manifest : Nat) (o : Ota) : Calls PsaCall (Ota × Int) := do
  let (o, rc) ← otaRunOp O manifest o
  if rc ≠ hwOk ∧ rc ≠ hwBusy then pure ({ o with state := .error }, rc) else pure (o, rc)

/-- `alp_cc3501e_ota_pending_t`. -/
inductive OtaPending
  | unknown | none | candidate | staged | trial | failed
  deriving DecidableEq, Repr

/-- `ota_pending_from_psa`. -/
def otaPendingFromPsa : FwuState → OtaPending
  | .ready | .updated => .none
  | .candidate => .candidate
  | .staged => .staged
  | .trial => .trial
  | .failed => .failed
  | .writing | .other => .unknown

/-- `ota_pending_refresh`: the state of the slot that is not primary. -/
def otaPendingRefresh : Calls PsaCall OtaPending := do
  let _ ← call O .init
  let i1 ← call O (.query .slot1)
  if i1.status ≠ psaSuccess then pure .unknown
  else do
    let i2 ← call O (.query .slot2)
    if i2.status ≠ psaSuccess then pure .unknown
    else if i1.primary && !i2.primary then pure (otaPendingFromPsa i2.state)
    else if i2.primary && !i1.primary then pure (otaPendingFromPsa i1.state)
    else pure .unknown

end

/-! ## What the host calls -/

/-- `cc3501e_hw_ota_begin`. -/
def otaBegin (manifest : Nat) (o : Ota) (totalLen : Nat) : Ota × Int :=
  if totalLen ≤ manifest ∨ totalLen > otaImageMax then (o, hwErrInval)
  else if o.opRc = otaOpInflight then (o, hwBusy)
  else if o.state = .writing then
    if totalLen = o.totalLen ∧ o.cursor = 0 then (o, hwOk) else (o, hwErrInval)
  else
    let o := if o.state = .error then { o with state := .idle, opRc := hwOk } else o
    otaSubmit { o with opTotal := totalLen } .begin

/-- `cc3501e_hw_ota_write`. -/
def otaWrite (manifest : Nat) (o : Ota) (offset : Nat) (data : List UInt8) : Ota × Int :=
  if o.state ≠ .writing then (o, hwErrInval)
  else if data.length = 0 ∨ data.length > otaMaxChunk then (o, hwErrInval)
  else if o.opRc = otaOpInflight then (o, hwBusy)
  else if offset + data.length ≤ o.cursor then (o, hwOk)
  else if offset ≠ o.cursor then (o, hwErrInval)
  else if offset + data.length > o.totalLen then (o, hwErrInval)
  else if data.length > otaWindow - o.windowUsed then otaSubmit o .flush
  else
    let o := { o with
      window := o.window.write o.windowUsed data
      windowUsed := o.windowUsed + data.length
      cursor := o.cursor + data.length }
    -- the slot is opened as soon as the manifest is there
    if !o.started ∧ o.windowUsed ≥ manifest then otaSubmit o .flush else (o, hwOk)

/-- `cc3501e_hw_ota_finish`. -/
def otaFinish (o : Ota) : Ota × Int :=
  if o.state = .staged then (o, hwOk)
  else if o.state ≠ .writing then (o, hwErrInval)
  else if o.opRc = otaOpInflight then (o, hwBusy)
  else otaSubmit o .finish

/-- `cc3501e_hw_ota_abort`: there is no check for an operation in flight. -/
def otaAbort (o : Ota) : Ota × Int :=
  ({ o with
    state := .idle
    cursor := 0
    totalLen := 0
    windowBase := 0
    windowUsed := 0
    flushed := 0
    started := false
    failStage := 0
    failPsa := 0
    op := .idle
    opRc := 0 }, hwOk)

/-! ## The pump among the calls -/

/-- Where the pump is. -/
inductive PumpPc
  /-- not running -/
  | idle
  /-- an operation was in flight; the slave is still open -/
  | checked
  /-- the operation has returned `rc` and the slave is open again -/
  | reopened (rc : Int)
  /-- `op` is `IDLE` again; `op_rc` is still to be written -/
  | freed (rc : Int)
  deriving DecidableEq, Repr

/-- The session, the cached state of the slot, and the pump. -/
structure OtaSys where
  ota : Ota
  primed : Bool
  pending : OtaPending
  pc : PumpPc

/-- After a reset. -/
def OtaSys.boot : OtaSys where
  ota := .boot
  primed := false
  pending := .unknown
  pc := .idle

/-- What can happen next: a call of the host, or a step of the pump. -/
inductive OtaAct
  | begin (totalLen : Nat)
  | write (offset : Nat) (data : List UInt8)
  | finish
  | abort
  | enter (O : PsaOracle)
  | execute (O : PsaOracle)
  | free (O : PsaOracle)
  | publish

/-- What such a step shows. -/
inductive OtaEv
  | begin (totalLen : Nat) (rc : Int)
  | write (offset : Nat) (data : List UInt8) (rc : Int) (advanced : Bool)
  | finish (rc : Int)
  | abort (rc : Int)
  | entered (calls : List PsaCall)
  | executed (op : OtaOp) (rc : Int) (calls : List PsaCall)
  | freed (calls : List PsaCall)
  | published (rc : Int)
  deriving DecidableEq, Repr

/-- Whether a call of the host can come now. -/
def OtaSys.serves (polled : Bool) (s : OtaSys) : Bool := !polled || s.pc = .idle

/-- One step. -/
def otaStep (manifest : Nat) (polled : Bool) (s : OtaSys) : OtaAct → Option (OtaSys × OtaEv)
  | .begin totalLen =>
      if s.serves polled then
        let (o, rc) := otaBegin manifest s.ota totalLen
        some ({ s with ota := o }, .begin totalLen rc)
      else none
  | .write offset data =>
      if s.serves polled then
        let (o, rc) := otaWrite manifest s.ota offset data
        some ({ s with ota := o }, .write offset data rc (decide (s.ota.cursor < o.cursor)))
      else none
  | .finish =>
      if s.serves polled then
        let (o, rc) := otaFinish s.ota
        some ({ s with ota := o }, .finish rc)
      else none
  | .abort =>
      if s.serves polled then
        let (o, rc) := otaAbort s.ota
        some ({ s with ota := o }, .abort rc)
      else none
  | .enter O =>
      if s.pc = .idle then
        let (pending, calls) := if s.primed then (s.pending, []) else otaPendingRefresh O []
        some ({ s with
          primed := true
          pending := pending
          pc := if s.ota.opRc = otaOpInflight then .checked else .idle }, .entered calls)
      else none
  | .execute O =>
      if s.pc = .checked then
        let ((o, rc), calls) := otaExecute O manifest s.ota []
        some ({ s with ota := o, pc := .reopened rc }, .executed s.ota.op rc calls)
      else none
  | .free O =>
      match s.pc with
      | .reopened rc =>
          let (pending, calls) := otaPendingRefresh O []
          some ({ s with ota := { s.ota with op := .idle }, pending := pending, pc := .freed rc },
            .freed calls)
      | _ => none
  | .publish =>
      match s.pc with
      | .freed rc => some ({ s with ota := { s.ota with opRc := rc }, pc := .idle }, .published rc)
      | _ => none

/-- The update service, in normal or in update mode. -/
def otaSystem (manifest : Nat) (polled : Bool) : Machine OtaSys OtaAct OtaEv where
  step := otaStep manifest polled

/-- What a step does. -/
inductive OtaTrans (manifest : Nat) (polled : Bool) (s : OtaSys) : OtaAct → OtaSys → OtaEv → Prop
  | begin (totalLen : Nat) (hserves : s.serves polled = true) :
      OtaTrans manifest polled s (.begin totalLen)
        { s with ota := (otaBegin manifest s.ota totalLen).1 }
        (.begin totalLen (otaBegin manifest s.ota totalLen).2)
  | write (offset : Nat) (data : List UInt8) (hserves : s.serves polled = true) :
      OtaTrans manifest polled s (.write offset data)
        { s with ota := (otaWrite manifest s.ota offset data).1 }
        (.write offset data (otaWrite manifest s.ota offset data).2
          (decide (s.ota.cursor < (otaWrite manifest s.ota offset data).1.cursor)))
  | finish (hserves : s.serves polled = true) :
      OtaTrans manifest polled s .finish { s with ota := (otaFinish s.ota).1 }
        (.finish (otaFinish s.ota).2)
  | abort (hserves : s.serves polled = true) :
      OtaTrans manifest polled s .abort { s with ota := (otaAbort s.ota).1 }
        (.abort (otaAbort s.ota).2)
  | enter (O : PsaOracle) (hpc : s.pc = .idle) :
      OtaTrans manifest polled s (.enter O)
        { s with
          primed := true
          pending := (if s.primed then (s.pending, []) else otaPendingRefresh O []).1
          pc := if s.ota.opRc = otaOpInflight then .checked else .idle }
        (.entered (if s.primed then (s.pending, []) else otaPendingRefresh O []).2)
  | execute (O : PsaOracle) (hpc : s.pc = .checked) :
      OtaTrans manifest polled s (.execute O)
        { s with
          ota := (otaExecute O manifest s.ota []).1.1
          pc := .reopened (otaExecute O manifest s.ota []).1.2 }
        (.executed s.ota.op (otaExecute O manifest s.ota []).1.2 (otaExecute O manifest s.ota []).2)
  | free (O : PsaOracle) {rc : Int} (hpc : s.pc = .reopened rc) :
      OtaTrans manifest polled s (.free O)
        { s with
          ota := { s.ota with op := .idle }
          pending := (otaPendingRefresh O []).1
          pc := .freed rc }
        (.freed (otaPendingRefresh O []).2)
  | publish {rc : Int} (hpc : s.pc = .freed rc) :
      OtaTrans manifest polled s .publish
        { s with ota := { s.ota with opRc := rc }, pc := .idle } (.published rc)

theorem otaStep_trans {manifest : Nat} {polled : Bool} {s s' : OtaSys} {a : OtaAct} {e : OtaEv}
    (h : (otaSystem manifest polled).step s a = some (s', e)) :
    OtaTrans manifest polled s a s' e := by
  change otaStep manifest polled s a = _ at h
  unfold otaStep at h
  cases a with
  | begin totalLen =>
      obtain ⟨hserves, heq⟩ := Option.ite_none_right_eq_some.mp h
      obtain ⟨rfl, rfl⟩ := Prod.mk.inj (Option.some.inj heq)
      exact .begin totalLen hserves
  | write offset data =>
      obtain ⟨hserves, heq⟩ := Option.ite_none_right_eq_some.mp h
      obtain ⟨rfl, rfl⟩ := Prod.mk.inj (Option.some.inj heq)
      exact .write offset data hserves
  | finish =>
      obtain ⟨hserves, heq⟩ := Option.ite_none_right_eq_some.mp h
      obtain ⟨rfl, rfl⟩ := Prod.mk.inj (Option.some.inj heq)
      exact .finish hserves
  | abort =>
      obtain ⟨hserves, heq⟩ := Option.ite_none_right_eq_some.mp h
      obtain ⟨rfl, rfl⟩ := Prod.mk.inj (Option.some.inj heq)
      exact .abort hserves
  | enter O =>
      obtain ⟨hpc, heq⟩ := Option.ite_none_right_eq_some.mp h
      obtain ⟨rfl, rfl⟩ := Prod.mk.inj (Option.some.inj heq)
      exact .enter O hpc
  | execute O =>
      obtain ⟨hpc, heq⟩ := Option.ite_none_right_eq_some.mp h
      obtain ⟨rfl, rfl⟩ := Prod.mk.inj (Option.some.inj heq)
      exact .execute O hpc
  | free O =>
      cases hpc : s.pc with
      | reopened rc =>
          rw [hpc] at h
          obtain ⟨rfl, rfl⟩ := Prod.mk.inj (Option.some.inj h)
          exact .free O hpc
      | _ => simp [hpc] at h
  | publish =>
      cases hpc : s.pc with
      | freed rc =>
          rw [hpc] at h
          obtain ⟨rfl, rfl⟩ := Prod.mk.inj (Option.some.inj h)
          exact .publish hpc
      | _ => simp [hpc] at h

/-- `cc3501e_hw_ota_status`: the state and progress `OTA_STATUS` reports. -/
def otaStatus (o : Ota) : OtaState × Nat × Nat := (o.state, o.cursor, o.totalLen)

/-! ## The queue during an operation -/

/-- An operation leaves the queue alone, and its result is not the mark of one in flight. -/
structure KeepsQueue (o : Ota) (r : Ota × Int) : Prop where
  op : r.1.op = o.op
  opRc : r.1.opRc = o.opRc
  result : r.2 ≠ otaOpInflight

section

variable {O : PsaOracle} {manifest : Nat} {o o' : Ota}

theorem KeepsQueue.errIo (hop : o'.op = o.op) (hrc : o'.opRc = o.opRc) :
    KeepsQueue o (o', hwErrIo) := ⟨hop, hrc, (by decide : hwErrIo ≠ otaOpInflight)⟩

theorem KeepsQueue.errInval (hop : o'.op = o.op) (hrc : o'.opRc = o.opRc) :
    KeepsQueue o (o', hwErrInval) := ⟨hop, hrc, (by decide : hwErrInval ≠ otaOpInflight)⟩

theorem KeepsQueue.ok (hop : o'.op = o.op) (hrc : o'.opRc = o.opRc) : KeepsQueue o (o', hwOk) :=
  ⟨hop, hrc, (by decide : hwOk ≠ otaOpInflight)⟩

theorem otaPickTarget_makes (i1 i2 : PsaRet) :
    (otaPickTarget O i1 i2).Makes fun _ _ => True := by
  unfold otaPickTarget
  apply Calls.Makes.ite
  · exact fun _ => .pure trivial
  intro _
  apply Calls.Makes.ite
  · exact fun _ => .pure trivial
  intro _
  iterate 6
    apply Calls.Makes.call
    intro _
  exact .pure trivial

theorem otaPrepareSlot_makes (target : VendorSlot) (state : FwuState) :
    (otaPrepareSlot O target state).Makes fun _ _ => True := by
  unfold otaPrepareSlot
  split_ifs
  · exact .call fun _ => .call fun _ => .pure trivial
  · exact .call fun _ => .call fun _ => .pure trivial
  · exact .call fun _ => .pure trivial
  · exact .pure trivial

/-- `BEGIN` gives a new session or fails. -/
theorem otaDoBegin_makes :
    (otaDoBegin O o).Makes fun r _ => r = (o, hwErrIo) ∨ ∃ target, r = (o.begun target, hwOk) := by
  apply Calls.Makes.call
  intro _
  apply Calls.Makes.call
  intro i1
  apply Calls.Makes.ite
  · exact fun _ => .pure (.inl rfl)
  intro _
  apply Calls.Makes.call
  intro i2
  apply Calls.Makes.ite
  · exact fun _ => .pure (.inl rfl)
  intro _
  refine (otaPickTarget_makes i1 i2).bind ?_
  intro target _ _
  apply Calls.Makes.call
  intro ti
  apply Calls.Makes.ite
  · exact fun _ => .pure (.inl rfl)
  intro _
  refine (otaPrepareSlot_makes target ti.state).bind ?_
  exact fun _ _ _ => .pure (.inr ⟨target, rfl⟩)

theorem otaWriteBlocks_makes_any (stop turns : Nat) :
    ∀ off, (otaWriteBlocks O o stop turns off).Makes fun _ _ => True := by
  induction turns with
  | zero => exact fun _ => .pure trivial
  | succ turns ih =>
      intro off
      unfold otaWriteBlocks
      apply Calls.Makes.ite
      · intro _
        apply Calls.Makes.call
        intro pw
        exact .ite (fun _ => .pure trivial) fun _ => ih _
      · exact fun _ => .pure trivial

theorem otaFlush_keepsQueue (final : Bool) :
    (otaFlush O manifest final o).Makes fun r _ => KeepsQueue o r := by
  have hopen : (otaOpenSlot O manifest o).Makes fun r _ => KeepsQueue o r := by
    unfold otaOpenSlot
    apply Calls.Makes.ite
    · exact fun _ => .pure (.ok rfl rfl)
    intro _
    apply Calls.Makes.ite
    · exact fun _ => .pure (.errInval rfl rfl)
    intro _
    apply Calls.Makes.call
    intro ps
    exact .ite (fun _ => .pure (.errIo rfl rfl)) fun _ => .pure (.ok rfl rfl)
  refine hopen.bind ?_
  rintro ⟨o', rc⟩ _ ⟨hop, hrc, hres⟩
  apply Calls.Makes.ite
  · exact fun _ => .pure ⟨hop, hrc, hres⟩
  intro _
  unfold otaCommit
  apply Calls.Makes.ite
  · exact fun _ => .pure (.ok hop hrc)
  intro _
  refine (otaWriteBlocks_makes_any _ _ _).bind ?_
  intro r _ _
  cases r with
  | some pw => exact .pure (.errIo hop hrc)
  | none => exact .pure (.ok hop hrc)

theorem otaDoFinish_keepsQueue : (otaDoFinish O manifest o).Makes fun r _ => KeepsQueue o r := by
  unfold otaDoFinish
  apply Calls.Makes.ite
  · exact fun _ => .pure (.errInval rfl rfl)
  intro _
  refine (otaFlush_keepsQueue true).bind ?_
  rintro ⟨o', fr⟩ _ ⟨hop, hrc, hres⟩
  apply Calls.Makes.ite
  · exact fun _ => .pure ⟨hop, hrc, hres⟩
  intro _
  apply Calls.Makes.ite
  · exact fun _ => .pure (.errIo hop hrc)
  intro _
  apply Calls.Makes.call
  intro pf
  apply Calls.Makes.ite
  · exact fun _ => .pure (.errIo hop hrc)
  intro _
  apply Calls.Makes.call
  intro pi
  exact .ite (fun _ => .pure (.errIo hop hrc)) fun _ => .pure (.ok hop hrc)

/-- The whole of an operation leaves the queue alone. -/
theorem otaExecute_keepsQueue : (otaExecute O manifest o).Makes fun r _ => KeepsQueue o r := by
  have hrun : (otaRunOp O manifest o).Makes fun r _ => KeepsQueue o r := by
    unfold otaRunOp
    cases o.op with
    | begin =>
        refine otaDoBegin_makes.mono ?_
        rintro r _ (rfl | ⟨target, rfl⟩)
        · exact .errIo rfl rfl
        · exact .ok rfl rfl
    | finish => exact otaDoFinish_keepsQueue
    | flush => exact otaFlush_keepsQueue false
    | idle => exact .pure (.errInval rfl rfl)
  refine hrun.bind ?_
  rintro ⟨o', rc⟩ _ ⟨hop, hrc, hres⟩
  exact .ite (fun _ => .pure ⟨hop, hrc, hres⟩) fun _ => .pure ⟨hop, hrc, hres⟩

end

end Cc3501eBridge
