import Cc3501eBridge.Lib.Trace
import Cc3501eBridge.GattRegister

/-!
# What a failed registration leaves

A registration first takes every service down, `ble_gatts_reset`, and then queues the demo service
and the dynamic one and starts the server again.  `GattServer` is what those calls act on: the
services that are published, those queued for the next start, and those counted.  Each call may
fail, and then changes nothing.

A call that fails at the reset or before it leaves the server as it was.  A call that fails after the
reset leaves nothing published and whatever it queued, which the next registration queues once more.
The first kind is `RegisterCall.Undisturbed`; in a run of such calls the server is `GattHost.Sound`.
-/

namespace Cc3501eBridge

open Fetch

/-! ## The server -/

/-- The two services: the fixed `s_gatt_svcs` and the registered `s_dyn_svcs`. -/
inductive GattSvc where
  | demo
  | dyn
  deriving DecidableEq, Repr

/-- What the NimBLE calls act on. -/
structure GattServer where
  published : List GattSvc := []
  pending : List GattSvc := []
  counted : List GattSvc := []
  deriving DecidableEq, Repr

namespace GattServer

/-- `ble_gatts_reset`. -/
def reset (v : GattServer) : GattServer := { v with published := [] }

/-- `ble_gatts_count_cfg`. -/
def countCfg (v : GattServer) (svc : GattSvc) : GattServer := { v with counted := v.counted ++ [svc] }

/-- `ble_gatts_add_svcs`. -/
def addSvcs (v : GattServer) (svc : GattSvc) : GattServer := { v with pending := v.pending ++ [svc] }

/-- `ble_gatts_start`. -/
def start (v : GattServer) : GattServer :=
  { v with published := v.published ++ v.pending, pending := [] }

end GattServer

/-- A call that succeeds. -/
def GattsCall.effect : GattsCall → GattServer → GattServer
  | .reset, v => v.reset
  | .addDemoSvcs, v => v.addSvcs .demo
  | .countDynCfg, v => v.countCfg .dyn
  | .addDynSvcs, v => v.addSvcs .dyn
  | .start, v => v.start

/-- Calls in order; those that fail change nothing. -/
def gattsEffect (nimble : GattsCall → Int) (calls : List GattsCall) (v : GattServer) : GattServer :=
  calls.foldl (fun v c => if nimble c = 0 then c.effect v else v) v

/-- The server and the tables of the dynamic service. -/
structure GattHost where
  server : GattServer
  tables : GattDyn

/-- After `cc3501e_gatt_svr_init` and the start that comes with the host. -/
def GattHost.boot : GattHost where
  server := ((({} : GattServer).countCfg .demo).addSvcs .demo).start
  tables := {}

/-- A call of `cc3501e_nimble_gatt_register`, with what it meets. -/
structure RegisterCall where
  nimble : GattsCall → Int
  assigned : Nat → UInt16
  enabled : Bool
  handlesCap : Nat
  desc : Nat → UInt8
  descLen : UInt16

/-- What comes of the call. -/
def RegisterCall.out (a : RegisterCall) (t : GattDyn) : GattRegistration :=
  (nimbleGattRegister a.nimble a.assigned t a.enabled a.handlesCap a.descLen).run a.desc

/-- What the call leaves. -/
def GattHost.register (h : GattHost) (a : RegisterCall) : GattHost where
  server := gattsEffect a.nimble (a.out h.tables).calls h.server
  tables := (a.out h.tables).tables

/-- Registrations, one after another; the event is the code returned. -/
def gattHost : Machine GattHost RegisterCall Int where
  step h a := some (h.register a, (a.out h.tables).rc)

/-! ## Which descriptors are taken -/

/-- The `n` records from `pos` on stay within the descriptor and within the storage of the tables. -/
def gattRecordsFit (desc : Nat → UInt8) (descLen : Nat) : Nat → Nat → Bool
  | 0, _ => true
  | n + 1, pos =>
      let initialLen := (getLe16 (desc (pos + 17)) (desc (pos + 18))).toNat
      decide (pos + 19 ≤ descLen) && decide (initialLen ≤ gattDynChrValMax) &&
        decide (pos + 19 + initialLen ≤ descLen) &&
        gattRecordsFit desc descLen n (pos + 19 + initialLen)

/-- The descriptor passes every check before NimBLE is called. -/
structure RegisterCall.Accepted (a : RegisterCall) : Prop where
  enabled : a.enabled = true
  header : 18 ≤ a.descLen.toNat
  numChars : (a.desc 17).toNat ≠ 0 ∧ (a.desc 17).toNat ≤ gattDynMaxChars
  records : gattRecordsFit a.desc a.descLen.toNat (a.desc 17).toNat 18 = true

/-- The walk comes to its end if the records fit, and does not touch `s_dyn_svc_registered`. -/
theorem run_nimbleGattWalk (desc : Nat → UInt8) (descLen n i pos : Nat) (t : GattDyn) :
    ((nimbleGattWalk descLen n i pos t).run desc).2 = gattRecordsFit desc descLen n pos ∧
      ((nimbleGattWalk descLen n i pos t).run desc).1.registered = t.registered := by
  induction n generalizing i pos t with
  | zero => exact ⟨rfl, rfl⟩
  | succ n ih =>
      rw [nimbleGattWalk, gattRecordsFit]
      by_cases hhead : pos + 16 + 1 + 2 > descLen
      · rw [if_pos hhead]
        have hno : ¬ pos + 19 ≤ descLen := by omega
        simp [hno]
      rw [if_neg hhead]
      have hword : (fetchWord (pos + 17)).run desc = getLe16 (desc (pos + 17)) (desc (pos + 18)) := rfl
      have hyes : pos + 19 ≤ descLen := by omega
      simp only [run_bind, run_cell, hword]
      by_cases hlong : (getLe16 (desc (pos + 17)) (desc (pos + 18))).toNat > gattDynChrValMax
      · rw [if_pos hlong]
        simp [Nat.not_le.mpr hlong, GattDyn.putUuid]
      rw [if_neg hlong]
      by_cases hfit : pos + 16 + 1 + 2 + (getLe16 (desc (pos + 17)) (desc (pos + 18))).toNat > descLen
      · rw [if_pos hfit]
        have hno : ¬ pos + 19 + (getLe16 (desc (pos + 17)) (desc (pos + 18))).toNat ≤ descLen := by omega
        simp [hno, GattDyn.putUuid]
      rw [if_neg hfit, run_bind]
      have hyes' : pos + 19 + (getLe16 (desc (pos + 17)) (desc (pos + 18))).toNat ≤ descLen := by omega
      obtain ⟨hrest, hreg⟩ := ih (i + 1)
        (pos + 19 + (getLe16 (desc (pos + 17)) (desc (pos + 18))).toNat)
        ((t.putUuid i ((span pos 16).run desc)).putChr i (desc (pos + 16))
          ((span (pos + 16 + 1 + 2) (getLe16 (desc (pos + 17)) (desc (pos + 18))).toNat).run desc))
      refine ⟨hrest.trans ?_, hreg⟩
      simp [hyes, hyes', Nat.not_lt.mp hlong]

namespace RegisterCall

variable {a : RegisterCall} {t : GattDyn}

/-- The calls to NimBLE, in order. -/
def gattsCalls : List GattsCall := [.reset, .addDemoSvcs, .countDynCfg, .addDynSvcs, .start]

/-- A code that is mapped is an error exactly if it was. -/
theorem gattRegMapRc_ne_zero {rc : Int} (h : rc ≠ 0) : gattRegMapRc rc ≠ 0 := by
  unfold gattRegMapRc
  split_ifs
  · decide
  · exact h

/-- A registration that is refused before NimBLE is called. -/
theorem out_of_refused (h : t.registered = true ∨ ¬ a.Accepted) :
    (a.out t).rc ≠ 0 ∧ (a.out t).calls = [] ∧ (a.out t).tables.registered = t.registered := by
  unfold out nimbleGattRegister
  by_cases hen : a.enabled = false
  · simp [hen]
  rw [if_neg hen]
  by_cases hreg : t.registered = true
  · rw [if_pos hreg, run_pure]
    exact ⟨show hwErrState ≠ 0 by decide, rfl, rfl⟩
  rw [if_neg hreg]
  by_cases hshort : a.descLen.toNat < 18
  · simp [hshort]
  rw [if_neg hshort, run_bind, run_cell]
  by_cases hcount : (a.desc 17).toNat = 0 ∨ (a.desc 17).toNat > gattDynMaxChars
  · simp [hcount]
  rw [if_neg hcount, run_bind, run_bind]
  obtain ⟨hfit, hkeep⟩ := run_nimbleGattWalk a.desc a.descLen.toNat (a.desc 17).toNat 0 18
    { t with svcUuid := (span 1 16).run a.desc }
  have hno : gattRecordsFit a.desc a.descLen.toNat (a.desc 17).toNat 18 = false := by
    rw [Bool.eq_false_iff]
    intro hrecords
    rcases h with h | h
    · exact hreg h
    · exact h ⟨by simpa using hen, by omega, by omega, hrecords⟩
  rw [hno] at hfit
  dsimp only
  rw [if_pos hfit, run_pure]
  exact ⟨show (-1 : Int) ≠ 0 by decide, rfl, hkeep⟩

/-- A registration that comes to NimBLE. -/
theorem out_of_accepted (ht : t.registered = false) (ha : a.Accepted) :
    (a.out t).calls = (gattsRun a.nimble gattsCalls).1 ∧
      (a.out t).rc = (gattsRun a.nimble gattsCalls).2 ∧
      (a.out t).tables.registered = decide ((gattsRun a.nimble gattsCalls).2 = 0) := by
  obtain ⟨hfit, hkeep⟩ := run_nimbleGattWalk a.desc a.descLen.toNat (a.desc 17).toNat 0 18
    { t with svcUuid := (span 1 16).run a.desc }
  rw [ha.records] at hfit
  unfold out nimbleGattRegister
  have hheader := ha.header
  have hcount := ha.numChars
  rw [if_neg (by simp [ha.enabled]), if_neg (by simp [ht]), if_neg (by omega), run_bind, run_cell,
    if_neg (by omega), run_bind, run_bind]
  generalize (nimbleGattWalk a.descLen.toNat (a.desc 17).toNat 0 18
    { t with svcUuid := (span 1 16).run a.desc }).run a.desc = walked at hfit hkeep ⊢
  dsimp only
  rw [if_neg (by simp [hfit])]
  have hcalls : [GattsCall.reset, .addDemoSvcs, .countDynCfg, .addDynSvcs, .start] = gattsCalls := rfl
  rw [hcalls]
  by_cases hrc : (gattsRun a.nimble gattsCalls).2 = 0
  · simp [hrc]
  · simp [hrc, hkeep, ht, GattDyn.putEnd]

/-- Nothing fails. -/
theorem gattsRun_of_ok (hall : ∀ c, a.nimble c = 0) (v : GattServer) :
    (gattsRun a.nimble gattsCalls).2 = 0 ∧
      gattsEffect a.nimble (gattsRun a.nimble gattsCalls).1 v =
        (((v.reset.addSvcs .demo).countCfg .dyn).addSvcs .dyn).start := by
  simp [gattsRun, gattsCalls, gattsEffect, hall, GattsCall.effect]

/-- The reset fails. -/
theorem gattsRun_of_reset (hreset : a.nimble .reset ≠ 0) (v : GattServer) :
    (gattsRun a.nimble gattsCalls).2 ≠ 0 ∧
      gattsEffect a.nimble (gattsRun a.nimble gattsCalls).1 v = v := by
  have hrun : gattsRun a.nimble gattsCalls = ([.reset], gattRegMapRc (a.nimble .reset)) := by
    simp [gattsRun, gattsCalls, hreset]
  rw [hrun]
  refine ⟨gattRegMapRc_ne_zero hreset, ?_⟩
  simp [gattsEffect, hreset]

/-- The reset succeeds and a later call fails: nothing is published any more. -/
theorem gattsRun_of_later (hreset : a.nimble .reset = 0) (hlater : ¬ ∀ c, a.nimble c = 0)
    (v : GattServer) :
    (gattsRun a.nimble gattsCalls).2 ≠ 0 ∧
      (gattsEffect a.nimble (gattsRun a.nimble gattsCalls).1 v).published = [] := by
  have hcalls : gattsCalls = [.reset, .addDemoSvcs, .countDynCfg, .addDynSvcs, .start] := rfl
  by_cases h1 : a.nimble .addDemoSvcs = 0
  · by_cases h2 : a.nimble .countDynCfg = 0
    · by_cases h3 : a.nimble .addDynSvcs = 0
      · have h4 : a.nimble .start ≠ 0 := by
          intro h4
          exact hlater fun c => by cases c <;> assumption
        simp [gattsRun, hcalls, gattsEffect, hreset, h1, h2, h3, h4, gattRegMapRc_ne_zero h4,
          GattsCall.effect, GattServer.reset, GattServer.addSvcs, GattServer.countCfg]
      · simp [gattsRun, hcalls, gattsEffect, hreset, h1, h2, h3, gattRegMapRc_ne_zero h3,
          GattsCall.effect, GattServer.reset, GattServer.addSvcs, GattServer.countCfg]
    · simp [gattsRun, hcalls, gattsEffect, hreset, h1, h2, gattRegMapRc_ne_zero h2,
        GattsCall.effect, GattServer.reset, GattServer.addSvcs]
  · simp [gattsRun, hcalls, gattsEffect, hreset, h1, gattRegMapRc_ne_zero h1,
      GattsCall.effect, GattServer.reset]

end RegisterCall

/-! ## Runs -/

/-- The demo service is up, the dynamic one if it is registered, and nothing is queued. -/
structure GattHost.Sound (h : GattHost) : Prop where
  published : h.server.published = if h.tables.registered then [.demo, .dyn] else [.demo]
  pending : h.server.pending = []

/-- If the call comes to NimBLE and the reset succeeds, nothing fails after it. -/
def RegisterCall.Undisturbed (h : GattHost) (a : RegisterCall) : Prop :=
  h.tables.registered = false → a.Accepted → a.nimble .reset = 0 → ∀ c, a.nimble c = 0

/-- A registration with an acceptable descriptor during which nothing fails. -/
structure RegisterCall.Valid (a : RegisterCall) : Prop where
  accepted : a.Accepted
  nimble : ∀ c, a.nimble c = 0

/-- What a failed registration is to leave: the services that were published, and a server on which
a valid registration publishes both services once. -/
def RegisterCall.LeavesServer (h : GattHost) (a : RegisterCall) : Prop :=
  (a.out h.tables).rc ≠ 0 →
    (h.register a).server.published = h.server.published ∧
      ∀ b : RegisterCall, b.Valid →
        ((h.register a).register b).server.published.count .demo = 1 ∧
          ((h.register a).register b).server.published.count .dyn = 1

namespace GattHost.Sound

variable {h : GattHost} {a : RegisterCall}

theorem boot : GattHost.boot.Sound := ⟨rfl, rfl⟩

/-- An undisturbed registration keeps the server sound, and takes nothing down if it fails. -/
theorem register (hs : h.Sound) (ha : a.Undisturbed h) :
    (h.register a).Sound ∧
      ((a.out h.tables).rc ≠ 0 → (h.register a).server.published = h.server.published) := by
  by_cases hout : h.tables.registered = true ∨ ¬ a.Accepted
  · obtain ⟨-, hcalls, hreg⟩ := RegisterCall.out_of_refused hout
    have hserver : (h.register a).server = h.server := by
      rw [GattHost.register, hcalls]
      rfl
    refine ⟨⟨?_, ?_⟩, fun _ => by rw [hserver]⟩
    · rw [hserver, hs.published, GattHost.register, hreg]
    · rw [hserver, hs.pending]
  · rw [not_or, Bool.not_eq_true, not_not] at hout
    obtain ⟨hcalls, hrc, hreg⟩ := RegisterCall.out_of_accepted hout.1 hout.2
    by_cases hreset : a.nimble .reset = 0
    · -- everything succeeds
      obtain ⟨hok, heffect⟩ := RegisterCall.gattsRun_of_ok (ha hout.1 hout.2 hreset) h.server
      have hserver : (h.register a).server =
          (((h.server.reset.addSvcs .demo).countCfg .dyn).addSvcs .dyn).start := by
        rw [GattHost.register, hcalls, heffect]
      have hregistered : (h.register a).tables.registered = true := by
        rw [GattHost.register, hreg, hok]
        rfl
      refine ⟨⟨?_, ?_⟩, fun hne => absurd (hrc.trans hok) hne⟩
      · simp [hserver, hregistered, GattServer.reset, GattServer.addSvcs, GattServer.countCfg,
          GattServer.start, hs.pending]
      · simp [hserver, GattServer.start]
    · obtain ⟨hfail, heffect⟩ := RegisterCall.gattsRun_of_reset hreset h.server
      have hserver : (h.register a).server = h.server := by rw [GattHost.register, hcalls, heffect]
      have hregistered : (h.register a).tables.registered = h.tables.registered := by
        rw [GattHost.register, hreg, hout.1, decide_eq_false hfail]
      refine ⟨⟨?_, ?_⟩, fun _ => by rw [hserver]⟩
      · rw [hserver, hregistered, hs.published]
      · rw [hserver, hs.pending]

/-- On a sound server a valid registration leaves both services published, once each. -/
theorem count_register (hs : h.Sound) (ha : a.Valid) :
    (h.register a).server.published.count .demo = 1 ∧
      (h.register a).server.published.count .dyn = 1 := by
  have hregistered : (h.register a).tables.registered = true := by
    by_cases hreg : h.tables.registered = true
    · exact (RegisterCall.out_of_refused (.inl hreg)).2.2.trans hreg
    · obtain ⟨-, -, hout⟩ :=
        RegisterCall.out_of_accepted (by simpa using hreg) ha.accepted
      exact hout.trans (decide_eq_true (RegisterCall.gattsRun_of_ok ha.nimble h.server).1)
  have hsound := (hs.register (a := a) fun _ _ _ => ha.nimble).1
  rw [hsound.published, hregistered]
  decide

/-- It holds after every run of undisturbed registrations. -/
theorem of_run {tr : List Int} (hr : gattHost.RunIf (fun h a => a.Undisturbed h) .boot tr h) :
    h.Sound := by
  refine hr.invariant (P := fun _ h => h.Sound) GattHost.Sound.boot ?_
  intro tr h a h' rc hs ha hstep
  obtain ⟨rfl, -⟩ : h.register a = h' ∧ _ := by simpa [gattHost] using hstep
  exact (hs.register ha).1

end GattHost.Sound

/-- After any run of undisturbed registrations, a registration leaves the server as it is to exactly
if it is undisturbed itself. -/
theorem gatt_register_leaves_server {tr : List Int} {h : GattHost}
    (hr : gattHost.RunIf (fun h a => a.Undisturbed h) .boot tr h) (a : RegisterCall) :
    a.LeavesServer h ↔ a.Undisturbed h := by
  have hs := GattHost.Sound.of_run hr
  constructor
  · intro hleaves hreg hacc hreset
    by_contra hlater
    obtain ⟨hcalls, hrc, -⟩ := RegisterCall.out_of_accepted hreg hacc
    obtain ⟨hfail, hnone⟩ := RegisterCall.gattsRun_of_later hreset hlater h.server
    rw [← hcalls] at hnone
    have hsame := (hleaves (by rw [hrc]; exact hfail)).1
    rw [GattHost.register, hnone, hs.published, hreg] at hsame
    exact absurd hsame (by decide)
  · intro ha hfail
    obtain ⟨hsound, hsame⟩ := hs.register ha
    exact ⟨hsame hfail, fun b hb => hsound.count_register hb⟩

/-- A descriptor of one characteristic without a value, registered while `ble_gatts_add_svcs` finds no
memory. -/
def noMemory : RegisterCall where
  nimble c := if c = .addDemoSvcs then 6 else 0
  assigned := fun _ => 0
  enabled := true
  handlesCap := 8
  desc i := if i = 17 then 1 else 0
  descLen := 37

/-- It takes the demo service down. -/
theorem noMemory_takes_down : ¬ noMemory.LeavesServer .boot := by
  intro h
  exact absurd (h (by decide)).1 (by decide)

/-- The same while NimBLE is busy, and when it takes everything. -/
def busyServer : RegisterCall := { noMemory with nimble := fun _ => bleHsEbusy }

def fineServer : RegisterCall := { noMemory with nimble := fun _ => 0 }

/-- After a registration that found the server busy and one that went through, another is refused and
leaves both services up. -/
theorem gatt_register_busy : ∃ tr h,
    gattHost.RunIf (fun h a => a.Undisturbed h) .boot tr h ∧ tr = [hwErrState, 0] ∧
      h.server.published = [.demo, .dyn] ∧ (noMemory.out h.tables).rc ≠ 0 ∧
      noMemory.LeavesServer h := by
  have hbusy : busyServer.Undisturbed .boot := fun _ _ hreset => absurd hreset (by decide)
  have hfine : fineServer.Undisturbed (.register .boot busyServer) := fun _ _ _ _ => rfl
  have hrun := ((Machine.RunIf.nil (M := gattHost) (G := fun h a => a.Undisturbed h)
    (s := .boot)).snoc hbusy rfl).snoc hfine rfl
  refine ⟨_, _, hrun, by decide, by decide, by decide, ?_⟩
  refine (gatt_register_leaves_server hrun noMemory).mpr fun hreg => ?_
  exact absurd hreg (by decide)

end Cc3501eBridge
