import Cc3501eBridge.Gattc
import Mathlib.Data.Nat.ModEq

/-!
# Whose answer a GATT client call returns

The read callback compares generations and drops a response that comes too late; the write callback
does not.  So a write that timed out can complete a later call, which then returns success without an
answer of its own.

A run is *timely* if no callback of an earlier write runs while a later call is between clearing the
sync object and looking at the status, and none of an earlier read meets a pending read with the same
32-bit generation.  In a timely run a call that returns 0 has been answered by its own callback, and a
late callback makes no difference to anything that is seen afterwards.
-/

namespace Cc3501eBridge

open Machine

/-! ## Late callbacks -/

/-- The call has cleared the sync object and has yet to look at it. -/
def GattPc.needsSync : GattPc → Bool
  | .status _ | .readLen _ | .readClaim _ | .readIssue _ _ | .writeIssue | .wait _ _ => true
  | _ => false

/-- The call has reset the status and has yet to look at it. -/
def GattPc.needsStatus : GattPc → Bool
  | .readLen _ | .readClaim _ | .readIssue _ _ | .writeIssue | .wait _ _ | .writeCheck => true
  | .readRetire _ signaled | .readCheck _ signaled => signaled
  | _ => false

/-- The call `k` is over. -/
def GattSys.Late (s : GattSys) (k : Nat) : Prop := k ≠ s.call ∨ s.pc = .idle

/-- The callback, of an earlier call, cannot be taken for the one that the current call waits for. -/
def GattRequest.Apart (s : GattSys) : GattRequest → Prop
  | .write => s.pc.needsSync = false ∧ s.pc.needsStatus = false
  | .read _ nth => s.sh.readPending = true → ¬ 2 ^ 32 ∣ s.reads - nth

instance GattRequest.decidableApart (s : GattSys) : ∀ r : GattRequest, Decidable (r.Apart s)
  | .write => inferInstanceAs (Decidable (_ ∧ _))
  | .read _ nth => inferInstanceAs (Decidable (_ → ¬ 2 ^ 32 ∣ s.reads - nth))

/-- The callbacks of earlier calls keep apart from the current call. -/
def GattSys.Timely (s : GattSys) : GattAct → Prop
  | .callback k _ => k ≠ s.call → ∀ r, s.flight k = some r → r.Apart s
  | _ => True

instance GattSys.decidableTimely (s : GattSys) : ∀ a, Decidable (s.Timely a)
  | .callback k _ => inferInstanceAs (Decidable (k ≠ s.call → ∀ r ∈ s.flight k, r.Apart s))
  | .call _ _ | .task | .issue _ => .isTrue trivial

/-- The variables that a call at `pc` will look at are the same. -/
structure GattPc.Agree (pc : GattPc) (g g' : Gattc) : Prop where
  len : g'.readLen = g.readLen
  bounce : g'.readBounce = g.readBounce
  pending : g'.readPending = g.readPending
  gen : g'.readGen = g.readGen
  sync : pc.needsSync = true → g'.opSync = g.opSync
  status : pc.needsStatus = true → g'.opStatus = g.opStatus

namespace GattPc.Agree

variable {pc pc' : GattPc} {g g' : Gattc}

theorem refl : pc.Agree g g := ⟨rfl, rfl, rfl, rfl, fun _ => rfl, fun _ => rfl⟩

/-- A write callback touches the sync object and the status only. -/
theorem writeCb (hsync : pc.needsSync = false) (hstatus : pc.needsStatus = false) (ans : GattAnswer) :
    pc.Agree g (g.writeCb ans) where
  len := rfl
  bounce := rfl
  pending := rfl
  gen := rfl
  sync h := absurd (hsync.symm.trans h) (by decide)
  status h := absurd (hstatus.symm.trans h) (by decide)

/-- A callback that runs on both sides keeps the agreement. -/
theorem run (h : pc.Agree g g') (r : GattRequest) (ans : GattAnswer) :
    pc.Agree (r.run g ans) (r.run g' ans) := by
  obtain ⟨hlen, hbounce, hpending, hgen, hsync, hstatus⟩ := h
  cases r with
  | write => exact ⟨hlen, hbounce, hpending, hgen, fun _ => rfl, fun _ => rfl⟩
  | read gen nth =>
      simp only [GattRequest.run, Gattc.readCb, hpending, hgen]
      split_ifs
      · unfold Gattc.storeRead
        split_ifs
        · cases ans.om with
          | none => exact ⟨hlen, hbounce, hpending, hgen, fun _ => rfl, fun _ => rfl⟩
          | some flat =>
              dsimp only
              rw [hbounce]
              split_ifs <;>
                exact ⟨by simp [hlen], rfl, hpending, hgen, fun _ => rfl, fun _ => rfl⟩
        · exact ⟨hlen, hbounce, hpending, hgen, fun _ => rfl, fun _ => rfl⟩
      · exact ⟨hlen, hbounce, hpending, hgen, hsync, hstatus⟩

end GattPc.Agree

/-- The two states differ in the callback of call `k`, which has run in `t` only, and in what it left
where nobody looks. -/
structure GattSys.SameBut (k : Nat) (s t : GattSys) : Prop where
  pc : t.pc = s.pc
  call : t.call = s.call
  reads : t.reads = s.reads
  flight : ∀ i, i ≠ k → t.flight i = s.flight i
  sh : s.pc.Agree s.sh t.sh

/-- Two machines take the same step. -/
def GattSys.SameStep (k : Nat) (x y : Option (GattSys × GattEv)) : Prop :=
  (x = none ∧ y = none) ∨
    ∃ s t e, x = some (s, e) ∧ y = some (t, e) ∧ GattSys.SameBut k s t

namespace GattSys.SameStep

variable {k : Nat} {s t : GattSys} {pc : GattPc}

theorem next (hcall : t.call = s.call) (hreads : t.reads = s.reads)
    (hflight : ∀ i, i ≠ k → t.flight i = s.flight i) (h : pc.Agree s.sh t.sh) :
    SameStep k (some (s.next pc)) (some (t.next pc)) :=
  .inr ⟨_, _, _, rfl, rfl, rfl, hcall, hreads, hflight, h⟩

theorem ret {op : GattOp} {rc : Int} {out : List UInt8} (hcall : t.call = s.call)
    (hreads : t.reads = s.reads) (hflight : ∀ i, i ≠ k → t.flight i = s.flight i)
    (h : GattPc.idle.Agree s.sh t.sh) :
    SameStep k (some (s.ret op rc out)) (some (t.ret op rc out)) := by
  have ht : t.ret op rc out = ({ t with pc := .idle }, .ret s.call op rc out) := by
    rw [GattSys.ret, hcall]
  rw [ht]
  exact .inr ⟨_, _, _, rfl, rfl, rfl, hcall, hreads, hflight, h⟩

end GattSys.SameStep

namespace GattSys.SameBut

variable {k : Nat} {s t : GattSys}

theorem task (h : SameBut k s t) : SameStep k s.taskStep t.taskStep := by
  obtain ⟨hpc, hcall, hreads, hflight, hlen, hbounce, hpending, hgen, hsync, hstatus⟩ := h
  have hidle : GattPc.idle.Agree s.sh t.sh := ⟨hlen, hbounce, hpending, hgen, nofun, nofun⟩
  unfold taskStep
  rw [hpc]
  cases hs : s.pc with
  | idle => exact .inl ⟨rfl, rfl⟩
  | readIssue cap gen => exact .inl ⟨rfl, rfl⟩
  | writeIssue => exact .inl ⟨rfl, rfl⟩
  | clear op =>
      exact .next hcall hreads hflight ⟨hlen, hbounce, hpending, hgen, fun _ => rfl, nofun⟩
  | status op =>
      have hsync := hsync (by rw [hs]; rfl)
      exact .next hcall hreads hflight
        ⟨hlen, hbounce, hpending, hgen, fun _ => hsync, fun _ => rfl⟩
  | readLen cap =>
      have hsync := hsync (by rw [hs]; rfl)
      have hstatus := hstatus (by rw [hs]; rfl)
      exact .next hcall hreads hflight
        ⟨rfl, hbounce, hpending, hgen, fun _ => hsync, fun _ => hstatus⟩
  | readClaim cap =>
      have hsync := hsync (by rw [hs]; rfl)
      have hstatus := hstatus (by rw [hs]; rfl)
      simp only [hgen, hreads]
      exact .next hcall rfl hflight
        ⟨hlen, hbounce, rfl, rfl, fun _ => hsync, fun _ => hstatus⟩
  | readUnclaim cap rc =>
      exact .ret hcall hreads hflight ⟨hlen, hbounce, rfl, hgen, nofun, nofun⟩
  | wait op more =>
      have hsync := hsync (by rw [hs]; rfl)
      have hstatus := hstatus (by rw [hs]; rfl)
      simp only [hsync]
      split_ifs
      · refine .next hcall hreads hflight ⟨hlen, hbounce, hpending, hgen, ?_, fun _ => hstatus⟩
        exact fun _ => rfl
      · cases more with
        | succ more =>
            exact .next hcall hreads hflight
              ⟨hlen, hbounce, hpending, hgen, fun _ => hsync, fun _ => hstatus⟩
        | zero =>
            cases op with
            | read cap =>
                exact .next hcall hreads hflight ⟨hlen, hbounce, hpending, hgen, nofun, nofun⟩
            | write => exact .ret hcall hreads hflight hidle
  | readRetire cap signaled =>
      refine .next hcall hreads hflight ⟨hlen, hbounce, rfl, hgen, nofun, fun h => ?_⟩
      exact hstatus (by rw [hs]; exact h)
  | readCheck cap signaled =>
      cases signaled with
      | false => exact .ret hcall hreads hflight hidle
      | true =>
          dsimp only
          rw [hstatus (by rw [hs]; rfl)]
          by_cases hbad : true = false ∨ s.sh.opStatus ≠ 0
          · rw [if_pos hbad, if_pos hbad]
            exact .ret hcall hreads hflight hidle
          · rw [if_neg hbad, if_neg hbad]
            exact .next hcall hreads hflight ⟨hlen, hbounce, hpending, hgen, nofun, nofun⟩
  | readTake cap =>
      rw [hlen]
      exact .next hcall hreads hflight ⟨hlen, hbounce, hpending, hgen, nofun, nofun⟩
  | readCopy cap n =>
      rw [hbounce]
      exact .ret hcall hreads hflight hidle
  | writeCheck =>
      rw [hstatus (by rw [hs]; rfl)]
      exact .ret hcall hreads hflight hidle

theorem issue (h : SameBut k s t) (rc : Int) : SameStep k (s.issueStep rc) (t.issueStep rc) := by
  obtain ⟨hpc, hcall, hreads, hflight, hsh⟩ := h
  have hidle : GattPc.idle.Agree s.sh t.sh :=
    ⟨hsh.len, hsh.bounce, hsh.pending, hsh.gen, nofun, nofun⟩
  -- the request joins both flights under the number of the current call
  have hadd (r : GattRequest) : ∀ i, i ≠ k →
      Function.update t.flight s.call (some r) i = Function.update s.flight s.call (some r) i := by
    intro i hi
    by_cases hc : i = s.call
    · subst hc
      simp
    · simp [Function.update_of_ne hc, hflight i hi]
  unfold issueStep
  rw [hpc, hcall, hreads]
  cases hs : s.pc with
  | readIssue cap gen =>
      dsimp only
      rw [hs] at hsh
      split_ifs
      · exact .next hcall hreads hflight ⟨hsh.len, hsh.bounce, hsh.pending, hsh.gen, nofun, nofun⟩
      · exact .next rfl rfl (hadd _) ⟨hsh.len, hsh.bounce, hsh.pending, hsh.gen,
          fun _ => hsh.sync rfl, fun _ => hsh.status rfl⟩
  | writeIssue =>
      dsimp only
      rw [hs] at hsh
      split_ifs
      · exact .ret hcall hreads hflight hidle
      · exact .next rfl rfl (hadd _) ⟨hsh.len, hsh.bounce, hsh.pending, hsh.gen,
          fun _ => hsh.sync rfl, fun _ => hsh.status rfl⟩
  | _ => exact .inl ⟨rfl, rfl⟩

theorem callback (h : SameBut k s t) {i : Nat} (hi : i ≠ k) (ans : GattAnswer) :
    SameStep k (s.callbackStep i ans) (t.callbackStep i ans) := by
  obtain ⟨hpc, hcall, hreads, hflight, hsh⟩ := h
  unfold callbackStep
  rw [hflight i hi]
  cases s.flight i with
  | none => exact .inl ⟨rfl, rfl⟩
  | some r =>
      refine .inr ⟨_, _, _, rfl, rfl, hpc, hcall, hreads, fun j hj => ?_, hsh.run r ans⟩
      by_cases hc : j = i
      · subst hc
        simp
      · simp [Function.update_of_ne hc, hflight j hj]

theorem start (h : SameBut k s t) (op : GattOp) (entry : GattEntry) :
    SameStep k (s.step (.call op entry)) (t.step (.call op entry)) := by
  obtain ⟨hpc, hcall, hreads, hflight, hsh⟩ := h
  have hcall' : t.call + 1 = s.call + 1 := congrArg (· + 1) hcall
  simp only [GattSys.step, hpc]
  split_ifs with hs hpass
  · rw [hs] at hsh
    exact .next hcall' hreads hflight ⟨hsh.len, hsh.bounce, hsh.pending, hsh.gen, nofun, nofun⟩
  · rw [hs] at hsh
    exact .ret hcall' hreads hflight hsh
  · exact .inl ⟨rfl, rfl⟩

theorem step (h : SameBut k s t) {a : GattAct} (ha : ∀ ans, a ≠ .callback k ans) :
    SameStep k (gattSystem.step s a) (gattSystem.step t a) := by
  cases a with
  | call op entry => exact h.start op entry
  | task => exact h.task
  | issue rc => exact h.issue rc
  | callback i ans =>
      refine h.callback ?_ ans
      rintro rfl
      exact ha ans rfl

end GattSys.SameBut

/-! ## The answer of a call -/

/-- The status a read callback leaves. -/
def GattAnswer.readStatus (ans : GattAnswer) : Int :=
  if ans.status = 0 then
    match ans.om with
    | some (rc, _) => rc
    | none => 0
  else ans.status

/-- The answer makes the call succeed with the bytes `out`. -/
def GattOp.Completes : GattOp → GattAnswer → List UInt8 → Prop
  | .read cap, ans, out => ans.readStatus = 0 ∧ out = ans.flat.take cap
  | .write, ans, out => ans.status = 0 ∧ out = []

/-- The shared variables hold the answer. -/
def GattOp.Holds : GattOp → GattAnswer → Gattc → Prop
  | .read _, ans, g => g.opStatus = ans.readStatus ∧ (ans.readStatus = 0 →
      g.readLen = ans.flat.length ∧ ∃ buf, g.readBounce = storeFlat buf ans.flat)
  | .write, ans, g => g.opStatus = ans.status

/-- The callback of such a call. -/
def GattRequest.For : GattRequest → GattOp → Prop
  | .read _ _, .read _ => True
  | .write, .write => True
  | _, _ => False

@[simp] theorem storeFlat_nil (buf : Nat → UInt8) : storeFlat buf [] = buf := by
  funext i
  simp [storeFlat]

/-- The bytes copied out of the buffer are the stored ones, as far as there is room. -/
theorem map_storeFlat (buf : Nat → UInt8) (bytes : List UInt8) (cap : Nat) :
    (List.range (min bytes.length cap)).map (storeFlat buf bytes) = bytes.take cap := by
  apply List.ext_getElem
  · simp [Nat.min_comm]
  · intro i hi _
    have hi' : i < bytes.length := by
      simp only [List.length_map, List.length_range] at hi
      omega
    simp [storeFlat, hi']

/-- A read that has been answered holds the answer. -/
theorem Gattc.storeRead_holds {g : Gattc} (hlen : g.readLen = 0) (cap : Nat) (ans : GattAnswer) :
    (GattOp.read cap).Holds ans (g.storeRead ans) ∧ (g.storeRead ans).opSync = true := by
  unfold Gattc.storeRead GattOp.Holds GattAnswer.readStatus
  by_cases hst : ans.status = 0
  · simp only [if_pos hst]
    cases hom : ans.om with
    | none =>
        refine ⟨⟨rfl, fun _ => ⟨?_, g.readBounce, ?_⟩⟩, rfl⟩
        · simp [GattAnswer.flat, hom, hlen]
        · simp [GattAnswer.flat, hom]
    | some flat =>
        obtain ⟨rc, bytes⟩ := flat
        dsimp only
        split_ifs with hrc
        · exact ⟨⟨rfl, fun h => absurd h hrc⟩, rfl⟩
        · rw [ne_eq, not_not] at hrc
          exact ⟨⟨hrc.symm, fun _ => ⟨rfl, g.readBounce, rfl⟩⟩, rfl⟩
  · rw [if_neg hst]
    dsimp only
    rw [if_neg hst]
    exact ⟨⟨rfl, fun h => absurd h hst⟩, rfl⟩

/-- No callback touches the generation or the pending flag. -/
theorem GattRequest.run_keeps (r : GattRequest) (g : Gattc) (ans : GattAnswer) :
    (r.run g ans).readGen = g.readGen ∧ (r.run g ans).readPending = g.readPending := by
  cases r with
  | write => exact ⟨rfl, rfl⟩
  | read gen nth =>
      unfold GattRequest.run Gattc.readCb Gattc.storeRead
      dsimp only
      split_ifs
      · cases ans.om with
        | none => exact ⟨rfl, rfl⟩
        | some flat =>
            dsimp only
            split_ifs <;> exact ⟨rfl, rfl⟩
      · exact ⟨rfl, rfl⟩
      · exact ⟨rfl, rfl⟩

/-! ## What a timely run keeps -/

/-- The request of the call has not been issued. -/
def GattPc.unissued : GattPc → Bool
  | .clear _ | .status _ | .readLen _ | .readClaim _ | .readIssue _ _ | .readUnclaim _ _
  | .writeIssue => true
  | _ => false

/-- The call is a read between its claim and its retirement. -/
def GattPc.claimed : GattPc → Bool
  | .readIssue _ _ | .readUnclaim _ _ | .wait (.read _) _ | .readRetire _ _ => true
  | _ => false

/-- The callback of the call `k` has run, and what it left is in the shared variables. -/
def GattAnswered (tr : List GattEv) (k : Nat) (own : Option GattRequest) (op : GattOp) (g : Gattc) : Prop :=
  own = none ∧ ∃ ans, .callback k ans ∈ tr ∧ op.Holds ans g

/-- How far the call `k` has come, given the callback `own` that is due for it. -/
def GattPc.Progress (tr : List GattEv) (k : Nat) (own : Option GattRequest) (g : Gattc) : GattPc → Prop
  | .status _ | .readLen _ | .writeIssue => g.opSync = false
  | .readClaim _ => g.opSync = false ∧ g.readLen = 0
  | .readIssue _ gen => g.opSync = false ∧ g.readLen = 0 ∧ gen = g.readGen
  | .wait op _ => if g.opSync = true then GattAnswered tr k own op g
      else (∀ cap, op = .read cap → g.readLen = 0) ∧ ∀ r, own = some r → r.For op
  | .readRetire cap signaled | .readCheck cap signaled =>
      signaled = true → GattAnswered tr k own (.read cap) g
  | .writeCheck => GattAnswered tr k own .write g
  | .readTake _ => own = none ∧ ∃ ans, .callback k ans ∈ tr ∧ ans.readStatus = 0 ∧
      g.readLen = ans.flat.length ∧ ∃ buf, g.readBounce = storeFlat buf ans.flat
  | .readCopy cap n => own = none ∧ ∃ ans, .callback k ans ∈ tr ∧ ans.readStatus = 0 ∧
      (List.range n).map g.readBounce = ans.flat.take cap
  | .readUnclaim _ rc => rc ≠ 0
  | .idle | .clear _ => True

/-- Every call that returned 0 had been answered by its own callback. -/
def OwnAnswers (tr : List GattEv) : Prop :=
  ∀ i k op out, tr[i]? = some (.ret k op 0 out) →
    ∃ ans, .callback k ans ∈ tr.take i ∧ op.Completes ans out

/-- What holds along a timely run. -/
structure GattInv (tr : List GattEv) (s : GattSys) : Prop where
  gen : s.sh.readGen = UInt32.ofNat s.reads
  bound : ∀ k r, s.flight k = some r → k ≤ s.call
  nth : ∀ k gen nth, s.flight k = some (.read gen nth) → gen = UInt32.ofNat nth ∧ nth ≤ s.reads
  unissued : s.pc.unissued = true → s.flight s.call = none
  pending : s.sh.readPending = true → s.pc.claimed = true
  progress : s.pc.Progress tr s.call (s.flight s.call) s.sh
  own : OwnAnswers tr

theorem OwnAnswers.snoc {tr : List GattEv} {e : GattEv} (h : OwnAnswers tr)
    (he : ∀ k op out, e = .ret k op 0 out → ∃ ans, .callback k ans ∈ tr ∧ op.Completes ans out) :
    OwnAnswers (tr ++ [e]) := by
  intro i k op out hi
  rcases Nat.lt_trichotomy i tr.length with hlt | rfl | hgt
  · rw [List.getElem?_append_left hlt] at hi
    rw [List.take_append_of_le_length (Nat.le_of_lt hlt)]
    exact h i k op out hi
  · rw [List.take_left]
    exact he k op out (by simpa using hi)
  · have hlen : (tr ++ [e]).length ≤ i := by simpa using Nat.succ_le_of_lt hgt
    simp [List.getElem?_eq_none hlen] at hi

namespace GattPc

variable {tr : List GattEv} {e : GattEv} {k : Nat} {own : Option GattRequest} {op : GattOp} {g g' : Gattc}
  {pc : GattPc}

theorem Progress.snoc (h : pc.Progress tr k own g) : pc.Progress (tr ++ [e]) k own g := by
  have hanswered {op : GattOp} (h : GattAnswered tr k own op g) : GattAnswered (tr ++ [e]) k own op g := by
    obtain ⟨hown, ans, hmem, hholds⟩ := h
    exact ⟨hown, ans, List.mem_append_left _ hmem, hholds⟩
  cases pc with
  | wait op more =>
      unfold Progress at h ⊢
      split_ifs at h ⊢
      · exact hanswered h
      · exact h
  | readRetire cap signaled => exact fun hs => hanswered (h hs)
  | readCheck cap signaled => exact fun hs => hanswered (h hs)
  | writeCheck => exact hanswered h
  | readTake cap =>
      obtain ⟨hown, ans, hmem, hrest⟩ := h
      exact ⟨hown, ans, List.mem_append_left _ hmem, hrest⟩
  | readCopy cap n =>
      obtain ⟨hown, ans, hmem, hrest⟩ := h
      exact ⟨hown, ans, List.mem_append_left _ hmem, hrest⟩
  | _ => exact h

/-- The progress of a call depends on what it will look at. -/
theorem Progress.agree (h : pc.Progress tr k own g) (ha : pc.Agree g g') : pc.Progress tr k own g' := by
  obtain ⟨hlen, hbounce, -, hgen, hsync, hstatus⟩ := ha
  have hanswered {op : GattOp} (hs : pc.needsStatus = true) (h : GattAnswered tr k own op g) :
      GattAnswered tr k own op g' := by
    obtain ⟨hown, ans, hmem, hholds⟩ := h
    refine ⟨hown, ans, hmem, ?_⟩
    cases op with
    | write => exact (hstatus hs).trans hholds
    | read cap =>
        refine ⟨(hstatus hs).trans hholds.1, fun hz => ?_⟩
        rw [hlen, hbounce]
        exact hholds.2 hz
  cases pc with
  | idle => trivial
  | clear op => trivial
  | readUnclaim cap rc => exact h
  | status op => exact (hsync rfl).trans h
  | readLen cap => exact (hsync rfl).trans h
  | writeIssue => exact (hsync rfl).trans h
  | readClaim cap => exact ⟨(hsync rfl).trans h.1, hlen.trans h.2⟩
  | readIssue cap gen => exact ⟨(hsync rfl).trans h.1, hlen.trans h.2.1, h.2.2.trans hgen.symm⟩
  | wait op more =>
      unfold Progress at h ⊢
      rw [hsync rfl, hlen]
      split_ifs at h ⊢
      · exact hanswered rfl h
      · exact h
  | readRetire cap signaled => exact fun hs => hanswered hs (h hs)
  | readCheck cap signaled => exact fun hs => hanswered hs (h hs)
  | writeCheck => exact hanswered rfl h
  | readTake cap =>
      unfold Progress at h ⊢
      rw [hlen, hbounce]
      exact h
  | readCopy cap n =>
      unfold Progress at h ⊢
      rw [hbounce]
      exact h

end GattPc

namespace GattInv

variable {tr : List GattEv} {s s' : GattSys} {e : GattEv} {k : Nat} {ans : GattAnswer} {r : GattRequest}

/-- A late callback in a timely run touches nothing that the current call will look at. -/
theorem late (h : GattInv tr s) (hg : s.Timely (.callback k ans)) (hr : s.flight k = some r)
    (hl : s.Late k) : s.pc.Agree s.sh (r.run s.sh ans) := by
  cases r with
  | write =>
      rcases hl with hne | hidle
      · obtain ⟨hsync, hstatus⟩ := hg hne _ hr
        exact .writeCb hsync hstatus ans
      · rw [hidle]
        exact .writeCb rfl rfl ans
  | read gen nth =>
      simp only [GattRequest.run, Gattc.readCb]
      split_ifs with hmine
      · obtain ⟨hpend, hsame⟩ := hmine
        have hne : k ≠ s.call := by
          rcases hl with hne | hidle
          · exact hne
          · have := h.pending hpend
            rw [hidle] at this
            cases this
        obtain ⟨rfl, hle⟩ := h.nth k gen nth hr
        rw [h.gen] at hsame
        have hmod : nth % 2 ^ 32 = s.reads % 2 ^ 32 := by
          simpa using congrArg UInt32.toNat hsame
        exact absurd ((Nat.modEq_iff_dvd' hle).mp hmod) (hg hne _ hr hpend)
      · exact .refl

/-- A step that is not a callback and leaves the flight and the generation alone. -/
theorem of_quiet (h : GattInv tr s) (hcall : s'.call = s.call) (hreads : s'.reads = s.reads)
    (hflight : s'.flight = s.flight) (hgen : s'.sh.readGen = s.sh.readGen)
    (hun : s'.pc.unissued = true → s.pc.unissued = true)
    (hpend : s'.sh.readPending = true → s'.pc.claimed = true)
    (hprog : s'.pc.Progress (tr ++ [e]) s.call (s.flight s.call) s'.sh)
    (hown : ∀ k op out, e = .ret k op 0 out → ∃ ans, .callback k ans ∈ tr ∧ op.Completes ans out) :
    GattInv (tr ++ [e]) s' where
  gen := by rw [hgen, hreads, h.gen]
  bound := by rw [hflight, hcall]; exact h.bound
  nth := by rw [hflight, hreads]; exact h.nth
  unissued hu := by rw [hflight, hcall]; exact h.unissued (hun hu)
  pending := hpend
  progress := by rw [hcall, hflight]; exact hprog
  own := h.own.snoc hown

theorem task_step (h : GattInv tr s) (hs : s.taskStep = some (s', e)) : GattInv (tr ++ [e]) s' := by
  have hprog := h.progress
  have hpend := h.pending
  unfold GattSys.taskStep at hs
  cases hpc : s.pc with
  | idle => simp [hpc] at hs
  | readIssue cap gen => simp [hpc] at hs
  | writeIssue => simp [hpc] at hs
  | clear op =>
      simp only [hpc, GattSys.next, Option.some.injEq, Prod.mk.injEq] at hs
      obtain ⟨rfl, rfl⟩ := hs
      rw [hpc] at hpend
      exact h.of_quiet rfl rfl rfl rfl (fun _ => by rw [hpc]; rfl) hpend rfl nofun
  | status op =>
      simp only [hpc, GattSys.next, Option.some.injEq, Prod.mk.injEq] at hs
      obtain ⟨rfl, rfl⟩ := hs
      rw [hpc] at hpend hprog
      refine h.of_quiet rfl rfl rfl rfl (fun _ => by rw [hpc]; rfl) (fun hp => ?_) ?_ nofun
      · cases hpend hp
      · cases op <;> exact hprog
  | readLen cap =>
      simp only [hpc, GattSys.next, Option.some.injEq, Prod.mk.injEq] at hs
      obtain ⟨rfl, rfl⟩ := hs
      rw [hpc] at hpend hprog
      exact h.of_quiet rfl rfl rfl rfl (fun _ => by rw [hpc]; rfl) hpend ⟨hprog, rfl⟩ nofun
  | readClaim cap =>
      simp only [hpc, GattSys.next, Option.some.injEq, Prod.mk.injEq] at hs
      obtain ⟨rfl, rfl⟩ := hs
      rw [hpc] at hprog
      refine ⟨?_, h.bound, fun k gen nth hk => ?_, fun _ => h.unissued (by rw [hpc]; rfl),
        fun _ => rfl, ⟨hprog.1, hprog.2, rfl⟩, h.own.snoc nofun⟩
      · simp [h.gen]
      · obtain ⟨hgen, hle⟩ := h.nth k gen nth hk
        exact ⟨hgen, Nat.le_succ_of_le hle⟩
  | readUnclaim cap rc =>
      simp only [hpc, GattSys.ret, Option.some.injEq, Prod.mk.injEq] at hs
      obtain ⟨rfl, rfl⟩ := hs
      rw [hpc] at hprog
      refine h.of_quiet rfl rfl rfl rfl nofun nofun trivial fun k op out he => ?_
      obtain ⟨-, -, hrc, -⟩ := GattEv.ret.inj he
      exact absurd hrc hprog
  | wait op more =>
      simp only [hpc] at hs
      rw [hpc] at hpend
      by_cases hsync : s.sh.opSync = true
      · simp only [hpc, GattPc.Progress, if_pos hsync] at hprog
        rw [if_pos hsync] at hs
        obtain ⟨rfl, rfl⟩ := Prod.mk.inj (Option.some.inj hs)
        cases op with
        | read cap =>
            exact h.of_quiet rfl rfl rfl rfl nofun (fun _ => rfl)
              (GattPc.Progress.snoc fun _ => hprog) nofun
        | write => exact h.of_quiet rfl rfl rfl rfl nofun hpend (GattPc.Progress.snoc hprog) nofun
      · rw [if_neg hsync] at hs
        cases more with
        | succ more =>
            obtain ⟨rfl, rfl⟩ := Prod.mk.inj (Option.some.inj hs)
            rw [hpc] at hprog
            have hprog' : (GattPc.wait op more).Progress tr s.call (s.flight s.call) s.sh := hprog
            refine h.of_quiet rfl rfl rfl rfl nofun (fun hp => ?_) hprog'.snoc nofun
            cases op with
            | read cap => rfl
            | write => exact hpend hp
        | zero =>
            cases op with
            | read cap =>
                obtain ⟨rfl, rfl⟩ := Prod.mk.inj (Option.some.inj hs)
                exact h.of_quiet rfl rfl rfl rfl nofun (fun _ => rfl) nofun nofun
            | write =>
                obtain ⟨rfl, rfl⟩ := Prod.mk.inj (Option.some.inj hs)
                exact h.of_quiet rfl rfl rfl rfl nofun hpend trivial nofun
  | readRetire cap signaled =>
      simp only [hpc, GattSys.next, Option.some.injEq, Prod.mk.injEq] at hs
      obtain ⟨rfl, rfl⟩ := hs
      rw [hpc] at hprog
      have hprog' : (GattPc.readCheck cap signaled).Progress tr s.call (s.flight s.call)
        { s.sh with readPending := false } := hprog
      exact h.of_quiet rfl rfl rfl rfl nofun nofun hprog'.snoc nofun
  | readCheck cap signaled =>
      simp only [hpc] at hs
      rw [hpc] at hpend hprog
      split_ifs at hs with hbad
      · obtain ⟨rfl, rfl⟩ := Prod.mk.inj (Option.some.inj hs)
        exact h.of_quiet rfl rfl rfl rfl nofun hpend trivial nofun
      · obtain ⟨rfl, rfl⟩ := Prod.mk.inj (Option.some.inj hs)
        obtain ⟨hsig, hst⟩ : signaled = true ∧ s.sh.opStatus = 0 := by simpa using hbad
        obtain ⟨hown, ans, hmem, hans, hval⟩ := hprog hsig
        have hzero : ans.readStatus = 0 := hans.symm.trans hst
        have hprog' : (GattPc.readTake cap).Progress tr s.call (s.flight s.call) s.sh :=
          ⟨hown, ans, hmem, hzero, hval hzero⟩
        exact h.of_quiet rfl rfl rfl rfl nofun hpend hprog'.snoc nofun
  | readTake cap =>
      simp only [hpc, GattSys.next, Option.some.injEq, Prod.mk.injEq] at hs
      obtain ⟨rfl, rfl⟩ := hs
      rw [hpc] at hpend hprog
      obtain ⟨hown, ans, hmem, hzero, hlen, buf, hbuf⟩ := hprog
      have hprog' : (GattPc.readCopy cap (min s.sh.readLen cap)).Progress tr s.call
          (s.flight s.call) s.sh := by
        refine ⟨hown, ans, hmem, hzero, ?_⟩
        rw [hlen, hbuf, map_storeFlat]
      exact h.of_quiet rfl rfl rfl rfl nofun hpend hprog'.snoc nofun
  | readCopy cap n =>
      simp only [hpc, GattSys.ret, Option.some.injEq, Prod.mk.injEq] at hs
      obtain ⟨rfl, rfl⟩ := hs
      rw [hpc] at hpend hprog
      obtain ⟨-, ans, hmem, hzero, hbytes⟩ := hprog
      refine h.of_quiet rfl rfl rfl rfl nofun hpend trivial fun k op out he => ?_
      obtain ⟨rfl, rfl, -, rfl⟩ := GattEv.ret.inj he
      exact ⟨ans, hmem, hzero, hbytes⟩
  | writeCheck =>
      simp only [hpc, GattSys.ret, Option.some.injEq, Prod.mk.injEq] at hs
      obtain ⟨rfl, rfl⟩ := hs
      rw [hpc] at hpend hprog
      obtain ⟨-, ans, hmem, hans⟩ := hprog
      refine h.of_quiet rfl rfl rfl rfl nofun hpend trivial fun k op out he => ?_
      obtain ⟨rfl, rfl, hrc, rfl⟩ := GattEv.ret.inj he
      have hst : s.sh.opStatus = 0 := by
        by_contra hne
        rw [if_neg hne] at hrc
        cases hrc
      exact ⟨ans, hmem, hans.symm.trans hst, rfl⟩

/-- An accepted request is in flight, under the number of the current call. -/
theorem issued (h : GattInv tr s) {op : GattOp} (hop : r.For op)
    (hnth : ∀ gen nth, r = .read gen nth → gen = UInt32.ofNat nth ∧ nth ≤ s.reads)
    (hsync : s.sh.opSync = false) (hlen : ∀ cap, op = .read cap → s.sh.readLen = 0)
    (hpend : s.sh.readPending = true → (GattPc.wait op 3).claimed = true) :
    GattInv (tr ++ [.tau])
      { s with flight := Function.update s.flight s.call (some r), pc := .wait op 3 } where
  gen := h.gen
  bound k r' hk := by
    by_cases hc : k = s.call
    · exact Nat.le_of_eq hc
    · exact h.bound k r' (by simpa [Function.update_of_ne hc] using hk)
  nth k gen nth hk := by
    by_cases hc : k = s.call
    · subst hc
      exact hnth gen nth (by simpa using hk)
    · exact h.nth k gen nth (by simpa [Function.update_of_ne hc] using hk)
  unissued := nofun
  pending := hpend
  progress := by
    simp only [GattPc.Progress, hsync, Function.update_self, Option.some.injEq]
    refine ⟨hlen, ?_⟩
    rintro _ rfl
    exact hop
  own := h.own.snoc nofun

theorem issue_step (h : GattInv tr s) {rc : Int} (hs : s.issueStep rc = some (s', e)) :
    GattInv (tr ++ [e]) s' := by
  have hprog := h.progress
  have hpend := h.pending
  unfold GattSys.issueStep at hs
  cases hpc : s.pc with
  | readIssue cap gen =>
      simp only [hpc] at hs
      rw [hpc] at hprog
      split_ifs at hs with hrc
      · obtain ⟨rfl, rfl⟩ := Prod.mk.inj (Option.some.inj hs)
        exact h.of_quiet rfl rfl rfl rfl (fun _ => by rw [hpc]; rfl) (fun _ => rfl) hrc nofun
      · obtain ⟨rfl, rfl⟩ := Prod.mk.inj (Option.some.inj hs)
        refine h.issued trivial ?_ hprog.1 (fun _ _ => hprog.2.1) fun _ => rfl
        intro gen' nth he
        obtain ⟨rfl, rfl⟩ := GattRequest.read.inj he
        exact ⟨hprog.2.2.trans h.gen, Nat.le_refl _⟩
  | writeIssue =>
      simp only [hpc] at hs
      rw [hpc] at hprog hpend
      split_ifs at hs with hrc
      · obtain ⟨rfl, rfl⟩ := Prod.mk.inj (Option.some.inj hs)
        refine h.of_quiet rfl rfl rfl rfl nofun hpend trivial fun k op out he => ?_
        obtain ⟨-, -, hrc', -⟩ := GattEv.ret.inj he
        exact absurd hrc' hrc
      · obtain ⟨rfl, rfl⟩ := Prod.mk.inj (Option.some.inj hs)
        exact h.issued trivial nofun hprog nofun hpend
  | _ => simp [hpc] at hs

/-- The callback of the call that waits for it. -/
theorem own_callback {op : GattOp} {more : Nat}
    (h : (GattPc.wait op more).Progress tr k (some r) s.sh) :
    (GattPc.wait op more).Progress (tr ++ [.callback k ans]) k none (r.run s.sh ans) := by
  have hmem : GattEv.callback k ans ∈ tr ++ [.callback k ans] := by simp
  simp only [GattPc.Progress] at h ⊢
  split_ifs at h with hsync
  · exact absurd h.1 (by simp)
  · obtain ⟨hlen, hfor⟩ := h
    have hfor := hfor r rfl
    cases r with
    | write =>
        cases op with
        | read cap => exact hfor.elim
        | write =>
            simp only [GattRequest.run, Gattc.writeCb, if_true]
            exact ⟨rfl, ans, hmem, rfl⟩
    | read gen nth =>
        cases op with
        | write => exact hfor.elim
        | read cap =>
            by_cases hmine : s.sh.readPending = true ∧ gen = s.sh.readGen
            · have hrun : (GattRequest.read gen nth).run s.sh ans = s.sh.storeRead ans := if_pos hmine
              obtain ⟨hholds, hsig⟩ := Gattc.storeRead_holds (hlen cap rfl) cap ans
              rw [hrun, if_pos hsig]
              exact ⟨rfl, ans, hmem, hholds⟩
            · have hrun : (GattRequest.read gen nth).run s.sh ans = s.sh := if_neg hmine
              rw [hrun, if_neg hsync]
              exact ⟨hlen, nofun⟩

theorem callback_step (h : GattInv tr s) (hg : s.Timely (.callback k ans))
    (hs : s.callbackStep k ans = some (s', e)) : GattInv (tr ++ [e]) s' := by
  unfold GattSys.callbackStep at hs
  cases hr : s.flight k with
  | none => simp [hr] at hs
  | some r =>
      simp only [hr, Option.some.injEq, Prod.mk.injEq] at hs
      obtain ⟨rfl, rfl⟩ := hs
      have hsub : ∀ i r', Function.update s.flight k none i = some r' → s.flight i = some r' := by
        intro i r' hi
        by_cases hc : i = k
        · subst hc
          simp at hi
        · rwa [Function.update_of_ne hc] at hi
      refine ⟨(r.run_keeps s.sh ans).1.trans h.gen, fun i r' hi => h.bound i r' (hsub i r' hi),
        fun i gen nth hi => h.nth i gen nth (hsub i _ hi), fun hu => ?_, fun hp => ?_, ?_,
        h.own.snoc nofun⟩
      · by_contra hne
        obtain ⟨r', hr'⟩ := Option.ne_none_iff_exists'.mp hne
        exact absurd ((h.unissued hu).symm.trans (hsub s.call r' hr')) (by simp)
      · exact h.pending ((r.run_keeps s.sh ans).2.symm.trans hp)
      · by_cases hl : s.Late k
        · have hprog := (h.progress.agree (h.late hg hr hl)).snoc (e := .callback k ans)
          rcases hl with hne | hidle
          · simpa only [Function.update_of_ne (Ne.symm hne)] using hprog
          · simp only [hidle]
            trivial
        · obtain ⟨rfl, hbusy⟩ : k = s.call ∧ s.pc ≠ .idle := by simpa [GattSys.Late] using hl
          have hprog := h.progress
          have hun := h.unissued
          rw [hr] at hprog hun
          simp only [Function.update_self]
          cases hpc : s.pc with
          | wait op more =>
              rw [hpc] at hprog
              exact own_callback hprog
          | readRetire cap signaled =>
              rw [hpc] at hprog
              exact fun hsig => absurd (hprog hsig).1 (by simp)
          | readCheck cap signaled =>
              rw [hpc] at hprog
              exact fun hsig => absurd (hprog hsig).1 (by simp)
          | readTake cap => exact absurd (hpc ▸ hprog).1 (by simp)
          | readCopy cap n => exact absurd (hpc ▸ hprog).1 (by simp)
          | writeCheck => exact absurd (hpc ▸ hprog).1 (by simp)
          | idle => exact absurd hpc hbusy
          | _ => exact absurd (hun (by rw [hpc]; rfl)) (by simp)

theorem call_step (h : GattInv tr s) {op : GattOp} {entry : GattEntry}
    (hs : s.step (.call op entry) = some (s', e)) : GattInv (tr ++ [e]) s' := by
  have hpend := h.pending
  have hfresh : s.flight (s.call + 1) = none := by
    by_contra hne
    obtain ⟨r, hr⟩ := Option.ne_none_iff_exists'.mp hne
    exact absurd (h.bound _ r hr) (by omega)
  simp only [GattSys.step] at hs
  split_ifs at hs with hidle hpass
  · rw [hidle] at hpend
    obtain ⟨rfl, rfl⟩ := Prod.mk.inj (Option.some.inj hs)
    exact ⟨h.gen, fun k r hk => Nat.le_succ_of_le (h.bound k r hk), h.nth, fun _ => hfresh, hpend,
      trivial, h.own.snoc nofun⟩
  · rw [hidle] at hpend
    obtain ⟨rfl, rfl⟩ := Prod.mk.inj (Option.some.inj hs)
    exact ⟨h.gen, fun k r hk => Nat.le_succ_of_le (h.bound k r hk), h.nth, fun _ => hfresh, hpend,
      trivial, h.own.snoc nofun⟩

theorem step (h : GattInv tr s) {a : GattAct} (hg : s.Timely a)
    (hs : gattSystem.step s a = some (s', e)) : GattInv (tr ++ [e]) s' := by
  cases a with
  | call op entry => exact h.call_step hs
  | task => exact h.task_step hs
  | issue rc => exact h.issue_step hs
  | callback k ans => exact h.callback_step hg hs

end GattInv

/-- In a timely run every call that returns 0 has been answered by its own callback, with the status and
the bytes it returns; and the callback of a call that is over makes no difference to any event that
follows. -/
theorem gatt_answers_own {tr : List GattEv} {s : GattSys}
    (hr : gattSystem.RunIf GattSys.Timely {} tr s) :
    OwnAnswers tr ∧
      ∀ k ans s' e, s.Timely (.callback k ans) → s.Late k →
        gattSystem.step s (.callback k ans) = some (s', e) →
        ∀ acts : List GattAct, (∀ ans', .callback k ans' ∉ acts) →
          (gattSystem.exec s' acts).map Prod.snd = (gattSystem.exec s acts).map Prod.snd := by
  have hinv : GattInv tr s := by
    refine hr.invariant (P := GattInv) ?_ fun _ _ _ _ _ h hg hs => h.step hg hs
    exact ⟨rfl, nofun, nofun, nofun, nofun, trivial, nofun⟩
  refine ⟨hinv.own, fun k ans s' e hg hl hs acts hacts => ?_⟩
  change s.callbackStep k ans = some (s', e) at hs
  unfold GattSys.callbackStep at hs
  cases hk : s.flight k with
  | none => simp [hk] at hs
  | some r =>
      simp only [hk, Option.some.injEq, Prod.mk.injEq] at hs
      obtain ⟨rfl, rfl⟩ := hs
      have hsame : GattSys.SameBut k s
          { s with sh := r.run s.sh ans, flight := Function.update s.flight k none } :=
        ⟨rfl, rfl, rfl, fun i hi => Function.update_of_ne hi _ _, hinv.late hg hk hl⟩
      refine (Machine.exec_events_eq (R := GattSys.SameBut k)
        (A := fun a => ∀ ans', a ≠ .callback k ans') (fun _ _ _ h ha => h.step ha) ?_ hsame).symm
      rintro a ha ans' rfl
      exact hacts ans' ha

open GattAct in
/-- A write times out; its response comes while the second call waits for its own. -/
def lateWrite : List GattAct :=
  [call .write {}, task, task, issue 0] ++ List.replicate 4 task ++
  [call (.read 16) {}, task, task, task, task, issue 0,
    callback 1 { error := some 0 }] ++ List.replicate 5 task

open GattEv in
/-- What is seen of them. -/
def lateWriteTrace : List GattEv :=
  List.replicate 7 tau ++ [ret 1 .write (-1) []] ++ List.replicate 6 tau ++
    [callback 1 { error := some 0 }] ++ List.replicate 4 tau ++ [ret 2 (.read 16) 0 []]

/-- The read returns 0, with no bytes, though nobody has answered it. -/
theorem late_write_completes_read :
    ∃ tr s, gattSystem.Run {} tr s ∧ tr[19]? = some (.ret 2 (.read 16) 0 []) ∧
      (∀ ans, .callback 2 ans ∉ tr) ∧ ¬ OwnAnswers tr := by
  have h : (gattSystem.exec {} lateWrite).map Prod.snd = some lateWriteTrace := by decide +kernel
  obtain ⟨s, hs⟩ := Machine.exists_run_of_exec h
  have hret : lateWriteTrace[19]? = some (.ret 2 (.read 16) 0 []) := by decide +kernel
  have hnone : ∀ ans, GattEv.callback 2 ans ∉ lateWriteTrace := by simp [lateWriteTrace]
  refine ⟨lateWriteTrace, s, hs, hret, hnone, fun hown => ?_⟩
  obtain ⟨ans, hmem, -⟩ := hown 19 2 (.read 16) [] hret
  exact hnone ans (List.mem_of_mem_take hmem)

open GattAct in
/-- A read times out, and its response comes while a second read waits for its own two bytes. -/
def lateRead : List GattAct :=
  [call (.read 16) {}, task, task, task, task, issue 0] ++ List.replicate 6 task ++
  [call (.read 16) {}, task, task, task, task, issue 0,
    callback 1 { om := some (0, [1, 2, 3]) }, callback 2 { om := some (0, [7, 8]) }] ++
  List.replicate 5 task

/-- The second read returns its two bytes. -/
theorem gatt_answers_own_read :
    ∃ tr s, gattSystem.RunIf GattSys.Timely {} tr s ∧
      tr[24]? = some (.ret 2 (.read 16) 0 [7, 8]) ∧ OwnAnswers tr := by
  have h : ((gattSystem.execIf GattSys.Timely {} lateRead).map Prod.snd).bind (·[24]?) =
      some (.ret 2 (.read 16) 0 [7, 8]) := by decide +kernel
  obtain ⟨tr, htr, hlast⟩ := Option.bind_eq_some_iff.mp h
  obtain ⟨⟨s, tr'⟩, hs, rfl⟩ := Option.map_eq_some_iff.mp htr
  have hrun := Machine.runIf_of_execIf hs
  exact ⟨tr', s, hrun, hlast, (gatt_answers_own hrun).1⟩

end Cc3501eBridge
