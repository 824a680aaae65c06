import Cc3501eBridge.Lib.Polling

/-!
# The non-blocking connect

`sock_connect_run` connects a socket with its non-blocking flag set, waits for it in slices against a
cap, and puts the flags back.  Everything it does to the socket goes through its table of
operations; the model goes from one operation to the next, `SockConnectPc` being where the body
stands, and takes what the operations return as inputs.

`SockConnectOk` is what a run shows: where it may succeed, which flags are set last, what comes right
after a slice, and that it ends.
-/

namespace Cc3501eBridge

/-- `CC3501E_SOCK_CONNECT_SLICE_MS`. -/
def sockConnectSlice : UInt32 := 100

/-- `CC3501E_SOCK_CONNECT_CAP_MS`. -/
def sockConnectCap : UInt32 := 60000

/-- `sock_connect_slice_ms`. -/
def sockConnectSliceMs (elapsedMs : UInt32) : UInt32 :=
  if elapsedMs ≥ sockConnectCap then 0
  else
    let left := sockConnectCap - elapsedMs
    if left < sockConnectSlice then left else sockConnectSlice

/-- Where `sock_connect_run` stands: which operation it calls next, with its locals. -/
inductive SockConnectPc where
  | getFlags
  | setNonblock (orig : Int32)
  | startConnect (orig : Int32)
  | inProgress (orig : Int32)
  | readStart (orig : Int32)
  | check (orig : Int32) (t0 : UInt32)
  | waitWritable (orig : Int32) (t0 slice : UInt32)
  | soError (orig : Int32)
  | heal (orig : Int32) (t0 : UInt32)
  | restore (orig rc : Int32)
  | ret (rc : Int32)
  deriving DecidableEq, Repr

/-- What the operations would return now. -/
structure SockAnswer where
  getFlags : Int32 := 0
  setFlags : Int32 := 0
  startConnect : Int32 := 0
  inProgress : Bool := true
  nowMs : UInt32 := 0
  waitWritable : Int32 := 0
  /-- What `so_error` returns, and what it writes. -/
  soError : Int32 × Int32 := (0, 0)

/-- An operation that was called, with its arguments and what it returned. -/
inductive SockCall where
  | getFlags (r : Int32)
  | setFlags (flags r : Int32)
  | startConnect (r : Int32)
  | inProgress (b : Bool)
  | nowMs (t : UInt32)
  | waitWritable (slice : UInt32) (n : Int32)
  | soError (r err : Int32)
  | heal
  deriving DecidableEq, Repr

/-- `sock_connect_run`, from one operation to the next. -/
def sockConnect (nonblockFlag : Int32) : Machine SockConnectPc SockAnswer SockCall where
  step
    | .getFlags, a =>
        some (if a.getFlags < 0 then .ret (-1) else .setNonblock a.getFlags, .getFlags a.getFlags)
    | .setNonblock orig, a =>
        -- never fall back to the unbounded blocking connect
        some (if a.setFlags < 0 then .ret (-1) else .startConnect orig,
          .setFlags (orig ||| nonblockFlag) a.setFlags)
    | .startConnect orig, a =>
        some (if a.startConnect ≠ 0 then .inProgress orig else .restore orig a.startConnect,
          .startConnect a.startConnect)
    | .inProgress orig, a =>
        some (if a.inProgress then .readStart orig else .restore orig (-1), .inProgress a.inProgress)
    | .readStart orig, a => some (.check orig a.nowMs, .nowMs a.nowMs)
    | .check orig t0, a =>
        let slice := sockConnectSliceMs (a.nowMs - t0)
        some (if slice = 0 then .restore orig (-1) else .waitWritable orig t0 slice, .nowMs a.nowMs)
    | .waitWritable orig t0 slice, a =>
        some (if a.waitWritable > 0 then .soError orig
          else if a.waitWritable < 0 then .restore orig (-1)
          else .heal orig t0, .waitWritable slice a.waitWritable)
    | .soError orig, a =>
        let (r, err) := a.soError
        some (.restore orig (if r = 0 ∧ err = 0 then 0 else -1), .soError r err)
    | .heal orig t0, _ => some (.check orig t0, .heal)
    | .restore orig rc, a =>
        some (.ret (if a.setFlags < 0 then -1 else rc), .setFlags orig a.setFlags)
    | .ret _, _ => none

/-! ## What a run shows -/

namespace SockCall

/-- What `set_flags` was called with, and what it returned. -/
def setFlags? : SockCall → Option (Int32 × Int32)
  | .setFlags flags r => some (flags, r)
  | _ => none

/-- The reading of the clock. -/
def nowMs? : SockCall → Option UInt32
  | .nowMs t => some t
  | _ => none

/-- A slice that timed out. -/
def TimedOut (c : SockCall) : Prop := ∃ slice n, c = .waitWritable slice n ∧ ¬ n > 0 ∧ ¬ n < 0

/-- A slice that reported the socket writable. -/
def Writable (c : SockCall) : Prop := ∃ slice n, c = .waitWritable slice n ∧ n > 0

/-- A look at the error of the socket. -/
def SoError (c : SockCall) : Prop := ∃ r err, c = .soError r err

end SockCall

/-- The readings of the clock, in order. -/
def sockReadings (tr : List SockCall) : List UInt32 := tr.filterMap SockCall.nowMs?

/-- The connect completed: at once, or with no error after the socket had become writable. -/
def SockCompleted (tr : List SockCall) : Prop :=
  .startConnect 0 ∈ tr ∨ ∃ c, c.Writable ∧ [c, .soError 0 0] <:+: tr

/-- What is asked of a run that has called `tr` and stands at `pc`. -/
structure SockConnectOk (nonblockFlag : Int32) (tr : List SockCall) (pc : SockConnectPc) : Prop where
  /-- It succeeds only if the connect completed and the flags that were read are back. -/
  success : pc = .ret 0 → SockCompleted tr ∧
    ∃ orig r, SockCall.getFlags orig ∈ tr ∧ tr.getLast? = some (.setFlags orig r) ∧ 0 ≤ r
  /-- Once the non-blocking flag was set, it returns with the flags that were read set last. -/
  restored : ∀ rc orig r, pc = .ret rc → .getFlags orig ∈ tr →
    .setFlags (orig ||| nonblockFlag) r ∈ tr → 0 ≤ r →
    ∃ r', Trace.latest SockCall.setFlags? tr = some (orig, r')
  /-- A heal comes right after a slice that timed out, and only there. -/
  heals : Paired SockCall.TimedOut (· = .heal) tr
  /-- The error of the socket is read right after a slice that reported it writable, and only
  there. -/
  errors : Paired SockCall.Writable SockCall.SoError tr
  /-- A slice stays within what was left of the cap at the last look at the clock. -/
  slices : ∀ k slice n, tr[k]? = some (.waitWritable slice n) →
    ∃ t₀ t, (sockReadings tr).head? = some t₀ ∧
      Trace.latest SockCall.nowMs? (tr.take k) = some t ∧
      1 ≤ slice.toNat ∧ slice.toNat ≤ 100 ∧ (t - t₀).toNat + slice.toNat ≤ 60000
  /-- Until it returns it goes on, whatever the operations return. -/
  goes_on : (∀ rc, pc ≠ .ret rc) → ∀ a, ((sockConnect nonblockFlag).step pc a).isSome
  /-- If the clock advances from each reading to the next, it makes a bounded number of calls. -/
  ends : (∀ d ∈ ticks (sockReadings tr), 1 ≤ d ∧ d < 2 ^ 31) → tr.length ≤ 3 * 60000 + 7

/-! ## The clock -/

/-- The length of a slice, `elapsed` after the start. -/
structure SockSliceFits (elapsed slice : UInt32) : Prop where
  pos : 1 ≤ slice.toNat
  le : slice.toNat ≤ 100
  left : elapsed.toNat + slice.toNat ≤ 60000

/-- A slice that is made at all fits. -/
theorem sockConnectSliceMs_fits {elapsed : UInt32} (h : sockConnectSliceMs elapsed ≠ 0) :
    SockSliceFits elapsed (sockConnectSliceMs elapsed) := by
  unfold sockConnectSliceMs at h ⊢
  have hcap : sockConnectCap.toNat = 60000 := rfl
  have hmax : sockConnectSlice.toNat = 100 := rfl
  by_cases hspent : elapsed ≥ sockConnectCap
  · simp [hspent] at h
  have hlt : elapsed < sockConnectCap := UInt32.not_le.mp hspent
  have hltNat := UInt32.lt_iff_toNat_lt.mp hlt
  have hsub := UInt32.toNat_sub_of_le _ _ (UInt32.le_of_lt hlt)
  rw [if_neg hspent]
  simp only
  split_ifs with hslice
  · have hslice' := UInt32.lt_iff_toNat_lt.mp hslice
    exact ⟨by omega, by omega, by omega⟩
  · have hslice' := UInt32.le_iff_toNat_le.mp (UInt32.not_lt.mp hslice)
    exact ⟨by omega, by omega, by omega⟩

section

variable {nonblockFlag orig : Int32} {t0 : UInt32} {ts : List UInt32} {tr : List SockCall}
  {e : SockCall} {pc pc' : SockConnectPc} {a : SockAnswer}

@[simp] theorem sockReadings_append (tr tr' : List SockCall) :
    sockReadings (tr ++ tr') = sockReadings tr ++ sockReadings tr' := List.filterMap_append ..

/-- The loop started at `t0` and has looked at the clock at the times `ts`, always within the cap. -/
structure SockPasses (t0 : UInt32) (ts : List UInt32) (tr : List SockCall) : Prop where
  readings : sockReadings tr = t0 :: ts
  inBudget : ∀ t ∈ ts, (t - t0).toNat < 60000

theorem SockPasses.look {t : UInt32} (h : SockPasses t0 ts tr) (ht : (t - t0).toNat < 60000) :
    SockPasses t0 (ts ++ [t]) (tr ++ [.nowMs t]) where
  readings := by rw [sockReadings_append, h.readings]; rfl
  inBudget := by
    intro t' ht'
    rcases List.mem_append.mp ht' with ht' | ht'
    · exact h.inBudget t' ht'
    · rw [List.mem_singleton.mp ht']
      exact ht

theorem SockPasses.call (h : SockPasses t0 ts tr) (he : e.nowMs? = none) :
    SockPasses t0 ts (tr ++ [e]) where
  readings := by
    rw [sockReadings_append, h.readings]
    simp [sockReadings, he]
  inBudget := h.inBudget

/-- Passes, and looks that may be late. -/
theorem SockPasses.within (us : List UInt32) (h : SockPasses t0 ts tr) :
    WithinBudget 60000 (sockReadings tr ++ us) ts.length := by
  rw [h.readings, List.cons_append]
  exact withinBudget_cons us h.inBudget

/-- At most `3 * n + m` calls with `n` looks at the clock within the cap. -/
def SockLooks (m : Nat) (tr : List SockCall) : Prop :=
  ∃ n, tr.length ≤ 3 * n + m ∧ WithinBudget 60000 (sockReadings tr) n

theorem SockPasses.looks {m : Nat} (h : SockPasses t0 ts tr) (hlen : tr.length ≤ 3 * ts.length + m) :
    SockLooks m tr :=
  ⟨ts.length, hlen, by simpa using h.within []⟩

/-- The looks at the clock, and how many calls there were, by where the body stands. -/
def SockClockAt (tr : List SockCall) : SockConnectPc → Prop
  | .getFlags => sockReadings tr = [] ∧ tr.length = 0
  | .setNonblock _ => sockReadings tr = [] ∧ tr.length = 1
  | .startConnect _ => sockReadings tr = [] ∧ tr.length = 2
  | .inProgress _ => sockReadings tr = [] ∧ tr.length = 3
  | .readStart _ => sockReadings tr = [] ∧ tr.length = 4
  | .check _ t0 => ∃ ts, SockPasses t0 ts tr ∧ tr.length = 3 * ts.length + 5
  | .waitWritable _ t0 slice => ∃ ts, SockPasses t0 ts tr ∧ tr.length = 3 * ts.length + 3 ∧
      ∃ t, Trace.latest SockCall.nowMs? tr = some t ∧ SockSliceFits (t - t0) slice
  | .heal _ t0 => ∃ ts, SockPasses t0 ts tr ∧ tr.length = 3 * ts.length + 4
  | .soError _ => SockLooks 4 tr
  | .restore _ _ => SockLooks 6 tr
  | .ret _ => SockLooks 7 tr

theorem SockLooks.call {m : Nat} (h : SockLooks m tr) (he : e.nowMs? = none) :
    SockLooks (m + 1) (tr ++ [e]) := by
  obtain ⟨n, hlen, hn⟩ := h
  refine ⟨n, by simp; omega, ?_⟩
  simpa [sockReadings, he] using hn

theorem SockLooks.mono {m m' : Nat} (h : SockLooks m tr) (hm : m ≤ m') : SockLooks m' tr := by
  obtain ⟨n, hlen, hn⟩ := h
  exact ⟨n, by omega, hn⟩

theorem sockLooks_zero {m : Nat} (h : tr.length ≤ m) : SockLooks m tr :=
  ⟨0, by omega, withinBudget_zero _ _⟩

/-- From one call to the next. -/
theorem sockClockAt_step (h : SockClockAt tr pc)
    (hs : (sockConnect nonblockFlag).step pc a = some (pc', e)) : SockClockAt (tr ++ [e]) pc' := by
  cases pc with
  | getFlags =>
      obtain ⟨hno, hlen⟩ := h
      obtain ⟨rfl, rfl⟩ := Prod.mk.inj (Option.some.inj hs)
      split_ifs
      · exact sockLooks_zero (by simp; omega)
      · exact ⟨by rw [sockReadings_append, hno]; rfl, by rw [List.length_append, hlen]; rfl⟩
  | setNonblock orig =>
      obtain ⟨hno, hlen⟩ := h
      obtain ⟨rfl, rfl⟩ := Prod.mk.inj (Option.some.inj hs)
      split_ifs
      · exact sockLooks_zero (by simp; omega)
      · exact ⟨by rw [sockReadings_append, hno]; rfl, by simp; omega⟩
  | startConnect orig =>
      obtain ⟨hno, hlen⟩ := h
      obtain ⟨rfl, rfl⟩ := Prod.mk.inj (Option.some.inj hs)
      split_ifs
      · exact ⟨by rw [sockReadings_append, hno]; rfl, by simp; omega⟩
      · exact sockLooks_zero (by simp; omega)
  | inProgress orig =>
      obtain ⟨hno, hlen⟩ := h
      obtain ⟨rfl, rfl⟩ := Prod.mk.inj (Option.some.inj hs)
      split_ifs
      · exact ⟨by rw [sockReadings_append, hno]; rfl, by simp; omega⟩
      · exact sockLooks_zero (by simp; omega)
  | readStart orig =>
      obtain ⟨hno, hlen⟩ := h
      obtain ⟨rfl, rfl⟩ := Prod.mk.inj (Option.some.inj hs)
      exact ⟨[], ⟨by rw [sockReadings_append, hno]; rfl, by simp⟩, by simp [hlen]⟩
  | check orig t0 =>
      obtain ⟨ts, hp, hlen⟩ := h
      obtain ⟨rfl, rfl⟩ := Prod.mk.inj (Option.some.inj hs)
      by_cases hspent : sockConnectSliceMs (a.nowMs - t0) = 0
      · rw [if_pos hspent]
        refine ⟨ts.length, by simp; omega, ?_⟩
        rw [sockReadings_append]
        exact hp.within [a.nowMs]
      · rw [if_neg hspent]
        have hfits := sockConnectSliceMs_fits hspent
        have hleft : (a.nowMs - t0).toNat < 60000 := by
          have := hfits.pos
          have := hfits.left
          omega
        exact ⟨ts ++ [a.nowMs], hp.look hleft, by simp; omega, a.nowMs,
          by simp [SockCall.nowMs?], hfits⟩
  | waitWritable orig t0 slice =>
      obtain ⟨ts, hp, hlen, -⟩ := h
      obtain ⟨rfl, rfl⟩ := Prod.mk.inj (Option.some.inj hs)
      have hp' := hp.call (e := .waitWritable slice a.waitWritable) rfl
      split_ifs
      · exact hp'.looks (by simp; omega)
      · exact hp'.looks (by simp; omega)
      · exact ⟨ts, hp', by simp; omega⟩
  | soError orig =>
      have hlooks : SockLooks 4 tr := h
      obtain ⟨rfl, rfl⟩ := Prod.mk.inj (Option.some.inj hs)
      exact (hlooks.call rfl).mono (by omega)
  | heal orig t0 =>
      obtain ⟨ts, hp, hlen⟩ := h
      obtain ⟨rfl, rfl⟩ := Prod.mk.inj (Option.some.inj hs)
      exact ⟨ts, hp.call rfl, by simp; omega⟩
  | restore orig rc =>
      have hlooks : SockLooks 6 tr := h
      obtain ⟨rfl, rfl⟩ := Prod.mk.inj (Option.some.inj hs)
      exact hlooks.call rfl
  | ret rc => simp [sockConnect] at hs

/-- Along a run. -/
theorem sockClockAt_run (hr : (sockConnect nonblockFlag).Run .getFlags tr pc) : SockClockAt tr pc :=
  hr.invariant (P := fun tr pc => SockClockAt tr pc) ⟨rfl, rfl⟩ fun _ _ _ _ _ h hs =>
    sockClockAt_step h hs

/-- Each slice fits what was left. -/
theorem sockConnect_slices (hr : (sockConnect nonblockFlag).Run .getFlags tr pc) (k : Nat)
    (slice : UInt32) (n : Int32) (hk : tr[k]? = some (.waitWritable slice n)) :
    ∃ t₀ t, (sockReadings tr).head? = some t₀ ∧
      Trace.latest SockCall.nowMs? (tr.take k) = some t ∧
      1 ≤ slice.toNat ∧ slice.toNat ≤ 100 ∧ (t - t₀).toNat + slice.toNat ≤ 60000 := by
  obtain ⟨pc₀, a, pc₁, hr₀, -, hs⟩ := hr.step_at hk
  have hat := sockClockAt_run hr₀
  cases pc₀ with
  | waitWritable orig t0 slice' =>
      obtain ⟨ts, hp, -, t, ht, hfits⟩ := hat
      obtain ⟨-, he⟩ := Prod.mk.inj (Option.some.inj hs)
      obtain ⟨rfl, -⟩ := SockCall.waitWritable.inj he
      refine ⟨t0, t, ?_, ht, hfits.pos, hfits.le, hfits.left⟩
      rw [← List.take_append_drop k tr, sockReadings_append, hp.readings]
      rfl
  | _ => simp [sockConnect] at hs

/-- How many calls there are to each look at the clock. -/
theorem sockConnect_looks (hr : (sockConnect nonblockFlag).Run .getFlags tr pc) : SockLooks 7 tr := by
  have hat := sockClockAt_run hr
  cases pc with
  | check orig t0 =>
      obtain ⟨ts, hp, hlen⟩ := hat
      exact hp.looks (by omega)
  | waitWritable orig t0 slice =>
      obtain ⟨ts, hp, hlen, -⟩ := hat
      exact hp.looks (by omega)
  | heal orig t0 =>
      obtain ⟨ts, hp, hlen⟩ := hat
      exact hp.looks (by omega)
  | soError orig => exact SockLooks.mono hat (by omega)
  | restore orig rc => exact SockLooks.mono hat (by omega)
  | ret rc => exact hat
  | _ =>
      obtain ⟨-, hlen⟩ := hat
      exact sockLooks_zero (by omega)

/-- A clock that advances brings the loop to its end. -/
theorem sockConnect_ends (hr : (sockConnect nonblockFlag).Run .getFlags tr pc)
    (h : ∀ d ∈ ticks (sockReadings tr), 1 ≤ d ∧ d < 2 ^ 31) : tr.length ≤ 3 * 60000 + 7 := by
  obtain ⟨n, hlen, hn⟩ := sockConnect_looks hr
  have htail : ∀ d ∈ ticks (sockReadings tr).tail, 1 ≤ d ∧ d < 2 ^ 31 := by
    cases hus : sockReadings tr with
    | nil => simp [ticks]
    | cons t us =>
        rw [hus] at h
        cases us with
        | nil => simp [ticks]
        | cons t' us => exact fun d hd => h d (List.mem_cons_of_mem _ hd)
  have hle := hn.le (fun d hd => (htail d hd).1) (.inl ⟨by decide, fun d hd => (htail d hd).2⟩)
  omega

/-! ## What comes right after a slice -/

theorem timedOut_waitWritable {slice : UInt32} {n : Int32} :
    (SockCall.waitWritable slice n).TimedOut ↔ ¬ n > 0 ∧ ¬ n < 0 := by
  refine ⟨?_, fun h => ⟨slice, n, rfl, h⟩⟩
  rintro ⟨slice', n', hcall, h⟩
  obtain ⟨-, rfl⟩ := SockCall.waitWritable.inj hcall
  exact h

/-- The heal comes right after each slice that timed out. -/
theorem sockConnect_heals (hr : (sockConnect nonblockFlag).Run .getFlags tr pc) :
    Paired SockCall.TimedOut (· = .heal) tr := by
  refine (hr.paired (W := fun pc => ∃ orig t0, pc = .heal orig t0) (by simp) ?_).1
  intro pc a pc' e hs
  cases pc with
  | waitWritable orig t0 slice =>
      obtain ⟨rfl, rfl⟩ := Prod.mk.inj (Option.some.inj hs)
      rw [timedOut_waitWritable]
      split_ifs with hpos hneg
      · exact ⟨iff_of_false (fun h => h.1 hpos) (by simp), by simp⟩
      · exact ⟨iff_of_false (fun h => h.2 hneg) (by simp), by simp⟩
      · exact ⟨iff_of_true ⟨hpos, hneg⟩ ⟨orig, t0, rfl⟩, by simp⟩
  | ret rc => simp [sockConnect] at hs
  | heal orig t0 =>
      obtain ⟨rfl, rfl⟩ := Prod.mk.inj (Option.some.inj hs)
      simp [SockCall.TimedOut]
  | _ =>
      obtain ⟨rfl, rfl⟩ := Prod.mk.inj (Option.some.inj hs)
      try split_ifs
      all_goals simp [SockCall.TimedOut]

/-- The error of the socket is read right after a slice that reported it writable. -/
theorem sockConnect_errors (hr : (sockConnect nonblockFlag).Run .getFlags tr pc) :
    Paired SockCall.Writable SockCall.SoError tr ∧
      ((∃ c, tr.getLast? = some c ∧ c.Writable) ↔ ∃ orig, pc = .soError orig) := by
  refine hr.paired (W := fun pc => ∃ orig, pc = .soError orig) (by simp) ?_
  intro pc a pc' e hs
  cases pc with
  | waitWritable orig t0 slice =>
      obtain ⟨rfl, rfl⟩ := Prod.mk.inj (Option.some.inj hs)
      split_ifs with hpos hneg <;> simp [SockCall.Writable, SockCall.SoError, hpos]
  | ret rc => simp [sockConnect] at hs
  | soError orig =>
      obtain ⟨rfl, rfl⟩ := Prod.mk.inj (Option.some.inj hs)
      simp [SockCall.Writable, SockCall.SoError]
  | _ =>
      obtain ⟨rfl, rfl⟩ := Prod.mk.inj (Option.some.inj hs)
      try split_ifs
      all_goals simp [SockCall.Writable, SockCall.SoError]

/-! ## The flags and the result -/

/-- The flags were read, once, and are `orig`. -/
structure SockFlagsRead (orig : Int32) (tr : List SockCall) : Prop where
  mem : .getFlags orig ∈ tr
  unique : ∀ o, .getFlags o ∈ tr → o = orig

theorem SockFlagsRead.snoc (h : SockFlagsRead orig tr) (he : ∀ o, e ≠ .getFlags o) :
    SockFlagsRead orig (tr ++ [e]) where
  mem := List.mem_append_left _ h.mem
  unique := by
    intro o ho
    rcases List.mem_append.mp ho with ho | ho
    · exact h.unique o ho
    · exact absurd (List.mem_singleton.mp ho).symm (he o)

/-- The flags are back, as the last thing that was done. -/
structure SockRestored (orig rc : Int32) (tr : List SockCall) : Prop where
  read : SockFlagsRead orig tr
  last : ∃ r, tr.getLast? = some (.setFlags orig r) ∧
    Trace.latest SockCall.setFlags? tr = some (orig, r) ∧ (rc = 0 → 0 ≤ r)
  completed : rc = 0 → SockCompleted tr

/-- What the calls say about the flags and the result. -/
def SockFlagsAt (tr : List SockCall) : SockConnectPc → Prop
  | .getFlags => tr = []
  | .setNonblock orig => tr = [.getFlags orig]
  | .startConnect orig | .inProgress orig | .readStart orig | .check orig _ | .heal orig _
  | .waitWritable orig _ _ | .soError orig => SockFlagsRead orig tr
  | .restore orig rc => SockFlagsRead orig tr ∧ (rc = 0 → SockCompleted tr)
  | .ret rc => (rc ≠ 0 ∧ ∀ flags r, .setFlags flags r ∈ tr → r < 0) ∨ ∃ orig, SockRestored orig rc tr

theorem SockCompleted.snoc (h : SockCompleted tr) : SockCompleted (tr ++ [e]) := by
  rcases h with h | ⟨c, hc, hin⟩
  · exact .inl (List.mem_append_left _ h)
  · exact .inr ⟨c, hc, hin.trans (List.prefix_append tr [e]).isInfix⟩

/-- From one call to the next; the error of the socket is read where the last slice reported it
writable. -/
theorem sockFlagsAt_step (h : SockFlagsAt tr pc)
    (hlast : ∀ orig, pc = .soError orig → ∃ c, tr.getLast? = some c ∧ c.Writable)
    (hs : (sockConnect nonblockFlag).step pc a = some (pc', e)) : SockFlagsAt (tr ++ [e]) pc' := by
  have hfail : (-1 : Int32) ≠ 0 := by decide
  cases pc with
  | getFlags =>
      obtain rfl : tr = [] := h
      obtain ⟨rfl, rfl⟩ := Prod.mk.inj (Option.some.inj hs)
      split_ifs
      · exact .inl ⟨hfail, by simp⟩
      · rfl
  | setNonblock orig =>
      obtain rfl : tr = [.getFlags orig] := h
      obtain ⟨rfl, rfl⟩ := Prod.mk.inj (Option.some.inj hs)
      split_ifs with hneg
      · refine .inl ⟨hfail, fun flags r hmem => ?_⟩
        obtain ⟨-, rfl⟩ : flags = orig ||| nonblockFlag ∧ r = a.setFlags := by simpa using hmem
        exact hneg
      · exact ⟨by simp, by simp⟩
  | startConnect orig =>
      obtain ⟨rfl, rfl⟩ := Prod.mk.inj (Option.some.inj hs)
      have hread := SockFlagsRead.snoc h (e := .startConnect a.startConnect) (by simp)
      split_ifs with hne
      · exact hread
      · refine ⟨hread, fun _ => .inl ?_⟩
        simp [not_not.mp hne]
  | inProgress orig =>
      obtain ⟨rfl, rfl⟩ := Prod.mk.inj (Option.some.inj hs)
      have hread := SockFlagsRead.snoc h (e := .inProgress a.inProgress) (by simp)
      split_ifs
      · exact hread
      · exact ⟨hread, fun hrc => absurd hrc hfail⟩
  | readStart orig =>
      obtain ⟨rfl, rfl⟩ := Prod.mk.inj (Option.some.inj hs)
      exact SockFlagsRead.snoc h (by simp)
  | check orig t0 =>
      obtain ⟨rfl, rfl⟩ := Prod.mk.inj (Option.some.inj hs)
      have hread := SockFlagsRead.snoc h (e := .nowMs a.nowMs) (by simp)
      split_ifs
      · exact ⟨hread, fun hrc => absurd hrc hfail⟩
      · exact hread
  | waitWritable orig t0 slice =>
      obtain ⟨rfl, rfl⟩ := Prod.mk.inj (Option.some.inj hs)
      have hread := SockFlagsRead.snoc h (e := .waitWritable slice a.waitWritable) (by simp)
      split_ifs
      · exact hread
      · exact ⟨hread, fun hrc => absurd hrc hfail⟩
      · exact hread
  | soError orig =>
      obtain ⟨rfl, rfl⟩ := Prod.mk.inj (Option.some.inj hs)
      refine ⟨SockFlagsRead.snoc h (by simp), fun hrc => ?_⟩
      have hzero : a.soError.1 = 0 ∧ a.soError.2 = 0 := by
        by_contra hne
        rw [if_neg hne] at hrc
        exact hfail hrc
      obtain ⟨c, hc, hw⟩ := hlast orig rfl
      obtain ⟨front, rfl⟩ := List.getLast?_eq_some_iff.mp hc
      exact .inr ⟨c, hw, front, [], by simp [hzero.1, hzero.2]⟩
  | heal orig t0 =>
      obtain ⟨rfl, rfl⟩ := Prod.mk.inj (Option.some.inj hs)
      exact SockFlagsRead.snoc h (by simp)
  | restore orig rc =>
      obtain ⟨hread, hdone⟩ := h
      obtain ⟨rfl, rfl⟩ := Prod.mk.inj (Option.some.inj hs)
      refine .inr ⟨orig, hread.snoc (by simp),
        ⟨a.setFlags, by simp, by simp [SockCall.setFlags?], ?_⟩, ?_⟩
      · intro hrc
        split_ifs at hrc with hneg
        · exact absurd hrc hfail
        · exact Int32.not_lt.mp hneg
      · intro hrc
        split_ifs at hrc with hneg
        · exact absurd hrc hfail
        · exact (hdone hrc).snoc
  | ret rc => simp [sockConnect] at hs

/-- Along a run. -/
theorem sockFlagsAt_run (hr : (sockConnect nonblockFlag).Run .getFlags tr pc) : SockFlagsAt tr pc := by
  induction hr with
  | nil => rfl
  | snoc hr _ hs ih =>
      exact sockFlagsAt_step ih (fun orig hpc => (sockConnect_errors hr).2.mpr ⟨orig, hpc⟩) hs

/-- A body that has not returned makes its next call. -/
theorem sockConnect_goes_on (h : ∀ rc, pc ≠ .ret rc) (a : SockAnswer) :
    ((sockConnect nonblockFlag).step pc a).isSome := by
  cases pc with
  | ret rc => exact absurd rfl (h rc)
  | _ => rfl

/-- `sock_connect_run` does what is asked of it, whatever its operations return. -/
theorem sockConnect_ok (hr : (sockConnect nonblockFlag).Run .getFlags tr pc) :
    SockConnectOk nonblockFlag tr pc := by
  have hat := sockFlagsAt_run hr
  refine ⟨?_, ?_, sockConnect_heals hr, (sockConnect_errors hr).1, sockConnect_slices hr,
    sockConnect_goes_on, sockConnect_ends hr⟩
  · rintro rfl
    rcases hat with ⟨hne, -⟩ | ⟨orig, hrest⟩
    · exact absurd rfl hne
    · obtain ⟨r, hlast, -, hr0⟩ := hrest.last
      exact ⟨hrest.completed rfl, orig, r, hrest.read.mem, hlast, hr0 rfl⟩
  · rintro rc orig r rfl hget hset hr0
    rcases hat with ⟨-, hneg⟩ | ⟨orig', hrest⟩
    · exact absurd (hneg _ r hset) (Int32.not_lt.mpr hr0)
    · obtain rfl := hrest.read.unique orig hget
      obtain ⟨r', -, hlatest, -⟩ := hrest.last
      exact ⟨r', hlatest⟩

/-- A connect that is in progress for one slice, over a clock that wraps. -/
theorem sockConnect_ok_inProgress :
    ∃ tr, SockConnectOk 4 tr (.ret 0) ∧ .heal ∈ tr ∧ tr.getLast? = some (.setFlags 2 0) := by
  have hs : (sockConnect 4).exec .getFlags
      [{ getFlags := 2 }, {}, { startConnect := -1 }, {}, { nowMs := 0xFFFFFFF0 },
        { nowMs := 0xFFFFFFF0 }, {}, {}, { nowMs := 84 }, { waitWritable := 1 }, {}, {}] =
      some (.ret 0, [.getFlags 2, .setFlags 6 0, .startConnect (-1), .inProgress true,
        .nowMs 0xFFFFFFF0, .nowMs 0xFFFFFFF0, .waitWritable 100 0, .heal, .nowMs 84,
        .waitWritable 100 1, .soError 0 0, .setFlags 2 0]) := by
    decide +kernel
  exact ⟨_, sockConnect_ok (Machine.run_of_exec hs), by decide, by decide⟩

end

end Cc3501eBridge
