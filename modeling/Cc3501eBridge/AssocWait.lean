import Cc3501eBridge.Lib.Polling

/-!
# The sliced association wait

`wifi_assoc_wait_sliced` waits for the association event in slices of at most 100 ms against an
absolute deadline, and heals the SPI link after each slice that timed out.  It is modelled call by
call: `AssocWaitPc` is where the body stands, and what its calls return is an input, so that a run
is the body under some clock, some outcomes of the slices and heals of any duration.

The code that is returned starts out as `OSI_OK`.  A wait whose budget is already spent when the
loop first looks at the clock hands it out without having waited at all; `FirstCheckInTime` says that
this did not happen.
-/

namespace Cc3501eBridge

/-- `OSI_OK`. -/
def osiOk : Int := 0

/-- `CC3501E_WIFI_HEAL_SLICE_MS`. -/
def wifiHealSliceMs : UInt32 := 100

/-- Where `wifi_assoc_wait_sliced` stands. -/
inductive AssocWaitPc where
  | start
  | check (startMs : UInt32) (rv : Int)
  | wait (startMs slice : UInt32)
  | heal (startMs : UInt32) (rv : Int)
  | ret (rv : Int)
  deriving DecidableEq, Repr

/-- What the next call would return: the clock, and `osi_SyncObjWait`. -/
structure AssocWaitAnswer where
  uptimeMs : UInt32
  syncWait : Int

/-- A call of the body, with its arguments and what it returned. -/
inductive AssocWaitCall where
  | uptimeMs (t : UInt32)
  | syncWait (slice : UInt32) (rv : Int)
  | linkHeal
  deriving DecidableEq, Repr

/-- `wifi_assoc_wait_sliced`, from one call to the next. -/
def assocWait (totalMs : UInt32) : Machine AssocWaitPc AssocWaitAnswer AssocWaitCall where
  step
    | .start, a => some (.check a.uptimeMs osiOk, .uptimeMs a.uptimeMs)
    | .check startMs rv, a =>
        let elapsedMs := a.uptimeMs - startMs
        if elapsedMs ≥ totalMs then some (.ret rv, .uptimeMs a.uptimeMs)
        else
          let remainingMs := totalMs - elapsedMs
          let slice := if remainingMs < wifiHealSliceMs then remainingMs else wifiHealSliceMs
          some (.wait startMs slice, .uptimeMs a.uptimeMs)
    | .wait startMs slice, a =>
        if a.syncWait = osiOk then some (.ret osiOk, .syncWait slice a.syncWait)
        else some (.heal startMs a.syncWait, .syncWait slice a.syncWait)
    | .heal startMs rv, _ => some (.check startMs rv, .linkHeal)
    | .ret _, _ => none

/-! ## What a run shows -/

/-- The reading of the clock. -/
def AssocWaitCall.uptime? : AssocWaitCall → Option UInt32
  | .uptimeMs t => some t
  | _ => none

/-- A slice that was signalled. -/
def AssocWaitCall.Signalled (c : AssocWaitCall) : Prop := ∃ slice, c = .syncWait slice osiOk

/-- A slice that was not. -/
def AssocWaitCall.Expired (c : AssocWaitCall) : Prop :=
  ∃ slice rv, c = .syncWait slice rv ∧ rv ≠ osiOk

/-- The readings of the clock, in order. -/
def uptimes (tr : List AssocWaitCall) : List UInt32 := tr.filterMap AssocWaitCall.uptime?

/-- When the loop first looks at the clock, some of the budget is left. -/
def FirstCheckInTime (totalMs : UInt32) (tr : List AssocWaitCall) : Prop :=
  ∀ t₀ t ts, uptimes tr = t₀ :: t :: ts → t - t₀ < totalMs

/-- The length of a slice, `elapsed` after the start. -/
structure SliceFits (totalMs elapsed slice : UInt32) : Prop where
  pos : 1 ≤ slice.toNat
  le : slice.toNat ≤ 100
  left : elapsed.toNat + slice.toNat ≤ totalMs.toNat

/-- What is asked of a wait that has made the calls `tr` and stands at `pc`. -/
structure AssocWaitOk (totalMs : UInt32) (tr : List AssocWaitCall) (pc : AssocWaitPc) : Prop where
  /-- It returns `OSI_OK` if a slice was signalled, and only then. -/
  signalled : ∀ rv, pc = .ret rv → (rv = osiOk ↔ ∃ c ∈ tr, c.Signalled)
  /-- A slice stays within what was left at the last look at the clock. -/
  slices : ∀ k slice rv, tr[k]? = some (.syncWait slice rv) →
    ∃ t₀ t, (uptimes tr).head? = some t₀ ∧
      Trace.latest AssocWaitCall.uptime? (tr.take k) = some t ∧ SliceFits totalMs (t - t₀) slice
  /-- There is a heal right after each slice that was not signalled, and nowhere else. -/
  heals : Paired AssocWaitCall.Expired (· = .linkHeal) tr
  /-- It does not return between the two. -/
  healed : ∀ rv, pc = .ret rv → ∀ c, tr.getLast? = some c → ¬ c.Expired
  /-- Until it returns it goes on, whatever its calls return. -/
  goes_on : (∀ rv, pc ≠ .ret rv) → ∀ a, ((assocWait totalMs).step pc a).isSome
  /-- If every pass advances the clock, it makes a bounded number of calls. -/
  ends : (∀ d ∈ ticks (uptimes tr).tail, 1 ≤ d) → NoLap totalMs.toNat (uptimes tr) →
    tr.length ≤ 3 * totalMs.toNat + 2

/-! ## Where the body stands -/

/-- The wait started at `startMs` and has looked at the clock at the times `ts`, always within the
budget; no slice was signalled. -/
structure AssocPasses (totalMs startMs : UInt32) (ts : List UInt32) (tr : List AssocWaitCall) :
    Prop where
  uptimes : uptimes tr = startMs :: ts
  inBudget : ∀ t ∈ ts, t - startMs < totalMs
  unsignalled : ∀ c ∈ tr, ¬ c.Signalled

/-- What the calls so far say about where the body stands. -/
def AssocWaitAt (totalMs : UInt32) (tr : List AssocWaitCall) : AssocWaitPc → Prop
  | .start => tr = []
  | .check startMs rv => ∃ ts, AssocPasses totalMs startMs ts tr ∧ tr.length = 3 * ts.length + 1 ∧
      (rv = osiOk ↔ ts = [])
  | .wait startMs slice => ∃ ts, AssocPasses totalMs startMs ts tr ∧
      tr.length + 1 = 3 * ts.length ∧ ts ≠ [] ∧
      ∃ t, Trace.latest AssocWaitCall.uptime? tr = some t ∧ SliceFits totalMs (t - startMs) slice
  | .heal startMs rv => ∃ ts, AssocPasses totalMs startMs ts tr ∧ tr.length = 3 * ts.length ∧
      ts ≠ [] ∧ rv ≠ osiOk
  | .ret rv => ∃ startMs ts, (∀ t ∈ ts, t - startMs < totalMs) ∧ tr.length ≤ 3 * ts.length + 2 ∧
      (ts ≠ [] ∧ uptimes tr = startMs :: ts ∧ rv = osiOk ∧ (∃ c ∈ tr, c.Signalled) ∨
        ∃ t, uptimes tr = startMs :: (ts ++ [t]) ∧ totalMs ≤ t - startMs ∧
          (rv = osiOk ↔ ts = []) ∧ ∀ c ∈ tr, ¬ c.Signalled)

section

variable {totalMs startMs elapsed : UInt32} {ts : List UInt32} {tr : List AssocWaitCall}
  {e : AssocWaitCall} {pc pc' : AssocWaitPc} {a : AssocWaitAnswer}

/-- The slice of the loop fits as long as some of the budget is left. -/
theorem sliceFits_of_lt (h : elapsed < totalMs) :
    SliceFits totalMs elapsed
      (if totalMs - elapsed < wifiHealSliceMs then totalMs - elapsed else wifiHealSliceMs) := by
  have hlt : elapsed.toNat < totalMs.toNat := UInt32.lt_iff_toNat_lt.mp h
  have hsub : (totalMs - elapsed).toNat = totalMs.toNat - elapsed.toNat :=
    UInt32.toNat_sub_of_le _ _ (UInt32.le_of_lt h)
  have hcap : wifiHealSliceMs.toNat = 100 := rfl
  split_ifs with hslice
  · have hslice' := UInt32.lt_iff_toNat_lt.mp hslice
    exact ⟨by omega, by omega, by omega⟩
  · have hslice' := UInt32.le_iff_toNat_le.mp (UInt32.not_lt.mp hslice)
    exact ⟨by omega, by omega, by omega⟩

@[simp] theorem uptimes_append (tr tr' : List AssocWaitCall) :
    uptimes (tr ++ tr') = uptimes tr ++ uptimes tr' := List.filterMap_append ..

/-- A look at the clock within the budget. -/
theorem AssocPasses.look {t : UInt32} (h : AssocPasses totalMs startMs ts tr)
    (ht : t - startMs < totalMs) :
    AssocPasses totalMs startMs (ts ++ [t]) (tr ++ [.uptimeMs t]) where
  uptimes := by rw [uptimes_append, h.uptimes]; rfl
  inBudget := by
    intro t' ht'
    rcases List.mem_append.mp ht' with ht' | ht'
    · exact h.inBudget t' ht'
    · rw [List.mem_singleton.mp ht']
      exact ht
  unsignalled := by
    intro c hc
    rcases List.mem_append.mp hc with hc | hc
    · exact h.unsignalled c hc
    · rw [List.mem_singleton.mp hc]
      rintro ⟨slice, hslice⟩
      cases hslice

/-- A call that is no look at the clock and no signal. -/
theorem AssocPasses.call (h : AssocPasses totalMs startMs ts tr) (hclock : e.uptime? = none)
    (hsig : ¬ e.Signalled) : AssocPasses totalMs startMs ts (tr ++ [e]) where
  uptimes := by
    rw [uptimes_append, h.uptimes]
    simp [Cc3501eBridge.uptimes, hclock]
  inBudget := h.inBudget
  unsignalled := by
    intro c hc
    rcases List.mem_append.mp hc with hc | hc
    · exact h.unsignalled c hc
    · rw [List.mem_singleton.mp hc]
      exact hsig

/-- From one call to the next. -/
theorem assocWaitAt_step (h : AssocWaitAt totalMs tr pc)
    (hs : (assocWait totalMs).step pc a = some (pc', e)) : AssocWaitAt totalMs (tr ++ [e]) pc' := by
  cases pc with
  | start =>
      obtain rfl : tr = [] := h
      obtain ⟨rfl, rfl⟩ : AssocWaitPc.check a.uptimeMs osiOk = pc' ∧ .uptimeMs a.uptimeMs = e := by
        simpa [assocWait] using hs
      refine ⟨[], ⟨rfl, by simp, ?_⟩, rfl, by simp⟩
      rintro c hc ⟨slice, hslice⟩
      rw [hslice] at hc
      simp at hc
  | check startMs rv =>
      obtain ⟨ts, hp, hlen, hrv⟩ := h
      simp only [assocWait] at hs
      by_cases hspent : a.uptimeMs - startMs ≥ totalMs
      · -- the budget is spent: the loop returns the code it was left with
        obtain ⟨rfl, rfl⟩ : AssocWaitPc.ret rv = pc' ∧ .uptimeMs a.uptimeMs = e := by
          simpa [hspent] using hs
        refine ⟨startMs, ts, hp.inBudget, by simp; omega, .inr ⟨a.uptimeMs, ?_, hspent, hrv, ?_⟩⟩
        · rw [uptimes_append, hp.uptimes]
          rfl
        · intro c hc
          rcases List.mem_append.mp hc with hc | hc
          · exact hp.unsignalled c hc
          · rw [List.mem_singleton.mp hc]
            rintro ⟨slice, hslice⟩
            cases hslice
      · rw [if_neg hspent] at hs
        have hleft : a.uptimeMs - startMs < totalMs := UInt32.not_le.mp hspent
        obtain ⟨rfl, rfl⟩ := Prod.mk.inj (Option.some.inj hs)
        refine ⟨ts ++ [a.uptimeMs], hp.look hleft, by simp; omega, by simp, a.uptimeMs, ?_,
          sliceFits_of_lt hleft⟩
        simp [AssocWaitCall.uptime?]
  | wait startMs slice =>
      obtain ⟨ts, hp, hlen, hne, -⟩ := h
      simp only [assocWait] at hs
      split_ifs at hs with hok
      · obtain ⟨rfl, rfl⟩ := Prod.mk.inj (Option.some.inj hs)
        refine ⟨startMs, ts, hp.inBudget, by simp; omega, .inl ⟨hne, ?_, rfl, ?_⟩⟩
        · rw [uptimes_append, hp.uptimes]
          exact List.append_nil _
        · exact ⟨.syncWait slice a.syncWait, by simp, slice, by rw [hok]⟩
      · obtain ⟨rfl, rfl⟩ := Prod.mk.inj (Option.some.inj hs)
        refine ⟨ts, hp.call rfl ?_, by simp; omega, hne, hok⟩
        rintro ⟨slice', hslice⟩
        exact hok (AssocWaitCall.syncWait.inj hslice).2
  | heal startMs rv =>
      obtain ⟨ts, hp, hlen, hne, hrv⟩ := h
      obtain ⟨rfl, rfl⟩ := Prod.mk.inj (Option.some.inj hs)
      refine ⟨ts, hp.call rfl ?_, by simp; omega, by simp [hne, hrv]⟩
      rintro ⟨slice, hslice⟩
      cases hslice
  | ret rv => simp [assocWait] at hs

/-- Along a run. -/
theorem assocWaitAt_run (hr : (assocWait totalMs).Run .start tr pc) : AssocWaitAt totalMs tr pc :=
  hr.invariant (P := fun tr pc => AssocWaitAt totalMs tr pc) rfl fun _ _ _ _ _ h hs =>
    assocWaitAt_step h hs

end

/-! ## When the wait is the wait it replaced -/

section

variable {totalMs : UInt32} {tr : List AssocWaitCall} {pc : AssocWaitPc}

/-- Each slice fits what was left. -/
theorem assocWait_slices (hr : (assocWait totalMs).Run .start tr pc) (k : Nat) (slice : UInt32)
    (rv : Int) (hk : tr[k]? = some (.syncWait slice rv)) :
    ∃ t₀ t, (uptimes tr).head? = some t₀ ∧
      Trace.latest AssocWaitCall.uptime? (tr.take k) = some t ∧ SliceFits totalMs (t - t₀) slice := by
  obtain ⟨pc₀, a, pc₁, hr₀, -, hs⟩ := hr.step_at hk
  have hat := assocWaitAt_run hr₀
  cases pc₀ with
  | wait startMs slice' =>
      obtain ⟨ts, hp, -, -, t, ht, hfits⟩ := hat
      obtain rfl : slice' = slice := by
        simp only [assocWait] at hs
        split_ifs at hs <;> simp_all
      refine ⟨startMs, t, ?_, ht, hfits⟩
      rw [← List.take_append_drop k tr, uptimes_append, hp.uptimes]
      rfl
  | check startMs rv' =>
      simp only [assocWait] at hs
      split_ifs at hs <;> simp at hs
  | _ => simp [assocWait] at hs

/-- The heal comes right after each slice that was not signalled. -/
theorem assocWait_heals (hr : (assocWait totalMs).Run .start tr pc) :
    Paired AssocWaitCall.Expired (· = .linkHeal) tr ∧
      ((∃ c, tr.getLast? = some c ∧ c.Expired) ↔ ∃ startMs rv, pc = .heal startMs rv) := by
  refine hr.paired (W := fun pc => ∃ startMs rv, pc = .heal startMs rv) (by simp) ?_
  intro pc a pc' e hs
  cases pc with
  | start =>
      obtain ⟨rfl, rfl⟩ := Prod.mk.inj (Option.some.inj hs)
      simp [AssocWaitCall.Expired]
  | check startMs rv =>
      simp only [assocWait] at hs
      split_ifs at hs <;> obtain ⟨rfl, rfl⟩ := Prod.mk.inj (Option.some.inj hs) <;>
        simp [AssocWaitCall.Expired]
  | wait startMs slice =>
      simp only [assocWait] at hs
      split_ifs at hs with hok <;> obtain ⟨rfl, rfl⟩ := Prod.mk.inj (Option.some.inj hs) <;>
        simp [AssocWaitCall.Expired, hok]
  | heal startMs rv =>
      obtain ⟨rfl, rfl⟩ := Prod.mk.inj (Option.some.inj hs)
      simp [AssocWaitCall.Expired]
  | ret rv => simp [assocWait] at hs

/-- A body that has not returned makes its next call. -/
theorem assocWait_goes_on (h : ∀ rv, pc ≠ .ret rv) (a : AssocWaitAnswer) :
    ((assocWait totalMs).step pc a).isSome := by
  cases pc with
  | ret rv => exact absurd rfl (h rv)
  | check startMs rv => simp only [assocWait]; split_ifs <;> rfl
  | wait startMs slice => simp only [assocWait]; split_ifs <;> rfl
  | _ => rfl

/-- A bounded number of calls to each look at the clock within the budget. -/
theorem assocWait_looks (hr : (assocWait totalMs).Run .start tr pc) :
    ∃ n, tr.length ≤ 3 * n + 2 ∧ WithinBudget totalMs.toNat (uptimes tr) n := by
  have hat := assocWaitAt_run hr
  have hlooks : ∀ {startMs ts} ts', uptimes tr = startMs :: (ts ++ ts') →
      (∀ t ∈ ts, t - startMs < totalMs) → WithinBudget totalMs.toNat (uptimes tr) ts.length := by
    intro startMs ts ts' hup hin
    rw [hup]
    exact withinBudget_cons ts' fun t ht => UInt32.lt_iff_toNat_lt.mp (hin t ht)
  have hpasses : ∀ {startMs ts}, AssocPasses totalMs startMs ts tr →
      WithinBudget totalMs.toNat (uptimes tr) ts.length := by
    intro startMs ts hp
    exact hlooks [] (by simp [hp.uptimes]) hp.inBudget
  cases pc with
  | start =>
      obtain rfl : tr = [] := hat
      exact ⟨0, by simp, withinBudget_zero _ _⟩
  | check startMs rv =>
      obtain ⟨ts, hp, hlen, -⟩ := hat
      exact ⟨ts.length, by omega, hpasses hp⟩
  | wait startMs slice =>
      obtain ⟨ts, hp, hlen, -⟩ := hat
      exact ⟨ts.length, by omega, hpasses hp⟩
  | heal startMs rv =>
      obtain ⟨ts, hp, hlen, -⟩ := hat
      exact ⟨ts.length, by omega, hpasses hp⟩
  | ret rv =>
      obtain ⟨startMs, ts, hin, hlen, ⟨-, hup, -⟩ | ⟨t, hup, -⟩⟩ := hat
      · exact ⟨ts.length, hlen, hlooks [] (by simp [hup]) hin⟩
      · exact ⟨ts.length, hlen, hlooks [t] hup hin⟩

/-- A clock that advances in every pass brings the loop to its end. -/
theorem assocWait_ends (hr : (assocWait totalMs).Run .start tr pc)
    (hone : ∀ d ∈ ticks (uptimes tr).tail, 1 ≤ d) (hlap : NoLap totalMs.toNat (uptimes tr)) :
    tr.length ≤ 3 * totalMs.toNat + 2 := by
  obtain ⟨n, hlen, hn⟩ := assocWait_looks hr
  have hle := hn.le hone hlap
  omega

/-- The condition, for a wait that started at `startMs`. -/
theorem firstCheckInTime_iff {startMs : UInt32} {ts : List UInt32} (h : uptimes tr = startMs :: ts) :
    FirstCheckInTime totalMs tr ↔ ∀ t, ts.head? = some t → t - startMs < totalMs := by
  unfold FirstCheckInTime
  rw [h]
  cases ts with
  | nil => simp
  | cons t ts =>
      refine ⟨fun hin t' ht' => ?_, fun hin t₀ t' ts' hts => ?_⟩
      · obtain rfl : t = t' := by simpa using ht'
        exact hin startMs t ts rfl
      · obtain ⟨rfl, rfl, rfl⟩ : startMs = t₀ ∧ t = t' ∧ ts = ts' := by simpa using hts
        exact hin t rfl

theorem AssocPasses.firstCheck {startMs : UInt32} {ts : List UInt32}
    (h : AssocPasses totalMs startMs ts tr) : FirstCheckInTime totalMs tr :=
  (firstCheckInTime_iff h.uptimes).mpr fun t ht => h.inBudget t (List.mem_of_mem_head? ht)

/-- The code is right exactly if the budget was not spent before the loop began. -/
theorem assocWait_signalled_iff (hr : (assocWait totalMs).Run .start tr pc) :
    (∀ rv, pc = .ret rv → (rv = osiOk ↔ ∃ c ∈ tr, c.Signalled)) ↔ FirstCheckInTime totalMs tr := by
  have hat := assocWaitAt_run hr
  cases pc with
  | start =>
      obtain rfl : tr = [] := hat
      simp [FirstCheckInTime, uptimes]
  | check startMs rv =>
      obtain ⟨ts, hp, -⟩ := hat
      simp [hp.firstCheck]
  | wait startMs slice =>
      obtain ⟨ts, hp, -⟩ := hat
      simp [hp.firstCheck]
  | heal startMs rv =>
      obtain ⟨ts, hp, -⟩ := hat
      simp [hp.firstCheck]
  | ret rv =>
      obtain ⟨startMs, ts, hin, -, ⟨hne, hup, hrv, hsig⟩ | ⟨t, hup, hspent, hrv, hsig⟩⟩ := hat
      · refine iff_of_true ?_ ?_
        · rintro rv' h
          obtain rfl := AssocWaitPc.ret.inj h
          exact iff_of_true hrv hsig
        · exact (firstCheckInTime_iff hup).mpr fun t ht => hin t (List.mem_of_mem_head? ht)
      · have hno : ¬ ∃ c ∈ tr, c.Signalled := fun ⟨c, hc, hs⟩ => hsig c hc hs
        rw [firstCheckInTime_iff hup]
        cases ts with
        | nil =>
            -- the code the loop began with
            refine iff_of_false (fun h => hno ((h rv rfl).mp (hrv.mpr rfl))) fun h => ?_
            exact absurd (h t rfl) (UInt32.not_lt.mpr hspent)
        | cons u us =>
            refine iff_of_true ?_ fun t' ht' => hin t' (List.mem_of_mem_head? (by simpa using ht'))
            rintro rv' h
            obtain rfl := AssocWaitPc.ret.inj h
            simpa [hno] using hrv

/-- What `wifi_assoc_wait_sliced` returns is right exactly if its budget was not spent before it
began: then it returns `OSI_OK` just when a slice was signalled.  The rest holds in any case. -/
theorem assocWait_ok_iff (hr : (assocWait totalMs).Run .start tr pc) :
    AssocWaitOk totalMs tr pc ↔ FirstCheckInTime totalMs tr := by
  obtain ⟨hpaired, hhealing⟩ := assocWait_heals hr
  refine ⟨fun h => (assocWait_signalled_iff hr).mp h.signalled, fun h => ?_⟩
  refine ⟨(assocWait_signalled_iff hr).mpr h, assocWait_slices hr, hpaired, ?_, assocWait_goes_on,
    assocWait_ends hr⟩
  rintro rv rfl c hc hexp
  obtain ⟨startMs, rv', hheal⟩ := hhealing.mp ⟨c, hc, hexp⟩
  cases hheal

/-- A wait of 200 ms that is signalled in its second slice. -/
theorem assocWait_ok_iff_signalled :
    ∃ tr, AssocWaitOk 200 tr (.ret osiOk) ∧ AssocWaitCall.linkHeal ∈ tr := by
  have hs : (assocWait 200).exec .start [⟨5, 0⟩, ⟨5, 0⟩, ⟨0, -1⟩, ⟨0, 0⟩, ⟨110, 0⟩, ⟨0, 0⟩] =
      some (.ret osiOk,
        [.uptimeMs 5, .uptimeMs 5, .syncWait 100 (-1), .linkHeal, .uptimeMs 110, .syncWait 95 0]) := by
    decide +kernel
  refine ⟨_, (assocWait_ok_iff (Machine.run_of_exec hs)).mpr ?_, by decide⟩
  refine (firstCheckInTime_iff rfl).mpr fun t ht => ?_
  obtain rfl : 5 = t := Option.some.inj ht
  decide

/-- A body that is held up for its whole budget between its two first looks at the clock returns
`OSI_OK` without having waited. -/
theorem assocWait_held_up : ∃ totalMs tr pc, 0 < totalMs ∧
    (assocWait totalMs).Run .start tr pc ∧ ¬ AssocWaitOk totalMs tr pc := by
  have hs : (assocWait 200).exec .start [⟨5, 0⟩, ⟨205, 0⟩] =
      some (.ret osiOk, [.uptimeMs 5, .uptimeMs 205]) := by decide +kernel
  refine ⟨200, _, _, by decide, Machine.run_of_exec hs, fun h => ?_⟩
  obtain ⟨c, hc, slice, hslice⟩ := (h.signalled osiOk rfl).mp rfl
  rw [hslice] at hc
  simp at hc

end

end Cc3501eBridge
