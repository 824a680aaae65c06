import Cc3501eBridge.Lib.Trace
import Mathlib.Algebra.GroupWithZero.Nat
import Mathlib.Data.List.Chain

/-!
# Polling against a wrapping clock

A polling loop reads a free-running 32-bit clock at its start, and again at the top of every pass;
how long it has been at it is the difference of the two readings, modulo `2 ^ 32`.  `ticks` are the
advances from each reading to the next.  As long as no advance takes the clock all the way round
(`NoLap`), a loop that advances the clock in every pass makes at most as many passes as its budget
has ticks, `length_le_of_noLap`.

The second half is about what such a loop calls: `Machine.Run.paired` shows that the events of one
sort come right after those of another, and nowhere else, from what each single step does.
-/

universe u v w

namespace Cc3501eBridge

/-! ## The clock -/

/-- The advances from each reading of the clock to the next. -/
def ticks : List UInt32 → List Nat
  | t :: t' :: ts => (t' - t).toNat :: ticks (t' :: ts)
  | _ => []

/-- The clock does not come round while a budget is being spent: either the budget and the advance
of every pass are less than half a round, or all the advances together are. -/
def NoLap (budget : Nat) (ts : List UInt32) : Prop :=
  (budget < 2 ^ 31 ∧ ∀ d ∈ ticks ts.tail, d < 2 ^ 31) ∨ (ticks ts).sum < 2 ^ 31

/-- The first readings have the first advances. -/
theorem ticks_append (ts ts' : List UInt32) : ∃ ds, ticks (ts ++ ts') = ticks ts ++ ds := by
  induction ts with
  | nil => exact ⟨ticks ts', rfl⟩
  | cons t ts ih =>
      cases ts with
      | nil => exact ⟨ticks (t :: ts'), rfl⟩
      | cons t' ts =>
          obtain ⟨ds, hds⟩ := ih
          exact ⟨ds, congrArg ((t' - t).toNat :: ·) hds⟩

theorem NoLap.of_append {budget : Nat} {t : UInt32} {ts ts' : List UInt32}
    (h : NoLap budget (t :: (ts ++ ts'))) : NoLap budget (t :: ts) := by
  rcases h with ⟨hbudget, h⟩ | h
  · obtain ⟨ds, hds⟩ := ticks_append ts ts'
    refine .inl ⟨hbudget, fun d hd => h d ?_⟩
    rw [List.tail_cons, hds]
    exact List.mem_append_left ds hd
  · obtain ⟨ds, hds⟩ := ticks_append (t :: ts) ts'
    rw [List.cons_append] at hds
    rw [hds, List.sum_append] at h
    exact .inr (Nat.lt_of_le_of_lt (Nat.le_add_right ..) h)

/-- Elapsed times add up unless the clock comes round. -/
theorem toNat_sub_add {t₀ t t' : UInt32} (h : (t - t₀).toNat + (t' - t).toNat < 2 ^ 32) :
    (t' - t₀).toNat = (t - t₀).toNat + (t' - t).toNat := by
  have hadd : t' - t₀ = (t - t₀) + (t' - t) := by grind
  rw [hadd, UInt32.toNat_add]
  exact Nat.mod_eq_of_lt h

/-- Between two readings the clock advances, and not so far that the elapsed time wraps. -/
abbrev Advances (t₀ t t' : UInt32) : Prop :=
  1 ≤ (t' - t).toNat ∧ (t - t₀).toNat + (t' - t).toNat < 2 ^ 32

/-- Each reading adds at least one to the elapsed time. -/
theorem length_le_elapsed {t₀ t : UInt32} {ts : List UInt32} (h : (t :: ts).IsChain (Advances t₀)) :
    (t - t₀).toNat + ts.length ≤ ((t :: ts).getLast (List.cons_ne_nil t ts) - t₀).toNat := by
  induction ts generalizing t with
  | nil => exact Nat.le_refl _
  | cons t' ts ih =>
      obtain ⟨⟨hone, hlap⟩, htail⟩ := List.isChain_cons_cons.mp h
      have hadd := toNat_sub_add hlap
      have hlast := ih htail
      rw [List.getLast_cons (List.cons_ne_nil t' ts), List.length_cons]
      omega

/-- Readings within a budget of less than half a round, each less than half a round later. -/
theorem isChain_of_lt {t₀ t : UInt32} {ts : List UInt32} {budget : Nat} (hbudget : budget < 2 ^ 31)
    (hin : ∀ x ∈ t :: ts, (x - t₀).toNat < budget) (hone : ∀ d ∈ ticks (t :: ts), 1 ≤ d)
    (hlap : ∀ d ∈ ticks (t :: ts), d < 2 ^ 31) : (t :: ts).IsChain (Advances t₀) := by
  induction ts generalizing t with
  | nil => exact List.isChain_singleton t
  | cons t' ts ih =>
      have ht := hin t (by simp)
      have hd := hlap (t' - t).toNat (by simp [ticks])
      refine List.isChain_cons_cons.mpr ⟨⟨hone _ (by simp [ticks]), by omega⟩, ih ?_ ?_ ?_⟩
      · exact fun x hx => hin x (List.mem_cons_of_mem t hx)
      · exact fun d hd => hone d (List.mem_cons_of_mem _ hd)
      · exact fun d hd => hlap d (List.mem_cons_of_mem _ hd)

/-- Readings that altogether stay within one round. -/
theorem isChain_of_sum {t₀ t : UInt32} {ts : List UInt32} (hone : ∀ d ∈ ticks (t :: ts), 1 ≤ d)
    (hsum : (t - t₀).toNat + (ticks (t :: ts)).sum < 2 ^ 32) : (t :: ts).IsChain (Advances t₀) := by
  induction ts generalizing t with
  | nil => exact List.isChain_singleton t
  | cons t' ts ih =>
      rw [ticks, List.sum_cons] at hsum
      have hlap : (t - t₀).toNat + (t' - t).toNat < 2 ^ 32 := by omega
      have hadd := toNat_sub_add hlap
      refine List.isChain_cons_cons.mpr ⟨⟨hone _ (by simp [ticks]), hlap⟩, ih ?_ (by omega)⟩
      exact fun d hd => hone d (List.mem_cons_of_mem _ hd)

/-- A loop that reads the clock at every pass and goes on while the budget lasts makes at most as many
passes as the budget has ticks. -/
theorem length_le_of_noLap {t₀ : UInt32} {ts : List UInt32} {budget : Nat}
    (hin : ∀ x ∈ ts, (x - t₀).toNat < budget) (hone : ∀ d ∈ ticks ts, 1 ≤ d)
    (hlap : NoLap budget (t₀ :: ts)) : ts.length ≤ budget := by
  cases ts with
  | nil => exact Nat.zero_le budget
  | cons t ts =>
      have hchain : (t :: ts).IsChain (Advances t₀) := by
        rcases hlap with ⟨hbudget, hlap⟩ | hsum
        · exact isChain_of_lt hbudget hin hone hlap
        · rw [ticks, List.sum_cons] at hsum
          exact isChain_of_sum hone (by omega)
      have hlen := length_le_elapsed hchain
      have hlast := hin _ (List.getLast_mem (List.cons_ne_nil t ts))
      rw [List.length_cons]
      omega

/-- The first of the readings `us` is the start, and the `n` after it are within the budget. -/
def WithinBudget (budget : Nat) (us : List UInt32) (n : Nat) : Prop :=
  ∃ ts ts', us.tail = ts ++ ts' ∧ ts.length = n ∧
    ∀ t₀, us.head? = some t₀ → ∀ t ∈ ts, (t - t₀).toNat < budget

theorem withinBudget_zero (budget : Nat) (us : List UInt32) : WithinBudget budget us 0 :=
  ⟨[], us.tail, rfl, rfl, by simp⟩

theorem withinBudget_cons {budget : Nat} {t₀ : UInt32} {ts : List UInt32} (ts' : List UInt32)
    (h : ∀ t ∈ ts, (t - t₀).toNat < budget) : WithinBudget budget (t₀ :: (ts ++ ts')) ts.length := by
  refine ⟨ts, ts', rfl, rfl, fun t ht => ?_⟩
  obtain rfl : t₀ = t := by simpa using ht
  exact h

/-- There are at most as many of these as the budget has ticks. -/
theorem WithinBudget.le {budget n : Nat} {us : List UInt32} (h : WithinBudget budget us n)
    (hone : ∀ d ∈ ticks us.tail, 1 ≤ d) (hlap : NoLap budget us) : n ≤ budget := by
  obtain ⟨ts, ts', htail, rfl, hin⟩ := h
  cases us with
  | nil =>
      obtain ⟨rfl, -⟩ : ts = [] ∧ ts' = [] := by simpa using htail
      exact Nat.zero_le budget
  | cons t₀ us =>
      rw [List.tail_cons] at htail hone
      rw [htail] at hlap hone
      obtain ⟨ds, hds⟩ := ticks_append ts ts'
      refine length_le_of_noLap (hin t₀ rfl) (fun d hd => hone d ?_) hlap.of_append
      rw [hds]
      exact List.mem_append_left ds hd

/-! ## What comes right after what -/

/-- In a history, events of the sort `B` come right after those of the sort `A`, and only there. -/
def Paired {ε : Type w} (A B : ε → Prop) (tr : List ε) : Prop :=
  (∀ e, tr.head? = some e → ¬ B e) ∧ tr.IsChain fun e e' => A e ↔ B e'

namespace Machine

variable {σ : Type u} {ι : Type v} {ε : Type w} {M : Machine σ ι ε} {A B : ε → Prop} {W : σ → Prop}
  {s s' : σ} {tr : List ε}

/-- Events are paired if those of the sort `A` are the ones that lead into `W`, and those of the
sort `B` the ones that are made from there. -/
theorem Run.paired (r : M.Run s tr s') (h0 : ¬ W s)
    (hstep : ∀ t i t' e, M.step t i = some (t', e) → (A e ↔ W t') ∧ (B e ↔ W t)) :
    Paired A B tr ∧ ((∃ e, tr.getLast? = some e ∧ A e) ↔ W s') := by
  induction r with
  | nil => exact ⟨⟨by simp, List.isChain_nil⟩, by simpa using h0⟩
  | @snoc tr t t' i e hr _ hs ih =>
      obtain ⟨⟨hhead, hchain⟩, hlast⟩ := ih
      obtain ⟨hA, hB⟩ := hstep _ _ _ _ hs
      refine ⟨⟨?_, List.isChain_append.mpr ⟨hchain, List.isChain_singleton e, ?_⟩⟩, by simpa using hA⟩
      · intro e' he'
        cases hr with
        | nil =>
            obtain rfl : e = e' := by simpa using he'
            exact fun hb => h0 (hB.mp hb)
        | snoc => exact hhead e' (by simpa using he')
      · rintro e₁ he₁ e₂ he₂
        obtain rfl : e = e₂ := by simpa using he₂
        have hiff : A e₁ ↔ ∃ e, tr.getLast? = some e ∧ A e :=
          ⟨fun h => ⟨e₁, he₁, h⟩, fun ⟨e', he', h⟩ => by
            obtain rfl : e₁ = e' := Option.some.inj (he₁.symm.trans he')
            exact h⟩
        exact hiff.trans (hlast.trans hB.symm)

end Machine

end Cc3501eBridge
