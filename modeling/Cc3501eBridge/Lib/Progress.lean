import Cc3501eBridge.Lib.Trace

/-!
# Progress of a machine

How many steps of one kind a run can take is bounded by a potential: a number that every such step
lowers, that the steps of a second kind raise by at most so much, and that no other step raises.

Kinds of step are often kinds of input.  A labelled machine shows its inputs in its events.
-/

universe u v w

namespace Cc3501eBridge

namespace Machine

variable {σ : Type u} {ι : Type v} {ε : Type w} {M : Machine σ ι ε} {G : σ → ι → Prop}
  {s s' : σ}

/-- The machine whose events show the input too. -/
def labelled (M : Machine σ ι ε) : Machine σ ι (ι × ε) where
  step s i := (M.step s i).map fun x => (x.1, i, x.2)

/-- A labelled step is a step. -/
theorem labelled_step {i : ι} {x : ι × ε} :
    M.labelled.step s i = some (s', x) ↔ M.step s i = some (s', x.2) ∧ x.1 = i := by
  obtain ⟨j, e⟩ := x
  constructor
  · intro h
    obtain ⟨⟨t, e'⟩, hs, heq⟩ := Option.map_eq_some_iff.mp h
    obtain ⟨rfl, hje⟩ := Prod.mk.inj heq
    obtain ⟨rfl, rfl⟩ := Prod.mk.inj hje
    exact ⟨hs, rfl⟩
  · rintro ⟨hs, rfl⟩
    simp only [labelled, hs, Option.map_some]

/-- In a run whose events all satisfy `N`, every `p`-step lowers the potential, the `q`-steps raise
it by at most `k`, and no other step raises it. -/
theorem RunIf.countP_le {Φ : σ → Nat} {p q : ε → Bool} {k : Nat} {N : ε → Prop} {tr : List ε}
    {I : List ε → σ → Prop} (r : M.RunIf G s tr s') (hN : ∀ e ∈ tr, N e) (h0 : I [] s)
    (hstep : ∀ tr t i t' e, I tr t → G t i → M.step t i = some (t', e) → N e →
      I (tr ++ [e]) t' ∧ (Φ t' + (if p e then 1 else 0) ≤ Φ t + (if q e then k else 0))) :
    I tr s' ∧ Φ s' + tr.countP p ≤ Φ s + k * tr.countP q := by
  induction r with
  | nil => exact ⟨h0, by simp⟩
  | @snoc tr t t' i e _ hg hs ih =>
      obtain ⟨hinv, hle⟩ := ih fun e he => hN e (List.mem_append_left _ he)
      obtain ⟨hinv', hpot⟩ := hstep _ _ _ _ _ hinv hg hs (hN e (by simp))
      refine ⟨hinv', ?_⟩
      rw [List.countP_append, List.countP_append, List.countP_singleton, List.countP_singleton,
        Nat.mul_add]
      have hk : k * (if q e then 1 else 0) = if q e then k else 0 := by split_ifs <;> simp
      omega

end Machine

end Cc3501eBridge
