import Cc3501eBridge.Lib.Trace

/-!
# One execution per run of equal requests

A server numbers the jobs it accepts.  Each job is submitted under a key, and some events *separate*
the requests of a key from the later ones.  The server executes at most one job of a key between two
separating events if it keeps the outcome of an executed job at hand until a separating event
arrives, and accepts no further job of that key while it does.

`Spaced` is the invariant behind that argument, relative to a predicate `held` that says of which
jobs the present state still has the outcome.  A server establishes it with `Spaced.nil` and
`Spaced.snoc`, and reads the result off with `Spaced.unique`.
-/

universe w x

namespace Cc3501eBridge

namespace Trace

/-- Which events submit job `t` under key `k`, execute job `t`, and separate the requests of `k`. -/
structure JobEvents (ε : Type w) (κ : Type x) where
  submit : Nat → κ → ε → Prop
  exec : Nat → ε → Prop
  separate : κ → ε → Prop

variable {ε : Type w} {κ : Type x} {J : JobEvents ε κ} {held held' : Nat → κ → Prop} {tr : List ε}
  {e : ε}

/-- Two jobs of a key, the first of them executed, have a separating event between their
submissions. -/
structure Spaced (J : JobEvents ε κ) (held : Nat → κ → Prop) (tr : List ε) : Prop where
  /-- The outcome of an executed job is held until a separating event. -/
  covered : ∀ t k i x, At (J.exec t) tr x → At (J.submit t k) tr i →
    held t k ∨ ∃ j, i < j ∧ At (J.separate k) tr j
  spaced : ∀ t₁ t₂ k i₁ i₂ x, t₁ < t₂ → At (J.exec t₁) tr x → At (J.submit t₁ k) tr i₁ →
    At (J.submit t₂ k) tr i₂ → ∃ j, i₁ < j ∧ j < i₂ ∧ At (J.separate k) tr j

namespace Spaced

theorem nil : Spaced J held [] where
  covered _ _ _ _ h := absurd h not_at_nil
  spaced _ _ _ _ _ _ _ h := absurd h not_at_nil

/-- One more event.  `n` is the number of the next job. -/
theorem snoc {n : Nat} (h : Spaced J held tr)
    (hsub : ∀ t k i, At (J.submit t k) tr i → t < n)
    (hexe : ∀ t x, At (J.exec t) tr x → t < n)
    (hsubmit : ∀ t k, J.submit t k e → t = n ∧ ∀ t', ¬ held t' k)
    (hexec : ∀ t, J.exec t e →
      t + 1 = n ∧ (∀ t' k, ¬ J.submit t' k e) ∧ ∀ k i, At (J.submit t k) tr i → held' t k)
    (hheld : ∀ t k, held t k → held' t k ∨ J.separate k e) : Spaced J held' (tr ++ [e]) := by
  constructor
  · intro t k i x hx hi
    rcases at_snoc.mp hx with hx | ⟨-, hx⟩
    · rcases at_snoc.mp hi with hi | ⟨-, hi⟩
      · rcases h.covered t k i x hx hi with hh | ⟨j, hij, hj⟩
        · rcases hheld t k hh with hh | hs
          · exact .inl hh
          · exact .inr ⟨tr.length, hi.lt, at_last hs⟩
        · exact .inr ⟨j, hij, hj.snoc⟩
      · obtain ⟨rfl, -⟩ := hsubmit t k hi
        exact absurd (hexe _ x hx) (Nat.lt_irrefl _)
    · obtain ⟨-, hno, hh⟩ := hexec t hx
      rcases at_snoc.mp hi with hi | ⟨-, hi⟩
      · exact .inl (hh k i hi)
      · exact absurd hi (hno t k)
  · intro t₁ t₂ k i₁ i₂ x hlt hx h₁ h₂
    rcases at_snoc.mp h₂ with h₂ | ⟨hi₂, h₂⟩
    · -- the later job was submitted before this event, so the earlier one was executed before it
      have ht₂ : t₂ < n := hsub t₂ k i₂ h₂
      rcases at_snoc.mp h₁ with h₁ | ⟨-, h₁⟩
      · rcases at_snoc.mp hx with hx | ⟨-, hx⟩
        · obtain ⟨j, hj₁, hj₂, hj⟩ := h.spaced t₁ t₂ k i₁ i₂ x hlt hx h₁ h₂
          exact ⟨j, hj₁, hj₂, hj.snoc⟩
        · obtain ⟨hn, -⟩ := hexec t₁ hx
          omega
      · obtain ⟨rfl, -⟩ := hsubmit t₁ k h₁
        omega
    · -- the later job is submitted by this event: nothing of its key is held
      obtain ⟨rfl, hnone⟩ := hsubmit t₂ k h₂
      rcases at_snoc.mp h₁ with h₁ | ⟨-, h₁⟩
      · rcases at_snoc.mp hx with hx | ⟨-, hx⟩
        · rcases h.covered t₁ k i₁ x hx h₁ with hh | ⟨j, hij, hj⟩
          · exact absurd hh (hnone t₁)
          · exact ⟨j, hij, hi₂ ▸ hj.lt, hj.snoc⟩
        · exact absurd h₂ ((hexec t₁ hx).2.1 t₂ k)
      · obtain ⟨rfl, -⟩ := hsubmit t₁ k h₁
        omega

/-- Between separating events at most one job of a key is executed. -/
theorem unique {a b t₁ t₂ i₁ i₂ x₁ x₂ : Nat} {k : κ} (h : Spaced J held tr)
    (hno : ∀ j, a ≤ j → j < b → ¬ At (J.separate k) tr j)
    (h₁ : At (J.submit t₁ k) tr i₁) (h₂ : At (J.submit t₂ k) tr i₂)
    (ha₁ : a ≤ i₁) (hb₁ : i₁ < b) (ha₂ : a ≤ i₂) (hb₂ : i₂ < b)
    (hx₁ : At (J.exec t₁) tr x₁) (hx₂ : At (J.exec t₂) tr x₂) : t₁ = t₂ := by
  rcases Nat.lt_trichotomy t₁ t₂ with hlt | rfl | hlt
  · obtain ⟨j, hj₁, hj₂, hj⟩ := h.spaced t₁ t₂ k i₁ i₂ x₁ hlt hx₁ h₁ h₂
    exact absurd hj (hno j (by omega) (by omega))
  · rfl
  · obtain ⟨j, hj₁, hj₂, hj⟩ := h.spaced t₂ t₁ k i₂ i₁ x₂ hlt hx₂ h₂ h₁
    exact absurd hj (hno j (by omega) (by omega))

end Spaced

end Trace

end Cc3501eBridge
