import Cc3501eBridge.Lib.Bytes

/-!
# Programs that read a memory

`Fetch β α` are the programs that read cells of a memory `Nat → β`, each address depending on what
was read before, and return an `α`.  Written this way a program tells, beside its value (`run`),
which cells it looks at (`touched`), and its value depends on these cells alone (`run_congr`).

`Within n` says that a program stays below the address `n`.  The rules of that name follow the
program's text; a program within `n` cannot tell two memories apart that agree below `n`.
-/

universe u v

namespace Cc3501eBridge

/-- A program that reads cells of type `β`. -/
inductive Fetch (β : Type u) (α : Type v)
  | done (a : α)
  | read (i : Nat) (k : β → Fetch β α)

namespace Fetch

variable {β : Type u} {α γ : Type v} {m m' : Nat → β} {p : Fetch β α} {n : Nat}

/-- The value on the memory `m`. -/
def run (m : Nat → β) : Fetch β α → α
  | done a => a
  | read i k => (k (m i)).run m

/-- The addresses read on the memory `m`, in order. -/
def touched (m : Nat → β) : Fetch β α → List Nat
  | done _ => []
  | read i k => i :: (k (m i)).touched m

/-- One program after another. -/
def andThen : Fetch β α → (α → Fetch β γ) → Fetch β γ
  | done a, f => f a
  | read i k, f => read i fun b => (k b).andThen f

instance : Monad (Fetch β) where
  pure := done
  bind := andThen

/-- Read one cell. -/
def cell (i : Nat) : Fetch β β := read i done

/-- Read `n` cells from `off` on. -/
def span (off : Nat) : Nat → Fetch β (List β)
  | 0 => pure []
  | n + 1 => do
      let bs ← span off n
      let b ← cell (off + n)
      return bs ++ [b]

@[simp] theorem run_pure (a : α) : (pure a : Fetch β α).run m = a := rfl

@[simp] theorem run_bind (p : Fetch β α) (f : α → Fetch β γ) :
    (p >>= f).run m = (f (p.run m)).run m := by
  induction p with
  | done a => rfl
  | read i k ih => exact ih (m i)

@[simp] theorem run_cell (i : Nat) : (cell i).run m = m i := rfl

theorem run_span (off n : Nat) :
    (span off n).run m = (List.range n).map fun i => m (off + i) := by
  induction n with
  | zero => rfl
  | succ n ih => simp [span, ih, List.range_succ]

@[simp] theorem touched_bind (p : Fetch β α) (f : α → Fetch β γ) :
    (p >>= f).touched m = p.touched m ++ (f (p.run m)).touched m := by
  induction p with
  | done a => rfl
  | read i k ih => exact congrArg (i :: ·) (ih (m i))

/-- A program's value, and the addresses it reads, depend on the cells it reads alone. -/
theorem run_congr (h : ∀ i ∈ p.touched m, m i = m' i) :
    p.run m = p.run m' ∧ p.touched m = p.touched m' := by
  induction p with
  | done a => exact ⟨rfl, rfl⟩
  | read i k ih =>
      have hi : m i = m' i := h i (List.mem_cons_self ..)
      obtain ⟨hrun, htouched⟩ := ih (m i) fun j hj => h j (List.mem_cons_of_mem _ hj)
      simp only [run, touched, ← hi]
      exact ⟨hrun, congrArg (i :: ·) htouched⟩

/-- On the memory `m` the program reads below `n` only. -/
def Within (n : Nat) (m : Nat → β) (p : Fetch β α) : Prop := ∀ i ∈ p.touched m, i < n

theorem Within.pure (a : α) : Within n m (pure a : Fetch β α) := nofun

theorem Within.cell {i : Nat} (h : i < n) : Within n m (cell i) := by
  simpa [Within, Fetch.cell, touched] using h

theorem Within.bind {f : α → Fetch β γ} (h : Within n m p) (hf : Within n m (f (p.run m))) :
    Within n m (p >>= f) := by
  intro i hi
  rw [touched_bind, List.mem_append] at hi
  exact hi.elim (h i) (hf i)

theorem Within.span {off k : Nat} (h : off + k ≤ n) : Within n m (span off k) := by
  induction k with
  | zero => exact .pure _
  | succ k ih => exact (ih (by omega)).bind ((Within.cell (by omega)).bind (.pure _))

/-- A program within `n` cannot tell two memories apart that agree below `n`. -/
theorem Within.run_eq (h : Within n m p) (hm : ∀ i < n, m i = m' i) : p.run m = p.run m' :=
  (run_congr fun i hi => hm i (h i hi)).1

end Fetch

end Cc3501eBridge
