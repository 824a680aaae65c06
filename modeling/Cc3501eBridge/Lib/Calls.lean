import Mathlib.Data.List.Basic

/-!
# Programs that call out

A program that works by calling something it does not contain, a driver or a store, is modelled with
a log of its calls.  What a call returns is up to an oracle that sees the log so far, so that a
theorem for all oracles is one for every behaviour of what is called.

`Makes m P` is the triple for such programs: from any log, `m` appends some calls, and `P` holds of
its result and of these.  The rules follow the program: one for `pure`, one for a call, one for
sequencing.

`Covers off ws bytes` is for programs that write a stream piece by piece: the pieces have
consecutive offsets from `off` on, and together they are `bytes`. -/

universe u

namespace Cc3501eBridge

/-- A program with calls of type `γ`. -/
abbrev Calls (γ : Type u) := StateM (List γ)

namespace Calls

variable {γ : Type u} {ρ α β : Type u}

/-- Make a call: it is logged, and the oracle answers. -/
def call (O : List γ → γ → ρ) (c : γ) : Calls γ ρ := fun log => (O log c, log ++ [c])

/-- From any log, `m` appends calls such that `P` holds of its result and of them. -/
def Makes (m : Calls γ α) (P : α → List γ → Prop) : Prop :=
  ∀ log, ∃ cs, (m log).2 = log ++ cs ∧ P (m log).1 cs

variable {m : Calls γ α} {f : α → Calls γ β} {P P' : α → List γ → Prop} {Q : β → List γ → Prop}

theorem Makes.pure {a : α} (h : P a []) : Makes (Pure.pure a : Calls γ α) P :=
  fun log => ⟨[], (List.append_nil log).symm, h⟩

theorem Makes.bind (hm : Makes m P)
    (hf : ∀ a cs, P a cs → Makes (f a) fun b cs' => Q b (cs ++ cs')) : Makes (m >>= f) Q := by
  intro log
  obtain ⟨cs, hlog, hP⟩ := hm log
  obtain ⟨cs', hlog', hQ⟩ := hf _ _ hP (m log).2
  refine ⟨cs ++ cs', ?_, hQ⟩
  rw [← List.append_assoc, ← hlog]
  exact hlog'

/-- A call whose answers are known to satisfy `S`. -/
theorem Makes.answered {O : List γ → γ → ρ} {c : γ} {f : ρ → Calls γ β} {S : ρ → Prop}
    (hS : ∀ log, S (O log c)) (hf : ∀ r, S r → Makes (f r) fun b cs => Q b (c :: cs)) :
    Makes (Calls.call O c >>= f) Q := by
  intro log
  obtain ⟨cs, hlog, hQ⟩ := hf (O log c) (hS log) (log ++ [c])
  refine ⟨c :: cs, ?_, hQ⟩
  rw [← List.append_cons] at hlog
  exact hlog

/-- A call, and what follows it. -/
theorem Makes.call {O : List γ → γ → ρ} {c : γ} {f : ρ → Calls γ β}
    (hf : ∀ r, Makes (f r) fun b cs => Q b (c :: cs)) : Makes (Calls.call O c >>= f) Q :=
  .answered (S := fun _ => True) (fun _ => trivial) fun r _ => hf r

theorem Makes.mono (hm : Makes m P) (h : ∀ a cs, P a cs → P' a cs) : Makes m P' := by
  intro log
  obtain ⟨cs, hlog, hP⟩ := hm log
  exact ⟨cs, hlog, h _ _ hP⟩

theorem Makes.ite {c : Prop} [Decidable c] {m' : Calls γ α} (ht : c → Makes m P)
    (he : ¬ c → Makes m' P) : Makes (if c then m else m') P := by
  split_ifs with h
  · exact ht h
  · exact he h

/-- What is made from an empty log. -/
theorem Makes.run (h : Makes m P) : P (m []).1 (m []).2 := by
  obtain ⟨cs, hlog, hP⟩ := h []
  rw [hlog]
  exact hP

end Calls

/-! ## Writing a stream piece by piece -/

section

variable {α : Type u}

/-- The pieces `ws` have consecutive offsets from `off` on and make up `bytes`. -/
def Covers : Nat → List (Nat × List α) → List α → Prop
  | _, [], bytes => bytes = []
  | off, w :: ws, bytes =>
      w.1 = off ∧ ∃ rest, bytes = w.2 ++ rest ∧ Covers (off + w.2.length) ws rest

theorem Covers.append {ws ws' : List (Nat × List α)} {bytes bytes' : List α} {off : Nat}
    (h : Covers off ws bytes) (h' : Covers (off + bytes.length) ws' bytes') :
    Covers off (ws ++ ws') (bytes ++ bytes') := by
  induction ws generalizing off bytes with
  | nil =>
      obtain rfl : bytes = [] := h
      exact h'
  | cons w ws ih =>
      obtain ⟨hw, rest, rfl, hrest⟩ := h
      refine ⟨hw, rest ++ bytes', List.append_assoc .., ih hrest ?_⟩
      rwa [List.length_append, ← Nat.add_assoc] at h'

/-- One more piece at the front. -/
theorem Covers.cons {ws : List (Nat × List α)} {piece bytes : List α} {off : Nat}
    (h : Covers (off + piece.length) ws bytes) : Covers off ((off, piece) :: ws) (piece ++ bytes) :=
  ⟨rfl, bytes, rfl, h⟩

end

end Cc3501eBridge
