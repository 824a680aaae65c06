import Mathlib.Data.List.Induction
import Mathlib.Order.Basic

/-!
# Runs of a stepping machine and their histories

A machine is a partial step function: a state and an input either are refused or yield the next
state and one observable event.  A *run* collects the events in order; since the machine decides
nothing by itself about which input comes next, quantifying over runs quantifies over every
schedule.

`RunIf G` are the runs all of whose inputs satisfy the guard `G` in the state they meet, and `Run`
the unguarded ones.  The invariant rules let a predicate depend on the whole history, not only on
the state: most statements about a protocol ("the most recent execution", "nothing happened in
between") are of that kind.

A guard sees the state only; where it has to look at the history too, `withHistory` is the machine
whose states carry it.

The second half is a small vocabulary for histories: the latest event of a sort (`latest`), one with
none of another sort after it (`Since`), and histories in which each event is justified by those
before it (`Justified`).
-/

universe u v w x

namespace Cc3501eBridge

/-- A machine with inputs `ι`, observable events `ε` and states `σ`. -/
structure Machine (σ : Type u) (ι : Type v) (ε : Type w) where
  step : σ → ι → Option (σ × ε)

namespace Machine

variable {σ : Type u} {ι : Type v} {ε : Type w} {M : Machine σ ι ε} {G : σ → ι → Prop}
  {s s' s'' : σ} {tr tr' : List ε}

/-- `M.RunIf G s tr s'`: the machine goes from `s` to `s'` with the events `tr`, every input
meeting the guard in the state where it is given. -/
inductive RunIf (M : Machine σ ι ε) (G : σ → ι → Prop) (s : σ) : List ε → σ → Prop
  | nil : RunIf M G s [] s
  | snoc {tr : List ε} {s' s'' : σ} {i : ι} {e : ε} :
      RunIf M G s tr s' → G s' i → M.step s' i = some (s'', e) → RunIf M G s (tr ++ [e]) s''

/-- The runs of a machine, under every schedule. -/
def Run (M : Machine σ ι ε) : σ → List ε → σ → Prop := M.RunIf fun _ _ => True

/-- Weakening the guard keeps a run a run. -/
theorem RunIf.mono {G' : σ → ι → Prop} (h : ∀ s i, G s i → G' s i) (r : M.RunIf G s tr s') :
    M.RunIf G' s tr s' := by
  induction r with
  | nil => exact .nil
  | snoc _ hg hs ih => exact ih.snoc (h _ _ hg) hs

theorem RunIf.run (r : M.RunIf G s tr s') : M.Run s tr s' := r.mono fun _ _ _ => trivial

theorem Run.snoc {i : ι} {e : ε} (r : M.Run s tr s') (hs : M.step s' i = some (s'', e)) :
    M.Run s (tr ++ [e]) s'' := RunIf.snoc r trivial hs

/-- Runs compose. -/
theorem RunIf.append (r : M.RunIf G s tr s') (r' : M.RunIf G s' tr' s'') :
    M.RunIf G s (tr ++ tr') s'' := by
  induction r' with
  | nil => simpa using r
  | snoc _ hg hs ih => rw [← List.append_assoc]; exact ih.snoc hg hs

/-- What holds at the start and survives every guarded step holds throughout, with its history. -/
theorem RunIf.invariant {P : List ε → σ → Prop} (r : M.RunIf G s tr s') (h0 : P [] s)
    (hstep : ∀ tr t i t' e, P tr t → G t i → M.step t i = some (t', e) → P (tr ++ [e]) t') :
    P tr s' := by
  induction r with
  | nil => exact h0
  | snoc _ hg hs ih => exact hstep _ _ _ _ _ ih hg hs

/-- The invariant rule for unguarded runs. -/
theorem Run.invariant {P : List ε → σ → Prop} (r : M.Run s tr s') (h0 : P [] s)
    (hstep : ∀ tr t i t' e, P tr t → M.step t i = some (t', e) → P (tr ++ [e]) t') :
    P tr s' :=
  RunIf.invariant r h0 fun tr t i t' e hp _ hs => hstep tr t i t' e hp hs

/-- The machine whose states carry the history. -/
def withHistory (M : Machine σ ι ε) : Machine (σ × List ε) ι ε where
  step h i := (M.step h.1 i).map fun r => ((r.1, h.2 ++ [r.2]), r.2)

/-- The invariant rule for guards that look at the history. -/
theorem RunIf.invariant_withHistory {G : σ × List ε → ι → Prop} {P : List ε → σ → Prop}
    {h : σ × List ε} (r : M.withHistory.RunIf G (s, []) tr h) (h0 : P [] s)
    (hstep : ∀ tr t i t' e, P tr t → G (t, tr) i → M.step t i = some (t', e) → P (tr ++ [e]) t') :
    P tr h.1 := by
  have hkept : h.2 = tr ∧ P tr h.1 := by
    refine r.invariant (P := fun tr h => h.2 = tr ∧ P tr h.1) ⟨rfl, h0⟩ ?_
    rintro tr ⟨t, _⟩ i h' e ⟨rfl, hp⟩ hg hs
    obtain ⟨⟨t', e'⟩, hs', heq⟩ := Option.map_eq_some_iff.mp hs
    obtain ⟨rfl, rfl⟩ := Prod.mk.inj heq
    exact ⟨rfl, hstep _ t i t' e' hp hg hs'⟩
  exact hkept.2

/-- Such a run is one of the machine. -/
theorem RunIf.run_withHistory {G : σ × List ε → ι → Prop} {h : σ × List ε}
    (r : M.withHistory.RunIf G (s, []) tr h) : M.Run s tr h.1 :=
  r.invariant_withHistory (P := fun tr t => M.Run s tr t) .nil fun _ _ _ _ _ hr _ hs => hr.snoc hs

/-- Every event of a run is the event of one step, taken after the events before it. -/
theorem RunIf.step_at (r : M.RunIf G s tr s') {k : Nat} {e : ε} (h : tr[k]? = some e) :
    ∃ t i t', M.RunIf G s (tr.take k) t ∧ G t i ∧ M.step t i = some (t', e) := by
  induction r with
  | nil => simp at h
  | @snoc tr t t' i e' hr hg hs ih =>
      rcases Nat.lt_trichotomy k tr.length with hk | rfl | hk
      · rw [List.getElem?_append_left hk] at h
        rw [List.take_append_of_le_length (Nat.le_of_lt hk)]
        exact ih h
      · obtain rfl : e' = e := by simpa using h
        rw [List.take_left]
        exact ⟨t, i, t', hr, hg, hs⟩
      · have hl : (tr ++ [e']).length ≤ k := by simpa using Nat.succ_le_of_lt hk
        simp [List.getElem?_eq_none hl] at h

/-- Feed a list of inputs. -/
def exec (M : Machine σ ι ε) : σ → List ι → Option (σ × List ε)
  | s, [] => some (s, [])
  | s, i :: is => do
      let (s', e) ← M.step s i
      let (s'', es) ← M.exec s' is
      return (s'', e :: es)

/-- An evaluation is a run. -/
theorem run_of_exec {is : List ι} (h : M.exec s is = some (s', tr)) : M.Run s tr s' := by
  induction is generalizing s tr with
  | nil =>
      obtain ⟨rfl, rfl⟩ : s = s' ∧ [] = tr := by simpa [exec] using h
      exact .nil
  | cons i is ih =>
      simp only [exec, Option.bind_eq_bind, Option.bind_eq_some_iff, Prod.exists, Option.pure_def,
        Option.some.injEq, Prod.mk.injEq] at h
      obtain ⟨m, e, hs, m', es, he, rfl, rfl⟩ := h
      exact RunIf.append (RunIf.snoc .nil trivial hs : M.RunIf _ s [e] m) (ih he)

/-- The events of an evaluation are the events of a run. -/
theorem exists_run_of_exec {is : List ι} (h : (M.exec s is).map Prod.snd = some tr) :
    ∃ s', M.Run s tr s' := by
  obtain ⟨⟨s', tr'⟩, he, rfl⟩ := Option.map_eq_some_iff.mp h
  exact ⟨s', run_of_exec he⟩

theorem exec_cons_events {i : ι} {is : List ι} {e : ε} (h : M.step s i = some (s', e)) :
    (M.exec s (i :: is)).map Prod.snd = ((M.exec s' is).map Prod.snd).map (e :: ·) := by
  simp only [exec, h, Option.bind_eq_bind, Option.bind_some]
  cases M.exec s' is <;> rfl

/-- Two states show the same events on every list of inputs from `A` if a relation between them is
kept by such inputs, which both accept with the same event or both refuse. -/
theorem exec_events_eq {R : σ → σ → Prop} {A : ι → Prop}
    (hstep : ∀ s t i, R s t → A i → (M.step s i = none ∧ M.step t i = none) ∨
      ∃ s' t' e, M.step s i = some (s', e) ∧ M.step t i = some (t', e) ∧ R s' t')
    {is : List ι} (his : ∀ i ∈ is, A i) {t : σ} (h : R s t) :
    (M.exec s is).map Prod.snd = (M.exec t is).map Prod.snd := by
  induction is generalizing s t with
  | nil => rfl
  | cons i is ih =>
      have hi := his i (List.mem_cons_self ..)
      rcases hstep s t i h hi with ⟨hs, ht⟩ | ⟨s', t', e, hs, ht, h'⟩
      · simp [exec, hs, ht]
      · rw [exec_cons_events hs, exec_cons_events ht,
          ih (fun j hj => his j (List.mem_cons_of_mem _ hj)) h']

/-- Feed a list of inputs as long as they meet the guard. -/
def execIf (M : Machine σ ι ε) (G : σ → ι → Prop) [∀ s i, Decidable (G s i)] :
    σ → List ι → Option (σ × List ε)
  | s, [] => some (s, [])
  | s, i :: is =>
      if G s i then do
        let (s', e) ← M.step s i
        let (s'', es) ← M.execIf G s' is
        return (s'', e :: es)
      else none

/-- A guarded evaluation is a guarded run. -/
theorem runIf_of_execIf [∀ s i, Decidable (G s i)] {is : List ι}
    (h : M.execIf G s is = some (s', tr)) : M.RunIf G s tr s' := by
  induction is generalizing s tr with
  | nil =>
      obtain ⟨rfl, rfl⟩ : s = s' ∧ [] = tr := by simpa [execIf] using h
      exact .nil
  | cons i is ih =>
      rw [execIf] at h
      split_ifs at h with hg
      simp only [Option.bind_eq_bind, Option.bind_eq_some_iff, Prod.exists, Option.pure_def,
        Option.some.injEq, Prod.mk.injEq] at h
      obtain ⟨m, e, hs, m', es, he, rfl, rfl⟩ := h
      exact RunIf.append (RunIf.snoc .nil hg hs : M.RunIf G s [e] m) (ih he)

end Machine

/-! ## Histories -/

namespace Trace

variable {ε : Type w} {α : Type x} {p q : ε → Prop} {f : ε → Option α} {tr tr' : List ε} {e : ε}

/-- The value of the last event on which `f` is defined. -/
def latest (f : ε → Option α) (tr : List ε) : Option α :=
  tr.foldl (fun acc e => (f e).or acc) none

@[simp] theorem latest_nil : latest f [] = none := rfl

@[simp] theorem latest_snoc : latest f (tr ++ [e]) = (f e).or (latest f tr) := by
  simp [latest, List.foldl_append]

/-- The latest event of a sort is one of the history's events. -/
theorem exists_mem_of_latest {a : α} (h : latest f tr = some a) : ∃ e ∈ tr, f e = some a := by
  induction tr using List.reverseRecOn with
  | nil => simp at h
  | append_singleton tr e ih =>
      rw [latest_snoc] at h
      cases hf : f e with
      | none =>
          obtain ⟨e', he', hfe'⟩ := ih (by simpa [hf] using h)
          exact ⟨e', List.mem_append_left _ he', hfe'⟩
      | some b =>
          obtain rfl : b = a := by simpa [hf] using h
          exact ⟨e, by simp, hf⟩

/-- `At p tr i`: event number `i` of the history satisfies `p`. -/
def At (p : ε → Prop) (tr : List ε) (i : Nat) : Prop := ∃ e, tr[i]? = some e ∧ p e

theorem At.lt {i : Nat} (h : At p tr i) : i < tr.length := by
  obtain ⟨e, he, -⟩ := h
  exact (List.getElem?_eq_some_iff.mp he).1

theorem At.mono {i : Nat} (h : At p tr i) (hpq : ∀ e, p e → q e) : At q tr i := by
  obtain ⟨e, he, hp⟩ := h
  exact ⟨e, he, hpq e hp⟩

@[simp] theorem not_at_nil {i : Nat} : ¬ At p [] i := by
  rintro ⟨e, he, -⟩
  simp at he

/-- The events of an extended history are the old ones and the new one. -/
theorem at_snoc {i : Nat} : At p (tr ++ [e]) i ↔ At p tr i ∨ i = tr.length ∧ p e := by
  unfold At
  rcases Nat.lt_trichotomy i tr.length with h | rfl | h
  · simp [List.getElem?_append_left h, Nat.ne_of_lt h]
  · simp
  · have : ¬ i < tr.length := by omega
    simp [List.getElem?_append_right (Nat.le_of_lt h), show i ≠ tr.length by omega,
      show i - tr.length ≠ 0 by omega, this]

theorem At.snoc {i : Nat} (h : At p tr i) : At p (tr ++ [e]) i := at_snoc.mpr (.inl h)

theorem at_last (h : p e) : At p (tr ++ [e]) tr.length := at_snoc.mpr (.inr ⟨rfl, h⟩)

/-- `Since p q tr`: an event with `p`, and none with `q` after it. -/
def Since (p q : ε → Prop) (tr : List ε) : Prop := ∃ i, At p tr i ∧ ∀ m, i < m → ¬ At q tr m

@[simp] theorem not_since_nil : ¬ Since p q [] := by
  rintro ⟨i, hi, -⟩
  exact not_at_nil hi

/-- What a new event does to it. -/
theorem since_snoc : Since p q (tr ++ [e]) ↔ p e ∨ Since p q tr ∧ ¬ q e := by
  constructor
  · rintro ⟨i, hi, hq⟩
    rcases at_snoc.mp hi with hi | ⟨-, hp⟩
    · refine .inr ⟨⟨i, hi, fun m hm hat => hq m hm hat.snoc⟩, fun he => ?_⟩
      exact hq _ hi.lt (at_last he)
    · exact .inl hp
  · rintro (hp | ⟨⟨i, hi, hq⟩, he⟩)
    · refine ⟨tr.length, at_last hp, fun m hm hat => ?_⟩
      have := hat.lt
      simp at this
      omega
    · refine ⟨i, hi.snoc, fun m hm hat => ?_⟩
      rcases at_snoc.mp hat with hat | ⟨-, hqe⟩
      · exact hq m hm hat
      · exact he hqe

/-- At most one event of the history satisfies `p`. -/
def Once (p : ε → Prop) (tr : List ε) : Prop := ∀ i j, At p tr i → At p tr j → i = j

@[simp] theorem once_nil : Once p [] := fun _ _ h _ => absurd h not_at_nil

/-- A new event keeps `p` unique if `p` is false of it or of everything before. -/
theorem Once.snoc (h : Once p tr) (hn : p e → ∀ i, ¬ At p tr i) : Once p (tr ++ [e]) := by
  intro i j hi hj
  rw [at_snoc] at hi hj
  rcases hi with hi | ⟨rfl, hi⟩
  · rcases hj with hj | ⟨rfl, hj⟩
    · exact h i j hi hj
    · exact absurd hi (hn hj i)
  · rcases hj with hj | ⟨rfl, hj⟩
    · exact absurd hj (hn hi j)
    · rfl

/-- `Justified J tr`: every event is justified by the ones before it. -/
def Justified (J : List ε → ε → Prop) (tr : List ε) : Prop :=
  ∀ i e, tr[i]? = some e → J (tr.take i) e

theorem justified_nil {J : List ε → ε → Prop} : Justified J [] := by
  intro i e he
  simp at he

/-- A justified event can be added. -/
theorem Justified.snoc {J : List ε → ε → Prop} (h : Justified J tr) (he : J tr e) :
    Justified J (tr ++ [e]) := by
  intro i e' hi
  rcases Nat.lt_trichotomy i tr.length with hlt | rfl | hgt
  · rw [List.getElem?_append_left hlt] at hi
    rw [List.take_append_of_le_length (Nat.le_of_lt hlt)]
    exact h i e' hi
  · obtain rfl : e = e' := by simpa using hi
    rwa [List.take_left]
  · have hlen : (tr ++ [e]).length ≤ i := by simpa using Nat.succ_le_of_lt hgt
    simp [List.getElem?_eq_none hlen] at hi

end Trace

end Cc3501eBridge
