import Cc3501eBridge.Lib.Trace
import Mathlib.Logic.Relation

/-!
# Programs of atomic steps

A task that shares its state with interrupts is a program of atomic steps, `Prog`: it may be
interrupted between any two of them.  `Prog.Holds R I p Q s` is the rule of such programs: started
in `s`, under interrupts that change the state only within `R`, `p` keeps `I` at each of its steps
and ends in `Q`.  It is defined by recursion on the program, so that a proof follows the program, and
it composes along `bind`.

With `R` equality it is about a program that runs without interruption.  Where interrupts write only
the first half of the state, a program on the second half is verified that way and put in its place
by `Holds.task`.

`Tasks` is the machine: interrupts at any time, calls of bodies one after another, and the steps of
the body that is running.  `Tasks.holds_run` and `Tasks.invariant` take the rule to its runs.
-/

universe u v w

namespace Cc3501eBridge

/-- A program of atomic steps on the state `σ`.  A step changes the state, and the rest may depend on
the state that it met. -/
inductive Prog (σ : Type u) (α : Type) where
  | done (a : α)
  | step (f : σ → σ) (k : σ → Prog σ α)

namespace Prog

variable {σ ρ τ : Type u} {α β : Type}

/-- One program after another. -/
def bind : Prog σ α → (α → Prog σ β) → Prog σ β
  | done a, g => g a
  | step f k, g => step f fun s => (k s).bind g

instance monad : Monad (Prog σ) where
  pure := done
  bind := bind

/-- Read the state. -/
def get (f : σ → α) : Prog σ α := step id fun s => done (f s)

/-- Change the state. -/
def modify (f : σ → σ) : Prog σ Unit := step f fun _ => done ()

/-- Read the state and change it, with interrupts masked. -/
def atomically (f : σ → α × σ) : Prog σ α := step (fun s => (f s).2) fun s => done (f s).1

/-- A program that is run only under a condition. -/
def onlyIf (c : Bool) (p : Prog σ Unit) : Prog σ Unit := if c then p else done ()

/-- A program on the second half of the state. -/
def task : Prog τ α → Prog (ρ × τ) α
  | done a => done a
  | step f k => step (fun s => (s.1, f s.2)) fun s => (k s.2).task

/-- Run without interruption. -/
def run : Prog σ α → σ → α × σ
  | done a, s => (a, s)
  | step f k, s => (k s).run (f s)

/-- The program has come to its end. -/
def isDone : Prog σ α → Bool
  | done _ => true
  | step _ _ => false

@[simp] theorem run_pure (a : α) (s : σ) : (pure a : Prog σ α).run s = (a, s) := rfl

@[simp] theorem run_done (a : α) (s : σ) : (done a : Prog σ α).run s = (a, s) := rfl

@[simp] theorem run_get (f : σ → α) (s : σ) : (get f).run s = (f s, s) := rfl

@[simp] theorem run_modify (f : σ → σ) (s : σ) : (modify f).run s = ((), f s) := rfl

@[simp] theorem run_atomically (f : σ → α × σ) (s : σ) : (atomically f).run s = f s := rfl

@[simp] theorem run_onlyIf (c : Bool) (p : Prog σ Unit) (s : σ) :
    (onlyIf c p).run s = if c then p.run s else ((), s) := by cases c <;> rfl

/-- Running one program after another. -/
@[simp] theorem run_bind (p : Prog σ α) (g : α → Prog σ β) (s : σ) :
    (p >>= g).run s = (g (p.run s).1).run (p.run s).2 := by
  induction p generalizing s with
  | done a => rfl
  | step f k ih => exact ih s (f s)

/-- What a program does to the second half. -/
@[simp] theorem run_task (p : Prog τ α) (s : ρ × τ) :
    (task p : Prog (ρ × τ) α).run s = ((p.run s.2).1, (s.1, (p.run s.2).2)) := by
  induction p generalizing s with
  | done a => rfl
  | step f k ih => exact ih s.2 (s.1, f s.2)

/-! ## Interrupted programs -/

/-- Started in `s`, with the state changed by others only within `R`, the program keeps `I` at each of
its steps and ends in `Q`. -/
def Holds (R : σ → σ → Prop) (I : σ → Prop) : Prog σ α → (α → σ → Prop) → σ → Prop
  | done a, Q, s => ∀ s', R s s' → Q a s'
  | step f k, Q, s => ∀ s', R s s' → I (f s') ∧ (k s').Holds R I Q (f s')

section

variable {R : σ → σ → Prop} {I I' : σ → Prop} {p : Prog σ α} {g : α → Prog σ β}
  {Q Q' : α → σ → Prop} {Q'' : β → σ → Prop} {s s' : σ}

theorem Holds.mono (h : p.Holds R I Q s) (hI : ∀ s, I s → I' s) (hQ : ∀ a s, Q a s → Q' a s) :
    p.Holds R I' Q' s := by
  induction p generalizing s with
  | done a => exact fun s' hs' => hQ a s' (h s' hs')
  | step f k ih => exact fun s' hs' => ⟨hI _ (h s' hs').1, ih s' (h s' hs').2⟩

/-- Two rules of one program. -/
theorem Holds.and (h : p.Holds R I Q s) (h' : p.Holds R I' Q' s) :
    p.Holds R (fun s => I s ∧ I' s) (fun a s => Q a s ∧ Q' a s) s := by
  induction p generalizing s with
  | done a => exact fun s' hs' => ⟨h s' hs', h' s' hs'⟩
  | step f k ih =>
      exact fun s' hs' => ⟨⟨(h s' hs').1, (h' s' hs').1⟩, ih s' (h s' hs').2 (h' s' hs').2⟩

/-- What others do before the first step does not matter. -/
theorem Holds.after [IsTrans σ R] (h : p.Holds R I Q s) (hs : R s s') : p.Holds R I Q s' := by
  cases p with
  | done a => exact fun s'' hs'' => h s'' (IsTrans.trans _ _ _ hs hs'')
  | step f k => exact fun s'' hs'' => h s'' (IsTrans.trans _ _ _ hs hs'')

/-- One program after another. -/
theorem Holds.bind [Std.Refl R] (h : p.Holds R I (fun a s => (g a).Holds R I Q'' s) s) :
    (p >>= g).Holds R I Q'' s := by
  induction p generalizing s with
  | done a => exact h s (Std.Refl.refl s)
  | step f k ih => exact fun s' hs' => ⟨(h s' hs').1, ih s' (h s' hs').2⟩

theorem Holds.ite {c : Prop} [Decidable c] {q : Prog σ α} (hp : c → p.Holds R I Q s)
    (hq : ¬ c → q.Holds R I Q s) : (if c then p else q).Holds R I Q s := by
  split_ifs with hc
  · exact hp hc
  · exact hq hc

theorem Holds.onlyIf {c : Bool} {p : Prog σ Unit} {Q : Unit → σ → Prop}
    (hp : c = true → p.Holds R I Q s) (hq : c = false → ∀ s', R s s' → Q () s') :
    (Prog.onlyIf c p).Holds R I Q s := by
  cases c
  · exact hq rfl
  · exact hp rfl

/-- A change, and what follows from there. -/
theorem Holds.modify_bind [Std.Refl R] [IsTrans σ R] {f : σ → σ} {g : Unit → Prog σ β}
    (h : ∀ s', R s s' → I (f s') ∧ (g ()).Holds R I Q'' (f s')) :
    (Prog.modify f >>= g).Holds R I Q'' s :=
  Holds.bind fun s' hs' => ⟨(h s' hs').1, fun _ hs'' => (h s' hs').2.after hs''⟩

/-- A read, and what follows from where the state was read. -/
theorem Holds.get_bind [Std.Refl R] [IsTrans σ R] {f : σ → α}
    (h : ∀ s', R s s' → I s' ∧ (g (f s')).Holds R I Q'' s') : (Prog.get f >>= g).Holds R I Q'' s :=
  Holds.bind fun s' hs' => ⟨(h s' hs').1, fun _ hs'' => (h s' hs').2.after hs''⟩

/-- A change with interrupts masked, and what follows from there. -/
theorem Holds.atomically_bind [Std.Refl R] [IsTrans σ R] {f : σ → α × σ}
    (h : ∀ s', R s s' → I (f s').2 ∧ (g (f s').1).Holds R I Q'' (f s').2) :
    (Prog.atomically f >>= g).Holds R I Q'' s :=
  Holds.bind fun s' hs' => ⟨(h s' hs').1, fun _ hs'' => (h s' hs').2.after hs''⟩

theorem holds_pure {a : α} : (pure a : Prog σ α).Holds R I Q s ↔ ∀ s', R s s' → Q a s' := Iff.rfl

theorem holds_get {f : σ → α} :
    (get f).Holds R I Q s ↔ ∀ s', R s s' → I s' ∧ ∀ s'', R s' s'' → Q (f s') s'' := Iff.rfl

theorem holds_modify {f : σ → σ} {Q : Unit → σ → Prop} :
    (modify f).Holds R I Q s ↔ ∀ s', R s s' → I (f s') ∧ ∀ s'', R (f s') s'' → Q () s'' := Iff.rfl

/-- One of the ends is that of the program that is let run. -/
theorem Holds.run_post [Std.Refl R] (h : p.Holds R I Q s) : Q (p.run s).1 (p.run s).2 := by
  induction p generalizing s with
  | done a => exact h s (Std.Refl.refl s)
  | step f k ih => exact ih s (h s (Std.Refl.refl s)).2

end

/-! ## Programs on one half of the state -/

section

variable {S : ρ → ρ → Prop} {I : τ → Prop} {p : Prog τ α} {g : α → Prog τ β} {P : α → τ → Prop}
  {Q : α → ρ × τ → Prop} {r : ρ} {t : τ}

/-- Others write only the first half. -/
def Half (S : ρ → ρ → Prop) : ρ × τ → ρ × τ → Prop := fun s s' => S s.1 s'.1 ∧ s.2 = s'.2

instance half_refl [Std.Refl S] : Std.Refl (Half S : ρ × τ → ρ × τ → Prop) :=
  ⟨fun s => ⟨Std.Refl.refl s.1, rfl⟩⟩

instance half_trans [IsTrans ρ S] : IsTrans (ρ × τ) (Half S) where
  trans _ _ _ h h' := ⟨IsTrans.trans _ _ _ h.1 h'.1, h.2.trans h'.2⟩

/-- `p` keeps `I` at each of its steps and ends in `P`, without interruption. -/
abbrev Thru (I : τ → Prop) (p : Prog τ α) (P : α → τ → Prop) (t : τ) : Prop := p.Holds Eq I P t

/-- A program on the second half is not disturbed by those who write the first. -/
theorem Holds.task [IsTrans ρ S] (h : p.Thru I P t)
    (hQ : ∀ a t' r', P a t' → S r r' → Q a (r', t')) :
    (task p : Prog (ρ × τ) α).Holds (Half S) (fun s => I s.2) Q (r, t) := by
  induction p generalizing r t with
  | done a =>
      rintro ⟨r', t'⟩ ⟨hr, rfl⟩
      exact hQ a _ r' (h _ rfl) hr
  | step f k ih =>
      rintro ⟨r', t'⟩ ⟨hr, rfl⟩
      obtain ⟨hI, hk⟩ := h _ rfl
      exact ⟨hI, ih _ hk fun a t'' r'' hq hr' => hQ a t'' r'' hq (IsTrans.trans _ _ _ hr hr')⟩

@[simp] theorem thru_pure {a : α} : (pure a : Prog τ α).Thru I P t ↔ P a t := by
  simp [Thru, holds_pure]

@[simp] theorem thru_done {a : α} : (done a : Prog τ α).Thru I P t ↔ P a t := thru_pure

@[simp] theorem thru_get {f : τ → α} : (get f).Thru I P t ↔ I t ∧ P (f t) t := by
  simp [Thru, holds_get]

@[simp] theorem thru_modify {f : τ → τ} {P : Unit → τ → Prop} :
    (modify f).Thru I P t ↔ I (f t) ∧ P () (f t) := by
  simp [Thru, holds_modify]

@[simp] theorem thru_onlyIf {c : Bool} {p : Prog τ Unit} {P : Unit → τ → Prop} :
    (onlyIf c p).Thru I P t ↔ (c = true → p.Thru I P t) ∧ (c = false → P () t) := by
  cases c <;> simp [onlyIf]

@[simp] theorem thru_bind {Q : β → τ → Prop} :
    (p >>= g).Thru I Q t ↔ p.Thru I (fun a t => (g a).Thru I Q t) t := by
  induction p generalizing t with
  | done a => simp [Thru, Holds, show (Prog.done a >>= g) = g a from rfl]
  | step f k ih =>
      constructor
      · rintro h t' rfl
        exact ⟨(h t rfl).1, (ih t).mp (h t rfl).2⟩
      · rintro h t' rfl
        exact ⟨(h t rfl).1, (ih t).mpr (h t rfl).2⟩

/-- Without interruption, it ends as it does when it is let run. -/
theorem thru_run (h : p.Thru I P t) : p.Thru I (fun a t' => p.run t = (a, t') ∧ P a t') t := by
  induction p generalizing t with
  | done a =>
      rintro t' rfl
      exact ⟨rfl, h t rfl⟩
  | step f k ih =>
      rintro t' rfl
      exact ⟨(h t rfl).1, ih t (h t rfl).2⟩

end

/-! ## What a program leaves alone -/

section

variable {γ : Type v} {π : σ → γ} {p : Prog σ α} {g : α → Prog σ β} {s : σ}

/-- No step of the program changes `π`. -/
def Keeps (π : σ → γ) : Prog σ α → Prop
  | done _ => True
  | step f k => (∀ s, π (f s) = π s) ∧ ∀ s, (k s).Keeps π

theorem keeps_pure (a : α) : (pure a : Prog σ α).Keeps π := trivial

theorem keeps_get (f : σ → α) : (get f).Keeps π := ⟨fun _ => rfl, fun _ => trivial⟩

theorem keeps_atomically {f : σ → α × σ} (h : ∀ s, π (f s).2 = π s) : (atomically f).Keeps π :=
  ⟨h, fun _ => trivial⟩

theorem Keeps.bind (h : p.Keeps π) (hg : ∀ a, (g a).Keeps π) : (p >>= g).Keeps π := by
  induction p with
  | done a => exact hg a
  | step f k ih => exact ⟨h.1, fun s => ih s (h.2 s)⟩

theorem keeps_onlyIf {c : Bool} {p : Prog σ Unit} (h : p.Keeps π) : (onlyIf c p).Keeps π := by
  cases c
  · exact trivial
  · exact h

theorem keeps_ite {c : Prop} [Decidable c] {p q : Prog σ α} (hp : p.Keeps π) (hq : q.Keeps π) :
    (if c then p else q).Keeps π := by
  split_ifs
  · exact hp
  · exact hq

/-- A program on the second half leaves the first alone. -/
theorem keeps_task {π : ρ → γ} (p : Prog τ α) : (task p : Prog (ρ × τ) α).Keeps fun s => π s.1 := by
  induction p with
  | done a => trivial
  | step f k ih => exact ⟨fun _ => rfl, fun s => ih s.2⟩

theorem Keeps.run (h : p.Keeps π) : π (p.run s).2 = π s := by
  induction p generalizing s with
  | done a => rfl
  | step f k ih => exact (ih s (h.2 s)).trans (h.1 s)

end

/-! ## What a program preserves -/

section

variable {R : σ → σ → Prop} {J : σ → Prop} {p : Prog σ α} {g : α → Prog σ β} {s : σ}

/-- Every step of the program preserves `J`. -/
def Preserves (J : σ → Prop) : Prog σ α → Prop
  | done _ => True
  | step f k => (∀ s, J s → J (f s)) ∧ ∀ s, (k s).Preserves J

theorem preserves_get (f : σ → α) : (get f).Preserves J := ⟨fun _ h => h, fun _ => trivial⟩

theorem preserves_modify {f : σ → σ} (h : ∀ s, J s → J (f s)) : (modify f).Preserves J :=
  ⟨h, fun _ => trivial⟩

theorem preserves_atomically {f : σ → α × σ} (h : ∀ s, J s → J (f s).2) :
    (atomically f).Preserves J := ⟨h, fun _ => trivial⟩

theorem Preserves.bind (h : p.Preserves J) (hg : ∀ a, (g a).Preserves J) : (p >>= g).Preserves J := by
  induction p with
  | done a => exact hg a
  | step f k ih => exact ⟨h.1, fun s => ih s (h.2 s)⟩

theorem preserves_onlyIf {c : Bool} {p : Prog σ Unit} (h : p.Preserves J) :
    (onlyIf c p).Preserves J := by
  cases c
  · exact trivial
  · exact h

theorem preserves_ite {c : Prop} [Decidable c] {p q : Prog σ α} (hp : p.Preserves J)
    (hq : q.Preserves J) : (if c then p else q).Preserves J := by
  split_ifs
  · exact hp
  · exact hq

/-- Under interrupts that preserve `J` too, the program keeps it. -/
theorem Preserves.holds (h : p.Preserves J) (hR : ∀ s s', R s s' → J s → J s') (hs : J s) :
    p.Holds R J (fun _ => J) s := by
  induction p generalizing s with
  | done a => exact fun s' hs' => hR s s' hs' hs
  | step f k ih =>
      intro s' hs'
      have hf : J (f s') := h.1 s' (hR s s' hs' hs)
      exact ⟨hf, ih s' (h.2 s') hf⟩

/-- Such a program, and what follows it. -/
theorem Preserves.holds_bind [Std.Refl R] {I : σ → Prop} {Q : β → σ → Prop} (h : p.Preserves J)
    (hR : ∀ s s', R s s' → J s → J s') (hJI : ∀ s, J s → I s)
    (hg : ∀ a s, J s → (g a).Holds R I Q s) (hs : J s) : (p >>= g).Holds R I Q s :=
  Holds.bind ((h.holds hR hs).mono hJI hg)

end

/-! ## What a program may do -/

section

variable {G : τ → τ → Prop} {p : Prog τ α} {g : α → Prog τ β} {t : τ}

/-- From any state, the program moves within `G`. -/
def Within (G : τ → τ → Prop) (p : Prog τ α) : Prop := ∀ t, p.Thru (G t) (fun _ => G t) t

theorem within_pure [Std.Refl G] (a : α) : (pure a : Prog τ α).Within G := fun t =>
  thru_pure.mpr (Std.Refl.refl t)

theorem within_get [Std.Refl G] (f : τ → α) : (get f).Within G := fun t =>
  thru_get.mpr ⟨Std.Refl.refl t, Std.Refl.refl t⟩

theorem within_modify {f : τ → τ} (h : ∀ t, G t (f t)) : (modify f).Within G := fun t =>
  thru_modify.mpr ⟨h t, h t⟩

theorem Within.bind [IsTrans τ G] (h : p.Within G) (hg : ∀ a, (g a).Within G) :
    (p >>= g).Within G := by
  intro t
  refine thru_bind.mpr ((h t).mono (fun _ h => h) fun a t' ht' => ?_)
  exact (hg a t').mono (fun _ => IsTrans.trans _ _ _ ht') fun _ _ => IsTrans.trans _ _ _ ht'

theorem within_ite {c : Prop} [Decidable c] {p q : Prog τ α} (hp : p.Within G) (hq : q.Within G) :
    (if c then p else q).Within G := by
  split_ifs
  · exact hp
  · exact hq

theorem within_onlyIf [Std.Refl G] {c : Bool} {p : Prog τ Unit} (hp : p.Within G) :
    (onlyIf c p).Within G := by
  cases c
  · exact within_pure ()
  · exact hp

end

end Prog

/-! ## A task and its interrupts -/

/-- What may interrupt a task, and the bodies it runs. -/
structure Tasks (σ : Type u) (ι : Type v) (κ : Type w) where
  interrupt : ι → σ → σ
  body : κ → Prog σ Unit

/-- What happens next. -/
inductive TaskAct (ι : Type v) (κ : Type w) where
  | interrupt (i : ι)
  | call (k : κ)
  | step
  deriving DecidableEq, Repr

namespace Tasks

variable {σ : Type u} {ι : Type v} {κ : Type w}

/-- The state, and what is left of the body that is running. -/
def machine (T : Tasks σ ι κ) : Machine (σ × Prog σ Unit) (TaskAct ι κ) (TaskAct ι κ) where
  step
    | (s, p), .interrupt i => some ((T.interrupt i s, p), .interrupt i)
    | (s, .done _), .call k => some ((s, T.body k), .call k)
    | (s, .step f k), .step => some ((f s, k s), .step)
    | _, _ => none

/-- One state is another after any number of interrupts. -/
def Interrupted (T : Tasks σ ι κ) : σ → σ → Prop :=
  Relation.ReflTransGen fun s s' => ∃ i, s' = T.interrupt i s

instance interrupted_refl (T : Tasks σ ι κ) : Std.Refl T.Interrupted :=
  ⟨fun _ => Relation.ReflTransGen.refl⟩

instance interrupted_trans (T : Tasks σ ι κ) : IsTrans σ T.Interrupted :=
  ⟨fun _ _ _ => Relation.ReflTransGen.trans⟩

/-- What one interrupt preserves, any number of them do. -/
theorem Interrupted.preserves {T : Tasks σ ι κ} {J : σ → Prop} {s s' : σ}
    (h : T.Interrupted s s') (hJ : ∀ i s, J s → J (T.interrupt i s)) (hs : J s) : J s' := by
  induction h with
  | refl => exact hs
  | tail _ hstep ih =>
      obtain ⟨i, rfl⟩ := hstep
      exact hJ i _ ih

/-- What happens while one body runs: interrupts from `A`, and its steps. -/
def During (A : ι → Prop) : σ × Prog σ Unit → TaskAct ι κ → Prop
  | _, .interrupt i => A i
  | _, .call _ => False
  | _, .step => True

/-- Interrupts from `A`, and calls from `B`. -/
def Within (A : ι → Prop) (B : κ → Prop) : σ × Prog σ Unit → TaskAct ι κ → Prop
  | _, .interrupt i => A i
  | _, .call k => B k
  | _, .step => True

variable {T : Tasks σ ι κ} {R : σ → σ → Prop} {I J : σ → Prop} {Q : Unit → σ → Prop} {A : ι → Prop}
  {B : κ → Prop} {s s' : σ} {p p' : Prog σ Unit} {tr : List (TaskAct ι κ)} {a e : TaskAct ι κ}

/-- What a step of the machine does. -/
theorem step_cases (h : T.machine.step (s, p) a = some ((s', p'), e)) :
    e = a ∧ ((∃ i, a = .interrupt i ∧ s' = T.interrupt i s ∧ p' = p) ∨
      (∃ k u, a = .call k ∧ p = .done u ∧ s' = s ∧ p' = T.body k) ∨
      ∃ f k, a = .step ∧ p = .step f k ∧ s' = f s ∧ p' = k s) := by
  cases a with
  | interrupt i =>
      obtain ⟨⟨rfl, rfl⟩, rfl⟩ : (T.interrupt i s = s' ∧ p = p') ∧ .interrupt i = e := by
        simpa [machine] using h
      exact ⟨rfl, .inl ⟨i, rfl, rfl, rfl⟩⟩
  | call k =>
      cases p with
      | done u =>
          obtain ⟨⟨rfl, rfl⟩, rfl⟩ : (s = s' ∧ T.body k = p') ∧ .call k = e := by
            simpa [machine] using h
          exact ⟨rfl, .inr (.inl ⟨k, u, rfl, rfl, rfl, rfl⟩)⟩
      | step f g => simp [machine] at h
  | step =>
      cases p with
      | done u => simp [machine] at h
      | step f g =>
          obtain ⟨⟨rfl, rfl⟩, rfl⟩ : (f s = s' ∧ g s = p') ∧ .step = e := by
            simpa [machine] using h
          exact ⟨rfl, .inr (.inr ⟨f, g, rfl, rfl, rfl, rfl⟩)⟩

/-- While a body runs that keeps `I` and ends in `Q`, `I` holds and the rest of it ends in `Q`. -/
theorem holds_run [Std.Refl R] [IsTrans σ R] (hr : T.machine.RunIf (During A) (s, p) tr (s', p'))
    (hR : ∀ i s, A i → R s (T.interrupt i s)) (hI : ∀ s s', R s s' → I s → I s')
    (hs : I s) (hp : p.Holds R I Q s) : I s' ∧ p'.Holds R I Q s' := by
  generalize ht : (s', p') = t at hr
  induction hr generalizing s' p' with
  | nil =>
      obtain ⟨rfl, rfl⟩ := Prod.mk.inj ht
      exact ⟨hs, hp⟩
  | @snoc tr t t' a e hr hg hstep ih =>
      obtain ⟨s₁, p₁⟩ := t
      subst ht
      obtain ⟨hI₁, hp₁⟩ := ih rfl
      obtain ⟨-, ⟨i, rfl, rfl, rfl⟩ | ⟨k, u, rfl, -⟩ | ⟨f, k, rfl, rfl, rfl, rfl⟩⟩ := step_cases hstep
      · exact ⟨hI _ _ (hR i s₁ hg) hI₁, hp₁.after (hR i s₁ hg)⟩
      · exact hg.elim
      · exact hp₁ s₁ (Std.Refl.refl s₁)

/-- If every body keeps `I` and ends in a state with `J`, then `I` holds at every moment, and what is
left of the body that is running ends with `J`. -/
theorem invariant [Std.Refl R] [IsTrans σ R] (hr : T.machine.RunIf (Within A B) (s, .done ()) tr (s', p'))
    (hR : ∀ i s, A i → R s (T.interrupt i s)) (hI : ∀ s s', R s s' → I s → I s')
    (hJ : ∀ s s', R s s' → J s → J s')
    (hbody : ∀ k s, B k → I s → J s → (T.body k).Holds R I (fun _ => J) s) (hIs : I s) (hJs : J s) :
    I s' ∧ p'.Holds R I (fun _ => J) s' := by
  generalize ht : (s', p') = t at hr
  induction hr generalizing s' p' with
  | nil =>
      obtain ⟨rfl, rfl⟩ := Prod.mk.inj ht
      exact ⟨hIs, fun s' hs' => hJ _ _ hs' hJs⟩
  | @snoc tr t t' a e hr hg hstep ih =>
      obtain ⟨s₁, p₁⟩ := t
      subst ht
      obtain ⟨hI₁, hp₁⟩ := ih rfl
      obtain ⟨-, ⟨i, rfl, rfl, rfl⟩ | ⟨k, u, rfl, rfl, rfl, rfl⟩ | ⟨f, k, rfl, rfl, rfl, rfl⟩⟩ :=
        step_cases hstep
      · exact ⟨hI _ _ (hR i s₁ hg) hI₁, hp₁.after (hR i s₁ hg)⟩
      · exact ⟨hI₁, hbody k _ hg hI₁ (hp₁ _ (Std.Refl.refl _))⟩
      · exact hp₁ s₁ (Std.Refl.refl s₁)

/-- If interrupts preserve `J`, and every body keeps `I` and ends in a state with `J`, then `I` holds at
every moment. -/
theorem invariant_run (hr : T.machine.Run (s, .done ()) tr (s', p'))
    (hJI : ∀ s, J s → I s) (hI : ∀ i s, I s → I (T.interrupt i s))
    (hJ : ∀ i s, J s → J (T.interrupt i s))
    (hbody : ∀ k s, J s → (T.body k).Holds T.Interrupted I (fun _ => J) s) (hs : J s) :
    I s' ∧ p'.Holds T.Interrupted I (fun _ => J) s' := by
  have hr' : T.machine.RunIf (Within (fun _ => True) fun _ => True) (s, .done ()) tr (s', p') :=
    Machine.RunIf.mono (fun _ a _ => by cases a <;> trivial) hr
  exact invariant hr' (fun i s _ => .single ⟨i, rfl⟩) (fun _ _ h => h.preserves hI)
    (fun _ _ h => h.preserves hJ) (fun k s _ _ hJs => hbody k s hJs) (hJI s hs) hs

/-- A body comes to its end if it is let run. -/
theorem exists_steps (T : Tasks σ ι κ) (A : ι → Prop) (p : Prog σ Unit) (s : σ) :
    ∃ n, T.machine.RunIf (During A) (s, p) (List.replicate n .step) ((p.run s).2, .done ()) := by
  induction p generalizing s with
  | done u => exact ⟨0, .nil⟩
  | step f k ih =>
      obtain ⟨n, hn⟩ := ih s (f s)
      have hg : During A (s, .step f k) (.step : TaskAct ι κ) := trivial
      have hs : T.machine.step (s, .step f k) .step = some ((f s, k s), .step) := rfl
      exact ⟨n + 1, (Machine.RunIf.nil.snoc hg hs).append hn⟩

/-- Without interrupts, what is left of the body computes what the body computes. -/
theorem run_eq (hr : T.machine.RunIf (During fun _ => False) (s, p) tr (s', p')) :
    p'.run s' = p.run s := by
  generalize ht : (s', p') = t at hr
  induction hr generalizing s' p' with
  | nil =>
      obtain ⟨rfl, rfl⟩ := Prod.mk.inj ht
      rfl
  | @snoc tr t t' a e hr hg hstep ih =>
      obtain ⟨s₁, p₁⟩ := t
      subst ht
      obtain ⟨-, ⟨i, rfl, -⟩ | ⟨k, u, rfl, -⟩ | ⟨f, k, rfl, rfl, rfl, rfl⟩⟩ := step_cases hstep
      · exact hg.elim
      · exact hg.elim
      · have hrun := ih (Eq.refl (s₁, Prog.step f k))
        exact hrun

/-- The events of a run are the acts. -/
theorem events_eq {G : σ × Prog σ Unit → TaskAct ι κ → Prop} [∀ s a, Decidable (G s a)]
    {acts : List (TaskAct ι κ)} {sp sp' : σ × Prog σ Unit}
    (h : T.machine.execIf G sp acts = some (sp', tr)) : tr = acts := by
  induction acts generalizing sp tr with
  | nil =>
      obtain ⟨-, rfl⟩ : sp = sp' ∧ [] = tr := by simpa [Machine.execIf] using h
      rfl
  | cons a acts ih =>
      rw [Machine.execIf] at h
      split_ifs at h
      simp only [Option.bind_eq_bind, Option.bind_eq_some_iff, Prod.exists, Option.pure_def,
        Option.some.injEq, Prod.mk.injEq] at h
      obtain ⟨s₁, p₁, e, hs, s₂, p₂, es, he, rfl, rfl⟩ := h
      rw [ih he, (step_cases hs).1]

/-- Acts that are seen to be accepted, up to a moment between two bodies. -/
theorem runIf_of_acts {G : σ × Prog σ Unit → TaskAct ι κ → Prop} [∀ s a, Decidable (G s a)]
    {acts : List (TaskAct ι κ)}
    (h : (T.machine.execIf G (s, p) acts).map (fun x => (x.1.1, x.1.2.isDone)) = some (s', true)) :
    T.machine.RunIf G (s, p) acts (s', .done ()) := by
  obtain ⟨⟨⟨s₁, p₁⟩, tr⟩, hx, hy⟩ := Option.map_eq_some_iff.mp h
  obtain ⟨rfl, hdone⟩ := Prod.mk.inj hy
  obtain rfl := events_eq hx
  cases p₁ with
  | done u => exact Machine.runIf_of_execIf hx
  | step f k => simp [Prog.isDone] at hdone

end Tasks

end Cc3501eBridge
