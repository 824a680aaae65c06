import Mathlib.Data.List.FinRange
import Mathlib.Data.Set.Insert

/-!
# Tables of slots

A fixed number of slots, each of which is free or holds an entry.  As in C, a slot is free when it
holds a marker `e` that is no entry.  The operations are those of such tables: free every slot that
holds an entry (`erase`), look for the first free slot (`firstFree`), and write a slot (`put`).

What a table stands for is the set of its entries, `held`, and each operation is one of that set as
long as no entry has two slots, `Distinct`.
-/

universe u

namespace Cc3501eBridge

/-- `n` slots, free where they hold `e`. -/
structure SlotTable (n : Nat) {α : Type u} (e : α) where
  slot : Fin n → α

namespace SlotTable

variable {n : Nat} {α : Type u} {e a b : α} {t : SlotTable n e} {i : Fin n}

/-- The entries of the table. -/
def held (t : SlotTable n e) : Set α := {a | a ≠ e ∧ ∃ i, t.slot i = a}

theorem mem_held : a ∈ t.held ↔ a ≠ e ∧ ∃ i, t.slot i = a := Iff.rfl

instance mem_held_decidable [DecidableEq α] (a : α) (t : SlotTable n e) : Decidable (a ∈ t.held) :=
  inferInstanceAs (Decidable (a ≠ e ∧ ∃ i, t.slot i = a))

/-- No entry has two slots. -/
def Distinct (t : SlotTable n e) : Prop := ∀ i j, t.slot i ≠ e → t.slot i = t.slot j → i = j

/-- The table without entries. -/
def empty : SlotTable n e := ⟨fun _ => e⟩

@[simp] theorem held_empty : (empty : SlotTable n e).held = ∅ := by
  ext a
  rw [mem_held]
  constructor
  · rintro ⟨ha, i, hi⟩
    exact ha hi.symm
  · rintro ⟨⟩

theorem distinct_empty : (empty : SlotTable n e).Distinct := fun _ _ hi => absurd rfl hi

/-- Write a slot. -/
def put (t : SlotTable n e) (i : Fin n) (a : α) : SlotTable n e := ⟨Function.update t.slot i a⟩

@[simp] theorem put_self : (t.put i a).slot i = a := Function.update_self ..

theorem put_of_ne {j : Fin n} (h : j ≠ i) : (t.put i a).slot j = t.slot j :=
  Function.update_of_ne h ..

/-- A slot that was free and is freed again. -/
theorem put_free (hi : t.slot i = e) : (t.put i a).put i e = t := by
  have hself : Function.update t.slot i e = t.slot := Function.update_eq_self_iff.mpr hi.symm
  unfold put
  rw [Function.update_idem, hself]

/-- A free slot takes an entry. -/
theorem held_put (hi : t.slot i = e) (ha : a ≠ e) : (t.put i a).held = insert a t.held := by
  ext b
  simp only [Set.mem_insert_iff, mem_held]
  constructor
  · rintro ⟨hb, j, hj⟩
    by_cases hji : j = i
    · subst hji
      rw [put_self] at hj
      exact .inl hj.symm
    · rw [put_of_ne hji] at hj
      exact .inr ⟨hb, j, hj⟩
  · rintro (rfl | ⟨hb, j, hj⟩)
    · exact ⟨ha, i, put_self⟩
    · have hji : j ≠ i := by
        rintro rfl
        exact hb (hj.symm.trans hi)
      exact ⟨hb, j, (put_of_ne hji).trans hj⟩

/-- An entry the table did not have takes a slot. -/
theorem Distinct.put (h : t.Distinct) (ha : a ∉ t.held) : (t.put i a).Distinct := by
  have hslot : ∀ k, a ≠ e → t.slot k ≠ a := fun k hae hk => ha ⟨hae, k, hk⟩
  intro j k hj hjk
  by_cases hji : j = i <;> by_cases hki : k = i
  · rw [hji, hki]
  · subst hji
    rw [put_self] at hj hjk
    rw [put_of_ne hki] at hjk
    exact absurd hjk.symm (hslot k hj)
  · subst hki
    rw [put_self] at hjk
    rw [put_of_ne hji] at hj hjk
    exact absurd hjk (hslot j (hjk ▸ hj))
  · rw [put_of_ne hji] at hj hjk
    rw [put_of_ne hki] at hjk
    exact h j k hj hjk

section

variable [DecidableEq α]

/-- Free every slot that holds an entry. -/
def erase (t : SlotTable n e) (a : α) : SlotTable n e :=
  ⟨fun i => if t.slot i = a then e else t.slot i⟩

theorem erase_slot_of_ne (h : (t.erase a).slot i ≠ e) :
    (t.erase a).slot i = t.slot i ∧ t.slot i ≠ a := by
  unfold erase at h ⊢
  dsimp only at h ⊢
  split_ifs at h ⊢ with hi
  · exact absurd rfl h
  · exact ⟨rfl, hi⟩

@[simp] theorem held_erase (t : SlotTable n e) (a : α) : (t.erase a).held = t.held \ {a} := by
  ext b
  simp only [mem_held, Set.mem_sdiff, Set.mem_singleton_iff]
  constructor
  · rintro ⟨hb, i, rfl⟩
    obtain ⟨hi, hne⟩ := erase_slot_of_ne hb
    exact ⟨⟨hb, i, hi.symm⟩, hi ▸ hne⟩
  · rintro ⟨⟨hb, i, rfl⟩, hne⟩
    exact ⟨hb, i, if_neg hne⟩

theorem Distinct.erase (h : t.Distinct) (a : α) : (t.erase a).Distinct := by
  intro i j hi hij
  have hi' := (erase_slot_of_ne hi).1
  have hj' := (erase_slot_of_ne (hij ▸ hi)).1
  rw [hi'] at hi hij
  exact h i j hi (hij.trans hj')

/-- The first free slot. -/
def firstFree (t : SlotTable n e) : Option (Fin n) :=
  (List.finRange n).find? fun i => t.slot i = e

theorem slot_of_firstFree (h : t.firstFree = some i) : t.slot i = e := by
  simpa using List.find?_some h

theorem firstFree_eq_none : t.firstFree = none ↔ ∀ i, t.slot i ≠ e := by
  simp [firstFree, List.find?_eq_none]

/-- Freeing an entry frees a slot. -/
theorem firstFree_erase_ne_none (h : a ∈ t.held) : (t.erase a).firstFree ≠ none := by
  obtain ⟨-, i, hi⟩ := h
  intro hnone
  exact firstFree_eq_none.mp hnone i (if_pos hi)

end

end SlotTable

end Cc3501eBridge
