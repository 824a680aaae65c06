import Cc3501eBridge.Lib.Bytes
import Mathlib.Data.List.Range
import Mathlib.Logic.Function.Basic

/-!
# Circular buffers

A buffer of `N` cells that carries a stream: item number `p` of the stream, counted from wherever
the counters stood at its start (`base`), lives in cell `(base + p) % N`.  Only the last `N` items
can be there at a time; `Buf.Carries` says which are.  The counters themselves may run modulo any
multiple of `N`, which is the reader's business.

A queue in such a buffer, of items of any type, is given by the cell of its oldest item and its
length; `Ring.items` is the queue as a list, the oldest item first.
-/

namespace Cc3501eBridge

namespace Buf

variable {b : Buf} {N base lo : Nat} {xs ys : List UInt8}

/-- The `n` bytes from cell `q` on, going round. -/
def ring (b : Buf) (N q n : Nat) : List UInt8 := (List.range n).map fun i => b ((q + i) % N)

/-- Going round once is reading to the end and then from the start. -/
theorem read_append_read {q n : Nat} (hN : 0 < N) (hn : n ≤ N) :
    b.read (q % N) (min (N - q % N) n) ++ b.read 0 (n - min (N - q % N) n) = b.ring N q n := by
  have hq := Nat.mod_lt q hN
  apply List.ext_getElem
  · simp [ring]
  · intro i h₁ h₂
    have hi : i < n := by simpa [ring] using h₂
    have hqi : (q + i) % N = (q % N + i) % N := by rw [Nat.mod_add_mod]
    by_cases hlt : i < min (N - q % N) n
    · have hcell : (q % N + i) % N = q % N + i := Nat.mod_eq_of_lt (by omega)
      rw [List.getElem_append_left (by simpa using hlt)]
      simp [read, ring, hqi, hcell]
    · have hcell : (q % N + i) % N = i - min (N - q % N) n := by
        rw [Nat.mod_eq_sub_mod (by omega), Nat.mod_eq_of_lt (by omega)]
        omega
      rw [List.getElem_append_right (by rw [length_read]; omega)]
      simp [read, ring, hqi, hcell]

/-- Two cells of one round are different. -/
theorem cell_ne {p m : Nat} (h : p < m) (hm : m < p + N) : (base + p) % N ≠ (base + m) % N := by
  intro heq
  have hmod : (base + m - (base + p)) % N = 0 := Nat.sub_mod_eq_zero_of_mod_eq heq.symm
  rw [Nat.mod_eq_of_lt (by omega)] at hmod
  omega

/-- The items of the stream `xs` from number `lo` on are in their cells. -/
def Carries (b : Buf) (N base lo : Nat) (xs : List UInt8) : Prop :=
  ∀ p (h : p < xs.length), lo ≤ p → b ((base + p) % N) = xs[p]

namespace Carries

theorem mono {lo' : Nat} (h : Carries b N base lo xs) (hlo : lo ≤ lo') :
    Carries b N base lo' xs := fun p hp hle => h p hp (Nat.le_trans hlo hle)

/-- Reading from a carried item on. -/
theorem ring_eq {q n : Nat} (h : Carries b N base lo xs) (hq : lo ≤ q) (hn : q + n ≤ xs.length) :
    b.ring N (base + q) n = (xs.drop q).take n := by
  apply List.ext_getElem
  · simp [ring]
    omega
  · intro i h₁ h₂
    have hi : i < n := by simpa [ring] using h₁
    simp only [ring, List.getElem_map, List.getElem_range, List.getElem_take, List.getElem_drop]
    rw [Nat.add_assoc]
    exact h (q + i) (by omega) (by omega)

/-- Storing ahead of the stream, within one round of its oldest item. -/
theorem set {m : Nat} (h : Carries b N base lo xs) (hm : xs.length ≤ m) (hround : m < lo + N)
    (v : UInt8) : Carries (b.set ((base + m) % N) v) N base lo xs := by
  intro p hp hle
  rw [set_of_ne _ _ (cell_ne (by omega) (by omega))]
  exact h p hp hle

/-- The stream grows by what was stored ahead of it. -/
theorem append (h : Carries b N base lo xs)
    (hys : ∀ j (hj : j < ys.length), b ((base + xs.length + j) % N) = ys[j]) :
    Carries b N base lo (xs ++ ys) := by
  intro p hp hle
  by_cases hlt : p < xs.length
  · rw [List.getElem_append_left hlt]
    exact h p hlt hle
  · have hj : p - xs.length < ys.length := by
      rw [List.length_append] at hp
      omega
    have hcell := hys (p - xs.length) hj
    rw [List.getElem_append_right (Nat.le_of_not_lt hlt)]
    rwa [show base + xs.length + (p - xs.length) = base + p by omega] at hcell

end Carries

end Buf

/-! ## Queues -/

namespace Ring

universe u

variable {α : Type u} {f : Nat → α} {N q n : Nat}

/-- The items in the `n` cells from `q` on, going round. -/
def items (f : Nat → α) (N q n : Nat) : List α := (List.range n).map fun i => f ((q + i) % N)

@[simp] theorem length_items : (items f N q n).length = n := by simp [items]

@[simp] theorem items_zero : items f N q 0 = [] := rfl

/-- The oldest item comes first. -/
theorem items_succ : items f N q (n + 1) = f (q % N) :: items f N (q + 1) n := by
  simp only [items, List.range_succ_eq_map, List.map_cons, List.map_map, Nat.add_zero]
  congr 1
  apply List.map_congr_left
  intro i _
  simp only [Function.comp_apply]
  congr 2
  omega

/-- Where the queue starts matters only up to going round. -/
theorem items_mod : items f N (q % N) n = items f N q n := by
  simp only [items, Nat.mod_add_mod]

/-- An item stored behind the newest is appended, as long as there is a cell left. -/
theorem items_update (hn : n < N) (v : α) :
    items (Function.update f ((q + n) % N) v) N q (n + 1) = items f N q n ++ [v] := by
  simp only [items, List.range_succ, List.map_append, List.map_cons, List.map_nil,
    Function.update_self]
  congr 1
  apply List.map_congr_left
  intro i hi
  have hlt : i < n := List.mem_range.mp hi
  exact Function.update_of_ne (Buf.cell_ne hlt (by omega)) _ _

end Ring

end Cc3501eBridge
