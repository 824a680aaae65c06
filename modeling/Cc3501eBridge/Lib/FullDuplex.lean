import Cc3501eBridge.Lib.Bytes
import Cc3501eBridge.Lib.Trace

/-!
# A full-duplex bus

A controller clocks bytes out and stores the byte that comes back for each.  What the far end
answers may depend on all that it has seen, select edges and bytes alike, so a device is a function
of the history of the bus.  Clocking a string is then one operation however the controller cuts it
into pieces (`clocks_append`), as long as nothing else happens on the bus in between.

A select line that is driven to the level it has makes no edge, and a device that goes by the edges
(`edges`) takes pieces for one string even if the line is driven again before each.  `Frames` is the
discipline of a shared bus: bytes are clocked with exactly one line low.
-/

namespace Cc3501eBridge

/-- What a device sees: an edge of a select line, or a byte. -/
inductive BusEv where
  | select (pad : Nat) (low : Bool)
  | clock (mosi : UInt8)
deriving DecidableEq

/-- The byte a device answers with, given all that has happened, the byte being clocked last. -/
abbrev BusDevice := List BusEv → UInt8

/-- A bus with its history, and the memory of its controller. -/
structure Bus where
  wire : List BusEv
  mem : Buf

namespace Bus

/-- Drive a select line. -/
def select (b : Bus) (pad : Nat) (low : Bool) : Bus :=
  { b with wire := b.wire ++ [.select pad low] }

/-- Clock one byte, and store the answer if there is somewhere to put it. -/
def clock (D : BusDevice) (b : Bus) (rx : Option Nat) (mosi : UInt8) : Bus where
  wire := b.wire ++ [.clock mosi]
  mem := match rx with
    | none => b.mem
    | some a => b.mem.set a (D (b.wire ++ [.clock mosi]))

/-- Clock a string, storing the answers one after the other. -/
def clocks (D : BusDevice) : Bus → Option Nat → List UInt8 → Bus
  | b, _, [] => b
  | b, rx, x :: xs => clocks D (b.clock D rx x) (rx.map (· + 1)) xs

variable {D : BusDevice} {b : Bus} {rx : Option Nat} {a : Nat} {x : UInt8} {xs ys : List UInt8}

@[simp] theorem select_wire {pad : Nat} {low : Bool} :
    (b.select pad low).wire = b.wire ++ [.select pad low] := rfl

@[simp] theorem select_mem {pad : Nat} {low : Bool} : (b.select pad low).mem = b.mem := rfl

@[simp] theorem clock_wire : (b.clock D rx x).wire = b.wire ++ [.clock x] := rfl

@[simp] theorem clock_mem_none : (b.clock D none x).mem = b.mem := rfl

@[simp] theorem clock_mem_some :
    (b.clock D (some a) x).mem = b.mem.set a (D (b.wire ++ [.clock x])) := rfl

@[simp] theorem clocks_nil : b.clocks D rx [] = b := rfl

theorem clocks_cons :
    b.clocks D rx (x :: xs) = (b.clock D rx x).clocks D (rx.map (· + 1)) xs := rfl

/-- A string may be clocked in two pieces, the second stored behind the first. -/
theorem clocks_append : b.clocks D rx (xs ++ ys) =
    (b.clocks D rx xs).clocks D (rx.map (· + xs.length)) ys := by
  induction xs generalizing b rx with
  | nil => simp
  | cons x xs ih =>
      have hrx : (rx.map (· + 1)).map (· + xs.length) = rx.map (· + (x :: xs).length) := by
        rw [Option.map_map]
        congr 1
        funext a
        simp only [Function.comp_apply, List.length_cons]
        omega
      rw [List.cons_append, clocks_cons, ih, hrx, clocks_cons]

/-- The far end sees the string. -/
@[simp] theorem clocks_wire : (b.clocks D rx xs).wire = b.wire ++ xs.map .clock := by
  induction xs generalizing b rx with
  | nil => simp
  | cons x xs ih => rw [clocks_cons, ih, clock_wire, List.append_assoc]; rfl

@[simp] theorem clocks_mem_none : (b.clocks D none xs).mem = b.mem := by
  induction xs generalizing b with
  | nil => rfl
  | cons x xs ih => rw [clocks_cons, Option.map_none, ih, clock_mem_none]

/-- Nothing is stored in front of the range or behind it. -/
theorem clocks_mem_outside {j : Nat} (h : j < a ∨ a + xs.length ≤ j) :
    (b.clocks D (some a) xs).mem j = b.mem j := by
  induction xs generalizing b a with
  | nil => rfl
  | cons x xs ih =>
      rw [List.length_cons] at h
      have hne : j ≠ a := by omega
      rw [clocks_cons, Option.map_some, ih (by omega), clock_mem_some, Buf.set_of_ne _ _ hne]

/-- The answer to byte `i` is stored at place `i`. -/
theorem clocks_mem_get {i : Nat} (h : i < xs.length) : (b.clocks D (some a) xs).mem (a + i) =
    D (b.wire ++ (xs.take (i + 1)).map .clock) := by
  induction xs generalizing b a i with
  | nil => cases h
  | cons x xs ih =>
      rw [clocks_cons, Option.map_some]
      cases i with
      | zero =>
          have hout : a < a + 1 ∨ a + 1 + xs.length ≤ a := .inl (by omega)
          rw [show a + 0 = a from rfl, clocks_mem_outside hout, clock_mem_some]
          simp
      | succ i =>
          have hi := ih (b := b.clock D (some a) x) (a := a + 1) (Nat.lt_of_succ_lt_succ h)
          rw [show a + (i + 1) = a + 1 + i by omega, hi]
          simp

/-- What comes back for a string, after a history. -/
def answers (D : BusDevice) : List BusEv → List UInt8 → List UInt8
  | _, [] => []
  | w, x :: xs => D (w ++ [.clock x]) :: answers D (w ++ [.clock x]) xs

theorem answers_append {w : List BusEv} :
    answers D w (xs ++ ys) = answers D w xs ++ answers D (w ++ xs.map .clock) ys := by
  induction xs generalizing w with
  | nil => simp [answers]
  | cons x xs ih => simp [answers, ih]

/-- The answers are what is stored. -/
theorem read_clocks : (b.clocks D (some a) xs).mem.read a xs.length = answers D b.wire xs := by
  induction xs generalizing b a with
  | nil => rfl
  | cons x xs ih =>
      have hfirst : (b.clocks D (some a) (x :: xs)).mem a = D (b.wire ++ [.clock x]) := by
        rw [clocks_cons, Option.map_some, clocks_mem_outside (.inl (by omega)), clock_mem_some,
          Buf.set_self]
      have hone : (b.clocks D (some a) (x :: xs)).mem.read a 1 = [D (b.wire ++ [.clock x])] := by
        rw [Buf.read_succ, Buf.read_zero, Nat.add_zero, hfirst]
        rfl
      rw [List.length_cons, Nat.add_comm, Buf.read_add, hone, answers]
      exact congrArg _ ih

end Bus

/-! ## Select lines -/

namespace BusEv

/-- The levels of the select lines after a history, with those before it; low is `true`. -/
def levels (lv : Nat → Bool) : List BusEv → Nat → Bool
  | [] => lv
  | .select pad low :: w => levels (Function.update lv pad low) w
  | .clock _ :: w => levels lv w

/-- It is a byte. -/
def isClock : BusEv → Bool
  | .clock _ => true
  | .select _ _ => false

/-- What a device sees that goes by the edges. -/
def edges (lv : Nat → Bool) : List BusEv → List BusEv
  | [] => []
  | .select pad low :: w =>
      if lv pad = low then edges lv w
      else .select pad low :: edges (Function.update lv pad low) w
  | .clock x :: w => .clock x :: edges lv w

variable {lv : Nat → Bool} {u v w : List BusEv} {pad : Nat} {xs : List UInt8}

theorem levels_append : levels lv (u ++ v) = levels (levels lv u) v := by
  induction u generalizing lv with
  | nil => rfl
  | cons e u ih => cases e <;> exact ih

theorem edges_append : edges lv (u ++ v) = edges lv u ++ edges (levels lv u) v := by
  induction u generalizing lv with
  | nil => rfl
  | cons e u ih =>
      cases e with
      | clock x => exact congrArg (.clock x :: ·) ih
      | select pad low =>
          by_cases h : lv pad = low
          · have hsame : Function.update lv pad low = lv := by rw [← h, Function.update_eq_self]
            simp only [List.cons_append, edges, levels, if_pos h, hsame, ih]
          · simp only [List.cons_append, edges, levels, if_neg h, ih]

@[simp] theorem levels_clocks : levels lv (xs.map .clock) = lv := by
  induction xs with
  | nil => rfl
  | cons x xs ih => exact ih

@[simp] theorem edges_clocks : edges lv (xs.map .clock) = xs.map .clock := by
  induction xs with
  | nil => rfl
  | cons x xs ih => exact congrArg (.clock x :: ·) ih

/-- Driving a line to the level it has makes no difference. -/
theorem edges_redundant {low : Bool} (h : levels lv u pad = low) :
    edges lv (u ++ .select pad low :: v) = edges lv (u ++ v) := by
  rw [edges_append, edges_append, edges, if_pos h]

/-- A device that goes by the edges. -/
def GoesByEdges (D : BusDevice) : Prop :=
  ∀ w w', edges (fun _ => false) w = edges (fun _ => false) w' → D w = D w'

/-- It answers alike after histories with the same edges. -/
theorem GoesByEdges.answers {D : BusDevice} (hD : GoesByEdges D) {w' : List BusEv}
    (h : edges (fun _ => false) w = edges (fun _ => false) w') :
    Bus.answers D w xs = Bus.answers D w' xs := by
  induction xs generalizing w w' with
  | nil => rfl
  | cons x xs ih =>
      have hx : edges (fun _ => false) (w ++ [.clock x]) =
          edges (fun _ => false) (w' ++ [.clock x]) := by
        rw [edges_append, edges_append, h]
        rfl
      rw [Bus.answers, Bus.answers, hD _ _ hx, ih hx]

/-! ## The discipline of a shared bus -/

/-- All lines are high, up to one. -/
def Selects (lv : Nat → Bool) (sel : Option Nat) : Prop := ∀ pad, lv pad = true ↔ sel = some pad

variable {sel : Option Nat}

theorem Selects.update_true (h : Selects lv sel) (hsel : sel = none ∨ sel = some pad) :
    Selects (Function.update lv pad true) (some pad) := by
  intro other
  by_cases ho : other = pad
  · simp [ho]
  · rw [Function.update_of_ne ho, h other]
    rcases hsel with rfl | rfl <;> simp [Ne.symm ho]

theorem Selects.update_false (h : Selects lv sel) (hsel : sel = none ∨ sel = some pad) :
    Selects (Function.update lv pad false) none := by
  intro other
  by_cases ho : other = pad
  · simp [ho]
  · rw [Function.update_of_ne ho, h other]
    rcases hsel with rfl | rfl <;> simp [Ne.symm ho]

/-- What may come next: a line falls only while all others are high, and a byte is clocked while
exactly one is low. -/
def Proper (w : List BusEv) : BusEv → Prop
  | .select pad true => ∀ other, other ≠ pad → levels (fun _ => false) w other = false
  | .select _ false => True
  | .clock _ => ∃ pad, Selects (levels (fun _ => false) w) (some pad)

/-- Every event of a history was proper. -/
def Frames (w : List BusEv) : Prop := Trace.Justified Proper w

theorem frames_nil : Frames [] := Trace.justified_nil

/-- A line may fall if no other is low. -/
theorem Frames.fall (h : Frames w) (hs : Selects (levels (fun _ => false) w) sel)
    (hsel : sel = none ∨ sel = some pad) : Frames (w ++ [.select pad true]) := by
  refine Trace.Justified.snoc h fun other ho => ?_
  rw [Bool.eq_false_iff, Ne, hs other]
  rcases hsel with rfl | rfl <;> simp [Ne.symm ho]

/-- A line may rise at any time. -/
theorem Frames.rise (h : Frames w) : Frames (w ++ [.select pad false]) :=
  Trace.Justified.snoc h trivial

/-- Bytes are clocked while one line is low. -/
theorem Frames.clocks (h : Frames w) (hs : Selects (levels (fun _ => false) w) (some pad)) :
    Frames (w ++ xs.map .clock) := by
  induction xs using List.reverseRecOn with
  | nil => simpa using h
  | append_singleton xs x ih =>
      rw [List.map_append, ← List.append_assoc]
      refine Trace.Justified.snoc ih ⟨pad, ?_⟩
      rwa [levels_append, levels_clocks]

end BusEv

end Cc3501eBridge
