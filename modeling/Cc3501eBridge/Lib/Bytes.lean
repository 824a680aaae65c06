import Mathlib.Data.List.Basic
import Mathlib.Data.List.Range
import Mathlib.Tactic.NormNum

/-!
# Bytes in memory

Little-endian words and byte buffers.  A buffer is a function from offsets to bytes: a program that
keeps an array of `n` bytes only ever reads and writes offsets below `n`, and the lemmas below
(`read_write`, `read_write_of_disjoint`) say what survives of one range when another is written.
`write` stores a whole string, which is how a `memcpy` is modelled when nobody can look at the
buffer half way; a copy that can be interrupted is a sequence of `set`s.
-/

namespace Cc3501eBridge

/-! ## Little-endian words -/

/-- The two bytes of a 16-bit word, low byte first. -/
def le16 (v : UInt16) : List UInt8 := [v.toUInt8, (v >>> 8).toUInt8]

/-- The four bytes of a 32-bit word, low byte first. -/
def le32 (v : UInt32) : List UInt8 :=
  [v.toUInt8, (v >>> 8).toUInt8, (v >>> 16).toUInt8, (v >>> 24).toUInt8]

/-- Read a 16-bit word from its low and its high byte. -/
def getLe16 (lo hi : UInt8) : UInt16 := lo.toUInt16 ||| (hi.toUInt16 <<< 8)

/-- Read a 32-bit word from its four bytes, low byte first. -/
def getLe32 (b0 b1 b2 b3 : UInt8) : UInt32 :=
  b0.toUInt32 ||| (b1.toUInt32 <<< 8) ||| (b2.toUInt32 <<< 16) ||| (b3.toUInt32 <<< 24)

@[simp] theorem length_le16 (v : UInt16) : (le16 v).length = 2 := rfl

theorem toNat_getLe16 (lo hi : UInt8) : (getLe16 lo hi).toNat = lo.toNat + 256 * hi.toNat := by
  have hlo := lo.toNat_lt
  have hhi := hi.toNat_lt
  have hshift : (hi.toUInt16 <<< 8).toNat = hi.toNat <<< 8 := by
    rw [UInt16.toNat_shiftLeft, UInt8.toNat_toUInt16, Nat.mod_eq_of_lt]
    · rfl
    · change hi.toNat <<< 8 < 2 ^ 16
      rw [Nat.shiftLeft_eq]
      omega
  rw [getLe16, UInt16.toNat_or, hshift, UInt8.toNat_toUInt16, Nat.or_comm,
    ← Nat.shiftLeft_add_eq_or_of_lt hlo hi.toNat, Nat.shiftLeft_eq]
  omega

theorem toNat_toUInt8_le16 (v : UInt16) : v.toUInt8.toNat = v.toNat % 256 := by
  simp

theorem toNat_shiftRight_eight (v : UInt16) : (v >>> 8).toUInt8.toNat = v.toNat / 256 := by
  have hv := v.toNat_lt
  have hshift : (v >>> 8).toNat = v.toNat >>> 8 := by
    rw [UInt16.toNat_shiftRight]
    rfl
  rw [UInt16.toNat_toUInt8, hshift, Nat.shiftRight_eq_div_pow]
  omega

/-- A word survives being stored and read back. -/
@[simp] theorem getLe16_le16 (v : UInt16) : getLe16 v.toUInt8 (v >>> 8).toUInt8 = v := by
  rw [← UInt16.toNat_inj, toNat_getLe16, toNat_toUInt8_le16, toNat_shiftRight_eight]
  omega

/-- Two stored words are equal only if the words are. -/
theorem le16_injective : Function.Injective le16 := by
  intro v w h
  have h0 : v.toUInt8 = w.toUInt8 ∧ (v >>> 8).toUInt8 = (w >>> 8).toUInt8 := by
    simpa only [le16, List.cons.injEq, and_true] using h
  rw [← getLe16_le16 v, ← getLe16_le16 w, h0.1, h0.2]

/-- A two-byte string is the word it spells. -/
theorem le16_getLe16 (lo hi : UInt8) : le16 (getLe16 lo hi) = [lo, hi] := by
  have hlo := lo.toNat_lt
  have h0 : (getLe16 lo hi).toUInt8 = lo := by
    rw [← UInt8.toNat_inj, toNat_toUInt8_le16, toNat_getLe16]
    omega
  have h1 : (getLe16 lo hi >>> 8).toUInt8 = hi := by
    rw [← UInt8.toNat_inj, toNat_shiftRight_eight, toNat_getLe16]
    omega
  rw [le16, h0, h1]

/-! ## Buffers -/

/-- A byte array, by offset. -/
abbrev Buf := Nat → UInt8

namespace Buf

/-- The buffer of zeros. -/
def zero : Buf := fun _ => 0

/-- Store one byte. -/
def set (b : Buf) (i : Nat) (v : UInt8) : Buf := fun j => if j = i then v else b j

/-- Store a byte string at an offset. -/
def write (b : Buf) (off : Nat) (xs : List UInt8) : Buf :=
  fun j => if off ≤ j then (xs[j - off]?).getD (b j) else b j

/-- The `n` bytes at an offset. -/
def read (b : Buf) (off n : Nat) : List UInt8 := (List.range n).map fun i => b (off + i)

variable {b : Buf} {off n : Nat} {xs : List UInt8}

@[simp] theorem length_read : (b.read off n).length = n := by simp [read]

@[simp] theorem read_zero : b.read off 0 = [] := rfl

theorem getElem?_read {i : Nat} : (b.read off n)[i]? = if i < n then some (b (off + i)) else none := by
  by_cases h : i < n <;> simp [read, h]

/-- A range is its first part followed by the rest. -/
theorem read_add (n m : Nat) : b.read off (n + m) = b.read off n ++ b.read (off + n) m := by
  simp [read, List.range_add, Nat.add_assoc]

theorem read_succ (n : Nat) : b.read off (n + 1) = b.read off n ++ [b (off + n)] := by
  rw [read_add]
  rfl

/-- A range within one that is known. -/
theorem read_within {k i : Nat} (h : b.read 0 k = xs) (hin : i + n ≤ k) :
    b.read i n = (xs.drop i).take n := by
  have hk : k = i + (n + (k - i - n)) := by omega
  rw [hk, read_add, read_add, Nat.zero_add] at h
  rw [← h, List.drop_left' length_read, List.take_left' length_read]

/-- Two buffers that agree on a range read the same there. -/
theorem read_congr {b' : Buf} (h : ∀ i < n, b (off + i) = b' (off + i)) :
    b.read off n = b'.read off n := by
  apply List.map_congr_left
  intro i hi
  exact h i (List.mem_range.mp hi)

theorem write_of_lt {j : Nat} (h : j < off) : b.write off xs j = b j := by
  rw [write, if_neg (by omega)]

theorem write_of_ge {j : Nat} (h : off + xs.length ≤ j) : b.write off xs j = b j := by
  have hlen : xs.length ≤ j - off := by omega
  rw [write, if_pos (by omega), List.getElem?_eq_none hlen, Option.getD_none]

theorem write_of_mem {i : Nat} (h : i < xs.length) : b.write off xs (off + i) = xs[i] := by
  simp [write, h]

/-- A stored string is read back. -/
@[simp] theorem read_write : (b.write off xs).read off xs.length = xs := by
  apply List.ext_getElem
  · simp
  · intro i h1 h2
    simp only [read, List.getElem_map, List.getElem_range]
    exact write_of_mem h2

/-- Writing elsewhere does not change a range. -/
theorem read_write_of_disjoint {o m : Nat} (h : o + m ≤ off ∨ off + xs.length ≤ o) :
    (b.write off xs).read o m = b.read o m := by
  apply read_congr
  intro i hi
  rcases h with h | h
  · exact write_of_lt (by omega)
  · exact write_of_ge (by omega)

/-- A string stored after a range extends what is read of it. -/
theorem read_write_end : (b.write n xs).read 0 (n + xs.length) = b.read 0 n ++ xs := by
  rw [read_add, read_write_of_disjoint (.inl (by omega)), Nat.zero_add, read_write]

@[simp] theorem set_self (b : Buf) (i : Nat) (v : UInt8) : b.set i v i = v := by simp [set]

theorem set_of_ne {i j : Nat} (b : Buf) (v : UInt8) (h : j ≠ i) : b.set i v j = b j := by
  simp [set, h]

/-- Storing past a range does not change it. -/
theorem read_set_of_ge {i : Nat} (b : Buf) (v : UInt8) (h : off + n ≤ i) :
    (b.set i v).read off n = b.read off n := by
  apply read_congr
  intro j hj
  exact set_of_ne b v (by omega)

/-- A copy that has stored the first `i` bytes of a string stores the next one. -/
theorem read_set_next {i : Nat} (b : Buf) (h : i < xs.length) (hb : b.read 0 i = xs.take i) :
    (b.set i xs[i]).read 0 (i + 1) = xs.take (i + 1) := by
  rw [read_succ, read_set_of_ge b _ (by omega), hb, Nat.zero_add, set_self,
    List.take_succ_eq_append_getElem h]

end Buf

end Cc3501eBridge
