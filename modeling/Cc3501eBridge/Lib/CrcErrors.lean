import Cc3501eBridge.Lib.Bytes
import Cc3501eBridge.Lib.Crc16
import Mathlib.Algebra.Group.Nat.Even

/-!
# The errors a CRC-16 detects

Two classical properties of the code of `Lib.Crc16`, over byte strings of any length.  A string and
its code have a fixed parity, because the polynomial has the factor `x + 1` (`regParity_bitStep`), so
an odd number of flipped bits shows.  And a burst of at most sixteen bits shows, because a register
that has taken in a one and then fifteen more bits cannot be zero (`low_clear_of_foldl_feed`).

The code consumes a string bit by bit, most significant bit of each byte first; `bits` is the string
in that order and `flips` the positions at which two strings differ.
-/

namespace Cc3501eBridge.Crc16

/-! ## Bit strings -/

/-- The bits of a byte, most significant first. -/
def byteBits (b : UInt8) : List Bool := (List.range 8).map fun j => b.toBitVec.getLsbD (7 - j)

/-- The bits of a byte string in the order in which the code consumes them. -/
def bits (bytes : List UInt8) : List Bool := bytes.flatMap byteBits

/-- The positions at which two strings differ. -/
def flips (xs ys : List UInt8) : List Bool := List.zipWith xor (bits xs) (bits ys)

/-- Feed one bit. -/
def feed (crc : UInt16) (b : Bool) : UInt16 := bitStep (crc ^^^ if b then 0x8000 else 0)

@[simp] theorem length_byteBits (b : UInt8) : (byteBits b).length = 8 := by simp [byteBits]

@[simp] theorem length_bits (bytes : List UInt8) : (bits bytes).length = 8 * bytes.length := by
  induction bytes with
  | nil => rfl
  | cons b bytes ih =>
      change (byteBits b ++ bits bytes).length = _
      rw [List.length_append, length_byteBits, ih, List.length_cons]
      omega

@[simp] theorem bits_append (xs ys : List UInt8) : bits (xs ++ ys) = bits xs ++ bits ys :=
  List.flatMap_append

theorem flips_append {xs xs' ys ys' : List UInt8} (h : xs.length = xs'.length) :
    flips (xs ++ ys) (xs' ++ ys') = flips xs xs' ++ flips ys ys' := by
  unfold flips
  rw [bits_append, bits_append, List.zipWith_append]
  simp [h]

/-- Bytes with the same bits are the same. -/
theorem eq_of_byteBits {a b : UInt8} (h : byteBits a = byteBits b) : a = b := by
  rw [← UInt8.toBitVec_inj]
  apply BitVec.eq_of_getLsbD_eq
  intro i hi
  have hj := congrArg (fun bs => bs[7 - i]?) h
  have hsub : 7 - (7 - i) = i := by omega
  simpa [byteBits, hsub, show 7 - i < 8 by omega] using hj

theorem eq_of_bits {xs ys : List UInt8} (h : bits xs = bits ys) : xs = ys := by
  induction xs generalizing ys with
  | nil =>
      have hlen : (bits ys).length = 0 := by rw [← h]; rfl
      rw [length_bits] at hlen
      exact (List.eq_nil_of_length_eq_zero (by omega)).symm
  | cons x xs ih =>
      cases ys with
      | nil =>
          have hlen : (bits (x :: xs)).length = 0 := by rw [h]; rfl
          simp at hlen
      | cons y ys =>
          change byteBits x ++ bits xs = byteBits y ++ bits ys at h
          obtain ⟨hx, hxs⟩ := List.append_inj h (by simp)
          rw [eq_of_byteBits hx, ih hxs]

theorem eq_of_not_mem_zipWith {as bs : List Bool} (hlen : as.length = bs.length)
    (h : true ∉ List.zipWith xor as bs) : as = bs := by
  induction as generalizing bs with
  | nil => exact (List.eq_nil_of_length_eq_zero hlen.symm).symm
  | cons a as ih =>
      cases bs with
      | nil => simp at hlen
      | cons b bs =>
          simp only [List.zipWith_cons_cons, List.mem_cons, not_or] at h
          have hab : a = b := by
            cases a <;> cases b <;> first | rfl | exact absurd rfl h.1
          rw [hab, ih (by simpa using hlen) h.2]

/-- Strings of one length between which nothing is flipped are equal. -/
theorem eq_of_not_mem_flips {xs ys : List UInt8} (hlen : xs.length = ys.length)
    (h : true ∉ flips xs ys) : xs = ys :=
  eq_of_bits (eq_of_not_mem_zipWith (by simp [hlen]) h)

/-! ## Linearity -/

theorem feed_xor (c d : UInt16) (a b : Bool) : feed (c ^^^ d) (a ^^ b) = feed c a ^^^ feed d b := by
  unfold feed
  rw [← bitStep_xor]
  congr 1
  cases a <;> cases b
  · simp
  · simp [UInt16.xor_assoc]
  · simp only [Bool.xor_false, if_true, Bool.false_eq_true, if_false, UInt16.xor_zero]
    ac_rfl
  · have hself : (0x8000 ^^^ 0x8000 : UInt16) = 0 := UInt16.xor_self
    simp only [Bool.xor_self, Bool.false_eq_true, if_false, if_true]
    rw [← hself]
    ac_rfl

theorem foldl_feed_xor {as bs : List Bool} (h : as.length = bs.length) (c d : UInt16) :
    (List.zipWith xor as bs).foldl feed (c ^^^ d) = as.foldl feed c ^^^ bs.foldl feed d := by
  induction as generalizing bs c d with
  | nil =>
      obtain rfl : bs = [] := List.eq_nil_of_length_eq_zero h.symm
      rfl
  | cons a as ih =>
      cases bs with
      | nil => simp at h
      | cons b bs =>
          have hl : as.length = bs.length := by simpa using h
          simp only [List.zipWith_cons_cons, List.foldl_cons, feed_xor]
          exact ih hl _ _

/-- Feeding zeros is shifting. -/
theorem foldl_feed_replicate (n : Nat) (c : UInt16) :
    (List.replicate n false).foldl feed c = bitSteps n c := by
  induction n generalizing c with
  | zero => rfl
  | succ n ih =>
      have hfeed : feed c false = bitStep c := by simp [feed]
      rw [List.replicate_succ, List.foldl_cons, ih, hfeed]
      rfl

/-- A byte is fed bit by bit. -/
theorem updateByte_eq_foldl (c : UInt16) (b : UInt8) :
    updateByte c b = (byteBits b).foldl feed c := by
  have hzero : ∀ i : Fin 256, bitSteps 8 ((UInt8.ofNat i).toUInt16 <<< 8) =
      (byteBits (UInt8.ofNat i)).foldl feed 0 := by decide +kernel
  have hbyte : bitSteps 8 (b.toUInt16 <<< 8) = (byteBits b).foldl feed 0 := by
    simpa using hzero ⟨b.toNat, b.toNat_lt⟩
  have hzip : List.zipWith xor (List.replicate 8 false) (byteBits b) = byteBits b := by
    simp [byteBits, List.range_succ]
  have hlen : (List.replicate 8 false).length = (byteBits b).length := by simp
  have hsum := foldl_feed_xor hlen c 0
  rw [hzip, UInt16.xor_zero, foldl_feed_replicate, ← hbyte] at hsum
  rw [updateByte, bitSteps_xor, hsum]

theorem update_eq_foldl (c : UInt16) (bytes : List UInt8) :
    update c bytes = (bits bytes).foldl feed c := by
  induction bytes generalizing c with
  | nil => rfl
  | cons b bytes ih =>
      change _ = (byteBits b ++ bits bytes).foldl feed c
      rw [update_cons, ih, updateByte_eq_foldl, List.foldl_append]

/-- The codes of two strings differ by the code of the error, from a zero register. -/
theorem foldl_flips {xs ys : List UInt8} (h : xs.length = ys.length) (c : UInt16) :
    (flips xs ys).foldl feed 0 = update c xs ^^^ update c ys := by
  have hlen : (bits xs).length = (bits ys).length := by simp [h]
  rw [update_eq_foldl, update_eq_foldl, ← foldl_feed_xor hlen, UInt16.xor_self]
  rfl

/-! ## Bursts -/

theorem bitStep_getLsbD_zero (c : UInt16) :
    (bitStep c).toBitVec.getLsbD 0 = c.toBitVec.msb := by
  rw [bitStep_eq]
  cases c.toBitVec.msb <;> simp [poly]

theorem bitStep_getLsbD_succ {c : UInt16} (hc : c.toBitVec.msb = false) {i : Nat} (hi : i < 15) :
    (bitStep c).toBitVec.getLsbD (i + 1) = c.toBitVec.getLsbD i := by
  rw [bitStep_eq, hc]
  simp
  omega

theorem eq_zero_of_bitStep {c : UInt16} (h : bitStep c = 0) : c = 0 := by
  have hmsb : c.toBitVec.msb = false := by
    rw [← bitStep_getLsbD_zero, h]
    rfl
  rw [← UInt16.toBitVec_inj]
  apply BitVec.eq_of_getLsbD_eq
  intro i hi
  rcases Nat.lt_or_ge i 15 with hlt | hge
  · rw [← bitStep_getLsbD_succ hmsb hlt, h]
    simp
  · obtain rfl : i = 15 := by omega
    simpa [BitVec.msb_eq_getLsbD_last] using hmsb

theorem eq_zero_of_bitSteps {n : Nat} {c : UInt16} (h : bitSteps n c = 0) : c = 0 := by
  induction n generalizing c with
  | zero => exact h
  | succ n ih => exact eq_zero_of_bitStep (ih h)

/-- A register that `n` more bits can still bring to zero has ones among its top `n` bits only. -/
theorem low_clear_of_foldl_feed {bs : List Bool} (hlen : bs.length ≤ 15) {c : UInt16}
    (h : bs.foldl feed c = 0) {i : Nat} (hi : i + bs.length < 16) :
    c.toBitVec.getLsbD i = false := by
  induction bs generalizing c i with
  | nil =>
      obtain rfl : c = 0 := h
      simp
  | cons b bs ih =>
      simp only [List.length_cons] at hlen hi
      set d := c ^^^ (if b then 0x8000 else 0) with hd
      have hnext : ∀ j, j + bs.length < 16 → (bitStep d).toBitVec.getLsbD j = false :=
        fun j hj => ih (by omega) h hj
      have hmsb : d.toBitVec.msb = false := by
        rw [← bitStep_getLsbD_zero]
        exact hnext 0 (by omega)
      have hbit : d.toBitVec.getLsbD i = false := by
        rw [← bitStep_getLsbD_succ hmsb (by omega)]
        exact hnext (i + 1) (by omega)
      -- the bit fed in went to the top
      have htop : (if b then (0x8000 : UInt16) else 0).toBitVec.getLsbD i = false := by
        have hlow : ∀ j : Fin 15, (0x8000 : UInt16).toBitVec.getLsbD j = false := by decide
        cases b
        · simp
        · exact hlow ⟨i, by omega⟩
      rw [hd, UInt16.toBitVec_xor, BitVec.getLsbD_xor, htop, Bool.xor_false] at hbit
      exact hbit

/-- An error whose bits lie within sixteen consecutive places leaves a trace in the register. -/
theorem foldl_feed_ne_zero {bs : List Bool} (hne : true ∈ bs) {k : Nat}
    (hk : ∀ i, bs[i]? = some true → k ≤ i ∧ i < k + 16) : bs.foldl feed 0 ≠ 0 := by
  induction bs generalizing k with
  | nil => simp at hne
  | cons b bs ih =>
      cases b with
      | false =>
          have hfeed : feed 0 false = 0 := by decide
          rw [List.foldl_cons, hfeed]
          apply ih (k := k - 1) (by simpa using hne)
          intro i hi
          have := hk (i + 1) (by simpa using hi)
          omega
      | true =>
          intro h
          have h0 : k = 0 := Nat.le_zero.mp (hk 0 rfl).1
          subst h0
          have hzeros : bs.drop 15 = List.replicate (bs.length - 15) false := by
            refine List.eq_replicate_iff.mpr ⟨by simp, ?_⟩
            intro b hb
            obtain ⟨j, hj⟩ := List.mem_iff_getElem?.mp hb
            rw [List.getElem?_drop] at hj
            cases b with
            | false => rfl
            | true =>
                have := (hk (15 + j + 1) (by simpa using hj)).2
                omega
          have hsplit : (bs.take 15).foldl feed (feed 0 true) = 0 := by
            rw [List.foldl_cons, ← List.take_append_drop 15 bs, List.foldl_append, hzeros,
              foldl_feed_replicate] at h
            exact eq_zero_of_bitSteps h
          have hlen : (bs.take 15).length ≤ 15 := by
            rw [List.length_take]
            omega
          have hodd := low_clear_of_foldl_feed hlen hsplit (i := 0) (by omega)
          exact absurd hodd (by decide)

/-! ## Parity -/

/-- Whether an odd number of bits is set. -/
def parity (bs : List Bool) : Bool := bs.foldr xor false

/-- The parity of a register. -/
def regParity (c : UInt16) : Bool := parity ((List.range 16).map fun i => c.toBitVec.getLsbD i)

@[simp] theorem parity_nil : parity [] = false := rfl

@[simp] theorem parity_cons (b : Bool) (bs : List Bool) : parity (b :: bs) = (b ^^ parity bs) := rfl

@[simp] theorem parity_append (as bs : List Bool) :
    parity (as ++ bs) = (parity as ^^ parity bs) := by
  induction as with
  | nil => simp
  | cons a as ih => simp [ih]

theorem parity_perm {as bs : List Bool} (h : as.Perm bs) : parity as = parity bs := by
  induction h with
  | nil => rfl
  | cons a _ ih => rw [parity_cons, parity_cons, ih]
  | swap a b l => exact Bool.xor_left_comm b a (parity l)
  | trans _ _ ih₁ ih₂ => exact ih₁.trans ih₂

theorem parity_zipWith {as bs : List Bool} (h : as.length = bs.length) :
    parity (List.zipWith xor as bs) = (parity as ^^ parity bs) := by
  induction as generalizing bs with
  | nil =>
      obtain rfl : bs = [] := List.eq_nil_of_length_eq_zero h.symm
      rfl
  | cons a as ih =>
      cases bs with
      | nil => simp at h
      | cons b bs =>
          simp only [List.zipWith_cons_cons, parity_cons, ih (by simpa using h)]
          cases a <;> cases b <;> simp

theorem parity_eq_true_iff (bs : List Bool) : parity bs = true ↔ Odd (bs.count true) := by
  induction bs with
  | nil => simp
  | cons b bs ih =>
      cases b with
      | false => simpa using ih
      | true =>
          rw [parity_cons, List.count_cons_self, Nat.odd_add_one, ← ih]
          simp

theorem regParity_xor (c d : UInt16) : regParity (c ^^^ d) = (regParity c ^^ regParity d) := by
  unfold regParity
  rw [← parity_zipWith (by simp), List.zipWith_map, List.zipWith_self]
  simp

theorem regParity_shiftLeft (c : UInt16) :
    regParity (c <<< 1) = (regParity c ^^ c.toBitVec.msb) := by
  have hbit : ∀ i, (c <<< 1).toBitVec.getLsbD i = (decide (i < 16) && !decide (i < 1) &&
      c.toBitVec.getLsbD (i - 1)) := by
    intro i
    change (c.toBitVec <<< 1).getLsbD i = _
    rw [BitVec.getLsbD_shiftLeft]
  simp only [regParity, List.range_succ, List.range_zero, List.nil_append, List.map_append,
    List.map_cons, List.map_nil, parity_append, parity_cons, parity_nil, hbit,
    BitVec.msb_eq_getLsbD_last]
  simp

/-- A bit step keeps the parity: when a one falls out, the three terms of the polynomial make up for
it. -/
theorem regParity_bitStep (c : UInt16) : regParity (bitStep c) = regParity c := by
  have hpoly : regParity poly = true := by decide
  have hzero : regParity 0 = false := by decide
  rw [bitStep_eq, regParity_xor, regParity_shiftLeft]
  cases c.toBitVec.msb
  · simp [hzero]
  · simp [hpoly]

theorem regParity_feed (c : UInt16) (b : Bool) : regParity (feed c b) = (regParity c ^^ b) := by
  have hbit : regParity (if b then 0x8000 else 0) = b := by cases b <;> decide
  rw [feed, regParity_bitStep, regParity_xor, hbit]

theorem regParity_foldl_feed (bs : List Bool) (c : UInt16) :
    regParity (bs.foldl feed c) = (regParity c ^^ parity bs) := by
  induction bs generalizing c with
  | nil => simp
  | cons b bs ih => rw [List.foldl_cons, ih, regParity_feed, parity_cons, Bool.xor_assoc]

/-- The two bytes of a word have its parity: they hold its bits in another order. -/
theorem parity_bits_le16 (v : UInt16) : parity (bits (le16 v)) = regParity v := by
  have hlow : ∀ i, i < 8 → v.toUInt8.toBitVec.getLsbD i = v.toBitVec.getLsbD i := by
    intro i hi
    simp [hi]
  have hhigh : ∀ i, i < 8 → (v >>> 8).toUInt8.toBitVec.getLsbD i = v.toBitVec.getLsbD (8 + i) := by
    intro i hi
    simp [hi, UInt16.toBitVec_shiftRight]
  have hbits : bits (le16 v) =
      ((List.range 8).map (7 - ·) ++ (List.range 8).map (8 + (7 - ·))).map v.toBitVec.getLsbD := by
    simp only [bits, le16, List.flatMap_cons, List.flatMap_nil, List.append_nil, byteBits,
      List.map_append, List.map_map]
    congr 1
    · exact List.map_congr_left fun i _ => hlow _ (by omega)
    · exact List.map_congr_left fun i _ => hhigh _ (by omega)
  rw [hbits, regParity]
  apply parity_perm
  apply List.Perm.map
  decide

/-- A string followed by its code has the parity of the initial register. -/
theorem parity_codeword (c : UInt16) (bytes : List UInt8) :
    parity (bits (bytes ++ le16 (update c bytes))) = regParity c := by
  rw [bits_append, parity_append, parity_bits_le16, update_eq_foldl, regParity_foldl_feed,
    Bool.xor_comm, Bool.xor_assoc, Bool.xor_self, Bool.xor_false]

/-! ## Detection -/

/-- Two strings with their codes never differ in an odd number of bits. -/
theorem codeword_flips_even {c : UInt16} {xs ys : List UInt8} (h : xs.length = ys.length) :
    ¬ Odd ((flips (xs ++ le16 (update c xs)) (ys ++ le16 (update c ys))).count true) := by
  have hlen : (bits (xs ++ le16 (update c xs))).length =
      (bits (ys ++ le16 (update c ys))).length := by simp [h]
  rw [← parity_eq_true_iff, flips, parity_zipWith hlen, parity_codeword, parity_codeword,
    Bool.xor_self]
  exact Bool.false_ne_true

/-- Two strings that differ within sixteen consecutive bits have different codes. -/
theorem update_ne_of_burst {c : UInt16} {xs ys : List UInt8} (h : xs.length = ys.length)
    (hne : true ∈ flips xs ys) {k : Nat}
    (hk : ∀ i, (flips xs ys)[i]? = some true → k ≤ i ∧ i < k + 16) :
    update c xs ≠ update c ys := by
  intro heq
  apply foldl_feed_ne_zero hne hk
  rw [foldl_flips h c, heq, UInt16.xor_self]

end Cc3501eBridge.Crc16
