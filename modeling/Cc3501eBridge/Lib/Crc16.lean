import Mathlib.Data.List.Basic
import Mathlib.Tactic.NormNum

/-!
# CRC-16/CCITT-FALSE, bit by bit and by table

The cyclic redundancy code with polynomial `0x1021`, fed most significant bit first and started
from the register `0xFFFF`.  Two forms of the same function are given: `update` shifts the register
one bit at a time, `updateTable` consumes a whole byte through a lookup in a 256-entry table whose
entry `i` is the register reached from zero by the single byte `i`.

The two agree because one bit step is linear over exclusive or (`bitStep_xor`): the register before
a byte splits into its low half, which eight steps merely move up, and its high half, which is the
table's index.  Nothing here knows about frames or about where the bytes come from.

`Memo` is the table as a program keeps it, built on first use: a table with a flag, where a raised
flag guarantees the contents.
-/

namespace Cc3501eBridge.Crc16

/-! ## The bitwise register -/

/-- The generator polynomial, without its leading term. -/
def poly : UInt16 := 0x1021

/-- The register every frame starts from. -/
def initReg : UInt16 := 0xFFFF

/-- Shift the register by one bit, folding the polynomial in when a one falls out. -/
def bitStep (crc : UInt16) : UInt16 :=
  if crc &&& 0x8000 = 0 then crc <<< 1 else (crc <<< 1) ^^^ poly

/-- `n` bit steps. -/
def bitSteps : Nat → UInt16 → UInt16
  | 0, crc => crc
  | n + 1, crc => bitSteps n (bitStep crc)

/-- Feed one byte, most significant bit first. -/
def updateByte (crc : UInt16) (b : UInt8) : UInt16 :=
  bitSteps 8 (crc ^^^ (b.toUInt16 <<< 8))

/-- Feed a byte string. -/
def update (crc : UInt16) (bytes : List UInt8) : UInt16 :=
  bytes.foldl updateByte crc

@[simp] theorem update_nil (crc : UInt16) : update crc [] = crc := rfl

@[simp] theorem update_cons (crc : UInt16) (b : UInt8) (bytes : List UInt8) :
    update crc (b :: bytes) = update (updateByte crc b) bytes := rfl

/-- Feeding two buffers in turn is feeding their concatenation. -/
theorem update_append (crc : UInt16) (xs ys : List UInt8) :
    update crc (xs ++ ys) = update (update crc xs) ys :=
  List.foldl_append

/-! ## Linearity -/

/-- The bit that falls out of the register, as a mask that is all ones or all zeros. -/
theorem bitStep_eq (x : UInt16) :
    bitStep x = (x <<< 1) ^^^ (if x.toBitVec.msb then poly else 0) := by
  have hbit : (x &&& 0x8000 = 0) ↔ x.toBitVec.msb = false := by
    rw [← UInt16.toBitVec_inj, BitVec.msb_eq_getLsbD_last]
    constructor
    · intro h
      have := congrArg (fun v : BitVec 16 => v.getLsbD 15) h
      simpa using this
    · intro h
      apply BitVec.eq_of_getLsbD_eq
      intro i hi
      rcases Nat.lt_or_ge i 15 with hlt | hge
      · have : (0x8000#16).getLsbD i = false := by
          revert hlt
          revert i
          decide
        simp [this]
      · obtain rfl : i = 15 := by omega
        simpa using h
  unfold bitStep
  by_cases h : x &&& 0x8000 = 0
  · rw [if_pos h, if_neg (by rw [hbit.mp h]; decide)]
    simp
  · have hmsb : x.toBitVec.msb = true := by
      rw [← Bool.not_eq_false, ← hbit]
      exact h
    rw [if_neg h, if_pos hmsb]

/-- One bit step is linear over exclusive or. -/
theorem bitStep_xor (x y : UInt16) : bitStep (x ^^^ y) = bitStep x ^^^ bitStep y := by
  have hshift : (x ^^^ y) <<< 1 = (x <<< 1) ^^^ (y <<< 1) := by
    rw [← UInt16.toBitVec_inj]
    simp [BitVec.shiftLeft_xor_distrib]
  rw [bitStep_eq, bitStep_eq, bitStep_eq, hshift]
  have hmsb : (x ^^^ y).toBitVec.msb = (x.toBitVec.msb ^^ y.toBitVec.msb) := by simp
  rw [hmsb]
  cases x.toBitVec.msb <;> cases y.toBitVec.msb
  · simp
  · simp [UInt16.xor_assoc]
  · simp only [Bool.xor_false, if_true, Bool.false_eq_true, if_false, UInt16.xor_zero]
    ac_rfl
  · have hpoly : (poly ^^^ poly : UInt16) = 0 := UInt16.xor_self
    simp only [Bool.xor_self, Bool.false_eq_true, if_false, if_true]
    rw [← hpoly]
    ac_rfl

/-- Any number of bit steps is linear over exclusive or. -/
theorem bitSteps_xor (n : Nat) (x y : UInt16) :
    bitSteps n (x ^^^ y) = bitSteps n x ^^^ bitSteps n y := by
  induction n generalizing x y with
  | zero => rfl
  | succ n ih => rw [bitSteps, bitStep_xor, ih]; rfl

/-- Eight steps of a register whose high half is clear only move the low half up. -/
theorem bitSteps_eight_low (b : UInt8) : bitSteps 8 b.toUInt16 = b.toUInt16 <<< 8 := by
  have h : ∀ i : Fin 256, bitSteps 8 (UInt8.ofNat i).toUInt16 = (UInt8.ofNat i).toUInt16 <<< 8 := by
    decide +kernel
  have := h ⟨b.toNat, b.toNat_lt⟩
  simpa using this

/-! ## The table -/

/-- Entry `i` of the lookup table: the single byte `i` fed to a zero register. -/
def tableEntry (i : UInt8) : UInt16 := update 0 [i]

/-- Feed one byte through a lookup table. -/
def updateByteTable (table : UInt8 → UInt16) (crc : UInt16) (b : UInt8) : UInt16 :=
  (crc <<< 8) ^^^ table ((crc >>> 8).toUInt8 ^^^ b)

/-- Feed a byte string through a lookup table. -/
def updateTable (table : UInt8 → UInt16) (crc : UInt16) (bytes : List UInt8) : UInt16 :=
  bytes.foldl (updateByteTable table) crc

/-- A shift by a whole byte, as a shift of bit vectors. -/
private theorem toBitVec_shiftLeft_eight (x : UInt16) :
    (x <<< 8).toBitVec = x.toBitVec <<< 8 := by
  rw [UInt16.toBitVec_shiftLeft]
  rfl

private theorem toBitVec_shiftRight_eight (x : UInt16) :
    (x >>> 8).toBitVec = x.toBitVec >>> 8 := by
  rw [UInt16.toBitVec_shiftRight]
  rfl

/-- A register splits into its low half and its high half moved up. -/
private theorem reg_split (x : UInt16) :
    x = x.toUInt8.toUInt16 ^^^ ((x >>> 8).toUInt8.toUInt16 <<< 8) := by
  rw [← UInt16.toBitVec_inj]
  apply BitVec.eq_of_getLsbD_eq
  intro i hi
  simp only [UInt16.toBitVec_xor, toBitVec_shiftLeft_eight, toBitVec_shiftRight_eight,
    UInt8.toBitVec_toUInt16, UInt16.toBitVec_toUInt8, BitVec.getLsbD_xor,
    BitVec.getLsbD_shiftLeft, BitVec.getLsbD_setWidth, BitVec.getLsbD_ushiftRight]
  rcases Nat.lt_or_ge i 8 with hlt | hge
  · simp [hlt, hi]
  · have h8 : 8 + (i - 8) = i := by omega
    simp [hi, h8, show ¬ i < 8 by omega, show i - 8 < 8 by omega, show i - 8 < 16 by omega]

/-- The low half of the register pushed out by a whole byte. -/
private theorem low_shift (x : UInt16) : x.toUInt8.toUInt16 <<< 8 = x <<< 8 := by
  rw [← UInt16.toBitVec_inj]
  apply BitVec.eq_of_getLsbD_eq
  intro i hi
  simp only [toBitVec_shiftLeft_eight, UInt8.toBitVec_toUInt16, UInt16.toBitVec_toUInt8,
    BitVec.getLsbD_shiftLeft, BitVec.getLsbD_setWidth]
  rcases Nat.lt_or_ge i 8 with hlt | hge
  · simp [hlt]
  · simp [show i - 8 < 8 by omega, show i - 8 < 16 by omega]

/-- A byte mixed into the high half of the register and split off again. -/
private theorem reg_xor_split (crc : UInt16) (b : UInt8) :
    crc ^^^ (b.toUInt16 <<< 8) =
      crc.toUInt8.toUInt16 ^^^ (((crc >>> 8).toUInt8 ^^^ b).toUInt16 <<< 8) := by
  have hshift : (((crc >>> 8).toUInt8 ^^^ b).toUInt16 <<< 8) =
      ((crc >>> 8).toUInt8.toUInt16 <<< 8) ^^^ (b.toUInt16 <<< 8) := by
    rw [← UInt16.toBitVec_inj]
    simp [BitVec.shiftLeft_xor_distrib]
  rw [hshift, ← UInt16.xor_assoc, ← reg_split]

/-- One byte through the table is one byte bit by bit. -/
theorem updateByteTable_tableEntry (crc : UInt16) (b : UInt8) :
    updateByteTable tableEntry crc b = updateByte crc b := by
  unfold updateByte updateByteTable
  rw [reg_xor_split, bitSteps_xor, bitSteps_eight_low, low_shift]
  simp [tableEntry, updateByte]

/-- The table form computes the bitwise form, from every register and on every byte string. -/
theorem updateTable_tableEntry (crc : UInt16) (bytes : List UInt8) :
    updateTable tableEntry crc bytes = update crc bytes := by
  induction bytes generalizing crc with
  | nil => rfl
  | cons b bytes ih =>
      change updateTable tableEntry (updateByteTable tableEntry crc b) bytes = _
      rw [ih, updateByteTable_tableEntry, update_cons]

/-! ## The table built on first use -/

/-- A lookup table with its `ready` flag; a raised flag guarantees the contents. -/
structure Memo where
  table : UInt8 → UInt16
  ready : Bool
  valid : ready = true → table = tableEntry

namespace Memo

/-- Fill every entry and raise the flag. -/
def build : Memo where
  table := tableEntry
  ready := true
  valid := fun _ => rfl

/-- There is only one table that is built. -/
theorem eq_of_ready {m m' : Memo} (h : m.ready = true) (h' : m'.ready = true) : m = m' := by
  obtain ⟨table, ready, valid⟩ := m
  obtain ⟨table', ready', valid'⟩ := m'
  obtain rfl : ready = true := h
  obtain rfl : ready' = true := h'
  obtain rfl : table = Crc16.tableEntry := valid rfl
  obtain rfl : table' = Crc16.tableEntry := valid' rfl
  rfl

/-- Build the table unless that has already happened. -/
def ensure (m : Memo) : Memo := if m.ready then m else build

theorem ensure_of_ready {m : Memo} (h : m.ready = true) : m.ensure = m := by simp [ensure, h]

@[simp] theorem ensure_ready (m : Memo) : m.ensure.ready = true := by
  unfold ensure
  split
  · assumption
  · rfl

@[simp] theorem ensure_ensure (m : Memo) : m.ensure.ensure = m.ensure :=
  ensure_of_ready m.ensure_ready

/-- Whatever state the table was found in, a guarded lookup computes the bitwise code. -/
@[simp] theorem updateTable_ensure (m : Memo) (crc : UInt16) (bytes : List UInt8) :
    updateTable m.ensure.table crc bytes = update crc bytes := by
  rw [m.ensure.valid m.ensure_ready, updateTable_tableEntry]

end Memo

end Cc3501eBridge.Crc16
