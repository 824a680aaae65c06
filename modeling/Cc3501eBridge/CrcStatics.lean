import Cc3501eBridge.Frame
import Mathlib.Logic.Function.Basic

/-!
# The CRC table in memory

`crc16_table` and `crc16_table_ready` as `protocol.c` keeps them, filled from the bitwise
`alp_crc16_ccitt_false_update` either at boot or when the first byte is fed.  That function comes
from a header of the host library, so it is a parameter here, and what is assumed of it is that it
is the bitwise code.

In every state that calls can reach, a raised flag means a filled table (`Holds`).  That is the field
that `Crc16.Memo` carries, so the framing, which is written over a `Memo`, sees this memory
(`crc16TableUpdate_memo`), and bytes fed through the table come to the bitwise code from any register.
-/

namespace Cc3501eBridge

/-- `crc16_table` and `crc16_table_ready`. -/
structure CrcStatics where
  table : UInt8 → UInt16
  ready : Bool

namespace CrcStatics

/-- The statics before anything has run. -/
def boot : CrcStatics where
  table := fun _ => 0
  ready := false

section

variable (bitwise : UInt16 → List UInt8 → UInt16)

/-- The first `n` rounds of the loop in `crc16_table_init`. -/
def fill : Nat → (UInt8 → UInt16) → UInt8 → UInt16
  | 0, table => table
  | i + 1, table =>
      let b := UInt8.ofNat i
      Function.update (fill i table) b (bitwise 0 [b])

/-- `crc16_table_init`. -/
def crc16TableInit (t : CrcStatics) : CrcStatics where
  table := fill bitwise 256 t.table
  ready := true

/-- `protocol_crc16_table_init`, which the boot path calls. -/
def protocolCrc16TableInit (t : CrcStatics) : CrcStatics :=
  if t.ready = false then t.crc16TableInit bitwise else t

/-- `crc16_table_update`, which builds the table if nothing has. -/
def crc16TableUpdate (t : CrcStatics) (crc : UInt16) (buf : List UInt8) : UInt16 × CrcStatics :=
  let t := if t.ready = false then t.crc16TableInit bitwise else t
  (Crc16.updateTable t.table crc buf, t)

/-- A call that touches the statics. -/
inductive Call where
  | init
  | update (crc : UInt16) (buf : List UInt8)

/-- The statics after a call. -/
def call (t : CrcStatics) : Call → CrcStatics
  | .init => t.protocolCrc16TableInit bitwise
  | .update crc buf => (t.crc16TableUpdate bitwise crc buf).2

/-- The statics after the calls made since boot. -/
def afterCalls (calls : List Call) : CrcStatics := calls.foldl (call bitwise) boot

end

/-! ## The loop -/

section

variable {bitwise : UInt16 → List UInt8 → UInt16} {t : CrcStatics} {table : UInt8 → UInt16}
variable {crc : UInt16} {buf : List UInt8} {n : Nat} {b : UInt8}

/-- After `n` rounds the first `n` entries are filled. -/
theorem fill_apply (hn : n ≤ 256) :
    fill bitwise n table b = if b.toNat < n then bitwise 0 [b] else table b := by
  induction n with
  | zero => rfl
  | succ n ih =>
      have hnat : (UInt8.ofNat n).toNat = n := UInt8.toNat_ofNat_of_lt' (by change n < 256; omega)
      rw [fill]
      by_cases hb : b = UInt8.ofNat n
      · have hlt : b.toNat < n + 1 := by rw [hb, hnat]; omega
        rw [if_pos hlt, hb]
        exact Function.update_self ..
      · have hne : b.toNat ≠ n := fun h => hb (UInt8.toNat_inj.mp (h.trans hnat.symm))
        have hlt : b.toNat < n + 1 ↔ b.toNat < n := by omega
        refine (Function.update_of_ne hb _ _).trans ?_
        rw [ih (by omega)]
        simp only [hlt]

/-- The loop fills every entry, whatever was there. -/
theorem fill_all : fill bitwise 256 table = fun b => bitwise 0 [b] := by
  funext b
  rw [fill_apply (Nat.le_refl 256), if_pos b.toNat_lt]

/-! ## The invariant -/

/-- A raised flag means a filled table. -/
def Holds (t : CrcStatics) : Prop := t.ready = true → t.table = Crc16.tableEntry

theorem holds_boot : boot.Holds := nofun

/-! ## The bitwise code -/

variable (hbit : ∀ crc bytes, bitwise crc bytes = Crc16.update crc bytes)
include hbit

/-- Building fills the table with the entries of the bitwise code. -/
theorem crc16TableInit_eq :
    t.crc16TableInit bitwise = { table := Crc16.tableEntry, ready := true } := by
  rw [crc16TableInit, fill_all]
  congr 1
  funext b
  rw [hbit]
  rfl

/-- Once the flag has been looked at the table is there. -/
theorem Holds.protocolCrc16TableInit_eq (h : t.Holds) :
    t.protocolCrc16TableInit bitwise = { table := Crc16.tableEntry, ready := true } := by
  unfold protocolCrc16TableInit
  split_ifs with hr
  · exact crc16TableInit_eq hbit
  · have hready : t.ready = true := Bool.eq_true_of_not_eq_false hr
    rw [← h hready, ← hready]

/-- One call keeps the invariant. -/
theorem Holds.call (h : t.Holds) (c : Call) : (t.call bitwise c).Holds := by
  intro _
  have hstatics : t.call bitwise c = t.protocolCrc16TableInit bitwise := by cases c <;> rfl
  rw [hstatics, h.protocolCrc16TableInit_eq hbit]

/-- So do the calls since boot. -/
theorem holds_afterCalls (calls : List Call) : (afterCalls bitwise calls).Holds :=
  List.foldlRecOn calls _ holds_boot fun _ h c _ => h.call hbit c

/-- The bytes are fed as the bitwise code feeds them. -/
theorem Holds.crc16TableUpdate_fst (h : t.Holds) :
    (t.crc16TableUpdate bitwise crc buf).1 = Crc16.update crc buf := by
  have htable : (t.crc16TableUpdate bitwise crc buf).1 =
      Crc16.updateTable (t.protocolCrc16TableInit bitwise).table crc buf := rfl
  rw [htable, h.protocolCrc16TableInit_eq hbit, Crc16.updateTable_tableEntry]

end

/-! ## The table of the framing -/

/-- The table that the framing is given. -/
def Holds.memo {t : CrcStatics} (h : t.Holds) : Crc16.Memo where
  table := t.table
  ready := t.ready
  valid := h

/-- Feeding bytes over the statics is what the framing does over its table. -/
theorem crc16TableUpdate_memo {bitwise : UInt16 → List UInt8 → UInt16}
    (hbit : ∀ crc bytes, bitwise crc bytes = Crc16.update crc bytes) {t : CrcStatics}
    (h : t.Holds) (crc : UInt16) (buf : List UInt8) :
    (Cc3501eBridge.crc16TableUpdate h.memo crc buf).1 = (t.crc16TableUpdate bitwise crc buf).1 ∧
      (Cc3501eBridge.crc16TableUpdate h.memo crc buf).2 =
        (h.call hbit (.update crc buf)).memo := by
  constructor
  · rw [h.crc16TableUpdate_fst hbit]
    exact h.memo.updateTable_ensure crc buf
  · apply Crc16.Memo.eq_of_ready h.memo.ensure_ready
    exact congrArg ready (h.protocolCrc16TableInit_eq hbit)

/-- Two buffers fed through the table, one after the other, come to the bitwise code of both. -/
theorem crc16_table_chained {bitwise : UInt16 → List UInt8 → UInt16}
    (hbit : ∀ crc bytes, bitwise crc bytes = Crc16.update crc bytes) (calls : List Call)
    (crc : UInt16) (xs ys : List UInt8) :
    let first := (afterCalls bitwise calls).crc16TableUpdate bitwise crc xs
    (first.2.crc16TableUpdate bitwise first.1 ys).1 = Crc16.update crc (xs ++ ys) := by
  have hstart := holds_afterCalls hbit calls
  have hfirst : ((afterCalls bitwise calls).crc16TableUpdate bitwise crc xs).2.Holds :=
    hstart.call hbit (.update crc xs)
  dsimp only
  rw [hfirst.crc16TableUpdate_fst hbit, hstart.crc16TableUpdate_fst hbit, Crc16.update_append]

/-- The check value of the code, fed in two pieces with the table built on the way. -/
theorem crc16_table_chained_check :
    let first := (afterCalls Crc16.update []).crc16TableUpdate Crc16.update Crc16.initReg
      [0x31, 0x32, 0x33, 0x34]
    (first.2.crc16TableUpdate Crc16.update first.1 [0x35, 0x36, 0x37, 0x38, 0x39]).1 = 0x29B1 :=
  (crc16_table_chained (fun _ _ => rfl) [] Crc16.initReg [0x31, 0x32, 0x33, 0x34]
    [0x35, 0x36, 0x37, 0x38, 0x39]).trans (by decide +kernel)

end CrcStatics

end Cc3501eBridge
