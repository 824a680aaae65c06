import Cc3501eBridge.Lib.FullDuplex
import Cc3501eBridge.Wire

/-!
# Transfers on the connector's SPI1

The CC3501E is the controller of the SPI1 of the connector, with chip selects that it drives itself.
`cc3501e_hw_spi1_transfer` hands the driver one transaction when the host sends data.  When it does
not, the fill byte is clocked through a window of `fill_chunk`, one transaction per window, with the
received bytes stored one window behind the other.

On success the windows come to the one transaction that clocks as many fill bytes
(`fillWindows_clocks`), whatever the device answers and however long the tail is.  The chip select
has an edge before the first byte, and one after the last unless the host asked to hold it and every
window went through.

The driver is open: it may refuse a transaction, or end it early after any number of bytes.
-/

namespace Cc3501eBridge

/-- How the driver ends a transaction. -/
inductive XferOutcome where
  /-- `SPI_transfer` returns false. -/
  | refused
  /-- The status is not `SPI_TRANSFER_COMPLETED`, after `k` bytes. -/
  | ended (k : Nat)
  | completed
deriving DecidableEq

/-- The controller: `spi1 != NULL`, `cs_pad`, `cs_held` and `fill_chunk`, and its bus. -/
structure Spi1Master where
  isOpen : Bool
  csPad : Nat
  csHeld : Bool
  fillChunk : Buf
  bus : Bus

/-- `sizeof(fill_chunk)`. -/
def fillChunkSize : Nat := 64

/-- The next window, `left` bytes from the end. -/
def windowSize (left : Nat) : Nat := if left > fillChunkSize then fillChunkSize else left

/-- `cs_drive`. -/
def csDrive (s : Spi1Master) (assertLow : Bool) : Spi1Master :=
  { s with bus := s.bus.select s.csPad assertLow, csHeld := assertLow }

/-- Clock a string without touching the chip select. -/
def Spi1Master.clocks (D : BusDevice) (rx : Option Nat) (xs : List UInt8) (s : Spi1Master) :
    Spi1Master :=
  { s with bus := s.bus.clocks D rx xs }

/-- `memset` of `fill_chunk`. -/
def Spi1Master.memsetFill (s : Spi1Master) (txFill : UInt8) : Spi1Master :=
  { s with fillChunk := s.fillChunk.write 0 (List.replicate fillChunkSize txFill) }

section

variable (D : BusDevice)

/-- `spi1_xfer`, with what the driver makes of it. -/
def spi1Xfer (o : XferOutcome) (tx : Buf) (rx : Option Nat) (count : Nat) (s : Spi1Master) :
    Bool × Spi1Master :=
  match o with
  | .refused => (false, s)
  | .ended k => (false, s.clocks D rx (tx.read 0 (min k count)))
  | .completed => (true, s.clocks D rx (tx.read 0 count))

variable (drv : Nat → XferOutcome)

/-- The loop over the windows of `fill_chunk`, from window `i` on with `left` bytes to go. -/
def fillWindows (i : Nat) (rx : Option Nat) (left : Nat) (s : Spi1Master) : Int × Spi1Master :=
  if left = 0 then (hwOk, s)
  else
    let n := windowSize left
    match spi1Xfer D (drv i) s.fillChunk rx n s with
    | (false, s) => (hwErrState, s)
    | (true, s) => fillWindows (i + 1) (rx.map (· + n)) (left - n) s
termination_by left
decreasing_by
  have hsize : 0 < fillChunkSize := by decide
  unfold windowSize
  split <;> omega

/-- What `cc3501e_hw_spi1_transfer` does between the edges of the chip select. -/
def spi1Body (tx : Option Buf) (rx : Option Nat) (len : Nat) (txFill : UInt8)
    (s : Spi1Master) : Int × Spi1Master :=
  if len = 0 then (hwOk, s)
  else
    match tx with
    | some data =>
        let (ok, s) := spi1Xfer D (drv 0) data rx len s
        (if ok then hwOk else hwErrState, s)
    | none => fillWindows D drv 0 rx len (s.memsetFill txFill)

/-- `cc3501e_hw_spi1_transfer`. -/
def hwSpi1Transfer (tx : Option Buf) (rx : Option Nat) (len : Nat) (txFill : UInt8)
    (csHold : Bool) (s : Spi1Master) : Int × Spi1Master :=
  if s.isOpen = false then (hwErrNotimpl, s)
  else if len > spi1MaxXfer then (hwErrInval, s)
  else
    let (rv, s) := spi1Body D drv tx rx len txFill (csDrive s true)
    if csHold = false ∨ rv ≠ hwOk then (rv, csDrive s false) else (rv, s)

end

/-! ## One window -/

section

variable {D : BusDevice} {drv : Nat → XferOutcome} {o : XferOutcome} {s : Spi1Master}
variable {rx : Option Nat} {xs ys : List UInt8} {fill : UInt8} {i k n left len : Nat}

theorem Spi1Master.clocks_clocks :
    (s.clocks D rx xs).clocks D (rx.map (· + xs.length)) ys = s.clocks D rx (xs ++ ys) := by
  simp only [clocks, Bus.clocks_append]

/-- `fill_chunk` holds the fill byte throughout. -/
def Spi1Master.Filled (s : Spi1Master) (fill : UInt8) : Prop :=
  s.fillChunk.read 0 fillChunkSize = List.replicate fillChunkSize fill

theorem Spi1Master.filled_memsetFill (s : Spi1Master) (fill : UInt8) :
    (s.memsetFill fill).Filled fill := by
  let bytes := List.replicate fillChunkSize fill
  have hread : (s.fillChunk.write 0 bytes).read 0 bytes.length = bytes := Buf.read_write
  rwa [List.length_replicate] at hread

/-- A window of any size is fill bytes. -/
theorem Spi1Master.Filled.read (hf : s.Filled fill) (hn : n ≤ fillChunkSize) :
    s.fillChunk.read 0 n = List.replicate n fill := by
  rw [Buf.read_within hf (by omega), List.drop_zero, List.take_replicate, Nat.min_eq_left hn]

/-- A transaction from `fill_chunk` clocks fill bytes, all of them if it completes. -/
theorem spi1Xfer_fill (D : BusDevice) (o : XferOutcome) (rx : Option Nat) (hf : s.Filled fill) (hn : n ≤ fillChunkSize) :
    ∃ k ≤ n, spi1Xfer D o s.fillChunk rx n s =
        (decide (o = .completed), s.clocks D rx (List.replicate k fill)) ∧
      (o = .completed → k = n) := by
  cases o with
  | refused => exact ⟨0, Nat.zero_le n, rfl, nofun⟩
  | ended k =>
      have hk : min k n ≤ n := Nat.min_le_right k n
      refine ⟨min k n, hk, ?_, nofun⟩
      rw [spi1Xfer, hf.read (hk.trans hn)]
      rfl
  | completed =>
      refine ⟨n, Nat.le_refl n, ?_, fun _ => rfl⟩
      rw [spi1Xfer, hf.read hn]
      rfl

/-! ## All windows -/

/-- The number of windows that `left` bytes take. -/
def windowCount (left : Nat) : Nat := (left + (fillChunkSize - 1)) / fillChunkSize

theorem windowSize_le (left : Nat) :
    windowSize left ≤ left ∧ windowSize left ≤ fillChunkSize := by
  unfold windowSize
  split <;> omega

theorem windowCount_eq (h : left ≠ 0) :
    windowCount left = windowCount (left - windowSize left) + 1 := by
  unfold windowCount windowSize fillChunkSize
  split <;> omega

/-- The loop clocks fill bytes as one transaction would, and all of them if it succeeds. -/
theorem fillWindows_clocks (D : BusDevice) (drv : Nat → XferOutcome) (i : Nat) (rx : Option Nat)
    (left : Nat) (hf : s.Filled fill) : ∃ k ≤ left,
    (fillWindows D drv i rx left s).2 = s.clocks D rx (List.replicate k fill) ∧
      ((fillWindows D drv i rx left s).1 = hwOk → k = left) := by
  fun_induction fillWindows D drv i rx left s with
  | case1 i rx s => exact ⟨0, Nat.le_refl 0, rfl, fun _ => rfl⟩
  | case2 i rx left s h0 n s' hx =>
      obtain ⟨hle, hsize⟩ := windowSize_le left
      obtain ⟨k, hk, hxfer, -⟩ := spi1Xfer_fill D (drv i) rx hf hsize
      obtain ⟨-, rfl⟩ := Prod.mk.inj (hx.symm.trans hxfer)
      have hne : hwErrState ≠ hwOk := by decide
      exact ⟨k, hk.trans hle, rfl, fun h => absurd h hne⟩
  | case3 i rx left s h0 n s' hx ih =>
      obtain ⟨hle, hsize⟩ := windowSize_le left
      obtain ⟨k, hk, hxfer, hall⟩ := spi1Xfer_fill D (drv i) rx hf hsize
      obtain ⟨hok, rfl⟩ := Prod.mk.inj (hx.symm.trans hxfer)
      have hkn : k = n := hall (of_decide_eq_true hok.symm)
      -- the next window goes on where this one ended, in memory as on the wire
      obtain ⟨m, hm, hrest, hlast⟩ := ih hf
      refine ⟨n + m, by omega, ?_, fun h => by rw [hlast h]; omega⟩
      rw [hrest, List.replicate_add, ← Spi1Master.clocks_clocks, List.length_replicate, hkn]

/-- The loop succeeds, or reports a state error. -/
theorem fillWindows_rv : (fillWindows D drv i rx left s).1 = hwOk ∨
    (fillWindows D drv i rx left s).1 = hwErrState := by
  fun_induction fillWindows D drv i rx left s with
  | case1 i rx s => exact .inl rfl
  | case2 i rx left s h0 n s' hx => exact .inr rfl
  | case3 i rx left s h0 n s' hx ih => exact ih

/-- The loop succeeds if the driver completes every window. -/
theorem fillWindows_ok (D : BusDevice) (drv : Nat → XferOutcome) (i : Nat) (rx : Option Nat)
    (left : Nat) (hf : s.Filled fill) : (fillWindows D drv i rx left s).1 = hwOk ↔
    ∀ j < windowCount left, drv (i + j) = .completed := by
  fun_induction fillWindows D drv i rx left s with
  | case1 i rx s => simp [windowCount, fillChunkSize]
  | case2 i rx left s h0 n s' hx =>
      obtain ⟨k, -, hxfer, -⟩ :=
        spi1Xfer_fill D (drv i) rx hf (windowSize_le left).2
      obtain ⟨hno, -⟩ := Prod.mk.inj (hx.symm.trans hxfer)
      have hne : hwErrState ≠ hwOk := by decide
      refine iff_of_false hne fun hall => ?_
      have hi := hall 0 (by rw [windowCount_eq h0]; omega)
      exact of_decide_eq_false hno.symm hi
  | case3 i rx left s h0 n s' hx ih =>
      obtain ⟨k, -, hxfer, -⟩ :=
        spi1Xfer_fill D (drv i) rx hf (windowSize_le left).2
      obtain ⟨hok, rfl⟩ := Prod.mk.inj (hx.symm.trans hxfer)
      rw [ih hf, windowCount_eq h0, Nat.forall_lt_succ_left]
      simp only [Nat.add_zero, of_decide_eq_true hok.symm, true_and, Nat.add_assoc, Nat.add_comm 1]
      exact Iff.rfl

/-! ## The transfer -/

/-- The bus after a transfer that clocked `xs`, with the chip select held or not. -/
def Bus.transfer (D : BusDevice) (b : Bus) (pad : Nat) (rx : Option Nat) (xs : List UInt8)
    (held : Bool) : Bus :=
  let b := (b.select pad true).clocks D rx xs
  if held then b else b.select pad false

theorem Bus.transfer_wire {b : Bus} {pad : Nat} {held : Bool} :
    (b.transfer D pad rx xs held).wire = b.wire ++ .select pad true :: xs.map .clock ++
      if held then [] else [.select pad false] := by
  cases held <;> simp [Bus.transfer]

theorem Bus.transfer_mem {b : Bus} {pad : Nat} {held : Bool} :
    (b.transfer D pad rx xs held).mem = ((b.select pad true).clocks D rx xs).mem := by
  cases held <;> rfl

/-- The chip select is left as it is only if the host asked for it and all went well. -/
def csKept (csHold : Bool) (rv : Int) : Bool := csHold && decide (rv = hwOk)

/-- What the transfer is once it is known what it has clocked. -/
theorem hwSpi1Transfer_of_body {tx : Option Buf} {csHold : Bool} {rv : Int} (chunk : Buf)
    (ho : s.isOpen = true) (hlen : len ≤ spi1MaxXfer)
    (hb : spi1Body D drv tx rx len fill (csDrive s true) =
      (rv, { csDrive s true with fillChunk := chunk }.clocks D rx xs)) :
    hwSpi1Transfer D drv tx rx len fill csHold s =
      (rv, { s with
        csHeld := csKept csHold rv
        fillChunk := chunk
        bus := s.bus.transfer D s.csPad rx xs (csKept csHold rv) }) := by
  have ho' : ¬ s.isOpen = false := by simp [ho]
  rw [hwSpi1Transfer, if_neg ho', if_neg (Nat.not_lt.mpr hlen), hb]
  by_cases hk : csHold = false ∨ rv ≠ hwOk
  · have hkept : csKept csHold rv = false := by
      rcases hk with rfl | hrv
      · rfl
      · simp [csKept, hrv]
    rw [hkept]
    exact if_pos hk
  · obtain ⟨hhold, hrv⟩ := not_or.mp hk
    have hkept : csKept csHold rv = true := by simp_all [csKept]
    rw [hkept]
    exact if_neg hk

/-- Without data, fill bytes are clocked: all of them if every window completes. -/
theorem spi1Body_fill (D : BusDevice) (drv : Nat → XferOutcome) (rx : Option Nat) (len : Nat)
    (fill : UInt8) (s : Spi1Master) : ∃ chunk, ∃ k ≤ len, ∃ rv,
    spi1Body D drv none rx len fill s =
        (rv, { s with fillChunk := chunk }.clocks D rx (List.replicate k fill)) ∧
      (rv = hwOk ∨ rv = hwErrState) ∧ (rv = hwOk → k = len) ∧
      (rv = hwOk ↔ ∀ i < windowCount len, drv i = .completed) := by
  by_cases h0 : len = 0
  · refine ⟨s.fillChunk, 0, Nat.zero_le len, hwOk, ?_, .inl rfl, fun _ => h0.symm, ?_⟩
    · rw [spi1Body, if_pos h0]
      rfl
    · simp [h0, windowCount, fillChunkSize]
  · have hf := s.filled_memsetFill fill
    obtain ⟨k, hk, hs, hlast⟩ := fillWindows_clocks D drv 0 rx len hf
    refine ⟨(s.memsetFill fill).fillChunk, k, hk, (fillWindows D drv 0 rx len _).1, ?_,
      fillWindows_rv, hlast, ?_⟩
    · rw [spi1Body, if_neg h0]
      exact Prod.ext rfl hs
    · simpa only [Nat.zero_add] using fillWindows_ok D drv 0 rx len hf

/-- With data, a transaction that completes clocks it. -/
theorem spi1Body_data {data : Buf} :
    spi1Body D (fun _ => .completed) (some data) rx len fill s =
      (hwOk, s.clocks D rx (data.read 0 len)) := by
  by_cases h0 : len = 0
  · rw [spi1Body, if_pos h0, h0]
    rfl
  · rw [spi1Body, if_neg h0]
    rfl

end

/-- A transfer of fill bytes that is as good as one transaction. -/
structure AsOneTransfer (D : BusDevice) (drv : Nat → XferOutcome) (rx : Option Nat) (len : Nat)
    (fill : UInt8) (csHold : Bool) (s : Spi1Master) (out : Int × Spi1Master) : Prop where
  /-- It succeeds exactly when the driver completes every window. -/
  ok : out.1 = hwOk ↔ ∀ i < windowCount len, drv i = .completed
  failed : out.1 ≠ hwOk → out.1 = hwErrState
  /-- The chip select has no edge between the first byte and the last, and success clocks them all.
  It ends asserted if holding it was asked for and nothing failed, and deasserted otherwise. -/
  wire : ∃ k ≤ len, (out.1 = hwOk → k = len) ∧
    out.2.bus.wire = s.bus.wire ++ .select s.csPad true :: List.replicate k (.clock fill) ++
      if csHold = true ∧ out.1 = hwOk then [] else [.select s.csPad false]
  csHeld : out.2.csHeld = true ↔ csHold = true ∧ out.1 = hwOk
  /-- On success the answer to each byte is at its place. -/
  stored : ∀ a, rx = some a → out.1 = hwOk → ∀ i < len, out.2.bus.mem (a + i) =
    D (s.bus.wire ++ .select s.csPad true :: List.replicate (i + 1) (.clock fill))
  /-- Nothing is stored elsewhere, whatever the outcome. -/
  elsewhere : ∀ j, (∀ a, rx = some a → j < a ∨ a + len ≤ j) → out.2.bus.mem j = s.bus.mem j
  /-- On success, sending the fill bytes as data in a single transaction does the same. -/
  single : out.1 = hwOk → ∃ t,
    hwSpi1Transfer D (fun _ => .completed) (some fun _ => fill) rx len fill csHold s = (hwOk, t) ∧
      out.2.bus = t.bus ∧ out.2.csHeld = t.csHeld

/-- Clocking the fill byte through windows is one transaction. -/
theorem spi1_windows {D : BusDevice} {drv : Nat → XferOutcome} {rx : Option Nat} {len : Nat}
    {fill : UInt8} {csHold : Bool} {s : Spi1Master} (ho : s.isOpen = true)
    (hlen : len ≤ spi1MaxXfer) :
    AsOneTransfer D drv rx len fill csHold s (hwSpi1Transfer D drv none rx len fill csHold s) := by
  obtain ⟨chunk, k, hk, rv, hbody, hrv, hlast, hok⟩ := 
    spi1Body_fill D drv rx len fill (csDrive s true)
  rw [hwSpi1Transfer_of_body chunk ho hlen hbody]
  have hkept : csKept csHold rv = true ↔ csHold = true ∧ rv = hwOk := by simp [csKept]
  refine ⟨hok, fun h => hrv.resolve_left h, ⟨k, hk, hlast, ?_⟩, hkept, ?_, ?_, ?_⟩
  · simp only [Bus.transfer_wire, List.map_replicate, hkept]
  · rintro a rfl h i hi
    obtain rfl : k = len := hlast h
    simp only [Bus.transfer_mem]
    rw [Bus.clocks_mem_get (by simpa using hi), List.take_replicate, Nat.min_eq_left hi,
      List.map_replicate, Bus.select_wire, List.append_assoc]
    rfl
  · intro j hj
    simp only [Bus.transfer_mem]
    cases rx with
    | none => rw [Bus.clocks_mem_none, Bus.select_mem]
    | some a =>
        have hout := hj a rfl
        rw [Bus.clocks_mem_outside (by rw [List.length_replicate]; omega), Bus.select_mem]
  · intro h
    obtain rfl : k = len := hlast h
    obtain rfl : rv = hwOk := h
    have hdata : Buf.read (fun _ => fill) 0 k = List.replicate k fill := by simp [Buf.read]
    refine ⟨_, hwSpi1Transfer_of_body s.fillChunk ho hlen ?_, rfl, rfl⟩
    rw [spi1Body_data, hdata]
    rfl

/-- The controller after an accepted configuration, on the pad of the first chip select. -/
def spi1Opened : Spi1Master where
  isOpen := true
  csPad := 31
  csHeld := false
  fillChunk := Buf.zero
  bus := { wire := [], mem := Buf.zero }

/-- A read of 130 bytes takes two whole windows and a tail of two. -/
theorem spi1_windows_tail :
    AsOneTransfer (fun h => UInt8.ofNat h.length) (fun _ => .completed) (some 16) 130 0xFF true
        spi1Opened (hwSpi1Transfer (fun h => UInt8.ofNat h.length) (fun _ => .completed) none
          (some 16) 130 0xFF true spi1Opened) ∧
      windowCount 130 = 3 :=
  ⟨spi1_windows rfl (by decide), by decide⟩

end Cc3501eBridge
