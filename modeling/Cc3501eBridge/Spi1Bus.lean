import Cc3501eBridge.Reference
import Cc3501eBridge.Spi1Windows

/-!
# The bus of the connector's SPI1

Opening, using and releasing the bus: the bodies of `SPI1_CONFIGURE`, `SPI1_TRANSFER` and
`SPI1_RELEASE` in any order, over a driver that may refuse anything.  A transfer may leave its chip
select asserted for the next one, so that a command longer than a request is one command to the
device.

The controller keeps the discipline of a bus with two devices (`Frames`) in every run, and transfers
that hand on the chip select come to a single one.
-/

namespace Cc3501eBridge

open Trace BusEv

/-! ## The bodies -/

/-- `SPI1_CS0_PAD`. -/
def spi1Cs0Pad : Nat := 31

/-- `SPI1_CS1_PAD`. -/
def spi1Cs1Pad : Nat := 15

/-- `xfer_timeout_ticks`. -/
def xferTimeoutTicks (freqHz tickPeriod : UInt32) : Nat :=
  let us := spi1MaxXfer * 8 * 1000000 / freqHz.toNat + 100000
  let periodUs := if tickPeriod = 0 then 1000 else tickPeriod.toNat
  let ticks := (us + periodUs - 1) / periodUs
  let ticks := if ticks = 0 then 1 else ticks
  if ticks > 0xFFFFFFFE then 0xFFFFFFFE else ticks

/-- The wait is never none and never forever, and covers the longest transfer at the clock if it is
not cut. -/
theorem xferTimeoutTicks_covers (freqHz tickPeriod : UInt32) :
    let ticks := xferTimeoutTicks freqHz tickPeriod
    1 ≤ ticks ∧ ticks ≤ 0xFFFFFFFE ∧ (ticks < 0xFFFFFFFE →
      spi1MaxXfer * 8 * 1000000 / freqHz.toNat + 100000 ≤
        ticks * if tickPeriod = 0 then 1000 else tickPeriod.toNat) := by
  intro ticks
  have hperiod : 0 < if tickPeriod = 0 then 1000 else tickPeriod.toNat := by
    split_ifs with h
    · decide
    · exact UInt32.pos_iff_ne_zero.mpr h
  unfold ticks xferTimeoutTicks
  dsimp only
  generalize spi1MaxXfer * 8 * 1000000 / freqHz.toNat + 100000 = us
  generalize (if tickPeriod = 0 then 1000 else tickPeriod.toNat) = period at hperiod ⊢
  have hdiv := Nat.div_add_mod (us + period - 1) period
  have hmod := Nat.mod_lt (us + period - 1) hperiod
  rw [Nat.mul_comm] at hdiv
  generalize hq : (us + period - 1) / period = q at hdiv ⊢
  split_ifs with h0 hbig hbig
  · omega
  · exact ⟨by omega, by omega, fun _ => by rw [h0] at hdiv; omega⟩
  · exact ⟨by omega, by omega, fun h => absurd h (by omega)⟩
  · exact ⟨by omega, by omega, fun _ => by omega⟩

/-- What the instance is opened with; `frame` is `(CPOL << 1) | CPHA`. -/
structure Spi1Params where
  frame : UInt8
  dataSize : UInt8
  bitRate : UInt32
  transferTimeout : Nat
  deriving DecidableEq, Repr

/-- What `cc3501e_hw_spi1_configure` is given. -/
structure Spi1Config where
  freqHz : UInt32
  mode : UInt8
  bitsPerWord : UInt8
  cs : UInt8
  deriving DecidableEq, Repr

/-- The clock, the mode, the word and the chip select exist. -/
def Spi1Config.Valid (H : Header) (c : Spi1Config) : Prop :=
  ¬ (c.freqHz = 0 ∨ c.mode > 3 ∨ c.bitsPerWord ≠ 8 ∨ c.cs > H.spi1Cs1)

instance Spi1Config.decidableValid (H : Header) (c : Spi1Config) : Decidable (c.Valid H) :=
  inferInstanceAs (Decidable (¬ _))

/-- The parameters of `SPI_open`. -/
def Spi1Config.params (c : Spi1Config) (tickPeriod : UInt32) : Spi1Params where
  frame := c.mode
  dataSize := c.bitsPerWord
  bitRate := c.freqHz
  transferTimeout := xferTimeoutTicks c.freqHz tickPeriod

/-- `cc3501e_hw_spi1_configure`, with what `GPIO_setConfig` returns and whether `SPI_open` gives a
handle.  The pad is configured as an output that is high. -/
def hwSpi1Configure (H : Header) (c : Spi1Config) (gpioRc : Int) (tickPeriod : UInt32)
    (opens : Spi1Params → Bool) (s : Spi1Master) : Int × Spi1Master :=
  if ¬ c.Valid H then (hwErrInval, s)
  else if s.csHeld then (hwErrState, s)
  else
    let pad := if c.cs = H.spi1Cs1 then spi1Cs1Pad else spi1Cs0Pad
    let s := { s with isOpen := false, csPad := pad }
    if gpioRc ≠ 0 then (hwErrIo, s)
    else
      let s := csDrive { s with bus := s.bus.select pad false } false
      if opens (c.params tickPeriod) then (hwOk, { s with isOpen := true }) else (hwErrIo, s)

/-- `cc3501e_hw_spi1_release`. -/
def hwSpi1Release (s : Spi1Master) : Int × Spi1Master :=
  let s := if s.csHeld then csDrive s false else s
  (hwOk, { s with isOpen := false })

/-- The statics at boot: both selects are high. -/
def Spi1Master.boot : Spi1Master where
  isOpen := false
  csPad := spi1Cs0Pad
  csHeld := false
  fillChunk := Buf.zero
  bus := { wire := [], mem := Buf.zero }

/-! ## The machine -/

/-- A call, with what the driver makes of it. -/
inductive Spi1Act
  | configure (c : Spi1Config) (gpioRc : Int) (tickPeriod : UInt32) (opens : Spi1Params → Bool)
  | transfer (tx : Option Buf) (rx : Option Nat) (len : Nat) (txFill : UInt8) (csHold : Bool)
      (drv : Nat → XferOutcome)
  | release

/-- What the call returns and leaves. -/
def Spi1Act.perform (H : Header) (D : BusDevice) (s : Spi1Master) : Spi1Act → Int × Spi1Master
  | .configure c gpioRc tickPeriod opens => hwSpi1Configure H c gpioRc tickPeriod opens s
  | .transfer tx rx len txFill csHold drv => hwSpi1Transfer D drv tx rx len txFill csHold s
  | .release => hwSpi1Release s

/-- The controller as a machine; a step shows what the call returns. -/
def spi1System (H : Header) (D : BusDevice) : Machine Spi1Master Spi1Act Int where
  step s a := some ((a.perform H D s).2, (a.perform H D s).1)

section

variable {H : Header} {D : BusDevice} {drv : Nat → XferOutcome} {s s' : Spi1Master} {tr : List Int}
variable {tx : Option Buf} {rx : Option Nat} {fill : UInt8} {csHold : Bool} {len : Nat}

/-! ## One transfer -/

/-- Whatever the driver does, some bytes are clocked. -/
theorem spi1Body_clocks (D : BusDevice) (drv : Nat → XferOutcome) (tx : Option Buf)
    (rx : Option Nat) (len : Nat) (fill : UInt8) (s : Spi1Master) : ∃ chunk xs rv,
    spi1Body D drv tx rx len fill s = (rv, { s with fillChunk := chunk }.clocks D rx xs) := by
  cases tx with
  | none =>
      obtain ⟨chunk, k, -, rv, hb, -⟩ := spi1Body_fill D drv rx len fill s
      exact ⟨chunk, _, rv, hb⟩
  | some data =>
      unfold spi1Body
      by_cases h0 : len = 0
      · exact ⟨s.fillChunk, [], hwOk, if_pos h0⟩
      · rw [if_neg h0]
        cases ho : drv 0 with
        | refused => exact ⟨s.fillChunk, [], hwErrState, by simp [spi1Xfer, Spi1Master.clocks]⟩
        | ended k => exact ⟨s.fillChunk, _, hwErrState, by simp [spi1Xfer]; rfl⟩
        | completed => exact ⟨s.fillChunk, _, hwOk, by simp [spi1Xfer]; rfl⟩

/-- A transfer that is not refused is one of some bytes. -/
theorem hwSpi1Transfer_cases (D : BusDevice) (drv : Nat → XferOutcome) (tx : Option Buf)
    (rx : Option Nat) (len : Nat) (fill : UInt8) (csHold : Bool) (s : Spi1Master) :
    (hwSpi1Transfer D drv tx rx len fill csHold s).2 = s ∨ s.isOpen = true ∧ ∃ chunk xs rv,
      hwSpi1Transfer D drv tx rx len fill csHold s = (rv, { s with
        csHeld := csKept csHold rv
        fillChunk := chunk
        bus := s.bus.transfer D s.csPad rx xs (csKept csHold rv) }) := by
  by_cases ho : s.isOpen = true
  swap
  · left
    rw [hwSpi1Transfer, if_pos (by simpa using ho)]
  by_cases hlen : len ≤ spi1MaxXfer
  swap
  · left
    rw [hwSpi1Transfer, if_neg (by simp [ho]), if_pos (by omega)]
  obtain ⟨chunk, xs, rv, hb⟩ := spi1Body_clocks D drv tx rx len fill (csDrive s true)
  exact .inr ⟨ho, chunk, xs, rv, hwSpi1Transfer_of_body chunk ho hlen hb⟩

/-! ## The invariant -/

/-- The levels of the select lines. -/
def Spi1Master.low (s : Spi1Master) : Nat → Bool := levels (fun _ => false) s.bus.wire

/-- The line that is low. -/
def Spi1Master.selected (s : Spi1Master) : Option Nat := if s.csHeld then some s.csPad else none

/-- The bus has been used properly, and what is held is the pad of an open instance. -/
structure Spi1Selected (s : Spi1Master) : Prop where
  frames : Frames s.bus.wire
  selects : Selects s.low s.selected
  opened : s.csHeld = true → s.isOpen = true

theorem Spi1Selected.boot : Spi1Selected .boot where
  frames := frames_nil
  selects pad := by simp [Spi1Master.low, Spi1Master.selected, Spi1Master.boot, levels]
  opened h := by simp [Spi1Master.boot] at h

/-- A transfer on a bus on which no other line is low. -/
theorem Bus.transfer_frames {b : Bus} {pad : Nat} {sel : Option Nat} (hf : Frames b.wire)
    (hs : Selects (levels (fun _ => false) b.wire) sel) (hsel : sel = none ∨ sel = some pad)
    (D : BusDevice) (rx : Option Nat) (xs : List UInt8) (held : Bool) :
    Frames (b.transfer D pad rx xs held).wire ∧
      Selects (levels (fun _ => false) (b.transfer D pad rx xs held).wire)
        (if held then some pad else none) := by
  have hlow : Selects (levels (fun _ => false) (b.wire ++ [.select pad true])) (some pad) := by
    rw [levels_append]
    exact hs.update_true hsel
  have hclocked : Frames (b.wire ++ [.select pad true] ++ xs.map .clock) :=
    (hf.fall hs hsel).clocks hlow
  have hkept : Selects (levels (fun _ => false) (b.wire ++ [.select pad true] ++ xs.map .clock))
      (some pad) := by
    rwa [levels_append, levels_clocks]
  have hwire : b.wire ++ .select pad true :: xs.map .clock =
      b.wire ++ [.select pad true] ++ xs.map .clock := by simp
  rw [Bus.transfer_wire, hwire]
  cases held with
  | true => simpa using And.intro hclocked hkept
  | false =>
      refine ⟨hclocked.rise, ?_⟩
      rw [levels_append]
      exact hkept.update_false (.inr rfl)

theorem Spi1Master.selected_cases (s : Spi1Master) :
    s.selected = none ∨ s.selected = some s.csPad := by
  unfold selected
  split_ifs <;> simp

theorem Spi1Selected.transfer (hi : Spi1Selected s) :
    Spi1Selected (hwSpi1Transfer D drv tx rx len fill csHold s).2 := by
  rcases hwSpi1Transfer_cases D drv tx rx len fill csHold s with hs | ⟨ho, chunk, xs, rv, hs⟩
  · rw [hs]
    exact hi
  · rw [hs]
    obtain ⟨hframes, hselects⟩ := Bus.transfer_frames hi.frames hi.selects s.selected_cases D rx xs
      (csKept csHold rv)
    exact ⟨hframes, hselects, fun _ => ho⟩

/-- A select that is driven high. -/
theorem Spi1Selected.deselect (hi : Spi1Selected s) : Spi1Selected (csDrive s false) where
  frames := hi.frames.rise
  selects := by
    change Selects (levels _ (s.bus.wire ++ [.select s.csPad false])) none
    rw [levels_append]
    exact hi.selects.update_false s.selected_cases
  opened h := by simp [csDrive] at h

/-- While nothing is held, the instance may be closed and another pad chosen. -/
theorem Spi1Selected.close (hi : Spi1Selected s) (hh : s.csHeld = false) (pad : Nat) :
    Spi1Selected { s with isOpen := false, csPad := pad } where
  frames := hi.frames
  selects := by
    have h := hi.selects
    rw [Spi1Master.selected, hh] at h
    change Selects s.low (if s.csHeld then some pad else none)
    rw [hh]
    exact h
  opened h := by simp [hh] at h

theorem Spi1Selected.opens (hi : Spi1Selected s) : Spi1Selected { s with isOpen := true } where
  frames := hi.frames
  selects := hi.selects
  opened _ := rfl

theorem Spi1Selected.release (hi : Spi1Selected s) : Spi1Selected (hwSpi1Release s).2 := by
  unfold hwSpi1Release
  by_cases hh : s.csHeld = true
  · simp only [if_pos hh]
    exact hi.deselect.close rfl s.csPad
  · simp only [if_neg hh]
    exact hi.close (by simpa using hh) s.csPad

theorem Spi1Selected.configure (hi : Spi1Selected s) (c : Spi1Config) (gpioRc : Int)
    (tickPeriod : UInt32) (opens : Spi1Params → Bool) :
    Spi1Selected (hwSpi1Configure H c gpioRc tickPeriod opens s).2 := by
  unfold hwSpi1Configure
  by_cases hv : ¬ c.Valid H
  · rw [if_pos hv]
    exact hi
  rw [if_neg hv]
  by_cases hh : s.csHeld = true
  · rw [if_pos hh]
    exact hi
  rw [if_neg hh]
  have hclosed := hi.close (by simpa using hh) (if c.cs = H.spi1Cs1 then spi1Cs1Pad else spi1Cs0Pad)
  by_cases hg : gpioRc ≠ 0
  · rw [if_pos hg]
    exact hclosed
  rw [if_neg hg]
  have hhigh := hclosed.deselect.deselect
  by_cases ho : opens (c.params tickPeriod) = true
  · simp only [if_pos ho]
    exact hhigh.opens
  · simp only [if_neg ho]
    exact hhigh

theorem Spi1Selected.perform (hi : Spi1Selected s) (a : Spi1Act) :
    Spi1Selected (a.perform H D s).2 := by
  cases a with
  | configure c gpioRc tickPeriod opens => exact hi.configure c gpioRc tickPeriod opens
  | transfer tx rx len txFill csHold drv => exact hi.transfer
  | release => exact hi.release

/-- Every run keeps the discipline. -/
theorem Spi1Selected.of_run (hr : (spi1System H D).Run .boot tr s) : Spi1Selected s := by
  refine hr.invariant (P := fun _ s => Spi1Selected s) .boot ?_
  intro tr s a s' e hi hs
  obtain ⟨rfl, -⟩ : (a.perform H D s).2 = s' ∧ (a.perform H D s).1 = e := by
    simpa [spi1System] using hs
  exact hi.perform a

/-- While nothing is held, no select is low. -/
theorem Spi1Selected.not_low (hi : Spi1Selected s) (hh : s.csHeld = false) (pad : Nat) :
    s.low pad = false := by
  rw [Bool.eq_false_iff, Ne, hi.selects pad, Spi1Master.selected, hh]
  simp

/-- A call that fails changes nothing or holds nothing. -/
theorem csHeld_of_failed (a : Spi1Act) (hrv : (a.perform H D s).1 ≠ hwOk) :
    (a.perform H D s).2 = s ∨ (a.perform H D s).2.csHeld = false := by
  cases a with
  | configure c gpioRc tickPeriod opens =>
      change (hwSpi1Configure H c gpioRc tickPeriod opens s).2 = s ∨
        (hwSpi1Configure H c gpioRc tickPeriod opens s).2.csHeld = false
      unfold hwSpi1Configure
      by_cases hv : ¬ c.Valid H
      · exact .inl (by rw [if_pos hv])
      by_cases hh : s.csHeld = true
      · exact .inl (by rw [if_neg hv, if_pos hh])
      right
      rw [if_neg hv, if_neg hh]
      by_cases hg : gpioRc ≠ 0
      · rw [if_pos hg]
        exact Bool.eq_false_iff.mpr hh
      · rw [if_neg hg]
        by_cases ho : opens (c.params tickPeriod) = true
        · simp only [if_pos ho, csDrive]
        · simp only [if_neg ho, csDrive]
  | transfer tx rx len txFill csHold drv =>
      rcases hwSpi1Transfer_cases D drv tx rx len txFill csHold s with hs | ⟨-, chunk, xs, rv, hs⟩
      · exact .inl hs
      · right
        simp only [Spi1Act.perform, hs] at hrv ⊢
        simp [csKept, hrv]
  | release => exact absurd rfl hrv

/-- The bus is shared properly.  In every run, whatever the driver refuses: a select falls only
while the other is high, and bytes are clocked only while exactly one is low.  Between the calls the
select that is low, if any, is the held one of an open instance; while it is held a valid
`SPI1_CONFIGURE` is refused with `ERR_STATE` and changes nothing, and `SPI1_RELEASE` raises it; and
a call that fails changes nothing or leaves no select low. -/
theorem spi1_bus_framed (hr : (spi1System H D).Run .boot tr s) :
    Frames s.bus.wire ∧ Selects s.low s.selected ∧ (s.csHeld = true → s.isOpen = true) ∧
      (∀ c gpioRc tickPeriod opens, c.Valid H → s.csHeld = true →
        hwSpi1Configure H c gpioRc tickPeriod opens s = (hwErrState, s)) ∧
      (∀ pad, (hwSpi1Release s).2.low pad = false) ∧
      ∀ a : Spi1Act, (a.perform H D s).1 ≠ hwOk →
        (a.perform H D s).2 = s ∨ ∀ pad, (a.perform H D s).2.low pad = false := by
  have hi := Spi1Selected.of_run hr
  refine ⟨hi.frames, hi.selects, hi.opened, ?_, ?_, ?_⟩
  · intro c gpioRc tickPeriod opens hv hh
    rw [hwSpi1Configure, if_neg (not_not.mpr hv), if_pos hh]
  · refine hi.release.not_low ?_
    unfold hwSpi1Release
    by_cases hh : s.csHeld = true
    · simp only [if_pos hh, csDrive]
    · simp only [if_neg hh]
      exact Bool.eq_false_iff.mpr hh
  · intro a hrv
    exact (csHeld_of_failed a hrv).imp id (hi.perform a).not_low

/-- On the second select one transfer fails while it holds the select, and another one does not.
Then a configuration is refused. -/
theorem spi1_bus_framed_held : ∃ tr s,
    (spi1System .reference fun _ => 0).Run .boot tr s ∧ tr = [hwOk, hwErrState, hwOk] ∧
      Frames s.bus.wire ∧ Selects s.low (some 15) ∧
      (hwSpi1Configure .reference ⟨1000000, 0, 8, 0⟩ 0 1000 (fun _ => true) s).1 = hwErrState := by
  have hexec : ((spi1System .reference fun _ => 0).exec .boot
      [.configure ⟨1000000, 0, 8, 1⟩ 0 1000 fun _ => true,
        .transfer (some fun _ => 0x9F) (some 0) 1 0 true fun _ => .ended 0,
        .transfer (some fun _ => 0x9F) (some 0) 1 0 true fun _ => .completed]).map
      (fun x => (x.1.csHeld, x.1.csPad, x.2)) =
      some (true, 15, [hwOk, hwErrState, hwOk]) := by decide +kernel
  obtain ⟨⟨s, tr⟩, hs, hstate⟩ := Option.map_eq_some_iff.mp hexec
  simp only [Prod.mk.injEq] at hstate
  obtain ⟨hheld, hpad, rfl⟩ := hstate
  have hr := Machine.run_of_exec hs
  obtain ⟨hframes, hsel, -, hconf, -⟩ := spi1_bus_framed hr
  rw [Spi1Master.selected, hheld, hpad] at hsel
  exact ⟨_, s, hr, rfl, hframes, hsel, by rw [hconf _ _ _ _ (by decide) hheld]⟩

/-! ## A chain of transfers -/

end

/-- A transfer of a chain: data from the host, or fill bytes. -/
structure Spi1Chunk where
  tx : Option Buf
  len : Nat
  fill : UInt8

/-- What it clocks. -/
def Spi1Chunk.bytes (c : Spi1Chunk) : List UInt8 :=
  match c.tx with
  | some data => data.read 0 c.len
  | none => List.replicate c.len c.fill

/-- Transfers that hold the chip select up to the last one, each received at `a` and collected from
there: what each returns and receives, and the controller after them. -/
def spi1Chain (D : BusDevice) (a : Nat) :
    List Spi1Chunk → Spi1Master → List (Int × List UInt8) × Spi1Master
  | [], s => ([], s)
  | c :: cs, s =>
      let out := hwSpi1Transfer D (fun _ => .completed) c.tx (some a) c.len c.fill (!cs.isEmpty) s
      let rest := spi1Chain D a cs out.2
      ((out.1, out.2.bus.mem.read a c.len) :: rest.1, rest.2)

section

variable {H : Header} {D : BusDevice} {s : Spi1Master} {tr : List Int} {c : Spi1Chunk} {a : Nat}

@[simp] theorem Spi1Chunk.length_bytes (c : Spi1Chunk) : c.bytes.length = c.len := by
  unfold bytes
  split <;> simp

/-- A transfer that completes clocks its bytes. -/
theorem hwSpi1Transfer_chunk (ho : s.isOpen = true) (hlen : c.len ≤ spi1MaxXfer)
    (csHold : Bool) : ∃ chunk,
    hwSpi1Transfer D (fun _ => .completed) c.tx (some a) c.len c.fill csHold s = (hwOk, { s with
      csHeld := csHold
      fillChunk := chunk
      bus := s.bus.transfer D s.csPad (some a) c.bytes csHold }) := by
  have hkept : csKept csHold hwOk = csHold := by simp [csKept]
  unfold Spi1Chunk.bytes
  cases htx : c.tx with
  | some data =>
      refine ⟨s.fillChunk, ?_⟩
      rw [hwSpi1Transfer_of_body s.fillChunk ho hlen spi1Body_data, hkept]
  | none =>
      obtain ⟨chunk, k, -, rv, hb, -, hk, hok⟩ :=
        spi1Body_fill D (fun _ => .completed) (some a) c.len c.fill (csDrive s true)
      obtain rfl : rv = hwOk := hok.mpr fun _ _ => rfl
      obtain rfl : k = c.len := hk rfl
      exact ⟨chunk, by rw [hwSpi1Transfer_of_body chunk ho hlen hb, hkept]⟩

/-- What a transfer of a chain receives. -/
theorem Bus.transfer_read {b : Bus} {pad : Nat} {xs : List UInt8} (held : Bool) :
    (b.transfer D pad (some a) xs held).mem.read a xs.length =
      Bus.answers D (b.wire ++ [.select pad true]) xs := by
  rw [Bus.transfer_mem, Bus.read_clocks, Bus.select_wire]

/-- A chain is one transfer of all its bytes, to a device that goes by the edges. -/
theorem spi1Chain_edges (hD : GoesByEdges D) {cs : List Spi1Chunk} (hcs : cs ≠ [])
    (hlen : ∀ c ∈ cs, c.len ≤ spi1MaxXfer) (ho : s.isOpen = true) :
    (∀ p ∈ (spi1Chain D a cs s).1, p.1 = hwOk) ∧
      (spi1Chain D a cs s).1.flatMap Prod.snd =
        Bus.answers D (s.bus.wire ++ [.select s.csPad true]) (cs.flatMap Spi1Chunk.bytes) ∧
      edges (fun _ => false) (spi1Chain D a cs s).2.bus.wire = edges (fun _ => false)
        (s.bus.transfer D s.csPad (some a) (cs.flatMap Spi1Chunk.bytes) false).wire ∧
      (spi1Chain D a cs s).2.csHeld = false := by
  induction cs generalizing s with
  | nil => exact absurd rfl hcs
  | cons c cs ih =>
      obtain ⟨chunk, hout⟩ := hwSpi1Transfer_chunk (D := D) (a := a) ho
        (hlen c (List.mem_cons_self ..)) (!cs.isEmpty)
      have hread : (s.bus.transfer D s.csPad (some a) c.bytes (!cs.isEmpty)).mem.read a c.len =
          Bus.answers D (s.bus.wire ++ [.select s.csPad true]) c.bytes := by
        rw [← Bus.transfer_read (!cs.isEmpty), c.length_bytes]
      rcases List.eq_nil_or_concat cs with rfl | ⟨init, last, hlast⟩
      · simp only [spi1Chain, hout, hread]
        simp
      · have hne : cs ≠ [] := by
          rw [hlast]
          simp
        have hempty : (!cs.isEmpty) = true := by simpa using hne
        rw [hempty] at hout hread
        -- the line is low already when the rest of the chain drives it
        have hlow : levels (fun _ => false) (s.bus.wire ++ .select s.csPad true ::
            c.bytes.map .clock) s.csPad = true := by
          rw [levels_append, levels, levels_clocks, Function.update_self]
        obtain ⟨hok, hrecv, hedges, hheld⟩ := ih (s := { s with
          csHeld := true
          fillChunk := chunk
          bus := s.bus.transfer D s.csPad (some a) c.bytes true }) hne
          (fun c' hc' => hlen c' (List.mem_cons_of_mem _ hc')) ho
        simp only [spi1Chain, hempty, hout, hread]
        refine ⟨?_, ?_, ?_, hheld⟩
        · rintro p (_ | ⟨_, hp⟩)
          · rfl
          · exact hok p hp
        · rw [List.flatMap_cons, List.flatMap_cons, hrecv, Bus.answers_append]
          congr 1
          refine hD.answers ?_
          simpa [Bus.transfer_wire] using edges_redundant (v := []) hlow
        · rw [hedges]
          simpa [Bus.transfer_wire] using edges_redundant
            (v := (cs.flatMap Spi1Chunk.bytes).map .clock ++ [.select s.csPad false]) hlow

/-- A chain keeps the discipline. -/
theorem Spi1Selected.chain (hi : Spi1Selected s) (a : Nat) (cs : List Spi1Chunk) :
    Spi1Selected (spi1Chain D a cs s).2 := by
  induction cs generalizing s with
  | nil => exact hi
  | cons c cs ih => exact ih hi.transfer

/-- A command in pieces is one command.  In every state the controller can reach with the bus open
and nothing held, transfers that all complete and hold the chip select up to the last one are, for a
device that goes by the edges of its select, a single transfer of all their bytes: it sees the same,
what comes back is the same, and the bus ends free. -/
theorem spi1_chain_as_one (hr : (spi1System H D).Run .boot tr s) (hD : GoesByEdges D)
    (ho : s.isOpen = true) (hfree : s.csHeld = false) (cs : List Spi1Chunk) (hcs : cs ≠ [])
    (hlen : ∀ c ∈ cs, c.len ≤ spi1MaxXfer) :
    let whole := s.bus.transfer D s.csPad (some a) (cs.flatMap Spi1Chunk.bytes) false
    let out := spi1Chain D a cs s
    (∀ p ∈ out.1, p.1 = hwOk) ∧
      out.1.flatMap Prod.snd = whole.mem.read a (cs.flatMap Spi1Chunk.bytes).length ∧
      edges (fun _ => false) out.2.bus.wire = edges (fun _ => false) whole.wire ∧
      edges (fun _ => false) whole.wire = edges (fun _ => false) s.bus.wire ++
        .select s.csPad true :: (cs.flatMap Spi1Chunk.bytes).map .clock ++
          [.select s.csPad false] ∧
      ∀ pad, out.2.low pad = false := by
  intro whole out
  have hi := Spi1Selected.of_run hr
  obtain ⟨hok, hrecv, hedges, hheld⟩ := spi1Chain_edges (a := a) hD hcs hlen ho
  have hlow := hi.not_low hfree s.csPad
  refine ⟨hok, ?_, hedges, ?_, ?_⟩
  · rw [Bus.transfer_read]
    exact hrecv
  · change levels _ s.bus.wire s.csPad = false at hlow
    rw [Bus.transfer_wire, List.append_assoc, edges_append, List.append_assoc]
    congr 1
    simp [edges, edges_append, hlow]
  · exact (hi.chain a cs).not_low hheld

/-- The bus is opened on the second select. -/
def spi1OpenSecond : Spi1Act := .configure ⟨1000000, 0, 8, 1⟩ 0 1000 fun _ => true

/-- A device whose answer is the number of bytes it has got since its select fell. -/
def countingDevice (w : List BusEv) : UInt8 :=
  UInt8.ofNat ((edges (fun _ => false) w).reverse.takeWhile isClock).length

theorem countingDevice_goesByEdges : GoesByEdges countingDevice := by
  intro w w' h
  rw [countingDevice, countingDevice, h]

/-- Three bytes of data and a read of two hundred fill bytes are one command. -/
theorem spi1_chain_as_one_read : ∃ tr s,
    (spi1System .reference countingDevice).Run .boot tr s ∧
      let cs : List Spi1Chunk := [⟨some fun _ => 0x03, 3, 0⟩, ⟨none, 200, 0xFF⟩]
      let whole := s.bus.transfer countingDevice s.csPad (some 0) (cs.flatMap Spi1Chunk.bytes) false
      (spi1Chain countingDevice 0 cs s).1.flatMap Prod.snd = whole.mem.read 0 203 ∧
        ∀ pad, (spi1Chain countingDevice 0 cs s).2.low pad = false := by
  have hexec : ((spi1System .reference countingDevice).exec .boot [spi1OpenSecond]).map
      (fun x => (x.1.isOpen, x.1.csHeld)) = some (true, false) := by decide +kernel
  obtain ⟨⟨s, tr⟩, hs, hstate⟩ := Option.map_eq_some_iff.mp hexec
  obtain ⟨hopen, hfree⟩ := Prod.mk.inj hstate
  have hr := Machine.run_of_exec hs
  obtain ⟨-, hrecv, -, -, hlow⟩ := spi1_chain_as_one (a := 0) hr countingDevice_goesByEdges hopen
    hfree [⟨some fun _ => 0x03, 3, 0⟩, ⟨none, 200, 0xFF⟩] (by simp) (by simp [spi1MaxXfer])
  exact ⟨tr, s, hr, hrecv, hlow⟩

end

end Cc3501eBridge
