import Cc3501eBridge.Lib.Trace
import Cc3501eBridge.Lib.BitMask
import Cc3501eBridge.State

/-!
# Open drain on the GPIO proxy

The pads of the chip have no open-drain output, so it is emulated: asserting drives the pad low, and
releasing turns its output off.  Which pads are treated so is kept in two bit masks, one for the
registration and one for the pull-up, and three entry points change them.

All three change the masks before the driver has accepted the configuration, and `set_interrupt`
before it has looked at the edge.  A call that is refused after that has changed the registration all
the same, and the next release of the pad drives it high.  `GpioAct.Steady` says of a call that this
does not happen to it; in a run of such calls a pad is registered if the host has made it open-drain.
-/

namespace Cc3501eBridge

open Trace

/-! ## The driver -/

/-- The flags that the configurations are put together from. -/
inductive PinFlag where
  | outputInternal | inputInternal
  | pullUpInternal | pullDownInternal | pullNoneInternal
  | outLow | outHigh
  | inIntNone | inIntRising | inIntFalling | intEnable
  deriving DecidableEq, Repr

/-- A `GPIO_PinConfig`: the flags that are or-ed. -/
abbrev PinConfig := List PinFlag

/-- The calls into the driver. -/
inductive GpioOp where
  | setConfig (pad : UInt8) (cfg : PinConfig)
  | write (pad level : UInt8)
  | setCallback (pad : UInt8)
  deriving DecidableEq, Repr

/-- The pad a call is about. -/
def GpioOp.pad : GpioOp → UInt8
  | .setConfig pad _ | .write pad _ | .setCallback pad => pad

/-- The call drives the pad high, or configures it as an output that is high. -/
def GpioOp.DrivesHigh (pad : UInt8) : GpioOp → Prop
  | .setConfig p cfg => p = pad ∧ .outputInternal ∈ cfg ∧ .outHigh ∈ cfg
  | .write p level => p = pad ∧ level = 1
  | .setCallback _ => False

/-- The `ALP_CC3501E_GPIO_*` codes; those of one `switch` are different. -/
structure GpioCodes where
  dirOutput : UInt8
  dirOpenDrain : UInt8
  pullUp : UInt8
  pullDown : UInt8
  edgeNone : UInt8
  edgeRising : UInt8
  edgeFalling : UInt8
  edgeBoth : UInt8
  dir_ne : dirOutput ≠ dirOpenDrain
  edges : [edgeRising, edgeFalling, edgeBoth].Nodup

/-! ## The proxy -/

/-- `GPIO_pinUpperBound`. -/
def gpioPinUpperBound : UInt8 := 37

/-- `gpio_pad_reserved`: the bridge, its ready line, the console, the pass-through bus and the debug
port. -/
def gpioPadReserved (pad : UInt8) : Bool :=
  [16, 27, 28, 29, 17, 5, 6, 15, 31, 32, 33, 34, 7, 8, 9].contains pad

/-- `gpio_pad_ok`. -/
def gpioPadOk (pad : UInt8) : Bool := decide (pad ≤ gpioPinUpperBound) && !gpioPadReserved pad

/-- `od_pads` and `od_pulls`. -/
structure OdMasks where
  pads : BitVec 64 := 0
  pulls : BitVec 64 := 0
  deriving DecidableEq, Repr

/-- The bit of a pad. -/
def padBit (pad : UInt8) : BitVec 64 := 1#64 <<< pad.toNat

/-- `pad_is_open_drain`. -/
def padIsOpenDrain (m : OdMasks) (pad : UInt8) : Bool :=
  decide (pad < 64) && decide (m.pads &&& padBit pad ≠ 0)

/-- The pull-up choice of a pad. -/
def padWantsPull (m : OdMasks) (pad : UInt8) : Bool := decide (m.pulls &&& padBit pad ≠ 0)

/-- The code for what `GPIO_setConfig` returned. -/
def gpioRv (setConfig : Int) : Int := if setConfig = 0 then hwOk else hwErrIo

/-- `od_release`. -/
def odRelease (m : OdMasks) (setConfig : Int) (pad : UInt8) : List GpioOp × Int :=
  let pull : PinFlag := if padWantsPull m pad then .pullUpInternal else .pullNoneInternal
  ([.setConfig pad [.inputInternal, pull, .inIntNone]], gpioRv setConfig)

section

variable (C : GpioCodes) (m : OdMasks) (setConfig : Int)

/-- `cc3501e_hw_gpio_configure`; `setConfig` is what the driver returns. -/
def hwGpioConfigure (pad dir pull : UInt8) : OdMasks × List GpioOp × Int :=
  if gpioPadOk pad = false then (m, [], hwErrInval)
  else
    let pullCfg : PinFlag :=
      if pull = C.pullUp then .pullUpInternal
      else if pull = C.pullDown then .pullDownInternal
      else .pullNoneInternal
    if dir = C.dirOutput then
      ({ m with pads := m.pads &&& ~~~padBit pad },
        [.setConfig pad [.outputInternal, pullCfg, .outLow]], gpioRv setConfig)
    else if dir = C.dirOpenDrain then
      if pad ≥ 64 then (m, [], hwErrInval)
      else
        let m : OdMasks :=
          { pads := m.pads ||| padBit pad
            pulls := if pull = C.pullUp then m.pulls ||| padBit pad else m.pulls &&& ~~~padBit pad }
        (m, odRelease m setConfig pad)
    else
      ({ m with pads := m.pads &&& ~~~padBit pad },
        [.setConfig pad [.inputInternal, pullCfg, .inIntNone]], gpioRv setConfig)

/-- `cc3501e_hw_gpio_write`. -/
def hwGpioWrite (pad level : UInt8) : List GpioOp × Int :=
  if gpioPadOk pad = false then ([], hwErrInval)
  else if padIsOpenDrain m pad then
    if level ≠ 0 then odRelease m setConfig pad
    else
      let cfg : GpioOp := .setConfig pad [.outputInternal, .pullNoneInternal, .outLow]
      if setConfig ≠ 0 then ([cfg], hwErrIo) else ([cfg, .write pad 0], hwOk)
  else ([.write pad (if level ≠ 0 then 1 else 0)], hwOk)

/-- `cc3501e_hw_gpio_set_interrupt`. -/
def hwGpioSetInterrupt (pad edge enabled : UInt8) : OdMasks × List GpioOp × Int :=
  if gpioPadOk pad = false then (m, [], hwErrInval)
  else
    let m : OdMasks := if pad < 64 then { m with pads := m.pads &&& ~~~padBit pad } else m
    if enabled = 0 ∨ edge = C.edgeNone then
      (m, [.setConfig pad [.inputInternal, .inIntNone]], gpioRv setConfig)
    else if edge = C.edgeRising then
      (m, [.setCallback pad, .setConfig pad [.inputInternal, .inIntRising, .intEnable]],
        gpioRv setConfig)
    else if edge = C.edgeFalling then
      (m, [.setCallback pad, .setConfig pad [.inputInternal, .inIntFalling, .intEnable]],
        gpioRv setConfig)
    -- a trigger on both edges is not there, and other codes are not known
    else if edge = C.edgeBoth then (m, [], hwErrInval)
    else (m, [], hwErrInval)

end

/-! ## Sequences of calls -/

/-- A call of the proxy. -/
inductive GpioCall where
  | configure (pad dir pull : UInt8)
  | write (pad level : UInt8)
  | setInterrupt (pad edge enabled : UInt8)
  deriving DecidableEq, Repr

/-- The pad of a call. -/
def GpioCall.pad : GpioCall → UInt8
  | .configure pad _ _ | .write pad _ | .setInterrupt pad _ _ => pad

/-- A call, with what the driver returns to it. -/
structure GpioAct where
  call : GpioCall
  setConfig : Int

/-- A call made: the driver calls it issued and the code it returned. -/
structure GpioEv where
  call : GpioCall
  ops : List GpioOp
  rv : Int

/-- The masks, the driver calls and the return of a call. -/
def gpioRun (C : GpioCodes) (m : OdMasks) (a : GpioAct) : OdMasks × List GpioOp × Int :=
  match a.call with
  | .configure pad dir pull => hwGpioConfigure C m a.setConfig pad dir pull
  | .write pad level => (m, hwGpioWrite m a.setConfig pad level)
  | .setInterrupt pad edge enabled => hwGpioSetInterrupt C m a.setConfig pad edge enabled

/-- Calls one after another. -/
def gpioProxy (C : GpioCodes) : Machine OdMasks GpioAct GpioEv where
  step m a :=
    let (m', ops, rv) := gpioRun C m a
    some (m', { call := a.call, ops := ops, rv := rv })

/-! ## The masks -/

section

variable {m m' : OdMasks} {pad q : UInt8}

/-- A pad's bit is looked at by masking. -/
theorem and_padBit_ne_zero (mask : BitVec 64) :
    mask &&& padBit pad ≠ 0 ↔ mask.getLsbD pad.toNat = true := and_bit_ne_zero

theorem padIsOpenDrain_eq : padIsOpenDrain m pad = m.pads.getLsbD pad.toNat := by
  rw [Bool.eq_iff_iff]
  simp only [padIsOpenDrain, Bool.and_eq_true, decide_eq_true_eq, and_padBit_ne_zero]
  exact ⟨And.right, fun h => ⟨BitVec.lt_of_getLsbD h, h⟩⟩

theorem padWantsPull_eq : padWantsPull m pad = m.pulls.getLsbD pad.toNat := by
  rw [Bool.eq_iff_iff]
  simp only [padWantsPull, decide_eq_true_eq, and_padBit_ne_zero]

/-- Setting a bit. -/
theorem getLsbD_or_padBit (mask : BitVec 64) (h : pad < 64) :
    (mask ||| padBit pad).getLsbD q.toNat = (mask.getLsbD q.toNat || decide (q = pad)) := by
  have hpad : pad.toNat < 64 := h
  have heq : pad.toNat = q.toNat ↔ q = pad := by rw [eq_comm, UInt8.toNat_inj]
  rw [padBit, getLsbD_or_bit hpad]
  simp [heq]

/-- Clearing a bit. -/
theorem getLsbD_and_not_padBit (mask : BitVec 64) :
    (mask &&& ~~~padBit pad).getLsbD q.toNat = (mask.getLsbD q.toNat && decide (q ≠ pad)) := by
  have heq : pad.toNat = q.toNat ↔ q = pad := by rw [eq_comm, UInt8.toNat_inj]
  rw [padBit, getLsbD_and_not_bit]
  simp [heq]

/-- The masks agree about a pad. -/
structure OdMasks.SameAt (m m' : OdMasks) (q : UInt8) : Prop where
  registered : padIsOpenDrain m' q = padIsOpenDrain m q
  pull : padWantsPull m' q = padWantsPull m q

theorem OdMasks.SameAt.refl : m.SameAt m q := ⟨rfl, rfl⟩

/-- A pad taken out of the registration. -/
theorem OdMasks.sameAt_clear :
    m.SameAt { m with pads := m.pads &&& ~~~padBit pad } q ↔ (q = pad → padIsOpenDrain m q = false) := by
  have hreg : padIsOpenDrain { m with pads := m.pads &&& ~~~padBit pad } q =
      (padIsOpenDrain m q && decide (q ≠ pad)) := by
    rw [padIsOpenDrain_eq, padIsOpenDrain_eq, getLsbD_and_not_padBit]
  constructor
  · rintro ⟨h, -⟩ rfl
    rw [hreg] at h
    simpa using h.symm
  · intro h
    refine ⟨?_, rfl⟩
    rw [hreg]
    by_cases hq : q = pad
    · simp [h hq]
    · simp [hq]

/-- A pad put into the registration, with its pull-up choice. -/
theorem OdMasks.sameAt_register (hpad : pad < 64) (up : Prop) [Decidable up] :
    m.SameAt
      { pads := m.pads ||| padBit pad
        pulls := if up then m.pulls ||| padBit pad else m.pulls &&& ~~~padBit pad } q ↔
      (q = pad → padIsOpenDrain m q = true ∧ padWantsPull m q = decide up) := by
  set m' : OdMasks :=
    { pads := m.pads ||| padBit pad
      pulls := if up then m.pulls ||| padBit pad else m.pulls &&& ~~~padBit pad } with hm'
  have hreg : padIsOpenDrain m' q = (padIsOpenDrain m q || decide (q = pad)) := by
    rw [padIsOpenDrain_eq, padIsOpenDrain_eq, hm', getLsbD_or_padBit _ hpad]
  have hpull : padWantsPull m' q =
      if up then (padWantsPull m q || decide (q = pad)) else (padWantsPull m q && decide (q ≠ pad)) := by
    rw [padWantsPull_eq, padWantsPull_eq, hm']
    split_ifs
    · exact getLsbD_or_padBit _ hpad
    · exact getLsbD_and_not_padBit _
  by_cases hq : q = pad
  · constructor
    · rintro ⟨h1, h2⟩ -
      rw [hreg] at h1
      rw [hpull] at h2
      refine ⟨by simpa [hq] using h1.symm, ?_⟩
      rw [← h2]
      split_ifs with hup <;> simp [hq, hup]
    · intro h
      obtain ⟨h1, h2⟩ := h hq
      refine ⟨by rw [hreg, h1, Bool.true_or], ?_⟩
      rw [hpull, h2]
      split_ifs with hup <;> simp [hq, hup]
  · refine ⟨fun _ h => absurd h hq, fun _ => ⟨?_, ?_⟩⟩
    · simp [hreg, hq]
    · rw [hpull]
      split_ifs <;> simp [hq]

/-- After it the pad is registered. -/
theorem padIsOpenDrain_register (hpad : pad < 64) (pulls : BitVec 64) :
    padIsOpenDrain { pads := m.pads ||| padBit pad, pulls := pulls } pad = true := by
  rw [padIsOpenDrain_eq, getLsbD_or_padBit _ hpad]
  simp

end

/-! ## What a call does -/

/-- A pad the proxy may touch has a bit in the masks. -/
theorem lt_of_gpioPadOk {pad : UInt8} (h : gpioPadOk pad = true) : pad < 64 := by
  simp only [gpioPadOk, Bool.and_eq_true, decide_eq_true_eq] at h
  have hle : pad.toNat ≤ 37 := h.1
  have : pad.toNat < 64 := by omega
  exact this

theorem not_reserved_of_gpioPadOk {pad : UInt8} (h : gpioPadOk pad = true) :
    gpioPadReserved pad = false := by
  simp only [gpioPadOk, Bool.and_eq_true, Bool.not_eq_true'] at h
  exact h.2

theorem gpioRv_eq_ok (setConfig : Int) : gpioRv setConfig = hwOk ↔ setConfig = 0 := by
  unfold gpioRv
  split_ifs with h
  · exact ⟨fun _ => h, fun _ => rfl⟩
  · exact ⟨fun h' => absurd h' (by decide), fun h' => absurd h' h⟩

/-- No call that is refused has touched the registration or the pull-up choice of its pad: the
condition on the masks before it, its arguments and what the driver returns. -/
def GpioAct.Steady (C : GpioCodes) (m : OdMasks) (a : GpioAct) : Prop :=
  match a.call with
  | .configure pad dir pull => gpioPadOk pad = true → a.setConfig ≠ 0 →
      if dir = C.dirOpenDrain then
        padIsOpenDrain m pad = true ∧ padWantsPull m pad = decide (pull = C.pullUp)
      else padIsOpenDrain m pad = false
  | .write _ _ => True
  | .setInterrupt pad edge enabled => gpioPadOk pad = true → padIsOpenDrain m pad = true →
      a.setConfig = 0 ∧ (enabled = 0 ∨ edge = C.edgeNone ∨ edge = C.edgeRising ∨ edge = C.edgeFalling)

/-- What a call may do: it drives no pad high that is open-drain, leaves the other pads' bits alone
and reserved pads untouched. -/
structure GpioFrame (m : OdMasks) (call : GpioCall) (out : OdMasks × List GpioOp × Int) : Prop where
  low : ∀ q, padIsOpenDrain m q = true → ∀ op ∈ out.2.1, ¬ op.DrivesHigh q
  others : ∀ q, q ≠ call.pad → m.SameAt out.1 q
  reserved : ∀ op ∈ out.2.1, gpioPadReserved op.pad = false

section

variable (C : GpioCodes) (m : OdMasks) (setConfig : Int) (pad : UInt8)

/-- Nothing is touched. -/
theorem GpioFrame.refused (m : OdMasks) (call : GpioCall) (rv : Int) : GpioFrame m call (m, [], rv) where
  low := by simp
  others _ _ := .refl
  reserved := by simp

/-- One configuration that is not high, and perhaps a callback. -/
theorem GpioFrame.configured {m m' : OdMasks} {call : GpioCall} {ops : List GpioOp} {rv : Int}
    (hok : gpioPadOk call.pad = true) (hm : ∀ q, q ≠ call.pad → m.SameAt m' q)
    (hops : ∀ op ∈ ops, op.pad = call.pad ∧ ∀ q, ¬ op.DrivesHigh q) :
    GpioFrame m call (m', ops, rv) where
  low q _ op hop := (hops op hop).2 q
  others := hm
  reserved op hop := by
    rw [(hops op hop).1]
    exact not_reserved_of_gpioPadOk hok

/-- A configuration without the flag for a high output drives nothing high. -/
theorem GpioOp.setConfig_low {cfg : PinConfig} (h : PinFlag.outHigh ∉ cfg) (q : UInt8) :
    ¬ (GpioOp.setConfig pad cfg).DrivesHigh q := fun hd => h hd.2.2

theorem odRelease_ops : ∀ op ∈ (odRelease m setConfig pad).1,
    op.pad = pad ∧ ∀ q, ¬ op.DrivesHigh q := by
  intro op hop
  obtain rfl := List.mem_singleton.mp hop
  refine ⟨rfl, GpioOp.setConfig_low pad ?_⟩
  split_ifs <;> decide

theorem hwGpioConfigure_frame (dir pull : UInt8) :
    GpioFrame m (.configure pad dir pull) (hwGpioConfigure C m setConfig pad dir pull) := by
  unfold hwGpioConfigure
  by_cases hbad : gpioPadOk pad = false
  · rw [if_pos hbad]
    exact .refused m _ _
  have hok : gpioPadOk pad = true := by simpa using hbad
  have hlow : (if pull = C.pullUp then PinFlag.pullUpInternal
      else if pull = C.pullDown then .pullDownInternal else .pullNoneInternal) ≠ .outHigh := by
    split_ifs <;> decide
  rw [if_neg hbad]
  generalize (if pull = C.pullUp then PinFlag.pullUpInternal
      else if pull = C.pullDown then .pullDownInternal else .pullNoneInternal) = pullCfg at hlow
  have hclear : ∀ q, q ≠ pad → m.SameAt { m with pads := m.pads &&& ~~~padBit pad } q :=
    fun q hq => OdMasks.sameAt_clear.mpr fun h => absurd h hq
  dsimp only
  by_cases hout : dir = C.dirOutput
  · rw [if_pos hout]
    refine .configured hok hclear fun op hop => ?_
    obtain rfl := List.mem_singleton.mp hop
    exact ⟨rfl, GpioOp.setConfig_low pad (by simpa using hlow.symm)⟩
  rw [if_neg hout]
  by_cases hod : dir = C.dirOpenDrain
  · have hlt := lt_of_gpioPadOk hok
    have hbig : ¬ pad ≥ 64 := UInt8.not_le.mpr hlt
    rw [if_pos hod, if_neg hbig]
    refine .configured hok (fun q hq => ?_) (odRelease_ops _ setConfig pad)
    exact (OdMasks.sameAt_register hlt _).mpr fun h => absurd h hq
  · rw [if_neg hod]
    refine .configured hok hclear fun op hop => ?_
    obtain rfl := List.mem_singleton.mp hop
    exact ⟨rfl, GpioOp.setConfig_low pad (by simpa using hlow.symm)⟩

theorem hwGpioWrite_frame (level : UInt8) :
    GpioFrame m (.write pad level) (m, hwGpioWrite m setConfig pad level) := by
  unfold hwGpioWrite
  by_cases hbad : gpioPadOk pad = false
  · rw [if_pos hbad]
    exact .refused m _ _
  have hok : gpioPadOk pad = true := by simpa using hbad
  rw [if_neg hbad]
  have hcfg : ∀ q, ¬ (GpioOp.setConfig pad [.outputInternal, .pullNoneInternal, .outLow]).DrivesHigh q :=
    GpioOp.setConfig_low pad (by decide)
  dsimp only
  split_ifs with hod hlevel hfail
  · exact .configured hok (fun q _ => .refl) (odRelease_ops m setConfig pad)
  · refine .configured hok (fun q _ => .refl) fun op hop => ?_
    obtain rfl := List.mem_singleton.mp hop
    exact ⟨rfl, hcfg⟩
  · refine .configured hok (fun q _ => .refl) fun op hop => ?_
    rcases List.mem_pair.mp hop with rfl | rfl
    · exact ⟨rfl, hcfg⟩
    · exact ⟨rfl, fun q hd => absurd hd.2 (by decide)⟩
  -- the pad is push-pull, and no other pad is driven
  · refine ⟨fun q hq op hop hd => ?_, fun q _ => .refl, fun op hop => ?_⟩
    · obtain rfl := List.mem_singleton.mp hop
      obtain rfl : pad = q := hd.1
      exact hod hq
    · obtain rfl := List.mem_singleton.mp hop
      exact not_reserved_of_gpioPadOk hok
  · refine ⟨fun q hq op hop hd => ?_, fun q _ => .refl, fun op hop => ?_⟩
    · obtain rfl := List.mem_singleton.mp hop
      obtain rfl : pad = q := hd.1
      exact hod hq
    · obtain rfl := List.mem_singleton.mp hop
      exact not_reserved_of_gpioPadOk hok

theorem hwGpioSetInterrupt_frame (edge enabled : UInt8) :
    GpioFrame m (.setInterrupt pad edge enabled) (hwGpioSetInterrupt C m setConfig pad edge enabled) := by
  unfold hwGpioSetInterrupt
  by_cases hbad : gpioPadOk pad = false
  · rw [if_pos hbad]
    exact .refused m _ _
  have hok : gpioPadOk pad = true := by simpa using hbad
  rw [if_neg hbad, if_pos (lt_of_gpioPadOk hok)]
  have hclear : ∀ q, q ≠ pad → m.SameAt { m with pads := m.pads &&& ~~~padBit pad } q :=
    fun q hq => OdMasks.sameAt_clear.mpr fun h => absurd h hq
  have hops : ∀ cfg : PinConfig, PinFlag.outHigh ∉ cfg →
      ∀ op ∈ [GpioOp.setCallback pad, .setConfig pad cfg], op.pad = pad ∧ ∀ q, ¬ op.DrivesHigh q := by
    intro cfg hcfg op hop
    rcases List.mem_pair.mp hop with rfl | rfl
    · exact ⟨rfl, fun _ => id⟩
    · exact ⟨rfl, GpioOp.setConfig_low pad hcfg⟩
  dsimp only
  split_ifs
  · exact .configured hok hclear fun op hop => hops _ (by decide) op (List.mem_cons_of_mem _ hop)
  · exact .configured hok hclear (hops _ (by decide))
  · exact .configured hok hclear (hops _ (by decide))
  · exact .configured hok hclear (by simp)
  · exact .configured hok hclear (by simp)

theorem hwGpioConfigure_error (dir pull : UInt8) :
    ((hwGpioConfigure C m setConfig pad dir pull).2.2 ≠ hwOk →
        m.SameAt (hwGpioConfigure C m setConfig pad dir pull).1 pad) ↔
      GpioAct.Steady C m ⟨.configure pad dir pull, setConfig⟩ := by
  unfold hwGpioConfigure
  by_cases hbad : gpioPadOk pad = false
  · rw [if_pos hbad]
    refine iff_of_true (fun _ => .refl) fun h => ?_
    rw [hbad] at h
    cases h
  have hok : gpioPadOk pad = true := by simpa using hbad
  have hne : gpioRv setConfig ≠ hwOk ↔ setConfig ≠ 0 := not_congr (gpioRv_eq_ok setConfig)
  rw [if_neg hbad]
  dsimp only [GpioAct.Steady]
  by_cases hout : dir = C.dirOutput
  · have hod : dir ≠ C.dirOpenDrain := fun h => C.dir_ne (hout.symm.trans h)
    rw [if_pos hout, if_neg hod, hne, OdMasks.sameAt_clear]
    exact ⟨fun h _ hsc => h hsc rfl, fun h hsc _ => h hok hsc⟩
  rw [if_neg hout]
  by_cases hod : dir = C.dirOpenDrain
  · have hlt := lt_of_gpioPadOk hok
    have hbig : ¬ pad ≥ 64 := UInt8.not_le.mpr hlt
    rw [if_pos hod, if_neg hbig, if_pos hod]
    dsimp only [odRelease]
    rw [hne, OdMasks.sameAt_register hlt]
    exact ⟨fun h _ hsc => h hsc rfl, fun h hsc _ => h hok hsc⟩
  · rw [if_neg hod, if_neg hod, hne, OdMasks.sameAt_clear]
    exact ⟨fun h _ hsc => h hsc rfl, fun h hsc _ => h hok hsc⟩

/-- Whatever becomes of it, `set_interrupt` takes the pad out of the registration. -/
theorem hwGpioSetInterrupt_out {pad : UInt8} (hok : gpioPadOk pad = true) (edge enabled : UInt8) :
    (hwGpioSetInterrupt C m setConfig pad edge enabled).1 = { m with pads := m.pads &&& ~~~padBit pad } ∧
      (hwGpioSetInterrupt C m setConfig pad edge enabled).2.2 =
        if enabled = 0 ∨ edge = C.edgeNone ∨ edge = C.edgeRising ∨ edge = C.edgeFalling then
          gpioRv setConfig
        else hwErrInval := by
  unfold hwGpioSetInterrupt
  rw [if_neg (by simp [hok]), if_pos (lt_of_gpioPadOk hok)]
  dsimp only
  by_cases hoff : enabled = 0 ∨ edge = C.edgeNone
  · rw [if_pos hoff, if_pos (by tauto)]
    exact ⟨rfl, rfl⟩
  rw [if_neg hoff]
  by_cases hrising : edge = C.edgeRising
  · rw [if_pos hrising, if_pos (by tauto)]
    exact ⟨rfl, rfl⟩
  rw [if_neg hrising]
  by_cases hfalling : edge = C.edgeFalling
  · rw [if_pos hfalling, if_pos (by tauto)]
    exact ⟨rfl, rfl⟩
  rw [if_neg hfalling, ite_self, if_neg (by tauto)]
  exact ⟨rfl, rfl⟩

theorem hwGpioSetInterrupt_error (edge enabled : UInt8) :
    ((hwGpioSetInterrupt C m setConfig pad edge enabled).2.2 ≠ hwOk →
        m.SameAt (hwGpioSetInterrupt C m setConfig pad edge enabled).1 pad) ↔
      GpioAct.Steady C m ⟨.setInterrupt pad edge enabled, setConfig⟩ := by
  dsimp only [GpioAct.Steady]
  by_cases hbad : gpioPadOk pad = false
  · rw [hwGpioSetInterrupt, if_pos hbad]
    refine iff_of_true (fun _ => .refl) fun h => ?_
    rw [hbad] at h
    cases h
  have hok : gpioPadOk pad = true := by simpa using hbad
  obtain ⟨hmasks, hrv⟩ := hwGpioSetInterrupt_out C m setConfig hok edge enabled
  have hclear : m.SameAt { m with pads := m.pads &&& ~~~padBit pad } pad ↔
      padIsOpenDrain m pad = false := by
    rw [OdMasks.sameAt_clear]
    exact ⟨fun h => h rfl, fun h _ => h⟩
  rw [hmasks, hclear, hrv]
  have hsucceeds : (if enabled = 0 ∨ edge = C.edgeNone ∨ edge = C.edgeRising ∨ edge = C.edgeFalling then
      gpioRv setConfig else hwErrInval) = hwOk ↔
        setConfig = 0 ∧ (enabled = 0 ∨ edge = C.edgeNone ∨ edge = C.edgeRising ∨ edge = C.edgeFalling) := by
    split_ifs with hknown
    · rw [gpioRv_eq_ok]
      exact ⟨fun h => ⟨h, hknown⟩, And.left⟩
    · exact ⟨fun h => absurd h (by decide), fun h => absurd h.2 hknown⟩
  constructor
  · intro h _ hod
    by_contra hno
    have := h fun hrvok => hno (hsucceeds.mp hrvok)
    rw [hod] at this
    cases this
  · intro h hne
    by_contra hod
    exact hne (hsucceeds.mpr (h hok (by simpa using hod)))

/-- What a call leaves alone. -/
theorem gpioRun_frame (a : GpioAct) : GpioFrame m a.call (gpioRun C m a) := by
  obtain ⟨call, setConfig⟩ := a
  cases call with
  | configure pad dir pull => exact hwGpioConfigure_frame C m setConfig pad dir pull
  | write pad level => exact hwGpioWrite_frame m setConfig pad level
  | setInterrupt pad edge enabled => exact hwGpioSetInterrupt_frame C m setConfig pad edge enabled

/-- A call that returns an error leaves the bits of its pad alone exactly if it is steady. -/
theorem gpioRun_error_iff (a : GpioAct) :
    ((gpioRun C m a).2.2 ≠ hwOk → m.SameAt (gpioRun C m a).1 a.call.pad) ↔ a.Steady C m := by
  obtain ⟨call, setConfig⟩ := a
  cases call with
  | configure pad dir pull => exact hwGpioConfigure_error C m setConfig pad dir pull
  | write pad level => exact iff_of_true (fun _ => .refl) trivial
  | setInterrupt pad edge enabled => exact hwGpioSetInterrupt_error C m setConfig pad edge enabled

/-- A call that returns OK leaves its pad registered exactly if it configured it open-drain; a write
leaves it as it was. -/
theorem gpioRun_ok {a : GpioAct} (h : (gpioRun C m a).2.2 = hwOk) :
    padIsOpenDrain (gpioRun C m a).1 a.call.pad =
      match a.call with
      | .configure _ dir _ => decide (dir = C.dirOpenDrain)
      | .write pad _ => padIsOpenDrain m pad
      | .setInterrupt _ _ _ => false := by
  obtain ⟨call, setConfig⟩ := a
  have hcleared : ∀ pad, padIsOpenDrain { m with pads := m.pads &&& ~~~padBit pad } pad = false := by
    intro pad
    rw [padIsOpenDrain_eq, getLsbD_and_not_padBit]
    simp
  cases call with
  | write pad level => rfl
  | configure pad dir pull =>
      have h' : (hwGpioConfigure C m setConfig pad dir pull).2.2 = hwOk := h
      change padIsOpenDrain (hwGpioConfigure C m setConfig pad dir pull).1 pad = _
      unfold hwGpioConfigure at h' ⊢
      by_cases hbad : gpioPadOk pad = false
      · rw [if_pos hbad] at h'
        exact absurd h' (show ¬ hwErrInval = hwOk by decide)
      have hlt := lt_of_gpioPadOk (by simpa using hbad)
      rw [if_neg hbad]
      dsimp only
      by_cases hout : dir = C.dirOutput
      · have hod : dir ≠ C.dirOpenDrain := fun h => C.dir_ne (hout.symm.trans h)
        rw [if_pos hout, decide_eq_false hod]
        exact hcleared pad
      rw [if_neg hout]
      by_cases hod : dir = C.dirOpenDrain
      · rw [if_pos hod, if_neg (UInt8.not_le.mpr hlt), decide_eq_true hod]
        exact padIsOpenDrain_register hlt _
      · rw [if_neg hod, decide_eq_false hod]
        exact hcleared pad
  | setInterrupt pad edge enabled =>
      have h' : (hwGpioSetInterrupt C m setConfig pad edge enabled).2.2 = hwOk := h
      change padIsOpenDrain (hwGpioSetInterrupt C m setConfig pad edge enabled).1 pad = _
      by_cases hbad : gpioPadOk pad = false
      · rw [hwGpioSetInterrupt, if_pos hbad] at h'
        exact absurd h' (show ¬ hwErrInval = hwOk by decide)
      · rw [(hwGpioSetInterrupt_out C m setConfig (by simpa using hbad) edge enabled).1]
        exact hcleared pad

end

/-! ## Runs -/

section

variable {C : GpioCodes} {m : OdMasks} {tr : List GpioEv} {q : UInt8}

/-- Whether a call makes the pad open-drain or something else, if it returned OK. -/
def GpioEv.setsMode (C : GpioCodes) (q : UInt8) (e : GpioEv) : Option Bool :=
  if e.rv = hwOk ∧ e.call.pad = q then
    match e.call with
    | .configure _ dir _ => some (decide (dir = C.dirOpenDrain))
    | .write _ _ => none
    | .setInterrupt _ _ _ => some false
  else none

/-- The host has made the pad open-drain: of the configurations and interrupt settings of the pad that
returned OK, the last was open-drain. -/
def OpenDrain (C : GpioCodes) (tr : List GpioEv) (q : UInt8) : Prop :=
  latest (GpioEv.setsMode C q) tr = some true

instance instDecidableOpenDrain : Decidable (OpenDrain C tr q) :=
  inferInstanceAs (Decidable (latest (GpioEv.setsMode C q) tr = some true))

/-- What a call may do after the calls `tr`. -/
structure GpioSound (C : GpioCodes) (tr : List GpioEv) (m : OdMasks) (a : GpioAct) : Prop where
  /-- No pad that is open-drain is driven high. -/
  low : ∀ q, OpenDrain C tr q → ∀ op ∈ (gpioRun C m a).2.1, ¬ op.DrivesHigh q
  /-- An error leaves the registration and the pull-up choice of the pad as they were. -/
  error : (gpioRun C m a).2.2 ≠ hwOk → m.SameAt (gpioRun C m a).1 a.call.pad
  /-- The other pads keep theirs. -/
  others : ∀ q, q ≠ a.call.pad → m.SameAt (gpioRun C m a).1 q
  /-- The reserved pads are not touched. -/
  reserved : ∀ op ∈ (gpioRun C m a).2.1, gpioPadReserved op.pad = false

/-- A steady call keeps the open-drain pads registered. -/
theorem registered_step {m' : OdMasks} {a : GpioAct} {e : GpioEv}
    (ih : ∀ q, OpenDrain C tr q → padIsOpenDrain m q = true) (ha : a.Steady C m)
    (hstep : (gpioProxy C).step m a = some (m', e)) :
    ∀ q, OpenDrain C (tr ++ [e]) q → padIsOpenDrain m' q = true := by
  intro q hq
  obtain ⟨hm, he⟩ : (gpioRun C m a).1 = m' ∧ GpioEv.mk a.call (gpioRun C m a).2.1 (gpioRun C m a).2.2 = e := by
    simpa [gpioProxy] using hstep
  subst hm he
  by_cases hpad : q = a.call.pad
  · subst hpad
    by_cases hok : (gpioRun C m a).2.2 = hwOk
    · rw [gpioRun_ok C m hok]
      rw [OpenDrain, latest_snoc, GpioEv.setsMode, if_pos ⟨hok, rfl⟩] at hq
      cases hc : a.call with
      | configure pad dir pull =>
          simp only [hc] at hq
          simpa using hq
      | write pad level =>
          simp only [hc, Option.none_or] at hq
          exact ih pad hq
      | setInterrupt pad edge enabled => simp [hc] at hq
    · rw [((gpioRun_error_iff C m a).mpr ha hok).registered]
      rw [OpenDrain, latest_snoc, GpioEv.setsMode, if_neg (fun h => hok h.1)] at hq
      exact ih _ hq
  · rw [((gpioRun_frame C m a).others q hpad).registered]
    rw [OpenDrain, latest_snoc, GpioEv.setsMode, if_neg (fun h => hpad h.2.symm)] at hq
    exact ih q hq

/-- In a run of steady calls the pads that are open-drain are registered. -/
theorem registered_of_openDrain
    (hr : (gpioProxy C).RunIf (fun m a => a.Steady C m) {} tr m) (hq : OpenDrain C tr q) :
    padIsOpenDrain m q = true := by
  have hall : ∀ q, OpenDrain C tr q → padIsOpenDrain m q = true := by
    refine hr.invariant (P := fun tr m => ∀ q, OpenDrain C tr q → padIsOpenDrain m q = true) ?_ ?_
    · intro q hq
      cases hq
    · exact fun tr m a m' e ih ha hstep => registered_step ih ha hstep
  exact hall q hq
/-- After any run of steady calls, a call is sound exactly if it is steady. -/
theorem gpio_sound_iff (hr : (gpioProxy C).RunIf (fun m a => a.Steady C m) {} tr m) (a : GpioAct) :
    GpioSound C tr m a ↔ a.Steady C m := by
  constructor
  · intro h
    exact (gpioRun_error_iff C m a).mp h.error
  · intro ha
    have hframe := gpioRun_frame C m a
    exact ⟨fun q hq => hframe.low q (registered_of_openDrain hr hq), (gpioRun_error_iff C m a).mpr ha,
      hframe.others, hframe.reserved⟩

end

/-- The codes, as consecutive values. -/
def GpioCodes.reference : GpioCodes where
  dirOutput := 1
  dirOpenDrain := 2
  pullUp := 1
  pullDown := 2
  edgeNone := 0
  edgeRising := 1
  edgeFalling := 2
  edgeBoth := 3
  dir_ne := by decide
  edges := by decide

/-- Pad 14 is configured open-drain, and the host then asks for an interrupt on both edges. -/
def openDrainBothEdges : List GpioAct :=
  [⟨.configure 14 GpioCodes.reference.dirOpenDrain 0, 0⟩,
    ⟨.setInterrupt 14 GpioCodes.reference.edgeBoth 1, 0⟩]

/-- The interrupt is refused, and the release that follows drives the pad high. -/
theorem released_pad_driven_high :
    ∃ tr m, (gpioProxy .reference).Run {} tr m ∧ tr.map (·.rv) = [hwOk, hwErrInval] ∧
      OpenDrain .reference tr 14 ∧ .write 14 1 ∈ (gpioRun .reference m ⟨.write 14 1, 0⟩).2.1 ∧
      ¬ GpioSound .reference tr m ⟨.write 14 1, 0⟩ := by
  have h : ((gpioProxy .reference).exec {} openDrainBothEdges).map (fun p =>
      (p.2.map (·.rv), latest (GpioEv.setsMode .reference 14) p.2,
        (gpioRun .reference p.1 ⟨.write 14 1, 0⟩).2.1)) =
        some ([hwOk, hwErrInval], some true, [.write 14 1]) := by
    decide +kernel
  obtain ⟨⟨m, tr⟩, hs, heq⟩ := Option.map_eq_some_iff.mp h
  obtain ⟨hrv, hod, hops⟩ := by simpa only [Prod.mk.injEq] using heq
  have hmem : GpioOp.write 14 1 ∈ (gpioRun .reference m ⟨.write 14 1, 0⟩).2.1 := by
    rw [hops]
    exact List.mem_singleton.mpr rfl
  exact ⟨tr, m, Machine.run_of_exec hs, hrv, hod, hmem, fun hsound => hsound.low 14 hod _ hmem ⟨rfl, rfl⟩⟩

/-- The release of a pad after its configuration alone. -/
theorem gpio_sound_iff_release :
    ∃ tr m, (gpioProxy .reference).RunIf (fun m a => a.Steady .reference m) {} tr m ∧
      OpenDrain .reference tr 14 ∧
      (GpioSound .reference tr m ⟨.write 14 1, 0⟩ ↔ GpioAct.Steady .reference m ⟨.write 14 1, 0⟩) := by
  have hsteady : GpioAct.Steady .reference {} ⟨.configure 14 GpioCodes.reference.dirOpenDrain 0, 0⟩ :=
    fun _ h => absurd rfl h
  have hrun := Machine.RunIf.snoc (M := gpioProxy .reference)
    (G := fun m a => GpioAct.Steady .reference m a) .nil hsteady rfl
  exact ⟨_, _, hrun, by decide +kernel, gpio_sound_iff hrun _⟩

end Cc3501eBridge
