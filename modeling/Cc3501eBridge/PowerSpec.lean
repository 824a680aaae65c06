import Cc3501eBridge.Lib.BitMask
import Cc3501eBridge.Power

/-!
# What the halves of a policy do

One specification for each body of the power service, for a task that is not interrupted in it: the
body reads and writes nothing that the dispatch interrupt writes.

The core half touches the constraints and nothing else (`CoreFrame`), and at every step the calls it
made account for the constraints it holds (`Accounted`); between two helpers they do so exactly
(`CoreSettled`).  The radio half only makes calls, and these are a function of the policy, the idle
budget and whether an AP is reported: `radioCalls`.
-/

namespace Cc3501eBridge

open Prog

/-! ## The core half -/

/-- A call of the core half. -/
def PowerCall.IsCore : PowerCall → Prop
  | .enablePolicy | .setConstraint _ | .releaseConstraint _ => True
  | _ => False

/-- How often a constraint was set more than it was released. -/
def netConstraint (id : Nat) (log : List PowerCall) : Int :=
  (log.count (.setConstraint id) : Int) - log.count (.releaseConstraint id)

/-- The calls account for the constraints held. -/
def Balanced (t : PowerTask) : Prop :=
  ∀ id, netConstraint id t.log = if t.constraintsHeld.getLsbD id then 1 else 0

/-- No constraint was released more often than it was set, and outside the two helpers the calls
account for the constraints held. -/
structure Accounted (t : PowerTask) : Prop where
  nonneg : ∀ id, 0 ≤ netConstraint id t.log
  balanced : t.inHelper = false → Balanced t

/-- The task is in none of the helpers, and holds none but the two constraints of the policies. -/
structure CoreSettled (ids : PowerIds) (t : PowerTask) : Prop where
  outside : t.inHelper = false
  balanced : Balanced t
  only : ∀ j, t.constraintsHeld.getLsbD j = true → j = ids.sleep ∨ j = ids.idle

/-- The constraints of a preset. -/
def coreConstraints (ids : PowerIds) : PowerPolicy → BitVec 8
  | .performance => constraintBit ids.sleep ||| constraintBit ids.idle
  | _ => constraintBit ids.sleep

/-- Only the core half has moved. -/
structure CoreFrame (t t' : PowerTask) : Prop where
  radioOk : t'.radioOk = t.radioOk
  wifiStarted : t'.wifiStarted = t.wifiStarted
  wifiStaRoleUp : t'.wifiStaRoleUp = t.wifiStaRoleUp
  wifiApLatch : t'.wifiApLatch = t.wifiApLatch
  log : ∃ cs, t'.log = t.log ++ cs ∧ ∀ c ∈ cs, c.IsCore

/-- What is kept at each step of the core half. -/
structure CoreHalfStep (t t' : PowerTask) : Prop where
  frame : CoreFrame t t'
  accounted : Accounted t'

section

variable {ids : PowerIds} {t t' t'' : PowerTask} {id : Nat} {c : PowerCall} {log : List PowerCall}
  {policy : PowerPolicy} {idleMs : UInt32} {w : WlanAnswers} {α : Type} {p : Prog PowerTask α}

theorem Balanced.accounted (h : Balanced t) : Accounted t where
  nonneg id := by
    rw [h id]
    split_ifs <;> decide
  balanced _ := h

theorem CoreFrame.refl (t : PowerTask) : CoreFrame t t := ⟨rfl, rfl, rfl, rfl, [], by simp, by simp⟩

theorem CoreFrame.trans (h : CoreFrame t t') (h' : CoreFrame t' t'') : CoreFrame t t'' := by
  obtain ⟨hok, hst, hsta, hap, cs, hlog, hcs⟩ := h
  obtain ⟨hok', hst', hsta', hap', cs', hlog', hcs'⟩ := h'
  refine ⟨hok'.trans hok, hst'.trans hst, hsta'.trans hsta, hap'.trans hap, cs ++ cs', ?_, ?_⟩
  · rw [hlog', hlog, List.append_assoc]
  · intro c hc
    rcases List.mem_append.mp hc with hc | hc
    · exact hcs c hc
    · exact hcs' c hc

/-- A call of the core half. -/
theorem CoreFrame.called (t : PowerTask) (hc : c.IsCore) : CoreFrame t (t.called c) :=
  ⟨rfl, rfl, rfl, rfl, [c], rfl, by simpa using hc⟩

@[simp] theorem netConstraint_append (id : Nat) (log log' : List PowerCall) :
    netConstraint id (log ++ log') = netConstraint id log + netConstraint id log' := by
  simp only [netConstraint, List.count_append]
  omega

theorem netConstraint_set (id j : Nat) :
    netConstraint j [.setConstraint id] = if id = j then 1 else 0 := by
  by_cases h : id = j <;> simp [netConstraint, h]

theorem netConstraint_release (id j : Nat) :
    netConstraint j [.releaseConstraint id] = if id = j then -1 else 0 := by
  by_cases h : id = j <;> simp [netConstraint, h]

/-- Setting a constraint that is not held, and holding it. -/
theorem Balanced.hold (h : Balanced t) (hid : id < 8) (hnot : t.constraintsHeld.getLsbD id = false) :
    Balanced { t.called (.setConstraint id) with
      constraintsHeld := t.constraintsHeld ||| constraintBit id } := by
  intro j
  have hj := h j
  simp only [PowerTask.called, netConstraint_append, netConstraint_set, constraintBit,
    getLsbD_or_bit hid, hj]
  by_cases hij : id = j
  · subst hij
    simp [hnot]
  · simp [hij]

/-- Releasing a constraint that is held, and no longer holding it. -/
theorem Balanced.release (h : Balanced t) (hheld : t.constraintsHeld.getLsbD id = true) :
    Balanced { t.called (.releaseConstraint id) with
      constraintsHeld := t.constraintsHeld &&& ~~~constraintBit id } := by
  intro j
  have hj := h j
  simp only [PowerTask.called, netConstraint_append, netConstraint_release, constraintBit,
    getLsbD_and_not_bit, hj]
  by_cases hij : id = j
  · subst hij
    simp [hheld]
  · simp [hij]

theorem or_constraintBit (hheld : t.constraintsHeld.getLsbD id = true) :
    t.constraintsHeld ||| constraintBit id = t.constraintsHeld := by
  have hid : id < 8 := BitVec.lt_of_getLsbD hheld
  refine BitVec.eq_of_getLsbD_eq fun j _ => ?_
  rw [constraintBit, getLsbD_or_bit hid]
  by_cases hij : id = j
  · subst hij
    simp [hheld]
  · simp [hij]

theorem and_not_constraintBit (hnot : t.constraintsHeld.getLsbD id = false) :
    t.constraintsHeld &&& ~~~constraintBit id = t.constraintsHeld := by
  refine BitVec.eq_of_getLsbD_eq fun j _ => ?_
  rw [constraintBit, getLsbD_and_not_bit]
  by_cases hij : id = j
  · subst hij
    simp [hnot]
  · simp [hij]

@[simp] theorem thru_powerCall {I : PowerTask → Prop} {Q : Unit → PowerTask → Prop} :
    (powerCall c).Thru I Q t ↔ I (t.called c) ∧ Q () (t.called c) := thru_modify

/-- A helper whose call accounts for the change it makes to the mask. -/
theorem ppConstraint_spec {test : BitVec 8 → Bool} {f : BitVec 8 → BitVec 8} (hc : c.IsCore)
    (hb : Balanced t)
    (hcall : test t.constraintsHeld = true →
      (∀ j, 0 ≤ netConstraint j (t.log ++ [c])) ∧
        Balanced { t.called c with constraintsHeld := f t.constraintsHeld })
    (hskip : test t.constraintsHeld = false → f t.constraintsHeld = t.constraintsHeld) :
    (ppConstraint test c f).Thru (CoreHalfStep t) (fun _ t' => CoreFrame t t' ∧ t'.inHelper = false ∧
      Balanced t' ∧ t'.constraintsHeld = f t.constraintsHeld) t := by
  have hinside : ∀ u : PowerTask, u.inHelper = true → ¬ u.inHelper = false := by simp
  have henter : CoreHalfStep t { t with inHelper := true } :=
    ⟨⟨rfl, rfl, rfl, rfl, [], by simp, by simp⟩, hb.accounted.nonneg, fun h => absurd h (hinside _ rfl)⟩
  simp only [ppConstraint, thru_bind, thru_modify, thru_get, thru_onlyIf, thru_powerCall]
  refine ⟨henter, henter, fun htest => ?_, fun htest => ?_⟩
  · -- the call is made before the mask says so
    obtain ⟨hpos, hb'⟩ := hcall htest
    have hframe : ∀ u : PowerTask, u.radioOk = t.radioOk → u.wifiStarted = t.wifiStarted →
        u.wifiStaRoleUp = t.wifiStaRoleUp → u.wifiApLatch = t.wifiApLatch →
        u.log = t.log ++ [c] → CoreFrame t u :=
      fun u hok hst hsta hap hlog => ⟨hok, hst, hsta, hap, _, hlog, by simpa using hc⟩
    refine ⟨⟨hframe _ rfl rfl rfl rfl rfl, hpos, fun h => absurd h (hinside _ rfl)⟩,
      ⟨hframe _ rfl rfl rfl rfl rfl, hpos, fun h => absurd h (hinside _ rfl)⟩,
      ⟨hframe _ rfl rfl rfl rfl rfl, hpos, fun _ => hb'⟩,
      hframe _ rfl rfl rfl rfl rfl, trivial, hb', rfl⟩
  · have hframe : CoreFrame t { t with inHelper := false } :=
      ⟨rfl, rfl, rfl, rfl, [], by simp, by simp⟩
    exact ⟨⟨hframe, hb.accounted.nonneg, fun _ => hb⟩, hframe, trivial, hb, (hskip htest).symm⟩

/-- `pp_hold_constraint`. -/
theorem ppHoldConstraint_spec (hid : id < 8) (hb : Balanced t) :
    (ppHoldConstraint id).Thru (CoreHalfStep t) (fun _ t' => CoreFrame t t' ∧ t'.inHelper = false ∧
      Balanced t' ∧ t'.constraintsHeld = t.constraintsHeld ||| constraintBit id) t := by
  refine ppConstraint_spec trivial hb (fun htest => ?_) fun htest => ?_
  · have hnot := and_bit_eq_zero.mp (of_decide_eq_true htest)
    refine ⟨fun j => ?_, hb.hold hid hnot⟩
    rw [netConstraint_append, netConstraint_set, hb j]
    split_ifs <;> decide
  · exact or_constraintBit (and_bit_ne_zero.mp (of_decide_eq_false htest))

/-- `pp_release_constraint`: what is released was set. -/
theorem ppReleaseConstraint_spec (hb : Balanced t) :
    (ppReleaseConstraint id).Thru (CoreHalfStep t) (fun _ t' => CoreFrame t t' ∧ t'.inHelper = false ∧
      Balanced t' ∧ t'.constraintsHeld = t.constraintsHeld &&& ~~~constraintBit id) t := by
  refine ppConstraint_spec trivial hb (fun htest => ?_) fun htest => ?_
  · have hheld := and_bit_ne_zero.mp (of_decide_eq_true htest)
    refine ⟨fun j => ?_, hb.release hheld⟩
    rw [netConstraint_append, netConstraint_release, hb j]
    by_cases hj : id = j
    · subst hj
      simp [hheld]
    · split_ifs <;> decide
  · refine and_not_constraintBit (and_bit_eq_zero.mp ?_)
    by_contra hne
    exact of_decide_eq_false htest hne

/-- After a step of the core half, what is kept from there is kept. -/
theorem CoreFrame.step {t t' u : PowerTask} (h : CoreFrame t t') (hu : CoreHalfStep t' u) : CoreHalfStep t u :=
  ⟨h.trans hu.frame, hu.accounted⟩

/-- The helpers set and clear the two bits of the policies. -/
theorem getLsbD_held (ids : PowerIds) (held : BitVec 8) (j : Nat) :
    ((held ||| constraintBit ids.sleep ||| constraintBit ids.idle).getLsbD j =
        (held.getLsbD j || decide (ids.sleep = j) || decide (ids.idle = j))) ∧
      ((held ||| constraintBit ids.sleep) &&& ~~~constraintBit ids.idle).getLsbD j =
        ((held.getLsbD j || decide (ids.sleep = j)) && !decide (ids.idle = j)) := by
  constructor
  · rw [constraintBit, constraintBit, getLsbD_or_bit ids.idle_lt, getLsbD_or_bit ids.sleep_lt]
  · rw [constraintBit, constraintBit, getLsbD_and_not_bit, getLsbD_or_bit ids.sleep_lt]

/-- Whatever was held before, the constraints of the preset are held after it. -/
theorem coreConstraints_eq (hs : CoreSettled ids t) :
    t.constraintsHeld ||| constraintBit ids.sleep ||| constraintBit ids.idle =
        constraintBit ids.sleep ||| constraintBit ids.idle ∧
      (t.constraintsHeld ||| constraintBit ids.sleep) &&& ~~~constraintBit ids.idle =
        constraintBit ids.sleep := by
  have honly := hs.only
  have hne := ids.ne
  constructor
  · refine BitVec.eq_of_getLsbD_eq fun j _ => ?_
    have hzero := (getLsbD_held ids 0#8 j).1
    rw [BitVec.zero_or] at hzero
    rw [(getLsbD_held ids t.constraintsHeld j).1, hzero]
    cases hj : t.constraintsHeld.getLsbD j with
    | false => simp
    | true => rcases honly j hj with rfl | rfl <;> simp
  · refine BitVec.eq_of_getLsbD_eq fun j _ => ?_
    rw [(getLsbD_held ids t.constraintsHeld j).2, constraintBit, getLsbD_bit]
    cases hj : t.constraintsHeld.getLsbD j with
    | false => by_cases hsj : ids.sleep = j <;> by_cases hij : ids.idle = j <;>
        simp_all [ids.sleep_lt]
    | true => rcases honly j hj with rfl | rfl <;> simp [hne, ids.sleep_lt, Ne.symm hne]

/-- The constraints of a preset, from any settled state. -/
theorem ppApplyCore_constraints (hs : CoreSettled ids t) :
    (do ppHoldConstraint ids.sleep; ppHoldConstraint ids.idle : Prog PowerTask Unit).Thru (CoreHalfStep t)
        (fun _ t' => CoreFrame t t' ∧ CoreSettled ids t' ∧
          t'.constraintsHeld = coreConstraints ids .performance) t ∧
      (do ppHoldConstraint ids.sleep; ppReleaseConstraint ids.idle : Prog PowerTask Unit).Thru
        (CoreHalfStep t) (fun _ t' => CoreFrame t t' ∧ CoreSettled ids t' ∧
          t'.constraintsHeld = constraintBit ids.sleep) t := by
  obtain ⟨hall, hsleep⟩ := coreConstraints_eq hs
  have hsettled : ∀ {u}, u.inHelper = false → Balanced u →
      (∀ j, u.constraintsHeld.getLsbD j = true → j = ids.sleep ∨ j = ids.idle) → CoreSettled ids u :=
    fun hout hb honly => ⟨hout, hb, honly⟩
  constructor
  · refine thru_bind.mpr (Holds.mono (ppHoldConstraint_spec ids.sleep_lt hs.balanced) (fun _ h => h) ?_)
    rintro ⟨⟩ t₁ ⟨hf, -, hb, hheld⟩
    refine Holds.mono (ppHoldConstraint_spec ids.idle_lt hb) (fun _ => hf.step) ?_
    rintro ⟨⟩ t₂ ⟨hf', hout, hb', hheld'⟩
    have hheld₂ : t₂.constraintsHeld = coreConstraints ids .performance := by
      rw [hheld', hheld, hall, coreConstraints]
    refine ⟨hf.trans hf', hsettled hout hb' fun j hj => ?_, hheld₂⟩
    rw [hheld₂, coreConstraints, constraintBit, constraintBit, getLsbD_or_bit ids.idle_lt,
      getLsbD_bit] at hj
    grind
  · refine thru_bind.mpr (Holds.mono (ppHoldConstraint_spec ids.sleep_lt hs.balanced) (fun _ h => h) ?_)
    rintro ⟨⟩ t₁ ⟨hf, -, hb, hheld⟩
    refine Holds.mono (ppReleaseConstraint_spec hb) (fun _ => hf.step) ?_
    rintro ⟨⟩ t₂ ⟨hf', hout, hb', hheld'⟩
    have hheld₂ : t₂.constraintsHeld = constraintBit ids.sleep := by rw [hheld', hheld, hsleep]
    refine ⟨hf.trans hf', hsettled hout hb' fun j hj => ?_, hheld₂⟩
    rw [hheld₂, constraintBit, getLsbD_bit] at hj
    grind

/-- The constraints follow the preset, whatever came of enabling the policy. -/
theorem ppApplyCore_follow {t₁ : PowerTask} (hf : CoreFrame t t₁) (hs : CoreSettled ids t₁)
    (policy : PowerPolicy) :
    (match policy with
      | .performance => do
          ppHoldConstraint ids.sleep
          ppHoldConstraint ids.idle
      | .balanced | .lowPower | .deepSleep => do
          ppHoldConstraint ids.sleep
          ppReleaseConstraint ids.idle
      | .unknown _ => pure () : Prog PowerTask Unit).Thru (CoreHalfStep t) (fun _ t' =>
        CoreFrame t t' ∧ CoreSettled ids t' ∧
          (policy.IsPreset → t'.constraintsHeld = coreConstraints ids policy)) t₁ := by
  obtain ⟨hperf, hrest⟩ := ppApplyCore_constraints hs
  cases policy with
  | performance =>
      exact hperf.mono (fun _ => hf.step) fun _ _ h => ⟨hf.trans h.1, h.2.1, fun _ => h.2.2⟩
  | unknown code => exact thru_pure.mpr ⟨hf, hs, fun h => h.elim⟩
  | _ =>
      exact hrest.mono (fun _ => hf.step) fun _ _ h => ⟨hf.trans h.1, h.2.1, fun _ => h.2.2⟩

/-- `pp_apply_core`. -/
theorem ppApplyCore_spec (hs : CoreSettled ids t) (policy : PowerPolicy) :
    (ppApplyCore ids policy).Thru (CoreHalfStep t) (fun _ t' => CoreFrame t t' ∧ CoreSettled ids t' ∧
      (policy.IsPreset → t'.constraintsHeld = coreConstraints ids policy)) t := by
  have hcall : CoreFrame t (t.called .enablePolicy) := CoreFrame.called t trivial
  have hnet : ∀ j, netConstraint j (t.log ++ [.enablePolicy]) = netConstraint j t.log := by
    intro j
    simp [netConstraint]
  have hb : Balanced (t.called .enablePolicy) := fun j => (hnet j).trans (hs.balanced j)
  have hstep : CoreHalfStep t (t.called .enablePolicy) := ⟨hcall, Balanced.accounted hb⟩
  have hframe : CoreFrame t { t.called .enablePolicy with policyEnabled := true } :=
    ⟨rfl, rfl, rfl, rfl, hcall.log⟩
  simp only [ppApplyCore, thru_bind, thru_get, thru_onlyIf, thru_powerCall, thru_modify]
  refine ⟨⟨.refl t, hs.balanced.accounted⟩, fun _ => ⟨hstep, ⟨hframe, Balanced.accounted hb⟩, ?_⟩,
    fun _ => ppApplyCore_follow (.refl t) hs policy⟩
  exact ppApplyCore_follow hframe ⟨hs.outside, hb, hs.only⟩ policy

end

/-! ## The radio half -/

/-- The presets that let the device sleep. -/
def PowerPolicy.Sleepy (p : PowerPolicy) : Prop := p = .balanced ∨ p = .lowPower ∨ p = .deepSleep

/-- What `pp_apply_radio` asks of the radio, and whether an AP is reported. -/
def radioCalls (ap : Bool) (policy : PowerPolicy) (idleMs : UInt32) : List PowerCall :=
  .applyRadio policy idleMs :: match radioPreset policy with
    | none => []
    | some (ps, pm) =>
        .setPowerSave ps :: .setPowerManagement (if ap then .alwaysActive else pm) ::
          ((presetLsi policy idleMs).map .setLsi).toList

/-- An AP is reported. -/
def PowerTask.apReported (t : PowerTask) : Bool := t.radioRole = .wifiAp

/-- The preset that the radio is to follow: an unconfigured station stays awake. -/
def PowerRequest.effective (r : PowerRequest) : PowerPolicy :=
  if r.hostSetPolicy then r.policyLatched else .performance

section

variable {t : PowerTask} {r r' r'' : PowerRequest} {s s' : PowerState} {policy : PowerPolicy}
  {idleMs : UInt32} {w : WlanAnswers}

/-- Calls are added to the log. -/
def PowerTask.logged (t : PowerTask) (cs : List PowerCall) : PowerTask := { t with log := t.log ++ cs }

theorem PowerTask.logged_called (t : PowerTask) (cs : List PowerCall) (c : PowerCall) :
    (t.logged cs).called c = t.logged (cs ++ [c]) := by
  simp [PowerTask.logged, PowerTask.called]

/-- `pp_apply_radio`: at each step a part of the calls was made, and an AP that overrides the preset
is reported as a failure. -/
theorem ppApplyRadio_spec (t : PowerTask) (w : WlanAnswers) (policy : PowerPolicy) (idleMs : UInt32) :
    (ppApplyRadio w policy idleMs).Thru
      (fun t' => ∃ cs, cs <+: radioCalls t.apReported policy idleMs ∧ t' = t.logged cs)
      (fun ok t' => t' = t.logged (radioCalls t.apReported policy idleMs) ∧
        (t.apReported = true → policy.Sleepy → ok = false)) t := by
  have hcalled : ∀ c, t.called c = t.logged [c] := fun c => rfl
  have hrole : ∀ cs, (t.logged cs).radioRole = t.radioRole := fun cs => rfl
  have hinj : ∀ cs cs', t.logged cs = t.logged cs' ↔ cs = cs' := by
    intro cs cs'
    refine ⟨fun h => ?_, fun h => h ▸ rfl⟩
    simpa [PowerTask.logged] using congrArg PowerTask.log h
  by_cases hrep : t.radioRole = .wifiAp <;> cases policy <;>
    simp [ppApplyRadio, radioPreset, presetLsi, radioCalls, hcalled, hinj, PowerTask.logged_called,
      hrole, hrep, PowerPolicy.Sleepy, PowerTask.apReported, List.prefix_cons_iff]

/-! ## Under requests -/

/-- What requests do to what the interrupt writes: nothing, or both flags are raised. -/
def Requested (r r' : PowerRequest) : Prop :=
  r' = r ∨ r'.coreDirty = true ∧ r'.radioDirty = true ∧ r'.hostSetPolicy = true

instance requested_refl : Std.Refl Requested := ⟨fun _ => .inl rfl⟩

instance requested_trans : IsTrans PowerRequest Requested where
  trans := by
    rintro r r' r'' h (rfl | h')
    · exact h
    · exact .inr h'

/-- Where the flag is still clear, there was no request. -/
theorem Requested.eq_of_radioDirty (h : Requested r r') (hd : r'.radioDirty = false) : r' = r := by
  rcases h with rfl | ⟨-, hdirty, -⟩
  · rfl
  · simp [hd] at hdirty

theorem Requested.eq_of_coreDirty (h : Requested r r') (hd : r'.coreDirty = false) : r' = r := by
  rcases h with rfl | ⟨hdirty, -⟩
  · rfl
  · simp [hd] at hdirty

/-- What `pp_apply_radio_effective` leaves of a task `t`. -/
inductive RadioApplied (t : PowerTask) (s : PowerState) : Prop
  /-- No station role is up: nothing is asked of the radio. -/
  | skipped (hsta : t.wifiStaRoleUp = false) (heq : s.2 = { t with radioOk := true })
  /-- A preset is applied; if there was no request since, the one that is latched. -/
  | applied (eff : PowerPolicy) (idleMs : UInt32) (ok : Bool) (hsta : t.wifiStaRoleUp = true)
      (heq : s.2 = { t.logged (radioCalls t.apReported eff idleMs) with radioOk := ok })
      (hlatched : s.1.radioDirty = false → eff = s.1.effective ∧ idleMs = s.1.idleMsLatched)
      (hok : t.apReported = true → eff.Sleepy → ok = false)

/-- The policy that is read is the effective one, unless a request came in meanwhile. -/
theorem ppEffective_spec {I : PowerTask → Prop} (r : PowerRequest) (hI : I t) :
    ppEffective.Holds (Half Requested) (fun s => I s.2)
      (fun eff s => Requested r s.1 ∧ t = s.2 ∧
        (s.1.radioDirty = false → eff = s.1.effective)) (r, t) := by
  refine Holds.get_bind ?_
  rintro ⟨r₁, _⟩ ⟨hr₁, rfl⟩
  refine ⟨hI, ?_⟩
  cases hset : r₁.hostSetPolicy with
  | false =>
      rintro ⟨r₂, _⟩ ⟨hr₂, rfl⟩
      refine ⟨IsTrans.trans _ _ _ hr₁ hr₂, rfl, fun hd => ?_⟩
      have heq : r₂ = r₁ := hr₂.eq_of_radioDirty hd
      rw [heq, PowerRequest.effective, hset]
      rfl
  | true =>
      rintro ⟨r₂, _⟩ ⟨hr₂, rfl⟩
      refine ⟨hI, ?_⟩
      rintro ⟨r₃, _⟩ ⟨hr₃, rfl⟩
      refine ⟨IsTrans.trans _ _ _ hr₁ (IsTrans.trans _ _ _ hr₂ hr₃), rfl, fun hd => ?_⟩
      have heq : r₃ = r₁ := (IsTrans.trans _ _ _ hr₂ hr₃ : Requested r₁ r₃).eq_of_radioDirty hd
      have heq' : r₃ = r₂ := hr₃.eq_of_radioDirty hd
      show r₂.policyLatched = r₃.effective
      rw [← heq', PowerRequest.effective, heq, hset]
      rfl

/-- `pp_apply_radio_effective`, interrupted by requests; `I` holds whatever part of the calls was
made. -/
theorem ppApplyRadioEffective_spec {I : PowerTask → Prop} (r : PowerRequest) (t : PowerTask)
    (w : WlanAnswers) (hI : ∀ eff idleMs cs ok, cs <+: radioCalls t.apReported eff idleMs →
      I { t.logged cs with radioOk := ok }) :
    (ppApplyRadioEffective w).Holds (Half Requested) (fun s => I s.2)
      (fun _ s => Requested r s.1 ∧ RadioApplied t s) (r, t) := by
  have hI₀ : ∀ ok, I { t with radioOk := ok } := fun ok => by
    simpa [PowerTask.logged] using hI .performance 0 [] ok (List.nil_prefix ..)
  have hIt : I t := hI₀ t.radioOk
  refine Holds.bind (Holds.task (P := fun up t' => up = t.wifiStaRoleUp ∧ t = t')
    (thru_get.mpr ⟨hIt, rfl, rfl⟩) ?_)
  rintro up _ r₁ ⟨rfl, rfl⟩ hr₁
  cases hsta : t.wifiStaRoleUp with
  | false =>
      refine Holds.task (P := fun _ t' => t' = { t with radioOk := true })
        (thru_modify.mpr ⟨hI₀ true, rfl⟩) ?_
      rintro ⟨⟩ _ r₂ rfl hr₂
      exact ⟨IsTrans.trans _ _ _ hr₁ hr₂, .skipped hsta rfl⟩
  | true =>
      refine Holds.bind ((ppEffective_spec r₁ hIt).mono (fun _ h => h) ?_)
      rintro eff ⟨r₂, _⟩ ⟨hr₂, rfl, heff⟩
      refine Holds.get_bind ?_
      rintro ⟨r₃, _⟩ ⟨hr₃, rfl⟩
      have hradio := ppApplyRadio_spec t w eff r₃.idleMsLatched
      refine ⟨hIt, Holds.bind (Holds.task (I := I) (hradio.mono ?_ fun _ _ h => h) ?_)⟩
      · rintro _ ⟨cs, hcs, rfl⟩
        exact hI eff r₃.idleMsLatched cs t.radioOk hcs
      · rintro ok _ r₄ ⟨rfl, hok⟩ hr₄
        refine Holds.task (P := fun _ t' =>
          t' = { t.logged (radioCalls t.apReported eff r₃.idleMsLatched) with radioOk := ok })
          (thru_modify.mpr ⟨hI _ _ _ _ (List.prefix_refl _), rfl⟩) ?_
        rintro ⟨⟩ _ r₅ rfl hr₅
        refine ⟨?_, .applied eff r₃.idleMsLatched ok hsta rfl (fun hd => ?_) hok⟩
        · exact IsTrans.trans _ _ _ (IsTrans.trans _ _ _ hr₁ hr₂)
            (IsTrans.trans _ _ _ hr₃ (IsTrans.trans _ _ _ hr₄ hr₅))
        -- the flag is clear: all reads were made in the request that is there now
        have h₅ : r₅ = r₄ := hr₅.eq_of_radioDirty hd
        rw [h₅] at hd ⊢
        have h₄ : r₄ = r₃ := hr₄.eq_of_radioDirty hd
        rw [h₄] at hd ⊢
        have h₃ : r₃ = r₂ := hr₃.eq_of_radioDirty hd
        rw [h₃] at hd ⊢
        exact ⟨heff hd, rfl⟩

end

end Cc3501eBridge
