import Cc3501eBridge.PowerSpec

/-!
# No power request is lost

A request may come in between any two steps of a service pass.  It leaves both flags raised, so that
what the pass did with the half-changed values is done again by the next one; where a flag is clear,
no request came in since it was taken, and the half of the policy it stands for was applied as it is
latched.  This is `PowerServed`, which every body of the task ends with.

At every moment, inside a pass or not, the calls made to the power manager account for the
constraints held.
-/

namespace Cc3501eBridge

open Prog

/-! ## What is served -/

/-- The arguments of `pp_apply_radio`. -/
def PowerCall.applyRadio? : PowerCall → Option (PowerPolicy × UInt32)
  | .applyRadio policy idleMs => some (policy, idleMs)
  | _ => none

/-- What the radio half was last applied with. -/
def lastApplied (log : List PowerCall) : Option (PowerPolicy × UInt32) :=
  Trace.latest PowerCall.applyRadio? log

/-- If the core flag is clear, the constraints are those of the policy that is latched. -/
def CoreServed (ids : PowerIds) (s : PowerState) : Prop :=
  s.1.coreDirty = false → s.1.hostSetPolicy = true → s.1.policyLatched.IsPreset →
    s.2.constraintsHeld = coreConstraints ids s.1.policyLatched

/-- If the radio flag is clear and a station role is up, the radio half was applied as latched. -/
def RadioServed (s : PowerState) : Prop :=
  s.1.radioDirty = false → s.1.hostSetPolicy = true → s.2.wifiStaRoleUp = true →
    lastApplied s.2.log = some (s.1.policyLatched, s.1.idleMsLatched)

/-- Between two bodies of the task. -/
structure PowerServed (ids : PowerIds) (s : PowerState) : Prop where
  settled : CoreSettled ids s.2
  core : CoreServed ids s
  radio : RadioServed s

section

variable {ids : PowerIds} {s s' : PowerState} {t t' t'' : PowerTask} {r r' : PowerRequest}
  {w : WlanAnswers} {cs : List PowerCall}

theorem CoreServed.requested (h : CoreServed ids s) (hs : Half Requested s s') :
    CoreServed ids s' := by
  obtain ⟨r, t⟩ := s
  obtain ⟨r', _⟩ := s'
  obtain ⟨hreq, rfl⟩ := hs
  intro hd
  obtain rfl : r' = r := hreq.eq_of_coreDirty hd
  exact h hd

theorem RadioServed.requested (h : RadioServed s) (hs : Half Requested s s') : RadioServed s' := by
  obtain ⟨r, t⟩ := s
  obtain ⟨r', _⟩ := s'
  obtain ⟨hreq, rfl⟩ := hs
  intro hd
  obtain rfl : r' = r := hreq.eq_of_radioDirty hd
  exact h hd

theorem PowerServed.requested (h : PowerServed ids s) (hs : Half Requested s s') :
    PowerServed ids s' := ⟨hs.2 ▸ h.settled, h.core.requested hs, h.radio.requested hs⟩

/-! ## Calls that are no concern of the policy -/

/-- A call that neither holds a constraint nor applies a policy. -/
def PowerCall.IsAside (c : PowerCall) : Prop := ¬ c.IsCore ∧ c.applyRadio? = none

/-- Only calls of that kind were made, and the variables of the policy are as they were. -/
structure Aside (t t' : PowerTask) : Prop where
  held : t'.constraintsHeld = t.constraintsHeld
  inHelper : t'.inHelper = t.inHelper
  wifiStaRoleUp : t'.wifiStaRoleUp = t.wifiStaRoleUp
  log : ∃ cs, t'.log = t.log ++ cs ∧ ∀ c ∈ cs, c.IsAside

instance aside_refl : Std.Refl Aside := ⟨fun _ => ⟨rfl, rfl, rfl, [], by simp, by simp⟩⟩

instance aside_trans : IsTrans PowerTask Aside where
  trans := by
    rintro t t' t'' ⟨hheld, hin, hsta, cs, hlog, hcs⟩ ⟨hheld', hin', hsta', cs', hlog', hcs'⟩
    refine ⟨hheld'.trans hheld, hin'.trans hin, hsta'.trans hsta, cs ++ cs', ?_, ?_⟩
    · rw [hlog', hlog, List.append_assoc]
    · intro c hc
      rcases List.mem_append.mp hc with hc | hc
      · exact hcs c hc
      · exact hcs' c hc

theorem netConstraint_aside (h : ∀ c ∈ cs, ¬ c.IsCore) (id : Nat) : netConstraint id cs = 0 := by
  have hset : cs.count (.setConstraint id) = 0 := List.count_eq_zero.mpr fun hm => h _ hm trivial
  have hrel : cs.count (.releaseConstraint id) = 0 := List.count_eq_zero.mpr fun hm => h _ hm trivial
  simp [netConstraint, hset, hrel]

/-- Calls that hold no constraint leave the account as it is. -/
theorem CoreSettled.of_eq (h : CoreSettled ids t) (hheld : t'.constraintsHeld = t.constraintsHeld)
    (hin : t'.inHelper = t.inHelper) (hlog : t'.log = t.log ++ cs) (hcs : ∀ c ∈ cs, ¬ c.IsCore) :
    CoreSettled ids t' where
  outside := hin.trans h.outside
  balanced id := by
    rw [hlog, netConstraint_append, netConstraint_aside hcs, Int.add_zero, hheld]
    exact h.balanced id
  only j hj := h.only j (hheld ▸ hj)

theorem CoreSettled.accounted (h : CoreSettled ids t) : Accounted t := h.balanced.accounted

theorem CoreSettled.aside (h : CoreSettled ids t) (ha : Aside t t') : CoreSettled ids t' := by
  obtain ⟨cs, hlog, hcs⟩ := ha.log
  exact h.of_eq ha.held ha.inHelper hlog fun c hc => (hcs c hc).1

/-- The latest of two parts. -/
theorem latest_append {ε α : Type} (f : ε → Option α) (tr tr' : List ε) :
    Trace.latest f (tr ++ tr') = (Trace.latest f tr').or (Trace.latest f tr) := by
  induction tr' using List.reverseRecOn with
  | nil => simp
  | append_singleton tr' e ih => rw [← List.append_assoc, Trace.latest_snoc, Trace.latest_snoc, ih,
      Option.or_assoc]

theorem latest_eq_none {ε α : Type} {f : ε → Option α} {tr : List ε} (h : ∀ e ∈ tr, f e = none) :
    Trace.latest f tr = none := by
  induction tr using List.reverseRecOn with
  | nil => rfl
  | append_singleton tr e ih =>
      rw [Trace.latest_snoc, h e (by simp), ih fun e' he' => h e' (List.mem_append_left _ he')]
      rfl

theorem lastApplied_append (log log' : List PowerCall) :
    lastApplied (log ++ log') = (lastApplied log').or (lastApplied log) := latest_append _ log log'

/-- What calls that apply no policy leave. -/
theorem lastApplied_of_none {log : List PowerCall} (h : ∀ c ∈ cs, c.applyRadio? = none) :
    lastApplied (log ++ cs) = lastApplied log := by
  rw [lastApplied_append, show lastApplied cs = none from latest_eq_none h]
  rfl

theorem PowerServed.aside (h : PowerServed ids (r, t)) (ha : Aside t t') (hr : Requested r r') :
    PowerServed ids (r', t') := by
  obtain ⟨cs, hlog, hcs⟩ := ha.log
  have h' : PowerServed ids (r', t) := h.requested ⟨hr, rfl⟩
  refine ⟨h'.settled.aside ha, fun hd hset hp => ha.held.trans (h'.core hd hset hp), ?_⟩
  intro hd hset hsta
  show lastApplied t'.log = _
  rw [hlog, lastApplied_of_none fun c hc => (hcs c hc).2]
  exact h'.radio hd hset (ha.wifiStaRoleUp.symm.trans hsta)

/-! ## The radio half -/

theorem not_isCore_of_mem_radioCalls {ap : Bool} {policy : PowerPolicy} {idleMs : UInt32}
    {c : PowerCall} (h : c ∈ radioCalls ap policy idleMs) : ¬ c.IsCore := by
  cases policy <;> simp [radioCalls, radioPreset, presetLsi] at h <;>
    rcases h with rfl | rfl | rfl | rfl <;> exact id

/-- The first call says what is applied, and none of the others does. -/
theorem lastApplied_radioCalls (ap : Bool) (policy : PowerPolicy) (idleMs : UInt32) :
    lastApplied (radioCalls ap policy idleMs) = some (policy, idleMs) := by
  cases policy <;> rfl

/-- `pp_apply_radio_effective` serves the radio half. -/
theorem ppApplyRadioEffective_served (hs : CoreSettled ids t) (hc : CoreServed ids (r, t)) :
    (ppApplyRadioEffective w).Holds (Half Requested) (fun s => Accounted s.2)
      (fun _ => PowerServed ids) (r, t) := by
  have hlogged : ∀ {ok cs}, (∀ c ∈ cs, ¬ c.IsCore) →
      CoreSettled ids { t.logged cs with radioOk := ok } :=
    fun {ok cs} hcs => hs.of_eq rfl rfl rfl hcs
  have hspec := ppApplyRadioEffective_spec (I := Accounted) r t w
    fun eff idleMs cs ok hcs => (hlogged fun c hmem =>
      not_isCore_of_mem_radioCalls (hcs.subset hmem)).accounted
  refine hspec.mono (fun _ h => h) ?_
  rintro ⟨⟩ ⟨r', t'⟩ ⟨hr, happ⟩
  have hc' : CoreServed ids (r', t) := hc.requested ⟨hr, rfl⟩
  cases happ with
  | skipped hsta heq =>
      obtain rfl : t' = { t with radioOk := true } := heq
      exact ⟨hs.of_eq rfl rfl (List.append_nil _).symm (by simp), hc',
        fun _ _ h => absurd (hsta.symm.trans h) (by decide)⟩
  | applied eff idleMs ok hsta heq hlatched hok =>
      obtain rfl : t' = { t.logged (radioCalls t.apReported eff idleMs) with radioOk := ok } := heq
      refine ⟨hlogged fun c => not_isCore_of_mem_radioCalls, hc', fun hd hset _ => ?_⟩
      obtain ⟨heff, hidle⟩ := hlatched hd
      have heff' : eff = r'.policyLatched := by
        rw [heff, PowerRequest.effective, hset]
        rfl
      show lastApplied (t.log ++ _) = some (r'.policyLatched, r'.idleMsLatched)
      rw [lastApplied_append, lastApplied_radioCalls, heff', hidle]
      rfl

/-! ## The service pass -/

/-- The core half of a pass serves the core half of the policy. -/
theorem coreHalf_served (hs : CoreSettled ids t) (hc : r.coreDirty = false → CoreServed ids (r, t))
    (hrad : r.radioDirty = false → RadioServed (r, t)) {cleared : PowerRequest}
    (hcl : cleared = { r with radioDirty := false, coreDirty := false }) :
    (onlyIf r.coreDirty (do
        let policy ← Prog.get (·.1.policyLatched)
        task (ppApplyCore ids policy) : Prog PowerState Unit)).Holds (Half Requested)
      (fun s => Accounted s.2) (fun _ s => CoreSettled ids s.2 ∧ CoreServed ids s ∧
        (r.radioDirty = false → RadioServed s)) (cleared, t) := by
  have hradCleared : r.radioDirty = false → RadioServed (cleared, t) := by
    rintro hd - hset hsta
    subst hcl
    exact hrad hd hd hset hsta
  cases hcore : r.coreDirty with
  | false =>
      rintro ⟨r', _⟩ ⟨hr, rfl⟩
      refine ⟨hs, ?_, fun hd => (hradCleared hd).requested ⟨hr, rfl⟩⟩
      refine CoreServed.requested (s := (cleared, t)) ?_ ⟨hr, rfl⟩
      rintro - hset hp
      subst hcl
      exact hc hcore hcore hset hp
  | true =>
      refine Holds.get_bind ?_
      rintro ⟨r₁, _⟩ ⟨hr₁, rfl⟩
      refine ⟨hs.accounted, Holds.task (I := Accounted) ((ppApplyCore_spec hs r₁.policyLatched).mono
        (fun _ h => h.accounted) fun _ _ h => h) ?_⟩
      rintro ⟨⟩ t' r₂ ⟨hf, hs', hheld⟩ hr₂
      obtain ⟨cs, hlog, hcs⟩ := hf.log
      refine ⟨hs', ?_, fun hd => ?_⟩
      · -- if the flag is still clear, the policy that was read is the one that is latched
        refine CoreServed.requested (s := (r₁, t')) ?_ ⟨hr₂, rfl⟩
        exact fun _ _ hp => hheld hp
      · have h : RadioServed (r₂, t) :=
          (hradCleared hd).requested ⟨IsTrans.trans _ _ _ hr₁ hr₂, rfl⟩
        intro hd' hset hsta
        show lastApplied t'.log = _
        rw [hlog, lastApplied_of_none]
        · exact h hd' hset (hf.wifiStaRoleUp.symm.trans hsta)
        · intro c hm
          have hcore' := hcs c hm
          cases c <;> first | rfl | exact hcore'.elim

/-- `cc3501e_hw_power_service` serves both halves. -/
theorem hwPowerService_served (h : PowerServed ids s) :
    (hwPowerService ids w).Holds (Half Requested) (fun s => Accounted s.2) (fun _ => PowerServed ids)
      s := by
  refine Holds.atomically_bind ?_
  rintro s₁ hs₁
  have h₁ := h.requested hs₁
  obtain ⟨r₁, t₁⟩ := s₁
  refine ⟨h₁.settled.accounted, Holds.bind ((coreHalf_served (r := r₁) h₁.settled (fun _ => h₁.core)
    (fun _ => h₁.radio) rfl).mono (fun _ h => h) ?_)⟩
  rintro ⟨⟩ ⟨r₂, t₂⟩ ⟨hs₂, hc₂, hrad₂⟩
  cases hrad : r₁.radioDirty with
  | true =>
      show (onlyIf r₁.radioDirty (ppApplyRadioEffective w)).Holds _ _ _ _
      rw [hrad]
      exact ppApplyRadioEffective_served hs₂ hc₂
  | false =>
      show (onlyIf r₁.radioDirty (ppApplyRadioEffective w)).Holds _ _ _ _
      rw [hrad]
      exact fun s' hs' => PowerServed.requested ⟨hs₂, hc₂, hrad₂ hrad⟩ hs'

/-! ## The other bodies -/

theorem within_powerCall {c : PowerCall} (hc : c.IsAside) : (powerCall c).Within Aside :=
  within_modify fun _ => ⟨rfl, rfl, rfl, [c], rfl, by simpa using hc⟩

/-- A change of other variables. -/
theorem within_other {f : PowerTask → PowerTask} (hheld : ∀ t, (f t).constraintsHeld = t.constraintsHeld)
    (hin : ∀ t, (f t).inHelper = t.inHelper) (hsta : ∀ t, (f t).wifiStaRoleUp = t.wifiStaRoleUp)
    (hlog : ∀ t, (f t).log = t.log) : (modify f).Within Aside :=
  within_modify fun t => ⟨hheld t, hin t, hsta t, [], by simp [hlog t], by simp⟩

theorem wifiLazyStart_aside (a : StartAnswers) : (wifiLazyStart a).Within Aside := by
  refine (within_get _).bind fun _ => within_ite (within_pure _) (within_ite (within_pure _) ?_)
  refine (within_powerCall ⟨id, rfl⟩).bind fun _ => (within_powerCall ⟨id, rfl⟩).bind fun _ => ?_
  refine within_ite (within_pure _) (Within.bind ?_ fun _ => within_pure _)
  exact within_other (fun _ => rfl) (fun _ => rfl) (fun _ => rfl) fun _ => rfl

theorem wifiApStart_aside (ssidOk : Bool) (a : StartAnswers) (roleUp : Int) :
    (wifiApStart ssidOk a roleUp).Within Aside := by
  refine within_ite (within_pure _) ((wifiLazyStart_aside a).bind fun rv => ?_)
  refine within_ite (within_pure _) ?_
  refine (within_powerCall ⟨id, rfl⟩).bind fun _ => (within_powerCall ⟨id, rfl⟩).bind fun _ => ?_
  refine within_ite (within_pure _) (Within.bind ?_ fun _ => within_pure _)
  exact within_other (fun _ => rfl) (fun _ => rfl) (fun _ => rfl) fun _ => rfl

theorem apStartDrain_aside (ssidOk : Bool) (a : StartAnswers) (roleUp : Int) :
    (apStartDrain ssidOk a roleUp).Within Aside := by
  refine (wifiApStart_aside ssidOk a roleUp).bind fun rv => (within_powerCall ⟨id, rfl⟩).bind fun _ => ?_
  refine Within.bind ?_ fun _ => within_pure _
  exact within_other (fun _ => rfl) (fun _ => rfl) (fun _ => rfl) fun _ => rfl

theorem bleEnable_aside (enabled : Bool × Bool) (a : StartAnswers) (hostStart : Int) :
    (bleEnable enabled a hostStart).Within Aside := by
  refine within_ite (within_pure _) ((wifiLazyStart_aside a).bind fun rv => ?_)
  refine within_ite (within_pure _) ?_
  refine (within_powerCall ⟨id, rfl⟩).bind fun _ => (within_powerCall ⟨id, rfl⟩).bind fun _ => ?_
  exact (within_powerCall ⟨id, rfl⟩).bind fun _ => within_ite (within_pure _) (within_pure _)

/-- A program of the task that goes on the side. -/
theorem Prog.Within.served {α : Type} {p : Prog PowerTask α} (hp : p.Within Aside)
    (h : PowerServed ids s) :
    (task p : Prog PowerState α).Holds (Half Requested) (fun s => Accounted s.2)
      (fun _ s' => PowerServed ids s' ∧ s'.2.wifiStaRoleUp = s.2.wifiStaRoleUp) s := by
  obtain ⟨r, t⟩ := s
  refine Holds.task (I := Accounted)
    ((hp t).mono (fun t' ha => (h.settled.aside ha).accounted) fun _ _ ha => ha) ?_
  rintro a t' r' ha hr
  exact ⟨h.aside ha hr, ha.wifiStaRoleUp⟩

theorem served_pure {α : Type} {a : α} (h : PowerServed ids s) :
    (pure a : Prog PowerState α).Holds (Half Requested) (fun s => Accounted s.2)
      (fun _ => PowerServed ids) s := fun _ hs' => h.requested hs'

/-- Bringing the station role up applies the policy at once. -/
theorem wifiEnsureStaRole_served {a : StartAnswers} {roleUp : Int} (h : PowerServed ids s) :
    (wifiEnsureStaRole a roleUp w).Holds (Half Requested) (fun s => Accounted s.2)
      (fun _ => PowerServed ids) s := by
  refine Holds.bind (((within_get (G := Aside) _).served h).mono (fun _ h => h) ?_)
  rintro up s₁ ⟨h₁, -⟩
  refine Holds.ite (fun _ => served_pure h₁) fun _ => ?_
  refine Holds.bind (((wifiLazyStart_aside a).served h₁).mono (fun _ h => h) ?_)
  rintro rv s₂ ⟨h₂, -⟩
  refine Holds.ite (fun _ => served_pure h₂) fun _ => ?_
  refine Holds.bind (((within_powerCall (c := .setStaWifiBand) ⟨id, rfl⟩).served h₂).mono
    (fun _ h => h) ?_)
  rintro ⟨⟩ s₃ ⟨h₃, -⟩
  refine Holds.bind (((within_powerCall (c := .roleUpSta roleUp) ⟨id, rfl⟩).served h₃).mono
    (fun _ h => h) ?_)
  rintro ⟨⟩ ⟨r₄, t₄⟩ ⟨h₄, -⟩
  refine Holds.ite (fun _ => served_pure h₄) fun _ => ?_
  -- the role is up before the policy is applied: only the radio half is open
  have hs : CoreSettled ids { t₄ with wifiStaRoleUp := true } :=
    h₄.settled.of_eq rfl rfl (List.append_nil _).symm (by simp)
  refine Holds.bind (Holds.task (I := Accounted) (P := fun _ t' => t' = { t₄ with wifiStaRoleUp := true })
    (thru_modify.mpr ⟨hs.accounted, rfl⟩) ?_)
  rintro ⟨⟩ _ r₅ rfl hr₅
  have hc : CoreServed ids (r₅, { t₄ with wifiStaRoleUp := true }) :=
    have h₅ : CoreServed ids (r₅, t₄) := h₄.core.requested ⟨hr₅, rfl⟩
    h₅
  refine Holds.bind ((ppApplyRadioEffective_served hs hc).mono (fun _ h => h) ?_)
  exact fun _ _ h => served_pure h

/-- Taking the AP down applies the policy at once. -/
theorem apStopDrain_served {roleDown : Int} (h : PowerServed ids s) :
    (apStopDrain roleDown w).Holds (Half Requested) (fun s => Accounted s.2)
      (fun _ => PowerServed ids) s := by
  have hstop : (wifiApStop roleDown w).Holds (Half Requested) (fun s => Accounted s.2)
      (fun _ => PowerServed ids) s := by
    refine Holds.bind (((within_get (G := Aside) _).served h).mono (fun _ h => h) ?_)
    rintro started s₁ ⟨h₁, -⟩
    refine Holds.ite (fun _ => served_pure h₁) fun _ => ?_
    refine Holds.bind (((within_powerCall (c := .roleDownAp roleDown) ⟨id, rfl⟩).served h₁).mono
      (fun _ h => h) ?_)
    rintro ⟨⟩ s₂ ⟨h₂, -⟩
    refine Holds.ite (fun _ => served_pure h₂) fun _ => ?_
    have hlatch : (Prog.modify fun t : PowerTask =>
        { t with wifiApLatch := t.wifiApLatch.stopped }).Within Aside :=
      within_other (fun _ => rfl) (fun _ => rfl) (fun _ => rfl) fun _ => rfl
    refine Holds.bind ((hlatch.served h₂).mono (fun _ h => h) ?_)
    rintro ⟨⟩ s₃ ⟨h₃, -⟩
    refine Holds.bind ((ppApplyRadioEffective_served h₃.settled h₃.core).mono (fun _ h => h) ?_)
    exact fun _ _ h => served_pure h
  refine Holds.bind (hstop.mono (fun _ h => h) ?_)
  rintro rv s₁ h₁
  refine Holds.bind (((within_powerCall (c := .apStopReturned rv) ⟨id, rfl⟩).served h₁).mono
    (fun _ h => h) ?_)
  rintro ⟨⟩ s₂ ⟨h₂, -⟩
  refine Holds.bind (((within_powerCall (c := .spiReinit) ⟨id, rfl⟩).served h₂).mono (fun _ h => h) ?_)
  exact fun _ _ h => served_pure h.1

/-- Every body. -/
theorem powerOp_served (k : PowerOp) (h : PowerServed ids s) :
    ((powerTasks ids).body k).Holds (Half Requested) (fun s => Accounted s.2)
      (fun _ => PowerServed ids) s := by
  refine Holds.bind (Holds.mono (Q := fun _ => PowerServed ids) ?_ (fun _ h => h)
    fun _ _ h => served_pure h)
  cases k with
  | powerService w => exact Holds.bind ((hwPowerService_served h).mono (fun _ h => h) fun _ _ h => served_pure h)
  | staRoleUp a roleUp w => exact wifiEnsureStaRole_served h
  | apStart ssidOk a roleUp =>
      exact ((apStartDrain_aside ssidOk a roleUp).served h).mono (fun _ h => h) fun _ _ h => h.1
  | apStop roleDown w => exact apStopDrain_served h
  | bleEnable enabled a hostStart =>
      exact ((bleEnable_aside enabled a hostStart).served h).mono (fun _ h => h) fun _ _ h => h.1

/-! ## What was asked last -/

/-- A request that was accepted. -/
def accepted? : TaskAct PowerIrq PowerOp → Option (PowerPolicy × UInt32)
  | .interrupt i => i.accepted?
  | _ => none

/-- The policy and the idle budget of the last request that was accepted. -/
def lastAccepted (tr : List (TaskAct PowerIrq PowerOp)) : Option (PowerPolicy × UInt32) :=
  Trace.latest accepted? tr

/-- What a request latches. -/
def PowerRequest.settings (r : PowerRequest) : PowerPolicy × UInt32 × Bool :=
  (r.policyLatched, r.idleMsLatched, r.hostSetPolicy)

section

variable {γ : Type} {π : PowerRequest → γ}

theorem ppApplyRadioEffective_keeps : (ppApplyRadioEffective w).Keeps fun s => π s.1 := by
  refine (keeps_task _).bind fun up => keeps_ite ?_ (keeps_task _)
  refine Keeps.bind ?_ fun eff => ?_
  · exact (keeps_get _).bind fun hostSet => keeps_ite (keeps_get _) (keeps_pure _)
  · exact (keeps_get _).bind fun idleMs => (keeps_task _).bind fun ok => keeps_task _

/-- After it has taken the flags, a pass leaves the request alone. -/
theorem servicePass_keeps (ids : PowerIds) (dirty : Bool × Bool) :
    (do
      onlyIf dirty.1 do
        let policy ← Prog.get (·.1.policyLatched)
        task (ppApplyCore ids policy)
      onlyIf dirty.2 (ppApplyRadioEffective w) : Prog PowerState Unit).Keeps fun s => π s.1 :=
  (keeps_onlyIf ((keeps_get _).bind fun _ => keeps_task _)).bind fun _ =>
    keeps_onlyIf ppApplyRadioEffective_keeps

end

/-- No body changes what was asked for. -/
theorem powerOp_keeps (k : PowerOp) : ((powerTasks ids).body k).Keeps fun s => s.1.settings := by
  refine Keeps.bind ?_ fun _ => keeps_pure _
  cases k with
  | powerService w =>
      refine Keeps.bind ?_ fun _ => keeps_pure _
      exact (keeps_atomically fun _ => rfl).bind (servicePass_keeps ids)
  | staRoleUp a roleUp w =>
      refine (keeps_task _).bind fun up => keeps_ite (keeps_pure _) ?_
      refine (keeps_task _).bind fun rv => keeps_ite (keeps_pure _) ?_
      refine (keeps_task _).bind fun _ => (keeps_task _).bind fun _ => keeps_ite (keeps_pure _) ?_
      exact (keeps_task _).bind fun _ => ppApplyRadioEffective_keeps.bind fun _ => keeps_pure _
  | apStart ssidOk a roleUp => exact keeps_task _
  | apStop roleDown w =>
      refine Keeps.bind ?_ fun _ => (keeps_task _).bind fun _ => (keeps_task _).bind fun _ => keeps_pure _
      refine (keeps_task _).bind fun started => keeps_ite (keeps_pure _) ?_
      refine (keeps_task _).bind fun _ => keeps_ite (keeps_pure _) ?_
      exact (keeps_task _).bind fun _ => ppApplyRadioEffective_keeps.bind fun _ => keeps_pure _
  | bleEnable enabled a hostStart => exact keeps_task _

/-- What an interrupt latches. -/
theorem PowerIrq.settings (i : PowerIrq) (s : PowerState) :
    (i.run s).1.settings = match i.accepted? with
      | some (policy, idleMs) => (policy, idleMs, true)
      | none => s.1.settings := by
  cases i with
  | getDiagInfo => rfl
  | powerPolicy policy wakeEvents idleMs =>
      by_cases hrej : wakeEvents = wakeNone ∧ (policy = .lowPower ∨ policy = .deepSleep)
      · simp [PowerIrq.run, PowerIrq.accepted?, hwSetPowerPolicy, hrej, hwErrInval, hwOk]
      · simp [PowerIrq.run, PowerIrq.accepted?, hwSetPowerPolicy, hrej, PowerRequest.settings]

/-- The request that is latched is the one that was accepted last. -/
theorem settings_of_run {tr : List (TaskAct PowerIrq PowerOp)} {p : Prog PowerState Unit}
    (hr : (powerTasks ids).machine.Run (.boot, .done ()) tr (s, p)) :
    (p.Keeps fun s => s.1.settings) ∧ ∀ policy idleMs, lastAccepted tr = some (policy, idleMs) →
      s.1.settings = (policy, idleMs, true) := by
  refine hr.invariant (P := fun tr sp => (sp.2.Keeps fun s => s.1.settings) ∧
    ∀ policy idleMs, lastAccepted tr = some (policy, idleMs) →
      sp.1.1.settings = (policy, idleMs, true)) ⟨trivial, by simp [lastAccepted]⟩ ?_
  rintro tr ⟨s, p⟩ a ⟨s', p'⟩ e ⟨hkeeps, hlast⟩ hs
  obtain ⟨rfl, ⟨i, rfl, rfl, rfl⟩ | ⟨k, u, rfl, rfl, rfl, rfl⟩ | ⟨f, k, rfl, rfl, rfl, rfl⟩⟩ :=
    Tasks.step_cases hs
  · refine ⟨hkeeps, fun policy idleMs h => ?_⟩
    rw [lastAccepted, Trace.latest_snoc, accepted?] at h
    show (i.run s).1.settings = _
    rw [PowerIrq.settings]
    cases hi : i.accepted? with
    | none =>
        rw [hi] at h
        exact hlast policy idleMs h
    | some x =>
        rw [hi] at h
        obtain rfl : x = (policy, idleMs) := Option.some.inj h
        rfl
  · refine ⟨powerOp_keeps k, fun policy idleMs h => hlast policy idleMs ?_⟩
    simpa [lastAccepted, accepted?] using h
  · refine ⟨hkeeps.2 s, fun policy idleMs h => (hkeeps.1 s).trans (hlast policy idleMs ?_)⟩
    simpa [lastAccepted, accepted?] using h

/-! ## No request is lost -/

/-- Requests stay within `Requested`. -/
theorem PowerIrq.requested (i : PowerIrq) (s : PowerState) : Half Requested s (i.run s) := by
  cases i with
  | getDiagInfo => exact Std.Refl.refl s
  | powerPolicy policy wakeEvents idleMs =>
      refine ⟨?_, rfl⟩
      simp only [PowerIrq.run, hwSetPowerPolicy]
      split_ifs
      · exact .inl rfl
      · exact .inr ⟨rfl, rfl, rfl⟩

theorem powerServed_boot (ids : PowerIds) : PowerServed ids .boot where
  settled := ⟨rfl, fun id => by simp [PowerState.boot, netConstraint], by simp [PowerState.boot]⟩
  core := by
    intro _ h
    simp [PowerState.boot] at h
  radio := by
    intro _ h
    simp [PowerState.boot] at h

/-- Every run, as one of the task under requests. -/
theorem powerRun_within {tr : List (TaskAct PowerIrq PowerOp)} {s₀ s : PowerState × Prog PowerState Unit}
    (hr : (powerTasks ids).machine.Run s₀ tr s) :
    (powerTasks ids).machine.RunIf (Tasks.Within (fun _ => True) fun _ => True) s₀ tr s :=
  hr.mono fun _ a _ => by cases a <;> trivial

/-- Once the flags are taken, an uninterrupted pass ends with both clear. -/
theorem powerService_clears :
    (((powerTasks ids).body (.powerService w)).run s).2.1 =
      { s.1 with radioDirty := false, coreDirty := false } := by
  have hkeeps := (servicePass_keeps (w := w) (π := id) ids
    (s.1.coreDirty, s.1.radioDirty)).run (s := s.takeDirty.2)
  simp only [powerTasks, PowerOp.body, run_bind, run_pure]
  rw [hwPowerService, run_bind]
  exact hkeeps

/-- In every run of the task under requests, the calls account for the constraints at every moment
outside the two helpers, and none is released more often than it was set; and an uninterrupted service
pass after the last request that was accepted leaves the constraints of its policy held, and, if a
station role is up, the radio half applied with exactly that policy and idle budget. -/
theorem powerRequests_served {tr : List (TaskAct PowerIrq PowerOp)} {p : Prog PowerState Unit}
    (hr : (powerTasks ids).machine.Run (.boot, .done ()) tr (s, p)) :
    Accounted s.2 ∧ ∀ u policy idleMs w tr' s', p = .done u →
      lastAccepted tr = some (policy, idleMs) → policy.IsPreset →
      (powerTasks ids).machine.RunIf (Tasks.During fun _ => False)
        (s, (powerTasks ids).body (.powerService w)) tr' (s', .done ()) →
      s'.2.constraintsHeld = coreConstraints ids policy ∧
        (s'.2.wifiStaRoleUp = true → lastApplied s'.2.log = some (policy, idleMs)) := by
  have hR : ∀ i s, True → Half Requested s ((powerTasks ids).interrupt i s) :=
    fun i s _ => i.requested s
  have hI : ∀ s s' : PowerState, Half Requested s s' → Accounted s.2 → Accounted s'.2 :=
    fun s s' h ha => h.2 ▸ ha
  have hboot := powerServed_boot ids
  obtain ⟨hacc, hp⟩ := Tasks.invariant (I := fun s => Accounted s.2) (J := PowerServed ids)
    (powerRun_within hr) hR hI
    (fun _ _ h hs => hs.requested h) (fun k _ _ _ h => powerOp_served k h) hboot.settled.accounted hboot
  refine ⟨hacc, ?_⟩
  rintro u policy idleMs w tr' s' rfl hlast hpreset hpass
  have hserved : PowerServed ids s := hp s (Std.Refl.refl s)
  have hset := (settings_of_run hr).2 policy idleMs hlast
  obtain ⟨-, hdone⟩ := Tasks.holds_run hpass (fun _ _ h => h.elim) hI hacc
    (powerOp_served (.powerService w) hserved)
  have hend : PowerServed ids s' := hdone s' (Std.Refl.refl s')
  have hrun := Tasks.run_eq hpass
  have hfst : s'.1 = { s.1 with radioDirty := false, coreDirty := false } := by
    have hsnd := congrArg (fun x => x.2.1) hrun
    exact hsnd.trans powerService_clears
  obtain ⟨hpol, hidle, hhost⟩ : s.1.policyLatched = policy ∧ s.1.idleMsLatched = idleMs ∧
      s.1.hostSetPolicy = true := by simpa [PowerRequest.settings] using hset
  have hcore := hend.core (by rw [hfst]) (by rw [hfst]; exact hhost) (by rw [hfst, hpol]; exact hpreset)
  have hradio := hend.radio (by rw [hfst]) (by rw [hfst]; exact hhost)
  rw [hfst] at hcore hradio
  rw [hpol] at hcore hradio
  rw [hidle] at hradio
  exact ⟨hcore, hradio⟩

open TaskAct in
/-- A station comes up, `PERFORMANCE` is asked for, and `BALANCED` in the middle of its pass. -/
def balancedInPass : List (TaskAct PowerIrq PowerOp) :=
  call (.staRoleUp {} 0 {}) :: List.replicate 16 step ++
    (interrupt (.powerPolicy .performance 0 0) :: call (.powerService {}) ::
      List.replicate 5 step) ++
    interrupt (.powerPolicy .balanced 0 300) :: List.replicate 19 step

/-- A request for `BALANCED` that comes in while the pass for `PERFORMANCE` is on its way. -/
theorem powerRequests_served_interrupted : ∃ (ids : PowerIds) (s' : PowerState),
    s'.2.constraintsHeld = coreConstraints ids .balanced ∧
      lastApplied s'.2.log = some (.balanced, 300) := by
  let ids : PowerIds := ⟨0, 1, by decide, by decide, by decide⟩
  let s : PowerState :=
    ({ idleMsLatched := 300, hostSetPolicy := true, radioDirty := true, coreDirty := true },
      { constraintsHeld := 3, policyEnabled := true, wifiStarted := true, wifiStaRoleUp := true,
        log := [.wlanStart 0, .spiReinit, .setStaWifiBand, .roleUpSta 0, .applyRadio .performance 0,
          .setPowerSave .active, .setPowerManagement .alwaysActive, .enablePolicy, .setConstraint 0,
          .setConstraint 1, .applyRadio .balanced 300, .setPowerSave .autoPs,
          .setPowerManagement .elp] })
  have hr : (powerTasks ids).machine.Run (.boot, .done ()) balancedInPass (s, .done ()) :=
    Tasks.runIf_of_acts (by decide +kernel)
  obtain ⟨n, hpass⟩ := Tasks.exists_steps (powerTasks ids) (fun _ => False)
    ((powerTasks ids).body (.powerService {})) s
  obtain ⟨hheld, hradio⟩ :=
    (powerRequests_served hr).2 () .balanced 300 {} _ _ rfl rfl trivial hpass
  exact ⟨ids, _, hheld, hradio (by decide +kernel)⟩

end

end Cc3501eBridge
