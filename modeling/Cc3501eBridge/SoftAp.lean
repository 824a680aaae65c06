import Cc3501eBridge.PowerPresets

/-!
# A running soft-AP

An AP is up from a `Wlan_RoleUp` that returned 0 to the `Wlan_RoleDown` that returned 0.  `ApPhase`
refines this by what the worker does around the two: the re-init of the slave after the role-up, and
the return of `cc3501e_hw_wifi_ap_stop`.  It is read off the calls, and knows nothing of the latch.

Between two bodies of the task the latch and the phase agree, `ApAt`.  `AP_START` and `AP_STOP` move
through the phases; each of the others stays in one, and gives the radio no sleeping mode in it.
-/

namespace Cc3501eBridge

open Prog

/-! ## Phases -/

/-- Where the AP is. -/
inductive ApPhase where
  | down
  /-- The role is up; the slave was not re-initialised since. -/
  | starting
  | serving
  /-- The role is down; `cc3501e_hw_wifi_ap_stop` has not returned since. -/
  | stopping
  deriving DecidableEq, Repr

namespace ApPhase

/-- What a call does. -/
def next (ph : ApPhase) : PowerCall → ApPhase
  | .roleUpAp rv => if rv ≠ 0 ∨ ph = .serving then ph else .starting
  | .roleDownAp rv => if rv ≠ 0 ∨ ph = .down then ph else .stopping
  | .spiReinit => if ph = .starting then .serving else ph
  | .apStopReturned _ => if ph = .stopping then .down else ph
  | _ => ph

/-- The role is up. -/
def Up (ph : ApPhase) : Prop := ph = .starting ∨ ph = .serving

/-- The role was brought up, and the drain that did so has re-initialised the slave; no
`cc3501e_hw_wifi_ap_stop` that took it down has returned since. -/
def Reportable (ph : ApPhase) : Prop := ph = .serving ∨ ph = .stopping

end ApPhase

/-- The phase after a list of calls. -/
def apPhase (log : List PowerCall) : ApPhase := log.foldl ApPhase.next .down

/-- Whether a role call brought the AP up or down. -/
def PowerCall.apUp? : PowerCall → Option Bool
  | .roleUpAp rv => if rv = 0 then some true else none
  | .roleDownAp rv => if rv = 0 then some false else none
  | _ => none

/-- The last role call of the AP that returned 0 was a role-up. -/
def ApUp (log : List PowerCall) : Prop := Trace.latest PowerCall.apUp? log = some true

section

variable {ids : PowerIds} {ph : ApPhase} {c : PowerCall} {cs log : List PowerCall} {t t' : PowerTask}
  {r : PowerRequest} {s s' : PowerState} {w : WlanAnswers} {α : Type} {p : Prog PowerTask α}

@[simp] theorem apPhase_snoc (log : List PowerCall) (c : PowerCall) :
    apPhase (log ++ [c]) = (apPhase log).next c := by simp [apPhase]

/-- A call that brings the AP up or down ends in a phase where it is. -/
theorem ApPhase.up_next (ph : ApPhase) (c : PowerCall) :
    (ph.next c).Up ↔ match c.apUp? with
      | some up => up = true
      | none => ph.Up := by
  cases c with
  | roleUpAp rv =>
      by_cases hrv : rv = 0 <;> cases ph <;> simp [next, Up, PowerCall.apUp?, hrv]
  | roleDownAp rv =>
      by_cases hrv : rv = 0 <;> cases ph <;> simp [next, Up, PowerCall.apUp?, hrv]
  | _ => cases ph <;> simp [next, Up, PowerCall.apUp?]

/-- The phases are those of the role calls. -/
theorem apPhase_up_iff : (apPhase log).Up ↔ ApUp log := by
  induction log using List.reverseRecOn with
  | nil => simp [apPhase, ApPhase.Up, ApUp]
  | append_singleton log c ih =>
      rw [apPhase_snoc, ApPhase.up_next, ApUp, Trace.latest_snoc]
      cases hc : c.apUp? with
      | none => simpa [ApUp] using ih
      | some up => simp

/-! ## Phase and latch -/

/-- What holds at every moment. -/
structure ApKept (t : PowerTask) : Prop where
  awake : (apPhase t.log).Up → t.radio.powerManagement = some .alwaysActive
  reported : t.radioRole = .wifiAp → (apPhase t.log).Reportable

/-- The AP is in a phase, and the latch says so; none is to be published. -/
structure ApAt (ph : ApPhase) (t : PowerTask) : Prop where
  phase : apPhase t.log = ph
  pending : t.wifiApLatch.pending = false
  up : t.wifiApLatch.up = true ↔ ph = .serving
  awake : ph.Up → t.radio.powerManagement = some .alwaysActive

/-- Between two bodies. -/
def ApSettled (t : PowerTask) : Prop := ApAt .down t ∨ ApAt .serving t

theorem PowerTask.radioRole_eq_wifiAp : t.radioRole = .wifiAp ↔ t.wifiApLatch.up = true := by
  rw [radioRole]
  cases t.wifiApLatch.up <;> cases t.wifiStaRoleUp <;> simp

theorem ApAt.kept (h : ApAt ph t) : ApKept t where
  awake hup := h.awake (h.phase ▸ hup)
  reported hrole := by
    rw [h.phase]
    exact .inl (h.up.mp (PowerTask.radioRole_eq_wifiAp.mp hrole))

theorem ApSettled.kept (h : ApSettled t) : ApKept t := h.elim ApAt.kept ApAt.kept

/-- A change of other variables. -/
theorem ApAt.of_eq (h : ApAt ph t) (hlatch : t'.wifiApLatch = t.wifiApLatch)
    (hlog : t'.log = t.log) : ApAt ph t' where
  phase := hlog ▸ h.phase
  pending := hlatch ▸ h.pending
  up := hlatch ▸ h.up
  awake hup := by
    have hpm := h.awake hup
    simp only [PowerTask.radio, hlog] at hpm ⊢
    exact hpm

/-- A call that is no concern of an AP in this phase. -/
structure PowerCall.ApAside (ph : ApPhase) (c : PowerCall) : Prop where
  next : ph.next c = ph
  awake : ph.Up → ∀ pm, c.powerManagement? = some pm → pm = .alwaysActive

theorem ApAt.called (h : ApAt ph t) (hc : c.ApAside ph) : ApAt ph (t.called c) where
  phase := by
    show apPhase (t.log ++ [c]) = ph
    rw [apPhase_snoc, h.phase, hc.next]
  pending := h.pending
  up := h.up
  awake hup := by
    show Trace.latest PowerCall.powerManagement? (t.log ++ [c]) = _
    rw [Trace.latest_snoc]
    cases hpm : c.powerManagement? with
    | none => exact h.awake hup
    | some pm =>
        rw [hc.awake hup pm hpm]
        rfl

/-- Calls of that kind. -/
theorem ApAt.logged {ok : Bool} (h : ApAt ph t) (hcs : ∀ c ∈ cs, c.ApAside ph) :
    ApAt ph { t.logged cs with radioOk := ok } := by
  induction cs using List.reverseRecOn with
  | nil => exact h.of_eq rfl (List.append_nil _)
  | append_singleton cs c ih =>
      have hpre := ih fun c' hc' => hcs c' (List.mem_append_left _ hc')
      refine (hpre.called (hcs c (by simp))).of_eq rfl ?_
      simp [PowerTask.logged, PowerTask.called]

/-! ## The radio half -/

/-- A preset moves no phase, and where the AP is up it lets nothing sleep. -/
theorem apAside_of_mem_radioCalls {policy : PowerPolicy} {idleMs : UInt32} (h : ApAt ph t)
    (hph : ph ≠ .starting) (hc : c ∈ radioCalls t.apReported policy idleMs) : c.ApAside ph := by
  have hap : ph.Up → t.apReported = true := by
    rintro (hstart | hserve)
    · exact absurd hstart hph
    · exact decide_eq_true (PowerTask.radioRole_eq_wifiAp.mpr (h.up.mpr hserve))
  constructor
  · cases policy <;> simp [radioCalls, radioPreset, presetLsi] at hc <;>
      rcases hc with rfl | rfl | rfl | rfl <;> rfl
  · intro hup pm hpm
    rw [hap hup] at hc
    cases policy <;> simp [radioCalls, radioPreset, presetLsi] at hc <;>
      rcases hc with rfl | rfl | rfl | rfl <;> cases hpm <;> rfl

/-- `pp_apply_radio_effective` stays in its phase. -/
theorem ppApplyRadioEffective_apAt (h : ApAt ph t) (hph : ph ≠ .starting) :
    (ppApplyRadioEffective w).Holds (Half Requested) (fun s => ApKept s.2)
      (fun _ s => ApAt ph s.2 ∧ RadioApplied t s) (r, t) := by
  have haside : ∀ {eff idleMs cs}, cs <+: radioCalls t.apReported eff idleMs →
      ∀ c ∈ cs, c.ApAside ph :=
    fun hcs c hc => apAside_of_mem_radioCalls h hph (hcs.subset hc)
  refine (ppApplyRadioEffective_spec r t w fun eff idleMs cs ok hcs =>
    (h.logged (haside hcs)).kept).mono (fun _ hk => hk) ?_
  rintro ⟨⟩ ⟨r', t'⟩ ⟨-, happ⟩
  refine ⟨?_, happ⟩
  cases happ with
  | skipped hsta heq => exact h.of_eq (heq ▸ rfl) (heq ▸ rfl)
  | applied eff idleMs ok hsta heq hlatched hok =>
      obtain rfl : t' = { t.logged (radioCalls t.apReported eff idleMs) with radioOk := ok } := heq
      exact h.logged (haside (List.prefix_refl _))

/-! ## Bodies that stay in a phase -/

/-- A call that is no concern of an AP that is down or serving. -/
def PowerCall.IsQuiet : PowerCall → Prop
  | .roleUpAp rv | .roleDownAp rv => rv ≠ 0
  | .setPowerManagement pm => pm = .alwaysActive
  | _ => True

/-- The latch is as it was, and still agrees with the phase. -/
structure ApQuiet (t t' : PowerTask) : Prop where
  latch : t'.wifiApLatch = t.wifiApLatch
  settled : ApSettled t → ApSettled t'

instance apQuiet_refl : Std.Refl ApQuiet := ⟨fun _ => ⟨rfl, id⟩⟩

instance apQuiet_trans : IsTrans PowerTask ApQuiet where
  trans _ _ _ h h' := ⟨h'.latch.trans h.latch, h'.settled ∘ h.settled⟩

instance coreFrame_refl : Std.Refl CoreFrame := ⟨CoreFrame.refl⟩

instance coreFrame_trans : IsTrans PowerTask CoreFrame := ⟨fun _ _ _ => CoreFrame.trans⟩

theorem PowerCall.IsQuiet.apAside (hc : c.IsQuiet) (hph : ph = .down ∨ ph = .serving) :
    c.ApAside ph := by
  constructor
  · rcases hph with rfl | rfl <;> cases c <;> simp_all [IsQuiet, ApPhase.next]
  · intro _ pm hpm
    cases c with
    | setPowerManagement pm' =>
        obtain rfl : pm' = pm := Option.some.inj hpm
        exact hc
    | _ => cases hpm

/-- Only such calls were made. -/
theorem apQuiet_of_log (hlatch : t'.wifiApLatch = t.wifiApLatch) (hlog : t'.log = t.log ++ cs)
    (hcs : ∀ c ∈ cs, c.IsQuiet) : ApQuiet t t' := by
  have hat : ∀ ph, (ph = .down ∨ ph = .serving) → ApAt ph t → ApAt ph t' := by
    intro ph hph h
    have hl : ApAt ph { t.logged cs with radioOk := t.radioOk } :=
      h.logged fun c hc => (hcs c hc).apAside hph
    exact hl.of_eq hlatch hlog
  exact ⟨hlatch, Or.imp (hat _ (.inl rfl)) (hat _ (.inr rfl))⟩

theorem ApSettled.called (h : ApSettled t) (hc : c.IsQuiet) : ApSettled (t.called c) := by
  have hcs : ∀ c' ∈ [c], c'.IsQuiet := by simpa using hc
  have hq : ApQuiet t (t.called c) := apQuiet_of_log rfl rfl hcs
  exact hq.settled h

theorem CoreFrame.apQuiet (h : CoreFrame t t') : ApQuiet t t' := by
  obtain ⟨cs, hlog, hcs⟩ := h.log
  refine apQuiet_of_log h.wifiApLatch hlog fun c hc => ?_
  have hcore := hcs c hc
  cases c <;> trivial

theorem within_apCall (c : PowerCall) (hc : c.IsQuiet) : (powerCall c).Within ApQuiet :=
  within_modify fun _ => apQuiet_of_log rfl rfl (by simpa using hc)

theorem within_apOther {f : PowerTask → PowerTask} (hlatch : ∀ t, (f t).wifiApLatch = t.wifiApLatch)
    (hlog : ∀ t, (f t).log = t.log) : (modify f).Within ApQuiet :=
  within_modify fun t => apQuiet_of_log (hlatch t) ((hlog t).trans (List.append_nil _).symm) (by simp)

/-- The core half makes its own calls only. -/
theorem ppApplyCore_within (ids : PowerIds) (policy : PowerPolicy) :
    (ppApplyCore ids policy).Within CoreFrame := by
  have hcall : ∀ c : PowerCall, c.IsCore → (powerCall c).Within CoreFrame :=
    fun c hc => within_modify fun t => CoreFrame.called t hc
  have hother : ∀ {f : PowerTask → PowerTask}, (∀ t, (f t).radioOk = t.radioOk) →
      (∀ t, (f t).wifiStarted = t.wifiStarted) → (∀ t, (f t).wifiStaRoleUp = t.wifiStaRoleUp) →
      (∀ t, (f t).wifiApLatch = t.wifiApLatch) → (∀ t, (f t).log = t.log) →
      (modify f).Within CoreFrame :=
    fun hok hst hsta hap hlog => within_modify fun t =>
      ⟨hok t, hst t, hsta t, hap t, [], by simp [hlog t], by simp⟩
  have hconstraint : ∀ test c g, PowerCall.IsCore c → (ppConstraint test c g).Within CoreFrame := by
    intro test c g hc
    have hin : ∀ b, (modify fun t : PowerTask => { t with inHelper := b }).Within CoreFrame :=
      fun b => hother (fun _ => rfl) (fun _ => rfl) (fun _ => rfl) (fun _ => rfl) fun _ => rfl
    refine (hin true).bind fun _ => (within_get _).bind fun held => Within.bind ?_ fun _ => hin false
    refine within_onlyIf ((hcall c hc).bind fun _ => ?_)
    exact hother (fun _ => rfl) (fun _ => rfl) (fun _ => rfl) (fun _ => rfl) fun _ => rfl
  refine (within_get _).bind fun enabled => Within.bind ?_ fun _ => ?_
  · refine within_onlyIf ((hcall .enablePolicy trivial).bind fun _ => ?_)
    exact hother (fun _ => rfl) (fun _ => rfl) (fun _ => rfl) (fun _ => rfl) fun _ => rfl
  · cases policy with
    | unknown code => exact within_pure ()
    | _ => exact (hconstraint _ (.setConstraint _) _ trivial).bind fun _ => hconstraint _ _ _ trivial

theorem wifiLazyStart_quiet (a : StartAnswers) : (wifiLazyStart a).Within ApQuiet := by
  refine (within_get _).bind fun _ => within_ite (within_pure _) (within_ite (within_pure _) ?_)
  refine (within_apCall (.wlanStart _) trivial).bind fun _ => ?_
  refine (within_apCall .spiReinit trivial).bind fun _ => ?_
  refine within_ite (within_pure _) (Within.bind ?_ fun _ => within_pure _)
  exact within_apOther (fun _ => rfl) fun _ => rfl

theorem bleEnable_quiet (enabled : Bool × Bool) (a : StartAnswers) (hostStart : Int) :
    (bleEnable enabled a hostStart).Within ApQuiet := by
  refine within_ite (within_pure _) ((wifiLazyStart_quiet a).bind fun rv => ?_)
  refine within_ite (within_pure _) ?_
  refine (within_apCall .spiReinit trivial).bind fun _ => ?_
  refine (within_apCall (.setPowerManagement .alwaysActive) rfl).bind fun _ => ?_
  exact (within_apCall .spiReinit trivial).bind fun _ => within_ite (within_pure _) (within_pure _)

/-- A program of the task that stays in the phase. -/
theorem Prog.Within.apSettled (hp : p.Within ApQuiet) (h : ApSettled s.2) :
    (task p : Prog PowerState α).Holds (Half Requested) (fun s => ApKept s.2)
      (fun _ s' => ApSettled s'.2 ∧ s'.2.wifiApLatch = s.2.wifiApLatch) s := by
  obtain ⟨r, t⟩ := s
  refine Holds.task (I := ApKept)
    ((hp t).mono (fun t' hq => (hq.settled h).kept) fun _ _ hq => hq) ?_
  exact fun a t' r' hq _ => ⟨hq.settled h, hq.latch⟩

theorem ApSettled.requested (h : ApSettled s.2) (hs : Half Requested s s') : ApSettled s'.2 := hs.2 ▸ h

theorem apSettled_pure {a : α} (h : ApSettled s.2) :
    (pure a : Prog PowerState α).Holds (Half Requested) (fun s => ApKept s.2)
      (fun _ s' => ApSettled s'.2) s := fun _ hs' => h.requested hs'

/-- The radio half, in a phase between two bodies. -/
theorem ppApplyRadioEffective_apSettled (h : ApSettled s.2) :
    (ppApplyRadioEffective w).Holds (Half Requested) (fun s => ApKept s.2)
      (fun _ s' => ApSettled s'.2 ∧ RadioApplied s.2 s') s := by
  rcases h with h | h
  · exact (ppApplyRadioEffective_apAt h (by decide)).mono (fun _ hk => hk)
      fun _ _ ⟨hat, happ⟩ => ⟨.inl hat, happ⟩
  · exact (ppApplyRadioEffective_apAt h (by decide)).mono (fun _ hk => hk)
      fun _ _ ⟨hat, happ⟩ => ⟨.inr hat, happ⟩

/-- Bringing the station role up. -/
theorem wifiEnsureStaRole_apSettled {a : StartAnswers} {roleUp : Int} (h : ApSettled s.2) :
    (wifiEnsureStaRole a roleUp w).Holds (Half Requested) (fun s => ApKept s.2)
      (fun _ s' => ApSettled s'.2) s := by
  refine Holds.bind (((within_get (G := ApQuiet) _).apSettled h).mono (fun _ h => h) ?_)
  rintro up s₁ ⟨h₁, -⟩
  refine Holds.ite (fun _ => apSettled_pure h₁) fun _ => ?_
  refine Holds.bind (((wifiLazyStart_quiet a).apSettled h₁).mono (fun _ h => h) ?_)
  rintro rv s₂ ⟨h₂, -⟩
  refine Holds.ite (fun _ => apSettled_pure h₂) fun _ => ?_
  refine Holds.bind (((within_apCall .setStaWifiBand trivial).apSettled h₂).mono
    (fun _ h => h) ?_)
  rintro ⟨⟩ s₃ ⟨h₃, -⟩
  refine Holds.bind (((within_apCall (.roleUpSta roleUp) trivial).apSettled h₃).mono
    (fun _ h => h) ?_)
  rintro ⟨⟩ s₄ ⟨h₄, -⟩
  refine Holds.ite (fun _ => apSettled_pure h₄) fun _ => ?_
  have hrole : (modify fun t : PowerTask => { t with wifiStaRoleUp := true }).Within ApQuiet :=
    within_apOther (fun _ => rfl) fun _ => rfl
  refine Holds.bind ((hrole.apSettled h₄).mono (fun _ h => h) ?_)
  rintro ⟨⟩ s₅ ⟨h₅, -⟩
  refine Holds.bind ((ppApplyRadioEffective_apSettled h₅).mono (fun _ h => h) ?_)
  exact fun _ _ h => apSettled_pure h.1

/-! ## Start and stop -/

/-- The AP was brought up in this drain, or was up before. -/
structure ApRaised (t : PowerTask) : Prop where
  phase : (apPhase t.log).Up
  serving : t.wifiApLatch.up = true → apPhase t.log = .serving
  awake : t.radio.powerManagement = some .alwaysActive

theorem ApRaised.kept (h : ApRaised t) : ApKept t where
  awake _ := h.awake
  reported hrole := .inl (h.serving (PowerTask.radioRole_eq_wifiAp.mp hrole))

theorem ApSettled.pending (h : ApSettled t) : t.wifiApLatch.pending = false := h.elim (·.pending) (·.pending)

/-- Bringing the AP up, once the radio is to stay awake. -/
theorem ApSettled.raised (h : ApSettled t) (hpm : t.radio.powerManagement = some .alwaysActive) :
    ApRaised (t.called (.roleUpAp 0)) where
  phase := by
    show (apPhase (t.log ++ [.roleUpAp 0])).Up
    rw [apPhase_snoc, ApPhase.up_next]
    rfl
  serving hup := by
    show apPhase (t.log ++ [.roleUpAp 0]) = .serving
    rw [apPhase_snoc]
    rcases h with h | h
    · exact absurd (h.up.mp hup) (by decide)
    · rw [h.phase]
      rfl
  awake := by
    show Trace.latest PowerCall.powerManagement? (t.log ++ [.roleUpAp 0]) = _
    rw [Trace.latest_snoc]
    exact hpm

/-- `cc3501e_hw_wifi_ap_start`: if it succeeds, the AP is up and to be published; it never publishes. -/
theorem wifiApStart_spec {ssidOk : Bool} {a : StartAnswers} {roleUp : Int} (h : ApSettled t) :
    (wifiApStart ssidOk a roleUp).Thru (fun t' => ApKept t' ∧ t'.wifiApLatch.up = t.wifiApLatch.up)
      (fun rv t' => (rv ≠ hwOk ∧ ApSettled t' ∨
          rv = hwOk ∧ ApRaised t' ∧ t'.wifiApLatch.pending = true) ∧
        t'.wifiApLatch.up = t.wifiApLatch.up) t := by
  refine Holds.ite (fun _ => thru_pure.mpr ⟨.inl ⟨by decide, h⟩, rfl⟩) fun _ => ?_
  refine thru_bind.mpr ((wifiLazyStart_quiet a t).mono
    (fun t' hq => ⟨(hq.settled h).kept, congrArg ApRoleLatch.up hq.latch⟩) ?_)
  rintro rv t₁ hq
  have h₁ := hq.settled h
  have hup : t₁.wifiApLatch.up = t.wifiApLatch.up := congrArg ApRoleLatch.up hq.latch
  refine Holds.ite (fun hrv => thru_pure.mpr ⟨.inl ⟨hrv, h₁⟩, hup⟩) fun _ => ?_
  have h₂ : ApSettled (t₁.called (.setPowerManagement .alwaysActive)) := h₁.called rfl
  have hpm : (t₁.called (.setPowerManagement .alwaysActive)).radio.powerManagement =
      some .alwaysActive := Trace.latest_snoc ..
  simp only [thru_bind, thru_powerCall]
  by_cases hrole : roleUp = 0
  · subst hrole
    have h₃ := h₂.raised hpm
    refine ⟨⟨h₂.kept, hup⟩, ⟨h₃.kept, hup⟩, ?_⟩
    rw [if_neg (by decide)]
    simp only [thru_bind, thru_modify, thru_pure]
    have h₄ : ApRaised { (t₁.called (.setPowerManagement .alwaysActive)).called (.roleUpAp 0) with
        wifiApLatch := { t₁.wifiApLatch with pending := true } } := ⟨h₃.phase, h₃.serving, h₃.awake⟩
    exact ⟨⟨h₄.kept, hup⟩, .inr ⟨trivial, h₄, rfl⟩, hup⟩
  · have h₃ : ApSettled ((t₁.called (.setPowerManagement .alwaysActive)).called (.roleUpAp roleUp)) :=
      h₂.called hrole
    refine ⟨⟨h₂.kept, hup⟩, ⟨h₃.kept, hup⟩, ?_⟩
    rw [if_pos hrole]
    exact thru_pure.mpr ⟨.inl ⟨by decide, h₃⟩, hup⟩

/-- The re-init of the slave, and the role is published. -/
theorem ApRaised.publish (h : ApRaised t) (hpend : t.wifiApLatch.pending = true) :
    ApRaised (t.called .spiReinit) ∧
      ApAt .serving { t.called .spiReinit with wifiApLatch := t.wifiApLatch.publish } := by
  have hphase : apPhase (t.log ++ [.spiReinit]) = .serving := by
    rw [apPhase_snoc]
    rcases h.phase with hph | hph <;> rw [hph] <;> rfl
  have hpm : Trace.latest PowerCall.powerManagement? (t.log ++ [.spiReinit]) = some .alwaysActive := by
    rw [Trace.latest_snoc]
    exact h.awake
  refine ⟨⟨.inr hphase, fun _ => hphase, hpm⟩, hphase, ?_, ?_, fun _ => hpm⟩
  · simp [ApRoleLatch.publish, hpend]
  · simp [ApRoleLatch.publish, hpend]

/-- Nothing is to be published after a start that failed. -/
theorem ApSettled.publish (h : ApSettled t) : t.wifiApLatch.publish = t.wifiApLatch := by
  simp [ApRoleLatch.publish, h.pending]

/-- The drain of `WIFI_AP_START`. -/
theorem apStartDrain_apSettled {ssidOk : Bool} {a : StartAnswers} {roleUp : Int} (h : ApSettled t) :
    (apStartDrain ssidOk a roleUp).Thru ApKept (fun _ => ApSettled) t := by
  refine thru_bind.mpr ((wifiApStart_spec h).mono (fun _ h => h.1) ?_)
  rintro rv t₁ ⟨⟨-, h₁⟩ | ⟨-, h₁, hpend⟩, -⟩
  · have h₂ : ApSettled (t₁.called .spiReinit) := h₁.called trivial
    have h₃ : ApSettled { t₁.called .spiReinit with wifiApLatch := t₁.wifiApLatch.publish } := by
      rw [h₁.publish]
      exact h₂
    simp only [thru_bind, thru_powerCall, thru_modify, thru_pure]
    exact ⟨h₂.kept, h₃.kept, h₃⟩
  · obtain ⟨h₂, h₃⟩ := h₁.publish hpend
    simp only [thru_bind, thru_powerCall, thru_modify, thru_pure]
    exact ⟨h₂.kept, h₃.kept, .inr h₃⟩

/-- What the reported role depends on. -/
theorem PowerTask.radioRole_congr (hup : t'.wifiApLatch.up = t.wifiApLatch.up)
    (hsta : t'.wifiStaRoleUp = t.wifiStaRoleUp) : t'.radioRole = t.radioRole := by
  simp only [radioRole, hup, hsta]

/-- A start that fails leaves the reported role as it was. -/
theorem apStartDrain_failed {ssidOk : Bool} {a : StartAnswers} {roleUp : Int} (h : ApSettled t)
    (hrc : ((apStartDrain ssidOk a roleUp).run t).1 ≠ hwOk) :
    (apStartDrain ssidOk a roleUp).Thru (fun t' => t'.radioRole = t.radioRole)
      (fun _ t' => t'.radioRole = t.radioRole) t := by
  have hup : (apStartDrain ssidOk a roleUp).Thru (fun t' => t'.wifiApLatch.up = t.wifiApLatch.up)
      (fun _ t' => t'.wifiApLatch.up = t.wifiApLatch.up) t := by
    refine thru_bind.mpr ((thru_run (wifiApStart_spec h)).mono (fun _ h => h.2) ?_)
    rintro rv t₁ ⟨hrun, ⟨-, h₁⟩ | ⟨hok, -⟩, hup⟩
    · have hpub : (t₁.called .spiReinit).wifiApLatch.publish.up = t.wifiApLatch.up :=
        (congrArg ApRoleLatch.up h₁.publish).trans hup
      simp only [thru_bind, thru_powerCall, thru_modify, thru_pure]
      exact ⟨hup, hpub, hpub⟩
    · refine absurd ?_ hrc
      rw [apStartDrain, run_bind, hrun, hok]
      rfl
  refine (hup.and (apStartDrain_aside ssidOk a roleUp t)).mono (fun t' h => ?_) fun _ t' h => ?_
  · exact PowerTask.radioRole_congr h.1 h.2.wifiStaRoleUp
  · exact PowerTask.radioRole_congr h.1 h.2.wifiStaRoleUp

/-- Taking the AP down: until the latch is cleared it is reported, and stopping. -/
theorem ApSettled.lowered (h : ApSettled t) : ApKept (t.called (.roleDownAp 0)) ∧
    ∃ ph, (ph = .down ∨ ph = .stopping) ∧
      ApAt ph { t.called (.roleDownAp 0) with wifiApLatch := t.wifiApLatch.stopped } := by
  rcases h with h | h
  · have hphase : apPhase (t.log ++ [.roleDownAp 0]) = .down := by
      rw [apPhase_snoc, h.phase]
      rfl
    have hat : ApAt .down (t.called (.roleDownAp 0)) :=
      ⟨hphase, h.pending, h.up, by simp [ApPhase.Up]⟩
    exact ⟨hat.kept, .down, .inl rfl, hphase, rfl, by simp [ApRoleLatch.stopped], by simp [ApPhase.Up]⟩
  · have hphase : apPhase (t.log ++ [.roleDownAp 0]) = .stopping := by
      rw [apPhase_snoc, h.phase]
      rfl
    refine ⟨⟨fun hup => ?_, fun _ => .inr hphase⟩, .stopping, .inr rfl, hphase, rfl,
      by simp [ApRoleLatch.stopped], by simp [ApPhase.Up]⟩
    rw [show apPhase (t.called (.roleDownAp 0)).log = .stopping from hphase] at hup
    simp [ApPhase.Up] at hup

/-- `cc3501e_hw_wifi_ap_stop`. -/
theorem wifiApStop_spec {roleDown : Int} (h : ApSettled s.2) :
    (wifiApStop roleDown w).Holds (Half Requested) (fun s => ApKept s.2)
      (fun _ s' => ApSettled s'.2 ∨ ApAt .stopping s'.2) s := by
  have hpure : ∀ {rv : Int} {s : PowerState}, ApSettled s.2 →
      (pure rv : Prog PowerState Int).Holds (Half Requested) (fun s => ApKept s.2)
        (fun _ s' => ApSettled s'.2 ∨ ApAt .stopping s'.2) s :=
    fun h s' hs' => .inl (h.requested hs')
  refine Holds.bind (((within_get (G := ApQuiet) _).apSettled h).mono (fun _ h => h) ?_)
  rintro started ⟨r₁, t₁⟩ ⟨h₁, -⟩
  refine Holds.ite (fun _ => hpure h₁) fun _ => ?_
  by_cases hdown : roleDown = 0
  · subst hdown
    obtain ⟨hkept, ph, hph, hat⟩ := h₁.lowered
    refine Holds.bind (Holds.task (I := ApKept) (P := fun _ t' => t' = t₁.called (.roleDownAp 0))
      (thru_powerCall.mpr ⟨hkept, rfl⟩) ?_)
    rintro ⟨⟩ _ r₂ rfl -
    refine Holds.ite (fun hne => absurd rfl hne) fun _ => ?_
    refine Holds.bind (Holds.task (I := ApKept) (P := fun _ t' => ApAt ph t')
      (thru_modify.mpr ⟨hat.kept, hat⟩) ?_)
    rintro ⟨⟩ t₃ r₃ h₃ -
    have hne : ph ≠ .starting := by rcases hph with rfl | rfl <;> decide
    refine Holds.bind ((ppApplyRadioEffective_apAt h₃ hne).mono (fun _ h => h) ?_)
    rintro ⟨⟩ s₄ ⟨h₄, -⟩ s₅ hs₅
    rw [← hs₅.2]
    rcases hph with rfl | rfl
    · exact .inl (.inl h₄)
    · exact .inr h₄
  · refine Holds.bind (((within_apCall (.roleDownAp roleDown) hdown).apSettled h₁).mono
      (fun _ h => h) ?_)
    rintro ⟨⟩ s₂ ⟨h₂, -⟩
    exact Holds.ite (fun _ => hpure h₂) fun hne => absurd hdown hne

/-- The drain of `WIFI_AP_STOP`. -/
theorem apStopDrain_apSettled {roleDown : Int} (h : ApSettled s.2) :
    (apStopDrain roleDown w).Holds (Half Requested) (fun s => ApKept s.2)
      (fun _ s' => ApSettled s'.2) s := by
  refine Holds.bind ((wifiApStop_spec h).mono (fun _ h => h) ?_)
  rintro rv ⟨r₁, t₁⟩ h₁
  have h₂ : ApSettled (t₁.called (.apStopReturned rv)) := by
    rcases h₁ with h₁ | h₁
    · exact h₁.called trivial
    · refine .inl ⟨?_, h₁.pending, ?_, by simp [ApPhase.Up]⟩
      · show apPhase (t₁.log ++ [.apStopReturned rv]) = .down
        rw [apPhase_snoc, h₁.phase]
        rfl
      · exact h₁.up.trans (by decide)
  refine Holds.bind (Holds.task (I := ApKept) (P := fun _ => ApSettled)
    (thru_powerCall.mpr ⟨h₂.kept, h₂⟩) ?_)
  rintro ⟨⟩ t₂ r₂ h₂ -
  refine Holds.bind (((within_apCall .spiReinit trivial).apSettled (s := (r₂, t₂)) h₂).mono
    (fun _ h => h) ?_)
  exact fun _ _ h => apSettled_pure h.1

/-- A stop that fails leaves the reported role as it was. -/
theorem apStopDrain_failed {roleDown : Int}
    (hrc : ((apStopDrain roleDown w).run s).1 ≠ hwOk) :
    (apStopDrain roleDown w).Holds (Half Requested) (fun s' => s'.2.radioRole = s.2.radioRole)
      (fun _ s' => s'.2.radioRole = s.2.radioRole) s := by
  have hdown : roleDown ≠ 0 := by
    rintro rfl
    refine hrc ?_
    cases hst : s.2.wifiStarted <;> simp [apStopDrain, wifiApStop, hst]
  -- the calls it makes change no variable
  have hstep : ∀ {γ : Type} {q : Prog PowerTask γ} {s' : PowerState},
      q.Within (fun t t' => t'.radioRole = t.radioRole) → s'.2.radioRole = s.2.radioRole →
      (task q : Prog PowerState γ).Holds (Half Requested) (fun s' => s'.2.radioRole = s.2.radioRole)
        (fun _ s' => s'.2.radioRole = s.2.radioRole) s' := by
    rintro γ q ⟨r', t'⟩ hq hrole
    have hthru : q.Thru (fun t' => t'.radioRole = s.2.radioRole)
        (fun _ t' => t'.radioRole = s.2.radioRole) t' :=
      (hq t').mono (fun _ h => h.trans hrole) fun _ _ h => h.trans hrole
    exact hthru.task fun _ _ _ h _ => h
  have hcall : ∀ c, (powerCall c).Within fun t t' => t'.radioRole = t.radioRole :=
    fun c t => thru_powerCall.mpr ⟨rfl, rfl⟩
  have hpure : ∀ {s' : PowerState} {rv : Int}, s'.2.radioRole = s.2.radioRole →
      (pure rv : Prog PowerState Int).Holds (Half Requested)
        (fun s' => s'.2.radioRole = s.2.radioRole) (fun _ s' => s'.2.radioRole = s.2.radioRole) s' :=
    fun h s'' hs => (congrArg PowerTask.radioRole hs.2).symm.trans h
  have hstop : (wifiApStop roleDown w).Holds (Half Requested)
      (fun s' => s'.2.radioRole = s.2.radioRole) (fun _ s' => s'.2.radioRole = s.2.radioRole) s := by
    refine Holds.bind ((hstep (fun t => thru_get.mpr ⟨rfl, rfl⟩) rfl).mono (fun _ h => h) ?_)
    intro started s₁ h₁
    refine Holds.ite (fun _ => hpure h₁) fun _ => ?_
    refine Holds.bind ((hstep (hcall _) h₁).mono (fun _ h => h) ?_)
    intro _ s₂ h₂
    exact Holds.ite (fun _ => hpure h₂) fun hne => absurd hdown hne
  refine Holds.bind (hstop.mono (fun _ h => h) fun rv s₁ h₁ => ?_)
  refine Holds.bind ((hstep (hcall _) h₁).mono (fun _ h => h) fun _ s₂ h₂ => ?_)
  exact Holds.bind ((hstep (hcall _) h₂).mono (fun _ h => h) fun _ _ h₃ => hpure h₃)

/-! ## The service pass -/

/-- A pass that applied a preset that lets the device sleep, while an AP was reported, has told so. -/
def PassOverridden (t t' : PowerTask) : Prop :=
  ∃ cs, t'.log = t.log ++ cs ∧ ∀ policy idleMs, .applyRadio policy idleMs ∈ cs → policy.Sleepy →
    t.apReported = true → t'.radioOk = false

/-- Calls of the core half apply no preset to the radio. -/
theorem not_mem_of_isCore (hcs : ∀ c ∈ cs, c.IsCore) (policy : PowerPolicy) (idleMs : UInt32) :
    .applyRadio policy idleMs ∉ cs := fun hm => hcs _ hm

theorem CoreFrame.passOverridden (h : CoreFrame t t') : PassOverridden t t' := by
  obtain ⟨cs, hlog, hcs⟩ := h.log
  exact ⟨cs, hlog, fun policy idleMs hm => absurd hm (not_mem_of_isCore hcs policy idleMs)⟩

/-- What the radio half adds to the core half. -/
theorem RadioApplied.passOverridden {t₁ : PowerTask} (h : RadioApplied t₁ s) (hf : CoreFrame t t₁) :
    PassOverridden t s.2 := by
  obtain ⟨cs, hlog, hcs⟩ := hf.log
  have hap : t₁.apReported = t.apReported := by
    rw [PowerTask.apReported, PowerTask.apReported,
      PowerTask.radioRole_congr (congrArg ApRoleLatch.up hf.wifiApLatch) hf.wifiStaRoleUp]
  cases h with
  | skipped hsta heq =>
      rw [heq]
      exact ⟨cs, hlog, fun policy idleMs hm => absurd hm (not_mem_of_isCore hcs policy idleMs)⟩
  | applied eff idleMs ok hsta heq hlatched hok =>
      rw [heq]
      refine ⟨cs ++ radioCalls t₁.apReported eff idleMs, ?_, fun policy idleMs' hm hsleepy hrep => ?_⟩
      · show t₁.log ++ _ = _
        rw [hlog, List.append_assoc]
      · rcases List.mem_append.mp hm with hm | hm
        · exact absurd hm (not_mem_of_isCore hcs policy idleMs')
        · obtain rfl : policy = eff := by
            cases eff <;> simp [radioCalls, radioPreset, presetLsi] at hm <;> exact hm.1
          exact hok (hap.trans hrep) hsleepy

/-- `cc3501e_hw_power_service`. -/
theorem hwPowerService_apSettled (h : ApSettled s.2) :
    (hwPowerService ids w).Holds (Half Requested) (fun s => ApKept s.2)
      (fun _ s' => ApSettled s'.2 ∧ PassOverridden s.2 s'.2) s := by
  refine Holds.atomically_bind ?_
  rintro ⟨r₁, t⟩ ⟨-, hst⟩
  obtain rfl : s.2 = t := hst
  have hcore : (onlyIf r₁.coreDirty (do
      let policy ← Prog.get (·.1.policyLatched)
      task (ppApplyCore ids policy) : Prog PowerState Unit)).Holds (Half Requested)
        (fun s => ApKept s.2) (fun _ s' => ApSettled s'.2 ∧ CoreFrame s.2 s'.2)
        ({ r₁ with radioDirty := false, coreDirty := false }, s.2) := by
    cases hdirty : r₁.coreDirty with
    | false => exact fun s' hs' => ⟨hs'.2 ▸ h, hs'.2 ▸ CoreFrame.refl s.2⟩
    | true =>
        refine Holds.get_bind ?_
        rintro ⟨r₂, _⟩ ⟨-, rfl⟩
        refine ⟨h.kept, ((ppApplyCore_within ids r₂.policyLatched s.2).mono
          (fun _ hf => (hf.apQuiet.settled h).kept) fun _ _ hf => hf).task ?_⟩
        exact fun _ t' r' hf _ => ⟨hf.apQuiet.settled h, hf⟩
  refine ⟨h.kept, Holds.bind (hcore.mono (fun _ h => h) ?_)⟩
  rintro ⟨⟩ s₂ ⟨h₂, hf⟩
  show (onlyIf r₁.radioDirty (ppApplyRadioEffective w)).Holds _ _ _ _
  cases hdirty : r₁.radioDirty with
  | false => exact fun s' hs' => ⟨h₂.requested hs', hs'.2 ▸ hf.passOverridden⟩
  | true =>
      exact (ppApplyRadioEffective_apSettled h₂).mono (fun _ h => h)
        fun _ _ ⟨h', happ⟩ => ⟨h', happ.passOverridden hf⟩

/-! ## Every body -/

theorem powerOp_apSettled (k : PowerOp) (h : ApSettled s.2) :
    ((powerTasks ids).body k).Holds (Half Requested) (fun s => ApKept s.2)
      (fun _ s' => ApSettled s'.2) s := by
  refine Holds.bind (Holds.mono (Q := fun _ s' => ApSettled s'.2) ?_ (fun _ h => h)
    fun _ _ h => apSettled_pure h)
  cases k with
  | powerService w =>
      exact Holds.bind ((hwPowerService_apSettled h).mono (fun _ h => h)
        fun _ _ h => apSettled_pure h.1)
  | staRoleUp a roleUp w => exact wifiEnsureStaRole_apSettled h
  | apStart ssidOk a roleUp => exact (apStartDrain_apSettled h).task fun _ _ _ h _ => h
  | apStop roleDown w => exact apStopDrain_apSettled h
  | bleEnable enabled a hostStart =>
      exact ((bleEnable_quiet enabled a hostStart).apSettled h).mono (fun _ h => h) fun _ _ h => h.1

/-- `WIFI_AP_START` or `WIFI_AP_STOP`. -/
def PowerOp.IsAp : PowerOp → Prop
  | .apStart _ _ _ | .apStop _ _ => True
  | _ => False

/-- A start or a stop that fails leaves the reported role as it was. -/
theorem powerOp_failed (k : PowerOp) (hk : k.IsAp) (h : ApSettled s.2)
    (hrc : ((k.body ids).run s).1 ≠ hwOk) :
    ((powerTasks ids).body k).Holds (Half Requested) (fun s' => s'.2.radioRole = s.2.radioRole)
      (fun _ s' => s'.2.radioRole = s.2.radioRole) s := by
  refine Holds.bind (Holds.mono (Q := fun _ s' => s'.2.radioRole = s.2.radioRole) ?_ (fun _ h => h) ?_)
  · cases k with
    | apStart ssidOk a roleUp =>
        have hrc' : ((apStartDrain ssidOk a roleUp).run s.2).1 ≠ hwOk := by
          simpa [PowerOp.body] using hrc
        exact (apStartDrain_failed h hrc').task fun _ _ _ h _ => h
    | apStop roleDown w => exact apStopDrain_failed hrc
    | _ => exact hk.elim
  · exact fun _ s' h s'' hs => (congrArg PowerTask.radioRole hs.2).symm.trans h

theorem apSettled_boot : ApSettled PowerState.boot.2 :=
  .inl ⟨rfl, rfl, by simp [PowerState.boot], by simp [ApPhase.Up]⟩

/-- At every moment of every run: while the AP is up, the last sleep authorisation sent is
`ALWAYS_ACTIVE`, and the AP is reported only from the re-init after a role-up to the return of the stop
that takes it down.  From every moment between two bodies, whatever interrupts what follows: a start or
a stop that fails leaves the reported role as it was at each moment, and a service pass that applied
`BALANCED`, `LOW_POWER` or `DEEP_SLEEP` with the AP up leaves `cc3501e_hw_power_radio_ok` false. -/
theorem softAp_awake {tr : List (TaskAct PowerIrq PowerOp)} {p : Prog PowerState Unit}
    (hr : (powerTasks ids).machine.Run (.boot, .done ()) tr (s, p)) :
    (ApUp s.2.log → s.2.radio.powerManagement = some .alwaysActive) ∧
      (s.2.radioRole = .wifiAp → (apPhase s.2.log).Reportable) ∧
      ∀ u, p = .done u →
        (∀ k : PowerOp, k.IsAp → ((k.body ids).run s).1 ≠ hwOk → ∀ tr' s' p',
          (powerTasks ids).machine.RunIf (Tasks.During fun _ => True)
            (s, (powerTasks ids).body k) tr' (s', p') → s'.2.radioRole = s.2.radioRole) ∧
        ∀ w tr' s' cs policy idleMs,
          (powerTasks ids).machine.RunIf (Tasks.During fun _ => True)
            (s, (powerTasks ids).body (.powerService w)) tr' (s', .done ()) →
          s'.2.log = s.2.log ++ cs → .applyRadio policy idleMs ∈ cs → policy.Sleepy →
          ApUp s.2.log → s'.2.radioOk = false := by
  have hR : ∀ i s, True → Half Requested s ((powerTasks ids).interrupt i s) :=
    fun i s _ => i.requested s
  have hkept : ∀ s s' : PowerState, Half Requested s s' → ApKept s.2 → ApKept s'.2 :=
    fun s s' h hk => h.2 ▸ hk
  obtain ⟨hk, hp⟩ := Tasks.invariant (I := fun s => ApKept s.2) (J := fun s => ApSettled s.2)
    (powerRun_within hr) hR hkept (fun _ _ h hs => hs.requested h)
    (fun k _ _ _ h => powerOp_apSettled k h) apSettled_boot.kept apSettled_boot
  refine ⟨fun hup => hk.awake (apPhase_up_iff.mpr hup), hk.reported, ?_⟩
  rintro u rfl
  have hs : ApSettled s.2 := hp s (Std.Refl.refl s)
  refine ⟨fun k hap hrc tr' s' p' hrun => ?_, ?_⟩
  · have hrole : ∀ s₁ s₂ : PowerState, Half Requested s₁ s₂ → s₁.2.radioRole = s.2.radioRole →
        s₂.2.radioRole = s.2.radioRole :=
      fun _ _ h heq => (congrArg PowerTask.radioRole h.2).symm.trans heq
    exact (Tasks.holds_run hrun hR hrole rfl (powerOp_failed k hap hs hrc)).1
  · intro w tr' s' cs policy idleMs hrun hlog hm hsleepy hup
    have hpass : ((powerTasks ids).body (.powerService w)).Holds (Half Requested)
        (fun s => ApKept s.2) (fun _ s' => PassOverridden s.2 s'.2) s := by
      refine Holds.bind (Holds.bind ((hwPowerService_apSettled hs).mono (fun _ h => h) ?_))
      rintro ⟨⟩ s₁ ⟨-, h₁⟩ s₂ hs₂ s₃ hs₃
      exact hs₃.2 ▸ hs₂.2 ▸ h₁
    obtain ⟨-, hdone⟩ := Tasks.holds_run hrun hR hkept hs.kept hpass
    obtain ⟨cs', hlog', hover⟩ := hdone s' (Std.Refl.refl s')
    obtain rfl : cs = cs' := List.append_cancel_left (hlog.symm.trans hlog')
    -- the AP is up, so it is serving, and reported
    have hrep : s.2.apReported = true := by
      rcases hs with h | h
      · have hdown := apPhase_up_iff.mpr hup
        rw [h.phase] at hdown
        simp [ApPhase.Up] at hdown
      · exact decide_eq_true (PowerTask.radioRole_eq_wifiAp.mpr (h.up.mpr rfl))
    exact hover policy idleMs hm hsleepy hrep

open TaskAct in
/-- A station comes up, then an AP, and `BALANCED` is asked for before the AP is up. -/
def balancedBesideStation : List (TaskAct PowerIrq PowerOp) :=
  call (.staRoleUp {} 0 {}) :: List.replicate 16 step ++
    (call (.apStart true {} 0) :: List.replicate 3 step) ++
    interrupt (.powerPolicy .balanced 0 300) :: List.replicate 3 step

/-- `BALANCED` is asked for while an AP comes up beside a station: the pass tells that it is not
followed. -/
theorem softAp_awake_balanced : ∃ s s' : PowerState,
    s.2.radioRole = .wifiAp ∧ s.2.radio.powerManagement = some .alwaysActive ∧
      s'.2.radioOk = false := by
  let ids : PowerIds := ⟨0, 1, by decide, by decide, by decide⟩
  let s : PowerState :=
    ({ idleMsLatched := 300, hostSetPolicy := true, radioDirty := true, coreDirty := true },
      { wifiStarted := true, wifiStaRoleUp := true, wifiApLatch := { up := true },
        log := [.wlanStart 0, .spiReinit, .setStaWifiBand, .roleUpSta 0, .applyRadio .performance 0,
          .setPowerSave .active, .setPowerManagement .alwaysActive,
          .setPowerManagement .alwaysActive, .roleUpAp 0, .spiReinit] })
  have hr : (powerTasks ids).machine.Run (.boot, .done ()) balancedBesideStation (s, .done ()) :=
    Tasks.runIf_of_acts (by decide +kernel)
  obtain ⟨n, hpass⟩ := Tasks.exists_steps (powerTasks ids) (fun _ => True)
    ((powerTasks ids).body (.powerService {})) s
  obtain ⟨hawake, -, hidle⟩ := softAp_awake hr
  have hup : ApUp s.2.log := rfl
  have hlog : (((powerTasks ids).body (.powerService {})).run s).2.2.log = s.2.log ++
      [.enablePolicy, .setConstraint 0, .applyRadio .balanced 300, .setPowerSave .autoPs,
        .setPowerManagement .alwaysActive] := by decide +kernel
  exact ⟨s, _, rfl, hawake hup,
    (hidle () rfl).2 {} _ _ _ .balanced 300 hpass hlog (by simp) (.inl rfl) hup⟩

end

end Cc3501eBridge
