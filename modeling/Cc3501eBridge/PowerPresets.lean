import Cc3501eBridge.PowerRequests

/-!
# What a preset leaves of the one before

A history is a list of requests and of whole service passes.  A pass after a request applies the
preset that was asked for last; `PowerHistory` is that account, on the history alone.

Every preset sets the power-save mode, the sleep authorisation and both constraints, so that these
depend on the preset only.  The long sleep interval is set by `LOW_POWER` and `DEEP_SLEEP` alone:
`PERFORMANCE` and `BALANCED` keep whatever the last of those two left, also the interval of
`DEEP_SLEEP`.
-/

namespace Cc3501eBridge

open Prog

/-! ## The radio -/

/-- The last value given to `Wlan_Set` for each of the settings. -/
structure RadioSettings where
  powerSave : Option StationPowerSave
  powerManagement : Option PowerManagement
  lsi : Option LongSleepInterval
  deriving DecidableEq, Repr

namespace PowerCall

/-- A value of `WLAN_SET_POWER_SAVE`. -/
def powerSave? : PowerCall → Option StationPowerSave
  | .setPowerSave ps => some ps
  | _ => none

/-- A value of `WLAN_SET_POWER_MANAGEMENT`. -/
def powerManagement? : PowerCall → Option PowerManagement
  | .setPowerManagement pm => some pm
  | _ => none

/-- A value of `WLAN_SET_LSI`. -/
def lsi? : PowerCall → Option LongSleepInterval
  | .setLsi lsi => some lsi
  | _ => none

end PowerCall

/-- The settings of the radio. -/
def PowerTask.radio (t : PowerTask) : RadioSettings where
  powerSave := Trace.latest PowerCall.powerSave? t.log
  powerManagement := Trace.latest PowerCall.powerManagement? t.log
  lsi := Trace.latest PowerCall.lsi? t.log

/-! ## Histories -/

/-- A request, or a service pass with the AP up or not. -/
inductive PowerEvent where
  | request (policy : PowerPolicy) (wakeEvents : UInt8) (idleMs : UInt32)
  | pass (apUp : Bool) (w : WlanAnswers)

/-- What an event does. -/
def PowerEvent.run (ids : PowerIds) (s : PowerState) : PowerEvent → PowerState
  | .request policy wakeEvents idleMs => ((hwSetPowerPolicy policy wakeEvents idleMs s.1).1, s.2)
  | .pass apUp w => ((hwPowerService ids w).run (s.1, { s.2 with wifiApLatch := { up := apUp } })).2

/-- The station role is up, and no policy was asked for. -/
def PowerState.staUp (ids : PowerIds) : PowerState :=
  (((powerTasks ids).body (.staRoleUp {} 0 {})).run .boot).2

/-- After a history. -/
def afterPower (ids : PowerIds) (h : List PowerEvent) : PowerState :=
  h.foldl (PowerEvent.run ids) (.staUp ids)

/-- The presets that were applied, in order, and the one that is still to be. -/
structure PowerHistory where
  applied : List (PowerPolicy × UInt32) := []
  pending : Option (PowerPolicy × UInt32) := none

/-- A request that is accepted replaces the pending one, and a pass applies it. -/
def PowerHistory.note (h : PowerHistory) : PowerEvent → PowerHistory
  | .request policy wakeEvents idleMs =>
      { h with pending := (PowerIrq.accepted? (.powerPolicy policy wakeEvents idleMs)).or h.pending }
  | .pass _ _ => { applied := h.applied ++ h.pending.toList, pending := none }

/-- The account of a history. -/
def powerHistory (h : List PowerEvent) : PowerHistory := h.foldl PowerHistory.note {}

/-- The long sleep interval of the last preset that set one. -/
def lastLsi (h : List PowerEvent) : Option LongSleepInterval :=
  Trace.latest (fun x => presetLsi x.1 x.2) (powerHistory h).applied

/-- Each request names one of the presets. -/
def PresetsOnly (h : List PowerEvent) : Prop :=
  ∀ policy wakeEvents idleMs, .request policy wakeEvents idleMs ∈ h → policy.IsPreset

/-! ## A pass -/

section

variable {ids : PowerIds} {r : PowerRequest} {t : PowerTask} {s : PowerState} {w : WlanAnswers}
  {policy : PowerPolicy} {idleMs : UInt32} {h : List PowerEvent} {H : PowerHistory} {apUp : Bool}

/-- What a pass that applies a preset leaves. -/
structure PassApplied (ids : PowerIds) (r : PowerRequest) (t : PowerTask) (s' : PowerState) : Prop where
  request : s'.1 = { r with radioDirty := false, coreDirty := false }
  settled : CoreSettled ids s'.2
  held : s'.2.constraintsHeld = coreConstraints ids r.policyLatched
  wifiStaRoleUp : s'.2.wifiStaRoleUp = true
  log : ∃ cs, (∀ c ∈ cs, c.IsCore) ∧
    s'.2.log = t.log ++ cs ++ radioCalls t.apReported r.policyLatched r.idleMsLatched

/-- A pass after a request, without interruption. -/
theorem run_hwPowerService (hs : CoreSettled ids t) (hsta : t.wifiStaRoleUp = true)
    (hcore : r.coreDirty = true) (hrad : r.radioDirty = true) (hset : r.hostSetPolicy = true)
    (hp : r.policyLatched.IsPreset) :
    PassApplied ids r t ((hwPowerService ids w).run (r, t)).2 := by
  obtain ⟨hf, hs', hheld⟩ := (ppApplyCore_spec hs r.policyLatched).run_post
  obtain ⟨cs, hlog, hcs⟩ := hf.log
  generalize ht' : ((ppApplyCore ids r.policyLatched).run t).2 = t' at hf hs' hheld hlog
  generalize hr' : ({ r with radioDirty := false, coreDirty := false } : PowerRequest) = r'
  have hrun : ((hwPowerService ids w).run (r, t)).2 = ((ppApplyRadioEffective w).run (r', t')).2 := by
    simp [hwPowerService, PowerState.takeDirty, hcore, hrad, hr']
    subst hr'
    rw [ht']
  have hkeep : ((ppApplyRadioEffective w).run (r', t')).2.1 = r' :=
    (ppApplyRadioEffective_keeps (w := w) (π := id)).run (s := (r', t'))
  have hserved := (ppApplyRadioEffective_served (w := w) hs' (r := r') fun _ _ _ => by
    subst hr'
    exact hheld hp).run_post
  obtain ⟨-, happ⟩ := (ppApplyRadioEffective_spec (I := fun _ => True) r' t' w
    fun _ _ _ _ _ => trivial).run_post
  rw [hrun]
  generalize ((ppApplyRadioEffective w).run (r', t')).2 = s' at hkeep hserved happ
  cases happ with
  | skipped hsta' heq => exact absurd (hsta'.symm.trans (hf.wifiStaRoleUp.trans hsta)) (by decide)
  | applied eff idleMs ok hsta' heq hlatched hok =>
      subst hr'
      obtain ⟨heff, hidle⟩ := hlatched (congrArg PowerRequest.radioDirty hkeep)
      rw [hkeep] at heff hidle
      have heff' : eff = r.policyLatched := by
        rw [heff, PowerRequest.effective]
        exact if_pos hset
      have hrole : t'.radioRole = t.radioRole := by
        simp only [PowerTask.radioRole, hf.wifiApLatch, hf.wifiStaRoleUp]
      have hap : t'.apReported = t.apReported := by
        rw [PowerTask.apReported, PowerTask.apReported, hrole]
      refine ⟨hkeep, hserved.settled, ?_, ?_, cs, hcs, ?_⟩
      · rw [heq]
        exact hheld hp
      · rw [heq]
        exact hsta'
      · rw [heq, ← hlog, ← hap, ← heff', ← hidle]
        rfl

/-- What the calls of a preset give to `Wlan_Set`. -/
theorem latest_radioCalls (ap : Bool) (policy : PowerPolicy) (idleMs : UInt32) :
    Trace.latest PowerCall.powerSave? (radioCalls ap policy idleMs) =
        (radioPreset policy).map Prod.fst ∧
      Trace.latest PowerCall.powerManagement? (radioCalls ap policy idleMs) =
        (radioPreset policy).map (fun x => if ap then .alwaysActive else x.2) ∧
      Trace.latest PowerCall.lsi? (radioCalls ap policy idleMs) = presetLsi policy idleMs := by
  cases policy <;> exact ⟨rfl, rfl, rfl⟩

/-- The core half asks nothing of the radio. -/
theorem settings_of_isCore {c : PowerCall} (hc : c.IsCore) :
    c.powerSave? = none ∧ c.powerManagement? = none ∧ c.lsi? = none := by
  cases c <;> first | exact ⟨rfl, rfl, rfl⟩ | exact hc.elim

/-- A preset sets two of the settings, and the third if it sets one at all. -/
theorem PassApplied.radio {s' : PowerState} (hpass : PassApplied ids r t s')
    {ps : StationPowerSave} {pm : PowerManagement}
    (hpreset : radioPreset r.policyLatched = some (ps, pm)) :
    s'.2.radio = {
      powerSave := some ps
      powerManagement := some (if t.apReported then .alwaysActive else pm)
      lsi := (presetLsi r.policyLatched r.idleMsLatched).or t.radio.lsi } := by
  obtain ⟨cs, hcs, hlog⟩ := hpass.log
  obtain ⟨hps, hpm, hlsi⟩ := latest_radioCalls t.apReported r.policyLatched r.idleMsLatched
  have hnone : Trace.latest PowerCall.lsi? cs = none :=
    latest_eq_none fun c hc => (settings_of_isCore (hcs c hc)).2.2
  simp only [PowerTask.radio, hlog, latest_append, hps, hpm, hlsi, hpreset, hnone, Option.map_some,
    Option.some_or, Option.none_or]

/-! ## A history -/

/-- The state after a history agrees with its account. -/
structure PowerFollows (ids : PowerIds) (s : PowerState) (H : PowerHistory) : Prop where
  settled : CoreSettled ids s.2
  wifiStaRoleUp : s.2.wifiStaRoleUp = true
  idle : H.pending = none → s.1.coreDirty = false ∧ s.1.radioDirty = false
  pending : ∀ policy idleMs, H.pending = some (policy, idleMs) → s.1.coreDirty = true ∧
    s.1.radioDirty = true ∧ s.1.hostSetPolicy = true ∧ s.1.policyLatched = policy ∧
      s.1.idleMsLatched = idleMs ∧ policy.IsPreset
  lsi : s.2.radio.lsi = Trace.latest (fun x => presetLsi x.1 x.2) H.applied

theorem powerFollows_staUp (ids : PowerIds) : PowerFollows ids (.staUp ids) {} where
  settled := ((powerOp_served (.staRoleUp {} 0 {}) (powerServed_boot ids)).run_post).settled
  wifiStaRoleUp := rfl
  idle _ := ⟨rfl, rfl⟩
  pending := by simp
  lsi := rfl

/-- A request. -/
theorem PowerFollows.request {wakeEvents : UInt8} (hf : PowerFollows ids s H)
    (hp : policy.IsPreset) : PowerFollows ids (PowerEvent.run ids s (.request policy wakeEvents idleMs))
      (H.note (.request policy wakeEvents idleMs)) := by
  by_cases hrej : wakeEvents = wakeNone ∧ (policy = .lowPower ∨ policy = .deepSleep)
  · have hs : PowerEvent.run ids s (.request policy wakeEvents idleMs) = s := by
      simp [PowerEvent.run, hwSetPowerPolicy, hrej]
    have hH : H.note (.request policy wakeEvents idleMs) = H := by
      simp [PowerHistory.note, PowerIrq.accepted?, hwSetPowerPolicy, hrej, hwErrInval, hwOk]
    rw [hs, hH]
    exact hf
  · have hH : H.note (.request policy wakeEvents idleMs) =
        { H with pending := some (policy, idleMs) } := by
      simp [PowerHistory.note, PowerIrq.accepted?, hwSetPowerPolicy, hrej]
    have hs : PowerEvent.run ids s (.request policy wakeEvents idleMs) =
        ({ policyLatched := policy, hostSetPolicy := true, idleMsLatched := idleMs,
           coreDirty := true, radioDirty := true }, s.2) := by
      simp [PowerEvent.run, hwSetPowerPolicy, hrej]
    rw [hs, hH]
    refine ⟨hf.settled, hf.wifiStaRoleUp, by simp, fun policy' idleMs' h => ?_, hf.lsi⟩
    obtain ⟨rfl, rfl⟩ : policy = policy' ∧ idleMs = idleMs' := by simpa using h
    exact ⟨rfl, rfl, rfl, rfl, rfl, hp⟩

/-- A pass. -/
theorem PowerFollows.pass (hf : PowerFollows ids s H) (apUp : Bool) (w : WlanAnswers) :
    PowerFollows ids (PowerEvent.run ids s (.pass apUp w)) (H.note (.pass apUp w)) := by
  have hs : CoreSettled ids { s.2 with wifiApLatch := { up := apUp } } :=
    hf.settled.of_eq rfl rfl (List.append_nil _).symm (by simp)
  cases hpend : H.pending with
  | none =>
      obtain ⟨hcore, hrad⟩ := hf.idle hpend
      have hrun : PowerEvent.run ids s (.pass apUp w) =
          ({ s.1 with radioDirty := false, coreDirty := false },
            { s.2 with wifiApLatch := { up := apUp } }) := by
        simp [PowerEvent.run, hwPowerService, PowerState.takeDirty, hcore, hrad]
      rw [hrun]
      refine ⟨hs, hf.wifiStaRoleUp, fun _ => ⟨rfl, rfl⟩, by simp [PowerHistory.note], ?_⟩
      show s.2.radio.lsi = Trace.latest _ (H.applied ++ H.pending.toList)
      rw [hpend]
      simpa using hf.lsi
  | some x =>
      obtain ⟨policy, idleMs⟩ := x
      obtain ⟨hcore, hrad, hset, rfl, rfl, hp⟩ := hf.pending policy idleMs hpend
      have hpass : PassApplied ids s.1 { s.2 with wifiApLatch := { up := apUp } }
          (PowerEvent.run ids s (.pass apUp w)) :=
        run_hwPowerService hs hf.wifiStaRoleUp hcore hrad hset hp
      obtain ⟨ps, pm, hpreset⟩ : ∃ ps pm, radioPreset s.1.policyLatched = some (ps, pm) := by
        cases hpol : s.1.policyLatched with
        | unknown code =>
            rw [hpol] at hp
            exact hp.elim
        | _ => exact ⟨_, _, rfl⟩
      have hradio := congrArg RadioSettings.lsi (hpass.radio hpreset)
      refine ⟨hpass.settled, hpass.wifiStaRoleUp, fun _ => ?_, by simp [PowerHistory.note], ?_⟩
      · rw [hpass.request]
        exact ⟨rfl, rfl⟩
      · rw [hradio]
        show (presetLsi s.1.policyLatched s.1.idleMsLatched).or s.2.radio.lsi =
          Trace.latest _ (H.applied ++ H.pending.toList)
        rw [hpend, hf.lsi, Option.toList_some, Trace.latest_snoc]

/-- The state after a history is the one its account tells of. -/
theorem powerFollows (ids : PowerIds) (hp : PresetsOnly h) :
    PowerFollows ids (afterPower ids h) (powerHistory h) := by
  induction h using List.reverseRecOn with
  | nil => exact powerFollows_staUp ids
  | append_singleton h e ih =>
      have hf := ih fun policy wakeEvents idleMs hm => hp _ _ _ (List.mem_append_left _ hm)
      rw [afterPower, powerHistory, List.foldl_concat, List.foldl_concat]
      cases e with
      | request policy wakeEvents idleMs => exact hf.request (hp policy wakeEvents idleMs (by simp))
      | pass apUp w => exact hf.pass apUp w

/-! ## Whether the power state depends on the preset only -/

/-- After a pass that applied `policy`, two power states agree, and a preset other than the two that
set a long sleep interval has undone that of `DEEP_SLEEP`. -/
structure SamePower (policy : PowerPolicy) (t₁ t₂ : PowerTask) : Prop where
  radio : t₁.radio = t₂.radio
  held : t₁.constraintsHeld = t₂.constraintsHeld
  undone : policy = .performance ∨ policy = .balanced →
    ∀ lsi, t₁.radio.lsi = some lsi ∨ t₂.radio.lsi = some lsi → lsi.wakeUpEvent ≠ .nDtim

/-- A pass after a history applies what is pending. -/
theorem afterPower_pass (ids : PowerIds) (hp : PresetsOnly h)
    (hpend : (powerHistory h).pending = some (policy, idleMs)) (apUp : Bool) (w : WlanAnswers) :
    (afterPower ids (h ++ [.pass apUp w])).2.constraintsHeld = coreConstraints ids policy ∧
      ∃ ps pm, radioPreset policy = some (ps, pm) ∧
        (afterPower ids (h ++ [.pass apUp w])).2.radio = {
          powerSave := some ps
          powerManagement := some (if apUp then .alwaysActive else pm)
          lsi := (presetLsi policy idleMs).or (lastLsi h) } := by
  have hf := powerFollows ids hp
  obtain ⟨hcore, hrad, hset, rfl, rfl, hpreset⟩ := hf.pending policy idleMs hpend
  have hs : CoreSettled ids { (afterPower ids h).2 with wifiApLatch := { up := apUp } } :=
    hf.settled.of_eq rfl rfl (List.append_nil _).symm (by simp)
  have hpass : PassApplied ids (afterPower ids h).1
      { (afterPower ids h).2 with wifiApLatch := { up := apUp } }
      (PowerEvent.run ids (afterPower ids h) (.pass apUp w)) :=
    run_hwPowerService hs hf.wifiStaRoleUp hcore hrad hset hpreset
  have hafter : afterPower ids (h ++ [.pass apUp w]) =
      PowerEvent.run ids (afterPower ids h) (.pass apUp w) := by
    simp only [afterPower, List.foldl_append, List.foldl_cons, List.foldl_nil]
  rw [hafter]
  refine ⟨hpass.held, ?_⟩
  obtain ⟨ps, pm, heq⟩ : ∃ ps pm, radioPreset (afterPower ids h).1.policyLatched = some (ps, pm) := by
    cases hpol : (afterPower ids h).1.policyLatched with
    | unknown code =>
        rw [hpol] at hpreset
        exact hpreset.elim
    | _ => exact ⟨_, _, rfl⟩
  refine ⟨ps, pm, heq, ?_⟩
  rw [hpass.radio heq]
  have hap : PowerTask.apReported { (afterPower ids h).2 with wifiApLatch := { up := apUp } } = apUp := by
    cases apUp <;> simp [PowerTask.apReported, PowerTask.radioRole, hf.wifiStaRoleUp]
  have hlsi : PowerTask.radio { (afterPower ids h).2 with wifiApLatch := { up := apUp } } =
      (afterPower ids h).2.radio := rfl
  rw [hap, hlsi, hf.lsi]
  rfl

/-- Two histories that end with a pass for the same preset leave the same power state, and one in
which `PERFORMANCE` and `BALANCED` have undone `DEEP_SLEEP`, exactly if the preset sets the long sleep
interval itself, or the presets before left none or the same, and not that of `DEEP_SLEEP`. -/
theorem powerPresets_same_iff {h₁ h₂ : List PowerEvent} (hp₁ : PresetsOnly h₁) (hp₂ : PresetsOnly h₂)
    (hpend₁ : (powerHistory h₁).pending = some (policy, idleMs))
    (hpend₂ : (powerHistory h₂).pending = some (policy, idleMs)) (apUp : Bool) (w₁ w₂ : WlanAnswers) :
    SamePower policy (afterPower ids (h₁ ++ [.pass apUp w₁])).2
        (afterPower ids (h₂ ++ [.pass apUp w₂])).2 ↔
      policy = .lowPower ∨ policy = .deepSleep ∨
        lastLsi h₁ = lastLsi h₂ ∧ ∀ lsi, lastLsi h₁ = some lsi → lsi.wakeUpEvent ≠ .nDtim := by
  obtain ⟨hheld₁, ps, pm, hpreset, hradio₁⟩ := afterPower_pass ids hp₁ hpend₁ apUp w₁
  obtain ⟨hheld₂, ps', pm', hpreset', hradio₂⟩ := afterPower_pass ids hp₂ hpend₂ apUp w₂
  obtain ⟨rfl, rfl⟩ : ps = ps' ∧ pm = pm' := by simpa [hpreset] using hpreset'
  have hheld := hheld₁.trans hheld₂.symm
  -- the settings differ in the long sleep interval, if at all
  have hlsi₁ := congrArg RadioSettings.lsi hradio₁
  have hlsi₂ := congrArg RadioSettings.lsi hradio₂
  have hsame : (afterPower ids (h₁ ++ [.pass apUp w₁])).2.radio =
      (afterPower ids (h₂ ++ [.pass apUp w₂])).2.radio ↔
      (presetLsi policy idleMs).or (lastLsi h₁) = (presetLsi policy idleMs).or (lastLsi h₂) := by
    rw [hradio₁, hradio₂]
    simp
  have hkept : presetLsi policy idleMs = none → (policy = .performance ∨ policy = .balanced) →
      (SamePower policy (afterPower ids (h₁ ++ [.pass apUp w₁])).2
          (afterPower ids (h₂ ++ [.pass apUp w₂])).2 ↔
        lastLsi h₁ = lastLsi h₂ ∧ ∀ lsi, lastLsi h₁ = some lsi → lsi.wakeUpEvent ≠ .nDtim) := by
    intro hnone hpol
    rw [hnone, Option.none_or, Option.none_or] at hsame
    rw [hnone, Option.none_or] at hlsi₁ hlsi₂
    refine ⟨fun h => ⟨hsame.mp h.radio, fun lsi hlsi => h.undone hpol lsi (.inl (hlsi₁.trans hlsi))⟩,
      fun ⟨heq, hno⟩ => ⟨hsame.mpr heq, hheld, fun _ lsi hlsi => hno lsi ?_⟩⟩
    rcases hlsi with hlsi | hlsi
    · exact hlsi₁.symm.trans hlsi
    · exact heq.trans (hlsi₂.symm.trans hlsi)
  have hsets : ∀ lsi, presetLsi policy idleMs = some lsi →
      ¬ (policy = .performance ∨ policy = .balanced) →
      SamePower policy (afterPower ids (h₁ ++ [.pass apUp w₁])).2
        (afterPower ids (h₂ ++ [.pass apUp w₂])).2 := by
    intro lsi hlsi hpol
    exact ⟨hsame.mpr (by rw [hlsi]; rfl), hheld, fun h => absurd h hpol⟩
  cases policy with
  | performance => simpa using hkept rfl (.inl rfl)
  | balanced => simpa using hkept rfl (.inr rfl)
  | lowPower => exact iff_of_true (hsets _ rfl (by simp)) (.inl rfl)
  | deepSleep => exact iff_of_true (hsets _ rfl (by simp)) (.inr (.inl rfl))
  | unknown code => simp [radioPreset] at hpreset

/-- `LOW_POWER` after `DEEP_SLEEP` and `LOW_POWER` alone. -/
theorem powerPresets_same_lowPower : ∃ (ids : PowerIds) (h₁ h₂ : List PowerEvent),
    SamePower .lowPower (afterPower ids (h₁ ++ [.pass false {}])).2
      (afterPower ids (h₂ ++ [.pass false {}])).2 := by
  let h₁ : List PowerEvent := [.request .deepSleep 1 500, .pass true {}, .request .lowPower 1 0]
  let h₂ : List PowerEvent := [.request .lowPower 1 0]
  have hp₁ : PresetsOnly h₁ := by
    intro policy wakeEvents idleMs hm
    simp [h₁] at hm
    rcases hm with ⟨rfl, -⟩ | ⟨rfl, -⟩ <;> trivial
  have hp₂ : PresetsOnly h₂ := by
    intro policy wakeEvents idleMs hm
    simp [h₂] at hm
    obtain ⟨rfl, -⟩ := hm
    trivial
  have hpend₁ : (powerHistory h₁).pending = some (.lowPower, 0) := rfl
  have hpend₂ : (powerHistory h₂).pending = some (.lowPower, 0) := rfl
  exact ⟨⟨0, 1, by decide, by decide, by decide⟩, h₁, h₂,
    (powerPresets_same_iff hp₁ hp₂ hpend₁ hpend₂ false {} {}).mpr (.inl rfl)⟩

/-- `BALANCED` after `DEEP_SLEEP` still sleeps through five beacons; `BALANCED` alone does not. -/
theorem balanced_keeps_deepSleep : ∃ (ids : PowerIds) (h₁ h₂ : List PowerEvent) (policy : PowerPolicy)
    (idleMs : UInt32), PresetsOnly h₁ ∧ PresetsOnly h₂ ∧
    (powerHistory h₁).pending = some (policy, idleMs) ∧
    (powerHistory h₂).pending = some (policy, idleMs) ∧
    (afterPower ids (h₁ ++ [.pass false {}])).2.radio.lsi = some ⟨.nDtim, 5⟩ ∧
    (afterPower ids (h₂ ++ [.pass false {}])).2.radio.lsi = none ∧
    ¬ SamePower policy (afterPower ids (h₁ ++ [.pass false {}])).2
      (afterPower ids (h₂ ++ [.pass false {}])).2 := by
  let h₁ : List PowerEvent := [.request .deepSleep 1 500, .pass false {}, .request .balanced 0 0]
  let h₂ : List PowerEvent := [.request .balanced 0 0]
  let ids : PowerIds := ⟨0, 1, by decide, by decide, by decide⟩
  have hp₁ : PresetsOnly h₁ := by
    intro policy wakeEvents idleMs hm
    simp [h₁] at hm
    rcases hm with ⟨rfl, -⟩ | ⟨rfl, -⟩ <;> trivial
  have hp₂ : PresetsOnly h₂ := by
    intro policy wakeEvents idleMs hm
    simp [h₂] at hm
    obtain ⟨rfl, -⟩ := hm
    trivial
  have hkept : (afterPower ids (h₁ ++ [.pass false {}])).2.radio.lsi = some ⟨.nDtim, 5⟩ := by
    decide +kernel
  have hnone : (afterPower ids (h₂ ++ [.pass false {}])).2.radio.lsi = none := by decide +kernel
  refine ⟨ids, h₁, h₂, .balanced, 0, hp₁, hp₂, rfl, rfl, hkept, hnone, fun h => ?_⟩
  exact h.undone (.inr rfl) _ (.inl hkept) rfl

end

end Cc3501eBridge
