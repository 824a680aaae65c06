import Cc3501eBridge.LinkHeal

/-!
# Resync heals and fresh evidence

The resync check of `cc3501e_hw_link_heal` compares the count of misframed headers with the one it saw
last, and re-opens the slave on a burst of three.  Another re-init may have zeroed the counter in
between; the check allows for that.  After its own re-init it sets its snapshot to zero because that
zeroes the counter, which is so only if the slave was opened.  If every attempt failed, or in update
mode, where a re-init does nothing, the counter stands, and the next check takes the old misframes for
new ones.

Everything is read off the history: `sinceReinit` is the counter, `sinceCheck` the evidence a heal
should have, and `lingers` tells that the last heal left the counter standing.  As long as no check
meets that, every heal is justified, `FreshHeals`.
-/

namespace Cc3501eBridge

open Trace Prog

/-! ## Counting in a history -/

/-- The misframed headers. -/
def misframes (log : List LinkEv) : Nat := log.count (.transfer true)

/-- Misframed headers since the latest resync check, with one more event. -/
def sinceCheckStep (n : Nat) : LinkEv → Nat
  | .resyncCheck => 0
  | .transfer true => n + 1
  | _ => n

/-- Misframed headers since the latest resync check. -/
def sinceCheck (log : List LinkEv) : Nat := log.foldl sinceCheckStep 0

/-- Misframed headers since the slave was opened last, with one more event. -/
def sinceReinitStep (n : Nat) : LinkEv → Nat
  | .reinit _ .opened => 0
  | .transfer true => n + 1
  | _ => n

/-- Misframed headers since the slave was opened last. -/
def sinceReinit (log : List LinkEv) : Nat := log.foldl sinceReinitStep 0

/-- The last heal left the counter standing, with one more event. -/
def lingersStep (b : Bool) : LinkEv → Bool
  | .reinit _ .opened => false
  | .reinit .resync _ => true
  | _ => b

/-- The last heal left the counter standing, and the slave has not been opened since. -/
def lingers (log : List LinkEv) : Bool := log.foldl lingersStep false

/-- `j` is the latest resync check. -/
def CheckedAt (log : List LinkEv) (j : Nat) : Prop :=
  log[j]? = some .resyncCheck ∧ ∀ i, j < i → log[i]? ≠ some .resyncCheck

/-- Every heal follows a check that had met a burst since the check before. -/
def FreshHeals (log : List LinkEv) : Prop :=
  ∀ k out, log[k]? = some (.reinit .resync out) →
    ∃ j, CheckedAt (log.take k) j ∧ resyncBurst.toNat ≤ sinceCheck (log.take j)

/-- No check runs while the last heal left the counter standing. -/
def NoneLingers (log : List LinkEv) : Prop :=
  ∀ j, log[j]? = some .resyncCheck → lingers (log.take j) = false

section

variable {log : List LinkEv} {e : LinkEv} {s s' : LinkState}

@[simp] theorem sinceCheck_snoc : sinceCheck (log ++ [e]) = sinceCheckStep (sinceCheck log) e := by
  simp [sinceCheck, List.foldl_append]

@[simp] theorem sinceReinit_snoc :
    sinceReinit (log ++ [e]) = sinceReinitStep (sinceReinit log) e := by
  simp [sinceReinit, List.foldl_append]

@[simp] theorem lingers_snoc : lingers (log ++ [e]) = lingersStep (lingers log) e := by
  simp [lingers, List.foldl_append]

theorem misframes_snoc : misframes (log ++ [e]) = misframes log + if e = .transfer true then 1 else 0 := by
  rw [misframes, List.count_append, List.count_singleton]
  simp only [beq_iff_eq, misframes]

theorem misframes_le_snoc : misframes log ≤ misframes (log ++ [e]) := by
  rw [misframes_snoc]
  exact Nat.le_add_right _ _

theorem misframes_take_le (log : List LinkEv) (j : Nat) : misframes (log.take j) ≤ misframes log :=
  (List.take_sublist j log).count_le _

theorem sinceReinitStep_le (n : Nat) (e : LinkEv) :
    sinceReinitStep n e ≤ n + if e = .transfer true then 1 else 0 := by
  unfold sinceReinitStep
  split <;> simp

/-- The counter does not exceed the misframes. -/
theorem sinceReinit_le (log : List LinkEv) : sinceReinit log ≤ misframes log := by
  induction log using List.reverseRecOn with
  | nil => exact Nat.le_refl _
  | append_singleton log e ih =>
      rw [sinceReinit_snoc, misframes_snoc]
      exact (sinceReinitStep_le _ e).trans (Nat.add_le_add_right ih _)

theorem CheckedAt.lt {j : Nat} (h : CheckedAt log j) : j < log.length :=
  (List.getElem?_eq_some_iff.mp h.1).1

theorem CheckedAt.snoc {j : Nat} (h : CheckedAt log j) (he : e ≠ .resyncCheck) :
    CheckedAt (log ++ [e]) j := by
  refine ⟨getElem?_snoc.mpr (.inl h.1), fun i hi hc => ?_⟩
  rcases getElem?_snoc.mp hc with hc | ⟨-, rfl⟩
  · exact h.2 i hi hc
  · exact he rfl

theorem checkedAt_last : CheckedAt (log ++ [.resyncCheck]) log.length := by
  refine ⟨List.getElem?_concat_length, fun i hi hc => ?_⟩
  have hilt := (List.getElem?_eq_some_iff.mp hc).1
  rw [List.length_append, List.length_singleton] at hilt
  omega

/-- The heals before the last event. -/
theorem freshHeals_snoc : FreshHeals (log ++ [e]) ↔ FreshHeals log ∧
    ∀ out, e = .reinit .resync out →
      ∃ j, CheckedAt log j ∧ resyncBurst.toNat ≤ sinceCheck (log.take j) := by
  have hcut : ∀ k, k ≤ log.length → ∀ j, CheckedAt (log.take k) j →
      (log ++ [e]).take j = log.take j := by
    intro k hk j hj
    have hjlt := hj.lt
    rw [List.length_take] at hjlt
    exact List.take_append_of_le_length (by omega)
  constructor
  · intro h
    constructor
    · intro k out hk
      have hlt : k < log.length := (List.getElem?_eq_some_iff.mp hk).1
      obtain ⟨j, hj, hn⟩ := h k out (getElem?_snoc.mpr (.inl hk))
      rw [List.take_append_of_le_length (Nat.le_of_lt hlt)] at hj
      exact ⟨j, hj, hcut k (Nat.le_of_lt hlt) j hj ▸ hn⟩
    · rintro out rfl
      obtain ⟨j, hj, hn⟩ := h log.length out List.getElem?_concat_length
      rw [List.take_left] at hj
      refine ⟨j, hj, ?_⟩
      rwa [List.take_append_of_le_length (Nat.le_of_lt hj.lt)] at hn
  · rintro ⟨h, hlast⟩ k out hk
    rcases getElem?_snoc.mp hk with hk | ⟨rfl, he⟩
    · have hlt : k < log.length := (List.getElem?_eq_some_iff.mp hk).1
      obtain ⟨j, hj, hn⟩ := h k out hk
      rw [List.take_append_of_le_length (Nat.le_of_lt hlt)]
      exact ⟨j, hj, hcut k (Nat.le_of_lt hlt) j hj ▸ hn⟩
    · obtain ⟨j, hj, hn⟩ := hlast out he.symm
      rw [List.take_left]
      refine ⟨j, hj, ?_⟩
      rwa [List.take_append_of_le_length (Nat.le_of_lt hj.lt)]

/-- The checks before the last event, and the last event if it is one. -/
theorem noneLingers_snoc :
    NoneLingers (log ++ [e]) ↔ NoneLingers log ∧ (e = .resyncCheck → lingers log = false) := by
  constructor
  · intro h
    constructor
    · intro j hj
      have hlt : j < log.length := (List.getElem?_eq_some_iff.mp hj).1
      have hl := h j (getElem?_snoc.mpr (.inl hj))
      rwa [List.take_append_of_le_length (Nat.le_of_lt hlt)] at hl
    · rintro rfl
      have hl := h log.length List.getElem?_concat_length
      rwa [List.take_left] at hl
  · rintro ⟨h, hlast⟩ j hj
    rcases getElem?_snoc.mp hj with hj | ⟨rfl, he⟩
    · have hlt : j < log.length := (List.getElem?_eq_some_iff.mp hj).1
      rw [List.take_append_of_le_length (Nat.le_of_lt hlt)]
      exact h j hj
    · rw [List.take_left]
      exact hlast he.symm

/-! ## What holds while the healing runs -/

/-- What the check compares with the burst: the counter less the snapshot, or the counter alone if it
has gone back. -/
def resyncDelta (rc last : Nat) : Nat := if rc < last then rc else rc - last

/-- The snapshot as the check uses it. -/
def resyncBase (rc last : UInt32) : UInt32 := if rc < last then 0 else last

theorem toNat_sub_resyncBase (rc last : UInt32) :
    (rc - resyncBase rc last).toNat = resyncDelta rc.toNat last.toNat := by
  unfold resyncBase resyncDelta
  by_cases h : rc < last
  · rw [if_pos h, if_pos (UInt32.lt_iff_toNat_lt.mp h), UInt32.sub_zero]
  · have hle : last ≤ rc := UInt32.not_lt.mp h
    rw [if_neg h, if_neg fun hn => h (UInt32.lt_iff_toNat_lt.mpr hn), UInt32.toNat_sub_of_le _ _ hle]

theorem resyncDelta_succ (n m : Nat) : resyncDelta (n + 1) m ≤ resyncDelta n m + 1 := by
  unfold resyncDelta
  split_ifs <;> omega

theorem resyncDelta_le (n m : Nat) : resyncDelta n m ≤ n := by
  unfold resyncDelta
  split_ifs <;> omega

/-- What is known at every moment: the counter is that of the history, and the heals so far were
justified. -/
structure ResyncSeen (s : LinkState) : Prop where
  count : s.1.view.resyncCount = UInt32.ofNat (sinceReinit s.1.log)
  fresh : misframes s.1.log < 2 ^ 32 → NoneLingers s.1.log → FreshHeals s.1.log

/-- Between two bodies: unless the last heal left the counter standing, what a check would see is no
more than what has come since the check before. -/
structure ResyncInv (s : LinkState) : Prop where
  seen : ResyncSeen s
  delta : misframes s.1.log < 2 ^ 32 → lingers s.1.log = false →
    resyncDelta (sinceReinit s.1.log) s.2.lastResync.toNat ≤ sinceCheck s.1.log

/-- After the check at `j` has read the counter as `r`, with the snapshot `last`. -/
structure ResyncRead (j r : Nat) (last : UInt32) (s : LinkState) : Prop where
  seen : ResyncSeen s
  checked : CheckedAt s.1.log j
  kept : lingers s.1.log = lingers (s.1.log.take j)
  since : sinceReinit s.1.log = r + sinceCheck s.1.log
  delta : misframes (s.1.log.take j) < 2 ^ 32 → lingers (s.1.log.take j) = false →
    resyncDelta r last.toNat ≤ sinceCheck (s.1.log.take j)

/-- After the re-init of the check. -/
structure ResyncHealed (s : LinkState) : Prop where
  seen : ResyncSeen s
  le : lingers s.1.log = false → sinceReinit s.1.log ≤ sinceCheck s.1.log

/-- The own check of the heals of one more event. -/
def HealsFresh (log : List LinkEv) (e : LinkEv) : Prop :=
  ∀ out, e = .reinit .resync out →
    ∃ j, CheckedAt log j ∧ resyncBurst.toNat ≤ sinceCheck (log.take j)

theorem ResyncSeen.logged (h : ResyncSeen s) (hlog : s'.1.log = s.1.log ++ [e])
    (hcount : s'.1.view.resyncCount = UInt32.ofNat (sinceReinitStep (sinceReinit s.1.log) e))
    (he : misframes s.1.log < 2 ^ 32 → NoneLingers s.1.log → HealsFresh s.1.log e) :
    ResyncSeen s' where
  count := by rw [hlog, sinceReinit_snoc, hcount]
  fresh := by
    rw [hlog]
    intro hm hn
    have hm' := Nat.lt_of_le_of_lt misframes_le_snoc hm
    have hn' := (noneLingers_snoc.mp hn).1
    exact freshHeals_snoc.mpr ⟨h.fresh hm' hn', he hm' hn'⟩

theorem ResyncSeen.kept (h : ResyncSeen s) (hlog : s'.1.log = s.1.log)
    (hcount : s'.1.view.resyncCount = s.1.view.resyncCount) : ResyncSeen s' where
  count := by rw [hlog, hcount, h.count]
  fresh := by
    rw [hlog]
    exact h.fresh

theorem ResyncInv.logged (h : ResyncInv s) (hlog : s'.1.log = s.1.log ++ [e]) (hs : ResyncSeen s')
    (hlast : s'.2.lastResync = s.2.lastResync)
    (hd : resyncDelta (sinceReinit s.1.log) s.2.lastResync.toNat ≤ sinceCheck s.1.log →
      resyncDelta (sinceReinitStep (sinceReinit s.1.log) e) s.2.lastResync.toNat ≤
        sinceCheckStep (sinceCheck s.1.log) e)
    (hl : lingersStep (lingers s.1.log) e = false → lingers s.1.log = false) : ResyncInv s' where
  seen := hs
  delta := by
    rw [hlog, sinceReinit_snoc, sinceCheck_snoc, lingers_snoc, hlast]
    intro hm hlinger
    exact hd (h.delta (Nat.lt_of_le_of_lt misframes_le_snoc hm) (hl hlinger))

theorem ResyncInv.kept (h : ResyncInv s) (hlog : s'.1.log = s.1.log)
    (hcount : s'.1.view.resyncCount = s.1.view.resyncCount)
    (hlast : s'.2.lastResync = s.2.lastResync) : ResyncInv s' where
  seen := h.seen.kept hlog hcount
  delta := by
    rw [hlog, hlast]
    exact h.delta

variable {polled : Bool} {j r : Nat} {last : UInt32}

theorem healsFresh_transfer {m : Bool} : HealsFresh log (.transfer m) := by
  intro out h
  cases h

theorem ResyncSeen.transfer {m : Bool} (h : ResyncSeen s)
    (hlog : s'.1.log = s.1.log ++ [.transfer m])
    (hcount : s'.1.view.resyncCount =
      if m then s.1.view.resyncCount + 1 else s.1.view.resyncCount) : ResyncSeen s' := by
  refine h.logged hlog ?_ fun _ _ => healsFresh_transfer
  rw [hcount, h.count]
  cases m
  · rfl
  · exact (UInt32.ofNat_add _ 1).symm

theorem ResyncSeen.interrupt (irq : LinkIrq) (s : LinkState) (h : ResyncSeen s) :
    ResyncSeen ((linkTasks polled).interrupt irq s) := by
  rcases irq.run_cases s.1 with ⟨m, hlog, hcount⟩ | ⟨hlog, -, hcount⟩
  · exact h.transfer hlog hcount
  · exact h.kept hlog hcount

theorem ResyncInv.interrupt (irq : LinkIrq) (s : LinkState) (h : ResyncInv s) :
    ResyncInv ((linkTasks polled).interrupt irq s) := by
  rcases irq.run_cases s.1 with ⟨m, hlog, hcount⟩ | ⟨hlog, -, hcount⟩
  · refine h.logged hlog (h.seen.transfer hlog hcount) rfl (fun hd => ?_) id
    cases m
    · exact hd
    · exact (resyncDelta_succ _ _).trans (Nat.add_le_add_right hd 1)
  · exact h.kept hlog hcount rfl

theorem ResyncRead.interrupt (irq : LinkIrq) (s : LinkState) (h : ResyncRead j r last s) :
    ResyncRead j r last ((linkTasks polled).interrupt irq s) := by
  have hread : CheckedAt (irq.run s.1).log j ∧ (irq.run s.1).log.take j = s.1.log.take j ∧
      lingers (irq.run s.1).log = lingers s.1.log ∧
      sinceReinit (irq.run s.1).log = r + sinceCheck (irq.run s.1).log := by
    rcases irq.run_cases s.1 with ⟨m, hlog, -⟩ | ⟨hlog, -⟩
    · rw [hlog, List.take_append_of_le_length (Nat.le_of_lt h.checked.lt), lingers_snoc,
        sinceReinit_snoc, sinceCheck_snoc]
      refine ⟨h.checked.snoc nofun, rfl, rfl, ?_⟩
      cases m
      · exact h.since
      · exact congrArg (· + 1) h.since
    · rw [hlog]
      exact ⟨h.checked, rfl, rfl, h.since⟩
  obtain ⟨hchecked, htake, hlingers, hsince⟩ := hread
  refine ⟨h.seen.interrupt irq s, hchecked, ?_, hsince, ?_⟩
  · exact hlingers.trans (h.kept.trans (congrArg lingers htake.symm))
  · change misframes ((irq.run s.1).log.take j) < _ → lingers ((irq.run s.1).log.take j) = false →
      resyncDelta r last.toNat ≤ sinceCheck ((irq.run s.1).log.take j)
    rw [htake]
    exact h.delta

theorem ResyncHealed.interrupt (irq : LinkIrq) (s : LinkState) (h : ResyncHealed s) :
    ResyncHealed ((linkTasks polled).interrupt irq s) := by
  refine ⟨h.seen.interrupt irq s, ?_⟩
  change lingers (irq.run s.1).log = false →
    sinceReinit (irq.run s.1).log ≤ sinceCheck (irq.run s.1).log
  rcases irq.run_cases s.1 with ⟨m, hlog, -⟩ | ⟨hlog, -⟩
  · rw [hlog, sinceReinit_snoc, sinceCheck_snoc, lingers_snoc]
    intro hl
    have hle := h.le hl
    cases m
    · exact hle
    · exact Nat.add_le_add_right hle 1
  · rw [hlog]
    exact h.le

/-! ## The bodies -/

@[simp] theorem sinceReinitStep_reinit (n : Nat) (cause : HealCause) (out : ReinitOutcome) :
    sinceReinitStep n (.reinit cause out) = if out = .opened then 0 else n := by cases out <;> rfl

@[simp] theorem sinceCheckStep_reinit (n : Nat) (cause : HealCause) (out : ReinitOutcome) :
    sinceCheckStep n (.reinit cause out) = n := rfl

@[simp] theorem lingersStep_reinit (b : Bool) (cause : HealCause) (out : ReinitOutcome) :
    lingersStep b (.reinit cause out) =
      if out = .opened then false else if cause = .resync then true else b := by
  cases out <;> cases cause <;> rfl

/-- The counter after a re-init. -/
theorem ResyncSeen.reinit {cause : HealCause} {out : ReinitOutcome} (h : ResyncSeen s)
    (hlog : s'.1.log = s.1.log ++ [.reinit cause out])
    (hcount : s'.1.view.resyncCount = if out = .opened then 0 else s.1.view.resyncCount)
    (he : misframes s.1.log < 2 ^ 32 → NoneLingers s.1.log → HealsFresh s.1.log (.reinit cause out)) :
    ResyncSeen s' := by
  refine h.logged hlog ?_ he
  rw [hcount, sinceReinitStep_reinit]
  split_ifs
  · rfl
  · exact h.count

theorem spiReinit_preserves_resync {cause : HealCause} (hc : cause ≠ .resync) :
    (spiReinit polled cause).Preserves ResyncInv := by
  refine preserves_modify fun s h => ?_
  obtain ⟨out, hlog, hcount⟩ := s.1.hwReinit_cases polled cause
  have hfresh : HealsFresh s.1.log (.reinit cause out) := by
    intro out' he
    cases he
    exact absurd rfl hc
  have hs : ResyncSeen (s.1.hwReinit polled cause, s.2) := h.seen.reinit hlog hcount fun _ _ => hfresh
  by_cases ho : out = .opened
  · subst ho
    refine ⟨hs, fun _ _ => ?_⟩
    rw [hlog, sinceReinit_snoc, sinceReinitStep_reinit, if_pos rfl]
    exact (resyncDelta_le 0 _).trans (Nat.zero_le _)
  · refine h.logged hlog hs rfl (fun hd => ?_) fun hl => ?_
    · rwa [sinceReinitStep_reinit, if_neg ho]
    · rwa [lingersStep_reinit, if_neg ho, if_neg hc] at hl

/-- A change of the healing that is not about the snapshot. -/
theorem healing_preserves_resync {f : LinkHealing → LinkHealing}
    (hf : ∀ h, (f h).lastResync = h.lastResync) : (healing f).Preserves ResyncInv := by
  exact preserves_modify fun s h => h.kept rfl rfl (hf s.2)

theorem armFailHeal_preserves_resync : (armFailHeal polled).Preserves ResyncInv := by
  refine (preserves_get _).bind fun af => (preserves_get _).bind fun last => preserves_onlyIf ?_
  exact (spiReinit_preserves_resync (by simp)).bind fun _ => healing_preserves_resync fun _ => rfl

theorem quietHeal_preserves_resync : (quietHeal polled).Preserves ResyncInv := by
  refine (preserves_get _).bind fun fired => preserves_onlyIf ?_
  refine (preserves_get _).bind fun seen => (preserves_get _).bind fun after => preserves_onlyIf ?_
  refine (preserves_get _).bind fun idle => (preserves_get _).bind fun count => ?_
  refine (preserves_get _).bind fun quietMs => Preserves.bind ?_ fun fire => preserves_onlyIf ?_
  · exact preserves_atomically fun s h => h.kept rfl rfl rfl
  · exact (spiReinit_preserves_resync (by simp)).bind fun _ => healing_preserves_resync fun _ => rfl

/-- The check reads the counter. -/
theorem ResyncInv.read (h : ResyncInv s) :
    ResyncRead s.1.log.length (sinceReinit s.1.log) s.2.lastResync
      (s.1.logged .resyncCheck, s.2) := by
  have htake : ((s.1.logged .resyncCheck, s.2) : LinkState).1.log.take s.1.log.length = s.1.log :=
    List.take_left
  have hseen : ResyncSeen (s.1.logged .resyncCheck, s.2) :=
    h.seen.logged rfl h.seen.count fun _ _ _ he => by cases he
  refine ⟨hseen, checkedAt_last, ?_, ?_, ?_⟩
  · rw [htake]
    change lingers (s.1.log ++ [LinkEv.resyncCheck]) = lingers s.1.log
    rw [lingers_snoc]
    rfl
  · change sinceReinit (s.1.log ++ [LinkEv.resyncCheck]) =
      sinceReinit s.1.log + sinceCheck (s.1.log ++ [LinkEv.resyncCheck])
    rw [sinceReinit_snoc, sinceCheck_snoc]
    rfl
  · rw [htake]
    exact h.delta

/-- The check re-opens the slave: it had met a burst, unless the last heal lingered. -/
theorem ResyncRead.heal (h : ResyncRead j r last s)
    (hburst : misframes s.1.log < 2 ^ 32 → resyncBurst.toNat ≤ resyncDelta r last.toNat) :
    ResyncHealed (s.1.hwReinit polled .resync, s.2) := by
  obtain ⟨out, hlog, hcount⟩ := s.1.hwReinit_cases polled .resync
  refine ⟨h.seen.reinit hlog hcount fun hm hn out' _ => ?_, fun hl => ?_⟩
  · have hm' := Nat.lt_of_le_of_lt (misframes_take_le s.1.log j) hm
    exact ⟨j, h.checked, (hburst hm).trans (h.delta hm' (hn j h.checked.1))⟩
  · rw [hlog, lingers_snoc, lingersStep_reinit] at hl
    rw [hlog, sinceReinit_snoc, sinceCheck_snoc, sinceReinitStep_reinit, sinceCheckStep_reinit]
    by_cases ho : out = .opened
    · rw [if_pos ho]
      exact Nat.zero_le _
    · rw [if_neg ho, if_pos rfl] at hl
      exact absurd hl (by decide)

/-- The counter was read without loss. -/
theorem ResyncRead.toNat (h : ResyncRead j r last s) (hm : misframes s.1.log < 2 ^ 32) :
    (UInt32.ofNat r).toNat = r := by
  have hle := sinceReinit_le s.1.log
  have hsince := h.since
  rw [UInt32.toNat_ofNat']
  exact Nat.mod_eq_of_lt (by omega)

/-- The snapshot after a heal. -/
theorem ResyncHealed.inv {t : LinkHealing} (h : ResyncHealed s) (ht : t.lastResync = 0) :
    ResyncInv (s.1, t) where
  seen := ⟨h.seen.count, h.seen.fresh⟩
  delta _ hl := by
    rw [ht]
    exact (resyncDelta_le _ _).trans (h.le hl)

/-- The snapshot after a check without one. -/
theorem ResyncRead.inv {t : LinkHealing} (h : ResyncRead j r last s)
    (ht : t.lastResync = UInt32.ofNat r) : ResyncInv (s.1, t) where
  seen := ⟨h.seen.count, h.seen.fresh⟩
  delta hm _ := by
    change resyncDelta (sinceReinit s.1.log) _ ≤ sinceCheck s.1.log
    rw [ht, h.toNat hm, h.since]
    unfold resyncDelta
    split_ifs <;> omega

/-- The end of the check, which compares with `resyncBase`. -/
theorem resyncDecide_holds (h : ResyncRead j r last s)
    (hbase : s.2.lastResync = resyncBase (UInt32.ofNat r) last) :
    (do
      let last ← get (·.2.lastResync)
      if resyncBurst ≤ UInt32.ofNat r - last then do
        spiReinit polled .resync
        healing ({ · with lastResync := 0 })
      else healing ({ · with lastResync := UInt32.ofNat r }) : Prog LinkState Unit).Holds
        (linkTasks polled).Interrupted ResyncSeen (fun _ => ResyncInv) s := by
  have hinv : ∀ s s', (linkTasks polled).Interrupted s s' → ResyncInv s → ResyncInv s' :=
    fun s s' hs => hs.preserves ResyncInv.interrupt
  have hread : ∀ s s', (linkTasks polled).Interrupted s s' → ResyncRead j r last s →
      ResyncRead j r last s' := fun s s' hs => hs.preserves ResyncRead.interrupt
  have hhealed : ∀ s s', (linkTasks polled).Interrupted s s' → ResyncHealed s →
      ResyncHealed s' := fun s s' hs => hs.preserves ResyncHealed.interrupt
  refine Holds.get_bind fun s₁ hs₁ => ?_
  have h₁ := hread _ _ hs₁ h
  rw [healing_of_interrupted hs₁, hbase]
  refine ⟨h₁.seen, Holds.ite (fun hburst => ?_) fun _ => ?_⟩
  · refine Holds.modify_bind fun s₂ hs₂ => ?_
    have h₂ := hread _ _ hs₂ h₁
    have hheal : ResyncHealed (s₂.1.hwReinit polled .resync, s₂.2) := by
      refine h₂.heal fun hm => ?_
      have hle := UInt32.le_iff_toNat_le.mp hburst
      rwa [toNat_sub_resyncBase, h₂.toNat hm] at hle
    refine ⟨hheal.seen, fun s₃ hs₃ => ?_⟩
    have h₃ := (hhealed _ _ hs₃ hheal).inv (t := { s₃.2 with lastResync := 0 }) rfl
    exact ⟨h₃.seen, fun s' hs' => hinv _ _ hs' h₃⟩
  · intro s₂ hs₂
    have h₂ := (hread _ _ hs₂ h₁).inv (t := { s₂.2 with lastResync := UInt32.ofNat r }) rfl
    exact ⟨h₂.seen, fun s' hs' => hinv _ _ hs' h₂⟩

theorem resyncHeal_holds (h : ResyncInv s) :
    (resyncHeal polled).Holds (linkTasks polled).Interrupted ResyncSeen (fun _ => ResyncInv) s := by
  have hinv : ∀ s s', (linkTasks polled).Interrupted s s' → ResyncInv s → ResyncInv s' :=
    fun s s' hs => hs.preserves ResyncInv.interrupt
  have hread : ∀ j r last s s', (linkTasks polled).Interrupted s s' → ResyncRead j r last s →
      ResyncRead j r last s' := fun j r last s s' hs => hs.preserves ResyncRead.interrupt
  refine Holds.atomically_bind fun s₁ hs₁ => ?_
  have h₁ := hinv _ _ hs₁ h
  refine ⟨h₁.read.seen, ?_⟩
  rw [h₁.seen.count]
  refine Holds.get_bind fun s₂ hs₂ => ?_
  have h₂ := hread _ _ _ _ _ hs₂ h₁.read
  have hlast₂ : s₂.2.lastResync = s₁.2.lastResync := by rw [healing_of_interrupted hs₂]
  rw [hlast₂]
  refine ⟨h₂.seen, Holds.bind (Holds.onlyIf (fun hlt => ?_) fun hge s₃ hs₃ => ?_)⟩
  · intro s₃ hs₃
    have h₃ := hread _ _ _ _ _ hs₃ h₂
    have h₃' : ResyncRead _ _ _ (s₃.1, { s₃.2 with lastResync := 0 }) :=
      ⟨⟨h₃.seen.count, h₃.seen.fresh⟩, h₃.checked, h₃.kept, h₃.since, h₃.delta⟩
    refine ⟨h₃'.seen, fun s₄ hs₄ => resyncDecide_holds (hread _ _ _ _ _ hs₄ h₃') ?_⟩
    rw [healing_of_interrupted hs₄, resyncBase, if_pos (by simpa using hlt)]
  · refine resyncDecide_holds (hread _ _ _ _ _ hs₃ h₂) ?_
    rw [healing_of_interrupted hs₃, hlast₂, resyncBase, if_neg (by simpa using hge)]

theorem linkHeal_holds_resync (inConnectWait : Bool) (h : ResyncInv s) :
    (linkHeal polled inConnectWait).Holds (linkTasks polled).Interrupted ResyncSeen
      (fun _ => ResyncInv) s := by
  have hinv : ∀ s s', (linkTasks polled).Interrupted s s' → ResyncInv s → ResyncInv s' :=
    fun s s' hs => hs.preserves ResyncInv.interrupt
  have hseen : ∀ s, ResyncInv s → ResyncSeen s := fun _ h => h.seen
  refine (preserves_get _).holds_bind hinv hseen (fun dead s₁ h₁ => ?_) h
  refine (preserves_onlyIf (spiReinit_preserves_resync (by simp))).holds_bind hinv hseen
    (fun _ s₂ h₂ => ?_) h₁
  refine Holds.bind ((resyncHeal_holds h₂).mono (fun _ h => h) fun _ s₃ h₃ => ?_)
  refine armFailHeal_preserves_resync.holds_bind hinv hseen (fun _ s₄ h₄ => ?_) h₃
  refine (preserves_get _).holds_bind hinv hseen (fun stalled s₅ h₅ => ?_) h₄
  refine (preserves_onlyIf (spiReinit_preserves_resync (by simp))).holds_bind hinv hseen
    (fun _ s₆ h₆ => ?_) h₅
  exact ((preserves_onlyIf quietHeal_preserves_resync).holds hinv h₆).mono hseen fun _ _ h => h

/-- Every body. -/
theorem linkOp_resync (k : LinkOp) (s : LinkState) (h : ResyncInv s) :
    ((linkTasks polled).body k).Holds (linkTasks polled).Interrupted ResyncSeen
      (fun _ => ResyncInv) s := by
  have hinv : ∀ s s', (linkTasks polled).Interrupted s s' → ResyncInv s → ResyncInv s' :=
    fun s s' hs => hs.preserves ResyncInv.interrupt
  have hseen : ∀ s, ResyncInv s → ResyncSeen s := fun _ h => h.seen
  cases k with
  | heal inConnectWait => exact linkHeal_holds_resync inConnectWait h
  | beginConnect =>
      have hbegin : linkHealBeginConnect.Preserves ResyncInv := by
        refine Preserves.bind (preserves_atomically fun s h => ?_) fun x =>
          Preserves.bind (healing_preserves_resync ?_) fun _ => healing_preserves_resync ?_
        · have hs : ResyncSeen (s.1.logged (.beginConnect s.1.xferCount), s.2) :=
            h.seen.logged rfl h.seen.count fun _ _ _ he => by cases he
          exact h.logged rfl hs rfl id id
        · exact fun _ => rfl
        · exact fun _ => rfl
      exact (hbegin.holds hinv h).mono hseen fun _ _ h => h
  | reinit => exact ((spiReinit_preserves_resync (by simp)).holds hinv h).mono hseen fun _ _ h => h
  | release =>
      refine (Preserves.holds (preserves_modify fun s h => ?_) hinv h).mono hseen fun _ _ h => h
      exact h.kept (s.1.hwRelease_log polled) (s.1.hwRelease_resyncCount polled) rfl

/-- In every run in which no check meets a counter that the last heal left standing, every heal of the
resync check comes from a burst since the check before. -/
theorem resync_heals_fresh {tr : List (TaskAct LinkIrq LinkOp)} {p : Prog LinkState Unit}
    (hr : (linkTasks polled).machine.Run (.boot, .done ()) tr (s, p))
    (hm : misframes s.1.log < 2 ^ 32) (hn : NoneLingers s.1.log) : FreshHeals s.1.log := by
  have hboot : ResyncInv .boot :=
    ⟨⟨rfl, fun _ _ k out hk => by simp [LinkState.boot] at hk⟩, fun _ _ => Nat.le_refl 0⟩
  exact (Tasks.invariant_run hr (fun _ h => h.seen) ResyncSeen.interrupt ResyncInv.interrupt
    linkOp_resync hboot).1.fresh hm hn

end

/-- A misframed header. -/
def misframe : TaskAct LinkIrq LinkOp := .interrupt (.transfer true .reqHeader false false)

/-- The slave is opened, and three headers are misframed. -/
def burst : List (TaskAct LinkIrq LinkOp) := [.call .reinit, .step] ++ List.replicate 3 misframe

/-- A check of the link, followed by `n` steps. -/
def checkFor (n : Nat) : List (TaskAct LinkIrq LinkOp) :=
  .call (.heal false) :: List.replicate n .step

/-- No attempt to open the slave succeeds for the length of two heals. -/
def deafHeals : List (TaskAct LinkIrq LinkOp) :=
  burst ++ .interrupt (.driver false true) :: checkFor 9 ++ checkFor 10

/-- What is seen of them. -/
def deafLog : List LinkEv :=
  [.reinit .other .opened, .transfer true, .transfer true, .transfer true, .resyncCheck,
    .reinit .resync .failed, .reinit .dead .failed, .resyncCheck, .reinit .resync .failed]

theorem stale_heal : ∃ tr s p, (linkTasks false).machine.Run (.boot, .done ()) tr (s, p) ∧
    misframes s.1.log < 2 ^ 32 ∧ ¬ FreshHeals s.1.log := by
  have hx : ((linkTasks false).machine.exec (.boot, .done ()) deafHeals).map (·.1.1.1.log) =
      some deafLog := by decide +kernel
  obtain ⟨⟨⟨s, p⟩, tr⟩, he, hlog⟩ := Option.map_eq_some_iff.mp hx
  change s.1.log = deafLog at hlog
  refine ⟨tr, s, p, Machine.run_of_exec he, hlog ▸ by decide, hlog ▸ fun h => ?_⟩
  -- the second heal has met nothing new
  obtain ⟨j, hj, hn⟩ := h 8 .failed rfl
  have hge : 7 ≤ j := by
    by_contra hlt
    exact hj.2 7 (Nat.lt_of_not_le hlt) rfl
  have hlt : j < 8 := hj.lt
  obtain rfl : j = 7 := by omega
  exact absurd hn (by decide)

/-- A burst, a heal, a single misframed header, and a check that leaves it. -/
def healedOnce : List (TaskAct LinkIrq LinkOp) := burst ++ checkFor 9 ++ misframe :: checkFor 4

/-- What is seen of it. -/
def healedLog : List LinkEv :=
  [.reinit .other .opened, .transfer true, .transfer true, .transfer true, .resyncCheck,
    .reinit .resync .opened, .transfer true, .resyncCheck]

theorem resync_heals_fresh_once :
    ∃ tr s p, (linkTasks false).machine.Run (.boot, .done ()) tr (s, p) ∧
      LinkEv.reinit .resync .opened ∈ s.1.log ∧ FreshHeals s.1.log := by
  have hx : ((linkTasks false).machine.exec (.boot, .done ()) healedOnce).map (·.1.1.1.log) =
      some healedLog := by decide +kernel
  obtain ⟨⟨⟨s, p⟩, tr⟩, he, hlog⟩ := Option.map_eq_some_iff.mp hx
  change s.1.log = healedLog at hlog
  have hr := Machine.run_of_exec he
  have hnone : ∀ j < 8, healedLog[j]? = some .resyncCheck → lingers (healedLog.take j) = false := by
    decide
  refine ⟨tr, s, p, hr, hlog ▸ by decide, resync_heals_fresh hr (hlog ▸ by decide) ?_⟩
  rw [hlog]
  exact fun j hj => hnone j (List.getElem?_eq_some_iff.mp hj).1 hj

end Cc3501eBridge
