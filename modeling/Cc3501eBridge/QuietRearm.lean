import Cc3501eBridge.LinkHeal

/-!
# The silence of a connect is healed at most once

A re-arm on silence closes and re-opens a slave the host may be about to clock, so it must not repeat
itself.  `link_quiet_rearm_tick` fires once per episode: `EpisodeInv` is that a shot is either still
pending, with the count it was fired at, or the count has been seen to differ since.

Within a connect `cc3501e_hw_link_heal` asks for more, a transfer since the connect began and no shot
yet.  `QuietInv` ties its two variables to the history: the count that was recorded is the one of
the latest beginning, a transfer has landed since if the count is another now, and no shot was fired
since as long as the flag is down.
-/

namespace Cc3501eBridge

open Trace Prog

/-! ## The detector -/

/-- The arguments of `link_quiet_rearm_tick`. -/
structure QuietInput where
  atIdleHeader : Bool
  quietMs : UInt32
  rearmMs : UInt32
  xferCount : UInt32
  deriving DecidableEq, Repr

/-- A call, and what it returned. -/
abbrev QuietEv : Type := QuietInput × Bool

/-- Calls one after another. -/
def quietDetector : Machine QuietRearm QuietInput QuietEv where
  step st i :=
    let r := linkQuietRearmTick st i.atIdleHeader i.quietMs i.rearmMs i.xferCount
    some (r.2, (i, r.1))

/-- The call returned true. -/
def QuietEv.Fires (e : QuietEv) : Prop := e.2 = true

/-- After event `i` a call has met a count other than that of event `i`. -/
def CountMoved (tr : List QuietEv) (i : Nat) : Prop :=
  ∃ e, tr[i]? = some e ∧ ∃ k, i < k ∧ At (fun e' => e'.1.xferCount ≠ e.1.xferCount) tr k

/-- What is promised of the detector. -/
structure OncePerEpisode (tr : List QuietEv) : Prop where
  /-- Between two shots the count is seen to differ from that of the first. -/
  moved : ∀ i j, i < j → At QuietEv.Fires tr i → At QuietEv.Fires tr j → CountMoved (tr.take (j + 1)) i
  /-- Only at the idle header, and only after the quiet time. -/
  quiet : ∀ e ∈ tr, e.Fires → e.1.atIdleHeader = true ∧ e.1.rearmMs ≤ e.1.quietMs

section

variable {st st' : QuietRearm} {i : QuietInput} {tr : List QuietEv}

/-- What a call does. -/
theorem linkQuietRearmTick_cases (st : QuietRearm) (i : QuietInput) {b : Bool} {st' : QuietRearm}
    (h : linkQuietRearmTick st i.atIdleHeader i.quietMs i.rearmMs i.xferCount = (b, st')) :
    (b = false ∧ st' = st ∧ (st.healedPending = true → i.xferCount = st.healFiredXferCount)) ∨
      ((st.healedPending = true → i.xferCount ≠ st.healFiredXferCount) ∧
        ((b = false ∧ st'.healedPending = false) ∨
          (b = true ∧ i.atIdleHeader = true ∧ i.rearmMs ≤ i.quietMs ∧
            st' = ⟨true, i.xferCount⟩))) := by
  unfold linkQuietRearmTick at h
  by_cases hp : st.healedPending = true ∧ i.xferCount = st.healFiredXferCount
  · rw [if_pos hp] at h
    obtain ⟨rfl, rfl⟩ := Prod.mk.inj h
    exact .inl ⟨rfl, rfl, fun _ => hp.2⟩
  · rw [if_neg hp] at h
    refine .inr ⟨fun hpend heq => hp ⟨hpend, heq⟩, ?_⟩
    cases hidle : i.atIdleHeader with
    | false =>
        simp only [hidle, Bool.not_false, if_true] at h
        obtain ⟨rfl, rfl⟩ := Prod.mk.inj h
        exact .inl ⟨rfl, rfl⟩
    | true =>
        simp only [hidle, Bool.not_true, Bool.false_eq_true, if_false] at h
        by_cases hq : i.quietMs < i.rearmMs
        · rw [if_pos hq] at h
          obtain ⟨rfl, rfl⟩ := Prod.mk.inj h
          exact .inl ⟨rfl, rfl⟩
        · rw [if_neg hq] at h
          obtain ⟨rfl, rfl⟩ := Prod.mk.inj h
          exact .inr ⟨rfl, rfl, UInt32.not_lt.mp hq, rfl⟩

/-- A shot is pending, or the count has moved since. -/
def EpisodeInv (tr : List QuietEv) (st : QuietRearm) : Prop :=
  ∀ j e, tr[j]? = some e → e.Fires →
    CountMoved tr j ∨ st.healedPending = true ∧ st.healFiredXferCount = e.1.xferCount

theorem CountMoved.snoc {j : Nat} {e : QuietEv} (h : CountMoved tr j) :
    CountMoved (tr ++ [e]) j := by
  obtain ⟨e', he', k, hk, hne⟩ := h
  have hlt : j < tr.length := (List.getElem?_eq_some_iff.mp he').1
  exact ⟨e', by rw [List.getElem?_append_left hlt, he'], k, hk, hne.snoc⟩

/-- Unless the call meets the count of the pending shot, the count has moved since every shot. -/
theorem EpisodeInv.moved {j : Nat} {e e' : QuietEv} (h : EpisodeInv tr st)
    (hi : st.healedPending = true → e'.1.xferCount ≠ st.healFiredXferCount)
    (hj : tr[j]? = some e) (hf : e.Fires) : CountMoved (tr ++ [e']) j := by
  rcases h j e hj hf with hm | ⟨hpend, hcount⟩
  · exact hm.snoc
  · have hlt : j < tr.length := (List.getElem?_eq_some_iff.mp hj).1
    exact ⟨e, by rw [List.getElem?_append_left hlt, hj], tr.length, hlt,
      at_last (hcount ▸ hi hpend)⟩

theorem EpisodeInv.step {b : Bool} (h : EpisodeInv tr st)
    (hs : linkQuietRearmTick st i.atIdleHeader i.quietMs i.rearmMs i.xferCount = (b, st')) :
    EpisodeInv (tr ++ [(i, b)]) st' := by
  intro j e hj hf
  rcases Nat.lt_or_ge j tr.length with hlt | hge
  · rw [List.getElem?_append_left hlt] at hj
    obtain ⟨-, rfl, -⟩ | ⟨hne, -⟩ := linkQuietRearmTick_cases st i hs
    · exact (h j e hj hf).imp_left CountMoved.snoc
    · exact .inl (h.moved hne hj hf)
  · -- the new call
    have hjlt : j < (tr ++ [(i, b)]).length := (List.getElem?_eq_some_iff.mp hj).1
    obtain rfl : j = tr.length := by
      rw [List.length_append, List.length_singleton] at hjlt
      omega
    obtain rfl : (i, b) = e := by simpa using hj
    obtain ⟨rfl, -⟩ | ⟨-, ⟨rfl, -⟩ | ⟨-, -, -, rfl⟩⟩ := linkQuietRearmTick_cases st i hs
    · exact absurd hf Bool.false_ne_true
    · exact absurd hf Bool.false_ne_true
    · exact .inr ⟨rfl, rfl⟩

theorem OncePerEpisode.step {b : Bool} (h : OncePerEpisode tr) (hi : EpisodeInv tr st)
    (hs : linkQuietRearmTick st i.atIdleHeader i.quietMs i.rearmMs i.xferCount = (b, st')) :
    OncePerEpisode (tr ++ [(i, b)]) where
  moved j k hjk hj hk := by
    rcases at_snoc.mp hk with hk | ⟨rfl, hfire⟩
    · have hklt : k + 1 ≤ tr.length := hk.lt
      rw [List.take_append_of_le_length hklt]
      rcases at_snoc.mp hj with hj | ⟨rfl, -⟩
      · exact h.moved j k hjk hj hk
      · omega
    · rw [List.take_of_length_le (by simp)]
      obtain ⟨rfl, -⟩ | ⟨hne, -⟩ := linkQuietRearmTick_cases st i hs
      · exact absurd hfire Bool.false_ne_true
      · rcases at_snoc.mp hj with ⟨e, he, hf⟩ | ⟨rfl, -⟩
        · exact hi.moved hne he hf
        · omega
  quiet e he hf := by
    rcases List.mem_append.mp he with he | he
    · exact h.quiet e he hf
    · obtain rfl : e = (i, b) := List.mem_singleton.mp he
      obtain ⟨rfl, -⟩ | ⟨-, ⟨rfl, -⟩ | ⟨-, hidle, hquiet, -⟩⟩ := linkQuietRearmTick_cases st i hs
      · exact absurd hf Bool.false_ne_true
      · exact absurd hf Bool.false_ne_true
      · exact ⟨hidle, hquiet⟩

/-- Whatever state its latch is in, the detector fires once per episode. -/
theorem quietDetector_once {st₀ : QuietRearm} (hr : quietDetector.Run st₀ tr st) :
    OncePerEpisode tr := by
  have hinv : OncePerEpisode tr ∧ EpisodeInv tr st := by
    refine Machine.Run.invariant (P := fun tr st => OncePerEpisode tr ∧ EpisodeInv tr st) hr ?_ ?_
    · exact ⟨⟨fun i j _ hi => absurd hi not_at_nil, nofun⟩, fun j e hj => by simp at hj⟩
    · rintro tr st i st' e ⟨honce, hepisode⟩ hstep
      obtain ⟨rfl, rfl⟩ := Prod.mk.inj (Option.some.inj hstep)
      exact ⟨honce.step hepisode rfl, hepisode.step rfl⟩
  exact hinv.1

end

/-! ## The connect -/

namespace LinkEv

def IsTransfer (e : LinkEv) : Prop := ∃ misframed, e = .transfer misframed

def IsBegin (e : LinkEv) : Prop := ∃ x, e = .beginConnect x

/-- A re-arm on silence. -/
def IsQuietRearm (e : LinkEv) : Prop := ∃ x out, e = .reinit (.quiet x) out

end LinkEv

open LinkEv

/-- The latest beginning of a connect, and the count it recorded. -/
def BeganAt (log : List LinkEv) (i : Nat) (x : UInt32) : Prop :=
  log[i]? = some (.beginConnect x) ∧ ∀ j, i < j → ¬ At IsBegin log j

/-- After event `i`, no re-arm on silence. -/
def NotRearmed (log : List LinkEv) (i : Nat) : Prop := ∀ j, i < j → ¬ At IsQuietRearm log j

/-- After event `i`, a transfer. -/
def Transferred (log : List LinkEv) (i : Nat) : Prop := ∃ j, i < j ∧ At IsTransfer log j

/-- Every re-arm on silence is the first of its connect, comes after a transfer in it, and was
consulted about with another count than that at its beginning. -/
def RearmedOnce (log : List LinkEv) : Prop :=
  ∀ k seen out i x, log[k]? = some (.reinit (.quiet seen) out) → BeganAt (log.take k) i x →
    seen ≠ x ∧ Transferred (log.take k) i ∧ NotRearmed (log.take k) i

section

variable {log : List LinkEv} {e : LinkEv} {s s' : LinkState} {i : Nat} {x : UInt32}

theorem beganAt_snoc (he : ¬ e.IsBegin) : BeganAt (log ++ [e]) i x ↔ BeganAt log i x := by
  constructor
  · rintro ⟨hi, hno⟩
    have hat : At IsBegin (log ++ [e]) i := ⟨_, hi, x, rfl⟩
    rcases at_snoc.mp hat with hat | ⟨-, h⟩
    · rw [List.getElem?_append_left hat.lt] at hi
      exact ⟨hi, fun j hij hj => hno j hij hj.snoc⟩
    · exact absurd h he
  · rintro ⟨hi, hno⟩
    refine ⟨?_, fun j hij hj => ?_⟩
    · rw [List.getElem?_append_left (List.getElem?_eq_some_iff.mp hi).1, hi]
    · rcases at_snoc.mp hj with hj | ⟨-, h⟩
      · exact hno j hij hj
      · exact he h

theorem BeganAt.lt (h : BeganAt log i x) : i < log.length := (List.getElem?_eq_some_iff.mp h.1).1

/-- A beginning is the latest. -/
theorem beganAt_last {y : UInt32} (h : BeganAt (log ++ [.beginConnect y]) i x) :
    i = log.length ∧ x = y := by
  have hlast : At IsBegin (log ++ [.beginConnect y]) log.length := at_last ⟨y, rfl⟩
  have hge : log.length ≤ i := by
    by_contra hlt
    exact h.2 _ (Nat.lt_of_not_le hlt) hlast
  have hlt := h.lt
  rw [List.length_append, List.length_singleton] at hlt
  obtain rfl : i = log.length := by omega
  have hi := h.1
  rw [List.getElem?_concat_length] at hi
  exact ⟨rfl, by cases hi; rfl⟩

theorem NotRearmed.snoc (h : NotRearmed log i) (he : ¬ e.IsQuietRearm) :
    NotRearmed (log ++ [e]) i := by
  intro j hij hj
  rcases at_snoc.mp hj with hj | ⟨-, hr⟩
  · exact h j hij hj
  · exact he hr

theorem Transferred.snoc (h : Transferred log i) : Transferred (log ++ [e]) i := by
  obtain ⟨j, hij, hj⟩ := h
  exact ⟨j, hij, hj.snoc⟩

/-- An event that is no re-arm on silence. -/
theorem RearmedOnce.snoc (h : RearmedOnce log) (he : ¬ e.IsQuietRearm) :
    RearmedOnce (log ++ [e]) := by
  intro k seen out i x hk hb
  have hat : At IsQuietRearm (log ++ [e]) k := ⟨_, hk, seen, out, rfl⟩
  rcases at_snoc.mp hat with hat | ⟨-, hr⟩
  · rw [List.getElem?_append_left hat.lt] at hk
    rw [List.take_append_of_le_length (Nat.le_of_lt hat.lt)] at hb ⊢
    exact h k seen out i x hk hb
  · exact absurd hr he

/-- A re-arm on silence. -/
theorem RearmedOnce.rearm {seen : UInt32} {out : ReinitOutcome} (h : RearmedOnce log)
    (hb : ∀ i x, BeganAt log i x → seen ≠ x ∧ Transferred log i ∧ NotRearmed log i) :
    RearmedOnce (log ++ [.reinit (.quiet seen) out]) := by
  intro k seen' out' i x hk hbegan
  rcases Nat.lt_or_ge k log.length with hlt | hge
  · rw [List.getElem?_append_left hlt] at hk
    rw [List.take_append_of_le_length (Nat.le_of_lt hlt)] at hbegan ⊢
    exact h k seen' out' i x hk hbegan
  · have hklt := (List.getElem?_eq_some_iff.mp hk).1
    rw [List.length_append, List.length_singleton] at hklt
    obtain rfl : k = log.length := by omega
    rw [List.getElem?_concat_length] at hk
    cases hk
    rw [List.take_left] at hbegan ⊢
    exact hb i x hbegan

/-! ### What holds while the healing runs -/

/-- What the healing knows of the connect, but for its flag. -/
structure QuietSeen (s : LinkState) : Prop where
  once : RearmedOnce s.1.log
  after : ∀ i x, BeganAt s.1.log i x → s.2.quietArmAfterXferCount = x
  moved : ∀ i x, BeganAt s.1.log i x → s.1.xferCount ≠ x → Transferred s.1.log i

/-- Between two bodies. -/
structure QuietInv (s : LinkState) : Prop where
  seen : QuietSeen s
  armed : s.2.quietFiredThisCall = false → ∀ i x, BeganAt s.1.log i x → NotRearmed s.1.log i

/-- The detector may be consulted, with the count `x`. -/
structure Consulted (x : UInt32) (s : LinkState) : Prop where
  inv : QuietInv s
  unfired : s.2.quietFiredThisCall = false
  began : ∀ i y, BeganAt s.1.log i y → x ≠ y → Transferred s.1.log i

/-- The detector is consulted. -/
structure Ready (x : UInt32) (s : LinkState) : Prop extends Consulted x s where
  ne : x ≠ s.2.quietArmAfterXferCount

theorem QuietSeen.logged (h : QuietSeen s) (hlog : s'.1.log = s.1.log ++ [e])
    (hb : ¬ e.IsBegin) (hr : ¬ e.IsQuietRearm)
    (hx : e.IsTransfer ∨ s'.1.xferCount = s.1.xferCount)
    (ha : s'.2.quietArmAfterXferCount = s.2.quietArmAfterXferCount) : QuietSeen s' where
  once := hlog ▸ h.once.snoc hr
  after i x hi := by
    rw [hlog, beganAt_snoc hb] at hi
    exact ha.trans (h.after i x hi)
  moved i x hi hne := by
    rw [hlog, beganAt_snoc hb] at hi
    rw [hlog]
    rcases hx with ht | hx
    · exact ⟨_, hi.lt, at_last ht⟩
    · exact (h.moved i x hi (hx ▸ hne)).snoc

theorem QuietInv.logged (h : QuietInv s) (hlog : s'.1.log = s.1.log ++ [e])
    (hb : ¬ e.IsBegin) (hr : ¬ e.IsQuietRearm)
    (hx : e.IsTransfer ∨ s'.1.xferCount = s.1.xferCount)
    (ha : s'.2.quietArmAfterXferCount = s.2.quietArmAfterXferCount)
    (hf : s'.2.quietFiredThisCall = s.2.quietFiredThisCall) : QuietInv s' where
  seen := h.seen.logged hlog hb hr hx ha
  armed hfired i x hi := by
    rw [hlog, beganAt_snoc hb] at hi
    rw [hlog]
    exact (h.armed (hf ▸ hfired) i x hi).snoc hr

theorem QuietSeen.kept (h : QuietSeen s) (hlog : s'.1.log = s.1.log)
    (hx : s'.1.xferCount = s.1.xferCount)
    (ha : s'.2.quietArmAfterXferCount = s.2.quietArmAfterXferCount) : QuietSeen s' where
  once := hlog ▸ h.once
  after i x hi := ha.trans (h.after i x (hlog ▸ hi))
  moved i x hi hne := by
    rw [hlog] at hi ⊢
    exact h.moved i x hi (hx ▸ hne)

theorem QuietInv.kept (h : QuietInv s) (hlog : s'.1.log = s.1.log)
    (hx : s'.1.xferCount = s.1.xferCount)
    (ha : s'.2.quietArmAfterXferCount = s.2.quietArmAfterXferCount)
    (hf : s'.2.quietFiredThisCall = s.2.quietFiredThisCall) : QuietInv s' where
  seen := h.seen.kept hlog hx ha
  armed hfired i x hi := by
    rw [hlog] at hi ⊢
    exact h.armed (hf ▸ hfired) i x hi

theorem not_isBegin_transfer {m : Bool} : ¬ (LinkEv.transfer m).IsBegin := by
  rintro ⟨x, hx⟩
  cases hx

theorem not_isQuietRearm_transfer {m : Bool} : ¬ (LinkEv.transfer m).IsQuietRearm := by
  rintro ⟨x, out, hx⟩
  cases hx

variable {polled : Bool}

theorem QuietSeen.interrupt (irq : LinkIrq) (s : LinkState) (h : QuietSeen s) :
    QuietSeen ((linkTasks polled).interrupt irq s) := by
  rcases irq.run_cases s.1 with ⟨m, hlog, -⟩ | ⟨hlog, hx, -⟩
  · exact h.logged hlog not_isBegin_transfer not_isQuietRearm_transfer (.inl ⟨m, rfl⟩) rfl
  · exact h.kept hlog hx rfl

theorem QuietInv.interrupt (irq : LinkIrq) (s : LinkState) (h : QuietInv s) :
    QuietInv ((linkTasks polled).interrupt irq s) := by
  rcases irq.run_cases s.1 with ⟨m, hlog, -⟩ | ⟨hlog, hx, -⟩
  · exact h.logged hlog not_isBegin_transfer not_isQuietRearm_transfer (.inl ⟨m, rfl⟩) rfl rfl
  · exact h.kept hlog hx rfl rfl

theorem Consulted.interrupt (irq : LinkIrq) (s : LinkState) (h : Consulted x s) :
    Consulted x ((linkTasks polled).interrupt irq s) := by
  refine ⟨h.inv.interrupt irq s, h.unfired, ?_⟩
  intro i y hi hne
  change BeganAt (irq.run s.1).log i y at hi
  change Transferred (irq.run s.1).log i
  rcases irq.run_cases s.1 with ⟨m, hlog, -⟩ | ⟨hlog, -⟩
  · rw [hlog, beganAt_snoc not_isBegin_transfer] at hi
    rw [hlog]
    exact (h.began i y hi hne).snoc
  · rw [hlog] at hi ⊢
    exact h.began i y hi hne

theorem Ready.interrupt (irq : LinkIrq) (s : LinkState) (h : Ready x s) :
    Ready x ((linkTasks polled).interrupt irq s) := ⟨h.toConsulted.interrupt irq s, h.ne⟩

/-! ### The bodies -/

theorem spiReinit_preserves {cause : HealCause} (hc : ∀ x, cause ≠ .quiet x) :
    (spiReinit polled cause).Preserves QuietInv := by
  refine preserves_modify fun s h => h.logged (e := .reinit cause _) rfl ?_ ?_ (.inr rfl) rfl rfl
  · rintro ⟨x, hx⟩
    cases hx
  · rintro ⟨x, out, hx⟩
    cases hx
    exact hc x rfl

theorem healing_preserves {f : LinkHealing → LinkHealing}
    (ha : ∀ h, (f h).quietArmAfterXferCount = h.quietArmAfterXferCount)
    (hf : ∀ h, (f h).quietFiredThisCall = h.quietFiredThisCall) :
    (healing f).Preserves QuietInv :=
  preserves_modify fun s h => h.kept rfl rfl (ha s.2) (hf s.2)

theorem resyncHeal_preserves : (resyncHeal polled).Preserves QuietInv := by
  have hsnap : resyncSnapshot.Preserves QuietInv := by
    refine preserves_atomically fun s h => h.logged (e := .resyncCheck) rfl ?_ ?_ (.inr rfl) rfl rfl
    · rintro ⟨x, hx⟩
      cases hx
    · rintro ⟨x, out, hx⟩
      cases hx
  have hlast : ∀ v, (healing ({ · with lastResync := v })).Preserves QuietInv := fun _ =>
    healing_preserves (fun _ => rfl) fun _ => rfl
  refine hsnap.bind fun rc => (preserves_get _).bind fun last => ?_
  refine (preserves_onlyIf (hlast 0)).bind fun _ => (preserves_get _).bind fun last => ?_
  exact preserves_ite ((spiReinit_preserves (by simp)).bind fun _ => hlast 0) (hlast rc)

theorem armFailHeal_preserves : (armFailHeal polled).Preserves QuietInv := by
  refine (preserves_get _).bind fun af => (preserves_get _).bind fun last => preserves_onlyIf ?_
  exact (spiReinit_preserves (by simp)).bind fun _ => healing_preserves (fun _ => rfl) fun _ => rfl

/-- A shot. -/
theorem Ready.fired (polled : Bool) (h : Ready x s) :
    QuietSeen (s.1.hwReinit polled (.quiet x), s.2) := by
  have hb : ∀ out, ¬ (LinkEv.reinit (.quiet x) out).IsBegin := by
    rintro out ⟨y, hy⟩
    cases hy
  have hne : ∀ i y, BeganAt s.1.log i y → x ≠ y := fun i y hi => h.inv.seen.after i y hi ▸ h.ne
  constructor
  · exact h.inv.seen.once.rearm fun i y hi =>
      ⟨hne i y hi, h.began i y hi (hne i y hi), h.inv.armed h.unfired i y hi⟩
  · intro i y hi
    exact h.inv.seen.after i y ((beganAt_snoc (hb _)).mp hi)
  · intro i y hi hx
    exact (h.inv.seen.moved i y ((beganAt_snoc (hb _)).mp hi) hx).snoc

theorem Ready.ticked (h : Ready x s) (st : QuietRearm) :
    Ready x (s.1, { s.2 with quietState := st }) :=
  ⟨⟨h.inv.kept rfl rfl rfl rfl, h.unfired, h.began⟩, h.ne⟩

/-- With the flag raised, nothing more is to be known. -/
theorem QuietSeen.flagged {t : LinkHealing} (h : QuietSeen s)
    (ha : t.quietArmAfterXferCount = s.2.quietArmAfterXferCount)
    (hf : t.quietFiredThisCall = true) : QuietInv (s.1, t) :=
  ⟨h.kept rfl rfl ha, fun hn => absurd (hf.symm.trans hn) (by decide)⟩

theorem quietHeal_holds (h : QuietInv s) :
    (quietHeal polled).Holds (linkTasks polled).Interrupted (fun s => RearmedOnce s.1.log)
      (fun _ => QuietInv) s := by
  have hseen : ∀ s s', (linkTasks polled).Interrupted s s' → QuietSeen s → QuietSeen s' :=
    fun s s' hs => hs.preserves QuietSeen.interrupt
  have hinv : ∀ s s', (linkTasks polled).Interrupted s s' → QuietInv s → QuietInv s' :=
    fun s s' hs => hs.preserves QuietInv.interrupt
  have hcons : ∀ x s s', (linkTasks polled).Interrupted s s' → Consulted x s → Consulted x s' :=
    fun x s s' hs => hs.preserves Consulted.interrupt
  have hready : ∀ x s s', (linkTasks polled).Interrupted s s' → Ready x s → Ready x s' :=
    fun x s s' hs => hs.preserves Ready.interrupt
  refine Holds.get_bind fun s₁ hs₁ => ?_
  have h₁ := hinv _ _ hs₁ h
  refine ⟨h₁.seen.once, Holds.onlyIf (fun hfired => ?_) fun _ s' hs' => hinv _ _ hs' h₁⟩
  have hdown : s₁.2.quietFiredThisCall = false := by simpa using hfired
  refine Holds.get_bind fun s₂ hs₂ => ?_
  have h₂ := hinv _ _ hs₂ h₁
  have hdown₂ : s₂.2.quietFiredThisCall = false := by rw [healing_of_interrupted hs₂, hdown]
  have hc₂ : Consulted s₂.1.xferCount s₂ := ⟨h₂, hdown₂, h₂.seen.moved⟩
  refine ⟨h₂.seen.once, Holds.get_bind fun s₃ hs₃ => ?_⟩
  have hc₃ := hcons _ _ _ hs₃ hc₂
  refine ⟨hc₃.inv.seen.once, Holds.onlyIf (fun hne => ?_) fun _ s' hs' => hinv _ _ hs' hc₃.inv⟩
  have hr₃ : Ready s₂.1.xferCount s₃ := ⟨hc₃, by simpa using hne⟩
  refine Holds.get_bind fun s₄ hs₄ => ?_
  have hr₄ := hready _ _ _ hs₄ hr₃
  refine ⟨hr₄.inv.seen.once, Holds.get_bind fun s₅ hs₅ => ?_⟩
  have hr₅ := hready _ _ _ hs₅ hr₄
  refine ⟨hr₅.inv.seen.once, Holds.get_bind fun s₆ hs₆ => ?_⟩
  have hr₆ := hready _ _ _ hs₆ hr₅
  refine ⟨hr₆.inv.seen.once, Holds.atomically_bind fun s₇ hs₇ => ?_⟩
  have hr₇ := hready _ _ _ hs₇ hr₆
  refine ⟨hr₇.inv.seen.once, Holds.onlyIf (fun _ => ?_) fun _ s' hs' =>
    hinv _ _ hs' (hr₇.ticked _).inv⟩
  refine Holds.modify_bind fun s₈ hs₈ => ?_
  have hf := (hready _ _ _ hs₈ (hr₇.ticked _)).fired polled
  refine ⟨hf.once, fun s₉ hs₉ => ?_⟩
  have hf₉ := hseen _ _ hs₉ hf
  exact ⟨hf₉.once, fun s' hs' => hinv _ _ hs' (hf₉.flagged rfl rfl)⟩

theorem linkHeal_holds (inConnectWait : Bool) (h : QuietInv s) :
    (linkHeal polled inConnectWait).Holds (linkTasks polled).Interrupted
      (fun s => RearmedOnce s.1.log) (fun _ => QuietInv) s := by
  have hinv : ∀ s s', (linkTasks polled).Interrupted s s' → QuietInv s → QuietInv s' :=
    fun s s' hs => hs.preserves QuietInv.interrupt
  have honce : ∀ s, QuietInv s → RearmedOnce s.1.log := fun _ h => h.seen.once
  refine (preserves_get _).holds_bind hinv honce (fun dead s₁ h₁ => ?_) h
  refine (preserves_onlyIf (spiReinit_preserves (by simp))).holds_bind hinv honce
    (fun _ s₂ h₂ => ?_) h₁
  refine resyncHeal_preserves.holds_bind hinv honce (fun _ s₃ h₃ => ?_) h₂
  refine armFailHeal_preserves.holds_bind hinv honce (fun _ s₄ h₄ => ?_) h₃
  refine (preserves_get _).holds_bind hinv honce (fun stalled s₅ h₅ => ?_) h₄
  refine (preserves_onlyIf (spiReinit_preserves (by simp))).holds_bind hinv honce
    (fun _ s₆ h₆ => ?_) h₅
  exact Holds.onlyIf (fun _ => quietHeal_holds h₆) fun _ s' hs' => hinv _ _ hs' h₆

/-- The count `x` of the beginning has been read. -/
structure Beginning (x : UInt32) (s : LinkState) : Prop where
  once : RearmedOnce s.1.log
  began : ∀ i y, BeganAt s.1.log i y →
    y = x ∧ (s.1.xferCount ≠ x → Transferred s.1.log i) ∧ NotRearmed s.1.log i

theorem Beginning.interrupt (irq : LinkIrq) (s : LinkState) (h : Beginning x s) :
    Beginning x ((linkTasks polled).interrupt irq s) := by
  rcases irq.run_cases s.1 with ⟨m, hlog, -⟩ | ⟨hlog, hx, -⟩
  · refine ⟨?_, fun i y hi => ?_⟩
    · exact hlog ▸ h.once.snoc not_isQuietRearm_transfer
    · change BeganAt (irq.run s.1).log i y at hi
      rw [hlog, beganAt_snoc not_isBegin_transfer] at hi
      obtain ⟨rfl, -, hno⟩ := h.began i y hi
      change _ ∧ (_ → Transferred (irq.run s.1).log i) ∧ NotRearmed (irq.run s.1).log i
      rw [hlog]
      exact ⟨rfl, fun _ => ⟨_, hi.lt, at_last ⟨m, rfl⟩⟩, hno.snoc not_isQuietRearm_transfer⟩
  · refine ⟨?_, fun i y hi => ?_⟩
    · exact hlog ▸ h.once
    · change BeganAt (irq.run s.1).log i y at hi
      rw [hlog] at hi
      obtain ⟨rfl, hmoved, hno⟩ := h.began i y hi
      change _ ∧ ((irq.run s.1).xferCount ≠ y → Transferred (irq.run s.1).log i) ∧
        NotRearmed (irq.run s.1).log i
      rw [hlog, hx]
      exact ⟨rfl, hmoved, hno⟩

theorem linkHealBeginConnect_holds (h : QuietInv s) :
    linkHealBeginConnect.Holds (linkTasks polled).Interrupted (fun s => RearmedOnce s.1.log)
      (fun _ => QuietInv) s := by
  have hinv : ∀ s s', (linkTasks polled).Interrupted s s' → QuietInv s → QuietInv s' :=
    fun s s' hs => hs.preserves QuietInv.interrupt
  have hbeg : ∀ x s s', (linkTasks polled).Interrupted s s' → Beginning x s → Beginning x s' :=
    fun x s s' hs => hs.preserves Beginning.interrupt
  refine Holds.atomically_bind fun s₁ hs₁ => ?_
  have h₁ := hinv _ _ hs₁ h
  have hb₁ : Beginning s₁.1.xferCount (s₁.1.logged (.beginConnect s₁.1.xferCount), s₁.2) := by
    refine ⟨h₁.seen.once.snoc ?_, fun i y hi => ?_⟩
    · rintro ⟨y, out, hy⟩
      cases hy
    · obtain ⟨rfl, rfl⟩ := beganAt_last hi
      refine ⟨rfl, fun hne => absurd rfl hne, fun j hij hj => ?_⟩
      have hlt := hj.lt
      simp only [LinkSlave.logged, List.length_append, List.length_singleton] at hlt
      omega
  refine ⟨hb₁.once, Holds.modify_bind fun s₂ hs₂ => ?_⟩
  have hb₂ := hbeg _ _ _ hs₂ hb₁
  refine ⟨hb₂.once, fun s₃ hs₃ => ?_⟩
  have hafter : s₃.2.quietArmAfterXferCount = s₁.1.xferCount := by rw [healing_of_interrupted hs₃]
  have hb₃ : Beginning s₁.1.xferCount s₃ := hbeg _ _ _ hs₃ ⟨hb₂.once, hb₂.began⟩
  refine ⟨hb₃.once, fun s' hs' => hinv _ _ hs' ⟨⟨hb₃.once, ?_, ?_⟩, ?_⟩⟩
  · exact fun i y hi => hafter.trans (hb₃.began i y hi).1.symm
  · rintro i y hi
    obtain ⟨rfl, hmoved, -⟩ := hb₃.began i y hi
    exact hmoved
  · exact fun _ i y hi => (hb₃.began i y hi).2.2

/-- Every body. -/
theorem linkOp_connect (k : LinkOp) (s : LinkState) (h : QuietInv s) :
    ((linkTasks polled).body k).Holds (linkTasks polled).Interrupted
      (fun s => RearmedOnce s.1.log) (fun _ => QuietInv) s := by
  have hinv : ∀ s s', (linkTasks polled).Interrupted s s' → QuietInv s → QuietInv s' :=
    fun s s' hs => hs.preserves QuietInv.interrupt
  have honce : ∀ s, QuietInv s → RearmedOnce s.1.log := fun _ h => h.seen.once
  cases k with
  | heal inConnectWait => exact linkHeal_holds inConnectWait h
  | beginConnect => exact linkHealBeginConnect_holds h
  | reinit =>
      exact ((spiReinit_preserves (by simp)).holds hinv h).mono honce fun _ _ h => h
  | release =>
      refine (Preserves.holds (preserves_modify fun s h => ?_) hinv h).mono honce fun _ _ h => h
      refine h.kept ?_ ?_ rfl rfl
      · exact s.1.hwRelease_log polled
      · exact s.1.hwRelease_xferCount polled

theorem QuietInv.boot : QuietInv .boot := by
  have hno : ∀ i x, ¬ BeganAt LinkState.boot.1.log i x := fun i x h =>
    absurd h.lt (by simp [LinkState.boot])
  refine ⟨⟨fun k seen out i x hk => by simp [LinkState.boot] at hk, ?_, ?_⟩, ?_⟩
  · exact fun i x hi => absurd hi (hno i x)
  · exact fun i x hi => absurd hi (hno i x)
  · exact fun _ i x hi => absurd hi (hno i x)

/-- The detector fires once per episode, at the idle header and after the quiet time only; and in
every connect the healing re-arms on silence at most once, after a transfer. -/
theorem quiet_rearm_once {st st' : QuietRearm} {tr : List QuietEv} {polled : Bool}
    {acts : List (TaskAct LinkIrq LinkOp)} {s : LinkState} {p : Prog LinkState Unit}
    (hd : quietDetector.Run st tr st')
    (hr : (linkTasks polled).machine.Run (.boot, .done ()) acts (s, p)) :
    OncePerEpisode tr ∧ RearmedOnce s.1.log := by
  refine ⟨quietDetector_once hd, ?_⟩
  refine (Tasks.invariant_run hr (fun _ h => h.seen.once) ?_ QuietInv.interrupt
    linkOp_connect QuietInv.boot).1
  intro irq s h
  rcases irq.run_cases s.1 with ⟨m, hlog, -⟩ | ⟨hlog, -⟩
  · exact hlog ▸ h.snoc not_isQuietRearm_transfer
  · exact hlog ▸ h

end

open TaskAct in
/-- A connect begins, a transfer lands, and four seconds later the healing is called in its wait. -/
def quietConnect : List (TaskAct LinkIrq LinkOp) :=
  call .beginConnect :: List.replicate 3 step ++
    interrupt (.transfer false .reqHeader false false) :: interrupt (.uptime 4000) ::
      call (.heal true) :: List.replicate 17 step

/-- The count at which the detector has fired comes again, and then another one does. -/
def quietCalls : List QuietInput :=
  [⟨true, 2500, 2500, 7⟩, ⟨true, 9000, 2500, 7⟩, ⟨true, 2500, 2500, 8⟩]

theorem quiet_rearm_once_connect : ∃ (tr : List QuietEv) (s : LinkState),
    tr.map Prod.snd = [true, false, true] ∧
    s.1.log = [.beginConnect 0, .transfer false, .resyncCheck, .reinit (.quiet 1) .opened] ∧
    OncePerEpisode tr ∧ RearmedOnce s.1.log := by
  have hd : (quietDetector.exec ⟨false, 0⟩ quietCalls).map (fun x => x.2.map Prod.snd) =
      some [true, false, true] := by decide
  have hr : ((linkTasks false).machine.exec (.boot, .done ()) quietConnect).map
      (fun x => x.1.1.1.log) =
      some [.beginConnect 0, .transfer false, .resyncCheck, .reinit (.quiet 1) .opened] := by
    decide +kernel
  obtain ⟨⟨st, tr⟩, hx, hshots⟩ := Option.map_eq_some_iff.mp hd
  obtain ⟨⟨⟨s, p⟩, acts⟩, hy, hlog⟩ := Option.map_eq_some_iff.mp hr
  exact ⟨tr, s, hshots, hlog,
    quiet_rearm_once (Machine.run_of_exec hx) (Machine.run_of_exec hy)⟩

end Cc3501eBridge
