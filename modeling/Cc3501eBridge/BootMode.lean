import Cc3501eBridge.Ota
import Cc3501eBridge.Reboot
import Cc3501eBridge.Reference

/-!
# The mode of the next boot

The flag that selects update mode lives in memory a warm reset keeps.  `OTA_UPDATE_MODE` sets or clears
it when the requested mode is not the running one, a successful `FINISH` and every `PROMOTE` clear it,
and the first query of a boot reads and clears it.

A request for the running mode is answered `OK` and does nothing: the host confirms its entry into a
mode by asking for it again.  So it is the last request for a change that decides the next boot, and a
confirmation in update mode does not make the boot after it another one in update mode.
-/

namespace Cc3501eBridge

variable {ρ : Type}

open Trace

/-! ## The machine -/

/-- What can happen next. -/
inductive BootAct (ρ : Type)
  | dispatch (cmd flags : UInt8) (req : List UInt8) (cap : Nat)
  | /-- The pump is done with an operation. -/
    pumped (op : OtaOp) (rc : Int)
  | /-- The rest of the firmware moves; the latches are not its own. -/
    rest (fw : Fw (Reboot × ρ))
  | /-- A reset that keeps the memory, with what the rest of the HAL starts from. -/
    warm (rest : ρ)
  | /-- The power comes up, with any contents of the memory. -/
    powerUp (p : Persist) (rest : ρ)

/-- What a step shows. -/
inductive BootEv
  | /-- `OTA_UPDATE_MODE` was answered `OK`: the mode asked for and the running one, update mode being
    `true`. -/
    mode (want running : Bool)
  | /-- A successful `FINISH` or `PROMOTE`. -/
    disarmed
  | /-- A warm boot, and whether it came up in update mode. -/
    warm (update : Bool)
  | /-- A boot from power-up. -/
    powerUp (p : Persist) (update : Bool)
  | tau
  deriving DecidableEq, Repr

/-- What a dispatch shows. -/
def dispatchShown (H : Header) (cmd : UInt8) (req : List UInt8) (running : Bool) (reply : Reply) :
    BootEv :=
  if reply.status = .ok then
    match H.decode cmd with
    | some .otaUpdateMode => .mode (byteAt req 0 = 1) running
    | some .otaPromote => .disarmed
    | _ => .tau
  else .tau

/-- The end of `cc3501e_hw_ota_pump`: a successful `FINISH` clears the flag. -/
def hwOtaPumped (w : Bool) (op : OtaOp) (rc : Int) (h : Reboot) : Reboot :=
  if op = .finish ∧ rc = hwOk then (spiClearPolledBoot w h).2 else h

/-- One step. -/
def bootStep (E : Env ρ) (w : Bool) (fw : Fw (Reboot × ρ)) :
    BootAct ρ → Option (Fw (Reboot × ρ) × BootEv)
  | .dispatch cmd flags req cap =>
      let (fw', reply) := protocolDispatch (E.withReboot w) fw cmd flags req cap
      some (fw', dispatchShown E.hdr cmd req fw.hal.1.polled reply)
  | .pumped op rc =>
      some ({ fw with hal := (hwOtaPumped w op rc fw.hal.1, fw.hal.2) },
        if op = .finish ∧ rc = hwOk then .disarmed else .tau)
  | .rest fw' => if fw'.hal.1 = fw.hal.1 then some (fw', .tau) else none
  | .warm rest =>
      let h := Reboot.boot w fw.hal.1.persist
      some (.boot (h, rest), .warm h.polled)
  | .powerUp p rest =>
      let h := Reboot.boot w p
      some (.boot (h, rest), .powerUp p h.polled)

/-- The boots of the chip as a machine. -/
def bootSystem (E : Env ρ) (w : Bool) : Machine (Fw (Reboot × ρ)) (BootAct ρ) BootEv where
  step := bootStep E w

/-! ## What the boots are to follow -/

namespace BootEv

/-- A boot of either kind. -/
def IsBoot (e : BootEv) : Prop := (∃ m, e = .warm m) ∨ ∃ p m, e = .powerUp p m

/-- Update mode was asked for in normal mode. -/
def Arms (e : BootEv) : Prop := e = .mode true false

/-- `OTA_UPDATE_MODE` was answered `OK`. -/
def IsMode (e : BootEv) : Prop := ∃ want running, e = .mode want running

/-- The running mode was asked for. -/
def Confirms (e : BootEv) : Prop := ∃ running, e = .mode running running

end BootEv

section

variable (tr : List BootEv)

/-- No event with `p` strictly between two positions. -/
def NoneBetween (p : BootEv → Prop) (i k : Nat) : Prop := ∀ m, i < m → m < k → ¬ At p tr m

/-- Since the boot before `k`, the last request with `p` that was answered `OK` was the last one of all,
and nothing disarmed it. -/
def LastRequest (p : BootEv → Prop) (k : Nat) : Prop :=
  ∃ i < k, At p tr i ∧ NoneBetween tr (fun e => e.IsBoot ∨ e.IsMode ∨ e = .disarmed) i k

/-- Since the boot before `k`, update mode was asked for in normal mode and nothing disarmed it, but the
last request of all asked for the running mode. -/
def Revoked (k : Nat) : Prop :=
  ∃ i j, i < j ∧ j < k ∧ At BootEv.Arms tr i ∧ At BootEv.Confirms tr j ∧
    NoneBetween tr (fun e => e.IsBoot ∨ e = .disarmed) i k ∧ NoneBetween tr BootEv.IsMode j k

/-- A warm boot comes up in update mode exactly if the last request answered `OK` asked for it and was
not disarmed. -/
def FollowsLastRequest : Prop :=
  ∀ k m, At (· = .warm m) tr k →
    (m = true ↔ LastRequest tr (fun e => ∃ running, e = .mode true running) k)

/-- A warm boot comes up in update mode exactly if the last request answered `OK` asked for it in normal
mode and was not disarmed; unless one that did was not disarmed and the running mode was asked for
last. -/
def FollowsLastChange : Prop :=
  ∀ k m, At (· = .warm m) tr k → ¬ Revoked tr k → (m = true ↔ LastRequest tr BootEv.Arms k)

/-- Every warm boot in update mode has a request of its own, made since the boot before it. -/
def ArmedOnce : Prop :=
  ∀ k, At (· = .warm true) tr k →
    ∃ i < k, At BootEv.Arms tr i ∧ NoneBetween tr (fun e => e.IsBoot ∨ e = .disarmed) i k

/-- From power-up only the exact pattern selects update mode. -/
def PowerUpExact (w : Bool) : Prop :=
  ∀ k p m, At (· = .powerUp p m) tr k → (m = true ↔ w = true ∧ p.Armed)

end

/-! ## What a step does to the flag -/

/-- Whether the next warm boot is one in update mode. -/
def Reboot.flag (w : Bool) (h : Reboot) : Bool := w && decide h.persist.Armed

/-- One step, as far as the flag and the mode go. -/
inductive ModeStep (w : Bool) (h : Reboot) : BootEv → Reboot → Prop
  | keep {e : BootEv} {h' : Reboot} : e = .tau ∨ e = .mode h.polled h.polled →
      h'.flag w = h.flag w → h'.polled = h.polled → ModeStep w h e h'
  | change {h' : Reboot} : h'.flag w = !h.polled → h'.polled = h.polled →
      ModeStep w h (.mode (!h.polled) h.polled) h'
  | disarm {h' : Reboot} : h'.flag w = false → h'.polled = h.polled → ModeStep w h .disarmed h'
  | warm {h' : Reboot} : h'.flag w = false → h'.polled = h.flag w → ModeStep w h (.warm (h.flag w)) h'
  | powerUp {h' : Reboot} {p : Persist} : h'.flag w = false → h'.polled = (w && decide p.Armed) →
      ModeStep w h (.powerUp p (w && decide p.Armed)) h'

section

variable {w : Bool} {h : Reboot}

/-- The cleared pattern is not the armed one. -/
theorem Persist.not_armed_clear {p : Persist} (hp : p.magic = 0) : ¬ p.Armed := by
  rintro ⟨h, -⟩
  rw [hp] at h
  exact absurd h (by decide)

@[simp] theorem Reboot.flag_boot (p : Persist) : (Reboot.boot w p).flag w = false := by
  cases w with
  | false => rfl
  | true =>
      have hclear : (Reboot.boot true p).persist.magic = 0 := rfl
      exact decide_eq_false (Persist.not_armed_clear hclear)

@[simp] theorem Reboot.flag_clear : (spiClearPolledBoot w h).2.flag w = false := by
  cases w with
  | false => rfl
  | true =>
      have hclear : (spiClearPolledBoot true h).2.persist.magic = 0 := rfl
      exact decide_eq_false (Persist.not_armed_clear hclear)

@[simp] theorem Reboot.polled_clear : (spiClearPolledBoot w h).2.polled = h.polled := by
  cases w <;> rfl

@[simp] theorem Reboot.bootRead_clear : (spiClearPolledBoot w h).2.bootRead = h.bootRead := by
  cases w <;> rfl

/-- What the handlers do to the latches is a step of the flag. -/
theorem RebootStep.flag {H : Header} {cmd : UInt8} {req : List UInt8} {c : Cmd} {h' : Reboot}
    {reply : Reply} (hc : H.decode cmd = some c) (hb : h.bootRead = true)
    (hs : RebootStep w req h c h' reply.status) :
    ModeStep w h (dispatchShown H cmd req h.polled reply) h' ∧ h'.bootRead = true := by
  unfold dispatchShown
  rw [hc]
  generalize reply.status = st at hs
  cases hs with
  | keep hmode hpromote =>
      refine ⟨.keep (.inl ?_) rfl rfl, hb⟩
      split_ifs with hst
      · split
        next heq => exact absurd hst (hmode (Option.some.inj heq))
        next heq => exact absurd hst (hpromote (Option.some.inj heq))
        next => rfl
      · rfl
  | reset => exact ⟨.keep (.inl rfl) rfl rfl, hb⟩
  | promote => exact ⟨.disarm Reboot.flag_clear Reboot.polled_clear, Reboot.bootRead_clear.trans hb⟩
  | confirm hsame =>
      rw [spiPolled_of_bootRead hb] at hsame
      refine ⟨.keep (.inr ?_) rfl rfl, hb⟩
      simp [hsame]
  | @change h' hne hset =>
      rw [spiPolled_of_bootRead hb] at hne
      have hwant : decide (byteAt req 0 = 1) = !h.polled := by
        cases hp : h.polled <;> simpa [hp] using hne
      simp only [if_true, hwant]
      have hh' : (hwRequestReset h').flag w = !h.polled ∧ h'.polled = h.polled ∧ h'.bootRead = true := by
        by_cases hone : byteAt req 0 = 1
        · rw [if_pos hone] at hset
          unfold spiRequestPolledBoot at hset
          split_ifs at hset with hw
          swap
          · cases hset
          obtain rfl := (Prod.mk.inj hset).2
          rw [← hwant]
          refine ⟨?_, rfl, hb⟩
          simp [Reboot.flag, hwRequestReset, Persist.Armed, hw, hone]
        · rw [if_neg hone] at hset
          obtain rfl : (spiClearPolledBoot w h).2 = h' := congrArg Prod.snd hset
          rw [← hwant, decide_eq_false hone]
          exact ⟨Reboot.flag_clear, Reboot.polled_clear, Reboot.bootRead_clear.trans hb⟩
      exact ⟨.change hh'.1 hh'.2.1, hh'.2.2⟩

/-- Every step of the machine is a step of the flag. -/
theorem bootStep_flag {E : Env ρ} {fw fw' : Fw (Reboot × ρ)} {a : BootAct ρ} {e : BootEv}
    (hb : fw.hal.1.bootRead = true) (hs : bootStep E w fw a = some (fw', e)) :
    ModeStep w fw.hal.1 e fw'.hal.1 ∧ fw'.hal.1.bootRead = true := by
  cases a with
  | dispatch cmd flags req cap =>
      simp only [bootStep, Option.some.injEq, Prod.mk.injEq] at hs
      obtain ⟨rfl, rfl⟩ := hs
      rcases dispatch_reboot
        (Prod.mk.eta : _ = protocolDispatch (E.withReboot w) fw cmd flags req cap).symm with
        ⟨hc, heq⟩ | ⟨c, hc, hstep⟩
      · rw [heq]
        refine ⟨.keep (.inl ?_) rfl rfl, hb⟩
        unfold dispatchShown
        rw [hc, ite_self]
      · exact hstep.flag hc hb
  | pumped op rc =>
      simp only [bootStep, hwOtaPumped, Option.some.injEq, Prod.mk.injEq] at hs
      obtain ⟨rfl, rfl⟩ := hs
      dsimp only
      split_ifs
      · exact ⟨.disarm Reboot.flag_clear Reboot.polled_clear, Reboot.bootRead_clear.trans hb⟩
      · exact ⟨.keep (.inl rfl) rfl rfl, hb⟩
  | rest fw'' =>
      simp only [bootStep] at hs
      split_ifs at hs with heq
      obtain ⟨rfl, rfl⟩ := Prod.mk.inj (Option.some.inj hs)
      rw [heq]
      exact ⟨.keep (.inl rfl) rfl rfl, hb⟩
  | warm rest =>
      simp only [bootStep, Option.some.injEq, Prod.mk.injEq] at hs
      obtain ⟨rfl, rfl⟩ := hs
      rw [Reboot.boot_polled]
      exact ⟨.warm (Reboot.flag_boot _) (Reboot.boot_polled _ _), Reboot.boot_bootRead _ _⟩
  | powerUp p rest =>
      simp only [bootStep, Option.some.injEq, Prod.mk.injEq] at hs
      obtain ⟨rfl, rfl⟩ := hs
      rw [Reboot.boot_polled]
      exact ⟨.powerUp (Reboot.flag_boot _) (Reboot.boot_polled _ _), Reboot.boot_bootRead _ _⟩

end

/-! ## The flag and the history -/

section

variable {tr : List BootEv} {e : BootEv} {p q : BootEv → Prop} {i k : Nat}

theorem NoneBetween.mono (h : NoneBetween tr p i k) (hpq : ∀ e, q e → p e) : NoneBetween tr q i k :=
  fun m him hmk hm => h m him hmk (hm.mono hpq)

/-- A range of a longer history that ends where the shorter one does. -/
theorem noneBetween_take (hk : k ≤ tr.length) :
    NoneBetween (tr ++ [e]) p i k ↔ NoneBetween tr p i k := by
  constructor
  · exact fun h m him hmk hm => h m him hmk hm.snoc
  · intro h m him hmk hm
    rcases at_snoc.mp hm with hm | ⟨rfl, -⟩
    · exact h m him hmk hm
    · omega

theorem at_take (hi : i < tr.length) : At p (tr ++ [e]) i ↔ At p tr i := by
  rw [at_snoc]
  exact or_iff_left fun h => absurd h.1 (by omega)

/-- The requests before a position of the history are not touched by what follows it. -/
theorem lastRequest_take (hk : k ≤ tr.length) : LastRequest (tr ++ [e]) p k ↔ LastRequest tr p k := by
  unfold LastRequest
  refine exists_congr fun i => and_congr_right fun hi => ?_
  rw [at_take (by omega), noneBetween_take hk]

theorem revoked_take (hk : k ≤ tr.length) : Revoked (tr ++ [e]) k ↔ Revoked tr k := by
  unfold Revoked
  refine exists_congr fun i => exists_congr fun j => and_congr_right fun hij =>
    and_congr_right fun hjk => ?_
  rw [at_take (by omega), at_take (by omega), noneBetween_take hk, noneBetween_take hk]

/-- A range with an event of a sort has a last one. -/
theorem exists_last (hp : At p tr i) (hi : i < k) :
    ∃ j, i ≤ j ∧ j < k ∧ At p tr j ∧ NoneBetween tr p j k := by
  induction hd : k - i using Nat.strong_induction_on generalizing i with
  | _ d ih =>
      by_cases hno : NoneBetween tr p i k
      · exact ⟨i, le_rfl, hi, hp, hno⟩
      · obtain ⟨m, him, hmk, hm⟩ : ∃ m, i < m ∧ m < k ∧ At p tr m := by
          simpa [NoneBetween] using hno
        obtain ⟨j, hmj, hjk, hj, hlast⟩ := ih (k - m) (by omega) hm hmk rfl
        exact ⟨j, by omega, hjk, hj, hlast⟩

/-- Up to its end a longer history has one event more. -/
theorem noneBetween_snoc (hi : i < tr.length) :
    NoneBetween (tr ++ [e]) p i (tr ++ [e]).length ↔ NoneBetween tr p i tr.length ∧ ¬ p e := by
  rw [List.length_append, List.length_singleton]
  constructor
  · intro h
    exact ⟨fun m him hm hp => h m him (by omega) hp.snoc, fun he => h _ hi (by omega) (at_last he)⟩
  · rintro ⟨h, he⟩ m him - hm
    rcases at_snoc.mp hm with hm | ⟨-, hm⟩
    · exact h m him hm.lt hm
    · exact he hm

/-- Nothing follows the last event. -/
theorem noneBetween_last : NoneBetween (tr ++ [e]) p tr.length (tr ++ [e]).length := by
  intro m hm hm' _
  rw [List.length_append, List.length_singleton] at hm'
  omega

end

/-- What ends the effect of a request: a boot, or a successful `FINISH` or `PROMOTE`. -/
def BootEv.Clears (e : BootEv) : Prop := e.IsBoot ∨ e = .disarmed

/-- The flag and the mode, as the history has them. -/
structure BootInv (w : Bool) (tr : List BootEv) (h : Reboot) : Prop where
  read : h.bootRead = true
  /-- The requests since the boot were made in its mode. -/
  running : ∀ i want r, At (· = .mode want r) tr i → NoneBetween tr BootEv.IsBoot i tr.length →
    r = h.polled
  /-- A set flag goes back to a last request for update mode. -/
  armed : h.flag w = true → ∃ i, At BootEv.Arms tr i ∧
    NoneBetween tr (fun e => e.Clears ∨ e.Arms) i tr.length
  /-- A request for update mode that was not cleared has the flag set. -/
  arms : ∀ i, At BootEv.Arms tr i → NoneBetween tr BootEv.Clears i tr.length → h.flag w = true

namespace BootInv

variable {w : Bool} {tr : List BootEv} {h h' : Reboot} {e : BootEv}

theorem boot (p : Persist) : BootInv w [] (.boot w p) where
  read := Reboot.boot_bootRead w p
  running := fun _ _ _ h => absurd h not_at_nil
  armed := by simp
  arms := fun _ h => absurd h not_at_nil

/-- After a boot nothing before it counts. -/
theorem of_boot (he : e.IsBoot) (hb : h'.bootRead = true) (hf : h'.flag w = false) :
    BootInv w (tr ++ [e]) h' where
  read := hb
  running := by
    intro i want r hi hno
    rcases at_snoc.mp hi with hi | ⟨-, rfl⟩
    · exact absurd he ((noneBetween_snoc hi.lt).mp hno).2
    · rcases he with ⟨m, he⟩ | ⟨p, m, he⟩ <;> cases he
  armed := by simp [hf]
  arms := by
    intro i hi hno
    rcases at_snoc.mp hi with hi | ⟨-, hi⟩
    · exact absurd (.inl he) ((noneBetween_snoc hi.lt).mp hno).2
    · rcases he with ⟨m, he⟩ | ⟨p, m, he⟩ <;> rw [he] at hi <;> cases hi

/-- Within a boot: requests carry its mode, and the flag is as the events say. -/
theorem snoc (hinv : BootInv w tr h) (hb : h'.bootRead = true) (hp : h'.polled = h.polled)
    (hboot : ¬ e.IsBoot) (hmode : ∀ want r, e = .mode want r → r = h.polled)
    (harms : e.Arms → h'.flag w = true) (hclears : e = .disarmed → h'.flag w = false)
    (hkeep : ¬ e.Arms → e ≠ .disarmed → h'.flag w = h.flag w) : BootInv w (tr ++ [e]) h' where
  read := hb
  running := by
    intro i want r hi hno
    rw [hp]
    rcases at_snoc.mp hi with hi | ⟨-, hi⟩
    · exact hinv.running i want r hi ((noneBetween_snoc hi.lt).mp hno).1
    · exact hmode want r hi
  armed := by
    intro hf
    by_cases ha : e.Arms
    · exact ⟨tr.length, at_last ha, noneBetween_last⟩
    · have hd : e ≠ .disarmed := fun hd => by rw [hclears hd] at hf; cases hf
      rw [hkeep ha hd] at hf
      obtain ⟨i, hi, hno⟩ := hinv.armed hf
      refine ⟨i, hi.snoc, (noneBetween_snoc hi.lt).mpr ⟨hno, ?_⟩⟩
      rintro ((hc | hc) | hc)
      · exact hboot hc
      · exact hd hc
      · exact ha hc
  arms := by
    intro i hi hno
    rcases at_snoc.mp hi with hi | ⟨-, hi⟩
    · obtain ⟨hno, hc⟩ := (noneBetween_snoc hi.lt).mp hno
      by_cases ha : e.Arms
      · exact harms ha
      · rw [hkeep ha fun hd => hc (.inr hd)]
        exact hinv.arms i hi hno
    · exact harms hi

/-- In update mode the flag is clear. -/
theorem flag_of_update (hinv : BootInv w tr h) (hp : h.polled = true) : h.flag w = false := by
  by_contra hf
  obtain ⟨i, hi, hno⟩ := hinv.armed (by simpa using hf)
  have := hinv.running i true false hi (hno.mono fun _ he => .inl (.inl he))
  rw [hp] at this
  cases this

theorem step (hinv : BootInv w tr h) (hs : ModeStep w h e h') (hb : h'.bootRead = true) :
    BootInv w (tr ++ [e]) h' := by
  cases hs with
  | warm hf _ => exact of_boot (.inl ⟨_, rfl⟩) hb hf
  | powerUp hf _ => exact of_boot (.inr ⟨_, _, rfl⟩) hb hf
  | disarm hf hp =>
      exact hinv.snoc hb hp (by simp [BootEv.IsBoot]) (by simp) (by simp [BootEv.Arms]) (fun _ => hf)
        (fun _ hd => absurd rfl hd)
  | change hf hp =>
      refine hinv.snoc hb hp (by simp [BootEv.IsBoot]) ?_ ?_ (by simp) ?_
      · intro want r he
        injection he with _ hr
        exact hr.symm
      · intro ha
        injection ha with _ hr
        simp [hf, hr]
      · intro ha _
        have hup : h.polled = true := by
          by_contra hno
          exact ha (by simp [BootEv.Arms, show h.polled = false by simpa using hno])
        rw [hf, hinv.flag_of_update hup, hup]
        rfl
  | keep he hf hp =>
      refine hinv.snoc hb hp ?_ ?_ ?_ ?_ (fun _ _ => hf)
      · rcases he with rfl | rfl <;> simp [BootEv.IsBoot]
      · rcases he with rfl | rfl
        · simp
        · intro want r he
          injection he with _ hr
          exact hr.symm
      · rcases he with rfl | rfl
        · simp [BootEv.Arms]
        · intro ha
          injection ha with hw hr
          rw [hw] at hr
          cases hr
      · rcases he with rfl | rfl <;> simp

end BootInv

/-- Where nothing was revoked, no request follows the one that has the flag set: it would ask for
normal mode, and so would the last of those that follow. -/
theorem BootInv.armed_last {w : Bool} {tr : List BootEv} {h : Reboot} {i : Nat} (hinv : BootInv w tr h)
    (hrev : ¬ Revoked tr tr.length) (hi : At BootEv.Arms tr i)
    (hno : NoneBetween tr (fun e => e.Clears ∨ e.Arms) i tr.length) :
    NoneBetween tr BootEv.IsMode i tr.length := by
  have hboot : NoneBetween tr BootEv.IsBoot i tr.length := hno.mono fun _ he => .inl (.inl he)
  have hnormal : false = h.polled := hinv.running i true false hi hboot
  intro m him hm hat
  obtain ⟨j, hmj, hj, ⟨e, hej, want, r, rfl⟩, hlast⟩ := exists_last hat hm
  have hafter : NoneBetween tr BootEv.IsBoot j tr.length :=
    fun n hjn hn hn' => hboot n (by omega) hn hn'
  obtain rfl : r = false := by rw [hnormal]; exact hinv.running j want r ⟨_, hej, rfl⟩ hafter
  cases want with
  | true => exact hno j (by omega) hj ⟨_, hej, .inr rfl⟩
  | false =>
      refine hrev ⟨i, j, by omega, hj, hi, ⟨_, hej, false, rfl⟩, ?_, hlast⟩
      exact hno.mono fun _ he => .inl he

/-- A warm boot follows the requests that set or cleared its flag. -/
theorem BootInv.warm_follows {w : Bool} {tr : List BootEv} {h : Reboot} (hinv : BootInv w tr h)
    (hrev : ¬ Revoked tr tr.length) : h.flag w = true ↔ LastRequest tr BootEv.Arms tr.length := by
  constructor
  · intro hf
    obtain ⟨i, hi, hno⟩ := hinv.armed hf
    have hmode := hinv.armed_last hrev hi hno
    refine ⟨i, hi.lt, hi, fun m him hm hat => ?_⟩
    obtain ⟨e, hem, he⟩ := hat
    rcases he with he | he | he
    · exact hno m him hm ⟨e, hem, .inl (.inl he)⟩
    · exact hmode m him hm ⟨e, hem, he⟩
    · exact hno m him hm ⟨e, hem, .inl (.inr he)⟩
  · rintro ⟨i, -, hi, hno⟩
    refine hinv.arms i hi (hno.mono fun _ he => ?_)
    rcases he with he | he
    · exact .inl he
    · exact .inr (.inr he)

/-! ## The boots of a run -/

section

variable {tr : List BootEv} {e : BootEv} {w : Bool}

theorem FollowsLastChange.snoc (h : FollowsLastChange tr)
    (he : ∀ m, e = .warm m → ¬ Revoked tr tr.length →
      (m = true ↔ LastRequest tr BootEv.Arms tr.length)) : FollowsLastChange (tr ++ [e]) := by
  intro k m hk hrev
  rcases at_snoc.mp hk with hk | ⟨rfl, hwarm⟩
  · rw [revoked_take hk.lt.le] at hrev
    rw [lastRequest_take hk.lt.le]
    exact h k m hk hrev
  · rw [revoked_take le_rfl] at hrev
    rw [lastRequest_take le_rfl]
    exact he m hwarm hrev

theorem ArmedOnce.snoc (h : ArmedOnce tr)
    (he : e = .warm true → ∃ i, At BootEv.Arms tr i ∧ NoneBetween tr BootEv.Clears i tr.length) :
    ArmedOnce (tr ++ [e]) := by
  intro k hk
  rcases at_snoc.mp hk with hk | ⟨rfl, hwarm⟩
  · obtain ⟨i, hik, hi, hno⟩ := h k hk
    exact ⟨i, hik, hi.snoc, (noneBetween_take hk.lt.le).mpr hno⟩
  · obtain ⟨i, hi, hno⟩ := he hwarm
    exact ⟨i, hi.lt, hi.snoc, (noneBetween_take le_rfl).mpr hno⟩

theorem PowerUpExact.snoc (h : PowerUpExact tr w)
    (he : ∀ p m, e = .powerUp p m → (m = true ↔ w = true ∧ p.Armed)) : PowerUpExact (tr ++ [e]) w := by
  intro k p m hk
  rcases at_snoc.mp hk with hk | ⟨-, hk⟩
  · exact h k p m hk
  · exact he p m hk

end

/-- The state behind a history of boots: the flag with its invariant, and what the boots so far have
followed. -/
structure BootsFollow (w : Bool) (tr : List BootEv) (h : Reboot) : Prop where
  inv : BootInv w tr h
  follows : FollowsLastChange tr
  once : ArmedOnce tr
  exact : PowerUpExact tr w

theorem BootsFollow.step {w : Bool} {tr : List BootEv} {h h' : Reboot} {e : BootEv}
    (hf : BootsFollow w tr h) (hs : ModeStep w h e h') (hb : h'.bootRead = true) :
    BootsFollow w (tr ++ [e]) h' where
  inv := hf.inv.step hs hb
  follows := by
    refine hf.follows.snoc fun m he hrev => ?_
    subst he
    cases hs with
    | warm _ _ => exact hf.inv.warm_follows hrev
    | keep he _ _ => simp at he
  once := by
    refine hf.once.snoc fun he => ?_
    generalize hm : true = m at he
    subst he
    cases hs with
    | warm _ _ =>
        obtain ⟨i, hi, hno⟩ := hf.inv.armed hm.symm
        exact ⟨i, hi, hno.mono fun _ he => .inl he⟩
    | keep he _ _ => simp at he
  exact := by
    refine hf.exact.snoc fun p m he => ?_
    subst he
    cases hs with
    | powerUp _ _ => simp
    | keep he _ _ => simp at he

/-- Over every run from power-up: a warm boot follows the last request, if that asked for update mode in
normal mode, unless the running mode was asked for last while the flag was set; every warm boot in
update mode has a request of its own; and the contents of the memory at power-up select update mode
exactly if they are the armed pattern and the memory can be written. -/
theorem boots_follow_last_change {E : Env ρ} {w : Bool} {p : Persist} {rest : ρ} {tr : List BootEv}
    {fw : Fw (Reboot × ρ)} (hr : (bootSystem E w).Run (.boot (Reboot.boot w p, rest)) tr fw) :
    FollowsLastChange tr ∧ ArmedOnce tr ∧ PowerUpExact tr w := by
  have h0 : BootsFollow w [] (Reboot.boot w p) :=
    ⟨.boot p, fun _ _ h => absurd h not_at_nil, fun _ h => absurd h not_at_nil,
      fun _ _ _ h => absurd h not_at_nil⟩
  have h := hr.invariant (P := fun tr fw => BootsFollow w tr fw.hal.1) h0 fun tr fw a fw' e hf hs =>
    have hstep := bootStep_flag hf.inv.read hs
    hf.step hstep.1 hstep.2
  exact ⟨h.follows, h.once, h.exact⟩

/-- `OTA_UPDATE_MODE` in the reference environment. -/
def askMode (mode : UInt8) : BootAct Unit := .dispatch 0x47 0 [mode] 4

/-- Update mode is asked for in normal mode; the next warm boot comes up in it, and the one after that
does not. -/
theorem boots_follow_last_change_armed :
    ∃ tr fw, (bootSystem Env.reference true).Run (.boot (Reboot.boot true ⟨0, 0, 0⟩, ())) tr fw ∧
      tr = [.mode true false, .warm true, .warm false] ∧
      FollowsLastChange tr ∧ ArmedOnce tr ∧ PowerUpExact tr true := by
  have hexec : ((bootSystem Env.reference true).exec (.boot (Reboot.boot true ⟨0, 0, 0⟩, ()))
      [askMode 1, .warm (), .warm ()]).map Prod.snd =
        some [.mode true false, .warm true, .warm false] := by decide +kernel
  obtain ⟨fw, hr⟩ := Machine.exists_run_of_exec hexec
  exact ⟨_, fw, hr, rfl, boots_follow_last_change hr⟩

/-- In update mode the host confirms the mode by asking for it.  That is answered `OK`, and the next warm
boot is one in normal mode. -/
theorem confirmed_mode_not_kept :
    ∃ tr fw, (bootSystem Env.reference true).Run (.boot (Reboot.boot true ⟨0, 0, 0⟩, ())) tr fw ∧
      ¬ FollowsLastRequest tr := by
  have hexec : ((bootSystem Env.reference true).exec (.boot (Reboot.boot true ⟨0, 0, 0⟩, ()))
      [askMode 1, .warm (), askMode 1, .warm ()]).map Prod.snd =
        some [.mode true false, .warm true, .mode true true, .warm false] := by decide +kernel
  obtain ⟨fw, hr⟩ := Machine.exists_run_of_exec hexec
  refine ⟨_, fw, hr, fun h => ?_⟩
  have hlast : LastRequest [.mode true false, .warm true, .mode true true, .warm false]
      (fun e => ∃ running, e = .mode true running) 3 := by
    refine ⟨2, by omega, ⟨_, rfl, true, rfl⟩, fun m hm hm' => ?_⟩
    omega
  exact absurd ((h 3 false ⟨_, rfl, rfl⟩).mpr hlast) (by decide)

end Cc3501eBridge
