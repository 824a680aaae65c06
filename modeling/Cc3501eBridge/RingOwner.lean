import Cc3501eBridge.RingStream

/-!
# Who owns the prefetch ring

The ring changes hands: `cc3501e_hw_sock_prefetch` arms it for a socket and gives it up again, one
store at a time, and a receive can land between any two of them.  The machine `ringTask` is the ring
with its three users: the pump and the arming, which share the task, and the receives.

What keeps the users apart is the order of the stores.  While the ring is being armed it belongs to
nobody (`Arming`), and the store that publishes the new owner comes when the counters already fit an
empty stream; while it has an owner it carries that owner's stream and nothing else (`Serving`).
-/

namespace Cc3501eBridge

/-! ## The ring and its users -/

/-- Where the task stands. -/
inductive RingPc
  | idle
  | /-- In `cc3501e_hw_sock_prefetch`, with these stores to make. -/
    storing (stores : List PrefetchStore)
  | /-- At the top of pass `n` of the pump for socket `h`. -/
    pass (h : UInt16) (n : Nat)
  | recv (h : UInt16) (n idx chunk : Nat)
  | fill (h : UInt16) (n idx chunk : Nat) (data : List UInt8) (i : Nat)

structure RingSys where
  rx : RxRing
  pc : RingPc

/-- The ring in zeroed memory. -/
def RingSys.init : RingSys where
  rx := .init
  pc := .idle

/-- What can happen next. -/
inductive RingAct
  | prefetch (handle : UInt16) (on : Bool)
  | pump
  | /-- The task takes its next step. -/
    task
  | lwip (r : LwipRecv)
  | /-- A dispatch calls `cc3501e_hw_sock_recv_ring`. -/
    recvRing (handle cap : UInt16) (replay : Bool)

/-- What a step shows. -/
inductive RingEv
  | /-- The ring is published for `h`, or for nobody if that is zero. -/
    owner (h : UInt16)
  | /-- `lwip_recv` on socket `h` returned data. -/
    received (h : UInt16) (bytes : List UInt8)
  | /-- A byte was stored in cell `i`. -/
    stored (i : Nat)
  | served (handle : UInt16) (read : RingRead)
  | tau
  deriving DecidableEq

/-- The next step of the task, when it does not wait for lwIP. -/
def ringTaskStep (s : RingSys) : Option (RingSys × RingEv) :=
  match s.pc with
  | .idle => none
  | .storing [] => some ({ s with pc := .idle }, .tau)
  | .storing (st :: rest) =>
      some ({ rx := st.apply s.rx, pc := .storing rest },
        match st with
        | .fdPlus1 h => .owner h
        | _ => .tau)
  | .pass h n =>
      if n < sockPumpPasses then
        match sockPumpPass s.rx with
        | none => some ({ s with pc := .idle }, .tau)
        | some (idx, chunk) => some ({ s with pc := .recv h n idx chunk }, .tau)
      else some ({ s with pc := .idle }, .tau)
  | .recv _ _ _ _ => none
  | .fill h n idx chunk data i =>
      if hi : i < data.length then
        some ({ rx := sockPumpStore s.rx (idx + i) data[i]
                pc := .fill h n idx chunk data (i + 1) }, .stored (idx + i))
      else
        some ({ rx := sockPumpAdvance s.rx data.length
                pc := if data.length < chunk then .idle else .pass h (n + 1) }, .tau)

/-- One step of the ring and its users. -/
def ringStep (s : RingSys) : RingAct → Option (RingSys × RingEv)
  | .prefetch handle on =>
      match s.pc with
      | .idle => some ({ s with pc := .storing (sockPrefetch s.rx handle on) }, .tau)
      | _ => none
  | .pump =>
      match s.pc, sockPumpStart s.rx with
      | .idle, some h => some ({ s with pc := .pass h 0 }, .tau)
      | _, _ => none
  | .task => ringTaskStep s
  | .lwip r =>
      match s.pc with
      | .recv h n idx chunk =>
          match r with
          | .data bytes =>
              if bytes ≠ [] ∧ bytes.length ≤ chunk then
                some ({ s with pc := .fill h n idx chunk bytes 0 }, .received h bytes)
              else none
          | .closed => some ({ rx := { s.rx with peerClosed := true }, pc := .idle }, .tau)
          | .wouldBlock => some ({ s with pc := .idle }, .tau)
          | .error => some ({ rx := { s.rx with peerError := true }, pc := .idle }, .tau)
      | _ => none
  | .recvRing handle cap replay =>
      let (read, rx) := hwSockRecvRing s.rx handle cap replay
      some ({ s with rx := rx }, .served handle read)

/-- The ring with its users as a machine. -/
def ringTask : Machine RingSys RingAct RingEv where
  step := ringStep

/-- What socket `handle` has received since the ring was last published. -/
def receivedSince (handle : UInt16) (tr : List RingEv) : List UInt8 :=
  tr.foldl (fun acc e =>
    match e with
    | .owner _ => []
    | .received h bytes => if h = handle then acc ++ bytes else acc
    | _ => acc) []

section

variable {handle : UInt16} {tr : List RingEv}

@[simp] theorem receivedSince_owner (h : UInt16) :
    receivedSince handle (tr ++ [.owner h]) = [] := by
  simp [receivedSince, List.foldl_append]

@[simp] theorem receivedSince_received (bytes : List UInt8) :
    receivedSince handle (tr ++ [.received handle bytes]) = receivedSince handle tr ++ bytes := by
  simp [receivedSince, List.foldl_append]

@[simp] theorem receivedSince_stored (i : Nat) :
    receivedSince handle (tr ++ [.stored i]) = receivedSince handle tr := by
  simp [receivedSince, List.foldl_append]

@[simp] theorem receivedSince_served (h : UInt16) (read : RingRead) :
    receivedSince handle (tr ++ [.served h read]) = receivedSince handle tr := by
  simp [receivedSince, List.foldl_append]

@[simp] theorem receivedSince_tau :
    receivedSince handle (tr ++ [.tau]) = receivedSince handle tr := by
  simp [receivedSince, List.foldl_append]

end

/-! ## The invariant -/

namespace RingPc

/-- The pump's part of the state, as the firmware has it. -/
def toPc : RingPc → Pc
  | .idle | .storing _ => .loop
  | .pass _ n => .pumpPass n
  | .recv _ n idx chunk => .pumpRecv n idx chunk
  | .fill _ n idx chunk data i => .pumpFill n idx chunk data i

/-- The socket the pump reads for. -/
def pumpFor : RingPc → Option UInt16
  | .idle | .storing _ => none
  | .pass h _ | .recv h _ _ _ | .fill h _ _ _ _ _ => some h

end RingPc

/-- The ring carries what its owner has received since it was published, and nothing else. -/
def Serving (tr : List RingEv) (s : RingSys) : Prop :=
  ∃ base l, s.rx.Carries base l ∧ PumpAt base l s.rx s.pc.toPc ∧
    receivedSince s.rx.fdPlus1 tr = l.stream ++ s.pc.toPc.filling

/-- The ring of nobody is being armed for `h`: the stores before the last leave an empty ring. -/
structure Arming (r : RxRing) (h : UInt16) (stores : List PrefetchStore) : Prop where
  free : r.fdPlus1 = 0
  ne_zero : h ≠ 0
  quiet : ∀ st ∈ stores, ∀ h', st ≠ .fdPlus1 h'
  tail : (stores.foldl PrefetchStore.apply r).tail = 0
  head : (stores.foldl PrefetchStore.apply r).head = 0
  uncommitted : (stores.foldl PrefetchStore.apply r).uncommitted = 0

/-- The stores a call of `cc3501e_hw_sock_prefetch` can still have to make. -/
inductive Storing (r : RxRing) : List PrefetchStore → Prop
  | none : Storing r []
  | arm {h : UInt16} {stores : List PrefetchStore} :
      Arming r h stores → Storing r (stores ++ [.fdPlus1 h])
  | disarm : Storing r [.fdPlus1 0, .uncommitted]
  | disarmed : r.fdPlus1 = 0 → Storing r [.uncommitted]

/-- The ring is its owner's, and the task works for the owner. -/
structure RingOwned (tr : List RingEv) (s : RingSys) : Prop where
  serving : s.rx.fdPlus1 ≠ 0 → Serving tr s
  pumping : ∀ h, s.pc.pumpFor = some h → s.rx.fdPlus1 = h ∧ h ≠ 0
  storing : ∀ stores, s.pc = .storing stores → Storing s.rx stores

/-! ## Steps -/

/-- The kinds of step. -/
inductive RingTrans (s : RingSys) : RingSys → RingEv → Prop
  | /-- The task moves on without touching the ring, to where it does not pump. -/
    rest {closed error : Bool} {pc : RingPc} :
      pc = .idle → s.pc.toPc.filling = [] →
      RingTrans s { rx := { s.rx with peerClosed := closed, peerError := error }, pc := pc } .tau
  | prefetch (handle : UInt16) (on : Bool) : s.pc = .idle →
      RingTrans s { s with pc := .storing (sockPrefetch s.rx handle on) } .tau
  | store {st : PrefetchStore} {stores : List PrefetchStore} {e : RingEv} :
      s.pc = .storing (st :: stores) →
      (e = .tau ∧ (∀ h, st ≠ .fdPlus1 h) ∨ ∃ h, st = .fdPlus1 h ∧ e = .owner h) →
      RingTrans s { rx := st.apply s.rx, pc := .storing stores } e
  | pump {h : UInt16} : s.pc = .idle → sockPumpStart s.rx = some h →
      RingTrans s { s with pc := .pass h 0 } .tau
  | pass {h : UInt16} {n idx chunk : Nat} :
      s.pc = .pass h n → sockPumpPass s.rx = some (idx, chunk) →
      RingTrans s { s with pc := .recv h n idx chunk } .tau
  | data {h : UInt16} {n idx chunk : Nat} {bytes : List UInt8} :
      s.pc = .recv h n idx chunk → bytes.length ≤ chunk →
      RingTrans s { s with pc := .fill h n idx chunk bytes 0 } (.received h bytes)
  | fill {h : UInt16} {n idx chunk : Nat} {data : List UInt8} {i : Nat} (hi : i < data.length) :
      s.pc = .fill h n idx chunk data i →
      RingTrans s
        { rx := sockPumpStore s.rx (idx + i) data[i], pc := .fill h n idx chunk data (i + 1) }
        (.stored (idx + i))
  | advance {h : UInt16} {n idx chunk : Nat} {data : List UInt8} {i : Nat} {pc : RingPc} :
      s.pc = .fill h n idx chunk data i → data.length ≤ i → pc = .idle ∨ pc = .pass h (n + 1) →
      RingTrans s { rx := sockPumpAdvance s.rx data.length, pc := pc } .tau
  | recvRing (handle cap : UInt16) (replay : Bool) :
      RingTrans s { s with rx := (hwSockRecvRing s.rx handle cap replay).2 }
        (.served handle (hwSockRecvRing s.rx handle cap replay).1)

section

variable {s s' : RingSys} {e : RingEv}

private theorem ringTaskStep_trans (h : ringTaskStep s = some (s', e)) : RingTrans s s' e := by
  unfold ringTaskStep at h
  cases hpc : s.pc with
  | idle => simp [hpc] at h
  | storing stores =>
      cases stores with
      | nil =>
          simp only [hpc, Option.some.injEq, Prod.mk.injEq] at h
          obtain ⟨rfl, rfl⟩ := h
          exact .rest rfl (by rw [hpc]; rfl)
      | cons st stores =>
          simp only [hpc, Option.some.injEq, Prod.mk.injEq] at h
          obtain ⟨rfl, rfl⟩ := h
          refine .store hpc ?_
          cases st with
          | fdPlus1 h => exact .inr ⟨h, rfl, rfl⟩
          | _ => exact .inl ⟨rfl, fun _ => PrefetchStore.noConfusion⟩
  | pass h' n =>
      have hfill : s.pc.toPc.filling = [] := by rw [hpc]; rfl
      simp only [hpc] at h
      split_ifs at h
      · cases hp : sockPumpPass s.rx with
        | none =>
            simp only [hp, Option.some.injEq, Prod.mk.injEq] at h
            obtain ⟨rfl, rfl⟩ := h
            exact .rest rfl hfill
        | some p =>
            simp only [hp, Option.some.injEq, Prod.mk.injEq] at h
            obtain ⟨rfl, rfl⟩ := h
            exact .pass hpc hp
      · simp only [Option.some.injEq, Prod.mk.injEq] at h
        obtain ⟨rfl, rfl⟩ := h
        exact .rest rfl hfill
  | recv h' n idx chunk => simp [hpc] at h
  | fill h' n idx chunk data i =>
      simp only [hpc] at h
      split_ifs at h with hi hn
      · simp only [Option.some.injEq, Prod.mk.injEq] at h
        obtain ⟨rfl, rfl⟩ := h
        exact .fill hi hpc
      · simp only [Option.some.injEq, Prod.mk.injEq] at h
        obtain ⟨rfl, rfl⟩ := h
        exact .advance hpc (Nat.le_of_not_lt hi) (.inl rfl)
      · simp only [Option.some.injEq, Prod.mk.injEq] at h
        obtain ⟨rfl, rfl⟩ := h
        exact .advance hpc (Nat.le_of_not_lt hi) (.inr rfl)

/-- Every step is of one of the kinds. -/
theorem ringStep_trans {a : RingAct} (h : ringTask.step s a = some (s', e)) :
    RingTrans s s' e := by
  change ringStep s a = _ at h
  cases a with
  | prefetch handle on =>
      cases hpc : s.pc with
      | idle =>
          obtain ⟨rfl, rfl⟩ := by simpa [ringStep, hpc] using h
          exact .prefetch handle on hpc
      | _ => simp [ringStep, hpc] at h
  | pump =>
      simp only [ringStep] at h
      split at h
      · next h' hpc hstart =>
        simp only [Option.some.injEq, Prod.mk.injEq] at h
        obtain ⟨rfl, rfl⟩ := h
        exact .pump hpc hstart
      · simp at h
  | task => exact ringTaskStep_trans h
  | lwip r =>
      cases hpc : s.pc with
      | recv h' n idx chunk =>
          have hfill : s.pc.toPc.filling = [] := by rw [hpc]; rfl
          simp only [ringStep, hpc] at h
          cases r with
          | data bytes =>
              simp only at h
              split_ifs at h with hb
              simp only [Option.some.injEq, Prod.mk.injEq] at h
              obtain ⟨rfl, rfl⟩ := h
              exact .data hpc hb.2
          | _ =>
              simp only [Option.some.injEq, Prod.mk.injEq] at h
              obtain ⟨rfl, rfl⟩ := h
              exact .rest rfl hfill
      | _ => simp [ringStep, hpc] at h
  | recvRing handle cap replay =>
      obtain ⟨rfl, rfl⟩ := by simpa [ringStep] using h
      exact .recvRing handle cap replay

end

/-! ## The invariant holds -/

/-- A receive by anyone but the owner leaves the ring alone. -/
theorem hwSockRecvRing_of_free {r : RxRing} (h : r.fdPlus1 = 0) (handle cap : UInt16)
    (replay : Bool) : (hwSockRecvRing r handle cap replay).2 = r := by
  rw [hwSockRecvRing_of_not_owns]
  rintro ⟨h', hne⟩
  exact hne (h'.symm.trans h)

/-- Nobody but the arming publishes an owner. -/
theorem hwSockRecvRing_fdPlus1 (r : RxRing) (handle cap : UInt16) (replay : Bool) :
    (hwSockRecvRing r handle cap replay).2.fdPlus1 = r.fdPlus1 := by
  obtain ⟨tail, uncommitted, heq⟩ := hwSockRecvRing_snd r handle cap replay
  rw [heq]

/-- What a call of `cc3501e_hw_sock_prefetch` is about to store. -/
theorem sockPrefetch_storing (r : RxRing) (handle : UInt16) (on : Bool) :
    Storing r (sockPrefetch r handle on) := by
  unfold sockPrefetch
  cases on with
  | false =>
      simp only [Bool.false_eq_true, if_false]
      split_ifs
      · exact .disarm
      · exact .none
  | true =>
      simp only [if_true]
      split_ifs with harm heq
      · exact .none
      · exact .none
      · have hfree : r.fdPlus1 = 0 := by
          by_contra h0
          exact heq (by simpa [sockPrefetchShouldArm, h0] using harm)
        have hne : handle ≠ 0 := fun h0 => heq (hfree.trans h0.symm)
        exact @Storing.arm r handle [.tail, .head, .peerClosed, .peerError, .uncommitted]
          ⟨hfree, hne, by simp, rfl, rfl, rfl⟩

/-- A ring that has an owner is not armed again. -/
theorem sockPrefetch_of_owned {r : RxRing} (h : r.fdPlus1 ≠ 0) (handle : UInt16) :
    sockPrefetch r handle true = [] := by
  unfold sockPrefetch sockPrefetchShouldArm
  by_cases heq : r.fdPlus1 = handle
  · simp [heq]
  · simp [h, heq]

namespace RingOwned

variable {tr : List RingEv} {s s' : RingSys} {e : RingEv}

theorem start : RingOwned [] .init :=
  ⟨fun h => absurd rfl h, by simp [RingSys.init, RingPc.pumpFor], by simp [RingSys.init]⟩

/-- Publishing an owner after arming: the ring is empty and nothing was received since. -/
private theorem published {h : UInt16} {r : RxRing} (ha : Arming r h []) :
    Serving (tr ++ [.owner h]) { rx := { r with fdPlus1 := h }, pc := .storing [] } := by
  refine ⟨0, { stream := [], pos := 0, held := 0 }, ⟨?_, ?_, ?_, Nat.le_refl _, Nat.zero_le _, ?_⟩,
    trivial, by simp [RingPc.toPc, Pc.filling]⟩
  · exact ha.tail
  · exact ha.head
  · exact ha.uncommitted
  · intro p hp
    simp at hp

/-- A store of the arming or of the giving up. -/
private theorem store_step (h : RingOwned tr s) {st : PrefetchStore}
    {stores : List PrefetchStore} (hpc : s.pc = .storing (st :: stores))
    (he : e = .tau ∧ (∀ h, st ≠ .fdPlus1 h) ∨ ∃ h, st = .fdPlus1 h ∧ e = .owner h) :
    RingOwned (tr ++ [e]) { rx := st.apply s.rx, pc := .storing stores } := by
  have hst := h.storing _ hpc
  refine ⟨fun hne => ?_, by simp [RingPc.pumpFor], fun stores' heq => ?_⟩
  · -- the ring has an owner after the store: it is the store that publishes it
    generalize hall : st :: stores = all at hst
    cases hst with
    | none => simp at hall
    | @arm h' pre ha =>
        cases pre with
        | nil =>
            obtain ⟨rfl, rfl⟩ := by simpa using hall
            obtain ⟨-, hn⟩ | ⟨h'', heq, rfl⟩ := he
            · exact absurd rfl (hn h')
            · obtain rfl : h' = h'' := by simpa using heq
              exact published ha
        | cons st' pre =>
            obtain ⟨rfl, rfl⟩ := by simpa using hall
            have hq := ha.quiet st (by simp)
            exfalso
            cases st <;> first | exact hne ha.free | exact hq _ rfl
    | disarm =>
        obtain ⟨rfl, rfl⟩ := by simpa using hall
        exact absurd rfl hne
    | disarmed hfree =>
        obtain ⟨rfl, rfl⟩ := by simpa using hall
        exact absurd hfree hne
  · obtain rfl : stores = stores' := by simpa using heq
    generalize hall : st :: stores = all at hst
    cases hst with
    | none => simp at hall
    | @arm h' pre ha =>
        cases pre with
        | nil =>
            obtain ⟨rfl, rfl⟩ := by simpa using hall
            exact .none
        | cons st' pre =>
            obtain ⟨rfl, rfl⟩ := by simpa using hall
            have hq := ha.quiet st (by simp)
            refine .arm ⟨?_, ha.ne_zero, fun st' h' => ha.quiet st' (by simp [h']), ha.tail, ha.head,
              ha.uncommitted⟩
            cases st <;> first | exact ha.free | exact absurd rfl (hq _)
    | disarm =>
        obtain ⟨rfl, rfl⟩ := by simpa using hall
        exact .disarmed rfl
    | disarmed hfree =>
        obtain ⟨rfl, rfl⟩ := by simpa using hall
        exact .none

/-- A step of the task at work for the owner, after which the ring carries `l'`. -/
private theorem pump_step (h : RingOwned tr s) {h' : UInt16} (hfor : s.pc.pumpFor = some h')
    {base : Nat} {l' : Lease UInt8} (hfd : s'.rx.fdPlus1 = s.rx.fdPlus1)
    (hpc : ∀ h, s'.pc.pumpFor = some h → h = h') (hns : ∀ stores, s'.pc ≠ .storing stores)
    (hcar : s'.rx.Carries base l') (hpump : PumpAt base l' s'.rx s'.pc.toPc)
    (hsince : receivedSince h' (tr ++ [e]) = l'.stream ++ s'.pc.toPc.filling) :
    RingOwned (tr ++ [e]) s' := by
  obtain ⟨howner, hne⟩ := h.pumping h' hfor
  refine ⟨fun _ => ⟨base, l', hcar, hpump, ?_⟩, fun h hh => ?_, fun stores hs => absurd hs (hns _)⟩
  · rw [hfd, howner]
    exact hsince
  · rw [hfd, howner, hpc h hh]
    exact ⟨rfl, hne⟩

theorem step (h : RingOwned tr s) (hs : RingTrans s s' e) : RingOwned (tr ++ [e]) s' := by
  cases hs with
  | @rest closed error pc hpc hfill =>
      subst hpc
      refine ⟨fun hne => ?_, by simp [RingPc.pumpFor], by simp⟩
      obtain ⟨base, l, hcar, -, hsince⟩ := h.serving hne
      refine ⟨base, l, hcar.peer closed error, trivial, ?_⟩
      rw [receivedSince_tau]
      rw [hfill] at hsince
      exact hsince
  | prefetch handle on hpc =>
      refine ⟨fun hne => ?_, by simp [RingPc.pumpFor], fun stores heq => ?_⟩
      · obtain ⟨base, l, hcar, -, hsince⟩ := h.serving hne
        rw [hpc] at hsince
        exact ⟨base, l, hcar, trivial, by rw [receivedSince_tau]; exact hsince⟩
      · obtain rfl : sockPrefetch s.rx handle on = stores := by simpa using heq
        exact sockPrefetch_storing s.rx handle on
  | store hpc he => exact h.store_step hpc he
  | @pump h' hpc hstart =>
      have howner : s.rx.fdPlus1 = h' ∧ h' ≠ 0 := by
        unfold sockPumpStart at hstart
        split_ifs at hstart with hnone
        obtain rfl := Option.some.inj hstart
        exact ⟨rfl, fun h0 => hnone (.inl h0)⟩
      refine ⟨fun hne => ?_, fun h'' hh => ?_, by simp⟩
      · obtain ⟨base, l, hcar, -, hsince⟩ := h.serving hne
        rw [hpc] at hsince
        exact ⟨base, l, hcar, trivial, by rw [receivedSince_tau]; exact hsince⟩
      · obtain rfl : h' = h'' := by simpa [RingPc.pumpFor] using hh
        exact howner
  | @pass h' n idx chunk hpc hp =>
      have hfor : s.pc.pumpFor = some h' := by rw [hpc]; rfl
      obtain ⟨howner, hne⟩ := h.pumping h' hfor
      obtain ⟨base, l, hcar, -, hsince⟩ := h.serving (howner ▸ hne)
      rw [hpc, howner] at hsince
      refine h.pump_step hfor rfl (by simp [RingPc.pumpFor]) (by simp) hcar
        (hcar.sockPumpPass_window hp) ?_
      rw [receivedSince_tau]
      exact hsince
  | @data h' n idx chunk bytes hpc hlen =>
      have hfor : s.pc.pumpFor = some h' := by rw [hpc]; rfl
      obtain ⟨howner, hne⟩ := h.pumping h' hfor
      obtain ⟨base, l, hcar, hpump, hsince⟩ := h.serving (howner ▸ hne)
      rw [hpc] at hpump hsince
      rw [howner] at hsince
      refine h.pump_step hfor rfl (by simp [RingPc.pumpFor]) (by simp) hcar
        ⟨hpump, hlen, fun j _ hj => absurd hj (Nat.not_lt_zero j)⟩ ?_
      rw [receivedSince_received, hsince]
      simp [RingPc.toPc, Pc.filling]
  | @fill h' n idx chunk data i hi hpc =>
      have hfor : s.pc.pumpFor = some h' := by rw [hpc]; rfl
      obtain ⟨howner, hne⟩ := h.pumping h' hfor
      obtain ⟨base, l, hcar, hpump, hsince⟩ := h.serving (howner ▸ hne)
      rw [hpc] at hpump hsince
      rw [howner] at hsince
      obtain ⟨hw, hlen, hdata⟩ := hpump
      refine h.pump_step hfor rfl (by simp [RingPc.pumpFor]) (by simp)
        (hcar.sockPumpStore hw (by omega) _) ⟨hw, hlen, ?_⟩ ?_
      · intro j hj hlt
        change (s.rx.buf.set (idx + i) data[i]) (idx + j) = data[j]
        by_cases heq : j = i
        · subst heq
          exact Buf.set_self _ _ _
        · rw [Buf.set_of_ne _ _ (by omega)]
          exact hdata j hj (by omega)
      · rw [receivedSince_stored]
        exact hsince
  | @advance h' n idx chunk data i pc hpc hle hpc' =>
      have hfor : s.pc.pumpFor = some h' := by rw [hpc]; rfl
      obtain ⟨howner, hne⟩ := h.pumping h' hfor
      obtain ⟨base, l, hcar, hpump, hsince⟩ := h.serving (howner ▸ hne)
      rw [hpc] at hpump hsince
      rw [howner] at hsince
      obtain ⟨hw, hlen, hdata⟩ := hpump
      have hfree : pc.toPc.pumping = false := by rcases hpc' with rfl | rfl <;> rfl
      refine h.pump_step hfor rfl ?_ ?_
        (hcar.sockPumpAdvance hw hlen fun j hj => hdata j hj (by omega)) (.of_free hfree) ?_
      · rcases hpc' with rfl | rfl <;> simp [RingPc.pumpFor]
      · rcases hpc' with rfl | rfl <;> simp
      · rw [receivedSince_tau, Pc.filling_of_not_pumping hfree, List.append_nil]
        exact hsince
  | recvRing handle cap replay =>
      have hfd := hwSockRecvRing_fdPlus1 s.rx handle cap replay
      refine ⟨fun hne => ?_, fun h' hh => ?_, fun stores hs => ?_⟩
      · have hne' : s.rx.fdPlus1 ≠ 0 := hfd ▸ hne
        obtain ⟨base, l, hcar, hpump, hsince⟩ := h.serving hne'
        by_cases hown : s.rx.Owns handle
        · obtain ⟨-, -, hcar', -, hbuf⟩ := hcar.hwSockRecvRing_serve hown replay cap
          refine ⟨base, _, hcar', hpump.serve hbuf replay cap.toNat, ?_⟩
          rw [receivedSince_served, hfd]
          exact hsince
        · rw [hwSockRecvRing_of_not_owns hown]
          exact ⟨base, l, hcar, hpump, by rw [receivedSince_served]; exact hsince⟩
      · rw [hfd]
        exact h.pumping h' hh
      · have hst := h.storing stores hs
        by_cases hfree : s.rx.fdPlus1 = 0
        · rw [hwSockRecvRing_of_free hfree]
          exact hst
        · cases hst with
          | none => exact .none
          | arm ha => exact absurd ha.free hfree
          | disarm => exact .disarm
          | disarmed hf => exact absurd hf hfree

theorem of_run (hr : ringTask.Run .init tr s) : RingOwned tr s :=
  hr.invariant start fun _ _ _ _ _ h hstep => h.step (ringStep_trans hstep)

end RingOwned

/-! ## The guarantee -/

/-- What the ring's counters say of a carried stream: the used part fits the buffer, and what was
served last is part of it. -/
theorem RxRing.Carries.counters {r : RxRing} {base : Nat} {l : Lease UInt8}
    (h : r.Carries base l) : r.ringUsed.toNat ≤ sockRingBytes ∧
      r.uncommitted.toNat ≤ r.ringUsed.toNat := by
  have hused := h.used
  have hleased := h.leased
  have hheld : r.uncommitted.toNat = l.held := by
    rw [h.held]
    apply UInt32.toNat_ofNat_of_lt'
    unfold UInt32.size
    unfold sockRingBytes at hused
    omega
  rw [h.ringUsed_eq, hheld]
  omega

/-- A cell in the pump's window holds no byte between the counters. -/
theorem RxRing.Carries.window_ne {r : RxRing} {base : Nat} {l : Lease UInt8}
    (h : r.Carries base l) {idx chunk i : Nat} (hw : RxRing.Window base l idx chunk) (hi : i < chunk)
    {k : Nat} (hk : k < r.ringUsed.toNat) : idx + i ≠ (r.tail.toNat + k) % sockRingBytes := by
  have hfree := hw.free
  rw [h.ringUsed_eq] at hk
  have htail : (r.tail.toNat + k) % sockRingBytes = (base + (l.pos + k)) % sockRingBytes := by
    rw [h.tail, ← Nat.mod_add_mod, RxRing.cell_ofNat, Nat.mod_add_mod, Nat.add_assoc]
  rw [hw.cell hi, htail]
  exact (Buf.cell_ne (by omega) (by omega)).symm

/-- The prefetch ring is its owner's.  Take any interleaving of the pump, of calls of
`cc3501e_hw_sock_prefetch`, store by store, and of receives.  When a receive finds the ring published
for its handle, the used part fits the buffer and contains what was served but not committed; no
store of the pump goes to a cell of the used part, and nothing else changes a cell; a receive is
answered with bytes that its own handle has received since the ring was last published; and a ring
that has an owner is not armed, for that owner or another. -/
theorem ring_owned {tr : List RingEv} {s : RingSys} (hr : ringTask.Run .init tr s) :
    (∀ handle, handle ≠ 0 → s.rx.fdPlus1 = handle →
      s.rx.ringUsed.toNat ≤ sockRingBytes ∧ s.rx.uncommitted.toNat ≤ s.rx.ringUsed.toNat) ∧
    (∀ a s' e, ringTask.step s a = some (s', e) →
      (∀ i, e = .stored i → (∃ v, s'.rx.buf = s.rx.buf.set i v) ∧
        ∀ k < s.rx.ringUsed.toNat, i ≠ (s.rx.tail.toNat + k) % sockRingBytes) ∧
      ((∀ i, e ≠ .stored i) → s'.rx.buf = s.rx.buf)) ∧
    (∀ handle cap replay s' read,
      ringTask.step s (.recvRing handle cap replay) = some (s', .served handle read) →
      read.out <:+: receivedSince handle tr) ∧
    (∀ handle s' e, s.rx.fdPlus1 ≠ 0 →
      ringTask.step s (.prefetch handle true) = some (s', e) →
      s'.rx = s.rx ∧ s'.pc = .storing []) := by
  have h := RingOwned.of_run hr
  refine ⟨?_, ?_, ?_, ?_⟩
  · rintro handle hne rfl
    obtain ⟨base, l, hcar, -, -⟩ := h.serving hne
    exact hcar.counters
  · intro a s' e hstep
    cases ringStep_trans hstep with
    | @store st stores e hpc he =>
        refine ⟨fun i hi => ?_, fun _ => by cases st <;> rfl⟩
        obtain ⟨rfl, -⟩ | ⟨h', -, rfl⟩ := he <;> exact RingEv.noConfusion hi
    | @fill h' n idx chunk data i hi hpc =>
        obtain ⟨howner, hne⟩ := h.pumping h' (by rw [hpc]; rfl)
        obtain ⟨base, l, hcar, hpump, -⟩ := h.serving (howner ▸ hne)
        rw [hpc] at hpump
        obtain ⟨hw, hlen, -⟩ := hpump
        refine ⟨fun j hj => ?_, fun hn => absurd rfl (hn (idx + i))⟩
        obtain rfl : idx + i = j := by simpa using hj
        exact ⟨⟨data[i], rfl⟩, fun k hk => hcar.window_ne hw (by omega) hk⟩
    | recvRing handle cap replay =>
        refine ⟨nofun, fun _ => ?_⟩
        obtain ⟨tail, uncommitted, heq⟩ := hwSockRecvRing_snd s.rx handle cap replay
        change (hwSockRecvRing s.rx handle cap replay).2.buf = s.rx.buf
        rw [heq]
    | _ => exact ⟨nofun, fun _ => rfl⟩
  · intro handle cap replay s' read hstep
    obtain ⟨rfl, hread⟩ : _ ∧ (hwSockRecvRing s.rx handle cap replay).1 = read := by
      simpa [ringTask, ringStep] using hstep
    rw [← hread]
    by_cases hown : s.rx.Owns handle
    · obtain ⟨base, l, hcar, -, hsince⟩ := h.serving (by rw [hown.1]; exact hown.2)
      obtain ⟨hout, -⟩ := hcar.hwSockRecvRing_serve hown replay cap
      rw [hown.1] at hsince
      rw [hout, hsince]
      have hpart : (l.serve replay cap.toNat).1 <:+: l.stream :=
        (List.take_prefix _ _).isInfix.trans (List.drop_suffix _ _).isInfix
      exact hpart.trans (List.prefix_append _ _).isInfix
    · rw [hwSockRecvRing_of_not_owns hown]
      exact List.nil_infix
  · intro handle s' e hne hstep
    cases hpc : s.pc with
    | idle =>
        obtain ⟨rfl, -⟩ := by simpa [ringTask, ringStep, hpc] using hstep
        exact ⟨rfl, by simp [sockPrefetch_of_owned hne]⟩
    | _ => simp [ringTask, ringStep, hpc] at hstep

open RingAct in
/-- The ring is armed for handle 1, whose three bytes are pumped in and asked for in part; handle 2
tries to arm the ring. -/
def ringTraffic : List RingAct :=
  [prefetch 1 true] ++ List.replicate 7 task ++ [pump, task, lwip (.data [1, 2, 3])] ++
    List.replicate 4 task ++ [recvRing 1 2 false, prefetch 2 true, task]

/-- Handle 1 is then served the rest, and the pump stores the next byte behind what is held. -/
theorem ring_owned_traffic :
    ∃ s tr s' tr', ringTask.Run .init tr s ∧ ringTask.Run .init tr' s' ∧ s.rx.fdPlus1 = 1 ∧
      (s.rx.ringUsed.toNat ≤ sockRingBytes ∧ s.rx.uncommitted.toNat ≤ s.rx.ringUsed.toNat) ∧
      (∃ t e, ringTask.step s (.prefetch 2 true) = some (t, e) ∧ t.rx = s.rx ∧
        t.pc = .storing []) ∧
      (∃ t read, ringTask.step s (.recvRing 1 4 false) = some (t, .served 1 read) ∧
        read.out = [3] ∧ read.out <:+: receivedSince 1 tr) ∧
      ∃ t, ringTask.step s' .task = some (t, .stored 3) ∧
        ∀ k < s'.rx.ringUsed.toNat, 3 ≠ (s'.rx.tail.toNat + k) % sockRingBytes := by
  have hexec : (ringTask.exec .init ringTraffic).map (fun p => (p.1.rx.fdPlus1,
      (ringTask.step p.1 (.prefetch 2 true)).map Prod.snd,
      (ringTask.step p.1 (.recvRing 1 4 false)).map Prod.snd)) =
      some (1, some .tau, some (.served 1 { rc := 1, out := [3] })) := by decide +kernel
  have hexec' : (ringTask.exec .init (ringTraffic ++ [.pump, .task, .lwip (.data [4])])).map
      (fun p => (ringTask.step p.1 .task).map Prod.snd) = some (some (.stored 3)) := by
    decide +kernel
  obtain ⟨⟨s, tr⟩, hs, heq⟩ := Option.map_eq_some_iff.mp hexec
  obtain ⟨⟨s', tr'⟩, hs', heq'⟩ := Option.map_eq_some_iff.mp hexec'
  simp only [Prod.mk.injEq] at heq
  obtain ⟨hfd, harm, hserve⟩ := heq
  obtain ⟨⟨t₁, e₁⟩, hstep₁, -⟩ := Option.map_eq_some_iff.mp harm
  obtain ⟨⟨t₂, e₂⟩, hstep₂, rfl⟩ := Option.map_eq_some_iff.mp hserve
  obtain ⟨⟨t₃, e₃⟩, hstep₃, rfl⟩ := Option.map_eq_some_iff.mp heq'
  have hr := Machine.run_of_exec hs
  have hr' := Machine.run_of_exec hs'
  obtain ⟨hcounters, -, hserved, harmed⟩ := ring_owned hr
  have hne : s.rx.fdPlus1 ≠ 0 := by rw [hfd]; decide
  refine ⟨s, tr, s', tr', hr, hr', hfd, hcounters 1 (by decide) hfd,
    ⟨t₁, e₁, hstep₁, harmed 2 t₁ e₁ hne hstep₁⟩,
    ⟨t₂, _, hstep₂, rfl, hserved 1 4 false t₂ _ hstep₂⟩, t₃, hstep₃, ?_⟩
  exact (((ring_owned hr').2.1 .task t₃ (.stored 3) hstep₃).1 3 rfl).2

end Cc3501eBridge
