import Cc3501eBridge.RingStream

/-!
# The end of the stream comes last

When the peer closes, or the socket fails, the pump records it and stops; the receives that follow
are to get the bytes still in the ring first and the verdict then.  `ringVerdict` is the reply of a
ring that has nothing to serve.  It is given when no byte is left for the request at hand, which for
a request of nonzero length means that every byte was handed out (`Lease.Covered`), and once it was
given nothing changes any more: the pump has stopped for good.

A request of length zero is a special case: nothing is left for it however full the ring is, and the
source has it learn of a failure nevertheless.
-/

namespace Cc3501eBridge

variable {η : Type}

open Trace

/-! ## The reply of a ring -/

/-- The reply of a ring with nothing to serve. -/
def ringVerdict (peerClosed peerError : Bool) (maxLen : UInt16) : Reply :=
  if peerClosed then { status := .ok, data := sockRecvRespHeader 0 }
  else if peerError then .bare .errRadio
  else if maxLen = 0 then { status := .ok, data := List.replicate sockRecvRespBytes 0 }
  else .bare .errBusy

/-- The reply of a ring that hands out `out`. -/
def ringReply (rx : RxRing) (out : List UInt8) (maxLen : UInt16) : Reply :=
  if out = [] then ringVerdict rx.peerClosed rx.peerError maxLen
  else { status := .ok, data := sockRecvRespHeader out.length ++ out }

/-- What the ring returns, in terms of the lease. -/
theorem RxRing.Carries.hwSockRecvRing_read {r : RxRing} {base : Nat} {l : Lease UInt8}
    (h : r.Carries base l) {handle : UInt16} (hown : r.Owns handle) (replay : Bool) (cap : UInt16) :
    (hwSockRecvRing r handle cap replay).1 =
      if (l.serve replay cap.toNat).1 = [] then
        { rc := sockRecvRingDrainedStatus r.peerClosed r.peerError, out := [] }
      else { rc := (l.serve replay cap.toNat).1.length, out := (l.serve replay cap.toNat).1 } := by
  have hused := h.used
  have hpos := l.pos_le_serve replay cap.toNat
  have hend := l.serve_end_le replay cap.toNat h.leased
  have hlen : (l.serve replay cap.toNat).1.length = (l.serve replay cap.toNat).2.held := rfl
  have htoNat : (UInt32.ofNat (l.serve replay cap.toNat).2.held).toNat =
      (l.serve replay cap.toNat).2.held := by
    apply UInt32.toNat_ofNat_of_lt'
    unfold UInt32.size
    unfold sockRingBytes at hused
    omega
  rw [hwSockRecvRing_of_owns hown]
  simp only [h.sockRecvCommit_eq replay cap, h.ringCopy_eq replay cap]
  by_cases hnil : (l.serve replay cap.toNat).1 = []
  · rw [if_pos hnil, if_pos]
    rw [← hlen, hnil]
    rfl
  · rw [if_neg hnil, if_neg]
    · rw [htoNat, hlen]
    · intro h0
      have hzero := congrArg UInt32.toNat h0
      rw [htoNat] at hzero
      exact hnil (List.eq_nil_of_length_eq_zero hzero)

/-- The reply to a receive on an armed handle: the bytes the lease hands out, or the verdict if
there are none. -/
theorem sockRecvFromRing_reply {fw fw₁ : Fw η} {key : RecvKey} {cap : Nat} {reply : Reply}
    {base : Nat} {l : Lease UInt8} (h : sockRecvFromRing fw key cap = (some reply, fw₁))
    (hcap : sockRecvRespBytes < cap) (hcar : fw.rx.Carries base l) (hown : fw.rx.Owns key.handle) :
    reply = ringReply fw.rx
      (l.serve (decide (key.seq ≠ 0 ∧ key = fw.last)) (sockRecvRoom key cap)).1 key.maxLen := by
  unfold ringReply
  have hread := hcar.hwSockRecvRing_read hown (decide (key.seq ≠ 0 ∧ key = fw.last))
    (UInt16.ofNat (sockRecvRoom key cap))
  rw [toNat_sockRecvRoom] at hread
  unfold sockRecvFromRing at h
  rw [if_neg (by omega)] at h
  simp only [hread] at h
  generalize (l.serve (decide (key.seq ≠ 0 ∧ key = fw.last)) (sockRecvRoom key cap)).1 = out at h ⊢
  by_cases hnil : out = []
  · rw [if_pos hnil]
    simp only [if_pos hnil] at h
    unfold ringVerdict
    unfold sockRecvRingDrainedStatus at h
    cases hc : fw.rx.peerClosed with
    | true =>
        simp only [hc, if_true] at h
        exact (Option.some.inj (Prod.mk.inj h).1).symm
    | false =>
        cases he : fw.rx.peerError with
        | true =>
            simp only [hc, he, Bool.false_eq_true, if_false, if_true] at h
            exact (Option.some.inj (Prod.mk.inj h).1).symm
        | false =>
            simp only [hc, he, Bool.false_eq_true, if_false, if_true] at h ⊢
            split_ifs at h ⊢ <;> exact (Option.some.inj (Prod.mk.inj h).1).symm
  · rw [if_neg hnil]
    simp only [if_neg hnil] at h
    have hlen : 0 < out.length := List.length_pos_of_ne_nil hnil
    rw [if_neg (by omega), if_neg (by omega), if_pos (by omega)] at h
    exact (Option.some.inj (Prod.mk.inj h).1).symm

/-- The firmware takes the request for a repetition of the last one. -/
def Sys.replays (s : Sys η) (req : Request) : Bool :=
  req.recvKey.seq ≠ 0 ∧ req.recvKey = s.fw.last

/-- The reply to a receive that is dispatched on the armed handle. -/
theorem dispatch_ringReply {E : Env η} {s : Sys η} {handle : UInt16} {base : Nat} {l : Lease UInt8}
    (hown : s.fw.rx.Owns handle) (hcar : s.fw.rx.Carries base l) {req : Request} {fw : Fw η}
    {reply : Reply} (hdec : E.hdr.decode req.cmd = some .sockRecv) (hl : req.payload.length = 4)
    (hreq : req.recvHandle = handle) (hcap : sockRecvRespBytes < req.cap)
    (hd : protocolDispatch E s.fw req.cmd req.flags req.payload req.cap = (fw, reply)) :
    reply = ringReply s.fw.rx (l.serve (s.replays req) req.recvRoom).1 req.recvKey.maxLen := by
  have hown' : (s.fw.latchSeq req).rx.Owns req.recvHandle := by
    rw [hreq]
    exact hown
  obtain ⟨r, hring, hr⟩ := handleSockRecv_of_owns hl hcap hown'
  rw [handleSockRecv_of_dispatch hdec hd] at hring hr
  obtain rfl : reply = r := hr
  have hreply := sockRecvFromRing_reply hring hcap hcar hown'
  exact hreply

/-! ## The pump stops -/

/-- The pump is running. -/
def Pc.onPump : Pc → Bool
  | .pumpPass _ | .pumpRecv _ _ _ | .pumpFill _ _ _ _ _ => true
  | _ => false

theorem Pc.pumping_of_off {pc : Pc} (h : pc.onPump = false) : pc.pumping = false := by
  cases pc <;> first | rfl | simp [onPump] at h

/-- What a step does to the peer's flags: the pump records one and stops, or they stay, and then the
pump is started only if neither is recorded. -/
inductive FlagStep (s s' : Sys η) : Prop
  | keep : s'.fw.rx.peerClosed = s.fw.rx.peerClosed → s'.fw.rx.peerError = s.fw.rx.peerError →
      (s'.pc.onPump = true →
        s.pc.onPump = true ∨ s.fw.rx.peerClosed = false ∧ s.fw.rx.peerError = false) →
      FlagStep s s'
  | record : s.pc.onPump = true → s'.pc.onPump = false →
      (s'.fw.rx.peerClosed = true ∧ s'.fw.rx.peerError = s.fw.rx.peerError ∨
        s'.fw.rx.peerClosed = s.fw.rx.peerClosed ∧ s'.fw.rx.peerError = true) → FlagStep s s'

section

variable {E : Env η} {s s' : Sys η} {e : Ev}

private theorem taskStep_flags (h : taskStep E s = some (s', e)) : FlagStep s s' := by
  unfold taskStep at h
  cases hpc : s.pc with
  | pumpPass pass =>
      simp only [hpc] at h
      (try split_ifs at h) <;> (try split at h) <;>
        (obtain ⟨rfl, -⟩ := by simpa using h) <;> exact .keep rfl rfl fun _ => .inl (by rw [hpc]; rfl)
  | pumpFill pass idx chunk data i =>
      simp only [hpc] at h
      split_ifs at h <;>
        (obtain ⟨rfl, -⟩ := by simpa using h) <;> exact .keep rfl rfl fun _ => .inl (by rw [hpc]; rfl)
  | pumpRecv pass idx chunk => simp [hpc] at h
  | hal cmd call => simp [hpc] at h
  | loop =>
      simp only [hpc] at h
      split_ifs at h <;> (obtain ⟨rfl, -⟩ := by simpa using h) <;>
        exact .keep rfl rfl fun hp => .inl (by first | exact hp | simp [Pc.onPump] at hp)
  | _ =>
      simp only [hpc] at h
      (try split_ifs at h) <;> (obtain ⟨rfl, -⟩ := by simpa using h) <;>
        exact .keep rfl rfl fun hp => by simp [Pc.onPump] at hp

/-- A receive leaves the peer's flags alone. -/
theorem handleSockRecv_flags (fw : Fw η) (req : List UInt8) (cap : Nat) :
    (handleSockRecv fw req cap).1.rx.peerClosed = fw.rx.peerClosed ∧
      (handleSockRecv fw req cap).1.rx.peerError = fw.rx.peerError := by
  have h := handleSockRecv_outcome fw req cap
  generalize handleSockRecv fw req cap = out at h
  cases h with
  | @ring key last recv rx r _ _ _ hring =>
      have hrx : ∃ tail uncommitted, rx = { fw.rx with tail := tail, uncommitted := uncommitted } := by
        unfold sockRecvFromRing at hring
        by_cases hcap : cap ≤ sockRecvRespBytes
        · rw [if_pos hcap] at hring
          simp at hring
        · obtain ⟨tail, uncommitted, heq⟩ := hwSockRecvRing_snd fw.rx key.handle
            (UInt16.ofNat (sockRecvRoom key cap)) (decide (key.seq ≠ 0 ∧ key = fw.last))
          rw [if_neg hcap] at hring
          simp only [heq] at hring
          refine ⟨tail, uncommitted, ?_⟩
          split_ifs at hring <;> exact (congrArg Fw.rx (Prod.mk.inj hring).2).symm
      obtain ⟨tail, uncommitted, rfl⟩ := hrx
      exact ⟨rfl, rfl⟩
  | _ => exact ⟨rfl, rfl⟩

/-- No dispatch touches the peer's flags. -/
theorem dispatch_flags {req : Request} {fw : Fw η} {reply : Reply}
    (hd : protocolDispatch E s.fw req.cmd req.flags req.payload req.cap = (fw, reply)) :
    fw.rx.peerClosed = s.fw.rx.peerClosed ∧ fw.rx.peerError = s.fw.rx.peerError := by
  by_cases hrecv : E.hdr.decode req.cmd = some .sockRecv
  · have hflags := handleSockRecv_flags (s.fw.latchSeq req) req.payload req.cap
    rw [handleSockRecv_of_dispatch hrecv hd] at hflags
    exact hflags
  · rw [(dispatch_rx hd fun h => hrecv h.1).1]
    exact ⟨rfl, rfl⟩

/-- A step that keeps the ring armed changes the flags as described. -/
theorem sysStep_flags {a : Act η} (hk : RingKept s a) (h : (system E).step s a = some (s', e)) :
    FlagStep s s' := by
  change sysStep E s a = _ at h
  cases a with
  | dispatch req =>
      obtain ⟨rfl, -⟩ := by simpa [sysStep] using h
      have hflags := @dispatch_flags η E s req _ _ rfl
      exact .keep hflags.1 hflags.2 .inl
  | task =>
      have hp := hk rfl
      simp only [sysStep, hp] at h
      exact taskStep_flags h
  | ret r =>
      simp only [sysStep, retStep] at h
      cases hpc : s.pc with
      | hal cmd call =>
          simp only [hpc] at h
          by_cases hr : s.pending = [] ∧ r.fits call = true ∧ lwipAllows s.isOpen r call = true
          · rw [if_pos hr] at h
            obtain ⟨rfl, -⟩ := Prod.mk.inj (Option.some.inj h)
            refine .keep rfl rfl fun hp => ?_
            dsimp only at hp
            split_ifs at hp <;> simp [Pc.onPump] at hp
          · rw [if_neg hr] at h
            simp at h
      | _ => simp [hpc] at h
  | pump =>
      simp only [sysStep] at h
      split at h
      · next hstart =>
        obtain ⟨rfl, -⟩ := by simpa using h
        refine .keep rfl rfl fun _ => .inr ?_
        unfold sockPumpStart at hstart
        split_ifs at hstart with hn
        push Not at hn
        simpa using hn.2
      · simp at h
  | lwip r =>
      simp only [sysStep, lwipStep] at h
      cases hpc : s.pc with
      | pumpRecv pass idx chunk =>
          have hon : s.pc.onPump = true := by rw [hpc]; rfl
          simp only [hpc] at h
          cases r with
          | data bytes =>
              simp only at h
              split_ifs at h
              obtain ⟨rfl, -⟩ := by simpa using h
              exact .keep rfl rfl fun _ => .inl hon
          | closed =>
              obtain ⟨rfl, -⟩ := by simpa using h
              exact .record hon rfl (.inl ⟨rfl, rfl⟩)
          | wouldBlock =>
              obtain ⟨rfl, -⟩ := by simpa using h
              exact .keep rfl rfl fun _ => .inl hon
          | error =>
              obtain ⟨rfl, -⟩ := by simpa using h
              exact .record hon rfl (.inr ⟨rfl, rfl⟩)
      | _ => simp [hpc] at h
  | accept listener handle port addr =>
      simp only [sysStep] at h
      cases hpc : s.pc with
      | loop =>
          simp only [hpc] at h
          split_ifs at h
          obtain ⟨rfl, -⟩ := by simpa using h
          exact .keep rfl rfl fun hp => by simp [Pc.onPump] at hp
      | _ => simp [hpc] at h
  | _ =>
      obtain ⟨rfl, -⟩ := by simpa [sysStep] using h
      exact .keep rfl rfl .inl

end

/-- A recorded verdict is the only one, and the pump is off. -/
structure PumpFlags (s : Sys η) : Prop where
  off : s.fw.rx.peerClosed = true ∨ s.fw.rx.peerError = true → s.pc.onPump = false
  one : ¬ (s.fw.rx.peerClosed = true ∧ s.fw.rx.peerError = true)

theorem PumpFlags.step {s s' : Sys η} (h : PumpFlags s) (hs : FlagStep s s') : PumpFlags s' := by
  cases hs with
  | keep hc he hon =>
      refine ⟨fun hflag => ?_, by rw [hc, he]; exact h.one⟩
      rw [hc, he] at hflag
      by_contra hn
      rcases hon (by simpa using hn) with hp | ⟨hc', he'⟩
      · simp [h.off hflag] at hp
      · simp [hc', he'] at hflag
  | record hon hoff hflag =>
      have hnone : ¬ (s.fw.rx.peerClosed = true ∨ s.fw.rx.peerError = true) := fun hf => by
        simp [h.off hf] at hon
      refine ⟨fun _ => hoff, fun hboth => hnone ?_⟩
      rcases hflag with ⟨-, he⟩ | ⟨hc, -⟩
      · exact .inr (he ▸ hboth.2)
      · exact .inl (hc ▸ hboth.1)

/-! ## Data first -/

/-- An event that is a receive shows its dispatch. -/
theorem dispatch_of_recvReq {E : Env η} {e : Ev} {req : Request} (he : e.recvReq E = some req) :
    ∃ reply sub, E.hdr.decode req.cmd = some .sockRecv ∧ req.payload.length = 4 ∧
      e = .dispatch req reply sub := by
  cases e with
  | dispatch req' reply sub =>
      obtain ⟨⟨hdec, hl⟩, heq⟩ := Option.ite_none_right_eq_some.mp he
      obtain rfl := Option.some.inj heq
      exact ⟨reply, sub, hdec, hl, rfl⟩
  | _ => simp [Ev.recvReq] at he

/-- The data of a successful reply to a receive on `handle`. -/
def Ev.recvData (E : Env η) (handle : UInt16) : Ev → Option (List UInt8)
  | .dispatch req reply _ =>
      if E.hdr.decode req.cmd = some .sockRecv ∧ req.payload.length = 4 ∧
          req.recvHandle = handle then recvAnswer reply
      else none
  | _ => none

/-- What the replies on `handle` handed out, in order. -/
def recvAnswers (E : Env η) (handle : UInt16) (tr : List Ev) : List (List UInt8) :=
  tr.filterMap (Ev.recvData E handle)

@[simp] theorem recvAnswers_snoc (E : Env η) (handle : UInt16) (tr : List Ev) (e : Ev) :
    recvAnswers E handle (tr ++ [e]) =
      recvAnswers E handle tr ++ (e.recvData E handle).toList := by
  simp only [recvAnswers, List.filterMap_append, List.filterMap_cons, List.filterMap_nil]
  cases e.recvData E handle <;> rfl

/-- The request that arrives. -/
def Act.request : Act η → Option Request
  | .dispatch req => some req
  | _ => none

/-- The task neither arms the ring nor gives it up, and receives leave room for data. -/
def RingServes (E : Env η) (s : Sys η) (a : Act η) : Prop :=
  RingKept s a ∧ ∀ req ∈ a.request, E.hdr.decode req.cmd = some .sockRecv →
    sockRecvRespBytes < req.cap

instance (E : Env η) (s : Sys η) (a : Act η) : Decidable (RingServes E s a) :=
  inferInstanceAs (Decidable (_ ∧ _))

/-- The ring holds the stream from what was handed out on, and the pump obeys the flags. -/
structure VerdictInv (E : Env η) (handle : UInt16) (base : Nat) (tr : List Ev) (s : Sys η)
    (l : Lease UInt8) : Prop where
  holds : RingHolds handle base tr s l
  covered : l.Covered (recvAnswers E handle tr)
  flags : PumpFlags s

namespace VerdictInv

variable {E : Env η} {handle : UInt16} {base : Nat} {tr : List Ev} {s s' : Sys η} {e : Ev}
  {l : Lease UInt8} {a : Act η}

private theorem recvData_of_not_recv (he : e.recvReq E = none) : e.recvData E handle = none := by
  cases e with
  | dispatch req reply sub =>
      have hn : ¬ (E.hdr.decode req.cmd = some .sockRecv ∧ req.payload.length = 4) := by
        simpa [Ev.recvReq] using he
      exact if_neg fun h => hn ⟨h.1, h.2.1⟩
  | _ => rfl

theorem step (h : VerdictInv E handle base tr s l) (hg : RingServes E s a)
    (hstep : (system E).step s a = some (s', e)) :
    ∃ l', VerdictInv E handle base (tr ++ [e]) s' l' := by
  have hflags := h.flags.step (sysStep_flags hg.1 hstep)
  have hring := sysStep_ring hg.1 hstep
  cases he : e.recvReq E with
  | none =>
      obtain ⟨xs, hh, -⟩ := h.holds.step_of_not_recv hring he
      refine ⟨l.push xs, hh, ?_, hflags⟩
      rw [recvAnswers_snoc, recvData_of_not_recv he]
      simpa using h.covered.push h.holds.carries.leased xs
  | some req =>
      obtain ⟨reply, sub, hdec, hl, rfl⟩ := dispatch_of_recvReq he
      obtain rfl := act_of_dispatch hstep
      obtain ⟨fw, hd, rfl, -⟩ := (sysStep_core hstep).dispatch_inv
      have hcap := hg.2 _ rfl hdec
      have hh := handleSockRecv_of_dispatch hdec hd
      by_cases hreq : req.recvHandle = handle
      · obtain ⟨hholds, hanswer, -⟩ := h.holds.recv hl hreq hcap hh
        refine ⟨_, hholds, ?_, hflags⟩
        rw [recvAnswers_snoc, Ev.recvData, if_pos ⟨hdec, hl, hreq⟩]
        exact h.covered.serve _ _ hanswer
      · obtain ⟨hholds, -⟩ := h.holds.pass hl hreq hcap hh
        refine ⟨l, hholds, ?_, hflags⟩
        rw [recvAnswers_snoc, Ev.recvData, if_neg fun h => hreq h.2.2]
        simpa using h.covered

theorem of_run {s₀ : Sys η} (h0 : RingInv.Armed handle s₀)
    (hopen : s₀.fw.rx.peerClosed = false ∧ s₀.fw.rx.peerError = false)
    (hr : (system E).RunIf (RingServes E) s₀ tr s) :
    ∃ l, VerdictInv E handle s₀.fw.rx.tail.toNat tr s l := by
  refine hr.invariant (P := fun tr s => ∃ l, VerdictInv E handle s₀.fw.rx.tail.toNat tr s l) ?_ ?_
  · exact ⟨_, (RingInv.start (E := E) h0).holds, Lease.Covered.start _ _,
      ⟨by simp [hopen], by simp [hopen]⟩⟩
  · rintro tr s a s' e ⟨l, h⟩ hg hstep
    exact h.step hg hstep

end VerdictInv

/-! ## Nothing changes afterwards -/

/-- A verdict was given: the ring has nothing left, the pump is off. -/
structure Final (handle : UInt16) (base : Nat) (closed error : Bool) (s : Sys η) : Prop where
  owns : s.fw.rx.Owns handle
  peerClosed : s.fw.rx.peerClosed = closed
  peerError : s.fw.rx.peerError = error
  off : s.pc.onPump = false
  drained : ∃ l : Lease UInt8, s.fw.rx.Carries base l ∧ l.pos = l.stream.length ∧ l.held = 0

/-- A lease at the end of the stream hands out nothing and stays where it is. -/
theorem Lease.serve_of_drained {l : Lease UInt8} (hpos : l.pos = l.stream.length)
    (hheld : l.held = 0) (retry : Bool) (room : Nat) :
    (l.serve retry room).1 = [] ∧ (l.serve retry room).2.pos = l.stream.length ∧
      (l.serve retry room).2.held = 0 := by
  cases retry <;> simp [Lease.serve, hpos, hheld]

namespace Final

variable {E : Env η} {handle : UInt16} {base : Nat} {closed error : Bool} {s s' : Sys η} {e : Ev}
  {a : Act η}

theorem step (h : Final handle base closed error s) (hf : closed = true ∨ error = true)
    (hg : RingServes E s a) (hstep : (system E).step s a = some (s', e)) :
    Final handle base closed error s' := by
  have hflag : s.fw.rx.peerClosed = true ∨ s.fw.rx.peerError = true := by
    rw [h.peerClosed, h.peerError]
    exact hf
  have hpump := h.off
  obtain ⟨l, hcar, hpos, hheld⟩ := h.drained
  obtain ⟨hc, he, hoff⟩ : s'.fw.rx.peerClosed = closed ∧ s'.fw.rx.peerError = error ∧
      s'.pc.onPump = false := by
    cases sysStep_flags hg.1 hstep with
    | keep hc he hon =>
        refine ⟨hc.trans h.peerClosed, he.trans h.peerError, ?_⟩
        by_contra hn
        rcases hon (by simpa using hn) with hp | ⟨hc', he'⟩
        · simp [h.off] at hp
        · simp [hc', he'] at hflag
    | record hon _ _ => simp [h.off] at hon
  cases hev : e.recvReq E with
  | none =>
      cases sysStep_ring hg.1 hstep with
      | still hrx _ _ _ _ =>
          refine ⟨?_, hc, he, hoff, l, ?_, hpos, hheld⟩
          · rw [hrx]
            exact h.owns
          · rw [hrx]
            exact hcar.peer _ _
      | @dispatch req fw reply sub hd =>
          have hn : ¬ (E.hdr.decode req.cmd = some .sockRecv ∧ req.payload.length = 4) := by
            simpa [Ev.recvReq] using hev
          have hrx := (dispatch_rx hd hn).1
          exact ⟨hrx ▸ h.owns, hc, he, hoff, l, hrx ▸ hcar, hpos, hheld⟩
      | pass hpc _ => simp [hpc, Pc.onPump] at hpump
      | data hpc _ => simp [hpc, Pc.onPump] at hpump
      | store _ hpc => simp [hpc, Pc.onPump] at hpump
      | advance hpc _ _ => simp [hpc, Pc.onPump] at hpump
  | some req =>
      obtain ⟨reply, sub, hdec, hl, rfl⟩ := dispatch_of_recvReq hev
      obtain rfl := act_of_dispatch hstep
      obtain ⟨fw, hd, rfl, -⟩ := (sysStep_core hstep).dispatch_inv
      have hcap := hg.2 _ rfl hdec
      have hh := handleSockRecv_of_dispatch hdec hd
      have hfree := Pc.pumping_of_off hpump
      have hholds : RingHolds handle base [.lwipRecv l.stream] s l :=
        ⟨h.owns, hcar, .of_free hfree, by simp [delivered, Ev.delivered,
          Pc.filling_of_not_pumping hfree]⟩
      by_cases hreq : req.recvHandle = handle
      · obtain ⟨hholds', -, -⟩ := @RingHolds.recv _ _ _ _ _ _ hholds req fw reply sub hl hreq hcap hh
        obtain ⟨-, hpos', hheld'⟩ := Lease.serve_of_drained hpos hheld (s.replays req) req.recvRoom
        exact ⟨hholds'.owns, hc, he, hoff, _, hholds'.carries, hpos', hheld'⟩
      · obtain ⟨hholds', -⟩ := @RingHolds.pass _ _ _ _ _ _ hholds req fw reply sub hl hreq hcap hh
        exact ⟨hholds'.owns, hc, he, hoff, l, hholds'.carries, hpos, hheld⟩

theorem of_run (h : Final handle base closed error s) (hf : closed = true ∨ error = true)
    {tr : List Ev} (hr : (system E).RunIf (RingServes E) s tr s') :
    Final handle base closed error s' :=
  hr.invariant (P := fun _ s => Final handle base closed error s) h
    fun _ _ _ _ _ h hg hstep => h.step hf hg hstep

/-- Every receive is then answered with the verdict. -/
theorem reply_eq (h : Final handle base closed error s) {req : Request} {fw : Fw η} {reply : Reply}
    (hdec : E.hdr.decode req.cmd = some .sockRecv) (hl : req.payload.length = 4)
    (hreq : req.recvHandle = handle) (hcap : sockRecvRespBytes < req.cap)
    (hd : protocolDispatch E s.fw req.cmd req.flags req.payload req.cap = (fw, reply)) :
    reply = ringVerdict closed error req.recvKey.maxLen := by
  obtain ⟨l, hcar, hpos, hheld⟩ := h.drained
  obtain ⟨hnil, -⟩ := Lease.serve_of_drained hpos hheld (s.replays req) req.recvRoom
  rw [dispatch_ringReply h.owns hcar hdec hl hreq hcap hd, hnil, ringReply, if_pos rfl,
    h.peerClosed, h.peerError]

end Final

/-! ## The guarantee -/

/-- A receive of nonzero length leaves room for data. -/
theorem recvRoom_pos {req : Request} (hlen : req.recvKey.maxLen ≠ 0)
    (hcap : sockRecvRespBytes < req.cap) : 0 < req.recvRoom := by
  have hpos : req.recvKey.maxLen.toNat ≠ 0 := fun h => hlen (UInt16.toNat_inj.mp h)
  unfold Request.recvRoom sockRecvRoom
  rw [if_neg hlen]
  omega

/-- If nothing is handed out although there is room, the lease is at the end of the stream. -/
theorem Lease.drained_of_serve {l : Lease UInt8} {retry : Bool} {room : Nat} (hroom : 0 < room)
    (hend : l.pos + l.held ≤ l.stream.length) (h : (l.serve retry room).1 = []) :
    (l.serve retry room).2.pos = l.stream.length ∧ (l.serve retry room).2.held = 0 := by
  have hheld : (l.serve retry room).2.held = 0 := congrArg List.length h
  have hmin := l.serve_held retry room
  have hle := l.serve_end_le retry room hend
  omega

/-- A reply that ends the stream: a failure, or a success without data. -/
def EndsStream (reply : Reply) : Prop := reply.status = .errRadio ∨ recvAnswer reply = some []

/-- A reply that ends the stream is a verdict. -/
theorem ringReply_endsStream {rx : RxRing} {out : List UInt8} {maxLen : UInt16}
    (hlen : maxLen ≠ 0) (h : EndsStream (ringReply rx out maxLen)) :
    out = [] ∧ (rx.peerClosed = true ∨ rx.peerError = true) := by
  unfold ringReply at h
  by_cases hnil : out = []
  · rw [if_pos hnil] at h
    refine ⟨hnil, ?_⟩
    by_contra hn
    push Not at hn
    simp [ringVerdict, hn, hlen, EndsStream, recvAnswer] at h
  · rw [if_neg hnil] at h
    rcases h with h | h
    · simp at h
    · rw [recvAnswer, if_pos rfl, List.drop_left' (length_sockRecvRespHeader _)] at h
      exact absurd (Option.some.inj h) hnil

/-- A reply of failure is given only if one was recorded, whatever was asked for. -/
theorem ringReply_errRadio {rx : RxRing} {out : List UInt8} {maxLen : UInt16}
    (h : (ringReply rx out maxLen).status = .errRadio) : rx.peerError = true := by
  unfold ringReply ringVerdict at h
  split_ifs at h <;> first | assumption | simp at h

/-- A well-formed receive on `handle` that leaves room for data. -/
structure RecvOn (E : Env η) (handle : UInt16) (req : Request) : Prop where
  dec : E.hdr.decode req.cmd = some .sockRecv
  length : req.payload.length = 4
  handle : req.recvHandle = handle
  cap : sockRecvRespBytes < req.cap

namespace VerdictInv

variable {E : Env η} {handle : UInt16} {base : Nat} {tr : List Ev} {s : Sys η} {l : Lease UInt8}

theorem reply_eq (h : VerdictInv E handle base tr s l) {req : Request} {fw : Fw η} {reply : Reply}
    (hreq : RecvOn E handle req)
    (hd : protocolDispatch E s.fw req.cmd req.flags req.payload req.cap = (fw, reply)) :
    reply = ringReply s.fw.rx (l.serve (s.replays req) req.recvRoom).1 req.recvKey.maxLen :=
  dispatch_ringReply h.holds.owns h.holds.carries hreq.dec hreq.length hreq.handle hreq.cap hd

/-- When a reply ends the stream, everything was handed out and the ring is at its end. -/
theorem endsStream (h : VerdictInv E handle base tr s l) {req : Request} {fw : Fw η} {reply : Reply}
    (hreq : RecvOn E handle req) (hlen : req.recvKey.maxLen ≠ 0)
    (hd : protocolDispatch E s.fw req.cmd req.flags req.payload req.cap = (fw, reply))
    (hend : EndsStream reply) :
    (s.fw.rx.peerClosed = true ∨ s.fw.rx.peerError = true) ∧
      (∃ parts : List (List UInt8), parts.Sublist (recvAnswers E handle tr) ∧
        parts.flatten = delivered tr) ∧
      Final handle base s.fw.rx.peerClosed s.fw.rx.peerError { s with fw := fw } := by
  rw [h.reply_eq hreq hd] at hend
  obtain ⟨hnil, hflag⟩ := ringReply_endsStream hlen hend
  have hoff := h.flags.off hflag
  obtain ⟨hpos, hheld⟩ := Lease.drained_of_serve (recvRoom_pos hlen hreq.cap)
    h.holds.carries.leased hnil
  refine ⟨hflag, ?_, ?_⟩
  · -- the stream ends where the lease did
    have hstream : delivered tr = l.stream := by
      rw [h.holds.stream, Pc.filling_of_not_pumping (Pc.pumping_of_off hoff), List.append_nil]
    have hcovered := @Lease.Covered.serve _ _ _ h.covered (s.replays req) req.recvRoom none
      (.inr ⟨rfl, hnil⟩)
    obtain ⟨parts, hparts, hflat⟩ := hcovered.given
    refine ⟨parts, by simpa using hparts, ?_⟩
    rw [hflat, hpos, hstream]
    exact List.take_length
  · have hh := handleSockRecv_of_dispatch hreq.dec hd
    obtain ⟨hholds, -, -⟩ := @RingHolds.recv _ _ _ _ _ _ h.holds req fw reply none hreq.length
      hreq.handle hreq.cap hh
    obtain ⟨hc, he⟩ := dispatch_flags hd
    exact ⟨hholds.owns, hc, he, hoff, _, hholds.carries, hpos, hheld⟩

/-- An empty ring has nothing for a receive, and a ring whose bytes were all served has nothing for
a new one. -/
theorem serve_of_empty (h : VerdictInv E handle base tr s l) {req : Request}
    (hempty : s.fw.rx.ringUsed = 0 ∨
      s.replays req = false ∧ s.fw.rx.ringUsed = s.fw.rx.uncommitted) :
    (l.serve (s.replays req) req.recvRoom).1 = [] := by
  have hcar := h.holds.carries
  have hleased := hcar.leased
  have hroom := hcar.used
  have hused := hcar.ringUsed_eq
  have hheld : s.fw.rx.uncommitted.toNat = l.held := by
    rw [hcar.held]
    apply UInt32.toNat_ofNat_of_lt'
    unfold UInt32.size
    unfold sockRingBytes at hroom
    omega
  have hpos : l.stream.length ≤ (l.serve (s.replays req) req.recvRoom).2.pos := by
    rcases hempty with h0 | ⟨hnew, heq⟩
    · have hle := l.pos_le_serve (s.replays req) req.recvRoom
      rw [h0] at hused
      change 0 = _ at hused
      omega
    · rw [heq, hheld] at hused
      rw [hnew]
      change l.stream.length ≤ l.pos + l.held
      omega
  rw [l.serve_fst, List.drop_eq_nil_of_le hpos, List.take_nil]

end VerdictInv

/-- The end of the stream comes last, and stays.  Take any interleaving from a freshly armed ring on,
in which the ring is neither armed again nor given up, and any receive on the handle.  A failure is
reported only if the pump has recorded one.  When a receive of nonzero length is answered with a
failure, or with success and no data, the pump has recorded the failure, or the orderly close, every
byte it received was handed out in a reply, and every later receive of nonzero length gets the same
reply.  And while neither is recorded, a receive of nonzero length that finds nothing to serve is
answered `BUSY`. -/
theorem ring_verdict_last {E : Env η} {handle : UInt16} {s₀ s : Sys η} {tr : List Ev}
    (h0 : RingInv.Armed handle s₀)
    (hopen : s₀.fw.rx.peerClosed = false ∧ s₀.fw.rx.peerError = false)
    (hr : (system E).RunIf (RingServes E) s₀ tr s) {req : Request} {fw : Fw η} {reply : Reply}
    (hreq : RecvOn E handle req)
    (hd : protocolDispatch E s.fw req.cmd req.flags req.payload req.cap = (fw, reply)) :
    (reply.status = .errRadio → s.fw.rx.peerError = true) ∧
    (req.recvKey.maxLen ≠ 0 → EndsStream reply →
      (reply.status = .errRadio ∧ s.fw.rx.peerError = true ∨
        reply.status = .ok ∧ s.fw.rx.peerClosed = true) ∧
      (∃ parts : List (List UInt8), parts.Sublist (recvAnswers E handle tr) ∧
        parts.flatten = delivered tr) ∧
      ∀ tr' s' req' fw' reply', (system E).RunIf (RingServes E) { s with fw := fw } tr' s' →
        RecvOn E handle req' → req'.recvKey.maxLen ≠ 0 →
        protocolDispatch E s'.fw req'.cmd req'.flags req'.payload req'.cap = (fw', reply') →
        reply' = reply) ∧
    (req.recvKey.maxLen ≠ 0 → s.fw.rx.peerClosed = false → s.fw.rx.peerError = false →
      s.fw.rx.ringUsed = 0 ∨ s.replays req = false ∧ s.fw.rx.ringUsed = s.fw.rx.uncommitted →
      reply = .bare .errBusy) := by
  obtain ⟨l, h⟩ := VerdictInv.of_run h0 hopen hr
  have hreply := h.reply_eq hreq hd
  refine ⟨?_, ?_, ?_⟩
  · intro hst
    rw [hreply] at hst
    exact ringReply_errRadio hst
  · intro hlen hend
    obtain ⟨hflag, hparts, hfinal⟩ := h.endsStream hreq hlen hd hend
    have hnil : (l.serve (s.replays req) req.recvRoom).1 = [] := by
      rw [hreply] at hend
      exact (ringReply_endsStream hlen hend).1
    have hverdict : reply = ringVerdict s.fw.rx.peerClosed s.fw.rx.peerError req.recvKey.maxLen := by
      rw [hreply, hnil, ringReply, if_pos rfl]
    refine ⟨?_, hparts, ?_⟩
    · rw [hverdict]
      cases hc : s.fw.rx.peerClosed with
      | true => exact .inr ⟨rfl, rfl⟩
      | false =>
          have he : s.fw.rx.peerError = true := by simpa [hc] using hflag
          exact .inl ⟨by simp [ringVerdict, he], he⟩
    · intro tr' s' req' fw' reply' hr' hreq' hlen' hd'
      rw [(hfinal.of_run hflag hr').reply_eq hreq'.dec hreq'.length hreq'.handle hreq'.cap hd',
        hverdict]
      unfold ringVerdict
      split_ifs <;> simp_all
  · intro hlen hc he hempty
    rw [hreply, h.serve_of_empty hempty, ringReply, if_pos rfl]
    simp [ringVerdict, hc, he, hlen]

open Act in
/-- Three bytes arrive on the armed handle, and then the connection is reset. -/
def resetStream : List (Act Unit) :=
  List.replicate 6 task ++ [pump, task, lwip (.data [1, 2, 3])] ++ List.replicate 4 task ++
    [pump, task, lwip .error]

instance (handle : UInt16) (s : Sys η) : Decidable (RingInv.Armed handle s) :=
  decidable_of_iff (s.fw.rx.Owns handle ∧ s.fw.rx.head = s.fw.rx.tail ∧
      s.fw.rx.uncommitted = 0 ∧ s.pc.pumping = false)
    ⟨fun h => ⟨h.1, h.2.1, h.2.2.1, h.2.2.2⟩, fun h => ⟨h.owns, h.empty, h.unleased, h.pump⟩⟩

/-- The reference build answers a receive on handle 1. -/
def answer (fw : Fw Unit) (req : Request) : Fw Unit × Reply :=
  protocolDispatch .reference fw req.cmd req.flags req.payload req.cap

/-- The receive that follows gets the bytes; the next one, and those after it, get the failure. -/
theorem ring_verdict_last_resetStream :
    ∃ s₀ tr₀ s tr, (system .reference).Run (.boot ()) tr₀ s₀ ∧
      (system .reference).RunIf (RingServes .reference) s₀ tr s ∧
      (answer s.fw (.of .sockRecv 2 [1, 0, 4, 0])).2 = .bare .errRadio ∧
      s.fw.rx.peerError = true ∧
      (∃ parts : List (List UInt8), parts.Sublist (recvAnswers .reference 1 tr) ∧
        parts.flatten = [1, 2, 3]) ∧
      (answer (answer s.fw (.of .sockRecv 2 [1, 0, 4, 0])).1 (.of .sockRecv 3 [1, 0, 4, 0])).2 =
        .bare .errRadio := by
  have hexec : ((system .reference).exec (.boot ()) streamConnect).bind (fun p =>
      ((system .reference).execIf (RingServes .reference) p.1
          (resetStream ++ [.dispatch (.of .sockRecv 1 [1, 0, 4, 0])])).map fun q =>
        (decide (RingInv.Armed 1 p.1), (p.1.fw.rx.peerClosed, p.1.fw.rx.peerError), delivered q.2,
          (answer q.1.fw (.of .sockRecv 2 [1, 0, 4, 0])).2)) =
      some (true, (false, false), [1, 2, 3], .bare .errRadio) := by decide +kernel
  obtain ⟨⟨s₀, tr₀⟩, hs₀, hexec⟩ := Option.bind_eq_some_iff.mp hexec
  obtain ⟨⟨s, tr⟩, hs, heq⟩ := Option.map_eq_some_iff.mp hexec
  simp only [Prod.mk.injEq, decide_eq_true_eq] at heq
  obtain ⟨harmed, hopen, hdel, hreply⟩ := heq
  have hr := Machine.runIf_of_execIf hs
  have hhandle : wordAt [1, 0, 4, 0] 0 = 1 := by decide
  have hcap : sockRecvRespBytes < Env.reference.build.replyDataMax := by decide
  have hon : ∀ seq, RecvOn .reference 1 (.of .sockRecv seq [1, 0, 4, 0]) := fun _ =>
    ⟨rfl, rfl, hhandle, hcap⟩
  have hd : answer s.fw (.of .sockRecv 2 [1, 0, 4, 0]) =
      ((answer s.fw (.of .sockRecv 2 [1, 0, 4, 0])).1, .bare .errRadio) := by rw [← hreply]
  obtain ⟨hrec, hend, -⟩ := ring_verdict_last harmed hopen hr (hon 2) hd
  obtain ⟨-, hparts, hlater⟩ := hend (by decide) (.inl rfl)
  rw [hdel] at hparts
  exact ⟨s₀, tr₀, s, tr, Machine.run_of_exec hs₀, hr, hreply, hrec rfl, hparts,
    hlater [] _ (.of .sockRecv 3 [1, 0, 4, 0]) _ _ .nil (hon 3) (by decide) rfl⟩

/-- A receive of length zero, sent before, is told of the failure while all three bytes are still in
the ring and none was handed out. -/
theorem zero_length_receive_fails_early :
    ∃ s₀ tr₀ s tr, (system .reference).Run (.boot ()) tr₀ s₀ ∧
      RingInv.Armed 1 s₀ ∧ (s₀.fw.rx.peerClosed = false ∧ s₀.fw.rx.peerError = false) ∧
      (system .reference).RunIf (RingServes .reference) s₀ tr s ∧
      RecvOn .reference 1 (.of .sockRecv 1 [1, 0, 0, 0]) ∧
      (answer s.fw (.of .sockRecv 1 [1, 0, 0, 0])).2 = .bare .errRadio ∧
      delivered tr = [1, 2, 3] ∧
      ¬ ∃ parts : List (List UInt8), parts.Sublist (recvAnswers .reference 1 tr) ∧
        parts.flatten = delivered tr := by
  have hexec : ((system .reference).exec (.boot ()) streamConnect).bind (fun p =>
      ((system .reference).execIf (RingServes .reference) p.1 resetStream).map fun q =>
        (decide (RingInv.Armed 1 p.1 ∧ p.1.fw.rx.peerClosed = false ∧ p.1.fw.rx.peerError = false),
          delivered q.2, recvAnswers .reference 1 q.2,
          (answer q.1.fw (.of .sockRecv 1 [1, 0, 0, 0])).2)) =
      some (true, [1, 2, 3], [], .bare .errRadio) := by decide +kernel
  obtain ⟨⟨s₀, tr₀⟩, hs₀, hexec⟩ := Option.bind_eq_some_iff.mp hexec
  obtain ⟨⟨s, tr⟩, hs, heq⟩ := Option.map_eq_some_iff.mp hexec
  simp only [Prod.mk.injEq, decide_eq_true_eq] at heq
  obtain ⟨⟨harmed, hopen⟩, hdel, hnone, hreply⟩ := heq
  refine ⟨s₀, tr₀, s, tr, Machine.run_of_exec hs₀, harmed, hopen, Machine.runIf_of_execIf hs,
    ⟨rfl, rfl, by decide, by decide⟩, hreply, hdel, ?_⟩
  rintro ⟨parts, hparts, hflat⟩
  rw [hnone, List.sublist_nil] at hparts
  rw [hparts, hdel] at hflat
  simp at hflat

end Cc3501eBridge
