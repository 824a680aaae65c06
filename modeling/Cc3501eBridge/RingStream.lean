import Cc3501eBridge.RingLease
import Cc3501eBridge.Reference
import Cc3501eBridge.Steps

/-!
# The stream behind the prefetch ring

What a host reads through the ring of an armed socket is the stream lwIP delivered: nothing lost,
repeated or reordered, however the pump and the receives interleave and however often the counters
wrap.  The host must keep to its side of the protocol (`HostRecvs`): a new receive has a sequence
number of its own, and a lost reply is asked for again by the same frame.

`RingStep` inverts `sysStep` as far as the ring is concerned.  The invariant `RingInv` exhibits the
lease the ring implements and relates it to the host's ledger of receives, which is read off the
history.
-/

namespace Cc3501eBridge

variable {η : Type}

open Trace

/-! ## The stream and the receives of a history -/

/-- What `lwip_recv` delivered to the pump. -/
def Ev.delivered : Ev → List UInt8
  | .lwipRecv bytes => bytes
  | _ => []

/-- The byte stream of a history. -/
def delivered (tr : List Ev) : List UInt8 := tr.flatMap Ev.delivered

@[simp] theorem delivered_snoc (tr : List Ev) (e : Ev) :
    delivered (tr ++ [e]) = delivered tr ++ e.delivered := by
  simp [delivered]

/-- The handle a receive is on. -/
def Request.recvHandle (req : Request) : UInt16 := wordAt req.payload 0

/-- The identity of a receive. -/
def Request.recvKey (req : Request) : RecvKey := sockRecvKey (reqSeq req.flags) req.payload

/-- The room for data in the reply to a receive. -/
def Request.recvRoom (req : Request) : Nat := sockRecvRoom req.recvKey req.cap

/-- A well-formed `SOCK_RECV` is dispatched. -/
def Ev.recvReq (E : Env η) : Ev → Option Request
  | .dispatch req _ _ =>
      if E.hdr.decode req.cmd = some .sockRecv ∧ req.payload.length = 4 then some req else none
  | _ => none

/-- One more event in the ledger of the receives on `handle`. -/
def Ledger.record (E : Env η) (handle : UInt16) (L : Ledger Request UInt8) (e : Ev) :
    Ledger Request UInt8 :=
  match e with
  | .dispatch req reply _ =>
      if E.hdr.decode req.cmd = some .sockRecv ∧ req.payload.length = 4 then
        if req.recvHandle = handle then L.note req (recvAnswer reply) else L.pass
      else L
  | _ => L

/-- The receives on `handle` in a history, newest first, with the data of their successful
replies. -/
def recvLedger (E : Env η) (handle : UInt16) (tr : List Ev) : Ledger Request UInt8 :=
  tr.foldl (Ledger.record E handle) .empty

@[simp] theorem recvLedger_snoc (E : Env η) (handle : UInt16) (tr : List Ev) (e : Ev) :
    recvLedger E handle (tr ++ [e]) = (recvLedger E handle tr).record E handle e := by
  simp [recvLedger, List.foldl_append]

/-- The host may send the receive `req` after the receive `prev`: it repeats it, frame by frame, or
has another sequence number; and it leaves room for a reply. -/
def HostRecv (prev : Option Request) (req : Request) : Prop :=
  reqSeq req.flags ≠ 0 ∧ sockRecvRespBytes < req.cap ∧
    ∀ p ∈ prev, req = p ∨ reqSeq req.flags ≠ reqSeq p.flags

instance (prev : Option Request) (req : Request) : Decidable (HostRecv prev req) :=
  inferInstanceAs (Decidable (_ ∧ _ ∧ _))

/-- The host's side of the protocol, at every receive of a history. -/
def HostRecvs (E : Env η) (tr : List Ev) : Prop :=
  ∀ k < tr.length, ∀ req ∈ tr[k]?.bind (Ev.recvReq E),
    HostRecv (latest (Ev.recvReq E) (tr.take k)) req

instance (E : Env η) (tr : List Ev) : Decidable (HostRecvs E tr) :=
  inferInstanceAs (Decidable (∀ k < tr.length, _))

theorem HostRecvs.init {E : Env η} {tr : List Ev} {e : Ev} (h : HostRecvs E (tr ++ [e])) :
    HostRecvs E tr := by
  intro k hk req hreq
  have hlast := h k (by rw [List.length_append]; omega) req
  rw [List.getElem?_append_left hk, List.take_append_of_le_length (Nat.le_of_lt hk)] at hlast
  exact hlast hreq

theorem HostRecvs.last {E : Env η} {tr : List Ev} {e : Ev} (h : HostRecvs E (tr ++ [e]))
    {req : Request} (hreq : e.recvReq E = some req) :
    HostRecv (latest (Ev.recvReq E) tr) req := by
  have hlast := h tr.length (by simp) req (by simp [hreq])
  rwa [List.take_left] at hlast

/-! ## Steps, as the ring sees them -/

namespace Pc

/-- The bytes the pump is storing. -/
def filling : Pc → List UInt8
  | .pumpFill _ _ _ data _ => data
  | _ => []

/-- The pump is at work on the ring's cells. -/
def pumping : Pc → Bool
  | .pumpRecv _ _ _ | .pumpFill _ _ _ _ _ => true
  | _ => false

theorem filling_of_not_pumping {pc : Pc} (h : pc.pumping = false) : pc.filling = [] := by
  cases pc <;> first | rfl | simp [pumping] at h

end Pc

/-- The task makes no store of arming or giving up the ring. -/
def RingKept (s : Sys η) (a : Act η) : Prop := a.isTask = true → s.pending = []

instance (s : Sys η) (a : Act η) : Decidable (RingKept s a) :=
  inferInstanceAs (Decidable (_ → _))

/-- The kinds of step that keep the ring armed. -/
inductive RingStep (E : Env η) (s : Sys η) : Sys η → Ev → Prop
  | /-- At most the peer's flags change, and the pump does not touch the ring. -/
    still {s' : Sys η} {e : Ev} {closed error : Bool} :
      s'.fw.rx = { s.fw.rx with peerClosed := closed, peerError := error } →
      s'.fw.last = s.fw.last → (s'.pc = s.pc ∨ s.pc.filling = [] ∧ s'.pc.pumping = false) →
      e.delivered = [] → (∀ req reply sub, e ≠ .dispatch req reply sub) → RingStep E s s' e
  | dispatch {req : Request} {fw : Fw η} {reply : Reply} {sub : Option Nat} :
      protocolDispatch E s.fw req.cmd req.flags req.payload req.cap = (fw, reply) →
      RingStep E s { s with fw := fw } (.dispatch req reply sub)
  | pass {pass idx chunk : Nat} :
      s.pc = .pumpPass pass → sockPumpPass s.fw.rx = some (idx, chunk) →
      RingStep E s { s with pc := .pumpRecv pass idx chunk } .tau
  | data {pass idx chunk : Nat} {bytes : List UInt8} :
      s.pc = .pumpRecv pass idx chunk → bytes.length ≤ chunk →
      RingStep E s { s with pc := .pumpFill pass idx chunk bytes 0 } (.lwipRecv bytes)
  | store {pass idx chunk : Nat} {bytes : List UInt8} {i : Nat} (h : i < bytes.length) :
      s.pc = .pumpFill pass idx chunk bytes i →
      RingStep E s
        { s with
          fw := { s.fw with rx := sockPumpStore s.fw.rx (idx + i) bytes[i] }
          pc := .pumpFill pass idx chunk bytes (i + 1) } .tau
  | advance {pass idx chunk : Nat} {bytes : List UInt8} {i : Nat} {pc : Pc} :
      s.pc = .pumpFill pass idx chunk bytes i → bytes.length ≤ i → pc.pumping = false →
      RingStep E s
        { s with fw := { s.fw with rx := sockPumpAdvance s.fw.rx bytes.length }, pc := pc } .tau

section

variable {E : Env η} {s s' : Sys η} {e : Ev}

/-- A step that does not concern the ring at all. -/
private theorem RingStep.idle (hrx : s'.fw.rx = s.fw.rx) (hlast : s'.fw.last = s.fw.last)
    (hpc : s'.pc = s.pc ∨ s.pc.pumping = false ∧ s'.pc.pumping = false) (hd : e.delivered = [])
    (he : ∀ req reply sub, e ≠ .dispatch req reply sub) : RingStep E s s' e :=
  .still (hrx.trans rfl) hlast (hpc.imp_right fun h => ⟨Pc.filling_of_not_pumping h.1, h.2⟩) hd he

private theorem taskStep_ring (h : taskStep E s = some (s', e)) : RingStep E s s' e := by
  unfold taskStep at h
  cases hpc : s.pc with
  | pumpPass pass =>
      have hfree : s.pc.pumping = false := by rw [hpc]; rfl
      simp only [hpc] at h
      split_ifs at h
      · cases hp : sockPumpPass s.fw.rx with
        | none =>
            simp only [hp] at h
            obtain ⟨rfl, rfl⟩ := by simpa using h
            exact .idle rfl rfl (.inr ⟨hfree, rfl⟩) rfl (by simp)
        | some p =>
            simp only [hp] at h
            obtain ⟨rfl, rfl⟩ := by simpa using h
            exact .pass hpc hp
      · obtain ⟨rfl, rfl⟩ := by simpa using h
        exact .idle rfl rfl (.inr ⟨hfree, rfl⟩) rfl (by simp)
  | pumpRecv pass idx chunk => simp [hpc] at h
  | pumpFill pass idx chunk bytes i =>
      simp only [hpc] at h
      split_ifs at h with hi hn
      · obtain ⟨rfl, rfl⟩ := by simpa using h
        exact .store hi hpc
      all_goals
        obtain ⟨rfl, rfl⟩ := by simpa using h
        exact .advance hpc (Nat.le_of_not_lt hi) rfl
  | hal cmd call => simp [hpc] at h
  | _ =>
      have hfree : s.pc.pumping = false := by rw [hpc]; rfl
      simp only [hpc] at h
      (try split_ifs at h) <;>
        (obtain ⟨rfl, rfl⟩ := by simpa using h) <;>
        exact .idle rfl rfl (.inr ⟨hfree, by first | rfl | rw [hpc]; rfl⟩) rfl (by simp)

/-- Every step of the machine that keeps the ring armed is of one of the kinds. -/
theorem sysStep_ring {a : Act η} (hk : RingKept s a) (h : (system E).step s a = some (s', e)) :
    RingStep E s s' e := by
  change sysStep E s a = _ at h
  cases a with
  | dispatch req =>
      obtain ⟨rfl, rfl⟩ := by simpa [sysStep] using h
      exact .dispatch rfl
  | task =>
      have hp := hk rfl
      simp only [sysStep, hp] at h
      exact taskStep_ring h
  | ret r =>
      simp only [sysStep, retStep] at h
      cases hpc : s.pc with
      | hal cmd call =>
          simp only [hpc] at h
          by_cases hr : s.pending = [] ∧ r.fits call = true ∧ lwipAllows s.isOpen r call = true
          · rw [if_pos hr] at h
            obtain ⟨rfl, rfl⟩ := Prod.mk.inj (Option.some.inj h)
            refine .idle rfl rfl (.inr ⟨by rw [hpc]; rfl, ?_⟩) rfl (by simp)
            dsimp only
            split_ifs <;> rfl
          · rw [if_neg hr] at h
            simp at h
      | _ => simp [hpc] at h
  | pump =>
      simp only [sysStep] at h
      split at h
      · next hpc _ _ =>
        obtain ⟨rfl, rfl⟩ := by simpa using h
        exact .idle rfl rfl (.inr ⟨by rw [hpc]; rfl, rfl⟩) rfl (by simp)
      · simp at h
  | lwip r =>
      simp only [sysStep, lwipStep] at h
      cases hpc : s.pc with
      | pumpRecv pass idx chunk =>
          simp only [hpc] at h
          have hfill : s.pc.filling = [] := by rw [hpc]; rfl
          cases r with
          | data bytes =>
              simp only at h
              split_ifs at h with hb
              obtain ⟨rfl, rfl⟩ := by simpa using h
              exact .data hpc hb.2
          | _ =>
              obtain ⟨rfl, rfl⟩ := by simpa using h
              exact .still rfl rfl (.inr ⟨hfill, rfl⟩) rfl (by simp)
      | _ => simp [hpc] at h
  | accept listener handle port addr =>
      simp only [sysStep] at h
      cases hpc : s.pc with
      | loop =>
          simp only [hpc] at h
          split_ifs at h
          obtain ⟨rfl, rfl⟩ := by simpa using h
          exact .idle rfl rfl (.inr ⟨by rw [hpc]; rfl, rfl⟩) rfl (by simp)
      | _ => simp [hpc] at h
  | event opcode payload =>
      obtain ⟨rfl, rfl⟩ := by simpa [sysStep] using h
      exact .idle rfl rfl (.inl rfl) rfl (by simp)
  | hal h' =>
      obtain ⟨rfl, rfl⟩ := by simpa [sysStep] using h
      exact .idle rfl rfl (.inl rfl) rfl (by simp)
  | stats st =>
      obtain ⟨rfl, rfl⟩ := by simpa [sysStep] using h
      exact .idle rfl rfl (.inl rfl) rfl (by simp)

end

/-! ## The invariant -/

/-- Where the pump stands: it works in a window, and its bytes are in place up to where it is. -/
def PumpAt (base : Nat) (l : Lease UInt8) (r : RxRing) : Pc → Prop
  | .pumpRecv _ idx chunk => RxRing.Window base l idx chunk
  | .pumpFill _ idx chunk data i =>
      RxRing.Window base l idx chunk ∧ data.length ≤ chunk ∧
        ∀ j (hj : j < data.length), j < i → r.buf (idx + j) = data[j]
  | _ => True

theorem PumpAt.of_free {base : Nat} {l : Lease UInt8} {r : RxRing} {pc : Pc}
    (h : pc.pumping = false) : PumpAt base l r pc := by
  cases pc <;> trivial

/-- A receive does not disturb the pump. -/
theorem PumpAt.serve {base : Nat} {l : Lease UInt8} {r r' : RxRing} {pc : Pc}
    (h : PumpAt base l r pc) (hbuf : r'.buf = r.buf) (retry : Bool) (room : Nat) :
    PumpAt base (l.serve retry room).2 r' pc := by
  cases pc with
  | pumpRecv pass idx chunk => exact RxRing.Window.serve h retry room
  | pumpFill pass idx chunk data i =>
      obtain ⟨hw, hlen, hdata⟩ := h
      exact ⟨hw.serve retry room, hlen, hbuf ▸ hdata⟩
  | _ => trivial

/-- The ring of `handle` implements the lease `l` on what `lwip_recv` delivered. -/
structure RingHolds (handle : UInt16) (base : Nat) (tr : List Ev) (s : Sys η)
    (l : Lease UInt8) : Prop where
  owns : s.fw.rx.Owns handle
  carries : s.fw.rx.Carries base l
  pump : PumpAt base l s.fw.rx s.pc
  stream : delivered tr = l.stream ++ s.pc.filling

namespace RingHolds

variable {E : Env η} {handle : UInt16} {base : Nat} {tr : List Ev} {s s' : Sys η} {e : Ev}
  {l : Lease UInt8}

/-- A dispatch that leaves the ring alone. -/
theorem dispatch (h : RingHolds handle base tr s l) {req : Request} {fw : Fw η} {reply : Reply}
    {sub : Option Nat} (hrx : fw.rx = s.fw.rx) :
    RingHolds handle base (tr ++ [.dispatch req reply sub]) { s with fw := fw } l := by
  refine ⟨hrx ▸ h.owns, hrx ▸ h.carries, hrx ▸ h.pump, ?_⟩
  rw [delivered_snoc]
  exact (List.append_nil _).trans h.stream

/-- A receive on the handle: it is answered with what the lease hands out. -/
theorem recv (h : RingHolds handle base tr s l) {req : Request} {fw : Fw η} {reply : Reply}
    {sub : Option Nat} (hl : req.payload.length = 4) (hreq : req.recvHandle = handle)
    (hcap : sockRecvRespBytes < req.cap)
    (hd : handleSockRecv (s.fw.latchSeq req) req.payload req.cap = (fw, reply)) :
    let out := l.serve (decide (req.recvKey.seq ≠ 0 ∧ req.recvKey = s.fw.last)) req.recvRoom
    RingHolds handle base (tr ++ [.dispatch req reply sub]) { s with fw := fw } out.2 ∧
      (recvAnswer reply = some out.1 ∨ recvAnswer reply = none ∧ out.1 = []) ∧
      fw.last = req.recvKey := by
  intro out
  have hown : (s.fw.latchSeq req).rx.Owns req.recvHandle := by
    rw [hreq]
    exact h.owns
  obtain ⟨r, hring, hr⟩ := handleSockRecv_of_owns hl hcap hown
  rw [hd] at hring hr
  obtain rfl : reply = r := hr
  obtain ⟨hanswer, hcar, howns, hbuf, hlast⟩ := sockRecvFromRing_serve hring hcap h.carries hown
  refine ⟨⟨hreq ▸ howns, hcar, h.pump.serve hbuf _ _, ?_⟩, hanswer, hlast⟩
  change _ = l.stream ++ s.pc.filling
  rw [delivered_snoc, ← h.stream]
  exact List.append_nil _

/-- A receive on another handle. -/
theorem pass (h : RingHolds handle base tr s l) {req : Request} {fw : Fw η} {reply : Reply}
    {sub : Option Nat} (hl : req.payload.length = 4) (hreq : req.recvHandle ≠ handle)
    (hcap : sockRecvRespBytes < req.cap)
    (hd : handleSockRecv (s.fw.latchSeq req) req.payload req.cap = (fw, reply)) :
    RingHolds handle base (tr ++ [.dispatch req reply sub]) { s with fw := fw } l ∧
      fw.last = req.recvKey := by
  have hown : ¬ (s.fw.latchSeq req).rx.Owns (wordAt req.payload 0) := fun hown =>
    hreq (hown.1.symm.trans h.owns.1)
  obtain ⟨hrx, hlast⟩ := @handleSockRecv_of_not_owns _ _ _ req.cap hl hown
  rw [hd] at hrx hlast
  refine ⟨h.dispatch hrx, ?_⟩
  rw [hlast, sockRecvLast, if_neg (by omega)]
  rfl

/-- A step without a receive: what the pump has stored may join the stream. -/
theorem step_of_not_recv (h : RingHolds handle base tr s l) (hs : RingStep E s s' e)
    (he : e.recvReq E = none) :
    ∃ xs, RingHolds handle base (tr ++ [e]) s' (l.push xs) ∧ s'.fw.last = s.fw.last := by
  cases hs with
  | @still _ _ closed error hrx hlast hpc hdel _ =>
      have hfill : s'.pc.filling = s.pc.filling := by
        rcases hpc with hpc | ⟨hnil, hfree⟩
        · rw [hpc]
        · rw [hnil, Pc.filling_of_not_pumping hfree]
      have hpump : PumpAt base l s'.fw.rx s'.pc := by
        rcases hpc with hpc | ⟨-, hfree⟩
        · rw [hpc, hrx]
          exact h.pump
        · exact .of_free hfree
      refine ⟨[], ⟨?_, ?_, ?_, ?_⟩, hlast⟩
      · rw [hrx]
        exact h.owns
      · rw [hrx, Lease.push_nil]
        exact h.carries.peer closed error
      · rw [Lease.push_nil]
        exact hpump
      · rw [Lease.push_nil, delivered_snoc, hdel, hfill, List.append_nil]
        exact h.stream
  | @dispatch req fw reply sub hd =>
      have hrecv : ¬ (E.hdr.decode req.cmd = some .sockRecv ∧ req.payload.length = 4) := by
        simpa [Ev.recvReq] using he
      obtain ⟨hrx, hlast⟩ := dispatch_rx hd hrecv
      refine ⟨[], ?_, hlast⟩
      rw [Lease.push_nil]
      exact h.dispatch hrx
  | @pass pass idx chunk hpc hp =>
      have hstream := h.stream
      rw [hpc] at hstream
      refine ⟨[], ?_, rfl⟩
      rw [Lease.push_nil]
      refine ⟨h.owns, h.carries, h.carries.sockPumpPass_window hp, ?_⟩
      rw [delivered_snoc]
      exact (List.append_nil _).trans hstream
  | @data pass idx chunk bytes hpc hlen =>
      have hpump := h.pump
      have hstream := h.stream
      rw [hpc] at hpump hstream
      refine ⟨[], ?_, rfl⟩
      rw [Lease.push_nil]
      refine ⟨h.owns, h.carries,
        ⟨hpump, hlen, fun j _ hj => absurd hj (Nat.not_lt_zero j)⟩, ?_⟩
      rw [delivered_snoc, hstream]
      simp [Pc.filling, Ev.delivered]
  | @store pass idx chunk bytes i hi hpc =>
      have hpump := h.pump
      have hstream := h.stream
      rw [hpc] at hpump hstream
      obtain ⟨hw, hlen, hdata⟩ := hpump
      refine ⟨[], ?_, rfl⟩
      rw [Lease.push_nil]
      refine ⟨h.owns, h.carries.sockPumpStore hw (by omega) _,
        ⟨hw, hlen, fun j hj hlt => ?_⟩, ?_⟩
      · change (s.fw.rx.buf.set (idx + i) bytes[i]) (idx + j) = bytes[j]
        by_cases heq : j = i
        · subst heq
          exact Buf.set_self _ _ _
        · rw [Buf.set_of_ne _ _ (by omega)]
          exact hdata j hj (by omega)
      · rw [delivered_snoc]
        exact (List.append_nil _).trans hstream
  | @advance pass idx chunk bytes i pc hpc hle hfree =>
      have hpump := h.pump
      have hstream := h.stream
      rw [hpc] at hpump hstream
      obtain ⟨hw, hlen, hdata⟩ := hpump
      refine ⟨bytes, ⟨h.owns, ?_, .of_free hfree, ?_⟩, rfl⟩
      · exact h.carries.sockPumpAdvance hw hlen fun j hj => hdata j hj (by omega)
      · rw [delivered_snoc, Pc.filling_of_not_pumping hfree, List.append_nil]
        exact (List.append_nil _).trans hstream

end RingHolds

/-- A receive in a history was dispatched to its handler. -/
theorem handleSockRecv_of_dispatch {E : Env η} {s : Sys η} {req : Request} {fw : Fw η}
    {reply : Reply} (hdec : E.hdr.decode req.cmd = some .sockRecv)
    (hd : protocolDispatch E s.fw req.cmd req.flags req.payload req.cap = (fw, reply)) :
    handleSockRecv (s.fw.latchSeq req) req.payload req.cap = (fw, reply) := by
  rcases dispatch_cases hd with ⟨hdec', -⟩ | ⟨c, hdec', hh⟩
  · simp [hdec] at hdec'
  · obtain rfl : Cmd.sockRecv = c := by simpa [hdec] using hdec'
    exact hh

/-- The ring of `handle` implements the lease `l`, and the host's ledger agrees with it. -/
structure RingInv (E : Env η) (handle : UInt16) (base : Nat) (tr : List Ev) (s : Sys η)
    (l : Lease UInt8) : Prop where
  owns : s.fw.rx.Owns handle
  carries : s.fw.rx.Carries base l
  pump : PumpAt base l s.fw.rx s.pc
  stream : delivered tr = l.stream ++ s.pc.filling
  accounts : Accounts Request.recvRoom l (recvLedger E handle tr)
  /-- Before the first receive nothing is leased. -/
  unasked : latest (Ev.recvReq E) tr = none → l.held = 0
  /-- The firmware remembers the last receive, and repeating it is a retry. -/
  asked : ∀ req, latest (Ev.recvReq E) tr = some req → s.fw.last = req.recvKey ∧
    ∀ k : Request, k.recvHandle = handle →
      (recvLedger E handle tr).isRetry k = decide (req = k)

namespace RingInv

variable {E : Env η} {handle : UInt16} {base : Nat} {tr : List Ev} {s s' : Sys η} {e : Ev}
  {l : Lease UInt8}

theorem holds (h : RingInv E handle base tr s l) : RingHolds handle base tr s l :=
  ⟨h.owns, h.carries, h.pump, h.stream⟩

/-- The ring's part and the host's part make the invariant. -/
private theorem of_holds (h : RingHolds handle base tr s l)
    (hacc : Accounts Request.recvRoom l (recvLedger E handle tr))
    (hunasked : latest (Ev.recvReq E) tr = none → l.held = 0)
    (hasked : ∀ req, latest (Ev.recvReq E) tr = some req → s.fw.last = req.recvKey ∧
      ∀ k : Request, k.recvHandle = handle →
        (recvLedger E handle tr).isRetry k = decide (req = k)) : RingInv E handle base tr s l :=
  ⟨h.owns, h.carries, h.pump, h.stream, hacc, hunasked, hasked⟩

/-- An event that is no receive leaves the ledger alone. -/
private theorem record_of_not_recv (he : e.recvReq E = none) (L : Ledger Request UInt8) :
    L.record E handle e = L := by
  unfold Ledger.record
  cases e with
  | dispatch req reply sub =>
      have hn : ¬ (E.hdr.decode req.cmd = some .sockRecv ∧ req.payload.length = 4) := by
        simpa [Ev.recvReq] using he
      exact if_neg hn
  | _ => rfl

/-- A step without a receive. -/
private theorem not_recv_step (h : RingInv E handle base tr s l) (hs : RingStep E s s' e)
    (he : e.recvReq E = none) : ∃ l', RingInv E handle base (tr ++ [e]) s' l' := by
  obtain ⟨xs, hh, hlast⟩ := h.holds.step_of_not_recv hs he
  refine ⟨l.push xs, of_holds hh ?_ ?_ ?_⟩
  · rw [recvLedger_snoc, record_of_not_recv he]
    exact h.accounts.push xs
  · rw [latest_snoc, he]
    exact h.unasked
  · rw [latest_snoc, he, hlast, recvLedger_snoc, record_of_not_recv he]
    exact h.asked

/-- The firmware takes a receive for a replay exactly when the host repeats one, or it makes no
difference. -/
private theorem serve_replay (h : RingInv E handle base tr s l) {req : Request}
    (hreq : req.recvHandle = handle) (hhost : HostRecv (latest (Ev.recvReq E) tr) req) :
    l.serve (decide (req.recvKey.seq ≠ 0 ∧ req.recvKey = s.fw.last)) req.recvRoom =
      l.serve ((recvLedger E handle tr).isRetry req) req.recvRoom := by
  obtain ⟨hseq, -, hprev⟩ := hhost
  cases hlatest : latest (Ev.recvReq E) tr with
  | none => exact Lease.serve_of_held_zero (h.unasked hlatest) _ _ _
  | some prev =>
      obtain ⟨hlast, hretry⟩ := h.asked prev hlatest
      rw [hretry req hreq, hlast]
      congr 1
      rcases hprev prev hlatest with rfl | hne
      · simpa [Request.recvKey, sockRecvKey] using hseq
      · have hkey : req.recvKey ≠ prev.recvKey := fun heq => hne (congrArg RecvKey.seq heq)
        have hreq' : prev ≠ req := fun heq => hne (by rw [heq])
        simp [hkey, hreq']

/-- A receive on the handle. -/
private theorem recv_step (h : RingInv E handle base tr s l) {req : Request} {fw : Fw η}
    {reply : Reply} {sub : Option Nat} (hdec : E.hdr.decode req.cmd = some .sockRecv)
    (hl : req.payload.length = 4) (hreq : req.recvHandle = handle)
    (hhost : HostRecv (latest (Ev.recvReq E) tr) req)
    (hd : handleSockRecv (s.fw.latchSeq req) req.payload req.cap = (fw, reply)) :
    ∃ l', RingInv E handle base (tr ++ [.dispatch req reply sub]) { s with fw := fw } l' := by
  obtain ⟨hh, hanswer, hlast⟩ := h.holds.recv hl hreq hhost.2.1 hd
  rw [h.serve_replay hreq hhost] at hh hanswer
  have hev : Ev.recvReq E (.dispatch req reply sub) = some req := if_pos ⟨hdec, hl⟩
  have hrecord : (recvLedger E handle tr).record E handle (.dispatch req reply sub) =
      (recvLedger E handle tr).note req (recvAnswer reply) := by
    simp only [Ledger.record]
    rw [if_pos ⟨hdec, hl⟩, if_pos hreq]
  refine ⟨_, of_holds hh ?_ ?_ ?_⟩
  · rw [recvLedger_snoc, hrecord]
    exact h.accounts.serve req hanswer
  · simp [hev]
  · intro req' hreq'
    obtain rfl : req = req' := by simpa [hev] using hreq'
    refine ⟨hlast, fun k _ => ?_⟩
    rw [recvLedger_snoc, hrecord, Ledger.isRetry_note]

/-- A receive on another handle. -/
private theorem pass_step (h : RingInv E handle base tr s l) {req : Request} {fw : Fw η}
    {reply : Reply} {sub : Option Nat} (hdec : E.hdr.decode req.cmd = some .sockRecv)
    (hl : req.payload.length = 4) (hreq : req.recvHandle ≠ handle)
    (hcap : sockRecvRespBytes < req.cap)
    (hd : handleSockRecv (s.fw.latchSeq req) req.payload req.cap = (fw, reply)) :
    RingInv E handle base (tr ++ [.dispatch req reply sub]) { s with fw := fw } l := by
  obtain ⟨hh, hlast⟩ := h.holds.pass hl hreq hcap hd
  have hev : Ev.recvReq E (.dispatch req reply sub) = some req := if_pos ⟨hdec, hl⟩
  have hrecord : (recvLedger E handle tr).record E handle (.dispatch req reply sub) =
      (recvLedger E handle tr).pass := by
    simp only [Ledger.record]
    rw [if_pos ⟨hdec, hl⟩, if_neg hreq]
  refine of_holds hh ?_ ?_ ?_
  · rw [recvLedger_snoc, hrecord]
    exact h.accounts.pass
  · simp [hev]
  · intro req' hreq'
    obtain rfl : req = req' := by simpa [hev] using hreq'
    refine ⟨hlast, fun k hk => ?_⟩
    have hne : req ≠ k := fun heq => hreq (heq ▸ hk)
    rw [recvLedger_snoc, hrecord]
    simp only [Ledger.isRetry, Ledger.pass, hne, decide_false]
    split <;> rfl

/-- The invariant is kept by every step that keeps the ring armed, as long as the host plays its
part. -/
theorem step (h : RingInv E handle base tr s l) (hhost : HostRecvs E (tr ++ [e]))
    (hs : RingStep E s s' e) : ∃ l', RingInv E handle base (tr ++ [e]) s' l' := by
  cases he : e.recvReq E with
  | none => exact h.not_recv_step hs he
  | some req =>
      cases hs with
      | still _ _ _ _ hne =>
          cases e with
          | dispatch req' reply sub => exact absurd rfl (hne req' reply sub)
          | _ => simp [Ev.recvReq] at he
      | @dispatch req' fw reply sub hd =>
          have hhost' := hhost.last he
          obtain ⟨⟨hdec, hl⟩, heq⟩ := Option.ite_none_right_eq_some.mp he
          obtain rfl := Option.some.inj heq
          have hh := handleSockRecv_of_dispatch hdec hd
          by_cases hreq : req'.recvHandle = handle
          · exact h.recv_step hdec hl hreq hhost' hh
          · exact ⟨l, h.pass_step hdec hl hreq hhost'.2.1 hh⟩
      | _ => simp [Ev.recvReq] at he

/-- The ring has just been armed for `handle`: nothing in it, nothing leased, no pump at work. -/
structure Armed (handle : UInt16) (s : Sys η) : Prop where
  owns : s.fw.rx.Owns handle
  empty : s.fw.rx.head = s.fw.rx.tail
  unleased : s.fw.rx.uncommitted = 0
  pump : s.pc.pumping = false

theorem start (h : Armed handle s) :
    RingInv E handle s.fw.rx.tail.toNat [] s { stream := [], pos := 0, held := 0 } := by
  refine ⟨h.owns, ⟨?_, ?_, h.unleased, Nat.le_refl _, Nat.zero_le _, ?_⟩, .of_free h.pump, ?_,
    .start _ _, fun _ => rfl, by simp⟩
  · simp
  · simp [h.empty]
  · intro p hp
    simp at hp
  · simp [delivered, Pc.filling_of_not_pumping h.pump]

/-- The invariant holds along every run from an armed ring. -/
theorem of_run {s₀ : Sys η} (h0 : Armed handle s₀) (hr : (system E).RunIf RingKept s₀ tr s)
    (hhost : HostRecvs E tr) : ∃ l, RingInv E handle s₀.fw.rx.tail.toNat tr s l := by
  refine hr.invariant (P := fun tr s => HostRecvs E tr → ∃ l, RingInv E handle _ tr s l)
    (fun _ => ⟨_, start h0⟩) ?_ hhost
  intro tr s a s' e ih hk hstep hhost
  obtain ⟨l, h⟩ := ih hhost.init
  exact h.step hhost (sysStep_ring hk hstep)

end RingInv

/-! ## The guarantee -/

/-- A host reads the stream.  Take any interleaving from a freshly armed ring on, in which the ring
is neither armed again nor given up, and a host that plays its part.  What its receives on the handle
got, each by its last successful reply, is together a prefix of what `lwip_recv` delivered; and every
successful reply starts where the receives before it ended and extends the earlier replies to the
same receive. -/
theorem ring_reads_stream {E : Env η} {handle : UInt16} {s₀ s : Sys η} {tr : List Ev}
    (h0 : RingInv.Armed handle s₀) (hr : (system E).RunIf RingKept s₀ tr s)
    (hhost : HostRecvs E tr) :
    received (recvLedger E handle tr).receives <+: delivered tr ∧
      Served (delivered tr) (recvLedger E handle tr).receives := by
  obtain ⟨l, h⟩ := RingInv.of_run h0 hr hhost
  have hserved : Served (delivered tr) (recvLedger E handle tr).receives := by
    rw [h.stream]
    exact h.accounts.served.push _
  exact ⟨hserved.received_prefix, hserved⟩

/-- `cc3501e_hw_sock_prefetch` on a free ring arms it. -/
theorem RingInv.Armed.of_prefetch {handle : UInt16} {s : Sys η} (hh : handle ≠ 0)
    (hfree : s.fw.rx.fdPlus1 = 0) (hpc : s.pc.pumping = false) :
    RingInv.Armed handle { s with fw := { s.fw with
      rx := (sockPrefetch s.fw.rx handle true).foldl PrefetchStore.apply s.fw.rx } } := by
  have hne : s.fw.rx.fdPlus1 ≠ handle := fun heq => hh (heq.symm.trans hfree)
  have hstores : sockPrefetch s.fw.rx handle true =
      [.tail, .head, .peerClosed, .peerError, .uncommitted, .fdPlus1 handle] := by
    simp [sockPrefetch, sockPrefetchShouldArm, hfree, hfree ▸ hne]
  rw [hstores]
  exact ⟨⟨rfl, hh⟩, rfl, rfl, hpc⟩

open Act in
/-- A stream socket is connected as handle 1, which arms the ring. -/
def streamConnect : List (Act Unit) :=
  [dispatch (.of .sockConnect 1 ([1, 0, 0, 0, 0] ++ List.replicate 19 0)), task, task,
    ret { rv := hwOk, stream := true }] ++ List.replicate 6 task

open Act in
/-- Three bytes arrive, are asked for with room for four, and are asked for again after two more
came; then the next receive is sent. -/
def streamReads : List (Act Unit) :=
  List.replicate 6 task ++ [pump, task, lwip (.data [1, 2, 3]), task,
    dispatch (.of .sockRecv 2 [1, 0, 4, 0]), task, task, task,
    dispatch (.of .sockRecv 2 [1, 0, 4, 0]), pump, task, lwip (.data [4, 5]), task, task,
    task, dispatch (.of .sockRecv 2 [1, 0, 4, 0]), dispatch (.of .sockRecv 3 [1, 0, 4, 0])]

/-- The two receives get the five bytes. -/
theorem ring_reads_stream_streamReads :
    ∃ s₀ tr₀ s tr, (system .reference).Run (.boot ()) tr₀ s₀ ∧
      (system .reference).RunIf RingKept s₀ tr s ∧
      received (recvLedger .reference 1 tr).receives = [1, 2, 3, 4, 5] ∧
      received (recvLedger .reference 1 tr).receives <+: delivered tr ∧
        Served (delivered tr) (recvLedger .reference 1 tr).receives := by
  have hexec : ((system .reference).exec (.boot ()) streamConnect).bind (fun p =>
      ((system .reference).execIf RingKept p.1 streamReads).map fun q =>
        ((decide (p.1.fw.rx.Owns 1), p.1.fw.rx.head, p.1.fw.rx.tail, p.1.fw.rx.uncommitted,
          p.1.pc.pumping), decide (HostRecvs .reference q.2),
          received (recvLedger .reference 1 q.2).receives)) =
      some ((true, 0, 0, 0, false), true, [1, 2, 3, 4, 5]) := by decide +kernel
  obtain ⟨⟨s₀, tr₀⟩, hs₀, hexec⟩ := Option.bind_eq_some_iff.mp hexec
  obtain ⟨⟨s, tr⟩, hs, heq⟩ := Option.map_eq_some_iff.mp hexec
  simp only [Prod.mk.injEq, decide_eq_true_eq] at heq
  obtain ⟨⟨hown, hhead, htail, hheld, hpump⟩, hhost, hreceived⟩ := heq
  have hr := Machine.runIf_of_execIf hs
  exact ⟨s₀, tr₀, s, tr, Machine.run_of_exec hs₀, hr, hreceived,
    ring_reads_stream ⟨hown, hhead.trans htail.symm, hheld, hpump⟩ hr hhost⟩

end Cc3501eBridge
