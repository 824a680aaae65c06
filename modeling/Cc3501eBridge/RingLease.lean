import Cc3501eBridge.Lib.Lease
import Cc3501eBridge.Lib.RingBuffer
import Cc3501eBridge.Outcomes

/-!
# The prefetch ring leases its stream

The ring of `RxRing` implements the server of `Lib.Lease`.  `RxRing.Carries` relates the two: the
counters are the lease's positions modulo `2 ^ 32`, counted from wherever they stood when the ring
was armed, and the cells between them hold that part of the stream.  The counters wrap at a multiple
of the buffer's size, so a position and its counter name the same cell.

Each operation then has one lemma.  A receive is `Lease.serve`, the flag `replay` in the role of
`retry`; the pump's stores go to cells outside of what is carried (`RxRing.Window`), so they are
invisible to a receive that interrupts them, and the advance of the head is `Lease.push`.
-/

namespace Cc3501eBridge

variable {η : Type}

namespace RxRing

variable {r : RxRing} {base : Nat} {l : Lease UInt8}

/-- The ring carries the stream of a lease. -/
structure Carries (r : RxRing) (base : Nat) (l : Lease UInt8) : Prop where
  tail : r.tail = UInt32.ofNat (base + l.pos)
  head : r.head = UInt32.ofNat (base + l.stream.length)
  held : r.uncommitted = UInt32.ofNat l.held
  leased : l.pos + l.held ≤ l.stream.length
  used : l.stream.length ≤ l.pos + sockRingBytes
  cells : r.buf.Carries sockRingBytes base l.pos l.stream

/-- A position and its counter name the same cell. -/
theorem cell_ofNat (n : Nat) : (UInt32.ofNat n).toNat % sockRingBytes = n % sockRingBytes := by
  rw [UInt32.toNat_ofNat']
  exact Nat.mod_mod_of_dvd n (by decide)

/-- The difference of two counters is the difference of their positions. -/
theorem toNat_sub_ofNat {p q : Nat} (h : p ≤ q) (hr : q ≤ p + sockRingBytes) :
    (UInt32.ofNat (base + q) - UInt32.ofNat (base + p)).toNat = q - p := by
  rw [← UInt32.ofNat_sub (by omega), UInt32.toNat_ofNat']
  unfold sockRingBytes at hr
  omega

namespace Carries

/-- `ring_used` is the part of the stream not given away. -/
theorem ringUsed_eq (h : r.Carries base l) : r.ringUsed.toNat = l.stream.length - l.pos := by
  rw [ringUsed, h.head, h.tail]
  exact toNat_sub_ofNat (Nat.le_trans (Nat.le_add_right _ _) h.leased) h.used

/-! ## A receive -/

/-- `sock_recv_commit` gives the lease away unless the request is a replay, and promises a new
one. -/
theorem sockRecvCommit_eq (h : r.Carries base l) (replay : Bool) (cap : UInt16) :
    sockRecvCommit r.tail r.uncommitted r.head replay cap.toUInt32 =
      let l' := (l.serve replay cap.toNat).2
      { n := UInt32.ofNat l'.held
        tail := UInt32.ofNat (base + l'.pos)
        uncommitted := UInt32.ofNat l'.held } := by
  have htail : (if replay then r.tail else r.tail + r.uncommitted) =
      UInt32.ofNat (base + (l.serve replay cap.toNat).2.pos) := by
    cases replay with
    | true => exact h.tail
    | false =>
        change r.tail + r.uncommitted = UInt32.ofNat (base + (l.pos + l.held))
        rw [h.tail, h.held, ← UInt32.ofNat_add, Nat.add_assoc]
  have hpos := l.pos_le_serve replay cap.toNat
  have hend := l.serve_end_le replay cap.toNat h.leased
  have hheld := l.serve_held replay cap.toNat
  have hused := @toNat_sub_ofNat base (l.serve replay cap.toNat).2.pos l.stream.length (by omega)
    (by have := h.used; omega)
  have hcap := cap.toNat_lt
  simp only [sockRecvCommit, htail, h.head]
  have hn : (if UInt32.ofNat (base + l.stream.length) -
        UInt32.ofNat (base + (l.serve replay cap.toNat).2.pos) < cap.toUInt32 then
        UInt32.ofNat (base + l.stream.length) -
          UInt32.ofNat (base + (l.serve replay cap.toNat).2.pos)
      else cap.toUInt32) = UInt32.ofNat (l.serve replay cap.toNat).2.held := by
    apply UInt32.toNat_inj.mp
    rw [hheld, UInt32.toNat_ofNat_of_lt' (by unfold UInt32.size; omega)]
    split_ifs with hlt
    · rw [UInt32.lt_iff_toNat_lt, hused] at hlt
      simp only [UInt16.toNat_toUInt32] at hlt
      rw [hused]
      omega
    · rw [UInt32.lt_iff_toNat_lt, hused] at hlt
      simp only [UInt16.toNat_toUInt32] at hlt ⊢
      omega
  simp only [hn]

/-- The two pieces copied out are the lease. -/
theorem ringCopy_eq (h : r.Carries base l) (replay : Bool) (cap : UInt16) :
    ringCopy r (UInt32.ofNat (base + (l.serve replay cap.toNat).2.pos))
        (UInt32.ofNat (l.serve replay cap.toNat).2.held) = (l.serve replay cap.toNat).1 := by
  have hused := h.used
  have hpos := l.pos_le_serve replay cap.toNat
  have hend := l.serve_end_le replay cap.toNat h.leased
  have hN : (l.serve replay cap.toNat).2.held ≤ sockRingBytes := by omega
  have hn : (UInt32.ofNat (l.serve replay cap.toNat).2.held).toNat =
      (l.serve replay cap.toNat).2.held :=
    UInt32.toNat_ofNat_of_lt' (by unfold UInt32.size; unfold sockRingBytes at hN; omega)
  simp only [ringCopy, cell_ofNat, hn]
  rw [Buf.read_append_read (by decide) hN, h.cells.ring_eq hpos hend, l.serve_fst]

/-- What the ring hands out, and how it stands afterwards. -/
theorem hwSockRecvRing_serve (h : r.Carries base l) {handle : UInt16} (hown : r.Owns handle)
    (replay : Bool) (cap : UInt16) :
    (hwSockRecvRing r handle cap replay).1.out = (l.serve replay cap.toNat).1 ∧
      (0 < (hwSockRecvRing r handle cap replay).1.rc ∨ (l.serve replay cap.toNat).1 = []) ∧
      (hwSockRecvRing r handle cap replay).2.Carries base (l.serve replay cap.toNat).2 ∧
      (hwSockRecvRing r handle cap replay).2.Owns handle ∧
      (hwSockRecvRing r handle cap replay).2.buf = r.buf := by
  rw [hwSockRecvRing_of_owns hown]
  simp only [h.sockRecvCommit_eq replay cap]
  have hused := h.used
  have hpos := l.pos_le_serve replay cap.toNat
  have hend := l.serve_end_le replay cap.toNat h.leased
  have hcar : ({ r with
        tail := UInt32.ofNat (base + (l.serve replay cap.toNat).2.pos)
        uncommitted := UInt32.ofNat (l.serve replay cap.toNat).2.held } : RxRing).Carries base
      (l.serve replay cap.toNat).2 :=
    ⟨rfl, h.head, rfl, hend, by change l.stream.length ≤ _; omega, h.cells.mono hpos⟩
  by_cases hn : UInt32.ofNat (l.serve replay cap.toNat).2.held = 0
  · have hheld : (l.serve replay cap.toNat).2.held = 0 := by
      have htoNat := congrArg UInt32.toNat hn
      rw [UInt32.toNat_ofNat_of_lt' (by unfold UInt32.size; unfold sockRingBytes at hused; omega)]
        at htoNat
      exact htoNat
    have hnil : (l.serve replay cap.toNat).1 = [] := List.eq_nil_of_length_eq_zero hheld
    rw [if_pos hn]
    exact ⟨hnil.symm, .inr hnil, hcar, hown, trivial⟩
  · rw [if_neg hn]
    refine ⟨h.ringCopy_eq replay cap, .inl ?_, hcar, hown, trivial⟩
    have hne : (UInt32.ofNat (l.serve replay cap.toNat).2.held).toNat ≠ 0 := fun h0 =>
      hn (UInt32.toNat_inj.mp h0)
    change (0 : Int) < ((UInt32.ofNat (l.serve replay cap.toNat).2.held).toNat : Int)
    omega

end Carries

end RxRing

/-- A receive moves the tail and the lease, and nothing else. -/
theorem hwSockRecvRing_snd (r : RxRing) (handle cap : UInt16) (replay : Bool) :
    ∃ tail uncommitted, (hwSockRecvRing r handle cap replay).2 =
      { r with tail := tail, uncommitted := uncommitted } := by
  by_cases h : r.Owns handle
  · rw [hwSockRecvRing_of_owns h]
    exact ⟨_, _, rfl⟩
  · rw [hwSockRecvRing_of_not_owns h]
    exact ⟨r.tail, r.uncommitted, rfl⟩

/-! ## A receive's reply -/

/-- The data a reply to a receive carries, if it is a success. -/
def recvAnswer (reply : Reply) : Option (List UInt8) :=
  if reply.status = .ok then some (reply.data.drop sockRecvRespBytes) else none

@[simp] theorem length_sockRecvRespHeader (n : Nat) :
    (sockRecvRespHeader n).length = sockRecvRespBytes := rfl

/-- The room for data is at most what was asked for, so it is not truncated to 16 bits. -/
theorem toNat_sockRecvRoom (key : RecvKey) (cap : Nat) :
    (UInt16.ofNat (sockRecvRoom key cap)).toNat = sockRecvRoom key cap := by
  have hlt := key.maxLen.toNat_lt
  apply UInt16.toNat_ofNat_of_lt'
  unfold sockRecvRoom
  split_ifs
  · decide
  · exact Nat.lt_of_le_of_lt (Nat.min_le_right _ _) hlt

/-- A receive on an armed handle is answered with what the lease hands out; an answer without data
is given only when that is nothing. -/
theorem sockRecvFromRing_serve {fw fw₁ : Fw η} {key : RecvKey} {cap : Nat} {reply : Reply}
    {base : Nat} {l : Lease UInt8} (h : sockRecvFromRing fw key cap = (some reply, fw₁))
    (hcap : sockRecvRespBytes < cap) (hcar : fw.rx.Carries base l) (hown : fw.rx.Owns key.handle) :
    let replay : Bool := key.seq ≠ 0 ∧ key = fw.last
    let out := l.serve replay (sockRecvRoom key cap)
    (recvAnswer reply = some out.1 ∨ recvAnswer reply = none ∧ out.1 = []) ∧
      fw₁.rx.Carries base out.2 ∧ fw₁.rx.Owns key.handle ∧ fw₁.rx.buf = fw.rx.buf ∧
      fw₁.last = key := by
  intro replay out
  obtain ⟨hout, hrc, hcar', hown', hbuf⟩ :=
    hcar.hwSockRecvRing_serve hown replay (UInt16.ofNat (sockRecvRoom key cap))
  rw [toNat_sockRecvRoom] at hout hrc hcar'
  unfold sockRecvFromRing at h
  rw [if_neg (by omega)] at h
  simp only [] at h
  -- whatever the reply, the ring and the memory of the request are the same
  have hfw : fw₁.rx = (hwSockRecvRing fw.rx key.handle
      (UInt16.ofNat (sockRecvRoom key cap)) replay).2 ∧ fw₁.last = key := by
    split_ifs at h <;> obtain ⟨-, rfl⟩ := Prod.mk.inj h <;> exact ⟨rfl, rfl⟩
  refine ⟨?_, hfw.1 ▸ hcar', hfw.1 ▸ hown', hfw.1 ▸ hbuf, hfw.2⟩
  set read := (hwSockRecvRing fw.rx key.handle
    (UInt16.ofNat (sockRecvRoom key cap)) replay).1 with hread
  have hnil : ¬ 0 < read.rc → out.1 = [] := fun hn => hrc.resolve_left hn
  split_ifs at h with h2 h0 h3 hge
  · obtain ⟨rfl, -⟩ := by simpa using h
    refine .inl ?_
    rw [hnil (by omega)]
    rfl
  · obtain ⟨rfl, -⟩ := by simpa using h
    exact .inr ⟨rfl, hnil (by omega)⟩
  · obtain ⟨rfl, -⟩ := by simpa using h
    exact .inr ⟨rfl, hnil (by omega)⟩
  · obtain ⟨rfl, -⟩ := by simpa using h
    refine .inl ?_
    rw [recvAnswer, if_pos rfl, List.drop_left' (length_sockRecvRespHeader _)]
    exact congrArg some hout
  · simp at h

namespace RxRing

variable {r : RxRing} {base : Nat} {l : Lease UInt8}

/-! ## The pump -/

/-- The cells `idx, …, idx + chunk - 1` come next in the stream and are free. -/
structure Window (base : Nat) (l : Lease UInt8) (idx chunk : Nat) : Prop where
  start : idx = (base + l.stream.length) % sockRingBytes
  inside : idx + chunk ≤ sockRingBytes
  free : l.stream.length + chunk ≤ l.pos + sockRingBytes

namespace Window

variable {idx chunk : Nat}

/-- Cell `idx + j` is that of item number `j` after the stream. -/
theorem cell (h : Window base l idx chunk) {j : Nat} (hj : j < chunk) :
    idx + j = (base + (l.stream.length + j)) % sockRingBytes := by
  have hin := h.inside
  have hmod : (idx + j) % sockRingBytes = idx + j := Nat.mod_eq_of_lt (by omega)
  rw [← hmod, h.start, Nat.mod_add_mod, Nat.add_assoc]

/-- Giving more of the stream away only widens the free part. -/
theorem serve (h : Window base l idx chunk) (retry : Bool) (room : Nat) :
    Window base (l.serve retry room).2 idx chunk := by
  have hpos := l.pos_le_serve retry room
  have hfree := h.free
  exact ⟨h.start, h.inside, by change l.stream.length + _ ≤ _; omega⟩

end Window

namespace Carries

/-- A pass of the pump finds a window. -/
theorem sockPumpPass_window (h : r.Carries base l) {idx chunk : Nat}
    (hp : sockPumpPass r = some (idx, chunk)) : Window base l idx chunk := by
  have hleased := h.leased
  have hused := h.used
  unfold sockPumpPass at hp
  rw [h.ringUsed_eq, h.head, cell_ofNat] at hp
  simp only at hp
  split_ifs at hp
  simp only [Option.some.injEq, Prod.mk.injEq] at hp
  obtain ⟨rfl, rfl⟩ := hp
  have hlt : (base + l.stream.length) % sockRingBytes < sockRingBytes := Nat.mod_lt _ (by decide)
  exact ⟨rfl, by omega, by omega⟩

/-- A store in a window is invisible. -/
theorem sockPumpStore (h : r.Carries base l) {idx chunk i : Nat} (hw : Window base l idx chunk)
    (hi : i < chunk) (b : UInt8) : (sockPumpStore r (idx + i) b).Carries base l := by
  have hfree := hw.free
  refine ⟨h.tail, h.head, h.held, h.leased, h.used, ?_⟩
  rw [hw.cell hi]
  exact h.cells.set (by omega) (by omega) b

/-- Advancing the head over what was stored adds it to the stream. -/
theorem sockPumpAdvance (h : r.Carries base l) {idx chunk : Nat} {data : List UInt8}
    (hw : Window base l idx chunk) (hlen : data.length ≤ chunk)
    (hdata : ∀ j (hj : j < data.length), r.buf (idx + j) = data[j]) :
    (sockPumpAdvance r data.length).Carries base (l.push data) := by
  have hleased := h.leased
  have hfree := hw.free
  refine ⟨h.tail, ?_, h.held, ?_, ?_, ?_⟩
  · change r.head + UInt32.ofNat data.length = UInt32.ofNat (base + (l.stream ++ data).length)
    rw [h.head, ← UInt32.ofNat_add, List.length_append, Nat.add_assoc]
  · change l.pos + l.held ≤ (l.stream ++ data).length
    rw [List.length_append]
    omega
  · change (l.stream ++ data).length ≤ l.pos + sockRingBytes
    rw [List.length_append]
    omega
  · refine h.cells.append fun j hj => ?_
    rw [Nat.add_assoc, ← hw.cell (Nat.lt_of_lt_of_le hj hlen)]
    exact hdata j hj

/-- The flags the pump sets when the peer is gone do not matter. -/
theorem peer (h : r.Carries base l) (closed error : Bool) :
    ({ r with peerClosed := closed, peerError := error } : RxRing).Carries base l :=
  ⟨h.tail, h.head, h.held, h.leased, h.used, h.cells⟩

end Carries

end RxRing

end Cc3501eBridge
