import Cc3501eBridge.Lib.RingBuffer
import Cc3501eBridge.Lib.Trace
import Cc3501eBridge.Effects
import Cc3501eBridge.Seams

/-!
# Events reach the host once, in order

The event ring is a queue (`EventRing.queued`): a push appends to it unless sixteen events wait, and
one turn of the drain moves the oldest event, as a whole, to the reply.  Each turn is a critical
section of its own, so pushes can land between two of them; the machine `eventSystem` has the turn
for its step.

The host takes a reply apart by walking from entry to entry (`eventWalk`).  What the walk finds in
the replies, one after the other, followed by what is still queued, is what was accepted.  In a
framed reply the data is followed by zeros, which the walk takes for the end of the list as long as
no event has the opcode zero.
-/

namespace Cc3501eBridge

/-! ## The ring is a queue -/

namespace EventRing

/-- The events waiting, oldest first. -/
def queued (r : EventRing) : List EventSlot := Ring.items r.slot eventRingSlots r.head r.count

/-- The indices and the count agree, and no payload is longer than a slot. -/
structure Consistent (r : EventRing) : Prop where
  head : r.head < eventRingSlots
  tail : r.tail = (r.head + r.count) % eventRingSlots
  count : r.count ≤ eventRingSlots
  payload : ∀ e ∈ r.queued, e.payload.length ≤ eventPayloadMax

@[simp] theorem length_queued (r : EventRing) : r.queued.length = r.count := Ring.length_items

theorem init_consistent : init.Consistent :=
  ⟨by decide, rfl, by decide, fun _ h => by simp [queued, init] at h⟩

theorem Consistent.tail_lt {r : EventRing} (h : r.Consistent) : r.tail < eventRingSlots := by
  rw [h.tail]
  exact Nat.mod_lt _ (by decide)

end EventRing

/-- The event a push queues: its payload is clamped to what a slot holds. -/
def eventOf (evtOpcode : UInt8) (payload : List UInt8) : EventSlot where
  evtOpcode := evtOpcode
  payload := payload.take eventPayloadMax

section

variable {r : EventRing} {evtOpcode : UInt8} {payload : List UInt8}

/-- Only a full ring refuses. -/
theorem eventRingPush_fst (h : r.Consistent) :
    (eventRingPush r evtOpcode payload).1 = false ↔ r.queued.length = eventRingSlots := by
  have hcount := h.count
  rw [EventRing.length_queued, eventRingPush]
  split_ifs with hfull
  · simp only [true_iff]
    omega
  · simp only [false_iff]
    omega

/-- A refused push changes nothing. -/
theorem eventRingPush_refused (h : (eventRingPush r evtOpcode payload).1 = false) :
    (eventRingPush r evtOpcode payload).2 = r := by
  unfold eventRingPush at h ⊢
  split_ifs at h ⊢
  rfl

/-- An accepted push appends. -/
theorem eventRingPush_accepted (h : r.Consistent)
    (hacc : (eventRingPush r evtOpcode payload).1 = true) :
    (eventRingPush r evtOpcode payload).2.queued = r.queued ++ [eventOf evtOpcode payload] := by
  unfold eventRingPush at hacc ⊢
  split_ifs at hacc ⊢ with hfull
  have hslot : (fun i => if i = r.tail then eventOf evtOpcode payload else r.slot i) =
      Function.update r.slot ((r.head + r.count) % eventRingSlots)
        (eventOf evtOpcode payload) := by
    funext i
    rw [Function.update_apply, h.tail]
  change Ring.items (fun i => if i = r.tail then eventOf evtOpcode payload else r.slot i)
    eventRingSlots r.head (r.count + 1) = _
  rw [hslot, Ring.items_update (by omega)]
  rfl

theorem EventRing.Consistent.push (h : r.Consistent) :
    (eventRingPush r evtOpcode payload).2.Consistent := by
  have hlen : (eventOf evtOpcode payload).payload.length ≤ eventPayloadMax :=
    List.length_take_le _ _
  cases hacc : (eventRingPush r evtOpcode payload).1 with
  | false =>
      rw [eventRingPush_refused hacc]
      exact h
  | true =>
      have hqueued := eventRingPush_accepted h hacc
      have hcount : r.count < eventRingSlots := by
        unfold eventRingPush at hacc
        split_ifs at hacc with hfull
        omega
      have hpush : ∃ slot, (eventRingPush r evtOpcode payload).2 =
          { slot := slot, head := r.head, tail := (r.tail + 1) % eventRingSlots,
            count := r.count + 1 } := by
        unfold eventRingPush
        rw [if_neg (by omega)]
        exact ⟨_, rfl⟩
      refine ⟨?_, ?_, ?_, ?_⟩
      · obtain ⟨slot, heq⟩ := hpush
        rw [heq]
        exact h.head
      · obtain ⟨slot, heq⟩ := hpush
        rw [heq]
        change (r.tail + 1) % _ = (r.head + (r.count + 1)) % _
        rw [h.tail, Nat.mod_add_mod, Nat.add_assoc]
      · obtain ⟨slot, heq⟩ := hpush
        rw [heq]
        exact hcount
      · rw [hqueued]
        intro e he
        rcases List.mem_append.mp he with he | he
        · exact h.payload e he
        · rw [List.mem_singleton.mp he]
          exact hlen

end

/-! ## A turn of the drain -/

/-- An entry of the reply: opcode, payload length, payload. -/
def EventSlot.entry (e : EventSlot) : List UInt8 :=
  [e.evtOpcode, UInt8.ofNat e.payload.length] ++ e.payload

/-- One turn of `event_ring_drain`, inside its critical section: the reply so far and the ring with
the oldest event moved, or nothing if there is none or it does not fit. -/
def eventRingDrainTurn (r : EventRing) (cap : Nat) (out : List UInt8) :
    Option (List UInt8 × EventRing) :=
  if r.count = 0 then none
  else
    let s := r.slot r.head
    if out.length + (eventHdrBytes + s.payload.length) > cap then none
    else some (out ++ s.entry, r.advance)

/-- The loop of `event_ring_drain` takes turns until one fails. -/
theorem eventRingDrainLoop_succ (n : Nat) (r : EventRing) (cap : Nat) (out : List UInt8) :
    eventRingDrainLoop (n + 1) r cap out =
      match eventRingDrainTurn r cap out with
      | none => (out, r)
      | some (out', r') => eventRingDrainLoop n r' cap out' := by
  rw [eventRingDrainLoop, eventRingDrainTurn]
  simp only
  split_ifs with h0 hfits
  · rfl
  · rfl
  · simp [EventSlot.entry]

section

variable {r r' : EventRing} {cap : Nat} {out out' : List UInt8}

/-- What a turn needs, and what it does. -/
theorem eventRingDrainTurn_cases (ht : eventRingDrainTurn r cap out = some (out', r')) :
    r.count ≠ 0 ∧ out' = out ++ (r.slot r.head).entry ∧ out'.length ≤ cap ∧ r' = r.advance := by
  unfold eventRingDrainTurn at ht
  simp only at ht
  split_ifs at ht with h0 hfits
  obtain ⟨rfl, rfl⟩ := by simpa using ht
  refine ⟨h0, rfl, ?_, rfl⟩
  simp only [EventSlot.entry, List.length_append, List.length_cons, List.length_nil]
  unfold eventHdrBytes at hfits
  omega

/-- A turn moves the oldest event. -/
theorem eventRingDrainTurn_some (h : r.Consistent)
    (ht : eventRingDrainTurn r cap out = some (out', r')) :
    ∃ e, r.queued = e :: r'.queued ∧ out' = out ++ e.entry ∧ out'.length ≤ cap ∧
      r'.Consistent := by
  have hhead := h.head
  have hcount := h.count
  obtain ⟨h0, rfl, hfits, rfl⟩ := eventRingDrainTurn_cases ht
  have hqueued : r.queued = r.slot r.head :: r.advance.queued := by
    change Ring.items r.slot eventRingSlots r.head r.count =
      _ :: Ring.items r.slot eventRingSlots ((r.head + 1) % eventRingSlots) (r.count - 1)
    obtain ⟨n, hn⟩ : ∃ n, r.count = n + 1 := ⟨r.count - 1, by omega⟩
    rw [Ring.items_mod, hn, Ring.items_succ, Nat.mod_eq_of_lt hhead]
    rfl
  refine ⟨r.slot r.head, hqueued, rfl, hfits, ?_, ?_, ?_, ?_⟩
  · exact Nat.mod_lt _ (by decide)
  · change r.tail = ((r.head + 1) % eventRingSlots + (r.count - 1)) % eventRingSlots
    rw [h.tail, Nat.mod_add_mod]
    congr 1
    omega
  · change r.count - 1 ≤ _
    omega
  · intro e he
    exact h.payload e (hqueued ▸ List.mem_cons_of_mem _ he)

/-- Every turn that moves an event adds at least its header to the reply. -/
theorem eventRingDrainTurn_grows (ht : eventRingDrainTurn r cap out = some (out', r')) :
    out.length + eventHdrBytes ≤ out'.length ∧ out'.length ≤ cap := by
  obtain ⟨-, rfl, hfits, -⟩ := eventRingDrainTurn_cases ht
  refine ⟨?_, hfits⟩
  simp only [EventSlot.entry, List.length_append, List.length_cons, List.length_nil]
  unfold eventHdrBytes
  omega

end

/-! ## Taking a reply apart -/

/-- Walk from entry to entry.  The walk ends with the bytes, or at an opcode where it `stops`; it
fails if the last entry is cut short. -/
def eventWalk (stops : UInt8 → Bool) : Nat → List UInt8 → Option (List EventSlot)
  | _, [] => some []
  | 0, _ :: _ => none
  | n + 1, evtOpcode :: rest =>
      if stops evtOpcode then some []
      else
        match rest with
        | [] => none
        | len :: rest =>
            if rest.length < len.toNat then none
            else
              (eventWalk stops n (rest.drop len.toNat)).map
                ({ evtOpcode := evtOpcode, payload := rest.take len.toNat } :: ·)

/-- Read a list of entries to the end. -/
def decodeEvents (bytes : List UInt8) : Option (List EventSlot) :=
  eventWalk (fun _ => false) bytes.length bytes

/-- Read a list of entries up to an opcode zero, or to the end. -/
def walkEvents (bytes : List UInt8) : Option (List EventSlot) :=
  eventWalk (fun evtOpcode => evtOpcode = 0) bytes.length bytes

@[simp] theorem EventSlot.length_entry (e : EventSlot) :
    e.entry.length = eventHdrBytes + e.payload.length := by
  simp only [EventSlot.entry, eventHdrBytes, List.length_append, List.length_cons, List.length_nil]

/-- The walk finds the entries at which it does not stop, if after them it ends. -/
theorem eventWalk_entries {stops : UInt8 → Bool} {zs : List UInt8}
    (hz : zs = [] ∨ ∃ z zs', zs = z :: zs' ∧ stops z = true) :
    ∀ (es : List EventSlot) (n : Nat), es.length ≤ n →
      (es.length < n ∨ zs = []) →
      (∀ e ∈ es, stops e.evtOpcode = false ∧ e.payload.length ≤ eventPayloadMax) →
      eventWalk stops n (es.flatMap EventSlot.entry ++ zs) = some es := by
  intro es
  induction es with
  | nil =>
      intro n _ hn _
      rcases hz with rfl | ⟨z, zs', rfl, hstop⟩
      · cases n <;> rfl
      · obtain ⟨m, rfl⟩ : ∃ m, n = m + 1 := ⟨n - 1, by simp at hn; omega⟩
        simp [eventWalk, hstop]
  | cons e es ih =>
      intro n hle hn hes
      obtain ⟨m, rfl⟩ : ∃ m, n = m + 1 := ⟨n - 1, by simp at hle; omega⟩
      obtain ⟨hstop, hlen⟩ := hes e (by simp)
      have htoNat : (UInt8.ofNat e.payload.length).toNat = e.payload.length := by
        apply UInt8.toNat_ofNat_of_lt'
        unfold eventPayloadMax at hlen
        unfold UInt8.size
        omega
      have hrest := ih m (by simpa using hle) (by simpa using hn)
        fun e' he' => hes e' (List.mem_cons_of_mem _ he')
      have hcons : (e :: es).flatMap EventSlot.entry ++ zs =
          e.evtOpcode :: UInt8.ofNat e.payload.length ::
            (e.payload ++ (es.flatMap EventSlot.entry ++ zs)) := by
        simp [EventSlot.entry]
      rw [hcons, eventWalk, if_neg (by simp [hstop])]
      simp only [htoNat]
      rw [if_neg (by simp), List.drop_left, List.take_left, hrest]
      rfl

/-- There are no more entries than bytes. -/
theorem length_le_flatMap_entry (es : List EventSlot) :
    2 * es.length ≤ (es.flatMap EventSlot.entry).length := by
  induction es with
  | nil => simp
  | cons e es ih =>
      simp only [List.flatMap_cons, List.length_append, List.length_cons, EventSlot.length_entry]
      unfold eventHdrBytes
      omega

/-- Entries are read back. -/
theorem decodeEvents_entries {es : List EventSlot}
    (h : ∀ e ∈ es, e.payload.length ≤ eventPayloadMax) :
    decodeEvents (es.flatMap EventSlot.entry) = some es := by
  have hle := length_le_flatMap_entry es
  have hwalk := @eventWalk_entries (fun _ => false) [] (.inl rfl) es
    (es.flatMap EventSlot.entry).length (by omega) (.inr rfl) fun e he => ⟨rfl, h e he⟩
  rwa [List.append_nil] at hwalk

/-- Entries followed by zeros are read back if none has the opcode zero. -/
theorem walkEvents_entries {es : List EventSlot} (pad : Nat)
    (h : ∀ e ∈ es, e.payload.length ≤ eventPayloadMax) (hop : ∀ e ∈ es, e.evtOpcode ≠ 0) :
    walkEvents (es.flatMap EventSlot.entry ++ List.replicate pad 0) = some es := by
  have hle := length_le_flatMap_entry es
  apply eventWalk_entries
  · cases pad with
    | zero => exact .inl rfl
    | succ pad => exact .inr ⟨0, List.replicate pad 0, rfl, rfl⟩
  · rw [List.length_append]
    omega
  · cases pad with
    | zero => exact .inr rfl
    | succ pad =>
        left
        rw [List.length_append, List.length_replicate]
        omega
  · intro e he
    exact ⟨by simpa using hop e he, h e he⟩

/-! ## Pushes and drains -/

/-- The ring, and the drain at work: its capacity and the reply so far. -/
structure EventSys where
  ring : EventRing
  drain : Option (Nat × List UInt8)

/-- What can happen next. -/
inductive EventAct
  | push (evtOpcode : UInt8) (payload : List UInt8)
  | /-- `event_ring_drain` is called. -/
    drain (cap : Nat)
  | /-- The drain takes its next turn. -/
    turn

/-- What a step shows. -/
inductive EventEv
  | pushed (e : EventSlot) (accepted : Bool)
  | began (cap : Nat)
  | moved
  | drained (out : List UInt8)

/-- One step: a push, the start of a drain, or one of its turns. -/
def eventStep (s : EventSys) : EventAct → Option (EventSys × EventEv)
  | .push evtOpcode payload =>
      let (accepted, ring) := eventRingPush s.ring evtOpcode payload
      some ({ s with ring := ring }, .pushed (eventOf evtOpcode payload) accepted)
  | .drain cap =>
      match s.drain with
      | none => some ({ s with drain := some (cap, []) }, .began cap)
      | some _ => none
  | .turn =>
      match s.drain with
      | none => none
      | some (cap, out) =>
          match eventRingDrainTurn s.ring cap out with
          | none => some ({ s with drain := none }, .drained out)
          | some (out', ring) => some ({ ring := ring, drain := some (cap, out') }, .moved)

/-- The event ring as a machine. -/
def eventSystem : Machine EventSys EventAct EventEv where
  step := eventStep

namespace EventSys

/-- The ring after `event_ring_init`, no drain at work. -/
def init : EventSys where
  ring := .init
  drain := none

/-- What the drain at work has moved so far. -/
def draining (s : EventSys) : List UInt8 := (s.drain.map Prod.snd).getD []

end EventSys

/-- The event of an accepted push. -/
def EventEv.accepted : EventEv → Option EventSlot
  | .pushed e true => some e
  | _ => none

/-- The reply of a finished drain. -/
def EventEv.output : EventEv → Option (List UInt8)
  | .drained out => some out
  | _ => none

/-- A turn of a drain that moved an event. -/
def EventEv.isMoved : EventEv → Bool
  | .moved => true
  | _ => false

/-- The accepted pushes of a history. -/
def acceptedEvents (tr : List EventEv) : List EventSlot := tr.filterMap EventEv.accepted

/-- The replies of a history's drains. -/
def drainOutputs (tr : List EventEv) : List (List UInt8) := tr.filterMap EventEv.output

@[simp] theorem acceptedEvents_snoc (tr : List EventEv) (e : EventEv) :
    acceptedEvents (tr ++ [e]) = acceptedEvents tr ++ e.accepted.toList := by
  simp only [acceptedEvents, List.filterMap_append, List.filterMap_cons, List.filterMap_nil]
  cases e.accepted <;> rfl

@[simp] theorem drainOutputs_snoc (tr : List EventEv) (e : EventEv) :
    drainOutputs (tr ++ [e]) = drainOutputs tr ++ e.output.toList := by
  simp only [drainOutputs, List.filterMap_append, List.filterMap_cons, List.filterMap_nil]
  cases e.output <;> rfl

/-- The kinds of step. -/
inductive EventTrans (s : EventSys) : EventSys → EventEv → Prop
  | push (evtOpcode : UInt8) (payload : List UInt8) :
      EventTrans s { s with ring := (eventRingPush s.ring evtOpcode payload).2 }
        (.pushed (eventOf evtOpcode payload) (eventRingPush s.ring evtOpcode payload).1)
  | began (cap : Nat) : s.drain = none →
      EventTrans s { s with drain := some (cap, []) } (.began cap)
  | moved {cap : Nat} {out out' : List UInt8} {ring : EventRing} : s.drain = some (cap, out) →
      eventRingDrainTurn s.ring cap out = some (out', ring) →
      EventTrans s { ring := ring, drain := some (cap, out') } .moved
  | drained {cap : Nat} {out : List UInt8} : s.drain = some (cap, out) →
      EventTrans s { s with drain := none } (.drained out)

theorem eventStep_trans {s s' : EventSys} {a : EventAct} {e : EventEv}
    (h : eventSystem.step s a = some (s', e)) : EventTrans s s' e := by
  change eventStep s a = _ at h
  cases a with
  | push evtOpcode payload =>
      obtain ⟨rfl, rfl⟩ := by simpa [eventStep] using h
      exact .push evtOpcode payload
  | drain cap =>
      cases hd : s.drain with
      | none =>
          obtain ⟨rfl, rfl⟩ := by simpa [eventStep, hd] using h
          exact .began cap hd
      | some d => simp [eventStep, hd] at h
  | turn =>
      cases hd : s.drain with
      | none => simp [eventStep, hd] at h
      | some d =>
          obtain ⟨cap, out⟩ := d
          cases ht : eventRingDrainTurn s.ring cap out with
          | none =>
              obtain ⟨rfl, rfl⟩ := by simpa [eventStep, hd, ht] using h
              exact .drained hd
          | some p =>
              obtain ⟨rfl, rfl⟩ := by simpa [eventStep, hd, ht] using h
              exact .moved hd ht

/-! ## The invariant -/

/-- What was accepted is what the finished drains moved, drain by drain, what the drain at work has
moved, and what is queued. -/
structure EventInv (tr : List EventEv) (s : EventSys) (done : List (List EventSlot))
    (now : List EventSlot) : Prop where
  ring : s.ring.Consistent
  outputs : drainOutputs tr = done.map (List.flatMap EventSlot.entry)
  draining : s.draining = now.flatMap EventSlot.entry
  accepted : acceptedEvents tr = done.flatten ++ now ++ s.ring.queued
  payload : ∀ e ∈ acceptedEvents tr, e.payload.length ≤ eventPayloadMax
  fits : ∀ d ∈ s.drain, d.2.length ≤ d.1

namespace EventInv

theorem start : EventInv [] .init [] [] :=
  ⟨EventRing.init_consistent, rfl, rfl, rfl, by simp [acceptedEvents], by simp [EventSys.init]⟩

variable {tr : List EventEv} {s s' : EventSys} {e : EventEv} {done : List (List EventSlot)}
  {now : List EventSlot}

theorem step (h : EventInv tr s done now) (hs : EventTrans s s' e) :
    ∃ done' now', EventInv (tr ++ [e]) s' done' now' := by
  cases hs with
  | push evtOpcode payload =>
      refine ⟨done, now, h.ring.push, by simp [h.outputs, EventEv.output], h.draining, ?_, ?_,
        h.fits⟩
      · cases hacc : (eventRingPush s.ring evtOpcode payload).1 with
        | false =>
            rw [eventRingPush_refused hacc, acceptedEvents_snoc, h.accepted]
            exact List.append_nil _
        | true =>
            rw [eventRingPush_accepted h.ring hacc, acceptedEvents_snoc, h.accepted,
              List.append_assoc]
            rfl
      · intro e he
        rw [acceptedEvents_snoc] at he
        rcases List.mem_append.mp he with he | he
        · exact h.payload e he
        · cases hacc : (eventRingPush s.ring evtOpcode payload).1 with
          | false => simp [hacc, EventEv.accepted] at he
          | true =>
              obtain rfl : e = eventOf evtOpcode payload := by
                simpa [hacc, EventEv.accepted] using he
              exact List.length_take_le _ _
  | began cap hd =>
      have hnow : now.flatMap EventSlot.entry = [] := by
        rw [← h.draining, EventSys.draining, hd]
        rfl
      refine ⟨done, now, h.ring, by simp [h.outputs, EventEv.output], hnow.symm, ?_, ?_, by simp⟩
      · simpa [EventEv.accepted] using h.accepted
      · simpa [EventEv.accepted] using h.payload
  | @moved cap out out' ring hd ht =>
      obtain ⟨e, hqueued, rfl, hfits, hring⟩ := eventRingDrainTurn_some h.ring ht
      have hout : out = now.flatMap EventSlot.entry := by
        rw [← h.draining, EventSys.draining, hd]
        rfl
      refine ⟨done, now ++ [e], hring, by simp [h.outputs, EventEv.output], ?_, ?_, ?_,
        by simpa using hfits⟩
      · simp [EventSys.draining, hout]
      · rw [acceptedEvents_snoc, h.accepted, hqueued]
        simp [EventEv.accepted]
      · simpa [EventEv.accepted] using h.payload
  | @drained cap out hd =>
      have hout : out = now.flatMap EventSlot.entry := by
        rw [← h.draining, EventSys.draining, hd]
        rfl
      refine ⟨done ++ [now], [], h.ring, ?_, rfl, ?_, ?_, by simp⟩
      · simp [h.outputs, EventEv.output, hout]
      · rw [acceptedEvents_snoc, h.accepted]
        simp [EventEv.accepted]
      · simpa [EventEv.accepted] using h.payload

theorem of_run (hr : eventSystem.Run .init tr s) : ∃ done now, EventInv tr s done now := by
  refine hr.invariant (P := fun tr s => ∃ done now, EventInv tr s done now) ⟨[], [], start⟩ ?_
  rintro tr s a s' e ⟨done, now, h⟩ hstep
  exact h.step (eventStep_trans hstep)

end EventInv

/-- While a drain is at work, each of its turns has moved at least a header's worth of its
capacity. -/
theorem moved_le_of_run {s s' : EventSys} {tr : List EventEv} {cap : Nat} {out : List UInt8}
    (hr : eventSystem.Run s tr s') (hd : s.drain = some (cap, out))
    (hwork : drainOutputs tr = []) (hout : out.length ≤ cap) :
    out.length + eventHdrBytes * tr.countP EventEv.isMoved ≤ cap := by
  -- the reply so far is the witness: it has grown by two a turn and is within the capacity
  suffices h : drainOutputs tr = [] → ∃ out', s'.drain = some (cap, out') ∧
      out.length + eventHdrBytes * tr.countP EventEv.isMoved ≤ out'.length ∧
        out'.length ≤ cap by
    obtain ⟨out', -, hlow, hhigh⟩ := h hwork
    exact Nat.le_trans hlow hhigh
  refine hr.invariant (P := fun tr s' => drainOutputs tr = [] → ∃ out',
    s'.drain = some (cap, out') ∧ out.length + eventHdrBytes * tr.countP EventEv.isMoved ≤
      out'.length ∧ out'.length ≤ cap) (fun _ => ⟨out, hd, by simp, hout⟩) ?_
  intro tr s a s' e ih hstep hwork
  rw [drainOutputs_snoc, List.append_eq_nil_iff] at hwork
  obtain ⟨out₁, hd₁, hlow, hhigh⟩ := ih hwork.1
  rw [List.countP_append]
  cases eventStep_trans hstep with
  | push evtOpcode payload => exact ⟨out₁, hd₁, by simpa [EventEv.isMoved] using hlow, hhigh⟩
  | began cap' hnone => simp [hd₁] at hnone
  | @moved cap' out₂ out' ring hd' ht =>
      obtain ⟨rfl, rfl⟩ : cap' = cap ∧ out₂ = out₁ := by simpa [hd₁, eq_comm] using hd'
      obtain ⟨hgrow, hfits⟩ := eventRingDrainTurn_grows ht
      refine ⟨out', rfl, ?_, hfits⟩
      simp only [List.countP_cons, List.countP_nil, EventEv.isMoved, if_true, Nat.mul_add]
      omega
  | drained hd' => simp [EventEv.output] at hwork

/-! ## Uninterrupted drains -/

section

variable {r : EventRing}

/-- The loop moves the oldest events. -/
theorem eventRingDrainLoop_spec (cap n : Nat) : ∀ {r : EventRing} {out : List UInt8},
    r.Consistent → out.length ≤ cap → ∃ es,
      (eventRingDrainLoop n r cap out).1 = out ++ es.flatMap EventSlot.entry ∧
      r.queued = es ++ (eventRingDrainLoop n r cap out).2.queued ∧
      (eventRingDrainLoop n r cap out).2.Consistent ∧
      (eventRingDrainLoop n r cap out).1.length ≤ cap := by
  induction n with
  | zero => exact fun h hout => ⟨[], by simp [eventRingDrainLoop], rfl, h, hout⟩
  | succ n ih =>
      intro r out h hout
      rw [eventRingDrainLoop_succ]
      cases ht : eventRingDrainTurn r cap out with
      | none => exact ⟨[], by simp, rfl, h, hout⟩
      | some p =>
          obtain ⟨e, hqueued, hp, hfits, hring⟩ := eventRingDrainTurn_some h ht
          obtain ⟨es, hes, hrest, hc, hlen⟩ := ih hring hfits
          refine ⟨e :: es, ?_, ?_, hc, hlen⟩
          · rw [hes, hp]
            simp
          · rw [hqueued, hrest]
            rfl

/-- `event_ring_drain` moves the oldest events, as many as it does, into the reply. -/
theorem eventRingDrain_spec (h : r.Consistent) (cap : Nat) :
    ∃ es, (eventRingDrain r cap).1 = es.flatMap EventSlot.entry ∧
      r.queued = es ++ (eventRingDrain r cap).2.queued ∧ (eventRingDrain r cap).2.Consistent ∧
      (eventRingDrain r cap).1.length ≤ cap := by
  have hnil : ([] : List UInt8).length ≤ cap := Nat.zero_le cap
  obtain ⟨es, hes, hrest⟩ := eventRingDrainLoop_spec cap r.count h hnil
  rw [List.nil_append] at hes
  exact ⟨es, hes, hrest⟩

end

/-- The loop, with turns enough for every event queued, is a run of the machine's turns. -/
theorem eventRingDrainLoop_run (cap n : Nat) : ∀ {r : EventRing} {out : List UInt8},
    r.count ≤ n → ∃ tr, eventSystem.Run ⟨r, some (cap, out)⟩ tr
        ⟨(eventRingDrainLoop n r cap out).2, none⟩ ∧
      drainOutputs tr = [(eventRingDrainLoop n r cap out).1] := by
  induction n with
  | zero =>
      intro r out hn
      have ht : eventRingDrainTurn r cap out = none := by
        rw [eventRingDrainTurn, if_pos (Nat.le_zero.mp hn)]
      have hstep : eventSystem.step ⟨r, some (cap, out)⟩ .turn = some (⟨r, none⟩, .drained out) := by
        simp [eventSystem, eventStep, ht]
      exact ⟨[.drained out], Machine.Run.snoc .nil hstep, rfl⟩
  | succ n ih =>
      intro r out hn
      rw [eventRingDrainLoop_succ]
      cases ht : eventRingDrainTurn r cap out with
      | none =>
          have hstep : eventSystem.step ⟨r, some (cap, out)⟩ .turn =
              some (⟨r, none⟩, .drained out) := by
            simp [eventSystem, eventStep, ht]
          exact ⟨[.drained out], Machine.Run.snoc .nil hstep, rfl⟩
      | some p =>
          obtain ⟨out', r'⟩ := p
          have hstep : eventSystem.step ⟨r, some (cap, out)⟩ .turn =
              some (⟨r', some (cap, out')⟩, .moved) := by
            simp [eventSystem, eventStep, ht]
          have hcount : r'.count ≤ n := by
            obtain ⟨-, -, -, rfl⟩ := eventRingDrainTurn_cases ht
            change r.count - 1 ≤ n
            omega
          obtain ⟨tr, hr, hout⟩ := @ih r' out' hcount
          exact ⟨.moved :: tr, Machine.RunIf.append (Machine.Run.snoc .nil hstep) hr, hout⟩

/-- A drain that nothing interrupts is `event_ring_drain`. -/
theorem eventRingDrain_run (r : EventRing) (cap : Nat) :
    ∃ tr, eventSystem.Run ⟨r, none⟩ tr ⟨(eventRingDrain r cap).2, none⟩ ∧
      drainOutputs tr = [(eventRingDrain r cap).1] := by
  obtain ⟨tr, hr, hout⟩ := @eventRingDrainLoop_run cap r.count r [] (Nat.le_refl _)
  have hstep : eventSystem.step ⟨r, none⟩ (.drain cap) =
      some (⟨r, some (cap, [])⟩, .began cap) := rfl
  exact ⟨.began cap :: tr, Machine.RunIf.append (Machine.Run.snoc .nil hstep) hr, hout⟩

/-! ## The firmware's ring -/

section

variable {η : Type} {E : Env η} {s s' : Sys η} {e : Ev}

/-- The events a `GET_PENDING_EVENTS` was answered with. -/
def Ev.pendingEvents (E : Env η) : Ev → Option (List UInt8)
  | .dispatch req reply _ =>
      if E.hdr.decode req.cmd = some .getPendingEvents ∧ req.payload.length = 0 then
        some reply.data
      else none
  | _ => none

/-- What a step does to the event ring: nothing, a push, or a drain. -/
inductive EventsStep (E : Env η) (s : Sys η) : Sys η → Ev → Prop
  | keep {s' : Sys η} {e : Ev} :
      s'.fw.events = s.fw.events → e.pendingEvents E = none → EventsStep E s s' e
  | push {s' : Sys η} {e : Ev} (evtOpcode : UInt8) (payload : List UInt8) :
      s'.fw.events = (eventRingPush s.fw.events evtOpcode payload).2 →
      e.pendingEvents E = none → EventsStep E s s' e
  | drain {s' : Sys η} {e : Ev} (cap : Nat) :
      s'.fw.events = (eventRingDrain s.fw.events cap).2 →
      e.pendingEvents E = some (eventRingDrain s.fw.events cap).1 → EventsStep E s s' e

private theorem taskStep_events (h : taskStep E s = some (s', e)) : EventsStep E s s' e := by
  unfold taskStep at h
  cases hpc : s.pc with
  | acceptPush handle event =>
      simp only [hpc, Option.some.injEq, Prod.mk.injEq] at h
      obtain ⟨rfl, rfl⟩ := h
      exact .push _ _ rfl rfl
  | _ =>
      simp only [hpc] at h
      (try split_ifs at h) <;> (try split at h) <;>
        (simp only [Option.some.injEq, Prod.mk.injEq, reduceCtorEq] at h) <;>
        (obtain ⟨rfl, rfl⟩ := h) <;> exact .keep rfl rfl

private theorem dispatch_events {req : Request} {fw : Fw η} {reply : Reply} {sub : Option Nat}
    (h : protocolDispatch E s.fw req.cmd req.flags req.payload req.cap = (fw, reply)) :
    EventsStep E s { s with fw := fw } (.dispatch req reply sub) := by
  rcases dispatch_cases h with ⟨hdec, rfl⟩ | ⟨c, hdec, hh⟩
  · exact .keep rfl (by simp [Ev.pendingEvents, hdec])
  · by_cases hc : c = .getPendingEvents
    · subst hc
      change handleGetPendingEvents (s.fw.latchSeq req) req.payload req.cap = _ at hh
      unfold handleGetPendingEvents at hh
      split_ifs at hh with hlen
      · obtain ⟨rfl, rfl⟩ := Prod.mk.inj hh
        exact .keep rfl (by simp [Ev.pendingEvents, hlen])
      · obtain ⟨rfl, rfl⟩ := Prod.mk.inj hh
        refine .drain req.cap rfl ?_
        rw [Ev.pendingEvents, if_pos ⟨hdec, by simpa using hlen⟩]
        rfl
    · have hne : Ev.pendingEvents E (.dispatch req reply sub) = none := by
        simp [Ev.pendingEvents, hdec, hc]
      refine .keep ?_ hne
      by_cases hconn : c = .wifiConnectSta
      · subst hconn
        have hev := (@handleWifiConnectSta_cases _ E (s.fw.latchSeq req) req.payload).1
        change handleWifiConnectSta E (s.fw.latchSeq req) req.payload = _ at hh
        rw [hh] at hev
        exact hev
      · have hev := (handle_keeps E.hal.within_true (s.fw.latchSeq req) req.payload req.cap
          ⟨hc, hconn⟩).events
        rw [hh] at hev
        exact hev

/-- Every step of the firmware does one of these. -/
theorem sysStep_events {a : Act η} (h : (system E).step s a = some (s', e)) :
    EventsStep E s s' e := by
  change sysStep E s a = _ at h
  cases a with
  | dispatch req =>
      obtain ⟨rfl, rfl⟩ := by simpa [sysStep] using h
      exact dispatch_events rfl
  | task =>
      simp only [sysStep] at h
      split at h
      · exact taskStep_events h
      · obtain ⟨rfl, rfl⟩ := by simpa using h
        exact .keep rfl rfl
  | event evtOpcode payload =>
      obtain ⟨rfl, rfl⟩ := by simpa [sysStep] using h
      exact .push evtOpcode payload rfl rfl
  | _ =>
      simp only [sysStep, retStep, lwipStep] at h
      (try split at h) <;> (try split_ifs at h) <;> (try split at h) <;> (try split_ifs at h) <;>
        (simp only [Option.some.injEq, Prod.mk.injEq, reduceCtorEq] at h) <;>
        (obtain ⟨rfl, rfl⟩ := h) <;> exact .keep rfl rfl

/-- The firmware's event ring runs through states of the machine, and the machine's drains are the
replies to `GET_PENDING_EVENTS`. -/
theorem eventRun_of_run {hal : η} {tr : List Ev} (hr : (system E).Run (.boot hal) tr s) :
    ∃ tr', eventSystem.Run .init tr' ⟨s.fw.events, none⟩ ∧
      drainOutputs tr' = tr.filterMap (Ev.pendingEvents E) := by
  have h0 : eventSystem.Run .init [] .init := .nil
  refine hr.invariant (P := fun tr s => ∃ tr', eventSystem.Run .init tr' ⟨s.fw.events, none⟩ ∧
    drainOutputs tr' = tr.filterMap (Ev.pendingEvents E)) (Exists.intro [] ⟨h0, rfl⟩) ?_
  rintro tr s a s' e ⟨tr', hr', hout⟩ hstep
  have hsnoc : (tr ++ [e]).filterMap (Ev.pendingEvents E) =
      tr.filterMap (Ev.pendingEvents E) ++ (e.pendingEvents E).toList := by
    rw [List.filterMap_append, List.filterMap_cons, List.filterMap_nil]
    cases e.pendingEvents E <;> rfl
  rw [hsnoc, ← hout]
  cases sysStep_events hstep with
  | keep hev hn =>
      rw [hev, hn]
      exact ⟨tr', hr', (List.append_nil _).symm⟩
  | push evtOpcode payload hev hn =>
      have hpush : eventSystem.step ⟨s.fw.events, none⟩ (.push evtOpcode payload) = some _ := rfl
      rw [hev, hn]
      exact ⟨_, hr'.snoc hpush, by simp [EventEv.output]⟩
  | drain cap hev hn =>
      obtain ⟨trd, hrd, houtd⟩ := eventRingDrain_run s.fw.events cap
      rw [hev, hn]
      refine ⟨tr' ++ trd, Machine.RunIf.append hr' hrd, ?_⟩
      rw [drainOutputs, List.filterMap_append]
      exact congrArg (drainOutputs tr' ++ ·) houtd

end

/-! ## The framed reply -/

/-- The data of a reply frame with its padding: what is between the status byte and the trailer. -/
def replyBody (B : Build) (frame : List UInt8) : List UInt8 :=
  (frame.drop replyDataOff).take (frame.length - replyDataOff - B.trailerBytes)

section

variable {η : Type}

/-- The body of a framed reply is the data, padded with zeros. -/
theorem replyBody_encodeReply (E : Env η) (cmd : UInt8) (reply : Reply) :
    replyBody E.build (encodeReply E cmd reply) =
      reply.data ++ List.replicate (padBytes E.build reply.data.length) 0 := by
  have hdrop : (encodeReply E cmd reply).drop replyDataOff =
      reply.data ++ List.replicate (padBytes E.build reply.data.length) 0 ++
        trailer E.build (coveredBytes E cmd reply) := by
    simp [encodeReply, coveredBytes, le16, replyDataOff, headerBytes]
  have hlen : (encodeReply E cmd reply).length - replyDataOff - E.build.trailerBytes =
      (reply.data ++ List.replicate (padBytes E.build reply.data.length) 0).length := by
    rw [length_encodeReply, List.length_append, List.length_replicate]
    unfold payloadBytes replyDataOff headerBytes
    omega
  rw [replyBody, hdrop, hlen, List.take_left]

/-- What is behind a `GET_PENDING_EVENTS` that was served. -/
theorem buildReply_pendingEvents {E : Env η} {fw : Fw η} {req : List UInt8}
    (hready : fw.crc.ready = true) (h : Accepts E req [])
    (hcmd : E.hdr.decode (cmdEcho req) = some .getPendingEvents) (hring : fw.events.Consistent)
    (old : Buf) :
    replyBody E.build (protocolBuildReply E (dispatcher E) fw req old frameMaxBytes).bytes =
        (eventRingDrain fw.events E.build.replyDataMax).1 ++ List.replicate
          (padBytes E.build (eventRingDrain fw.events E.build.replyDataMax).1.length) 0 ∧
      (protocolBuildReply E (dispatcher E) fw req old frameMaxBytes).fw.events =
        (eventRingDrain fw.events E.build.replyDataMax).2 := by
  obtain ⟨-, -, -, -, hlen⟩ := eventRingDrain_spec hring E.build.replyDataMax
  have hd : protocolDispatch E fw (cmdEcho req) (byteAt req 1) [] E.build.replyDataMax =
      ({ fw with
          currentReqSeq := reqSeq (byteAt req 1)
          events := (eventRingDrain fw.events E.build.replyDataMax).2 },
        { status := .ok, data := (eventRingDrain fw.events E.build.replyDataMax).1 }) := by
    rw [protocolDispatch, hcmd]
    rfl
  obtain ⟨hbytes, hfw⟩ := @buildReply_served _ E ⟨fw, .loop, [], fun _ => false⟩ req hready [] h old
  simp only [hd] at hbytes hfw
  have hclamp : Reply.clamp
      { status := .ok, data := (eventRingDrain fw.events E.build.replyDataMax).1 }
      E.build.replyDataMax =
      { status := .ok, data := (eventRingDrain fw.events E.build.replyDataMax).1 } := by
    rw [Reply.clamp, if_neg (by simpa using hlen)]
  rw [hbytes, hclamp, replyBody_encodeReply, hfw]
  exact ⟨rfl, rfl⟩

end

/-! ## The guarantee -/

/-- The host gets every accepted event once, in order.  In any interleaving of pushes, drains and
their turns: each finished drain's reply is a list of whole entries, and read one after the other,
with what the drain at work has moved, they are the accepted pushes up to those still queued.  The
indices and the count agree; only a ring with sixteen events refuses a push, and is left as it was.
A drain at work can take its next turn, and whatever is pushed meanwhile it takes at most half as
many as it has room for bytes.  And if no accepted event has the opcode zero, the host's walk over
the body of a `GET_PENDING_EVENTS` reply, padding included, finds what the drain moved. -/
theorem events_delivered_once {tr : List EventEv} {s : EventSys}
    (hr : eventSystem.Run .init tr s) :
    (∃ (done : List (List EventSlot)) (now : List EventSlot),
      (drainOutputs tr).map decodeEvents = done.map some ∧
      decodeEvents ((drainOutputs tr).flatten ++ s.draining) = some (done.flatten ++ now) ∧
      acceptedEvents tr = done.flatten ++ now ++ s.ring.queued) ∧
    (s.ring.head < eventRingSlots ∧ s.ring.tail < eventRingSlots ∧
      s.ring.count ≤ eventRingSlots ∧ s.ring.queued.length = s.ring.count ∧
      s.ring.tail = (s.ring.head + s.ring.count) % eventRingSlots) ∧
    (∀ evtOpcode payload,
      ((eventRingPush s.ring evtOpcode payload).1 = false ↔
        s.ring.queued.length = eventRingSlots) ∧
      ((eventRingPush s.ring evtOpcode payload).1 = false →
        (eventRingPush s.ring evtOpcode payload).2 = s.ring)) ∧
    (∀ cap out, s.drain = some (cap, out) → (eventSystem.step s .turn).isSome = true ∧
      ∀ tr' s', eventSystem.Run s tr' s' → drainOutputs tr' = [] →
        out.length + eventHdrBytes * tr'.countP EventEv.isMoved ≤ cap) ∧
    (∀ {η : Type} (E : Env η) (fw : Fw η) (req : List UInt8) (old : Buf),
      fw.events = s.ring → fw.crc.ready = true → Accepts E req [] →
      E.hdr.decode (cmdEcho req) = some .getPendingEvents →
      (∀ e ∈ acceptedEvents tr, e.evtOpcode ≠ 0) →
      ∃ es,
        walkEvents (replyBody E.build
          (protocolBuildReply E (dispatcher E) fw req old frameMaxBytes).bytes) = some es ∧
        decodeEvents (eventRingDrain s.ring E.build.replyDataMax).1 = some es ∧
        s.ring.queued = es ++
          (protocolBuildReply E (dispatcher E) fw req old frameMaxBytes).fw.events.queued) := by
  obtain ⟨done, now, h⟩ := EventInv.of_run hr
  have hmem : ∀ e, (e ∈ done.flatten ∨ e ∈ now) ∨ e ∈ s.ring.queued → e ∈ acceptedEvents tr := by
    intro e he
    rw [h.accepted]
    simpa only [List.mem_append] using he
  refine ⟨⟨done, now, ?_, ?_, h.accepted⟩, ?_, ?_, ?_, ?_⟩
  · rw [h.outputs, List.map_map]
    apply List.map_congr_left
    intro es hes
    refine decodeEvents_entries fun e he => h.payload e (hmem e (.inl (.inl ?_)))
    exact List.mem_flatten_of_mem hes he
  · have hflat : (drainOutputs tr).flatten ++ s.draining =
        (done.flatten ++ now).flatMap EventSlot.entry := by
      rw [h.outputs, h.draining, List.flatMap_append]
      congr 1
      simp only [List.flatMap_def, List.map_flatten, List.flatten_flatten, List.map_map]
      rfl
    rw [hflat]
    refine decodeEvents_entries fun e he => h.payload e (hmem e (.inl ?_))
    exact List.mem_append.mp he
  · exact ⟨h.ring.head, h.ring.tail_lt, h.ring.count, EventRing.length_queued _, h.ring.tail⟩
  · intro evtOpcode payload
    exact ⟨eventRingPush_fst h.ring, eventRingPush_refused⟩
  · intro cap out hd
    refine ⟨?_, fun tr' s' hr' hwork => moved_le_of_run hr' hd hwork (h.fits _ hd)⟩
    change (eventStep s .turn).isSome = true
    cases ht : eventRingDrainTurn s.ring cap out <;> simp [eventStep, hd, ht]
  · intro η E fw req old hevents hready hacc hcmd hop
    rw [← hevents] at hmem ⊢
    have hring : fw.events.Consistent := hevents ▸ h.ring
    obtain ⟨es, hes, hqueued, -, -⟩ := eventRingDrain_spec hring E.build.replyDataMax
    obtain ⟨hbody, hfw⟩ := buildReply_pendingEvents hready hacc hcmd hring old
    have hsub : ∀ e ∈ es, e ∈ acceptedEvents tr := by
      intro e he
      refine hmem e (.inr ?_)
      rw [hqueued]
      exact List.mem_append_left _ he
    refine ⟨es, ?_, ?_, ?_⟩
    · rw [hbody, hes]
      exact walkEvents_entries _ (fun e he => h.payload e (hsub e he)) fun e he => hop e (hsub e he)
    · rw [hes]
      exact decodeEvents_entries fun e he => h.payload e (hsub e he)
    · rw [hfw]
      exact hqueued

/-- The second event is pushed between two turns of a drain and still fits, the third does not. -/
def eventTraffic : List EventAct :=
  [.push 0x10 [1, 2, 3], .drain 8, .turn, .push 0x11 [4], .turn, .push 0x12 [5, 6, 7], .turn]

/-- The opcode and the payload of an event. -/
def EventSlot.pair (e : EventSlot) : UInt8 × List UInt8 := (e.evtOpcode, e.payload)

/-- The first drain moves two events, and the reply to the next `GET_PENDING_EVENTS` holds the third
one. -/
theorem events_delivered_once_traffic :
    ∃ s tr es, eventSystem.Run .init tr s ∧
      (acceptedEvents tr).map EventSlot.pair =
        [(0x10, [1, 2, 3]), (0x11, [4]), (0x12, [5, 6, 7])] ∧
      drainOutputs tr = [[0x10, 3, 1, 2, 3, 0x11, 1, 4]] ∧
      walkEvents (replyBody Env.reference.build
        (protocolBuildReply .reference (dispatcher .reference)
          { Fw.boot () with events := s.ring } [0x05, 0x08, 2, 0, 0x46, 0xF7] .zero
          frameMaxBytes).bytes) = some es ∧
      es.map EventSlot.pair = [(0x12, [5, 6, 7])] := by
  have hexec : (eventSystem.exec .init eventTraffic).map (fun p =>
      ((acceptedEvents p.2).map EventSlot.pair, drainOutputs p.2,
        (decodeEvents (eventRingDrain p.1.ring 4093).1).map (List.map EventSlot.pair))) =
      some ([(0x10, [1, 2, 3]), (0x11, [4]), (0x12, [5, 6, 7])],
        [[0x10, 3, 1, 2, 3, 0x11, 1, 4]], some [(0x12, [5, 6, 7])]) := by decide +kernel
  obtain ⟨⟨s, tr⟩, hs, heq⟩ := Option.map_eq_some_iff.mp hexec
  simp only [Prod.mk.injEq] at heq
  obtain ⟨hacc, hout, hnext⟩ := heq
  have hr := Machine.run_of_exec hs
  have hgood : Accepts Env.reference [0x05, 0x08, 2, 0, 0x46, 0xF7] [] :=
    ⟨by decide, by decide, .inr ⟨[0x05, 0x08, 2, 0], by decide, by decide +kernel, rfl⟩⟩
  have hop : ∀ e ∈ acceptedEvents tr, e.evtOpcode ≠ 0 := by
    intro e he
    have hmem : e.pair ∈ (acceptedEvents tr).map EventSlot.pair := List.mem_map_of_mem he
    rw [hacc] at hmem
    have hall : ∀ p ∈ [((0x10 : UInt8), [(1 : UInt8), 2, 3]), (0x11, [4]), (0x12, [5, 6, 7])],
        p.1 ≠ 0 := by decide
    exact hall _ hmem
  obtain ⟨-, -, -, -, hreply⟩ := events_delivered_once hr
  obtain ⟨es, hwalk, hdec, -⟩ := hreply .reference { Fw.boot () with events := s.ring }
    [0x05, 0x08, 2, 0, 0x46, 0xF7] .zero rfl rfl hgood (by decide) hop
  refine ⟨s, tr, es, hr, hacc, hout, hwalk, ?_⟩
  have hsame : (decodeEvents (eventRingDrain s.ring 4093).1).map (List.map EventSlot.pair) =
      some (es.map EventSlot.pair) := congrArg (Option.map (List.map EventSlot.pair)) hdec
  exact Option.some.inj (hsame.symm.trans hnext)

end Cc3501eBridge
