import Cc3501eBridge.Wire

/-!
# The event ring

`event_ring.c`: a circular buffer of sixteen asynchronous events, filled on the task and drained by
`GET_PENDING_EVENTS`.  A slot's payload is kept as the bytes that count (`len` of them); what a
shorter event leaves behind in the array is never read.
-/

namespace Cc3501eBridge

/-- `CC3501E_EVENT_RING_SLOTS`. -/
def eventRingSlots : Nat := 16

/-- `CC3501E_EVENT_PAYLOAD_MAX`. -/
def eventPayloadMax : Nat := 16

/-- `ALP_CC3501E_EVENT_HDR_BYTES`: event opcode and payload length. -/
def eventHdrBytes : Nat := 2

/-- `struct event_slot`. -/
structure EventSlot where
  evtOpcode : UInt8
  payload : List UInt8

/-- `event_ring.c`'s static ring. -/
structure EventRing where
  slot : Nat → EventSlot
  head : Nat
  tail : Nat
  count : Nat

namespace EventRing

/-- `event_ring_init`. -/
def init : EventRing where
  slot := fun _ => { evtOpcode := 0, payload := [] }
  head := 0
  tail := 0
  count := 0

/-- Drop the oldest event. -/
def advance (r : EventRing) : EventRing :=
  { r with head := (r.head + 1) % eventRingSlots, count := r.count - 1 }

end EventRing

/-- `event_ring_push`: append an event, or report that the ring is full. -/
def eventRingPush (r : EventRing) (evtOpcode : UInt8) (payload : List UInt8) : Bool × EventRing :=
  if r.count ≥ eventRingSlots then (false, r)
  else
    let s : EventSlot := { evtOpcode := evtOpcode, payload := payload.take eventPayloadMax }
    (true, { slot := fun i => if i = r.tail then s else r.slot i
             head := r.head
             tail := (r.tail + 1) % eventRingSlots
             count := r.count + 1 })

/-- The loop of `event_ring_drain`, one event a turn. -/
def eventRingDrainLoop : Nat → EventRing → Nat → List UInt8 → List UInt8 × EventRing
  | 0, r, _, out => (out, r)
  | n + 1, r, cap, out =>
      if r.count = 0 then (out, r)
      else
        let s := r.slot r.head
        if out.length + (eventHdrBytes + s.payload.length) > cap then (out, r)
        else
          eventRingDrainLoop n r.advance cap
            (out ++ [s.evtOpcode, UInt8.ofNat s.payload.length] ++ s.payload)

/-- `event_ring_drain`: move whole events into the reply while they fit.  Each turn removes one, so
the ring's own count bounds the loop. -/
def eventRingDrain (r : EventRing) (cap : Nat) : List UInt8 × EventRing :=
  eventRingDrainLoop r.count r cap []

end Cc3501eBridge
