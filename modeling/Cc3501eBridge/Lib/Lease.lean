import Mathlib.Data.List.Chain
import Mathlib.Data.List.Infix

/-!
# Reading a stream by leases

A reader asks for the next part of a stream over a channel that may lose answers.  What an answer
carries is only *leased*: a repetition of the request is answered from the same place again, and
only a different request makes the reader give the lease back, the stream moving on past it.

`Lease` is the server's side of this: the stream so far, the position up to which it was given away
for good, and the length of the lease.  `Ledger` is the reader's side: the requests it made, newest
first, each with the answers it got.  `Accounts` relates the two, and the rules below keep it under
growth of the stream and under every request.  What the reader gets out of it is `Served`: its
receives, each represented by its last answer, are consecutive parts of the stream.
-/

universe u v

namespace Cc3501eBridge

variable {κ : Type u} {α : Type v}

/-! ## The reader -/

/-- One receive: what was asked, and the data of the answers to it, in order. -/
structure Receive (κ : Type u) (α : Type v) where
  key : κ
  answers : List (List α)

/-- What a receive got in the end: the data of its last answer. -/
def Receive.data (r : Receive κ α) : List α := r.answers.getLast?.getD []

/-- What receives got together; the newest comes first. -/
def received : List (Receive κ α) → List α
  | [] => []
  | r :: rs => received rs ++ r.data

/-- What the newest receive got. -/
def newest : List (Receive κ α) → List α
  | [] => []
  | r :: _ => r.data

theorem received_eq (rs : List (Receive κ α)) : received rs = received rs.tail ++ newest rs := by
  cases rs <;> rfl

/-- Every answer of every receive starts where the receives before it ended, and a later answer to
the same request only adds to an earlier one. -/
inductive Served (stream : List α) : List (Receive κ α) → Prop
  | nil : Served stream []
  | cons {r : Receive κ α} {rs : List (Receive κ α)} :
      Served stream rs → r.answers.IsChain (· <+: ·) →
      (∀ d ∈ r.answers, d <+: stream.drop (received rs).length) → Served stream (r :: rs)

namespace Served

variable {stream : List α} {rs : List (Receive κ α)}

/-- What a receive got in the end starts where its answers start. -/
theorem data_prefix {r : Receive κ α} {n : Nat} (h : ∀ d ∈ r.answers, d <+: stream.drop n) :
    r.data <+: stream.drop n := by
  unfold Receive.data
  cases hl : r.answers.getLast? with
  | none => exact List.nil_prefix
  | some d => exact h d (List.mem_of_getLast? hl)

/-- Nothing is lost, repeated or reordered. -/
theorem received_prefix (h : Served stream rs) : received rs <+: stream := by
  induction h with
  | nil => exact List.nil_prefix
  | @cons r rs _ _ hstart ih =>
      have hdata := data_prefix hstart
      have heq : received rs ++ stream.drop (received rs).length = stream := by
        obtain ⟨rest, rfl⟩ := ih
        simp
      calc received (r :: rs) = received rs ++ r.data := rfl
        _ <+: received rs ++ stream.drop (received rs).length :=
            (List.prefix_append_right_inj _).mpr hdata
        _ = stream := heq

/-- More of the stream arrives. -/
theorem push (h : Served stream rs) (xs : List α) : Served (stream ++ xs) rs := by
  induction h with
  | nil => exact .nil
  | @cons r rs hs hchain hstart ih =>
      refine .cons ih hchain fun d hd => (hstart d hd).trans ?_
      rw [List.drop_append_of_le_length hs.received_prefix.length_le]
      exact List.prefix_append _ _

end Served

/-- The reader's book: its receives, newest first, and whether the newest may still be repeated. -/
structure Ledger (κ : Type u) (α : Type v) where
  live : Bool
  receives : List (Receive κ α)

namespace Ledger

/-- Nothing asked for yet. -/
def empty : Ledger κ α where
  live := false
  receives := []

variable [DecidableEq κ]

/-- `k` repeats the newest receive. -/
def isRetry (L : Ledger κ α) (k : κ) : Bool :=
  match L.receives with
  | [] => false
  | r :: _ => L.live && r.key = k

/-- `k` is asked for and answered, with data or without. -/
def note (L : Ledger κ α) (k : κ) (answer : Option (List α)) : Ledger κ α :=
  match L.receives with
  | [] => { live := true, receives := [⟨k, answer.toList⟩] }
  | r :: rs =>
      if L.live = true ∧ r.key = k then
        { live := true, receives := ⟨k, r.answers ++ answer.toList⟩ :: rs }
      else { live := true, receives := ⟨k, answer.toList⟩ :: r :: rs }

/-- Something else is asked for, not from this stream. -/
def pass (L : Ledger κ α) : Ledger κ α := { L with live := false }

theorem note_of_retry {L : Ledger κ α} {k : κ} (h : L.isRetry k = true)
    (answer : Option (List α)) :
    ∃ r rs, L.receives = r :: rs ∧ r.key = k ∧
      L.note k answer = { live := true, receives := ⟨k, r.answers ++ answer.toList⟩ :: rs } := by
  unfold isRetry at h
  split at h
  · simp at h
  · next r rs hrs =>
    have hk : L.live = true ∧ r.key = k := by simpa using h
    exact ⟨r, rs, hrs, hk.2, by simp [note, hrs, hk]⟩

theorem note_of_not_retry {L : Ledger κ α} {k : κ} (h : L.isRetry k = false)
    (answer : Option (List α)) :
    L.note k answer = { live := true, receives := ⟨k, answer.toList⟩ :: L.receives } := by
  unfold isRetry at h
  unfold note
  split at h
  · next hrs => simp [hrs]
  · next r rs hrs =>
    have hk : ¬ (L.live = true ∧ r.key = k) := by simpa using h
    simp only [hrs, if_neg hk]

/-- The request just noted is the one that may be repeated. -/
theorem isRetry_note (L : Ledger κ α) (k k' : κ) (answer : Option (List α)) :
    (L.note k answer).isRetry k' = decide (k = k') := by
  cases h : L.isRetry k with
  | true =>
      obtain ⟨r, rs, -, -, heq⟩ := note_of_retry h answer
      rw [heq]
      rfl
  | false =>
      rw [note_of_not_retry h]
      rfl

end Ledger

/-! ## The server -/

/-- The stream so far, the part of it given away for good, and the length of the lease after it. -/
structure Lease (α : Type v) where
  stream : List α
  pos : Nat
  held : Nat

namespace Lease

/-- More of the stream arrives. -/
def push (l : Lease α) (xs : List α) : Lease α := { l with stream := l.stream ++ xs }

@[simp] theorem push_nil (l : Lease α) : l.push [] = l := by simp [push]

/-- Answer a request for at most `room` items: a repetition from the same place, another request
after giving the lease away. -/
def serve (l : Lease α) (retry : Bool) (room : Nat) : List α × Lease α :=
  let pos := if retry then l.pos else l.pos + l.held
  let out := (l.stream.drop pos).take room
  (out, { l with pos := pos, held := out.length })

section

variable (l : Lease α) (retry : Bool) (room : Nat)

theorem pos_le_serve : l.pos ≤ (l.serve retry room).2.pos := by
  cases retry <;> simp [serve]

theorem serve_held : (l.serve retry room).2.held =
    min room (l.stream.length - (l.serve retry room).2.pos) := by
  simp [serve]

/-- The new lease lies within the stream if the old one did. -/
theorem serve_end_le (h : l.pos + l.held ≤ l.stream.length) :
    (l.serve retry room).2.pos + (l.serve retry room).2.held ≤ l.stream.length := by
  rw [serve_held]
  have : (l.serve retry room).2.pos ≤ l.stream.length := by
    cases retry <;> simp only [serve, Bool.false_eq_true, if_true, if_false] <;> omega
  omega

/-- What is handed out is the lease. -/
theorem serve_fst : (l.serve retry room).1 =
    (l.stream.drop (l.serve retry room).2.pos).take (l.serve retry room).2.held :=
  List.prefix_iff_eq_take.mp (List.take_prefix _ _)

end

/-- Without a lease it does not matter whether a request is a repetition. -/
theorem serve_of_held_zero {l : Lease α} (h : l.held = 0) (retry retry' : Bool) (room : Nat) :
    l.serve retry room = l.serve retry' room := by
  cases retry <;> cases retry' <;> simp [serve, h]

/-- What was given away for good, and what is leased with it, is made up of some of the answers, in
order. -/
structure Covered (l : Lease α) (answers : List (List α)) : Prop where
  given : ∃ parts : List (List α), parts.Sublist answers ∧ parts.flatten = l.stream.take l.pos
  leased : ∃ parts : List (List α), parts.Sublist answers ∧
    parts.flatten = l.stream.take (l.pos + l.held)

namespace Covered

variable {l : Lease α} {answers : List (List α)}

/-- Before anything is asked for. -/
theorem start (xs : List α) (answers : List (List α)) :
    Covered { stream := xs, pos := 0, held := 0 } answers :=
  ⟨⟨[], List.nil_sublist _, rfl⟩, ⟨[], List.nil_sublist _, rfl⟩⟩

/-- More of the stream arrives. -/
theorem push (h : Covered l answers) (hend : l.pos + l.held ≤ l.stream.length) (xs : List α) :
    Covered (l.push xs) answers := by
  obtain ⟨⟨given, hg, hgiven⟩, ⟨leased, hl, hleased⟩⟩ := h
  refine ⟨⟨given, hg, ?_⟩, ⟨leased, hl, ?_⟩⟩
  · rw [hgiven]
    exact (List.take_append_of_le_length (by omega)).symm
  · rw [hleased]
    exact (List.take_append_of_le_length hend).symm

/-- A request is answered: with what is handed out, or without data when that is nothing. -/
theorem serve (h : Covered l answers) (retry : Bool) (room : Nat) {answer : Option (List α)}
    (hanswer : answer = some (l.serve retry room).1 ∨
      answer = none ∧ (l.serve retry room).1 = []) :
    Covered (l.serve retry room).2 (answers ++ answer.toList) := by
  have hsub : answers.Sublist (answers ++ answer.toList) := List.sublist_append_left _ _
  -- what is given away for good now: the same as before, or the lease with it
  have hgiven : ∃ parts : List (List α), parts.Sublist answers ∧
      parts.flatten = l.stream.take (l.serve retry room).2.pos := by
    cases retry with
    | true => exact h.given
    | false => exact h.leased
  obtain ⟨parts, hparts, hflat⟩ := hgiven
  refine ⟨⟨parts, hparts.trans hsub, hflat⟩, ?_⟩
  have htake : l.stream.take ((l.serve retry room).2.pos + (l.serve retry room).2.held) =
      parts.flatten ++ (l.serve retry room).1 := by
    rw [List.take_add, ← hflat, ← serve_fst]
  rcases hanswer with rfl | ⟨rfl, hnil⟩
  · refine ⟨parts ++ [(l.serve retry room).1], hparts.append (List.Sublist.refl _), ?_⟩
    rw [List.flatten_append, List.flatten_singleton]
    exact htake.symm
  · rw [hnil, List.append_nil] at htake
    exact ⟨parts, hparts.trans hsub, htake.symm⟩

end Covered

end Lease

/-! ## The two sides agree -/

variable {room : κ → Nat} {l : Lease α} {L : Ledger κ α}

/-- The server's lease is what the reader's newest receive got, and its position is what the ones
before got. -/
structure Accounts (room : κ → Nat) (l : Lease α) (L : Ledger κ α) : Prop where
  served : Served l.stream L.receives
  pos : l.pos = (received L.receives.tail).length
  held : l.held = (newest L.receives).length
  /-- The lease is no longer than what its request had room for. -/
  fits : ∀ r rs, L.receives = r :: rs → l.held ≤ room r.key

namespace Accounts

/-- Before anything is asked for. -/
theorem start (room : κ → Nat) (xs : List α) :
    Accounts room { stream := xs, pos := 0, held := 0 } (Ledger.empty : Ledger κ α) :=
  ⟨.nil, rfl, rfl, fun _ _ h => by simp [Ledger.empty] at h⟩

theorem push (h : Accounts room l L) (xs : List α) : Accounts room (l.push xs) L :=
  ⟨h.served.push xs, h.pos, h.held, h.fits⟩

theorem pass (h : Accounts room l L) : Accounts room l L.pass := ⟨h.served, h.pos, h.held, h.fits⟩

theorem pos_add_held (h : Accounts room l L) : l.pos + l.held = (received L.receives).length := by
  rw [received_eq, List.length_append, h.pos, h.held]

/-- A request is answered: with what the server hands out, or without data when that is nothing. -/
theorem serve [DecidableEq κ] (h : Accounts room l L) (k : κ) {answer : Option (List α)}
    (hanswer : answer = some (l.serve (L.isRetry k) (room k)).1 ∨
      answer = none ∧ (l.serve (L.isRetry k) (room k)).1 = []) :
    Accounts room (l.serve (L.isRetry k) (room k)).2 (L.note k answer) := by
  cases hretry : L.isRetry k with
  | false =>
      rw [hretry] at hanswer
      have hpos : l.pos + l.held = (received L.receives).length := h.pos_add_held
      simp only [Lease.serve, Bool.false_eq_true, if_false] at hanswer ⊢
      set out := (l.stream.drop (l.pos + l.held)).take (room k) with hout
      have hpre : out <+: l.stream.drop (received L.receives).length := by
        rw [← hpos]
        exact List.take_prefix _ _
      have hlen : out.length = (newest [(⟨k, answer.toList⟩ : Receive κ α)]).length := by
        rcases hanswer with rfl | ⟨rfl, hnil⟩
        · rfl
        · rw [hnil]
          rfl
      rw [Ledger.note_of_not_retry hretry]
      refine ⟨.cons h.served ?_ ?_, hpos, hlen, ?_⟩
      · rcases hanswer with rfl | ⟨rfl, -⟩ <;> simp
      · rcases hanswer with rfl | ⟨rfl, -⟩
        · simpa using hpre
        · simp
      · intro r rs heq
        obtain ⟨rfl, -⟩ := List.cons.inj heq
        exact List.length_take_le _ _
  | true =>
      rw [hretry] at hanswer
      obtain ⟨r, rs, hrs, rfl, hnote⟩ := Ledger.note_of_retry hretry answer
      have hserved := h.served
      have hpos := h.pos
      have hheld := h.held
      have hfits := h.fits r rs hrs
      rw [hrs] at hserved hpos hheld
      simp only [Lease.serve, if_true] at hanswer ⊢
      set out := (l.stream.drop l.pos).take (room r.key) with hout
      cases hserved with
      | cons hs hchain hstart =>
        change l.pos = (received rs).length at hpos
        change l.held = r.data.length at hheld
        rw [← hpos] at hstart
        -- the answer extends what the receive got before, for the room is the same
        have hdata : r.data <+: out :=
          List.prefix_take_iff.mpr ⟨Served.data_prefix hstart, by rw [← hheld]; exact hfits⟩
        have hpre : out <+: l.stream.drop l.pos := List.take_prefix _ _
        rw [hnote]
        rcases hanswer with rfl | ⟨rfl, hnil⟩
        · refine ⟨.cons hs ?_ ?_, hpos, by simp [newest, Receive.data], ?_⟩
          · refine List.isChain_append.mpr ⟨hchain, by simp, ?_⟩
            intro d hd d' hd'
            obtain rfl : d' = out := by simpa using hd'.symm
            have hdd : r.data = d := by simp [Receive.data, Option.mem_def.mp hd]
            exact hdd ▸ hdata
          · intro d hd
            rw [← hpos]
            rcases List.mem_append.mp hd with hd | hd
            · exact hstart d hd
            · obtain rfl : d = out := by simpa using hd
              exact hpre
          · intro r' rs' heq
            obtain ⟨rfl, -⟩ := List.cons.inj heq
            exact List.length_take_le _ _
        · have hempty : r.data = [] := by
            rw [hnil] at hdata
            exact List.prefix_nil.mp hdata
          refine ⟨.cons hs (by simpa using hchain) ?_, hpos, ?_, ?_⟩
          · intro d hd
            rw [← hpos]
            exact hstart d (by simpa using hd)
          · change out.length = _
            rw [hnil]
            simpa [newest, Receive.data] using (congrArg List.length hempty).symm
          · intro r' rs' _
            change out.length ≤ _
            simp [hnil]

end Accounts

end Cc3501eBridge
