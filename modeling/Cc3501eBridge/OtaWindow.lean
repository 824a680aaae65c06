import Cc3501eBridge.OtaImage

/-!
# The window of an update

What the arithmetic of the window rests on.  The window starts at `window_base`, the bytes below
`flushed` are in the slot, and the two differ only between the opening of the slot, where the manifest
counts as flushed, and the first commit.  So the session has one of three shapes (`WindowShape`), and a
flush takes each to the second or the third: from the anchor it commits whole blocks and leaves less
than one, which makes room for the chunk that asked for it.

`opened` and `committed` are the two halves of `ota_flush` when `psa_fwu` succeeds.
-/

namespace Cc3501eBridge

open Trace

/-! ## A flush by its result -/

/-- Every call succeeds; the two that conclude an image may ask for a reboot. -/
def PsaOracle.Succeeds (O : PsaOracle) : Prop :=
  ∀ log c, (O log c).status = psaSuccess ∨
    ((c = .install ∨ ∃ slot, c = .finish slot) ∧ (O log c).status = psaSuccessReboot)

/-- The session with the slot open. -/
def Ota.opened (manifest : Nat) (o : Ota) : Ota :=
  if o.started then o else { o with started := true, flushed := manifest }

/-- The session with what was ready committed. -/
def Ota.committed (final : Bool) (o : Ota) : Ota :=
  if otaReady final o = 0 then o else o.slid (o.flushed + otaReady final o)

section

variable {manifest : Nat} {o : Ota} {O : PsaOracle} {final : Bool}

theorem PsaOracle.Succeeds.write (h : O.Succeeds) (log : List PsaCall) (slot : VendorSlot) (off : Nat)
    (data : List UInt8) : (O log (.write slot off data)).status = psaSuccess := by
  rcases h log (.write slot off data) with h | ⟨h | ⟨_, h⟩, -⟩
  · exact h
  · cases h
  · cases h

theorem PsaOracle.Succeeds.start (h : O.Succeeds) (log : List PsaCall) (slot : VendorSlot)
    (data : List UInt8) : (O log (.start slot data)).status = psaSuccess := by
  rcases h log (.start slot data) with h | ⟨h | ⟨_, h⟩, -⟩
  · exact h
  · cases h
  · cases h

/-- The write loop stops early only if a call fails. -/
theorem otaWriteBlocks_none (stop turns off : Nat) :
    (otaWriteBlocks O o stop turns off).Makes fun r _ => O.Succeeds → r = none := by
  induction turns generalizing off with
  | zero => exact .pure fun _ => rfl
  | succ turns ih =>
      unfold otaWriteBlocks
      apply Calls.Makes.ite
      · intro _
        refine .answered (S := fun r => O.Succeeds → r.status = psaSuccess)
          (fun log hO => hO.write log _ _ _) fun pw hpw => ?_
        exact .ite (fun hne => .pure fun hO => absurd (hpw hO) hne) fun _ => ih _
      · exact fun _ => .pure fun _ => rfl

theorem otaCommit_result :
    (otaCommit O final o).Makes fun r _ =>
      Failed r.2 ∧ ¬ O.Succeeds ∨ r = (o.committed final, hwOk) := by
  unfold otaCommit Ota.committed
  dsimp only
  apply Calls.Makes.ite
  · intro hz
    rw [if_pos hz]
    exact .pure (.inr rfl)
  intro hz
  rw [if_neg hz]
  refine (otaWriteBlocks_none _ _ _).bind fun r _ hr => ?_
  cases r with
  | some pw => exact .pure (.inl ⟨failed_errIo, fun hO => nomatch hr hO⟩)
  | none => exact .pure (.inr rfl)

theorem otaOpenSlot_result :
    (otaOpenSlot O manifest o).Makes fun r _ =>
      Failed r.2 ∧ (O.Succeeds → o.started = false ∧ o.windowUsed < manifest) ∨
        (o.started = true ∨ manifest ≤ o.windowUsed) ∧ r = (o.opened manifest, hwOk) := by
  unfold otaOpenSlot Ota.opened
  apply Calls.Makes.ite
  · intro hs
    rw [if_pos hs]
    exact .pure (.inr ⟨.inl hs, rfl⟩)
  intro hs
  rw [if_neg hs]
  apply Calls.Makes.ite
  · exact fun hm => .pure (.inl ⟨failed_errInval, fun _ => ⟨by simpa using hs, hm⟩⟩)
  intro hm
  refine .answered (S := fun r => O.Succeeds → r.status = psaSuccess)
    (fun log hO => hO.start log _ _) fun ps hps => ?_
  apply Calls.Makes.ite
  · exact fun hne => .pure (.inl ⟨failed_errIo, fun hO => absurd (hps hO) hne⟩)
  · exact fun _ => .pure (.inr ⟨.inr (by omega), rfl⟩)

/-- A flush fails or does both halves; it fails only if `psa_fwu` does or the manifest is not there. -/
theorem otaFlush_result :
    (otaFlush O manifest final o).Makes fun r _ =>
      Failed r.2 ∧ (O.Succeeds → o.started = false ∧ o.windowUsed < manifest) ∨
        (o.started = true ∨ manifest ≤ o.windowUsed) ∧
          r = ((o.opened manifest).committed final, hwOk) := by
  refine otaOpenSlot_result.bind ?_
  rintro ⟨o', rc⟩ _ (⟨hf, hno⟩ | ⟨hopen, heq⟩)
  · exact .ite (fun _ => .pure (.inl ⟨hf, hno⟩)) fun hok => absurd (not_not.mp hok) hf.1
  · obtain ⟨rfl, rfl⟩ := Prod.mk.inj heq
    refine .ite (fun hne => absurd rfl hne) fun _ => otaCommit_result.mono ?_
    rintro r _ (⟨hf, hno⟩ | heq)
    · exact .inl ⟨hf, fun hO => absurd hO hno⟩
    · exact .inr ⟨hopen, heq⟩

end

/-! ## The three shapes -/

/-- How the window stands to what is in the slot. -/
inductive WindowShape (manifest : Nat) (o : Ota) : Prop
  | /-- The slot is not open. -/
    closed : o.started = false → o.windowBase = 0 → o.flushed = 0 → WindowShape manifest o
  | /-- The slot is open, and nothing but the manifest is in it. -/
    opened : o.started = true → o.windowBase = 0 → o.flushed = manifest → manifest ≤ o.windowUsed →
      WindowShape manifest o
  | /-- The window starts where the slot ends. -/
    slid : o.started = true → o.windowBase = o.flushed → WindowShape manifest o

namespace WindowShape

variable {manifest : Nat} {o o' : Ota} {final : Bool}

/-- Only some fields matter. -/
theorem congr (h : WindowShape manifest o) (hs : o'.started = o.started)
    (hb : o'.windowBase = o.windowBase) (hf : o'.flushed = o.flushed)
    (hu : o.windowUsed ≤ o'.windowUsed) : WindowShape manifest o' := by
  cases h with
  | closed h1 h2 h3 => exact .closed (hs.trans h1) (hb.trans h2) (hf.trans h3)
  | opened h1 h2 h3 h4 => exact .opened (hs.trans h1) (hb.trans h2) (hf.trans h3) (h4.trans hu)
  | slid h1 h2 => exact .slid (hs.trans h1) (by rw [hb, hf, h2])

theorem open_slot (h : WindowShape manifest o) (hopen : o.started = true ∨ manifest ≤ o.windowUsed) :
    WindowShape manifest (o.opened manifest) ∧ (o.opened manifest).started = true := by
  unfold Ota.opened
  cases hs : o.started with
  | true => exact ⟨h, hs⟩
  | false =>
      have hm : manifest ≤ o.windowUsed := hopen.resolve_left (by simp [hs])
      cases h with
      | closed _ hb _ => exact ⟨.opened rfl hb rfl hm, rfl⟩
      | opened h1 _ _ _ => simp [hs] at h1
      | slid h1 _ => simp [hs] at h1

theorem commit (h : WindowShape manifest o) (hs : o.started = true) :
    WindowShape manifest (o.committed final) ∧ (o.committed final).started = true := by
  unfold Ota.committed
  split_ifs
  · exact ⟨h, hs⟩
  · exact ⟨.slid hs rfl, hs⟩

theorem begun (target : VendorSlot) : WindowShape manifest (o.begun target) := .closed rfl rfl rfl

end WindowShape

/-! ## The shape along a run -/

section

variable {manifest : Nat} {image : List UInt8} {calls : List PsaCall} {o : Ota} {O : PsaOracle}
  {polled : Bool} {tr : List OtaEv} {s s' : OtaSys} {e : OtaEv}

/-- An operation of the pump that leaves the session open leaves it in shape. -/
theorem otaExecute_shape (h : Session manifest image calls o)
    (hop : o.op = .begin ∨ o.op = .idle ∨ o.state = .writing)
    (hshape : o.state = .writing → WindowShape manifest o) :
    (otaExecute O manifest o).Makes fun r _ => r.1.state = .writing → WindowShape manifest r.1 := by
  have hfail : ∀ {o' : Ota} {rc : Int}, Failed rc →
      (if rc ≠ hwOk ∧ rc ≠ hwBusy then (pure ({ o' with state := .error }, rc) : Calls PsaCall _)
        else pure (o', rc)).Makes fun r _ => r.1.state = .writing → WindowShape manifest r.1 :=
    fun hf => .ite (fun _ => .pure nofun) (absurd hf ·)
  unfold otaExecute otaRunOp
  cases hcase : o.op with
  | begin =>
      refine otaDoBegin_makes.bind ?_
      rintro ⟨o', rc⟩ _ (heq | ⟨target, heq⟩)
      · obtain ⟨-, rfl⟩ := Prod.mk.inj heq
        exact hfail failed_errIo
      · obtain ⟨rfl, rfl⟩ := Prod.mk.inj heq
        exact .pure fun _ => .begun target
  | idle =>
      refine .bind (P := fun r _ => r.2 = hwErrInval) (.pure rfl) ?_
      rintro ⟨o', rc⟩ _ rfl
      exact hfail failed_errInval
  | finish =>
      have hw : o.state = .writing := by simpa [hcase] using hop
      refine (otaDoFinish_makes (h.writing hw)).bind ?_
      rintro ⟨o', rc⟩ _ (hf | ⟨rfl, hst, -⟩)
      · exact hfail hf
      · exact .pure fun hw' => nomatch hst.symm.trans hw'
  | flush =>
      have hw : o.state = .writing := by simpa [hcase] using hop
      refine otaFlush_result.bind ?_
      rintro ⟨o', rc⟩ _ (⟨hf, -⟩ | ⟨hopen, heq⟩)
      · exact hfail hf
      · obtain ⟨rfl, rfl⟩ := Prod.mk.inj heq
        obtain ⟨hsh, hs⟩ := (hshape hw).open_slot hopen
        exact .pure fun _ => (hsh.commit hs).1

theorem shape_step (h : OtaInv manifest tr s) (hshape : s.ota.state = .writing →
    WindowShape manifest s.ota) {a : OtaAct} (ha : a ≠ .abort)
    (hs : (otaSystem manifest polled).step s a = some (s', e)) :
    s'.ota.state = .writing → WindowShape manifest s'.ota := by
  cases otaStep_trans hs with
  | begin total _ =>
      rcases otaBegin_cases manifest s.ota total with heq | ⟨-, hw, heq⟩
      · rw [heq]
        exact hshape
      · rw [heq]
        intro hw'
        dsimp only at hw'
        split_ifs at hw'
        exact absurd hw' hw
  | write off data _ =>
      rcases otaWrite_cases manifest s.ota off data with heq | ⟨-, hw, heq | ⟨-, -, -, op, rc, -, heq⟩⟩
      · rw [heq]
        exact hshape
      · rw [heq]
        exact fun hw => (hshape hw).congr rfl rfl rfl le_rfl
      · rw [heq]
        exact fun hw => (hshape hw).congr rfl rfl rfl (Nat.le_add_right _ _)
  | finish _ =>
      rcases otaFinish_cases s.ota with heq | ⟨-, -, heq⟩
      · rw [heq]
        exact hshape
      · rw [heq]
        exact fun hw => (hshape hw).congr rfl rfl rfl le_rfl
  | abort _ => exact absurd rfl ha
  | enter O hpc => exact hshape
  | execute O hpc =>
      have hrc := h.running (by rw [hpc]; exact PumpPc.noConfusion)
      exact (otaExecute_shape (O := O) h.session (h.queued (.inr hpc) hrc) hshape).run
  | free O hpc => exact fun hw => (hshape hw).congr rfl rfl rfl le_rfl
  | publish hpc => exact fun hw => (hshape hw).congr rfl rfl rfl le_rfl

/-- A run without an `ABORT`, with a property of its own that every step keeps. -/
theorem OtaInv.run_induction {P : List OtaEv → OtaSys → Prop}
    (hr : (otaSystem manifest polled).Run .boot tr s) (hna : ∀ rc, .abort rc ∉ tr) (h0 : P [] .boot)
    (hstep : ∀ tr s a s' e, OtaInv manifest tr s → P tr s → a ≠ .abort →
      (otaSystem manifest polled).step s a = some (s', e) → P (tr ++ [e]) s') :
    OtaInv manifest tr s ∧ P tr s := by
  have hboot : (otaSystem manifest polled).Run .boot [] .boot := .nil
  refine hr.invariant (P := fun tr s => (∀ rc, .abort rc ∉ tr) → OtaInv manifest tr s ∧ P tr s)
    (fun hna => ⟨.of_run hboot hna, h0⟩) ?_ hna
  intro tr s a s' e ih hs hna
  obtain ⟨hinv, hP⟩ := ih fun rc hmem => hna rc (List.mem_append_left _ hmem)
  have ha : a ≠ .abort := by
    rintro rfl
    cases otaStep_trans hs with
    | abort _ => exact hna _ (List.mem_append_right _ (List.mem_singleton_self _))
  exact ⟨hinv.step ha hs, hstep tr s a s' e hinv hP ha hs⟩

/-! ## Chunks sent again -/

/-- An executed `BEGIN`. -/
def OtaEv.Begins (e : OtaEv) : Prop := ∃ rc calls, e = .executed .begin rc calls

/-- Without a new `BEGIN` the image only grows. -/
theorem imageOf_length_le (he : ¬ e.Begins) : (imageOf tr).length ≤ (imageOf (tr ++ [e])).length := by
  unfold imageOf
  rw [List.foldl_append, List.foldl_cons, List.foldl_nil]
  split
  · exact absurd ⟨_, _, rfl⟩ he
  · rw [List.length_append]
    exact Nat.le_add_right _ _
  · exact le_rfl

/-- A chunk that advances the cursor continues the image. -/
theorem otaWrite_advances {off : Nat} {data : List UInt8}
    (h : o.cursor < (otaWrite manifest o off data).1.cursor) :
    o.state = .writing ∧ off = o.cursor ∧ 0 < data.length ∧ data.length ≤ otaMaxChunk := by
  unfold otaWrite at h
  by_cases hw : o.state ≠ .writing
  · rw [if_pos hw] at h
    exact absurd h (lt_irrefl _)
  rw [if_neg hw] at h
  by_cases hlen : data.length = 0 ∨ data.length > otaMaxChunk
  · rw [if_pos hlen] at h
    exact absurd h (lt_irrefl _)
  rw [if_neg hlen] at h
  by_cases hrc : o.opRc = otaOpInflight
  · rw [if_pos hrc] at h
    exact absurd h (lt_irrefl _)
  rw [if_neg hrc] at h
  by_cases hdup : off + data.length ≤ o.cursor
  · rw [if_pos hdup] at h
    exact absurd h (lt_irrefl _)
  rw [if_neg hdup] at h
  by_cases hoff : off ≠ o.cursor
  · rw [if_pos hoff] at h
    exact absurd h (lt_irrefl _)
  exact ⟨not_not.mp hw, not_not.mp hoff, by omega, by omega⟩

/-- The chunks accepted since the last executed `BEGIN` lie within the image. -/
def AcceptedWithin (tr : List OtaEv) : Prop :=
  ∀ i off data rc, At (· = .write off data rc true) tr i → (∀ j, i < j → ¬ At OtaEv.Begins tr j) →
    off + data.length ≤ (imageOf tr).length ∧ 0 < data.length ∧ data.length ≤ otaMaxChunk

theorem AcceptedWithin.step (h : AcceptedWithin tr) (hinv : OtaInv manifest tr s) {a : OtaAct}
    (hs : (otaSystem manifest polled).step s a = some (s', e)) : AcceptedWithin (tr ++ [e]) := by
  intro i off data rc hi hno
  rcases at_snoc.mp hi with hi | ⟨-, rfl⟩
  · have he : ¬ e.Begins := fun he => hno tr.length hi.lt (at_last he)
    obtain ⟨hle, hlen⟩ := h i off data rc hi fun j hij hj => hno j hij hj.snoc
    exact ⟨hle.trans (imageOf_length_le he), hlen⟩
  · -- the chunk just accepted
    generalize he : OtaEv.write off data rc true = e at hs
    cases otaStep_trans hs with
    | write off' data' hserves =>
        injection he with hoff hdata _ hadv
        subst hoff hdata
        obtain ⟨hw, hoff, hlen⟩ := otaWrite_advances (of_decide_eq_true hadv.symm)
        refine ⟨?_, hlen⟩
        rw [← hadv, show imageOf (tr ++ [.write off data (otaWrite manifest s.ota off data).2 true]) =
          imageOf tr ++ data by unfold imageOf; rw [List.foldl_append]; rfl, List.length_append, hoff,
          (hinv.session.writing hw).cursor]
    | _ => cases he

end

/-! ## Indices and differences -/

/-- In the write loop of `ota_flush`: the index of the window is not negative, and the bytes from there
on are in the window. -/
def Ota.WriteBlocksSafe (o : Ota) (stop : Nat) : Nat → Nat → Prop
  | 0, _ => True
  | turns + 1, off => off < stop →
      o.windowBase ≤ off ∧ off - o.windowBase + min (stop - off) otaFinishFlashBlock ≤ otaWindow ∧
        o.WriteBlocksSafe stop turns (off + min (stop - off) otaFinishFlashBlock)

/-- In the second half of `ota_flush`: the write loop, the length of the tail, and the two ends of the
`memmove`. -/
def Ota.CommitSafe (final : Bool) (o : Ota) : Prop :=
  otaReady final o ≠ 0 →
    let stop := o.flushed + otaReady final o
    o.WriteBlocksSafe stop (otaReady final o) o.flushed ∧
      stop ≤ o.windowBase + o.windowUsed ∧ o.windowBase ≤ stop ∧
      stop - o.windowBase + (o.windowBase + o.windowUsed - stop) ≤ otaWindow

/-- In `ota_flush`: the manifest `psa_fwu_start` reads, and the second half if it is reached. -/
def Ota.FlushSafe (manifest : Nat) (final : Bool) (o : Ota) : Prop :=
  (o.started = false → manifest ≤ o.windowUsed → manifest ≤ otaWindow) ∧
    (o.started = true ∨ manifest ≤ o.windowUsed → (o.opened manifest).CommitSafe final)

/-- In `cc3501e_hw_ota_write`: the room of the window, and the bytes copied. -/
def Ota.WriteSafe (o : Ota) (data : List UInt8) : Prop :=
  o.windowUsed ≤ otaWindow ∧
    (data.length ≤ otaWindow - o.windowUsed → o.windowUsed + data.length ≤ otaWindow)

/-- What the pump is about to execute. -/
def Ota.ExecuteSafe (manifest : Nat) (o : Ota) : Prop :=
  (o.op = .flush → o.FlushSafe manifest false) ∧
    (o.op = .finish → o.cursor = o.totalLen → manifest < o.totalLen → o.FlushSafe manifest true)

section

variable {manifest : Nat} {image : List UInt8} {calls : List PsaCall} {o : Ota} {final : Bool}

theorem Ota.writeBlocksSafe {stop : Nat} (hstop : stop ≤ o.windowBase + o.windowUsed)
    (hused : o.windowUsed ≤ otaWindow) (turns off : Nat) (hoff : o.windowBase ≤ off) :
    o.WriteBlocksSafe stop turns off := by
  induction turns generalizing off with
  | zero => trivial
  | succ turns ih =>
      intro hlt
      have hmin : min (stop - off) otaFinishFlashBlock ≤ stop - off := Nat.min_le_left _ _
      exact ⟨hoff, by omega, ih _ (by omega)⟩

/-- A session whose marks are in order commits within its window. -/
theorem Ota.commitSafe (hbase : o.windowBase ≤ o.flushed)
    (hflushed : o.flushed ≤ o.windowBase + o.windowUsed) (hused : o.windowUsed ≤ otaWindow) :
    o.CommitSafe final := by
  intro _
  have hready : o.flushed + otaReady final o ≤ o.windowBase + o.windowUsed := by
    unfold otaReady
    dsimp only
    split_ifs <;> omega
  dsimp only
  exact ⟨writeBlocksSafe hready hused _ _ hbase, hready, by omega, by omega⟩

theorem Staging.flushSafe (h : Staging manifest image calls o) : o.FlushSafe manifest final := by
  refine ⟨fun _ hm => hm.trans h.used_le, fun hopen => ?_⟩
  unfold Ota.opened
  have hused := h.used
  cases hs : o.started with
  | true =>
      obtain ⟨hbase, -, hle, -⟩ := h.slot hs
      rw [if_pos rfl]
      exact Ota.commitSafe hbase (by omega) h.used_le
  | false =>
      have hm : manifest ≤ o.windowUsed := hopen.resolve_left (by simp [hs])
      have hbase := (h.closed hs).1
      refine Ota.commitSafe ?_ ?_ h.used_le
      · change o.windowBase ≤ manifest
        omega
      · change manifest ≤ o.windowBase + o.windowUsed
        omega

theorem Staging.executeSafe (h : o.op = .flush ∨ o.op = .finish → Staging manifest image calls o) :
    o.ExecuteSafe manifest :=
  ⟨fun hop => (h (.inl hop)).flushSafe, fun hop _ _ => (h (.inr hop)).flushSafe⟩

/-! ## A refused chunk -/

/-- `cc3501e_hw_ota_write` refuses the chunk only because the window is too full for it. -/
structure Ota.WindowFull (o : Ota) (offset : Nat) (data : List UInt8) : Prop where
  writing : o.state = .writing
  length : data.length ≠ 0 ∧ data.length ≤ otaMaxChunk
  notInflight : o.opRc ≠ otaOpInflight
  next : offset = o.cursor
  le_total : offset + data.length ≤ o.totalLen
  full : otaWindow - o.windowUsed < data.length

theorem Ota.WindowFull.queues {offset : Nat} {data : List UInt8} (h : o.WindowFull offset data) :
    otaWrite manifest o offset data = ({ o with op := .flush, opRc := otaOpInflight }, hwBusy) := by
  have hlen := h.length
  have hnext := h.next
  have htotal := h.le_total
  unfold otaWrite
  rw [if_neg (by simp [h.writing]), if_neg (by omega), if_neg h.notInflight, if_neg (by omega),
    if_neg (by simp [hnext]), if_neg (by omega), if_pos h.full, otaSubmit, if_neg h.notInflight]

@[simp] theorem Ota.opened_windowUsed : (o.opened manifest).windowUsed = o.windowUsed := by
  unfold opened
  split_ifs <;> rfl

/-- What a flush leaves alone. -/
theorem Ota.flushed_keeps : ((o.opened manifest).committed final).state = o.state ∧
    ((o.opened manifest).committed final).cursor = o.cursor ∧
    ((o.opened manifest).committed final).totalLen = o.totalLen := by
  unfold committed slid opened
  split_ifs <;> exact ⟨rfl, rfl, rfl⟩

/-- The flush a refused chunk asked for leaves less than a block in the window. -/
theorem WindowShape.room (hshape : WindowShape manifest o) (hM : manifest ≤ otaFinishFlashBlock)
    (hfull : otaWindow < o.windowUsed + otaMaxChunk) :
    ((o.opened manifest).committed false).windowUsed < otaFinishFlashBlock ∧
      ((o.opened manifest).committed false).started = true := by
  have hconst : otaWindow = 16384 ∧ otaMaxChunk = 4092 ∧ otaFinishFlashBlock = 4096 :=
    ⟨rfl, rfl, rfl⟩
  obtain ⟨hopened, hs⟩ := hshape.open_slot (.inr (by omega))
  refine ⟨?_, (hopened.commit hs).2⟩
  generalize hq : o.opened manifest = q at hopened hs ⊢
  have hu : q.windowUsed = o.windowUsed := by rw [← hq, Ota.opened_windowUsed]
  -- what is ready: everything behind the anchor
  have hready : ∃ n, otaFinishFlashBlock ≤ n ∧ q.flushed + n = q.windowBase + q.windowUsed := by
    cases hopened with
    | closed h1 _ _ => simp [hs] at h1
    | opened _ hb hf hm => exact ⟨q.windowUsed - manifest, by omega, by omega⟩
    | slid _ hb => exact ⟨q.windowUsed, by omega, by omega⟩
  obtain ⟨n, hn, hsum⟩ := hready
  have hlt := Nat.mod_lt n (show 0 < otaFinishFlashBlock by decide)
  have hwhole : otaReady false q = n - n % otaFinishFlashBlock := by
    unfold otaReady
    have hpos : q.windowBase + q.windowUsed > q.flushed := by omega
    have hn' : q.windowBase + q.windowUsed - q.flushed = n := by omega
    simp only [if_pos hpos, hn', Bool.false_eq_true, if_false]
    rw [if_neg fun h => absurd h.1 (by omega)]
  unfold Ota.committed
  rw [hwhole, if_neg (by omega)]
  change q.windowBase + q.windowUsed - (q.flushed + (n - n % otaFinishFlashBlock)) < _
  omega

end

/-! ## The pump with a flush in flight -/

/-- No `ABORT`, and `psa_fwu` succeeds. -/
def OtaAct.Fine (a : OtaAct) : Prop := a ≠ .abort ∧ ∀ O, a = .execute O → O.Succeeds

/-- A flush of `o` is queued, executed or about to be published. -/
inductive FlushRunning (manifest : Nat) (o : Ota) (s : OtaSys) : Prop
  | queued : s.pc = .idle ∨ s.pc = .checked → s.ota = { o with op := .flush, opRc := otaOpInflight } →
      FlushRunning manifest o s
  | done (op : OtaOp) : s.pc = .reopened hwOk ∨ s.pc = .freed hwOk →
      s.ota = { (o.opened manifest).committed false with op := op, opRc := otaOpInflight } →
      FlushRunning manifest o s

/-- The flush of `o` is published. -/
def FlushPublished (manifest : Nat) (o : Ota) (s : OtaSys) : Prop :=
  ∃ op, s.ota = { (o.opened manifest).committed false with op := op, opRc := hwOk }

section

variable {manifest : Nat} {polled : Bool} {o : Ota} {s s' : OtaSys} {e : OtaEv} {a : OtaAct}

theorem FlushRunning.inflight (h : FlushRunning manifest o s) : s.ota.opRc = otaOpInflight := by
  cases h with
  | queued _ hota => rw [hota]
  | done _ _ hota => rw [hota]

/-- The two halves of a flush do not look at the queue. -/
theorem Ota.opened_queue (op : OtaOp) (rc : Int) :
    ({ o with op := op, opRc := rc } : Ota).opened manifest =
      { o.opened manifest with op := op, opRc := rc } := by
  unfold Ota.opened
  dsimp only
  split_ifs <;> rfl

theorem Ota.committed_queue (final : Bool) (op : OtaOp) (rc : Int) :
    ({ o with op := op, opRc := rc } : Ota).committed final =
      { o.committed final with op := op, opRc := rc } := by
  have hready : otaReady final ({ o with op := op, opRc := rc } : Ota) = otaReady final o := rfl
  unfold Ota.committed
  rw [hready]
  split_ifs <;> rfl

/-- Executing the queued flush. -/
theorem otaExecute_flush {O : PsaOracle} (hO : O.Succeeds)
    (hopen : o.started = true ∨ manifest ≤ o.windowUsed) :
    (otaExecute O manifest { o with op := .flush, opRc := otaOpInflight }).Makes fun r _ =>
      r = ({ (o.opened manifest).committed false with op := .flush, opRc := otaOpInflight }, hwOk) := by
  refine otaFlush_result.bind ?_
  rintro ⟨o', rc⟩ _ (⟨-, hno⟩ | ⟨-, heq⟩)
  · obtain ⟨hs, hm⟩ := hno hO
    rcases hopen with h | h
    · exact nomatch hs.symm.trans h
    · exact absurd hm (not_lt.mpr h)
  · obtain ⟨rfl, rfl⟩ := Prod.mk.inj heq
    refine .ite (fun hf => absurd rfl hf.1) fun _ => .pure ?_
    rw [Ota.opened_queue, Ota.committed_queue]

theorem FlushRunning.step (h : FlushRunning manifest o s)
    (hopen : o.started = true ∨ manifest ≤ o.windowUsed) (ha : a.Fine)
    (hs : (otaSystem manifest polled).step s a = some (s', e)) :
    ((∀ rc, e ≠ .published rc) → FlushRunning manifest o s') ∧
      ∀ rc, e = .published rc → rc = hwOk ∧ FlushPublished manifest o s' := by
  have hrc := h.inflight
  cases otaStep_trans hs with
  | begin total _ =>
      rcases otaBegin_cases manifest s.ota total with heq | ⟨hno, -⟩
      · rw [heq]
        exact ⟨fun _ => h, nofun⟩
      · exact absurd hrc hno
  | write off data _ =>
      rcases otaWrite_cases manifest s.ota off data with heq | ⟨hno, -⟩
      · rw [heq]
        exact ⟨fun _ => h, nofun⟩
      · exact absurd hrc hno
  | finish _ =>
      rcases otaFinish_cases s.ota with heq | ⟨hno, -⟩
      · rw [heq]
        exact ⟨fun _ => h, nofun⟩
      · exact absurd hrc hno
  | abort _ => exact absurd rfl ha.1
  | enter O hpc =>
      refine ⟨fun _ => ?_, nofun⟩
      cases h with
      | queued _ hota => exact .queued (.inr (if_pos hrc)) hota
      | done _ hpc' _ => simp [hpc] at hpc'
  | execute O hpc =>
      refine ⟨fun _ => ?_, nofun⟩
      cases h with
      | queued _ hota =>
          have hexec := (@otaExecute_flush manifest o O (ha.2 O rfl) hopen).run
          rw [← hota] at hexec
          exact .done .flush (.inl (by rw [hexec])) (by rw [hexec])
      | done _ hpc' _ => simp [hpc] at hpc'
  | @free O rc hpc =>
      refine ⟨fun _ => ?_, nofun⟩
      cases h with
      | queued hpc' _ => simp [hpc] at hpc'
      | done op hpc' hota =>
          obtain rfl : rc = hwOk := by simpa [hpc] using hpc'
          exact .done .idle (.inr rfl) (by rw [hota])
  | @publish rc hpc =>
      refine ⟨fun hno => absurd rfl (hno rc), ?_⟩
      intro rc' he
      obtain rfl : rc = rc' := by injection he
      cases h with
      | queued hpc' _ => simp [hpc] at hpc'
      | done op hpc' hota =>
          obtain rfl : rc = hwOk := by simpa [hpc] using hpc'
          exact ⟨rfl, op, by rw [hota]⟩

/-- From the queued flush to its publication, whatever the host asks for meanwhile. -/
theorem FlushRunning.of_run {tr : List OtaEv} {rc : Int} (h : FlushRunning manifest o s)
    (hopen : o.started = true ∨ manifest ≤ o.windowUsed)
    (hr : (otaSystem manifest polled).RunIf (fun _ a => a.Fine) s (tr ++ [.published rc]) s')
    (hfirst : ∀ rc, .published rc ∉ tr) : rc = hwOk ∧ FlushPublished manifest o s' := by
  have hinv := hr.invariant (P := fun tr s =>
      ((∀ rc, .published rc ∉ tr) → FlushRunning manifest o s) ∧
      ∀ tr' rc, tr = tr' ++ [.published rc] → (∀ rc, .published rc ∉ tr') →
        rc = hwOk ∧ FlushPublished manifest o s)
    ⟨fun _ => h, fun tr' rc heq => absurd heq.symm (by simp)⟩ ?_
  · exact hinv.2 tr rc rfl hfirst
  · intro tr s a s' e ih ha hs
    constructor
    · intro hno
      have hno' : ∀ rc, .published rc ∉ tr := fun rc hmem => hno rc (List.mem_append_left _ hmem)
      refine ((ih.1 hno').step hopen ha hs).1 fun rc he => hno rc ?_
      rw [he]
      exact List.mem_append_right _ (List.mem_singleton_self _)
    · intro tr' rc heq hno
      obtain ⟨rfl, he⟩ := List.append_inj' heq rfl
      exact ((ih.1 hno).step hopen ha hs).2 rc (by simpa using he)

/-- Once the flush is published, the refused chunk is taken. -/
theorem FlushPublished.accepts {offset : Nat} {data : List UInt8}
    (h : FlushPublished manifest o s) (hshape : WindowShape manifest o)
    (hM : manifest ≤ otaFinishFlashBlock) (hfull : o.WindowFull offset data) :
    (otaWrite manifest s.ota offset data).2 = hwOk ∧
      (otaWrite manifest s.ota offset data).1.cursor = o.cursor + data.length := by
  obtain ⟨op, hota⟩ := h
  have hconst : otaWindow = 16384 ∧ otaMaxChunk = 4092 ∧ otaFinishFlashBlock = 4096 :=
    ⟨rfl, rfl, rfl⟩
  have hlen := hfull.length
  have hnext := hfull.next
  have htotal := hfull.le_total
  have hlt := hfull.full
  obtain ⟨hroom, hstarted⟩ := hshape.room hM (by omega)
  obtain ⟨hstate, hcursor, htot⟩ := @Ota.flushed_keeps manifest o false
  generalize (o.opened manifest).committed false = q at *
  rw [hota]
  unfold otaWrite
  dsimp only
  rw [if_neg (by simp [hstate, hfull.writing]), if_neg (by omega), if_neg (by decide),
    if_neg (by omega), if_neg (by simp [hnext, hcursor]), if_neg (by omega), if_neg (by omega)]
  simp [hstarted, hcursor]

end

/-! ## The guarantee -/

/-- The window of a session that has accepted `image`. -/
structure WindowOk (manifest : Nat) (image : List UInt8) (o : Ota) : Prop where
  cursor : o.windowBase + o.windowUsed = o.cursor
  accepted : o.cursor = image.length
  le_total : o.cursor ≤ o.totalLen
  used_le : o.windowUsed ≤ otaWindow
  shape : WindowShape manifest o
  bytes : ∀ i < o.windowUsed, image[o.windowBase + i]? = some (o.window i)

theorem Staging.windowOk {manifest : Nat} {image : List UInt8} {calls : List PsaCall} {o : Ota}
    (h : Staging manifest image calls o) (hshape : WindowShape manifest o) :
    WindowOk manifest image o where
  cursor := h.used.trans h.cursor.symm
  accepted := h.cursor
  le_total := by rw [h.cursor]; exact h.le_total
  used_le := h.used_le
  shape := hshape
  bytes := by
    intro i hi
    rw [← List.getElem?_drop, ← h.window]
    simp [Buf.read, hi]

/-- The window is sound, and the transfer goes on.  In every run of `BEGIN`, `WRITE` and `FINISH` calls
among the steps of the pump, in normal and in update mode, without an `ABORT` and with a manifest of at
most a block: in a state that takes chunks the window holds the end of the image and has one of the three
shapes; a chunk refused for want of room is taken once the flush it queued is published; and a chunk that
was accepted is answered `OK` again and changes nothing.  Whatever the pump executes, no index leaves the
window and no difference is negative. -/
theorem ota_window_sound {manifest : Nat} {polled : Bool} {tr : List OtaEv} {s : OtaSys}
    (hM : manifest ≤ otaFinishFlashBlock) (hr : (otaSystem manifest polled).Run .boot tr s)
    (hna : ∀ rc, .abort rc ∉ tr) :
    (s.ota.state = .writing → s.ota.opRc ≠ otaOpInflight →
      WindowOk manifest (imageOf tr) s.ota ∧
      (∀ data, s.ota.WriteSafe data) ∧
      (∀ offset data, s.ota.WindowFull offset data →
        otaWrite manifest s.ota offset data =
            ({ s.ota with op := .flush, opRc := otaOpInflight }, hwBusy) ∧
          ∀ tr' rc s', (otaSystem manifest polled).RunIf (fun _ a => a.Fine)
              { s with ota := (otaWrite manifest s.ota offset data).1 } (tr' ++ [.published rc]) s' →
            (∀ rc, .published rc ∉ tr') →
            rc = hwOk ∧ (otaWrite manifest s'.ota offset data).2 = hwOk ∧
              (otaWrite manifest s'.ota offset data).1.cursor = s.ota.cursor + data.length) ∧
      (∀ i offset data rc, At (· = .write offset data rc true) tr i →
        (∀ j, i < j → ¬ At OtaEv.Begins tr j) →
        otaWrite manifest s.ota offset data = (s.ota, hwOk))) ∧
    (s.pc = .checked → s.ota.ExecuteSafe manifest) := by
  obtain ⟨hinv, hshape, hwithin⟩ := OtaInv.run_induction
    (P := fun tr s => (s.ota.state = .writing → WindowShape manifest s.ota) ∧ AcceptedWithin tr) hr hna
    ⟨nofun, fun _ _ _ _ h => absurd h not_at_nil⟩
    fun _ _ _ _ _ hinv h ha hs => ⟨shape_step hinv h.1 ha hs, h.2.step hinv hs⟩
  constructor
  · intro hw hrc
    have hstaging := hinv.session.writing hw
    refine ⟨hstaging.windowOk (hshape hw), fun data => ⟨hstaging.used_le, by
      have := hstaging.used_le
      omega⟩, ?_, ?_⟩
    · intro offset data hfull
      refine ⟨hfull.queues, fun tr' rc s' hr' hfirst => ?_⟩
      rw [hfull.queues] at hr'
      have hopen : s.ota.started = true ∨ manifest ≤ s.ota.windowUsed := by
        have hconst : otaWindow = 16384 ∧ otaMaxChunk = 4092 ∧ otaFinishFlashBlock = 4096 :=
          ⟨rfl, rfl, rfl⟩
        have hlen := hfull.length
        have hlt := hfull.full
        exact .inr (by omega)
      have hqueued : FlushRunning manifest s.ota
          { s with ota := { s.ota with op := .flush, opRc := otaOpInflight } } :=
        .queued (.inl (hinv.pc_idle hrc)) rfl
      obtain ⟨hok, hpub⟩ := hqueued.of_run hopen hr' hfirst
      exact ⟨hok, hpub.accepts (hshape hw) hM hfull⟩
    · intro i offset data rc hi hno
      obtain ⟨hle, hpos, hmax⟩ := hwithin i offset data rc hi hno
      have hcursor := hstaging.cursor
      unfold otaWrite
      rw [if_neg (by simp [hw]), if_neg (by omega), if_neg hrc, if_pos (by omega)]
  · intro hpc
    have hrc := hinv.running (by rw [hpc]; exact PumpPc.noConfusion)
    refine Staging.executeSafe fun hop => hinv.session.writing ?_
    rcases hinv.queued (.inr hpc) hrc with h | h | h
    · simp [h] at hop
    · simp [h] at hop
    · exact h

/-- A chunk as long as they get. -/
def longChunk : List UInt8 := List.replicate otaMaxChunk 7

/-- Four such chunks fill the window but for a few bytes. -/
def fourChunks : List OtaAct :=
  .begin 40000 :: pumpOnce ++ .write 0 longChunk :: pumpOnce ++
    [.write 4092 longChunk, .write 8184 longChunk, .write 12276 longChunk]

/-- The window holds the four chunks, the slot is open with the manifest, and a fifth chunk is refused for
want of room. -/
theorem ota_window_sound_four :
    ∃ tr s, (otaSystem 4 false).Run .boot tr s ∧ s.ota.state = .writing ∧
      s.ota.opRc ≠ otaOpInflight ∧ s.ota.WindowFull 16368 longChunk ∧
      WindowOk 4 (imageOf tr) s.ota ∧ (otaWrite 4 s.ota 16368 longChunk).2 = hwBusy := by
  have hexec : ((otaSystem 4 false).exec .boot fourChunks).map
      (fun p => (p.1.ota.state, p.1.ota.opRc, p.1.ota.cursor, p.1.ota.windowUsed, p.1.ota.totalLen,
        p.2.all fun e => !e.isAbort)) = some (.writing, 0, 16368, 16368, 40000, true) := by
    decide +kernel
  obtain ⟨⟨s, tr⟩, hs, heq⟩ := Option.map_eq_some_iff.mp hexec
  obtain ⟨hw, hrc, hcursor, hused, htotal, hna⟩ := by simpa only [Prod.mk.injEq] using heq
  have hr := Machine.run_of_exec hs
  have hna' : ∀ rc, .abort rc ∉ tr := fun rc hmem =>
    Bool.false_ne_true (List.all_eq_true.mp hna _ hmem)
  have hrc' : s.ota.opRc ≠ otaOpInflight := by rw [hrc]; decide
  have hlen : longChunk.length = 4092 := List.length_replicate
  have hfull : s.ota.WindowFull 16368 longChunk :=
    ⟨hw, by rw [hlen]; decide, hrc', hcursor.symm, by rw [hlen, htotal]; decide,
      by rw [hlen, hused]; decide⟩
  obtain ⟨hok, -, hprogress, -⟩ := (ota_window_sound (by decide) hr hna').1 hw hrc'
  refine ⟨tr, s, hr, hw, hrc', hfull, hok, ?_⟩
  rw [(hprogress _ _ hfull).1]

end Cc3501eBridge
