import Cc3501eBridge.Ota

/-!
# The staged image is the image sent

The bytes of an image pass through a window that slides: accepted chunks are put behind what it
holds, a flush commits whole blocks from `flushed` on and moves the rest to the front, and the very
first flush gives the manifest to `psa_fwu_start` and starts committing behind it.  `Staging` says
how the session stands to the bytes accepted so far and to the calls made for them, and
`ImageStaged` what it is when the image is installed.  Every operation of the pump has one lemma
that takes the first to itself or to the second; the calls of the host are simple. -/

namespace Cc3501eBridge

/-! ## What a history says -/

/-- A call that passes image bytes on or concludes the image. -/
def PsaCall.streams : PsaCall → Bool
  | .start .. | .write .. | .finish _ | .install => true
  | _ => false

/-- The chunks that advanced the cursor since the last executed `BEGIN`, put together. -/
def imageOf (tr : List OtaEv) : List UInt8 :=
  tr.foldl (fun image e =>
    match e with
    | .executed .begin _ _ => []
    | .write _ data _ true => image ++ data
    | _ => image) []

/-- The calls since the last executed `BEGIN` that pass image bytes on or conclude the image. -/
def streamOf (tr : List OtaEv) : List PsaCall :=
  tr.foldl (fun calls e =>
    match e with
    | .executed .begin _ _ => []
    | .executed _ _ cs | .entered cs | .freed cs => calls ++ cs.filter PsaCall.streams
    | _ => calls) []

/-- An `ABORT`. -/
def OtaEv.isAbort : OtaEv → Bool
  | .abort _ => true
  | _ => false

/-- The calls for a number of pieces. -/
def writeCalls (target : VendorSlot) (ws : List (Nat × List UInt8)) : List PsaCall :=
  ws.map fun w => .write target w.1 w.2

/-! ## The invariant -/

/-- A session that takes bytes: `image` has been accepted and `calls` have been made for it.  What
is not committed is in the window. -/
structure Staging (manifest : Nat) (image : List UInt8) (calls : List PsaCall) (o : Ota) :
    Prop where
  cursor : o.cursor = image.length
  le_total : image.length ≤ o.totalLen
  used : o.windowBase + o.windowUsed = image.length
  used_le : o.windowUsed ≤ otaWindow
  window : o.window.read 0 o.windowUsed = image.drop o.windowBase
  closed : o.started = false → o.windowBase = 0 ∧ calls = []
  slot : o.started = true → o.windowBase ≤ o.flushed ∧ manifest ≤ o.flushed ∧
    o.flushed ≤ image.length ∧
    ∃ ws, calls = .start o.target (image.take manifest) :: writeCalls o.target ws ∧
      Covers manifest ws ((image.take o.flushed).drop manifest)

/-- A session whose image is installed. -/
structure ImageStaged (manifest : Nat) (image : List UInt8) (calls : List PsaCall) (o : Ota) :
    Prop where
  length : image.length = o.totalLen
  manifest_lt : manifest < image.length
  calls : ∃ target ws, calls =
      .start target (image.take manifest) :: writeCalls target ws ++ [.finish target, .install] ∧
    Covers manifest ws (image.drop manifest)

section

variable {manifest : Nat} {image : List UInt8} {calls : List PsaCall} {o : Ota} {O : PsaOracle}

/-- Only some fields matter. -/
theorem Staging.congr {o' : Ota} (h : Staging manifest image calls o)
    (htarget : o'.target = o.target) (htotal : o'.totalLen = o.totalLen)
    (hcursor : o'.cursor = o.cursor)
    (hbase : o'.windowBase = o.windowBase) (hused : o'.windowUsed = o.windowUsed)
    (hflushed : o'.flushed = o.flushed) (hstarted : o'.started = o.started)
    (hwindow : o'.window = o.window) : Staging manifest image calls o' := by
  constructor
  · rw [hcursor]
    exact h.cursor
  · rw [htotal]
    exact h.le_total
  · rw [hbase, hused]
    exact h.used
  · rw [hused]
    exact h.used_le
  · rw [hwindow, hused, hbase]
    exact h.window
  · rw [hstarted, hbase]
    exact h.closed
  · rw [hstarted, hbase, hflushed, htarget]
    exact h.slot

/-- The window holds the image from `windowBase` on. -/
theorem Staging.read (h : Staging manifest image calls o) {off n : Nat} (hoff : o.windowBase ≤ off)
    (hn : off + n ≤ image.length) :
    o.window.read (off - o.windowBase) n = (image.drop off).take n := by
  have hused := h.used
  rw [Buf.read_within h.window (by omega), List.drop_drop, Nat.add_sub_cancel' hoff]

/-- A fresh session. -/
theorem Staging.begun (o : Ota) (target : VendorSlot) :
    Staging manifest [] [] (o.begun target) where
  cursor := rfl
  le_total := Nat.zero_le _
  used := rfl
  used_le := Nat.zero_le _
  window := rfl
  closed _ := ⟨rfl, rfl⟩
  slot h := nomatch h

/-- The next chunk goes behind what the window holds. -/
theorem Staging.accept (h : Staging manifest image calls o) {data : List UInt8}
    (htotal : o.cursor + data.length ≤ o.totalLen)
    (hroom : data.length ≤ otaWindow - o.windowUsed) :
    Staging manifest (image ++ data) calls { o with
      window := o.window.write o.windowUsed data
      windowUsed := o.windowUsed + data.length
      cursor := o.cursor + data.length } where
  cursor := by rw [List.length_append, h.cursor]
  le_total := by rw [List.length_append, ← h.cursor]; exact htotal
  used := by rw [List.length_append, ← h.used, Nat.add_assoc]
  used_le := by
    have := h.used_le
    dsimp only
    omega
  window := by
    have hbase : o.windowBase ≤ image.length := by rw [← h.used]; omega
    rw [Buf.read_write_end, h.window, List.drop_append_of_le_length hbase]
  closed := h.closed
  slot := by
    intro hs
    obtain ⟨hbase, hm, hle, ws, hcalls, hcov⟩ := h.slot hs
    refine ⟨hbase, hm, ?_, ws, ?_, ?_⟩
    · rw [List.length_append]
      exact Nat.le_add_right_of_le hle
    · rw [List.take_append_of_le_length (hm.trans hle)]
      exact hcalls
    · rw [List.take_append_of_le_length hle]
      exact hcov

/-! ## The operations of the pump -/

/-- An operation that did not succeed. -/
def Failed (rc : Int) : Prop := rc ≠ hwOk ∧ rc ≠ hwBusy

theorem failed_errIo : Failed hwErrIo := ⟨by decide, by decide⟩

theorem failed_errInval : Failed hwErrInval := ⟨by decide, by decide⟩

/-- The slot is opened with the manifest, once. -/
theorem otaOpenSlot_makes (h : Staging manifest image calls o) :
    (otaOpenSlot O manifest o).Makes fun r cs =>
      Failed r.2 ∨ r.2 = hwOk ∧ r.1.started = true ∧ r.1.totalLen = o.totalLen ∧
        r.1.state = o.state ∧ Staging manifest image (calls ++ cs.filter PsaCall.streams) r.1 := by
  unfold otaOpenSlot
  apply Calls.Makes.ite
  · intro hs
    refine .pure (.inr ⟨rfl, hs, rfl, rfl, ?_⟩)
    rw [List.filter_nil, List.append_nil]
    exact h
  intro hs
  have hs' : o.started = false := by simpa using hs
  apply Calls.Makes.ite
  · exact fun _ => .pure (.inl failed_errInval)
  intro hm
  apply Calls.Makes.call
  intro ps
  apply Calls.Makes.ite
  · exact fun _ => .pure (.inl failed_errIo)
  intro _
  refine .pure (.inr ⟨rfl, rfl, rfl, rfl, ?_⟩)
  obtain ⟨hbase, rfl⟩ := h.closed hs'
  have hle : manifest ≤ image.length := by
    have := h.used
    omega
  have hread : o.window.read 0 manifest = image.take manifest := by
    have hwindow : o.window.read (o.windowBase - o.windowBase) manifest =
        (image.drop o.windowBase).take manifest := h.read le_rfl (by omega)
    rwa [Nat.sub_self, hbase, List.drop_zero] at hwindow
  refine ⟨h.cursor, h.le_total, h.used, h.used_le, h.window, by simp, fun _ => ?_⟩
  refine ⟨by dsimp only; omega, le_rfl, hle, [], ?_, ?_⟩
  · rw [hread]
    rfl
  · rw [List.drop_take, Nat.sub_self, List.take_zero]
    rfl

/-- The write loop, if nothing stops it, commits everything up to `stop` in consecutive pieces. -/
theorem otaWriteBlocks_makes (h : Staging manifest image calls o) {stop : Nat}
    (hstop : stop ≤ image.length) (turns : Nat) :
    ∀ off, o.windowBase ≤ off → off ≤ stop → stop - off ≤ turns →
      (otaWriteBlocks O o stop turns off).Makes fun r cs => r = none →
        ∃ ws, cs = writeCalls o.target ws ∧ Covers off ws ((image.take stop).drop off) := by
  induction turns with
  | zero =>
      intro off _ hle hturns
      refine .pure fun _ => ⟨[], rfl, ?_⟩
      have : off = stop := by omega
      subst this
      rw [List.drop_take, Nat.sub_self, List.take_zero]
      rfl
  | succ turns ih =>
      intro off hbase hle hturns
      unfold otaWriteBlocks
      apply Calls.Makes.ite
      · intro hlt
        have hn : 0 < min (stop - off) otaFinishFlashBlock := by
          apply Nat.lt_min.mpr
          exact ⟨by omega, by decide⟩
        have hn' : min (stop - off) otaFinishFlashBlock ≤ stop - off := Nat.min_le_left _ _
        generalize hpiece : min (stop - off) otaFinishFlashBlock = n at hn hn'
        apply Calls.Makes.call
        intro pw
        apply Calls.Makes.ite
        · exact fun _ => .pure (by simp)
        · intro _
          refine (ih (off + n) (by omega) (by omega) (by omega)).mono ?_
          intro r cs hr hnone
          obtain ⟨ws, rfl, hcov⟩ := hr hnone
          refine ⟨(off, (image.drop off).take n) :: ws, ?_, ?_⟩
          · rw [h.read hbase (by omega)]
            rfl
          · have hlen : ((image.drop off).take n).length = n := by
              rw [List.length_take, List.length_drop]
              omega
            have hsplit : (image.take stop).drop off =
                (image.drop off).take n ++ (image.take stop).drop (off + n) := by
              rw [List.drop_take, List.drop_take, ← List.drop_drop,
                show stop - off = n + (stop - (off + n)) by omega, List.take_add]
            rw [hsplit]
            apply Covers.cons
            rw [hlen]
            exact hcov
      · intro hnlt
        have : off = stop := by omega
        subst this
        refine .pure fun _ => ⟨[], rfl, ?_⟩
        rw [List.drop_take, Nat.sub_self, List.take_zero]
        rfl

/-- What is committed never exceeds what was accepted; the last flush commits everything. -/
theorem otaReady_le {final : Bool} (h : Staging manifest image calls o)
    (hle : o.flushed ≤ image.length) :
    o.flushed + otaReady final o ≤ image.length ∧
      (final = true → o.flushed + otaReady final o = image.length) := by
  have hused := h.used
  unfold otaReady
  simp only [hused]
  constructor
  · split_ifs <;> omega
  · rintro rfl
    rw [if_pos rfl]
    split_ifs <;> omega

/-- The window slides: what is left of it comes to the front. -/
theorem Staging.slid (h : Staging manifest image calls o) {stop : Nat}
    {ws : List (Nat × List UInt8)} (hs : o.started = true) (hlt : o.flushed ≤ stop)
    (hstop : stop ≤ image.length)
    (hcov : Covers o.flushed ws ((image.take stop).drop o.flushed)) :
    Staging manifest image (calls ++ writeCalls o.target ws) (o.slid stop) := by
  obtain ⟨hbase, hm, hle, ws₀, hcalls, hcov₀⟩ := h.slot hs
  have hused := h.used
  have hkeep : o.windowBase + o.windowUsed - stop = image.length - stop := by rw [hused]
  constructor
  · exact h.cursor
  · exact h.le_total
  · change stop + (o.windowBase + o.windowUsed - stop) = _
    omega
  · have := h.used_le
    change o.windowBase + o.windowUsed - stop ≤ _
    omega
  · change Buf.read (if o.windowBase + o.windowUsed - stop ≠ 0 then _ else _) 0
      (o.windowBase + o.windowUsed - stop) = image.drop stop
    rw [hkeep]
    split_ifs with hz
    · have hread : o.window.read (stop - o.windowBase) (image.length - stop) =
          (image.drop stop).take (image.length - stop) := h.read (by omega) (by omega)
      rw [List.take_of_length_le (by rw [List.length_drop])] at hread
      rw [hread, ← List.length_drop]
      exact Buf.read_write
    · have hz' : image.length - stop = 0 := by simpa using hz
      rw [hz', Buf.read_zero, List.drop_eq_nil_of_le (by omega)]
  · intro hns
    rw [show (o.slid stop).started = o.started from rfl, hs] at hns
    cases hns
  · intro _
    refine ⟨le_rfl, hm.trans hlt, hstop, ws₀ ++ ws, ?_, ?_⟩
    · unfold writeCalls at hcalls ⊢
      rw [hcalls, List.map_append]
      rfl
    · change Covers manifest _ ((image.take stop).drop manifest)
      have hlen : ((image.take o.flushed).drop manifest).length = o.flushed - manifest := by
        rw [List.length_drop, List.length_take]
        omega
      have hsplit : (image.take stop).drop manifest =
          (image.take o.flushed).drop manifest ++ (image.take stop).drop o.flushed := by
        rw [List.drop_take, List.drop_take, List.drop_take,
          show image.drop o.flushed = (image.drop manifest).drop (o.flushed - manifest) by
            rw [List.drop_drop, Nat.add_sub_cancel' hm],
          ← List.take_add]
        congr 1
        omega
      rw [hsplit]
      apply hcov₀.append
      rw [hlen, Nat.add_sub_cancel' hm]
      exact hcov

/-- A commit keeps the session; the last one commits everything. -/
theorem otaCommit_makes {final : Bool} (h : Staging manifest image calls o)
    (hs : o.started = true) :
    (otaCommit O final o).Makes fun r cs =>
      Failed r.2 ∨ r.2 = hwOk ∧ r.1.started = true ∧ r.1.totalLen = o.totalLen ∧
        r.1.state = o.state ∧ (final = true → r.1.flushed = image.length) ∧
        Staging manifest image (calls ++ cs.filter PsaCall.streams) r.1 := by
  obtain ⟨hbase, -, hle, -⟩ := h.slot hs
  obtain ⟨hready, hall⟩ : o.flushed + otaReady final o ≤ image.length ∧
      (final = true → o.flushed + otaReady final o = image.length) := otaReady_le h hle
  unfold otaCommit
  dsimp only
  apply Calls.Makes.ite
  · intro hz
    rw [hz] at hall
    refine .pure (.inr ⟨rfl, hs, rfl, rfl, hall, ?_⟩)
    rw [List.filter_nil, List.append_nil]
    exact h
  intro _
  refine (otaWriteBlocks_makes h hready _ _ hbase (by omega) (by omega)).bind ?_
  intro r cs hcs
  cases r with
  | some pw => exact .pure (.inl failed_errIo)
  | none =>
      obtain ⟨ws, rfl, hcov⟩ := hcs rfl
      refine .pure (.inr ⟨rfl, hs, rfl, rfl, hall, ?_⟩)
      have hfilter : (writeCalls o.target ws).filter PsaCall.streams = writeCalls o.target ws := by
        rw [List.filter_eq_self]
        intro c hc
        obtain ⟨w, -, rfl⟩ := List.mem_map.mp hc
        rfl
      rw [List.append_nil, hfilter]
      exact h.slid hs (Nat.le_add_right _ _) hready hcov

/-- A flush. -/
theorem otaFlush_makes {final : Bool} (h : Staging manifest image calls o) :
    (otaFlush O manifest final o).Makes fun r cs =>
      Failed r.2 ∨ r.2 = hwOk ∧ r.1.started = true ∧ r.1.totalLen = o.totalLen ∧
        r.1.state = o.state ∧ (final = true → r.1.flushed = image.length) ∧
        Staging manifest image (calls ++ cs.filter PsaCall.streams) r.1 := by
  refine (otaOpenSlot_makes h).bind ?_
  rintro ⟨o', rc⟩ cs hr
  dsimp only at hr ⊢
  apply Calls.Makes.ite
  · intro hne
    refine .pure (.inl (hr.resolve_right fun hok => hne hok.1))
  intro hok
  obtain ⟨-, hs, htotal, hstate, hst⟩ := hr.resolve_left fun hf => hok hf.1
  refine (otaCommit_makes hst hs).mono ?_
  intro r cs' hr'
  rw [htotal, hstate, List.append_assoc, ← List.filter_append] at hr'
  exact hr'

/-- The conclusion: everything is committed, and only then the image is installed. -/
theorem otaDoFinish_makes (h : Staging manifest image calls o) :
    (otaDoFinish O manifest o).Makes fun r cs =>
      Failed r.2 ∨ r.2 = hwOk ∧ r.1.state = .staged ∧
        ImageStaged manifest image (calls ++ cs.filter PsaCall.streams) r.1 := by
  unfold otaDoFinish
  apply Calls.Makes.ite
  · exact fun _ => .pure (.inl failed_errInval)
  intro hcheck
  have hcursor : o.cursor = o.totalLen ∧ manifest < o.totalLen := by
    constructor <;> by_contra hn
    · exact hcheck (.inl hn)
    · exact hcheck (.inr (Nat.le_of_not_lt hn))
  refine (otaFlush_makes h).bind ?_
  rintro ⟨o', fr⟩ cs hr
  dsimp only at hr ⊢
  apply Calls.Makes.ite
  · intro hne
    exact .pure (.inl (hr.resolve_right fun hok => hne hok.1))
  intro hok
  obtain ⟨-, hs, htotal, -, hflushed, hst⟩ := hr.resolve_left fun hf => hok hf.1
  apply Calls.Makes.ite
  · exact fun _ => .pure (.inl failed_errIo)
  intro _
  apply Calls.Makes.call
  intro pf
  apply Calls.Makes.ite
  · exact fun _ => .pure (.inl failed_errIo)
  intro _
  apply Calls.Makes.call
  intro pi
  apply Calls.Makes.ite
  · exact fun _ => .pure (.inl failed_errIo)
  intro _
  refine .pure (.inr ⟨rfl, rfl, ?_⟩)
  have hlen : image.length = o'.totalLen := by rw [htotal, ← hcursor.1, h.cursor]
  obtain ⟨-, -, -, ws, hcalls, hcov⟩ := hst.slot hs
  refine ⟨hlen, by rw [hlen, htotal]; exact hcursor.2, o'.target, ws, ?_, ?_⟩
  · rw [List.filter_append, ← List.append_assoc, hcalls]
    rfl
  · rw [hflushed rfl, List.take_length] at hcov
    exact hcov

/-- Looking at the slots concerns no image. -/
theorem otaPendingRefresh_makes :
    (otaPendingRefresh O).Makes fun _ cs => cs.filter PsaCall.streams = [] := by
  apply Calls.Makes.call
  intro _
  apply Calls.Makes.call
  intro i1
  apply Calls.Makes.ite
  · exact fun _ => .pure rfl
  intro _
  apply Calls.Makes.call
  intro i2
  split_ifs <;> exact .pure rfl

/-- The session as its state has it. -/
structure Session (manifest : Nat) (image : List UInt8) (calls : List PsaCall) (o : Ota) :
    Prop where
  writing : o.state = .writing → Staging manifest image calls o
  staged : o.state = .staged → ImageStaged manifest image calls o

/-- A session that failed promises nothing. -/
theorem Session.error (o : Ota) : Session manifest image calls { o with state := .error } :=
  ⟨nofun, nofun⟩

/-- The operation in flight: a `BEGIN` starts over, everything else goes on with the image. -/
theorem otaExecute_makes (h : Session manifest image calls o)
    (hop : o.op = .begin ∨ o.op = .idle ∨ o.state = .writing) :
    (otaExecute O manifest o).Makes fun r cs =>
      (o.op = .begin → Session manifest [] [] r.1) ∧
      (o.op ≠ .begin → Session manifest image (calls ++ cs.filter PsaCall.streams) r.1) := by
  -- a failure ends the session, whatever it was
  have hfail : ∀ {p q : Prop} {o' : Ota} {rc : Int} {cs : List PsaCall}, Failed rc →
      (if rc ≠ hwOk ∧ rc ≠ hwBusy then (pure ({ o' with state := .error }, rc) : Calls PsaCall _)
        else pure (o', rc)).Makes fun r cs' =>
          (p → Session manifest [] [] r.1) ∧
          (q → Session manifest image (calls ++ (cs ++ cs').filter PsaCall.streams) r.1) := by
    intro p q o' rc cs hf
    refine .ite (fun _ => ?_) (absurd hf ·)
    exact .pure ⟨fun _ => .error _, fun _ => .error _⟩
  unfold otaExecute otaRunOp
  cases hcase : o.op with
  | begin =>
      refine otaDoBegin_makes.bind ?_
      rintro ⟨o', rc⟩ cs (heq | ⟨target, heq⟩)
      · obtain ⟨-, rfl⟩ := Prod.mk.inj heq
        exact hfail failed_errIo
      · obtain ⟨rfl, rfl⟩ := Prod.mk.inj heq
        refine .pure ⟨fun _ => ⟨fun _ => .begun _ _, nofun⟩, fun hn => absurd rfl hn⟩
  | idle =>
      refine .bind (P := fun r _ => r.2 = hwErrInval) (.pure rfl) ?_
      rintro ⟨o', rc⟩ cs rfl
      exact hfail failed_errInval
  | finish =>
      have hw : o.state = .writing := by simpa [hcase] using hop
      refine (otaDoFinish_makes (h.writing hw)).bind ?_
      rintro ⟨o', rc⟩ cs (hf | ⟨rfl, hst, hdone⟩)
      · exact hfail hf
      · refine .pure ⟨nofun, fun _ => ⟨fun hw' => ?_, fun _ => ?_⟩⟩
        · exact nomatch hst.symm.trans hw'
        · rw [List.append_nil]
          exact hdone
  | flush =>
      have hw : o.state = .writing := by simpa [hcase] using hop
      refine (otaFlush_makes (h.writing hw)).bind ?_
      rintro ⟨o', rc⟩ cs (hf | ⟨rfl, -, -, hst, -, hkeep⟩)
      · exact hfail hf
      · refine .pure ⟨nofun, fun _ => ⟨fun _ => ?_, fun hs => ?_⟩⟩
        · rw [List.append_nil]
          exact hkeep
        · exact nomatch (hst.trans hw).symm.trans hs

/-! ## The calls of the host -/

/-- Queueing an operation leaves the session as it is. -/
theorem Session.queue (h : Session manifest image calls o) (op : OtaOp) (rc : Int) (total : Nat) :
    Session manifest image calls { o with op := op, opRc := rc, opTotal := total } :=
  ⟨fun hw => (h.writing hw).congr rfl rfl rfl rfl rfl rfl rfl rfl,
    fun hs => ⟨(h.staged hs).length, (h.staged hs).manifest_lt, (h.staged hs).calls⟩⟩

/-- `BEGIN` changes nothing or queues its operation. -/
theorem otaBegin_cases (manifest : Nat) (o : Ota) (total : Nat) :
    (otaBegin manifest o total).1 = o ∨
      o.opRc ≠ otaOpInflight ∧ o.state ≠ .writing ∧ (otaBegin manifest o total).1 =
        { o with
          state := if o.state = .error then .idle else o.state
          op := .begin, opRc := otaOpInflight, opTotal := total } := by
  unfold otaBegin
  by_cases hargs : total ≤ manifest ∨ total > otaImageMax
  · exact .inl (by rw [if_pos hargs])
  by_cases hrc : o.opRc = otaOpInflight
  · exact .inl (by rw [if_neg hargs, if_pos hrc])
  by_cases hw : o.state = .writing
  · refine .inl ?_
    rw [if_neg hargs, if_neg hrc, if_pos hw]
    split_ifs <;> rfl
  · refine .inr ⟨hrc, hw, ?_⟩
    rw [if_neg hargs, if_neg hrc, if_neg hw]
    by_cases herr : o.state = .error
    · simp only [if_pos herr]
      rfl
    · simp only [if_neg herr, otaSubmit, if_neg hrc]

/-- `FINISH` changes nothing or queues its operation. -/
theorem otaFinish_cases (o : Ota) :
    (otaFinish o).1 = o ∨ o.opRc ≠ otaOpInflight ∧ o.state = .writing ∧
      (otaFinish o).1 = { o with op := .finish, opRc := otaOpInflight } := by
  unfold otaFinish
  by_cases hs : o.state = .staged
  · exact .inl (by rw [if_pos hs])
  by_cases hw : o.state ≠ .writing
  · exact .inl (by rw [if_neg hs, if_pos hw])
  by_cases hrc : o.opRc = otaOpInflight
  · exact .inl (by rw [if_neg hs, if_neg hw, if_pos hrc])
  · refine .inr ⟨hrc, not_not.mp hw, ?_⟩
    rw [if_neg hs, if_neg hw, if_neg hrc, otaSubmit, if_neg hrc]

/-- `WRITE` changes nothing, queues a flush, or takes the chunk and possibly queues a flush. -/
theorem otaWrite_cases (manifest : Nat) (o : Ota) (offset : Nat) (data : List UInt8) :
    (otaWrite manifest o offset data).1 = o ∨
      o.opRc ≠ otaOpInflight ∧ o.state = .writing ∧
        ((otaWrite manifest o offset data).1 = { o with op := .flush, opRc := otaOpInflight } ∨
          0 < data.length ∧ o.cursor + data.length ≤ o.totalLen ∧
            data.length ≤ otaWindow - o.windowUsed ∧
            ∃ op rc, (rc = otaOpInflight → op = .flush) ∧ (otaWrite manifest o offset data).1 =
              { o with
                window := o.window.write o.windowUsed data
                windowUsed := o.windowUsed + data.length
                cursor := o.cursor + data.length
                op := op, opRc := rc }) := by
  unfold otaWrite
  by_cases hw : o.state ≠ .writing
  · exact .inl (by rw [if_pos hw])
  rw [if_neg hw]
  by_cases hlen : data.length = 0 ∨ data.length > otaMaxChunk
  · exact .inl (by rw [if_pos hlen])
  rw [if_neg hlen]
  by_cases hrc : o.opRc = otaOpInflight
  · exact .inl (by rw [if_pos hrc])
  rw [if_neg hrc]
  by_cases hdup : offset + data.length ≤ o.cursor
  · exact .inl (by rw [if_pos hdup])
  rw [if_neg hdup]
  by_cases hoff : offset ≠ o.cursor
  · exact .inl (by rw [if_pos hoff])
  rw [if_neg hoff]
  by_cases hover : offset + data.length > o.totalLen
  · exact .inl (by rw [if_pos hover])
  rw [if_neg hover]
  refine .inr ⟨hrc, not_not.mp hw, ?_⟩
  by_cases hroom : data.length > otaWindow - o.windowUsed
  · rw [if_pos hroom, otaSubmit, if_neg hrc]
    exact .inl rfl
  · rw [if_neg hroom]
    refine .inr ⟨by omega, by omega, by omega, ?_⟩
    dsimp only
    split
    · refine ⟨.flush, otaOpInflight, fun _ => rfl, ?_⟩
      rw [otaSubmit, if_neg hrc]
    · exact ⟨o.op, o.opRc, fun h => absurd h hrc, rfl⟩

end

/-! ## Runs -/

/-- What holds along every run without an `ABORT`. -/
structure OtaInv (manifest : Nat) (tr : List OtaEv) (s : OtaSys) : Prop where
  running : s.pc ≠ .idle → s.ota.opRc = otaOpInflight
  queued : s.pc = .idle ∨ s.pc = .checked → s.ota.opRc = otaOpInflight →
    s.ota.op = .begin ∨ s.ota.op = .idle ∨ s.ota.state = .writing
  freed : ∀ rc, s.pc = .freed rc → s.ota.op = .idle
  session : Session manifest (imageOf tr) (streamOf tr) s.ota

section

variable {manifest : Nat} {polled : Bool} {tr : List OtaEv} {s s' : OtaSys} {e : OtaEv}

/-- An event that is neither a chunk nor a step of the pump says nothing of the image. -/
private theorem history_of_call (h : (∃ total rc, e = .begin total rc) ∨ (∃ rc, e = .finish rc) ∨
    (∃ rc, e = .published rc) ∨ ∃ off data rc, e = .write off data rc false) :
    imageOf (tr ++ [e]) = imageOf tr ∧ streamOf (tr ++ [e]) = streamOf tr := by
  unfold imageOf streamOf
  rw [List.foldl_append, List.foldl_append]
  rcases h with ⟨_, _, rfl⟩ | ⟨_, rfl⟩ | ⟨_, rfl⟩ | ⟨_, _, _, rfl⟩ <;> exact ⟨rfl, rfl⟩

/-- An accepted chunk extends the image. -/
private theorem history_of_chunk (off : Nat) (data : List UInt8) (rc : Int) :
    imageOf (tr ++ [.write off data rc true]) = imageOf tr ++ data ∧
      streamOf (tr ++ [.write off data rc true]) = streamOf tr := by
  unfold imageOf streamOf
  rw [List.foldl_append, List.foldl_append]
  exact ⟨rfl, rfl⟩

/-- Looking at the slots says nothing of the image. -/
private theorem history_of_refresh {cs : List PsaCall} (hcs : cs.filter PsaCall.streams = [])
    (h : e = .entered cs ∨ e = .freed cs) :
    imageOf (tr ++ [e]) = imageOf tr ∧ streamOf (tr ++ [e]) = streamOf tr := by
  unfold imageOf streamOf
  rw [List.foldl_append, List.foldl_append]
  rcases h with rfl | rfl
  · exact ⟨rfl, by simp [hcs]⟩
  · exact ⟨rfl, by simp [hcs]⟩

/-- An executed operation starts over or adds its calls. -/
private theorem history_of_executed (op : OtaOp) (rc : Int) (cs : List PsaCall) :
    (op = .begin → imageOf (tr ++ [.executed op rc cs]) = [] ∧
      streamOf (tr ++ [.executed op rc cs]) = []) ∧
    (op ≠ .begin → imageOf (tr ++ [.executed op rc cs]) = imageOf tr ∧
      streamOf (tr ++ [.executed op rc cs]) = streamOf tr ++ cs.filter PsaCall.streams) := by
  unfold imageOf streamOf
  rw [List.foldl_append, List.foldl_append]
  cases op with
  | begin => exact ⟨fun _ => ⟨rfl, rfl⟩, fun h => absurd rfl h⟩
  | _ => exact ⟨nofun, fun _ => ⟨rfl, rfl⟩⟩

/-- Nothing is queued while the pump is at work. -/
theorem OtaInv.pc_idle (h : OtaInv manifest tr s) (hrc : s.ota.opRc ≠ otaOpInflight) :
    s.pc = .idle := by
  by_contra hpc
  exact hrc (h.running hpc)

/-- The host queues an operation. -/
theorem OtaInv.queue (h : OtaInv manifest tr s) {o : Ota} (hrc : s.ota.opRc ≠ otaOpInflight)
    (hop : o.opRc = otaOpInflight → o.op = .begin ∨ o.op = .idle ∨ o.state = .writing)
    (hsession : Session manifest (imageOf (tr ++ [e])) (streamOf (tr ++ [e])) o) :
    OtaInv manifest (tr ++ [e]) { s with ota := o } :=
  ⟨fun hpc => absurd (h.pc_idle hrc) hpc, fun _ => hop,
    fun _ hpc => PumpPc.noConfusion ((h.pc_idle hrc).symm.trans hpc), hsession⟩

/-- The host learns something, and nothing changes. -/
theorem OtaInv.same (h : OtaInv manifest tr s)
    (hist : imageOf (tr ++ [e]) = imageOf tr ∧ streamOf (tr ++ [e]) = streamOf tr) :
    OtaInv manifest (tr ++ [e]) s :=
  ⟨h.running, h.queued, h.freed, by rw [hist.1, hist.2]; exact h.session⟩

theorem OtaInv.begin_step (h : OtaInv manifest tr s) (total : Nat) :
    OtaInv manifest (tr ++ [.begin total (otaBegin manifest s.ota total).2])
      { s with ota := (otaBegin manifest s.ota total).1 } := by
  have hist := @history_of_call tr _ (.inl ⟨total, (otaBegin manifest s.ota total).2, rfl⟩)
  rcases otaBegin_cases manifest s.ota total with heq | ⟨hrc, hw, heq⟩
  · rw [heq]
    exact h.same hist
  · rw [heq]
    refine h.queue hrc (fun _ => .inl rfl) ?_
    rw [hist.1, hist.2]
    constructor
    · intro hw'
      dsimp only at hw'
      split_ifs at hw'
      exact absurd hw' hw
    · intro hs
      dsimp only at hs
      split_ifs at hs
      have hdone := h.session.staged hs
      exact ⟨hdone.length, hdone.manifest_lt, hdone.calls⟩

theorem OtaInv.finish_step (h : OtaInv manifest tr s) :
    OtaInv manifest (tr ++ [.finish (otaFinish s.ota).2])
      { s with ota := (otaFinish s.ota).1 } := by
  have hist := @history_of_call tr _ (.inr (.inl ⟨(otaFinish s.ota).2, rfl⟩))
  rcases otaFinish_cases s.ota with heq | ⟨hrc, hw, heq⟩
  · rw [heq]
    exact h.same hist
  · rw [heq]
    refine h.queue hrc (fun _ => .inr (.inr hw)) ?_
    rw [hist.1, hist.2]
    exact h.session.queue _ _ _

theorem OtaInv.write_step (h : OtaInv manifest tr s) (off : Nat) (data : List UInt8) :
    OtaInv manifest (tr ++ [.write off data (otaWrite manifest s.ota off data).2
        (decide (s.ota.cursor < (otaWrite manifest s.ota off data).1.cursor))])
      { s with ota := (otaWrite manifest s.ota off data).1 } := by
  have hist : ∀ rc, imageOf (tr ++ [.write off data rc false]) = imageOf tr ∧
      streamOf (tr ++ [.write off data rc false]) = streamOf tr :=
    fun rc => history_of_call (.inr (.inr (.inr ⟨off, data, rc, rfl⟩)))
  rcases otaWrite_cases manifest s.ota off data with heq | ⟨hrc, hw, heq | ⟨hpos, htotal, hroom, op,
    rc, hop, heq⟩⟩
  · rw [heq, decide_eq_false (lt_irrefl _)]
    exact h.same (hist _)
  · rw [heq, decide_eq_false (lt_irrefl _)]
    refine h.queue hrc (fun _ => .inr (.inr hw)) ?_
    rw [(hist _).1, (hist _).2]
    exact h.session.queue _ _ _
  · have hadv : s.ota.cursor < (otaWrite manifest s.ota off data).1.cursor := by
      rw [heq]
      exact Nat.lt_add_of_pos_right hpos
    rw [decide_eq_true hadv, heq]
    obtain ⟨himage, hcalls⟩ := @history_of_chunk tr off data (otaWrite manifest s.ota off data).2
    refine h.queue hrc (fun hq => .inr (.inr hw)) ?_
    rw [himage, hcalls]
    refine ⟨fun _ => ?_, fun hs => nomatch hw.symm.trans hs⟩
    exact ((h.session.writing hw).accept htotal hroom).congr rfl rfl rfl rfl rfl rfl rfl rfl

theorem OtaInv.execute_step (h : OtaInv manifest tr s) (hpc : s.pc = .checked) (O : PsaOracle) :
    OtaInv manifest (tr ++ [.executed s.ota.op (otaExecute O manifest s.ota []).1.2
        (otaExecute O manifest s.ota []).2])
      { s with
        ota := (otaExecute O manifest s.ota []).1.1
        pc := .reopened (otaExecute O manifest s.ota []).1.2 } := by
  have hrc := h.running (by rw [hpc]; exact PumpPc.noConfusion)
  obtain ⟨hbegin, helse⟩ := (otaExecute_makes (O := O) h.session (h.queued (.inr hpc) hrc)).run
  obtain ⟨hist, hist'⟩ := @history_of_executed tr s.ota.op (otaExecute O manifest s.ota []).1.2
    (otaExecute O manifest s.ota []).2
  refine ⟨fun _ => ?_, fun hpc' => by simp at hpc', nofun, ?_⟩
  · exact (otaExecute_keepsQueue (O := O) (o := s.ota)).run.opRc.trans hrc
  · by_cases hop : s.ota.op = .begin
    · rw [(hist hop).1, (hist hop).2]
      exact hbegin hop
    · rw [(hist' hop).1, (hist' hop).2]
      exact helse hop

theorem OtaInv.enter_step (h : OtaInv manifest tr s) (hpc : s.pc = .idle) (O : PsaOracle) :
    OtaInv manifest
      (tr ++ [.entered (if s.primed then (s.pending, []) else otaPendingRefresh O []).2])
      { s with
        primed := true
        pending := (if s.primed then (s.pending, []) else otaPendingRefresh O []).1
        pc := if s.ota.opRc = otaOpInflight then .checked else .idle } := by
  have hcs : (if s.primed then (s.pending, []) else otaPendingRefresh O []).2.filter
      PsaCall.streams = [] := by
    split_ifs
    · rfl
    · exact otaPendingRefresh_makes.run
  have hist := @history_of_refresh tr _ _ hcs (.inl rfl)
  refine ⟨fun hpc' => ?_, fun _ => h.queued (.inl hpc), fun _ hpc' => ?_, ?_⟩
  · by_contra hrc
    exact hpc' (if_neg hrc)
  · dsimp only at hpc'
    split_ifs at hpc'
  · rw [hist.1, hist.2]
    exact h.session

theorem OtaInv.free_step (h : OtaInv manifest tr s) {rc : Int} (hpc : s.pc = .reopened rc)
    (O : PsaOracle) :
    OtaInv manifest (tr ++ [.freed (otaPendingRefresh O []).2])
      { s with
        ota := { s.ota with op := .idle }
        pending := (otaPendingRefresh O []).1
        pc := .freed rc } := by
  have hist := @history_of_refresh tr _ _ (otaPendingRefresh_makes (O := O)).run (.inr rfl)
  refine ⟨fun _ => h.running (by rw [hpc]; exact PumpPc.noConfusion), fun hpc' => by simp at hpc',
    fun _ _ => rfl, ?_⟩
  rw [hist.1, hist.2]
  exact h.session.queue _ _ _

theorem OtaInv.publish_step (h : OtaInv manifest tr s) {rc : Int} (hop : s.ota.op = .idle) :
    OtaInv manifest (tr ++ [.published rc])
      { s with ota := { s.ota with opRc := rc }, pc := .idle } := by
  have hist := @history_of_call tr _ (.inr (.inr (.inl ⟨rc, rfl⟩)))
  refine ⟨fun hpc => absurd rfl hpc, fun _ _ => .inr (.inl hop), nofun, ?_⟩
  rw [hist.1, hist.2]
  exact h.session.queue _ _ _

/-- One step. -/
theorem OtaInv.step (h : OtaInv manifest tr s) {a : OtaAct} (ha : a ≠ .abort)
    (hs : (otaSystem manifest polled).step s a = some (s', e)) :
    OtaInv manifest (tr ++ [e]) s' := by
  cases otaStep_trans hs with
  | begin total _ => exact h.begin_step total
  | write off data _ => exact h.write_step off data
  | finish _ => exact h.finish_step
  | abort _ => exact absurd rfl ha
  | enter O hpc => exact h.enter_step hpc O
  | execute O hpc => exact h.execute_step hpc O
  | free O hpc => exact h.free_step hpc O
  | publish hpc => exact h.publish_step (h.freed _ hpc)

/-- A run without an `ABORT`. -/
theorem OtaInv.of_run (hr : (otaSystem manifest polled).Run .boot tr s)
    (hna : ∀ rc, .abort rc ∉ tr) : OtaInv manifest tr s := by
  refine hr.invariant (P := fun tr s => (∀ rc, .abort rc ∉ tr) → OtaInv manifest tr s) ?_ ?_ hna
  · intro _
    exact ⟨fun hpc => absurd rfl hpc, fun _ hrc => absurd hrc (by decide), nofun, nofun, nofun⟩
  · intro tr s a s' e ih hs hna
    have hna' : ∀ rc, .abort rc ∉ tr := fun rc hmem => hna rc (List.mem_append_left _ hmem)
    refine (ih hna').step ?_ hs
    rintro rfl
    cases otaStep_trans hs with
    | abort _ => exact hna _ (List.mem_append_right _ (List.mem_singleton_self _))

end

/-! ## The guarantee -/

/-- What is staged is what was sent.  For every manifest size, in normal and in update mode, in
every run of `BEGIN`, `WRITE` and `FINISH` calls among the steps of the pump without an `ABORT`,
whatever `psa_fwu` answers: in a state that is `STAGED`, the chunks that advanced the cursor since
the last executed `BEGIN` are exactly `total_len` bytes, and the calls that passed them on were one
`psa_fwu_start` with the manifest, `psa_fwu_write`s of the rest at consecutive offsets, each byte
once, and after these `psa_fwu_finish` and `psa_fwu_install`. -/
theorem ota_stages_image {manifest : Nat} {polled : Bool} {tr : List OtaEv} {s : OtaSys}
    (hr : (otaSystem manifest polled).Run .boot tr s) (hna : ∀ rc, .abort rc ∉ tr)
    (hstaged : s.ota.state = .staged) :
    (imageOf tr).length = s.ota.totalLen ∧ manifest < (imageOf tr).length ∧
      ∃ target ws, streamOf tr =
          .start target ((imageOf tr).take manifest) :: writeCalls target ws ++
            [.finish target, .install] ∧
        Covers manifest ws ((imageOf tr).drop manifest) := by
  have hdone := (OtaInv.of_run hr hna).session.staged hstaged
  exact ⟨hdone.length, hdone.manifest_lt, hdone.calls⟩

/-- A `psa_fwu` that succeeds, with the first slot primary. -/
def psaFine : PsaOracle := fun _ c =>
  { status := psaSuccess, primary := decide (c = .query .slot1), state := .ready }

/-- The pump from end to end. -/
def pumpOnce : List OtaAct := [.enter psaFine, .execute psaFine, .free psaFine, .publish]

/-- Ten bytes with a manifest of four, the first chunk sent twice. -/
def tenBytes : List OtaAct :=
  .begin 10 :: pumpOnce ++ .write 0 [1, 2, 3, 4, 5, 6] :: pumpOnce ++
    [.write 0 [1, 2, 3, 4, 5, 6], .write 6 [7, 8, 9, 10], .finish] ++ pumpOnce

/-- They are staged as they were sent.
-/
theorem ota_stages_image_ten :
    ∃ tr s, (otaSystem 4 false).Run .boot tr s ∧ s.ota.state = .staged ∧
      imageOf tr = [1, 2, 3, 4, 5, 6, 7, 8, 9, 10] ∧
      ∃ target ws, streamOf tr =
          .start target [1, 2, 3, 4] :: writeCalls target ws ++ [.finish target, .install] ∧
        Covers 4 ws [5, 6, 7, 8, 9, 10] := by
  have hexec : ((otaSystem 4 false).exec .boot tenBytes).map
      (fun p => (p.1.ota.state, imageOf p.2, p.2.all fun e => !e.isAbort)) =
      some (.staged, [1, 2, 3, 4, 5, 6, 7, 8, 9, 10], true) := by decide +kernel
  obtain ⟨⟨s, tr⟩, hs, heq⟩ := Option.map_eq_some_iff.mp hexec
  obtain ⟨hstaged, himage, hna⟩ := by simpa only [Prod.mk.injEq] using heq
  have hr := Machine.run_of_exec hs
  have hna' : ∀ rc, .abort rc ∉ tr := fun rc hmem =>
    Bool.false_ne_true (List.all_eq_true.mp hna _ hmem)
  obtain ⟨-, -, hcalls⟩ := ota_stages_image hr hna' hstaged
  rw [himage] at hcalls
  exact ⟨tr, s, hr, hstaged, himage, hcalls⟩

end Cc3501eBridge
