import Cc3501eBridge.OtaImage

/-!
# What an abort cancels

`ABORT` resets the session without asking whether the pump is at work.  If it is, the pump goes on
with what it remembers.  Between its check for an operation in flight and the closing of the slave,
it remembers that there is one, and then finds `op = IDLE`, which is an error and makes the session
an `ERROR`.  After the slave is open again, it remembers the result of the operation it has
executed, and writes `op` and `op_rc` over whatever has been queued since.

A `BEGIN` that comes while another is in flight is told `BUSY` as well, and its length is forgotten.

`AbortFinal` is what an abort is to achieve, and `OtaAct.Clear` the condition on each step under
which it does: the pump does not go to work on an aborted operation, no `BEGIN` is queued between an
abort and a publication that is still to come, and none of another length comes while one that was
queued after the abort is in flight. -/

namespace Cc3501eBridge

/-! ## What a history says -/

/-- There was an `ABORT`, and no `BEGIN` has been executed since. -/
def aborted (tr : List OtaEv) : Bool :=
  tr.foldl (fun b e =>
    match e with
    | .abort _ => true
    | .executed .begin _ _ => false
    | _ => b) false

/-- The lengths of the `BEGIN`s since the last `ABORT` or executed `BEGIN` that were told `BUSY`. -/
def pendingBegins (tr : List OtaEv) : List Nat :=
  tr.foldl (fun p e =>
    match e with
    | .abort _ | .executed .begin _ _ => []
    | .begin total rc => if rc = hwBusy then p ++ [total] else p
    | _ => p) []

/-- An event these two look at. -/
def OtaEv.settles : OtaEv → Bool
  | .abort _ | .begin _ _ | .executed _ _ _ => true
  | _ => false

/-- An abort is final: until a later `BEGIN` is executed, `OTA_STATUS` reports `IDLE`, and every
`BEGIN` that was told `BUSY` is still queued. -/
structure AbortFinal (tr : List OtaEv) (s : OtaSys) : Prop where
  idle : aborted tr = true → (otaStatus s.ota).1 = .idle
  queued : aborted tr = true → ∀ total ∈ pendingBegins tr,
    s.ota.op = .begin ∧ s.ota.opRc = otaOpInflight ∧ s.ota.opTotal = total

/-! ## The condition -/

/-- The slave is open again and the result of the operation is not published. -/
def PumpPc.isOpen : PumpPc → Bool
  | .reopened _ | .freed _ => true
  | _ => false

/-- What keeps an abort final.  When the pump closes the slave, the operation it found in flight
has not been aborted, or another was queued; when a valid `BEGIN` comes while a result is still to
be published, there was no abort since the slave was opened; and when one comes while a `BEGIN` that
followed an abort is in flight, it has the same length. -/
def OtaAct.Clear (manifest : Nat) (h : OtaSys × List OtaEv) : OtaAct → Prop
  | .execute _ => h.1.ota.op ≠ .idle
  | .begin total =>
      manifest < total → total ≤ otaImageMax →
        (h.1.pc.isOpen = true → h.1.ota.opRc = otaOpInflight) ∧
          (h.1.ota.opRc = otaOpInflight → aborted h.2 = true → total = h.1.ota.opTotal)
  | _ => True

instance (manifest : Nat) (h : OtaSys × List OtaEv) (a : OtaAct) :
    Decidable (a.Clear manifest h) := by
  cases a <;> unfold OtaAct.Clear <;> infer_instance

/-! ## The invariant -/

/-- What an abort leaves until a `BEGIN` is executed: only a `BEGIN` can be queued, of the length of
all that were told `BUSY`, and none while a result is to be published. -/
structure Cancelled (pending : List Nat) (s : OtaSys) : Prop where
  state : s.ota.state = .idle
  op : s.ota.op = .idle ∨ s.ota.op = .begin
  inflight : s.ota.opRc = otaOpInflight → s.ota.op = .begin ∧ s.pc.isOpen = false ∧
    ∀ total ∈ pending, s.ota.opTotal = total
  pending : pending ≠ [] → s.ota.opRc = otaOpInflight

/-- What holds along every run whose steps are clear. -/
structure AbortInv (tr : List OtaEv) (s : OtaSys) : Prop where
  result : ∀ rc, s.pc = .reopened rc ∨ s.pc = .freed rc → rc ≠ otaOpInflight
  cancelled : aborted tr = true → Cancelled (pendingBegins tr) s

section

variable {manifest : Nat} {polled : Bool} {tr : List OtaEv} {s s' : OtaSys} {e : OtaEv}

/-- An event that is no `ABORT`, `BEGIN` or executed operation leaves the history as it is. -/
private theorem abort_history (h : e.settles = false) :
    aborted (tr ++ [e]) = aborted tr ∧ pendingBegins (tr ++ [e]) = pendingBegins tr := by
  unfold aborted pendingBegins
  rw [List.foldl_append, List.foldl_append]
  cases e with
  | abort _ => cases h
  | begin _ _ => cases h
  | executed _ _ _ => cases h
  | _ => exact ⟨rfl, rfl⟩

/-- What `BEGIN` does to a cancelled session. -/
theorem otaBegin_idle {o : Ota} (h : o.state = .idle) (total : Nat) :
    otaBegin manifest o total = (o, hwErrInval) ∨
      manifest < total ∧ total ≤ otaImageMax ∧ o.opRc = otaOpInflight ∧
        otaBegin manifest o total = (o, hwBusy) ∨
      manifest < total ∧ total ≤ otaImageMax ∧ o.opRc ≠ otaOpInflight ∧
        otaBegin manifest o total =
          ({ o with op := .begin, opRc := otaOpInflight, opTotal := total }, hwBusy) := by
  unfold otaBegin
  by_cases hargs : total ≤ manifest ∨ total > otaImageMax
  · exact .inl (by rw [if_pos hargs])
  obtain ⟨hm, himg⟩ : manifest < total ∧ total ≤ otaImageMax := by omega
  by_cases hrc : o.opRc = otaOpInflight
  · exact .inr (.inl ⟨hm, himg, hrc, by rw [if_neg hargs, if_pos hrc]⟩)
  · refine .inr (.inr ⟨hm, himg, hrc, ?_⟩)
    have hw : o.state ≠ .writing := by rw [h]; decide
    have he : o.state ≠ .error := by rw [h]; decide
    simp only [if_neg hargs, if_neg hrc, if_neg hw, if_neg he, otaSubmit]

theorem AbortInv.begin_step (h : AbortInv tr s) (total : Nat)
    (hclear : OtaAct.Clear manifest (s, tr) (.begin total)) :
    AbortInv (tr ++ [.begin total (otaBegin manifest s.ota total).2])
      { s with ota := (otaBegin manifest s.ota total).1 } := by
  refine ⟨h.result, fun hab => ?_⟩
  have hab' : aborted tr = true := by
    rw [aborted, List.foldl_append] at hab
    exact hab
  have hc := h.cancelled hab'
  have hpend : ∀ rc, pendingBegins (tr ++ [.begin total rc]) =
      if rc = hwBusy then pendingBegins tr ++ [total] else pendingBegins tr := by
    intro rc
    rw [pendingBegins, List.foldl_append]
    rfl
  rcases otaBegin_idle hc.state total with heq | ⟨hm, himg, hrc, heq⟩ | ⟨hm, himg, hrc, heq⟩
  · rw [heq, hpend, if_neg (show hwErrInval ≠ hwBusy by decide)]
    exact hc
  · -- one is in flight: this one is told `BUSY` too, and the condition says that it is the same
    obtain ⟨hop, hopen, hall⟩ := hc.inflight hrc
    have hsame : total = s.ota.opTotal := (hclear hm himg).2 hrc hab'
    rw [heq, hpend, if_pos rfl]
    refine ⟨hc.state, hc.op, fun _ => ⟨hop, hopen, fun total' ht => ?_⟩, fun _ => hrc⟩
    rcases List.mem_append.mp ht with ht | ht
    · exact hall total' ht
    · rw [List.mem_singleton.mp ht, hsame]
  · have hnone : pendingBegins tr = [] := by
      by_contra hp
      exact hrc (hc.pending hp)
    have hopen : s.pc.isOpen = false := by
      cases hpc : s.pc.isOpen with
      | false => rfl
      | true => exact absurd ((hclear hm himg).1 hpc) hrc
    rw [heq, hpend, if_pos rfl, hnone]
    exact ⟨hc.state, .inr rfl,
      fun _ => ⟨rfl, hopen, fun total' ht => (List.mem_singleton.mp ht).symm⟩, fun _ => rfl⟩

/-- Neither `WRITE` nor `FINISH` does anything in a cancelled session. -/
theorem Cancelled.refuses {pending : List Nat} (hc : Cancelled pending s) (off : Nat)
    (data : List UInt8) :
    (otaWrite manifest s.ota off data).1 = s.ota ∧ (otaFinish s.ota).1 = s.ota := by
  have hw : s.ota.state ≠ .writing := by rw [hc.state]; decide
  have hs : s.ota.state ≠ .staged := by rw [hc.state]; decide
  constructor
  · rw [otaWrite, if_pos hw]
  · rw [otaFinish, if_neg hs, if_pos hw]

/-- A step that is no `ABORT`, `BEGIN` or executed operation. -/
theorem AbortInv.silent (h : AbortInv tr s) (he : e.settles = false)
    (hres : ∀ rc, s'.pc = .reopened rc ∨ s'.pc = .freed rc → rc ≠ otaOpInflight)
    (hc : ∀ pending, Cancelled pending s → Cancelled pending s') : AbortInv (tr ++ [e]) s' := by
  refine ⟨hres, ?_⟩
  rw [(abort_history he).1, (abort_history he).2]
  exact fun hab => hc _ (h.cancelled hab)

/-- While a result is to be published, nothing is in flight. -/
theorem Cancelled.opRc_ne {pending : List Nat} (hc : Cancelled pending s)
    (hopen : s.pc.isOpen = true) : s.ota.opRc ≠ otaOpInflight := by
  intro hrc
  exact Bool.noConfusion ((hc.inflight hrc).2.1.symm.trans hopen)

/-- An aborted operation is not executed, so that after this nothing is cancelled. -/
theorem AbortInv.execute_step (h : AbortInv tr s) (hop : s.ota.op ≠ .idle) (rc : Int)
    (cs : List PsaCall) : aborted (tr ++ [.executed s.ota.op rc cs]) = false := by
  rw [aborted, List.foldl_append]
  cases hcase : s.ota.op with
  | begin => rfl
  | idle => exact absurd hcase hop
  | _ =>
      change aborted tr = false
      by_contra hab
      rcases (h.cancelled (by simpa using hab)).op with hop' | hop'
      · exact hop hop'
      · exact OtaOp.noConfusion (hcase.symm.trans hop')

/-- One step. -/
theorem AbortInv.step {a : OtaAct} (h : AbortInv tr s) (hclear : a.Clear manifest (s, tr))
    (hs : (otaSystem manifest polled).step s a = some (s', e)) : AbortInv (tr ++ [e]) s' := by
  cases otaStep_trans hs with
  | begin total _ => exact h.begin_step total hclear
  | write off data _ =>
      refine h.silent rfl h.result fun pending hc => ?_
      rw [(hc.refuses off data).1]
      exact hc
  | finish _ =>
      refine h.silent rfl h.result fun pending hc => ?_
      have hrefuses : (otaWrite manifest s.ota 0 []).1 = s.ota ∧ (otaFinish s.ota).1 = s.ota :=
        hc.refuses 0 []
      rw [hrefuses.2]
      exact hc
  | abort _ =>
      refine ⟨h.result, fun _ => ?_⟩
      rw [pendingBegins, List.foldl_append]
      exact ⟨rfl, .inl rfl, fun hrc => absurd hrc (show (0 : Int) ≠ otaOpInflight by decide),
        fun hp => absurd rfl hp⟩
  | enter O hpc =>
      refine h.silent rfl (fun rc hrc => ?_) fun pending hc => ?_
      · dsimp only at hrc
        split_ifs at hrc <;> simp at hrc
      · refine ⟨hc.state, hc.op, fun hrc => ?_, hc.pending⟩
        obtain ⟨hop, -, hp⟩ := hc.inflight hrc
        refine ⟨hop, ?_, hp⟩
        dsimp only
        split_ifs <;> rfl
  | execute O hpc =>
      have hmakes : (otaExecute O manifest s.ota).Makes fun r _ => KeepsQueue s.ota r :=
        otaExecute_keepsQueue
      have hkeeps := hmakes.run
      constructor
      · rintro rc (hrc | hrc)
        · rw [← PumpPc.reopened.inj hrc]
          exact hkeeps.result
        · exact PumpPc.noConfusion hrc
      · intro hab
        exact Bool.noConfusion ((h.execute_step hclear _ _).symm.trans hab)
  | free O hpc =>
      refine h.silent rfl ?_ fun pending hc => ?_
      · rintro rc (hrc | hrc)
        · exact PumpPc.noConfusion hrc
        · exact h.result rc (.inl (by rw [hpc, PumpPc.freed.inj hrc]))
      · have hrc := hc.opRc_ne (by rw [hpc]; rfl)
        exact ⟨hc.state, .inl rfl, fun hrc' => absurd hrc' hrc, hc.pending⟩
  | @publish rc hpc =>
      refine h.silent rfl (fun rc' hrc' => by simp at hrc') fun pending hc => ?_
      have hrc := h.result rc (.inr hpc)
      exact ⟨hc.state, hc.op, fun hrc' => absurd hrc' hrc,
        fun hp => absurd (hc.pending hp) (hc.opRc_ne (by rw [hpc]; rfl))⟩

end

/-! ## The guarantee -/

/-- An abort is final as long as the pump does not get in between.  In normal and in update mode,
in every run of `BEGIN`, `WRITE`, `FINISH` and `ABORT` calls among the steps of the pump, whatever
`psa_fwu` answers: if the pump never closes the slave with the operation it found aborted and
nothing queued in its place, no valid `BEGIN` comes between an `ABORT` that found the slave open
again and the publication, and none of another length while one that followed an `ABORT` is in
flight, then after every `ABORT` and until a later `BEGIN` is executed the state is `IDLE`, and
every `BEGIN` that was told `BUSY` stays queued with its length. -/
theorem ota_abort_final {manifest : Nat} {polled : Bool} {tr : List OtaEv}
    {h : OtaSys × List OtaEv} (hr : (otaSystem manifest polled).withHistory.RunIf
      (fun h a => a.Clear manifest h) (.boot, []) tr h) : AbortFinal tr h.1 := by
  have hinv : AbortInv tr h.1 := by
    refine hr.invariant_withHistory (P := AbortInv)
      ⟨fun rc hrc => by simp [OtaSys.boot] at hrc, nofun⟩ ?_
    intro tr s a s' e h hg hs
    exact h.step hg hs
  constructor
  · intro hab
    exact (hinv.cancelled hab).state
  · intro hab total ht
    have hc := hinv.cancelled hab
    have hrc := hc.pending (List.ne_nil_of_mem ht)
    obtain ⟨hop, -, hall⟩ := hc.inflight hrc
    exact ⟨hop, hrc, hall total ht⟩

/-- A session aborted after its first chunk, and a new image announced and asked after. -/
theorem ota_abort_final_twenty :
    ∃ tr s, (otaSystem 4 false).Run .boot tr s ∧ aborted tr = true ∧ pendingBegins tr = [20, 20] ∧
      s.pc = .checked ∧ (otaStatus s.ota).1 = .idle ∧ s.ota.op = .begin ∧ s.ota.opTotal = 20 := by
  have hexec : ((otaSystem 4 false).withHistory.execIf (fun h a => a.Clear 4 h) (.boot, [])
      (.begin 10 :: pumpOnce ++ [.write 0 [1, 2], .abort, .begin 20, .begin 20,
        .enter psaFine])).map (fun p => (aborted p.2, pendingBegins p.2, p.1.1.pc)) =
      some (true, [20, 20], .checked) := by
    decide +kernel
  obtain ⟨⟨h, tr⟩, hs, heq⟩ := Option.map_eq_some_iff.mp hexec
  obtain ⟨hab, hp, hpc⟩ := by simpa only [Prod.mk.injEq] using heq
  have hr := Machine.runIf_of_execIf hs
  have hfinal := ota_abort_final hr
  obtain ⟨hop, -, htotal⟩ := hfinal.queued hab 20 (by simp [hp])
  exact ⟨tr, h.1, hr.run_withHistory, hab, hp, hpc, hfinal.idle hab, hop, htotal⟩

/-- In three orders an abort is not final.  If it comes between the check of the pump and the
closing of the slave, the session ends as an `ERROR`; if it comes when the slave is open again, a
`BEGIN` that follows is dropped by the publication, although it was told `BUSY`; and of two `BEGIN`s
that follow it, both told `BUSY`, the second is forgotten. -/
theorem ota_abort_lost :
    (∃ tr s, (otaSystem 4 false).Run .boot tr s ∧ aborted tr = true ∧
      (otaStatus s.ota).1 = .error ∧ ¬ AbortFinal tr s) ∧
    (∃ tr s, (otaSystem 4 false).Run .boot tr s ∧ aborted tr = true ∧ pendingBegins tr = [20] ∧
      s.pc = .idle ∧ s.ota.op = .idle ∧ s.ota.opRc = hwOk ∧ ¬ AbortFinal tr s) ∧
    (∃ tr s, (otaSystem 4 false).Run .boot tr s ∧ aborted tr = true ∧
      pendingBegins tr = [20, 30] ∧ s.ota.opTotal = 20 ∧ ¬ AbortFinal tr s) := by
  refine ⟨?_, ?_, ?_⟩
  · have hexec : ((otaSystem 4 false).exec .boot
        [.begin 10, .enter psaFine, .abort, .execute psaFine]).map
          (fun p => (aborted p.2, (otaStatus p.1.ota).1)) = some (true, .error) := by decide +kernel
    obtain ⟨⟨s, tr⟩, hs, heq⟩ := Option.map_eq_some_iff.mp hexec
    obtain ⟨hab, herr⟩ := Prod.mk.inj heq
    refine ⟨tr, s, Machine.run_of_exec hs, hab, herr, fun hfinal => ?_⟩
    exact OtaState.noConfusion (herr.symm.trans (hfinal.idle hab))
  · have hexec : ((otaSystem 4 false).exec .boot
        [.begin 10, .enter psaFine, .execute psaFine, .abort, .begin 20, .free psaFine,
          .publish]).map
          (fun p => (aborted p.2, pendingBegins p.2, p.1.pc, p.1.ota.op, p.1.ota.opRc)) =
        some (true, [20], .idle, .idle, hwOk) := by decide +kernel
    obtain ⟨⟨s, tr⟩, hs, heq⟩ := Option.map_eq_some_iff.mp hexec
    obtain ⟨hab, hp, hpc, hop, hrc⟩ := by simpa only [Prod.mk.injEq] using heq
    refine ⟨tr, s, Machine.run_of_exec hs, hab, hp, hpc, hop, hrc, fun hfinal => ?_⟩
    exact OtaOp.noConfusion (hop.symm.trans (hfinal.queued hab 20 (by simp [hp])).1)
  · have hexec : ((otaSystem 4 false).exec .boot [.abort, .begin 20, .begin 30]).map
        (fun p => (aborted p.2, pendingBegins p.2, p.1.ota.opTotal)) =
        some (true, [20, 30], 20) := by decide +kernel
    obtain ⟨⟨s, tr⟩, hs, heq⟩ := Option.map_eq_some_iff.mp hexec
    obtain ⟨hab, hp, htotal⟩ := by simpa only [Prod.mk.injEq] using heq
    refine ⟨tr, s, Machine.run_of_exec hs, hab, hp, htotal, fun hfinal => ?_⟩
    have hthirty := (hfinal.queued hab 30 (by simp [hp])).2.2
    omega

end Cc3501eBridge
