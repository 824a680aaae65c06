import Cc3501eBridge.Lib.Padding
import Cc3501eBridge.Reference
import Cc3501eBridge.ResultInv
import Cc3501eBridge.ReplyFrame

/-!
# Reading a padded reply

The length a reply declares counts its pad, so the host cannot tell the end of the data from it: the
data itself has to say where it ends.  Each opcode that returns a record has a format of its own,
written where its HAL body packs it.  `Cmd.format` collects them, and all are self-delimiting but
one: `BLE_GATT_READ` returns the bare attribute value.  An attribute value and the same value with
zeros appended, up to the next multiple of eight, travel in the same frame.
-/

namespace Cc3501eBridge

variable {η : Type}

open Trace Padding

/-! ## What the scans pack -/

/-- An access point, `WlanNetworkEntry_t`. -/
structure WlanNetworkEntry where
  bssid : List UInt8
  rssi : Int8
  channel : UInt8
  securityInfo : UInt16
  ssidLen : UInt8
  ssid : Buf

/-- An advertiser, `cc3501e_nimble_scan_rec_t`. -/
structure NimbleScanRec where
  addr : List UInt8
  addrType : UInt8
  rssi : Int8
  nameLen : UInt8
  name : Buf

/-- The SSID length on the wire: no more than the entry's array of `ssidBytes` holds. -/
def WlanNetworkEntry.wireSsidLen (ssidBytes : Nat) (e : WlanNetworkEntry) : UInt8 :=
  if e.ssidLen.toNat > ssidBytes then UInt8.ofNat ssidBytes else e.ssidLen

/-- The record of an access point. -/
def WlanNetworkEntry.record (ssidBytes : Nat) (e : WlanNetworkEntry) : List UInt8 :=
  fixBytes 6 e.bssid ++ [e.rssi.toUInt8, e.channel] ++ le16 e.securityInfo ++
    [e.wireSsidLen ssidBytes] ++ e.ssid.read 0 (e.wireSsidLen ssidBytes).toNat

/-- The name length on the wire. -/
def NimbleScanRec.wireNameLen (r : NimbleScanRec) : UInt8 := if r.nameLen > 31 then 31 else r.nameLen

/-- The record of an advertiser. -/
def NimbleScanRec.record (r : NimbleScanRec) : List UInt8 :=
  fixBytes 6 r.addr ++ [r.addrType, r.rssi.toUInt8, r.wireNameLen] ++
    r.name.read 0 r.wireNameLen.toNat

/-- The packing loop of both scans, at offset `off`: records are appended until one does not fit. -/
def packScan (cap : Nat) : Nat → List (List UInt8) → List UInt8
  | _, [] => []
  | off, rec :: rest =>
      if off + rec.length > cap then [] else rec ++ packScan cap (off + rec.length) rest

/-- `cc3501e_hw_wifi_scan`: the scan proper returns `runRv` and leaves `cache`. -/
def hwWifiScan (ssidBytes : Nat) (runRv : Int) (cache : List WlanNetworkEntry) (cap : Nat) : HalRet :=
  if runRv ≠ hwOk then { rv := runRv }
  else { rv := hwOk, data := packScan cap 0 (cache.map (·.record ssidBytes)) }

/-- `cc3501e_hw_ble_scan`: the discovery returns `rc` and collects `recs`. -/
def hwBleScan (enabled : Bool) (rc : Int) (recs : List NimbleScanRec) (cap : Nat) : HalRet :=
  if enabled = false then { rv := hwErrNotimpl }
  else if rc ≠ 0 then { rv := hwErrIo }
  else { rv := hwOk, data := packScan cap 0 (recs.map (·.record)) }

/-- The returns of the two scans are theirs; the other bodies may return what they like. -/
def HalRet.OfScan (r : HalRet) : HalCall → Prop
  | .wifiScan cap => ∃ ssidBytes runRv cache, r = hwWifiScan ssidBytes runRv cache cap
  | .bleScan cap => ∃ enabled rc recs, r = hwBleScan enabled rc recs cap
  | _ => True

/-! ## Formats -/

/-- The length of an access point's record, from its head. -/
def wifiRecordLen (head : List UInt8) : Nat := 11 + (byteAt head 10).toNat

/-- The length of an advertiser's record, from its head. -/
def bleRecordLen (head : List UInt8) : Nat := 9 + (byteAt head 8).toNat

/-- The opcodes whose jobs return a record. -/
def Cmd.returnsRecord (c : Cmd) : Bool :=
  match c with
  | .wifiScanStart | .bleScanStart | .bleGattRegister | .bleGattRead | .sockOpen | .sockSend
  | .sockRecv | .spi1Transfer => true
  | _ => false

/-- The format of an opcode's record.  An attribute value has none. -/
def Cmd.format (c : Cmd) : List UInt8 → Prop :=
  match c with
  | .wifiScanStart => Records 11 wifiRecordLen
  | .bleScanStart => Records 9 bleRecordLen
  | .bleGattRegister => Sized 2 fun head => 2 + 2 * (byteAt head 1).toNat
  | .sockOpen => Sized 0 fun _ => 4
  | .sockSend => Sized 0 fun _ => 2
  | .sockRecv => Sized sockRecvRespBytes fun head => sockRecvRespBytes + (wordAt head 20).toNat
  | .spi1Transfer => Sized 4 fun head => 4 + (wordAt head 0).toNat
  | _ => fun _ => True

/-- Every format is self-delimiting but that of `BLE_GATT_READ`. -/
theorem Cmd.format_selfDelimiting {c : Cmd} (hc : c.returnsRecord = true) (hr : c ≠ .bleGattRead) :
    SelfDelimiting replyPad c.format := by
  cases c with
  | wifiScanStart => exact Records.selfDelimiting (by decide)
  | bleScanStart => exact Records.selfDelimiting (by decide)
  | bleGattRegister => exact Sized.selfDelimiting _
  | bleGattRead => exact absurd rfl hr
  | sockOpen => exact Sized.selfDelimiting _
  | sockSend => exact Sized.selfDelimiting _
  | sockRecv => exact Sized.selfDelimiting _
  | spi1Transfer => exact Sized.selfDelimiting _
  | _ => exact absurd hc (by decide)

/-- What the loop packs is a list of the records it was given. -/
theorem packScan_records {h : Nat} {len : List UInt8 → Nat} (cap : Nat) {recs : List (List UInt8)}
    (hrecs : ∀ r ∈ recs, Sized h len r) (off : Nat) : Records h len (packScan cap off recs) := by
  induction recs generalizing off with
  | nil => exact ⟨[], by simp, rfl⟩
  | cons rec rest ih =>
      rw [packScan]
      split_ifs
      · exact ⟨[], by simp, rfl⟩
      · obtain ⟨rs, hrs, hflat⟩ := ih (fun r hr => hrecs r (by simp [hr])) (off + rec.length)
        refine ⟨rec :: rs, ?_, by rw [hflat, List.flatten_cons]⟩
        intro r hr
        rcases List.mem_cons.mp hr with rfl | hr
        · exact hrecs r (by simp)
        · exact hrs r hr

/-- A head and as many bytes as it says. -/
theorem sized_of_head {len : List UInt8 → Nat} {head body : List UInt8}
    (hlen : len head = head.length + body.length) : Sized head.length len (head ++ body) := by
  constructor
  · simp
  · rw [List.take_left, hlen, List.length_append]

theorem WlanNetworkEntry.record_sized (ssidBytes : Nat) (e : WlanNetworkEntry) :
    Sized 11 wifiRecordLen (e.record ssidBytes) := by
  have h : (fixBytes 6 e.bssid ++ [e.rssi.toUInt8, e.channel] ++ le16 e.securityInfo ++
      [e.wireSsidLen ssidBytes]).length = 11 := by simp
  rw [← h]
  apply sized_of_head
  rw [wifiRecordLen, h]
  simp [byteAt, fixBytes, List.range_succ, le16]

theorem NimbleScanRec.record_sized (r : NimbleScanRec) : Sized 9 bleRecordLen r.record := by
  have h : (fixBytes 6 r.addr ++ [r.addrType, r.rssi.toUInt8, r.wireNameLen]).length = 9 := by simp
  rw [← h]
  apply sized_of_head
  rw [bleRecordLen, h]
  simp [byteAt, fixBytes, List.range_succ]

/-! ## What a job publishes -/

/-- An accepted `SPI1_TRANSFER` asks for no more than a reply can hold. -/
theorem spi1TransferValid_len {E : Env η} {req : List UInt8} (h : spi1TransferValid E req = true) :
    8 ≤ req.length ∧ (wordAt req 0).toNat + 4 ≤ E.build.replyDataMax := by
  simp only [spi1TransferValid, Bool.and_eq_true, decide_eq_true_eq] at h
  obtain ⟨hlen, -, hmax, -⟩ := h
  have hroom : E.build.spi1MaxXferV4 + 4 ≤ E.build.replyDataMax := by
    unfold Build.spi1MaxXferV4 Build.replyDataMax
    split <;> decide
  exact ⟨hlen, by omega⟩

/-- Only an accepted `SPI1_TRANSFER` is queued. -/
theorem spi1TransferValid_of_submits {E : Env η} {hal : η} {tr : List Ev} {s : Sys η}
    (hr : (system E).Run (.boot hal) tr s) {t i : Nat} {req : Request}
    (hsub : At (Ev.Submits t req) tr i) (hdec : E.hdr.decode req.cmd = some .spi1Transfer) :
    spi1TransferValid E req.payload = true := by
  obtain ⟨e, he, reply, rfl⟩ := hsub
  obtain ⟨s₀, a, s₁, -, -, hstep⟩ := hr.step_at he
  obtain ⟨fw, hd, -, hq⟩ := (sysStep_core hstep).dispatch_inv
  by_contra hinv
  rcases dispatch_cases hd with ⟨hnone, -⟩ | ⟨c, hc, hh⟩
  · simp [hdec] at hnone
  · obtain rfl : c = .spi1Transfer := by simpa [hdec] using hc.symm
    rw [handle, handleSpi1Transfer, if_pos (by simpa using hinv)] at hh
    obtain rfl := (Prod.mk.inj hh).1
    simp [queuedBy] at hq

/-- An `SPI1_TRANSFER` in the slot passed the handler's checks. -/
theorem spi1Room_of_run {E : Env η} {hal : η} {tr : List Ev} {s : Sys η}
    (hr : (system E).Run (.boot hal) tr s) (hne : s.job.state ≠ .idle)
    (hspi : s.job.jobCmd = .spi1Transfer) :
    (s.job.req.word 0).toNat + 4 ≤ E.build.replyDataMax := by
  obtain ⟨req, j, hsub, hdec, hpay⟩ := (SlotInv.of_run hr).origin hne
  have hp : s.job.payload = req.payload := hpay (by rw [hspi]; rfl)
  obtain ⟨hlen, hmax⟩ := spi1TransferValid_len (spi1TransferValid_of_submits hr hsub (hspi ▸ hdec))
  rw [← hp] at hlen hmax
  rwa [← s.job.wordAt_payload (by omega)]

section

variable {E : Env η} {req : Buf} {reqLen : Nat} {r : HalRet} {c : Cmd}

/-- A job that was accepted and whose body keeps to its room publishes no more than a reply can
hold. -/
theorem length_packOk_le (hc : c.returnsRecord = true) (hfits : r.fits (E.halCall c req reqLen) = true)
    (hspi : c = .spi1Transfer → (req.word 0).toNat + 4 ≤ E.build.replyDataMax) :
    (E.packOk c req r).length ≤ E.build.replyDataMax := by
  have hmax : 24 ≤ E.build.replyDataMax := by
    unfold Build.replyDataMax
    split <;> decide
  cases c with
  | wifiScanStart | bleScanStart | bleGattRead =>
      simpa [Env.packOk, Env.halCall, HalRet.fits] using hfits
  | bleGattRegister =>
      have hn : r.handles.length ≤ bleGattMaxChars := by
        simpa [Env.halCall, HalRet.fits] using hfits
      have hflat : (r.handles.map le16).flatten.length = 2 * r.handles.length := by
        simp [List.length_flatten, Function.comp_def, Nat.mul_comm]
      simp only [Env.packOk, List.length_append, hflat, List.length_cons, List.length_nil]
      unfold bleGattMaxChars at hn
      omega
  | sockOpen | sockSend =>
      simp only [Env.packOk, List.length_append, length_le16, List.length_cons, List.length_nil]
      omega
  | sockRecv =>
      have hn : r.data.length ≤ sockRecvDataCap E.build (req.word 2) := by
        simpa [Env.halCall, HalRet.fits] using hfits
      have hcap := sockRecvDataCap_le E.build (req.word 2)
      simp only [Env.packOk, List.length_append, length_sockRecvHeader]
      omega
  | spi1Transfer =>
      have hlen := hspi rfl
      simp only [Env.packOk, List.length_append, length_le16, List.length_cons, List.length_nil]
      split_ifs
      · simp only [List.length_nil]
        omega
      · rw [length_fixBytes]
        omega
  | _ => exact absurd hc (by decide)

/-- What a job publishes has the format of its opcode. -/
theorem packOk_format (hok : r.rv = hwOk) (hfits : r.fits (E.halCall c req reqLen) = true)
    (hscan : r.OfScan (E.halCall c req reqLen)) : c.format (E.packOk c req r) := by
  cases c with
  | wifiScanStart =>
      obtain ⟨ssidBytes, runRv, cache, rfl⟩ := hscan
      by_cases hrun : runRv = hwOk
      · rw [hwWifiScan, if_neg (by simpa using hrun)]
        apply packScan_records
        intro rec hrec
        obtain ⟨e, -, rfl⟩ := List.mem_map.mp hrec
        exact e.record_sized ssidBytes
      · rw [hwWifiScan, if_pos hrun] at hok
        exact absurd hok hrun
  | bleScanStart =>
      obtain ⟨enabled, rc, recs, rfl⟩ := hscan
      unfold hwBleScan at hok ⊢
      split_ifs at hok ⊢
      · exact absurd hok (by decide)
      · exact absurd hok (by decide)
      · apply packScan_records
        intro rec hrec
        obtain ⟨e, -, rfl⟩ := List.mem_map.mp hrec
        exact e.record_sized
  | bleGattRegister =>
      have hn : r.handles.length ≤ bleGattMaxChars := by
        simpa [Env.halCall, HalRet.fits] using hfits
      have hbyte : (UInt8.ofNat r.handles.length).toNat = r.handles.length :=
        UInt8.toNat_ofNat_of_lt' (by unfold UInt8.size bleGattMaxChars at *; omega)
      refine @sized_of_head _ [0, UInt8.ofNat r.handles.length] _ ?_
      simp [byteAt, hbyte, List.length_flatten, Function.comp_def, Nat.mul_comm]
  | sockOpen => exact ⟨Nat.zero_le _, rfl⟩
  | sockSend => exact ⟨Nat.zero_le _, rfl⟩
  | sockRecv =>
      have hn : r.data.length ≤ sockRecvDataCap E.build (req.word 2) := by
        simpa [Env.halCall, HalRet.fits] using hfits
      have hcap := sockRecvDataCap_le E.build (req.word 2)
      have hmax := E.build.replyDataMax_le
      have hword : (UInt16.ofNat r.data.length).toNat = r.data.length :=
        UInt16.toNat_ofNat_of_lt' (by unfold UInt16.size; omega)
      have hhead : wordAt (sockRecvHeader E r) 20 = UInt16.ofNat r.data.length := by
        have hlen : ([E.hdr.sockFamilyIpv4, 0] ++ le16 r.fromPort ++ fixBytes 4 r.fromAddr ++
            List.replicate 12 0).length = 20 := by simp
        rw [sockRecvHeader, ← hlen, List.append_assoc _ (le16 _)]
        exact wordAt_append_le16 _ _ _
      have h := @sized_of_head (fun head => sockRecvRespBytes + (wordAt head 20).toNat)
        (sockRecvHeader E r) r.data (by simp [hhead, hword])
      rwa [length_sockRecvHeader] at h
  | spi1Transfer =>
      set noRx := hasFlag (req 2) E.hdr.spi1XferNoRx with hno
      have hword : ∀ v rest, wordAt (le16 v ++ rest) 0 = v := fun v rest =>
        wordAt_append_le16 [] rest v
      refine @sized_of_head _ (le16 (if noRx then 0 else req.word 0) ++ [_, _]) _ ?_
      rw [hword]
      split_ifs <;> simp
  | _ => trivial

end

/-- `d` is the OK result of a job of opcode `c`, as `worker_execute` publishes it in some run in which
the two scans return what they pack. -/
def Published (E : Env η) (c : Cmd) (d : List UInt8) : Prop :=
  ∃ hal tr s, (system E).Run (.boot hal) tr s ∧
    (∀ t call r, .ret t call r ∈ tr → r.OfScan call) ∧
    s.job.jobCmd = c ∧ s.job.state = .done ∧ s.job.resultBytes = d

/-- A published result has the format of its opcode and fits a reply. -/
theorem Published.spec {E : Env η} {c : Cmd} {d : List UInt8} (h : Published E c d)
    (hc : c.returnsRecord = true) : c.format d ∧ d.length ≤ E.build.replyDataMax := by
  obtain ⟨hal, tr, s, hr, hscan, rfl, hdone, rfl⟩ := h
  have ht : s.job.Terminal := .inl hdone
  obtain ⟨r, ⟨hfits, i, hret⟩, hholds⟩ := (ResultInv.of_run hr).terminal ht
  have hok : r.rv = hwOk := by
    by_contra hne
    have herr : s.job.state = .err := (hholds.err hne).1
    exact absurd (hdone.symm.trans herr) (by decide)
  have hofScan : r.OfScan (s.job.call E) := by
    obtain ⟨e, he, rfl⟩ := hret
    exact hscan _ _ _ (List.mem_of_getElem? he)
  have hspi := spi1Room_of_run hr ht.ne_idle
  have hle := length_packOk_le hc hfits hspi
  have hbuf : s.job.resultBytes = E.packOk s.job.jobCmd s.job.req r := by
    rw [(hholds.done hok).2.2, Job.outOf, Env.execOut, if_pos hok, List.take_of_length_le]
    have := E.build.replyDataMax_le
    unfold maxPayload
    omega
  rw [hbuf]
  exact ⟨packOk_format hok hfits hofScan, hle⟩

/-! ## Frames -/

/-- `f` is a frame that `protocol_build_reply` builds, in a full frame buffer, when the handler of
opcode `c` answers OK with the data `d`. -/
def Frames (E : Env η) (c : Cmd) (d f : List UInt8) : Prop :=
  ∃ (D : Dispatcher η) (fw : Fw η) (req : List UInt8) (frame : Buf),
    let o := (requestOutcome E D fw req frame frameMaxBytes).2
    cmdEcho req = E.hdr.opcode c ∧ o.status = .ok ∧ o.dataLen = d.length ∧
      o.frame.read replyDataOff d.length = d ∧
      f = (protocolBuildReply E D fw req frame frameMaxBytes).bytes

theorem Frames.eq_encodeReply {E : Env η} {c : Cmd} {d f : List UInt8} (h : Frames E c d f)
    (hd : d.length ≤ E.build.replyDataMax) :
    f = encodeReply E (E.hdr.opcode c) { status := .ok, data := d } := by
  obtain ⟨D, fw, req, frame, hcmd, hstatus, hlen, hread, rfl⟩ := h
  have hresult : (requestOutcome E D fw req frame frameMaxBytes).2.result E.build =
      { status := .ok, data := d } := by
    rw [Outcome.result, if_neg (by omega), hstatus, hlen, hread]
  rw [protocolBuildReply_eq, (finishReply_eq _ _).1, hresult, hcmd]

/-- The two lengths pad to the same length. -/
theorem payloadBytes_eq_iff {B : Build} (hb : B.wireCrc = true) {n m : Nat} :
    payloadBytes B n = payloadBytes B m ↔ (n + 2) / 8 = (m + 2) / 8 := by
  have ht : B.trailerBytes = 2 := by rw [Build.trailerBytes, if_pos hb]; rfl
  unfold payloadBytes padBytes replyPad
  rw [ht]
  omega

/-- Two replies share a frame exactly if their data pad to the same string. -/
theorem encodeReply_eq_iff {E : Env η} (hb : E.build.wireCrc = true) {cmd : UInt8} {st : Resp}
    {d₁ d₂ : List UInt8} :
    encodeReply E cmd { status := st, data := d₁ } = encodeReply E cmd { status := st, data := d₂ } ↔
      (d₁.length + 2) / 8 = (d₂.length + 2) / 8 ∧ Aliased 0 d₁ d₂ := by
  rw [← payloadBytes_eq_iff hb]
  have hpad : payloadBytes E.build d₁.length = payloadBytes E.build d₂.length →
      d₁.length + padBytes E.build d₁.length = d₂.length + padBytes E.build d₂.length := by
    intro h
    unfold payloadBytes at h
    omega
  constructor
  · intro h
    have hlen : payloadBytes E.build d₁.length = payloadBytes E.build d₂.length := by
      have := congrArg List.length h
      rw [length_encodeReply, length_encodeReply] at this
      exact Nat.add_left_cancel this
    refine ⟨hlen, (padded_eq_iff (hpad hlen)).mp ?_⟩
    -- strip the trailer, the header and the status
    have hcovered : coveredBytes E cmd { status := st, data := d₁ } =
        coveredBytes E cmd { status := st, data := d₂ } := by
      apply List.append_inj_left' h
      rw [length_trailer, length_trailer]
    have hsuffix := List.append_inj_right hcovered (by simp)
    exact (List.cons.inj hsuffix).2
  · rintro ⟨hlen, ha⟩
    have hdata := (padded_eq_iff (hpad hlen)).mpr ha
    have hcovered : coveredBytes E cmd { status := st, data := d₁ } =
        coveredBytes E cmd { status := st, data := d₂ } := by
      simp only [coveredBytes, hlen, hdata]
    rw [encodeReply, encodeReply, hcovered]

/-- On the wire with CRC, and for every opcode that returns a record: the frames of two different
published results differ, unless the opcode is `BLE_GATT_READ` and the attribute values are the same
but for zeros at the end, within one block of eight. -/
theorem result_frames_differ_iff {E : Env η} (hb : E.build.wireCrc = true) {c : Cmd}
    (hc : c.returnsRecord = true) {d₁ d₂ f₁ f₂ : List UInt8} (h₁ : Published E c d₁)
    (h₂ : Published E c d₂) (hne : d₁ ≠ d₂) (hf₁ : Frames E c d₁ f₁) (hf₂ : Frames E c d₂ f₂) :
    f₁ ≠ f₂ ↔
      ¬ (c = .bleGattRead ∧ (d₁.length + 2) / 8 = (d₂.length + 2) / 8 ∧ Aliased 0 d₁ d₂) := by
  obtain ⟨hfmt₁, hle₁⟩ := h₁.spec hc
  obtain ⟨hfmt₂, hle₂⟩ := h₂.spec hc
  rw [hf₁.eq_encodeReply hle₁, hf₂.eq_encodeReply hle₂, ne_eq, encodeReply_eq_iff hb]
  apply not_congr
  constructor
  · rintro ⟨hblock, ha⟩
    refine ⟨?_, hblock, ha⟩
    by_contra hr
    have hself := Cmd.format_selfDelimiting hc hr
    apply hne
    apply hself.eq_of_aliased hfmt₁ hfmt₂ ha
    · unfold replyPad
      omega
    · unfold replyPad
      omega
  · exact fun h => h.2

/-! ## An attribute value and its padding -/

open Act in
/-- The attribute with handle 1 is read and has the value `d`. -/
def readValue (d : List UInt8) : List (Act Unit) :=
  [dispatch (.of .bleGattRead 1 [1, 0]), task, task, ret { rv := hwOk, data := d }] ++
    List.replicate (d.length + 3) task

/-- The frame with which the host asks for the value. -/
def pollValue : List UInt8 :=
  let head : List UInt8 := [Cmd.bleGattRead.referenceOpcode, 8, 4, 0, 1, 0]
  head ++ le16 (Crc16.update Crc16.initReg head)

/-- The result in the slot is the value `d`, and the poll for it is answered with the frame `f`. -/
def ServesValue (s : Sys Unit) (d f : List UInt8) : Prop :=
  let o := (requestOutcome Env.reference (dispatcher .reference) s.fw pollValue .zero frameMaxBytes).2
  (s.job.jobCmd = .bleGattRead ∧ s.job.state = .done ∧ s.job.resultBytes = d) ∧
    (o.status = .ok ∧ o.dataLen = d.length ∧ o.frame.read replyDataOff d.length = d) ∧
    f = (protocolBuildReply Env.reference (dispatcher .reference) s.fw pollValue .zero
      frameMaxBytes).bytes

instance (s : Sys Unit) (d f : List UInt8) : Decidable (ServesValue s d f) :=
  inferInstanceAs (Decidable (_ ∧ _ ∧ _))

/-- The return of a scan. -/
def Ev.isScan : Ev → Bool
  | .ret _ (.wifiScan _) _ | .ret _ (.bleScan _) _ => true
  | _ => false

/-- An evaluation of the read gives a published result and its frame. -/
theorem published_of_exec {d f : List UInt8}
    (h : ((system .reference).exec (.boot ()) (readValue d)).map (fun p =>
      (p.2.any Ev.isScan, decide (ServesValue p.1 d f))) = some (false, true)) :
    Published Env.reference .bleGattRead d ∧ Frames Env.reference .bleGattRead d f := by
  obtain ⟨⟨s, tr⟩, hs, heq⟩ := Option.map_eq_some_iff.mp h
  simp only [Prod.mk.injEq, List.any_eq_false, decide_eq_true_eq] at heq
  obtain ⟨hscan, ⟨hcmd, hstate, hbytes⟩, ⟨hstatus, hlen, hread⟩, hf⟩ := heq
  constructor
  · refine ⟨(), tr, s, Machine.run_of_exec hs, ?_, hcmd, hstate, hbytes⟩
    intro t call r hmem
    have hnot := hscan _ hmem
    cases call with
    | wifiScan cap => exact absurd rfl hnot
    | bleScan cap => exact absurd rfl hnot
    | _ => trivial
  · exact ⟨dispatcher .reference, s.fw, pollValue, .zero, by decide, hstatus, hlen, hread, hf⟩

/-- The values `01` and `01 00` travel in the same frame. -/
theorem attribute_values_share_frame :
    ∃ f, Published Env.reference .bleGattRead [1] ∧ Published Env.reference .bleGattRead [1, 0] ∧
      Frames Env.reference .bleGattRead [1] f ∧ Frames Env.reference .bleGattRead [1, 0] f := by
  obtain ⟨h₁, hf₁⟩ := @published_of_exec [1] [58, 0, 8, 0, 90, 1, 0, 0, 0, 0, 126, 154]
    (by decide +kernel)
  obtain ⟨h₂, hf₂⟩ := @published_of_exec [1, 0] [58, 0, 8, 0, 90, 1, 0, 0, 0, 0, 126, 154]
    (by decide +kernel)
  exact ⟨_, h₁, h₂, hf₁, hf₂⟩

/-- The values `01` and `02` do not. -/
theorem result_frames_differ_iff_values :
    ∃ f₁ f₂, Frames Env.reference .bleGattRead [1] f₁ ∧ Frames Env.reference .bleGattRead [2] f₂ ∧
      f₁ ≠ f₂ := by
  obtain ⟨h₁, hf₁⟩ := @published_of_exec [1] [58, 0, 8, 0, 90, 1, 0, 0, 0, 0, 126, 154]
    (by decide +kernel)
  obtain ⟨h₂, hf₂⟩ := @published_of_exec [2] [58, 0, 8, 0, 90, 2, 0, 0, 0, 0, 172, 116]
    (by decide +kernel)
  refine ⟨_, _, hf₁, hf₂, (result_frames_differ_iff rfl rfl h₁ h₂ (by decide) hf₁ hf₂).mpr ?_⟩
  rintro ⟨-, -, n, hn | hn⟩
  · exact absurd (List.cons.inj hn).1 (by decide)
  · exact absurd (List.cons.inj hn).1 (by decide)

end Cc3501eBridge
