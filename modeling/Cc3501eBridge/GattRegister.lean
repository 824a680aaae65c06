import Cc3501eBridge.JobBytes

/-!
# The two parsers of `BLE_GATT_REGISTER`

A descriptor is a version, the UUID of a service, a count and that many records, each with a UUID, the
property bits and an initial value behind its length.  `ble_gatt_register_validate` walks it when the
request arrives, `cc3501e_nimble_gatt_register` walks it again on the worker task and fills the static
tables that NimBLE is given.

Both walks are written as programs that read the string.  The first accepts the encodings of descriptors
and nothing else; the second lists such a descriptor in the tables unless an initial value is longer than
the storage for it, and then it refuses before NimBLE hears of the service.
-/

namespace Cc3501eBridge

variable {η : Type}

open Fetch

/-! ## Descriptors -/

/-- One characteristic. -/
@[ext] structure GattRecord where
  uuid : List UInt8
  properties : UInt8
  value : List UInt8
  uuid_length : uuid.length = 16
  value_length : value.length < 2 ^ 16

/-- The record on the wire. -/
def GattRecord.encode (r : GattRecord) : List UInt8 :=
  r.uuid ++ r.properties :: (le16 (UInt16.ofNat r.value.length) ++ r.value)

/-- A service with at least one characteristic. -/
structure GattDescriptor where
  serviceUuid : List UInt8
  records : List GattRecord
  serviceUuid_length : serviceUuid.length = 16
  records_pos : 0 < records.length
  records_le : records.length ≤ bleGattMaxChars

/-- The descriptor on the wire. -/
def GattDescriptor.encode (version : UInt8) (d : GattDescriptor) : List UInt8 :=
  version :: (d.serviceUuid ++ UInt8.ofNat d.records.length :: d.records.flatMap GattRecord.encode)

namespace GattRecord

variable (r : GattRecord)

@[simp] theorem length_encode : r.encode.length = 19 + r.value.length := by
  simp only [encode, List.length_append, List.length_cons, r.uuid_length, length_le16]
  omega

theorem toNat_value_length : (UInt16.ofNat r.value.length).toNat = r.value.length :=
  UInt16.toNat_ofNat_of_lt' r.value_length

end GattRecord

/-! ## Reading a string -/

/-- The byte behind a string. -/
theorem byteAt_append_cons (l l' : List UInt8) (b : UInt8) : byteAt (l ++ b :: l') l.length = b := by
  simp [byteAt]

/-- The bytes behind a string. -/
theorem run_span_append (l mid l' : List UInt8) :
    (span l.length mid.length).run (byteAt (l ++ (mid ++ l'))) = mid := by
  rw [run_span]
  apply List.ext_getElem
  · simp
  · intro i hi _
    have hi' : i < mid.length := by simpa using hi
    have hat : (l ++ (mid ++ l'))[l.length + i]? = some mid[i] := by
      rw [List.getElem?_append_right (Nat.le_add_right _ _), Nat.add_sub_cancel_left,
        List.getElem?_append_left hi', List.getElem?_eq_getElem hi']
    simp [byteAt, hat]

namespace GattRecord

variable (r : GattRecord) (l l' : List UInt8)

/-- What stands at the offsets of a record that follows `l`. -/
theorem wordAt_length : wordAt (l ++ (r.encode ++ l')) (l.length + 17) = UInt16.ofNat r.value.length := by
  have := wordAt_append_le16 (l ++ r.uuid ++ [r.properties]) (r.value ++ l') (UInt16.ofNat r.value.length)
  simpa [encode, r.uuid_length, Nat.add_assoc] using this

theorem byteAt_properties : byteAt (l ++ (r.encode ++ l')) (l.length + 16) = r.properties := by
  have := byteAt_append_cons (l ++ r.uuid) (le16 (UInt16.ofNat r.value.length) ++ r.value ++ l') r.properties
  simpa [encode, r.uuid_length, Nat.add_assoc] using this

theorem span_uuid : (span l.length 16).run (byteAt (l ++ (r.encode ++ l'))) = r.uuid := by
  have := run_span_append l r.uuid (r.properties :: (le16 (UInt16.ofNat r.value.length) ++ r.value ++ l'))
  rw [r.uuid_length] at this
  simpa [encode] using this

theorem span_value :
    (span (l.length + 19) r.value.length).run (byteAt (l ++ (r.encode ++ l'))) = r.value := by
  have := run_span_append (l ++ r.uuid ++ r.properties :: le16 (UInt16.ofNat r.value.length)) r.value l'
  simpa [encode, r.uuid_length, Nat.add_assoc] using this

end GattRecord

theorem drop_eq_byteAt_cons {req : List UInt8} {i : Nat} (hi : i < req.length) :
    req.drop i = byteAt req i :: req.drop (i + 1) := by
  rw [List.drop_eq_getElem_cons hi]
  simp [byteAt, hi]

/-- A record that fits into the string is one. -/
theorem exists_record {req : List UInt8} {pos len : Nat} (hlen : (wordAt req (pos + 17)).toNat = len)
    (hpos : pos + 19 + len ≤ req.length) :
    ∃ r : GattRecord, r.value.length = len ∧ req.drop pos = r.encode ++ req.drop (pos + 19 + len) := by
  have hword := (wordAt req (pos + 17)).toNat_lt
  let r : GattRecord := {
    uuid := (req.drop pos).take 16
    properties := byteAt req (pos + 16)
    value := (req.drop (pos + 19)).take len
    uuid_length := by simp; omega
    value_length := by simp; omega }
  have hvalue : r.value.length = len := by simp [r]; omega
  refine ⟨r, hvalue, ?_⟩
  -- the two length bytes are those of the word read
  have hle : le16 (UInt16.ofNat r.value.length) = [byteAt req (pos + 17), byteAt req (pos + 18)] := by
    rw [hvalue, ← hlen, UInt16.ofNat_toNat, wordAt, le16_getLe16]
  calc req.drop pos = (req.drop pos).take 16 ++ (req.drop pos).drop 16 := (List.take_append_drop ..).symm
    _ = r.uuid ++ req.drop (pos + 16) := by rw [List.drop_drop]
    _ = r.uuid ++ r.properties :: ([byteAt req (pos + 17), byteAt req (pos + 18)] ++
          req.drop (pos + 19)) := by
        rw [drop_eq_byteAt_cons (i := pos + 16) (by omega), drop_eq_byteAt_cons (i := pos + 17) (by omega),
          drop_eq_byteAt_cons (i := pos + 18) (by omega)]
        rfl
    _ = r.uuid ++ r.properties :: (le16 (UInt16.ofNat r.value.length) ++ (r.value ++
          req.drop (pos + 19 + len))) := by
        rw [hle, ← List.take_append_drop len (req.drop (pos + 19)), List.drop_drop]
    _ = r.encode ++ req.drop (pos + 19 + len) := by simp [GattRecord.encode]

namespace GattDescriptor

variable (d : GattDescriptor) (version : UInt8)

/-- The part of the encoding before the records. -/
def header : List UInt8 := version :: (d.serviceUuid ++ [UInt8.ofNat d.records.length])

@[simp] theorem length_header : (d.header version).length = 18 := by
  simp [header, d.serviceUuid_length]

theorem encode_eq :
    d.encode version = d.header version ++ (d.records.flatMap GattRecord.encode ++ []) := by
  simp [encode, header]

theorem length_encode :
    (d.encode version).length = 18 + (d.records.flatMap GattRecord.encode).length := by
  rw [encode_eq, List.append_nil, List.length_append, length_header]

theorem byteAt_count : byteAt (d.encode version) 17 = UInt8.ofNat d.records.length := by
  have := byteAt_append_cons (version :: d.serviceUuid) (d.records.flatMap GattRecord.encode)
    (UInt8.ofNat d.records.length)
  simpa [encode, d.serviceUuid_length] using this

theorem toNat_count : (UInt8.ofNat d.records.length).toNat = d.records.length := by
  have hle := d.records_le
  refine UInt8.toNat_ofNat_of_lt' (Nat.lt_of_le_of_lt hle ?_)
  decide

theorem span_serviceUuid : (span 1 16).run (byteAt (d.encode version)) = d.serviceUuid := by
  have := run_span_append [version] d.serviceUuid
    (UInt8.ofNat d.records.length :: d.records.flatMap GattRecord.encode)
  rw [d.serviceUuid_length] at this
  exact this

end GattDescriptor

/-! ## The validator -/

/-- The length of a descriptor's records. -/
theorem length_flatMap_encode_cons (r : GattRecord) (rs : List GattRecord) :
    ((r :: rs).flatMap GattRecord.encode).length =
      19 + r.value.length + (rs.flatMap GattRecord.encode).length := by simp

/-- Records are walked to their end. -/
theorem bleGattRegisterWalk_encode (rs : List GattRecord) (l l' : List UInt8) :
    bleGattRegisterWalk (l ++ (rs.flatMap GattRecord.encode ++ l')) rs.length l.length =
      some (l.length + (rs.flatMap GattRecord.encode).length) := by
  induction rs generalizing l with
  | nil => simp [bleGattRegisterWalk]
  | cons r rs ih =>
      have hstr : l ++ ((r :: rs).flatMap GattRecord.encode ++ l') =
          l ++ (r.encode ++ (rs.flatMap GattRecord.encode ++ l')) := by simp
      have hnext : l ++ (r.encode ++ (rs.flatMap GattRecord.encode ++ l')) =
          (l ++ r.encode) ++ (rs.flatMap GattRecord.encode ++ l') := by simp
      have hend := ih (l ++ r.encode)
      rw [← hnext] at hend
      rw [hstr, List.length_cons, bleGattRegisterWalk, if_neg (by simp; omega),
        r.wordAt_length, r.toNat_value_length]
      dsimp only
      rw [if_neg (by simp; omega)]
      have hpos : l.length + 16 + 1 + 2 + r.value.length = (l ++ r.encode).length := by
        simp
        omega
      rw [hpos, hend, length_flatMap_encode_cons]
      simp
      omega

/-- What is walked over is records. -/
theorem exists_records {req : List UInt8} {n pos last : Nat}
    (h : bleGattRegisterWalk req n pos = some last) :
    ∃ rs : List GattRecord, rs.length = n ∧
      req.drop pos = rs.flatMap GattRecord.encode ++ req.drop last := by
  induction n generalizing pos with
  | zero =>
      obtain rfl : pos = last := by simpa [bleGattRegisterWalk] using h
      exact ⟨[], rfl, rfl⟩
  | succ n ih =>
      rw [bleGattRegisterWalk] at h
      split_ifs at h with hhead
      dsimp only at h
      split_ifs at h with hfit
      have hpos : pos + 16 + 1 + 2 + (wordAt req (pos + 17)).toNat =
          pos + 19 + (wordAt req (pos + 17)).toNat := by omega
      rw [hpos] at h hfit
      obtain ⟨r, -, hr⟩ := exists_record rfl (Nat.le_of_not_lt hfit)
      obtain ⟨rs, hrs, hrest⟩ := ih h
      refine ⟨r :: rs, by simp [hrs], ?_⟩
      rw [hr, List.flatMap_cons, List.append_assoc, ← hrest]

/-- The validator accepts the encodings of descriptors and nothing else. -/
theorem bleGattRegisterValidate_iff (E : Env η) (req : List UInt8) (n : Nat) :
    bleGattRegisterValidate E req = some n ↔
      ∃ d : GattDescriptor, d.records.length = n ∧ req = d.encode E.hdr.bleGattRegisterVersion := by
  constructor
  · intro h
    unfold bleGattRegisterValidate at h
    split_ifs at h with hshort hversion
    dsimp only at h
    split_ifs at h with hcount
    cases hwalk : bleGattRegisterWalk req (byteAt req 17).toNat 18 with
    | none => simp [hwalk] at h
    | some last =>
        simp only [hwalk] at h
        split_ifs at h with hlast
        obtain rfl : (byteAt req 17).toNat = n := by simpa using h
        obtain rfl : last = req.length := by simpa using hlast
        obtain ⟨rs, hrs, hrest⟩ := exists_records hwalk
        obtain ⟨hpos, hle⟩ : rs.length ≠ 0 ∧ rs.length ≤ bleGattMaxChars := by
          rw [hrs]
          simpa using hcount
        let d : GattDescriptor := {
          serviceUuid := (req.drop 1).take 16
          records := rs
          serviceUuid_length := by simp; omega
          records_pos := Nat.pos_of_ne_zero hpos
          records_le := hle }
        have hcountByte : UInt8.ofNat rs.length = byteAt req 17 := by rw [hrs, UInt8.ofNat_toNat]
        refine ⟨d, hrs, ?_⟩
        calc req = req.drop 0 := rfl
          _ = byteAt req 0 :: ((req.drop 1).take 16 ++ (req.drop 1).drop 16) := by
              rw [drop_eq_byteAt_cons (by omega), List.take_append_drop]
          _ = byteAt req 0 :: (d.serviceUuid ++ req.drop 17) := by rw [List.drop_drop]
          _ = byteAt req 0 :: (d.serviceUuid ++ byteAt req 17 :: req.drop 18) := by
              rw [drop_eq_byteAt_cons (i := 17) (by omega)]
          _ = d.encode E.hdr.bleGattRegisterVersion := by
              rw [hrest, List.drop_length, List.append_nil, ← hcountByte, not_not.mp hversion]
              rfl
  · rintro ⟨d, rfl, rfl⟩
    have hwalk := bleGattRegisterWalk_encode d.records (d.header E.hdr.bleGattRegisterVersion) []
    rw [← d.encode_eq, d.length_header, ← d.length_encode E.hdr.bleGattRegisterVersion] at hwalk
    have hlen := d.length_encode E.hdr.bleGattRegisterVersion
    have hpos := d.records_pos
    have hle := d.records_le
    unfold bleGattRegisterValidate
    have hversion : byteAt (d.encode E.hdr.bleGattRegisterVersion) 0 = E.hdr.bleGattRegisterVersion := rfl
    rw [if_neg (by omega), if_neg (not_not.mpr hversion), d.byteAt_count, d.toNat_count]
    dsimp only
    rw [if_neg (by omega), hwalk]
    simp

/-- The reads of the characteristic loop. -/
def fetchValidateWalk (reqLen : Nat) : Nat → Nat → Fetch UInt8 (Option Nat)
  | 0, pos => pure (some pos)
  | n + 1, pos =>
      if pos + 16 + 1 + 2 > reqLen then pure none
      else do
        let initialLen ← fetchWord (pos + 17)
        let pos := pos + 16 + 1 + 2 + initialLen.toNat
        if pos > reqLen then pure none else fetchValidateWalk reqLen n pos

/-- The reads of `ble_gatt_register_validate`, on a string of length `reqLen`. -/
def fetchValidate (E : Env η) (reqLen : Nat) : Fetch UInt8 (Option Nat) :=
  if reqLen < 18 then pure none
  else do
    let version ← cell 0
    if version ≠ E.hdr.bleGattRegisterVersion then pure none
    else do
      let numChars ← cell 17
      if numChars.toNat = 0 ∨ numChars.toNat > bleGattMaxChars then pure none
      else do
        let last ← fetchValidateWalk reqLen numChars.toNat 18
        match last with
        | none => pure none
        | some pos => pure (if pos ≠ reqLen then none else some numChars.toNat)

theorem run_fetchValidateWalk (req : List UInt8) (n pos : Nat) :
    (fetchValidateWalk req.length n pos).run (byteAt req) = bleGattRegisterWalk req n pos := by
  induction n generalizing pos with
  | zero => rfl
  | succ n ih =>
      rw [fetchValidateWalk, bleGattRegisterWalk]
      split_ifs with hhead
      · rfl
      · have hword : (fetchWord (pos + 17)).run (byteAt req) = wordAt req (pos + 17) := rfl
        rw [run_bind, hword]
        dsimp only
        split_ifs
        · rfl
        · exact ih _

/-- They give the validator's verdict. -/
theorem run_fetchValidate (E : Env η) (req : List UInt8) :
    (fetchValidate E req.length).run (byteAt req) = bleGattRegisterValidate E req := by
  unfold fetchValidate bleGattRegisterValidate
  by_cases hshort : req.length < 18
  · rw [if_pos hshort, if_pos hshort, run_pure]
  rw [if_neg hshort, if_neg hshort, run_bind, run_cell]
  by_cases hversion : byteAt req 0 ≠ E.hdr.bleGattRegisterVersion
  · rw [if_pos hversion, if_pos hversion, run_pure]
  rw [if_neg hversion, if_neg hversion, run_bind, run_cell]
  dsimp only
  by_cases hcount : (byteAt req 17).toNat = 0 ∨ (byteAt req 17).toNat > bleGattMaxChars
  · rw [if_pos hcount, if_pos hcount, run_pure]
  rw [if_neg hcount, if_neg hcount, run_bind, run_fetchValidateWalk]
  cases bleGattRegisterWalk req (byteAt req 17).toNat 18 <;> rfl

theorem within_fetchValidateWalk (m : Nat → UInt8) (reqLen n pos : Nat) :
    Within reqLen m (fetchValidateWalk reqLen n pos) := by
  induction n generalizing pos with
  | zero => exact .pure _
  | succ n ih =>
      rw [fetchValidateWalk]
      split_ifs with hhead
      · exact .pure _
      · refine (within_fetchWord (by omega)).bind ?_
        dsimp only
        split_ifs
        · exact .pure _
        · exact ih _

/-- They stay within the string, whatever stands in it and behind it. -/
theorem within_fetchValidate (E : Env η) (m : Nat → UInt8) (reqLen : Nat) :
    Within reqLen m (fetchValidate E reqLen) := by
  unfold fetchValidate
  split_ifs with hshort
  · exact .pure _
  · refine (Within.cell (by omega)).bind ?_
    split_ifs
    · exact .pure _
    · refine (Within.cell (by omega)).bind ?_
      split_ifs
      · exact .pure _
      · refine (within_fetchValidateWalk m reqLen _ _).bind ?_
        split <;> exact .pure _

/-! ## The NimBLE tables -/

/-- `CC3501E_GATT_DYN_MAX_CHARS`. -/
def gattDynMaxChars : Nat := 8

/-- `CC3501E_GATT_DYN_CHR_VAL_MAX`. -/
def gattDynChrValMax : Nat := 64

/-- A `ble_gatt_chr_def`: its pointers are indices into the tables. -/
structure GattChrDef where
  uuid : Nat
  arg : Nat
  valHandle : Nat
  flags : UInt8
  deriving DecidableEq, Repr

/-- The static tables of the dynamic service. -/
structure GattDyn where
  /-- `s_dyn_svc_registered` -/
  registered : Bool := false
  svcUuid : List UInt8 := []
  chrUuid : Nat → List UInt8 := fun _ => []
  /-- `s_dyn_chr_val`, each value with its length -/
  chrVal : Nat → List UInt8 := fun _ => []
  chrValHandle : Nat → UInt16 := fun _ => 0
  /-- `s_dyn_chrs`; `none` is an entry of zeros, which ends the table. -/
  chrs : Nat → Option GattChrDef := fun _ => none
  /-- `s_dyn_svcs[0]` names the service and its table, and `s_dyn_svcs[1]` ends it. -/
  svcs : Bool := false

namespace GattDyn

/-- The UUID of characteristic `i`. -/
def putUuid (t : GattDyn) (i : Nat) (uuid : List UInt8) : GattDyn :=
  { t with chrUuid := Function.update t.chrUuid i uuid }

/-- The rest of the entry of characteristic `i`. -/
def putChr (t : GattDyn) (i : Nat) (properties : UInt8) (value : List UInt8) : GattDyn :=
  { t with
    chrVal := Function.update t.chrVal i value
    chrValHandle := Function.update t.chrValHandle i 0
    chrs := Function.update t.chrs i
      (some { uuid := i, arg := i, valHandle := i, flags := properties }) }

/-- The ends of both tables. -/
def putEnd (t : GattDyn) (numChars : Nat) : GattDyn :=
  { t with chrs := Function.update t.chrs numChars none, svcs := true }

end GattDyn

/-- The record loop of `cc3501e_nimble_gatt_register`: `n` records from `pos`, for the entries from `i` on.
The tables are returned as far as they have been filled, and whether the loop came to its end. -/
def nimbleGattWalk (descLen : Nat) : Nat → Nat → Nat → GattDyn → Fetch UInt8 (GattDyn × Bool)
  | 0, _, _, t => pure (t, true)
  | n + 1, i, pos, t =>
      if pos + 16 + 1 + 2 > descLen then pure (t, false)
      else do
        let uuid ← span pos 16
        let t := t.putUuid i uuid
        let properties ← cell (pos + 16)
        let initialLen ← fetchWord (pos + 17)
        let pos := pos + 16 + 1 + 2
        if initialLen.toNat > gattDynChrValMax then pure (t, false)
        else if pos + initialLen.toNat > descLen then pure (t, false)
        else do
          let value ← span pos initialLen.toNat
          nimbleGattWalk descLen n (i + 1) (pos + initialLen.toNat) (t.putChr i properties value)

/-- The calls that hand the tables to NimBLE. -/
inductive GattsCall
  | reset
  | addDemoSvcs
  | countDynCfg
  | addDynSvcs
  | start
  deriving DecidableEq, Repr

/-- `BLE_HS_EBUSY`. -/
def bleHsEbusy : Int := 15

/-- `cc3501e_gatt_reg_map_rc`. -/
def gattRegMapRc (rc : Int) : Int := if rc = bleHsEbusy then hwErrState else rc

/-- The calls in order, up to the first that fails: those made, and the code returned. -/
def gattsRun (nimble : GattsCall → Int) : List GattsCall → List GattsCall × Int
  | [] => ([], 0)
  | c :: cs =>
      if nimble c ≠ 0 then ([c], gattRegMapRc (nimble c))
      else
        let (made, rc) := gattsRun nimble cs
        (c :: made, rc)

/-- What comes of a registration. -/
structure GattRegistration where
  rc : Int
  /-- The NimBLE calls made. -/
  calls : List GattsCall := []
  tables : GattDyn
  /-- `handles_out`, with its count -/
  handles : List UInt16 := []

/-- `cc3501e_nimble_gatt_register`, reading a descriptor of `descLen` bytes.  `enabled` is what
`ble_hs_is_enabled` says, `nimble` what the NimBLE calls return, `assigned` the handles that
`ble_gatts_start` stores for the characteristics. -/
def nimbleGattRegister (nimble : GattsCall → Int) (assigned : Nat → UInt16) (t : GattDyn)
    (enabled : Bool) (handlesCap : Nat) (descLen : UInt16) : Fetch UInt8 GattRegistration :=
  if enabled = false then pure { rc := -1, tables := t }
  else if t.registered = true then pure { rc := hwErrState, tables := t }
  else if descLen.toNat < 18 then pure { rc := -1, tables := t }
  else do
    let numChars ← cell 17
    if numChars.toNat = 0 ∨ numChars.toNat > gattDynMaxChars then pure { rc := -1, tables := t }
    else do
      let uuid ← span 1 16
      let (t, complete) ← nimbleGattWalk descLen.toNat numChars.toNat 0 18 { t with svcUuid := uuid }
      if complete = false then pure { rc := -1, tables := t }
      else
        let t := t.putEnd numChars.toNat
        let (calls, rc) := gattsRun nimble [.reset, .addDemoSvcs, .countDynCfg, .addDynSvcs, .start]
        if rc ≠ 0 then pure { rc := rc, calls := calls, tables := t }
        else
          pure {
            rc := 0
            calls := calls
            tables := { t with chrValHandle := assigned, registered := true }
            handles := (List.range (min handlesCap numChars.toNat)).map assigned }

/-! ## The walk over a descriptor -/

/-- Whatever the string holds, the walk stays within `descLen` bytes. -/
theorem within_nimbleGattWalk (m : Nat → UInt8) (descLen n i pos : Nat) (t : GattDyn) :
    Within descLen m (nimbleGattWalk descLen n i pos t) := by
  induction n generalizing i pos t with
  | zero => exact .pure _
  | succ n ih =>
      rw [nimbleGattWalk]
      split_ifs with hhead
      · exact .pure _
      · refine (Within.span (by omega)).bind ((Within.cell (by omega)).bind
          ((within_fetchWord (by omega)).bind ?_))
        split_ifs
        · exact .pure _
        · dsimp only
          split_ifs with hfit
          · exact .pure _
          · exact (Within.span (by omega)).bind (ih _ _ _)

theorem within_nimbleGattRegister (nimble : GattsCall → Int) (assigned : Nat → UInt16) (t : GattDyn)
    (enabled : Bool) (handlesCap : Nat) (descLen : UInt16) (m : Nat → UInt8) :
    Within descLen.toNat m (nimbleGattRegister nimble assigned t enabled handlesCap descLen) := by
  unfold nimbleGattRegister
  split_ifs with henabled hregistered hshort
  · exact .pure _
  · exact .pure _
  · exact .pure _
  · refine (Within.cell (by omega)).bind ?_
    split_ifs
    · exact .pure _
    · refine (Within.span (by omega)).bind (Within.bind (within_nimbleGattWalk m _ _ _ _ _) ?_)
      dsimp only
      split_ifs <;> exact .pure _

/-- One record, if the string has one at `pos`. -/
theorem run_nimbleGattWalk_cons (r : GattRecord) (l l' : List UInt8) (descLen n i : Nat) (t : GattDyn) :
    (nimbleGattWalk descLen (n + 1) i l.length t).run (byteAt (l ++ (r.encode ++ l'))) =
      if l.length + 19 > descLen then (t, false)
      else if r.value.length > gattDynChrValMax then (t.putUuid i r.uuid, false)
      else if l.length + 19 + r.value.length > descLen then (t.putUuid i r.uuid, false)
      else (nimbleGattWalk descLen n (i + 1) (l ++ r.encode).length
        ((t.putUuid i r.uuid).putChr i r.properties r.value)).run (byteAt ((l ++ r.encode) ++ l')) := by
  have hlen : ((fetchWord (l.length + 17)).run (byteAt (l ++ (r.encode ++ l')))).toNat =
      r.value.length := by
    have hword : (fetchWord (l.length + 17)).run (byteAt (l ++ (r.encode ++ l'))) =
        wordAt (l ++ (r.encode ++ l')) (l.length + 17) := rfl
    rw [hword, r.wordAt_length, r.toNat_value_length]
  rw [nimbleGattWalk]
  by_cases hhead : l.length + 19 > descLen
  · rw [if_pos hhead, if_pos hhead, run_pure]
  rw [if_neg hhead, if_neg hhead]
  simp only [run_bind, run_cell, r.span_uuid, r.byteAt_properties, hlen]
  by_cases hlong : r.value.length > gattDynChrValMax
  · rw [if_pos hlong, if_pos hlong, run_pure]
  rw [if_neg hlong, if_neg hlong]
  by_cases hfit : l.length + 19 + r.value.length > descLen
  · rw [if_pos hfit, if_pos hfit, run_pure]
  have hpos : l.length + 16 + 1 + 2 + r.value.length = (l ++ r.encode).length := by
    rw [List.length_append, r.length_encode]
    omega
  rw [if_neg hfit, if_neg hfit, run_bind, r.span_value, hpos, List.append_assoc]

/-- The tables with the records in the entries from `i` on. -/
def GattDyn.fill (t : GattDyn) (i : Nat) : List GattRecord → GattDyn
  | [] => t
  | r :: rs => ((t.putUuid i r.uuid).putChr i r.properties r.value).fill (i + 1) rs

theorem run_nimbleGattWalk_encode (rs : List GattRecord) {l l' : List UInt8} {descLen : Nat}
    (hshort : ∀ r ∈ rs, r.value.length ≤ gattDynChrValMax)
    (hlen : l.length + (rs.flatMap GattRecord.encode).length ≤ descLen) (i : Nat) (t : GattDyn) :
    (nimbleGattWalk descLen rs.length i l.length t).run
      (byteAt (l ++ (rs.flatMap GattRecord.encode ++ l'))) = (t.fill i rs, true) := by
  induction rs generalizing l i t with
  | nil => rfl
  | cons r rs ih =>
      have hr := hshort r (List.mem_cons_self ..)
      rw [length_flatMap_encode_cons] at hlen
      rw [List.flatMap_cons, List.append_assoc, List.length_cons, run_nimbleGattWalk_cons,
        if_neg (by omega), if_neg (by omega), if_neg (by omega)]
      refine ih (fun r' hr' => hshort r' (List.mem_cons_of_mem _ hr')) ?_ _ _
      rw [List.length_append, r.length_encode]
      omega

/-- A value that is too long stops the walk. -/
theorem run_nimbleGattWalk_long (rs : List GattRecord) {l l' : List UInt8} {descLen : Nat}
    (hlong : ∃ r ∈ rs, gattDynChrValMax < r.value.length) (i : Nat) (t : GattDyn) :
    ((nimbleGattWalk descLen rs.length i l.length t).run
      (byteAt (l ++ (rs.flatMap GattRecord.encode ++ l')))).2 = false := by
  induction rs generalizing l i t with
  | nil => simp at hlong
  | cons r rs ih =>
      rw [List.flatMap_cons, List.append_assoc, List.length_cons, run_nimbleGattWalk_cons]
      split_ifs with hhead hr hfit
      · rfl
      · rfl
      · rfl
      · refine ih ?_ _ _
        obtain ⟨r', hr', hlong'⟩ := hlong
        rcases List.mem_cons.mp hr' with rfl | hr'
        · exact absurd hlong' hr
        · exact ⟨r', hr', hlong'⟩

/-! ## What the tables list -/

/-- The tables, which held `t₀`, list the service and its characteristics, and nothing else has changed. -/
structure GattDyn.Lists (t₀ : GattDyn) (d : GattDescriptor) (t : GattDyn) : Prop where
  svcUuid : t.svcUuid = d.serviceUuid
  entry : ∀ i r, d.records[i]? = some r →
    t.chrs i = some { uuid := i, arg := i, valHandle := i, flags := r.properties } ∧
      t.chrUuid i = r.uuid ∧ t.chrVal i = r.value
  terminator : t.chrs d.records.length = none
  svcs : t.svcs = true
  rest : ∀ i, d.records.length < i →
    t.chrs i = t₀.chrs i ∧ t.chrUuid i = t₀.chrUuid i ∧ t.chrVal i = t₀.chrVal i

namespace GattDyn

/-- The entries outside the filled range stay. -/
theorem fill_of_not_mem (t : GattDyn) (rs : List GattRecord) {i j : Nat}
    (hj : j < i ∨ i + rs.length ≤ j) :
    (t.fill i rs).chrs j = t.chrs j ∧ (t.fill i rs).chrUuid j = t.chrUuid j ∧
      (t.fill i rs).chrVal j = t.chrVal j := by
  induction rs generalizing i t with
  | nil => exact ⟨rfl, rfl, rfl⟩
  | cons r rs ih =>
      have hne : j ≠ i := by
        rw [List.length_cons] at hj
        omega
      obtain ⟨hchrs, huuid, hval⟩ :=
        ih ((t.putUuid i r.uuid).putChr i r.properties r.value) (i := i + 1) (by
          rw [List.length_cons] at hj
          omega)
      refine ⟨hchrs.trans ?_, huuid.trans ?_, hval.trans ?_⟩
      · exact Function.update_of_ne hne _ _
      · exact Function.update_of_ne hne _ _
      · exact Function.update_of_ne hne _ _

theorem fill_entry (t : GattDyn) (rs : List GattRecord) (i : Nat) {k : Nat} {r : GattRecord}
    (hk : rs[k]? = some r) :
    (t.fill i rs).chrs (i + k) =
        some { uuid := i + k, arg := i + k, valHandle := i + k, flags := r.properties } ∧
      (t.fill i rs).chrUuid (i + k) = r.uuid ∧ (t.fill i rs).chrVal (i + k) = r.value := by
  induction rs generalizing i t k with
  | nil => simp at hk
  | cons r' rs ih =>
      cases k with
      | zero =>
          obtain rfl : r' = r := by simpa using hk
          obtain ⟨hchrs, huuid, hval⟩ :=
            fill_of_not_mem ((t.putUuid i r'.uuid).putChr i r'.properties r'.value) rs
              (i := i + 1) (j := i) (.inl (Nat.lt_succ_self i))
          refine ⟨hchrs.trans ?_, huuid.trans ?_, hval.trans ?_⟩
          · exact Function.update_self _ _ _
          · exact Function.update_self _ _ _
          · exact Function.update_self _ _ _
      | succ k =>
          have hk' : rs[k]? = some r := by simpa using hk
          have := ih ((t.putUuid i r'.uuid).putChr i r'.properties r'.value) (i + 1) hk'
          rw [Nat.add_right_comm] at this
          exact this

theorem fill_svcUuid (t : GattDyn) (rs : List GattRecord) (i : Nat) : (t.fill i rs).svcUuid = t.svcUuid := by
  induction rs generalizing i t with
  | nil => rfl
  | cons r rs ih => exact ih _ _

/-- Filled from the first entry on and ended behind the last, the tables list the descriptor. -/
theorem lists_fill (t : GattDyn) (d : GattDescriptor) :
    t.Lists d ((({ t with svcUuid := d.serviceUuid } : GattDyn).fill 0 d.records).putEnd
      d.records.length) := by
  refine ⟨fill_svcUuid _ _ _, fun i r hr => ?_, Function.update_self _ _ _, rfl, fun i hi => ?_⟩
  · have hi : i < d.records.length := (List.getElem?_eq_some_iff.mp hr).1
    obtain ⟨hchrs, huuid, hval⟩ := fill_entry { t with svcUuid := d.serviceUuid } d.records 0 hr
    rw [Nat.zero_add] at hchrs huuid hval
    exact ⟨(Function.update_of_ne (Nat.ne_of_lt hi) _ _).trans hchrs, huuid, hval⟩
  · obtain ⟨hchrs, huuid, hval⟩ := fill_of_not_mem { t with svcUuid := d.serviceUuid } d.records
      (i := 0) (j := i) (.inr (by omega))
    exact ⟨(Function.update_of_ne (Nat.ne_of_gt hi) _ _).trans hchrs, huuid, hval⟩

end GattDyn

/-- The first call is always made. -/
theorem gattsRun_head (nimble : GattsCall → Int) (c : GattsCall) (cs : List GattsCall) :
    (gattsRun nimble (c :: cs)).1.head? = some c := by
  rw [gattsRun]
  split_ifs <;> rfl

section

variable (nimble : GattsCall → Int) (assigned : Nat → UInt16) {t : GattDyn} (handlesCap : Nat)
  (d : GattDescriptor) (version : UInt8) {descLen : UInt16}

/-- The registration of a descriptor comes down to the walk over its records. -/
theorem run_nimbleGattRegister (ht : t.registered = false) (hlen : 18 ≤ descLen.toNat) :
    (nimbleGattRegister nimble assigned t true handlesCap descLen).run (byteAt (d.encode version)) =
      let walked := (nimbleGattWalk descLen.toNat d.records.length 0 18
        { t with svcUuid := d.serviceUuid }).run (byteAt (d.encode version))
      if walked.2 = false then { rc := -1, tables := walked.1 }
      else
        let t := walked.1.putEnd d.records.length
        let (calls, rc) := gattsRun nimble [.reset, .addDemoSvcs, .countDynCfg, .addDynSvcs, .start]
        if rc ≠ 0 then { rc := rc, calls := calls, tables := t }
        else
          { rc := 0
            calls := calls
            tables := { t with chrValHandle := assigned, registered := true }
            handles := (List.range (min handlesCap d.records.length)).map assigned } := by
  have hpos := d.records_pos
  have hle : d.records.length ≤ gattDynMaxChars := d.records_le
  unfold nimbleGattRegister
  rw [if_neg (by simp), if_neg (by simp [ht]), if_neg (by omega), run_bind, run_cell, d.byteAt_count,
    d.toNat_count, if_neg (by omega), run_bind, d.span_serviceUuid, run_bind]
  dsimp only
  split_ifs <;> rfl

/-- A descriptor whose values fit is put into the tables, and NimBLE is called. -/
theorem nimbleGattRegister_short (ht : t.registered = false)
    (hlen : descLen.toNat = (d.encode version).length)
    (hshort : ∀ r ∈ d.records, r.value.length ≤ gattDynChrValMax) :
    let out := (nimbleGattRegister nimble assigned t true handlesCap descLen).run
      (byteAt (d.encode version))
    out.calls.head? = some .reset ∧ t.Lists d out.tables := by
  have hdesc := d.length_encode version
  have hwalk : (nimbleGattWalk descLen.toNat d.records.length 0 18
      { t with svcUuid := d.serviceUuid }).run (byteAt (d.encode version)) =
        (({ t with svcUuid := d.serviceUuid } : GattDyn).fill 0 d.records, true) := by
    rw [d.encode_eq, ← d.length_header version]
    refine run_nimbleGattWalk_encode d.records hshort ?_ 0 _
    rw [d.length_header]
    omega
  have hlists := GattDyn.lists_fill t d
  have hhead := gattsRun_head nimble .reset [.addDemoSvcs, .countDynCfg, .addDynSvcs, .start]
  dsimp only
  rw [run_nimbleGattRegister nimble assigned handlesCap d version ht (by omega)]
  dsimp only
  rw [hwalk, if_neg (by simp)]
  split_ifs
  · exact ⟨hhead, hlists⟩
  · exact ⟨hhead, hlists.svcUuid, hlists.entry, hlists.terminator, hlists.svcs, hlists.rest⟩

/-- A value that is too long is refused before NimBLE is called. -/
theorem nimbleGattRegister_long (ht : t.registered = false) (descLen : UInt16)
    (hlong : ∃ r ∈ d.records, gattDynChrValMax < r.value.length) :
    let out := (nimbleGattRegister nimble assigned t true handlesCap descLen).run
      (byteAt (d.encode version))
    out.calls = [] ∧ out.rc = -1 := by
  have hwalk : ((nimbleGattWalk descLen.toNat d.records.length 0 18
      { t with svcUuid := d.serviceUuid }).run (byteAt (d.encode version))).2 = false := by
    rw [d.encode_eq, ← d.length_header version]
    exact run_nimbleGattWalk_long d.records hlong 0 _
  dsimp only
  by_cases hlen : 18 ≤ descLen.toNat
  · rw [run_nimbleGattRegister nimble assigned handlesCap d version ht hlen]
    dsimp only
    rw [if_pos hwalk]
    exact ⟨rfl, rfl⟩
  · have hrun : nimbleGattRegister nimble assigned t true handlesCap descLen =
        pure { rc := -1, tables := t } := by
      unfold nimbleGattRegister
      rw [if_neg (by simp), if_neg (by simp [ht]), if_pos (by omega)]
    rw [hrun, run_pure]
    exact ⟨rfl, rfl⟩

end

/-- A descriptor all of whose values fit into their storage is shorter than a 16-bit length can tell. -/
theorem GattDescriptor.length_encode_lt (d : GattDescriptor) (version : UInt8)
    (hshort : ∀ r ∈ d.records, r.value.length ≤ gattDynChrValMax) :
    (d.encode version).length < 2 ^ 16 := by
  have hflat : ∀ rs : List GattRecord, (∀ r ∈ rs, r.value.length ≤ gattDynChrValMax) →
      (rs.flatMap GattRecord.encode).length ≤ 83 * rs.length := by
    intro rs hrs
    induction rs with
    | nil => simp
    | cons r rs ih =>
        have hr := hrs r (List.mem_cons_self ..)
        have hrest := ih fun r' hr' => hrs r' (List.mem_cons_of_mem _ hr')
        unfold gattDynChrValMax at hr
        rw [length_flatMap_encode_cons, List.length_cons]
        omega
  have hle : d.records.length ≤ 8 := d.records_le
  have := hflat d.records hshort
  rw [d.length_encode]
  omega

/-- The two parsers accept one grammar and agree on its meaning.  The validator accepts a string exactly if
it is the encoding of a descriptor; neither parser reads past the string, whatever lies behind it; and with
the host enabled and nothing registered, the tables list the descriptor and NimBLE is called if every initial
value fits into its storage, and otherwise the registration fails without a NimBLE call. -/
theorem gatt_register_parsers_agree (E : Env η) (req : List UInt8) :
    (∀ n, bleGattRegisterValidate E req = some n ↔
      ∃ d : GattDescriptor, d.records.length = n ∧ req = d.encode E.hdr.bleGattRegisterVersion) ∧
    (fetchValidate E req.length).run (byteAt req) = bleGattRegisterValidate E req ∧
    (∀ m, Within req.length m (fetchValidate E req.length)) ∧
    (∀ nimble assigned t enabled handlesCap m, Within req.length m
      (nimbleGattRegister nimble assigned t enabled handlesCap (UInt16.ofNat req.length))) ∧
    ∀ d : GattDescriptor, req = d.encode E.hdr.bleGattRegisterVersion →
      ∀ nimble assigned t handlesCap, t.registered = false →
        let out := (nimbleGattRegister nimble assigned t true handlesCap (UInt16.ofNat req.length)).run
          (byteAt req)
        ((∀ r ∈ d.records, r.value.length ≤ gattDynChrValMax) →
          out.calls.head? = some .reset ∧ t.Lists d out.tables) ∧
        ((∃ r ∈ d.records, gattDynChrValMax < r.value.length) → out.calls = [] ∧ out.rc = -1) := by
  refine ⟨bleGattRegisterValidate_iff E req, run_fetchValidate E req,
    fun m => within_fetchValidate E m req.length, ?_, ?_⟩
  · intro nimble assigned t enabled handlesCap m i hi
    have hlt := within_nimbleGattRegister nimble assigned t enabled handlesCap _ m i hi
    have hle : (UInt16.ofNat req.length).toNat ≤ req.length := by
      rw [UInt16.toNat_ofNat']
      exact Nat.mod_le _ _
    exact hlt.trans_le hle
  · rintro d rfl nimble assigned t handlesCap ht
    refine ⟨fun hshort => ?_, fun hlong => ?_⟩
    · refine nimbleGattRegister_short nimble assigned handlesCap d _ ht ?_ hshort
      exact UInt16.toNat_ofNat_of_lt' (d.length_encode_lt _ hshort)
    · exact nimbleGattRegister_long nimble assigned handlesCap d _ ht _ hlong

/-- A service with two characteristics, of three bytes and without a value. -/
def gattDescriptorTwo : GattDescriptor where
  serviceUuid := List.replicate 16 0xA5
  records := [{
    uuid := List.replicate 16 0x5A
    properties := 2
    value := [7, 8, 9]
    uuid_length := rfl
    value_length := by decide }, {
    uuid := List.replicate 16 0x3C
    properties := 8
    value := []
    uuid_length := rfl
    value_length := by decide }]
  serviceUuid_length := rfl
  records_pos := by decide
  records_le := by decide

/-- It is accepted, and put into the tables. -/
theorem gatt_register_parsers_agree_two :
    bleGattRegisterValidate Env.reference (gattDescriptorTwo.encode 1) = some 2 ∧
      ({} : GattDyn).Lists gattDescriptorTwo ((nimbleGattRegister (fun _ => 0) (fun _ => 9) {} true 8
        (UInt16.ofNat (gattDescriptorTwo.encode 1).length)).run
          (byteAt (gattDescriptorTwo.encode 1))).tables := by
  obtain ⟨hiff, -, -, -, hagree⟩ :=
    gatt_register_parsers_agree Env.reference (gattDescriptorTwo.encode 1)
  refine ⟨(hiff 2).mpr ⟨gattDescriptorTwo, rfl, rfl⟩, ?_⟩
  refine ((hagree gattDescriptorTwo rfl (fun _ => 0) (fun _ => 9) {} 8 rfl).1 ?_).2
  decide

end Cc3501eBridge
