import Cc3501eBridge.Lib.FirstSeen
import Cc3501eBridge.ReplyData

/-!
# The BLE scan

A discovery runs for a fixed window.  Every report in it is folded by the GAP callback into a cache
of at most 24 advertisers, and at the end of the window the cache is copied out and packed for the
host.  An advertiser may report many times, with and without its name.

The cache is keyed by the six bytes of the address.  What it holds is `listing`, the reports grouped
by first appearance (`FirstSeen`) with each group summed up by `Advertiser.ofReports`;
`ScanCache.Holds` relates the two after any reports.  The type of an address is not part of the key:
a public and a random address with the same bytes share a record.
-/

namespace Cc3501eBridge

open FirstSeen

/-- `CC3501E_BLE_SCAN_CACHE_MAX`. -/
def bleScanCacheMax : Nat := 24

/-- The records `cc3501e_hw_ble_scan` makes room for. -/
def bleScanRecs : Nat := 24

/-! ## The callback -/

/-- A `BLE_GAP_EVENT_DISC` report. -/
structure DiscReport where
  addr : Vector UInt8 6
  addrType : UInt8
  rssi : Int8
  data : List UInt8
  deriving DecidableEq

/-- The name fields of `struct ble_hs_adv_fields`; `none` is a null pointer. -/
structure AdvFields where
  name : Option Buf
  nameLen : UInt8

/-- An event of the GAP callback. -/
inductive GapScanEvent where
  | disc (r : DiscReport)
  | discComplete
  | other

/-- The report an event brings. -/
def GapScanEvent.report? : GapScanEvent → Option DiscReport
  | .disc r => some r
  | _ => none

/-- `s_scan_cache` and `s_scan_count`: the entries from `count` on are left over from earlier scans. -/
structure ScanCache where
  entry : Nat → NimbleScanRec
  count : Nat

/-- Store one entry. -/
def ScanCache.set (c : ScanCache) (i : Nat) (e : NimbleScanRec) : ScanCache :=
  { c with entry := fun j => if j = i then e else c.entry j }

/-- `cc3501e_scan_cache_find`. -/
def scanCacheFind (c : ScanCache) (addr : Vector UInt8 6) : Option Nat :=
  (List.range c.count).find? fun i => fixBytes 6 (c.entry i).addr = addr.toList

/-- A new entry for the advertiser of `r`, over what the slot held before. -/
def NimbleScanRec.fresh (e : NimbleScanRec) (r : DiscReport) : NimbleScanRec :=
  { e with addr := r.addr.toList, addrType := r.addrType, nameLen := 0, name := e.name.set 0 0 }

section

/- `ble_hs_adv_parse_fields`, `none` if it fails. -/
variable (parse : List UInt8 → Option AdvFields)

/-- One report into the entry of its advertiser: the latest RSSI, and the name unless there is one
already. -/
def NimbleScanRec.report (e : NimbleScanRec) (r : DiscReport) : NimbleScanRec :=
  let e := { e with rssi := r.rssi }
  if e.nameLen = 0 then
    match parse r.data with
    | some ⟨some name, nameLen⟩ =>
        if nameLen > 0 then
          let n := if nameLen > 31 then 31 else nameLen
          { e with name := (e.name.write 0 (name.read 0 n.toNat)).set n.toNat 0, nameLen := n }
        else e
    | _ => e
  else e

/-- `cc3501e_scan_gap_event_cb`. -/
def scanGapEventCb (c : ScanCache) : GapScanEvent → ScanCache
  | .disc r =>
      match scanCacheFind c r.addr with
      | some i => c.set i ((c.entry i).report parse r)
      | none =>
          if c.count ≥ bleScanCacheMax then c
          else
            let c' := { c with count := c.count + 1 }
            c'.set c.count (((c.entry c.count).fresh r).report parse r)
  | .discComplete => c
  | .other => c

/-- What a scan meets: the host up or not, the returns of `cc3501e_ensure_syncs` and `ble_gap_disc`,
and the events delivered between `ble_gap_disc` and the copy-out. -/
structure ScanWorld where
  hostEnabled : Bool
  hsEnabled : Bool
  syncs : Int
  disc : Int
  events : List GapScanEvent

/-- `cc3501e_nimble_scan`: its return, the records copied out and the cache it leaves. -/
def nimbleScan (w : ScanWorld) (c : ScanCache) (cap : Nat) : Int × List NimbleScanRec × ScanCache :=
  if w.hsEnabled = false then (-1, [], c)
  else
    let c := { c with count := 0 }
    if w.syncs ≠ 0 then (-1, [], c)
    else if w.disc ≠ 0 then (w.disc, [], c)
    else
      let c := w.events.foldl (scanGapEventCb parse) c
      (0, (List.range (min c.count cap)).map c.entry, c)

/-- `cc3501e_hw_ble_scan` over the discovery it runs. -/
def bleScan (w : ScanWorld) (c : ScanCache) (cap : Nat) : HalRet :=
  let (rc, recs, _) := nimbleScan parse w c bleScanRecs
  hwBleScan w.hostEnabled rc recs cap

/-! ## What a scan is to list -/

/-- An advertiser as the host sees it. -/
structure Advertiser where
  addr : List UInt8
  addrType : UInt8
  rssi : Int8
  name : List UInt8
  deriving DecidableEq, Repr

/-- The name a report carries, if it parses and has one that is not empty. -/
def DiscReport.name (r : DiscReport) : Option (List UInt8) :=
  match parse r.data with
  | some ⟨some name, nameLen⟩ => if nameLen = 0 then none else some (name.read 0 nameLen.toNat)
  | _ => none

/-- The reports of one advertiser summed up: the type of the first, the RSSI of the last, and the
first name among them. -/
def Advertiser.ofReports : List DiscReport → Option Advertiser
  | [] => none
  | r :: rs =>
      some
        { addr := r.addr.toList
          addrType := r.addrType
          rssi := ((r :: rs).getLast (by simp)).rssi
          name := (((r :: rs).findSome? (·.name parse)).getD []).take 31 }

/-- The advertisers of a scan that takes two reports with the same `key` for one advertiser. -/
def listing {κ : Type} [DecidableEq κ] (key : DiscReport → κ) (rs : List DiscReport) :
    List Advertiser :=
  (keys key bleScanCacheMax rs).filterMap fun k => Advertiser.ofReports parse (group key rs k)

end

/-- Six bytes are copied whole. -/
theorem fixBytes_toList (k : Vector UInt8 6) : fixBytes 6 k.toList = k.toList := by
  apply List.ext_getElem
  · simp
  · intro j h1 h2
    rw [Vector.length_toList] at h2
    simp [fixBytes, byteAt, h2]

/-- An advertiser on the wire. -/
def Advertiser.wire (a : Advertiser) : List UInt8 :=
  a.addr ++ [a.addrType, a.rssi.toUInt8, UInt8.ofNat a.name.length] ++ a.name

/-- The host's reading of a scan reply; every record takes up at least one step. -/
def decodeScan : Nat → List UInt8 → List Advertiser
  | 0, _ => []
  | fuel + 1, bs =>
      if bs.length < 9 then []
      else
        let nameLen := (byteAt bs 8).toNat
        { addr := bs.take 6, addrType := byteAt bs 6, rssi := (byteAt bs 7).toInt8
          name := (bs.drop 9).take nameLen } :: decodeScan fuel (bs.drop (9 + nameLen))

/-! ## The cache holds the listing -/

namespace NimbleScanRec

/-- What an entry says of its advertiser. -/
def advertiser (e : NimbleScanRec) : Advertiser where
  addr := e.addr
  addrType := e.addrType
  rssi := e.rssi
  name := e.name.read 0 e.nameLen.toNat

end NimbleScanRec

section

variable {parse : List UInt8 → Option AdvFields}

/-- One report more of an advertiser. -/
def Advertiser.add (parse : List UInt8 → Option AdvFields) (a : Advertiser) (r : DiscReport) :
    Advertiser :=
  { a with
    rssi := r.rssi
    name := if a.name = [] then ((r.name parse).getD []).take 31 else a.name }

/-- A name that is carried is not empty. -/
theorem DiscReport.name_ne_nil {r : DiscReport} {xs : List UInt8} (h : r.name parse = some xs) :
    xs ≠ [] := by
  unfold DiscReport.name at h
  split at h
  · rename_i name nameLen _
    split_ifs at h with hlen
    rintro rfl
    have hnil : (name.read 0 nameLen.toNat).length = 0 := by rw [Option.some.inj h, List.length_nil]
    rw [Buf.length_read] at hnil
    exact hlen (UInt8.toNat_inj.mp hnil)
  · cases h

/-- The first report of an advertiser. -/
theorem Advertiser.ofReports_singleton (r : DiscReport) (rssi : Int8) :
    Advertiser.ofReports parse [r] =
      some (Advertiser.add parse ⟨r.addr.toList, r.addrType, rssi, []⟩ r) := by
  simp [Advertiser.ofReports, Advertiser.add, List.findSome?]
  cases r.name parse <;> rfl

/-- A further report of an advertiser. -/
theorem Advertiser.ofReports_concat {g : List DiscReport} {a : Advertiser} {r : DiscReport}
    (h : Advertiser.ofReports parse g = some a) :
    Advertiser.ofReports parse (g ++ [r]) = some (a.add parse r) := by
  cases g with
  | nil => cases h
  | cons first rest =>
      obtain rfl := Option.some.inj h
      have hlast : (first :: (rest ++ [r])).getLast (by simp) = r := by
        rw [List.getLast_cons (by simp), List.getLast_append_singleton]
      have hname : (((first :: (rest ++ [r])).findSome? (·.name parse)).getD []).take 31 =
          if (((first :: rest).findSome? (·.name parse)).getD []).take 31 = [] then
            ((r.name parse).getD []).take 31
          else (((first :: rest).findSome? (·.name parse)).getD []).take 31 := by
        rw [← List.cons_append, List.findSome?_append]
        cases hf : (first :: rest).findSome? (·.name parse) with
        | none => simp [List.findSome?]; cases r.name parse <;> rfl
        | some xs =>
            obtain ⟨q, -, hq⟩ := List.exists_of_findSome?_eq_some hf
            have hne : xs ≠ [] := DiscReport.name_ne_nil hq
            simp [hne]
      rw [List.cons_append]
      simp only [Advertiser.ofReports, Advertiser.add, hlast, hname]

/-- The beginning of a range. -/
theorem Buf.read_take (b : Buf) (off n m : Nat) :
    (b.read off n).take m = b.read off (min m n) := by
  rw [Buf.read, ← List.map_take, List.take_range]
  rfl

/-- The length of a name, clamped to the room there is for it. -/
theorem clamped_nameLen (len : UInt8) :
    (if len > 31 then (31 : UInt8) else len).toNat = min 31 len.toNat := by
  split_ifs with h
  · exact (Nat.min_eq_left (UInt8.lt_iff_toNat_lt.mp h).le).symm
  · exact (Nat.min_eq_right (Nat.le_of_not_lt fun h' => h (UInt8.lt_iff_toNat_lt.mpr h'))).symm

/-- A name is stored up to the 31 bytes there is room for. -/
theorem read_stored_name (b name : Buf) (len : UInt8) :
    let n := if len > 31 then 31 else len
    ((b.write 0 (name.read 0 n.toNat)).set n.toNat 0).read 0 n.toNat =
      (name.read 0 len.toNat).take 31 := by
  intro n
  have hlen : (name.read 0 n.toNat).length = n.toNat := Buf.length_read
  have hn : n.toNat = min 31 len.toNat := clamped_nameLen len
  have hread : (b.write 0 (name.read 0 n.toNat)).read 0 n.toNat = name.read 0 n.toNat := by
    have h := @Buf.read_write b 0 (name.read 0 n.toNat)
    rwa [hlen] at h
  rw [Buf.read_set_of_ge _ _ (by omega), hread, hn, Buf.read_take]

/-- What the callback does to an entry is what a report adds to an advertiser. -/
theorem NimbleScanRec.report_advertiser (e : NimbleScanRec) (r : DiscReport) :
    (e.report parse r).advertiser = e.advertiser.add parse r := by
  have hnil : e.advertiser.name = [] ↔ e.nameLen = 0 := by
    rw [← List.length_eq_zero_iff, NimbleScanRec.advertiser, Buf.length_read, ← UInt8.toNat_inj]
    rfl
  by_cases hlen : e.nameLen = 0
  · have hname := hnil.mpr hlen
    simp only [NimbleScanRec.report, hlen, Advertiser.add, hname, if_true, DiscReport.name]
    rcases parse r.data with _ | ⟨_ | name, nameLen⟩
    · simp [NimbleScanRec.advertiser, hlen]
    · simp [NimbleScanRec.advertiser, hlen]
    · by_cases hz : nameLen = 0
      · simp [NimbleScanRec.advertiser, hlen, hz]
      · have hpos : nameLen > 0 := UInt8.pos_iff_ne_zero.mpr hz
        simp only [hpos, hz, if_true, if_false, Option.getD_some]
        rw [← read_stored_name e.name]
        rfl
  · have hne : e.advertiser.name ≠ [] := fun h => hlen (hnil.mp h)
    simp only [NimbleScanRec.report, hlen, Advertiser.add, hne, if_false]
    rfl

/-- A report leaves the address alone, and no more than 31 bytes of name. -/
theorem NimbleScanRec.report_nameLen {e : NimbleScanRec} (r : DiscReport)
    (h : e.nameLen.toNat ≤ 31) : (e.report parse r).nameLen.toNat ≤ 31 := by
  simp only [NimbleScanRec.report]
  split
  · split
    · split
      · rw [clamped_nameLen]
        exact Nat.min_le_left _ _
      · exact h
    · exact h
  · exact h

theorem NimbleScanRec.report_addr (e : NimbleScanRec) (r : DiscReport) :
    (e.report parse r).addr = e.addr := congrArg Advertiser.addr (e.report_advertiser r)

/-- The entry `e` sums up the reports `g` of the advertiser at `k`. -/
structure NimbleScanRec.Sums (parse : List UInt8 → Option AdvFields) (e : NimbleScanRec)
    (k : Vector UInt8 6) (g : List DiscReport) : Prop where
  addr : e.addr = k.toList
  nameLen : e.nameLen.toNat ≤ 31
  advertiser : Advertiser.ofReports parse g = some e.advertiser

/-- One report more into the entry of its advertiser. -/
theorem NimbleScanRec.Sums.report {e : NimbleScanRec} {k : Vector UInt8 6} {g : List DiscReport}
    (h : e.Sums parse k g) (r : DiscReport) : (e.report parse r).Sums parse k (g ++ [r]) where
  addr := (e.report_addr r).trans h.addr
  nameLen := report_nameLen r h.nameLen
  advertiser := by rw [Advertiser.ofReports_concat h.advertiser, report_advertiser]

/-- A new entry, whatever the slot held. -/
theorem NimbleScanRec.sums_fresh (e : NimbleScanRec) (r : DiscReport) :
    ((e.fresh r).report parse r).Sums parse r.addr [r] where
  addr := report_addr _ _
  nameLen := report_nameLen r (Nat.zero_le 31)
  advertiser := by
    rw [report_advertiser, Advertiser.ofReports_singleton r e.rssi]
    rfl

/-- After the reports `rs` the cache has an entry for each of the first 24 addresses, in order, and
each sums up what came from there. -/
structure ScanCache.Holds (parse : List UInt8 → Option AdvFields) (c : ScanCache)
    (rs : List DiscReport) : Prop where
  count : c.count = (keys DiscReport.addr bleScanCacheMax rs).length
  entry : ∀ i k, (keys DiscReport.addr bleScanCacheMax rs)[i]? = some k →
    (c.entry i).Sums parse k (group DiscReport.addr rs k)

namespace ScanCache.Holds

variable {c : ScanCache} {rs : List DiscReport}

theorem empty (entry : Nat → NimbleScanRec) : Holds parse ⟨entry, 0⟩ [] where
  count := by simp
  entry := by simp

/-- An entry in use has the address of its row. -/
theorem addr_eq (h : c.Holds parse rs) {i : Nat} {k : Vector UInt8 6}
    (hk : (keys DiscReport.addr bleScanCacheMax rs)[i]? = some k) :
    fixBytes 6 (c.entry i).addr = k.toList := by
  rw [(h.entry i k hk).addr, fixBytes_toList]

/-- An address that is found has the row at that position. -/
theorem find_some (h : c.Holds parse rs) {addr : Vector UInt8 6} {i : Nat}
    (hf : scanCacheFind c addr = some i) :
    (keys DiscReport.addr bleScanCacheMax rs)[i]? = some addr := by
  have hi : i < (keys DiscReport.addr bleScanCacheMax rs).length := by
    rw [← h.count]
    exact List.mem_range.mp (List.mem_of_find?_eq_some hf)
  have hk := List.getElem?_eq_getElem hi
  have haddr := List.find?_some hf
  rw [decide_eq_true_eq, h.addr_eq hk, Vector.toList_inj] at haddr
  rw [hk, haddr]

/-- An address that is not found has no row. -/
theorem find_none (h : c.Holds parse rs) {addr : Vector UInt8 6} (hf : scanCacheFind c addr = none) :
    addr ∉ keys DiscReport.addr bleScanCacheMax rs := by
  intro hmem
  obtain ⟨i, hi, hk⟩ := List.mem_iff_getElem.mp hmem
  have hget := (List.getElem?_eq_getElem hi).trans (congrArg some hk)
  have hno := List.find?_eq_none.mp hf i (List.mem_range.mpr (by rw [h.count]; exact hi))
  exact hno (by simpa using h.addr_eq hget)

/-- One report more. -/
theorem disc (h : c.Holds parse rs) (r : DiscReport) :
    (scanGapEventCb parse c (.disc r)).Holds parse (rs ++ [r]) := by
  unfold scanGapEventCb
  simp only
  split
  · -- the advertiser has an entry
    rename_i i hf
    have hi := h.find_some hf
    have hkeys := keys_concat_of_mem (List.mem_of_getElem? hi)
    constructor
    · rw [hkeys]
      exact h.count
    · intro j k hk
      rw [hkeys] at hk
      by_cases hji : j = i
      · subst hji
        obtain rfl := Option.some.inj (hi.symm.trans hk)
        simp only [ScanCache.set, if_true]
        rw [group_concat_self]
        exact (h.entry j _ hk).report r
      · have hne : r.addr ≠ k := by
          rintro rfl
          exact hji ((List.getElem?_inj (List.getElem?_eq_some_iff.mp hk).1 nodup_keys).mp
            (hk.trans hi.symm))
        simp only [ScanCache.set, if_neg hji]
        rw [group_concat_of_ne hne]
        exact h.entry j k hk
  · rename_i hf
    have hnew := h.find_none hf
    split_ifs with hfull
    · -- the cache is full
      have hkeys : keys DiscReport.addr bleScanCacheMax (rs ++ [r]) = _ :=
        keys_concat_of_full (by rw [← h.count]; exact hfull)
      constructor
      · rw [hkeys]
        exact h.count
      · intro j k hk
        rw [hkeys] at hk
        have hne : r.addr ≠ k := by
          rintro rfl
          exact hnew (List.mem_of_getElem? hk)
        rw [group_concat_of_ne hne]
        exact h.entry j k hk
    · obtain ⟨hkeys, hgroup⟩ := keys_concat_of_new (by rw [← h.count]; omega) hnew
      constructor
      · rw [hkeys, List.length_append, ← h.count]
        rfl
      · intro j k hk
        rw [hkeys, List.getElem?_append] at hk
        simp only [ScanCache.set]
        split_ifs at hk with hj
        · have hne : r.addr ≠ k := by
            rintro rfl
            exact hnew (List.mem_of_getElem? hk)
          rw [if_neg (by rw [h.count]; omega), group_concat_of_ne hne]
          exact h.entry j k hk
        · have hjc : j = c.count := by
            have := (List.getElem?_eq_some_iff.mp hk).1
            rw [List.length_singleton, ← h.count] at this
            rw [← h.count] at hj
            omega
          subst hjc
          rw [← h.count, Nat.sub_self] at hk
          obtain rfl := Option.some.inj hk
          rw [if_pos rfl, group_concat_self, hgroup]
          exact NimbleScanRec.sums_fresh _ r

/-- After a whole window. -/
theorem events (h : c.Holds parse rs) (es : List GapScanEvent) :
    (es.foldl (scanGapEventCb parse) c).Holds parse (rs ++ es.filterMap GapScanEvent.report?) := by
  induction es generalizing c rs with
  | nil => simpa using h
  | cons e es ih =>
      rw [List.foldl_cons]
      cases e with
      | disc r =>
          have := ih (h.disc r)
          simpa [GapScanEvent.report?] using this
      | discComplete => exact ih h
      | other => exact ih h

/-- The entries, read as advertisers, are the listing. -/
theorem listing_eq (h : c.Holds parse rs) :
    listing parse DiscReport.addr rs = (List.range c.count).map fun i => (c.entry i).advertiser := by
  have hrows : (keys DiscReport.addr bleScanCacheMax rs).map
      (fun k => Advertiser.ofReports parse (group DiscReport.addr rs k)) =
      (List.range c.count).map fun i => some (c.entry i).advertiser := by
    apply List.ext_getElem
    · simp [h.count]
    · intro i h1 h2
      rw [List.length_map] at h1
      simpa using (h.entry i _ (List.getElem?_eq_getElem h1)).advertiser
  calc listing parse DiscReport.addr rs
      = ((keys DiscReport.addr bleScanCacheMax rs).map
          fun k => Advertiser.ofReports parse (group DiscReport.addr rs k)).filterMap id := by
        rw [List.filterMap_map]
        rfl
    _ = ((List.range c.count).map fun i => some (c.entry i).advertiser).filterMap id := by rw [hrows]
    _ = _ := by
        rw [List.filterMap_map]
        exact congrFun List.filterMap_eq_map' _

end ScanCache.Holds

/-! ## What is packed -/

/-- An entry in use goes out as its advertiser. -/
theorem NimbleScanRec.Sums.record {e : NimbleScanRec} {k : Vector UInt8 6} {g : List DiscReport}
    (h : e.Sums parse k g) : e.record = e.advertiser.wire := by
  have haddr : fixBytes 6 e.addr = e.addr := by rw [h.addr, fixBytes_toList]
  have hclamp : e.wireNameLen = e.nameLen := by
    rw [← UInt8.toNat_inj, NimbleScanRec.wireNameLen, clamped_nameLen]
    exact Nat.min_eq_right h.nameLen
  rw [NimbleScanRec.record, haddr, hclamp]
  simp [Advertiser.wire, NimbleScanRec.advertiser]

/-- The packing loop keeps whole records, as many as fit. -/
theorem packScan_prefix (cap : Nat) (recs : List (List UInt8)) (off : Nat) (hoff : off ≤ cap) :
    ∃ n ≤ recs.length, packScan cap off recs = (recs.take n).flatten ∧
      off + (recs.take n).flatten.length ≤ cap ∧
      (n < recs.length → cap < off + (recs.take (n + 1)).flatten.length) := by
  induction recs generalizing off with
  | nil => exact ⟨0, Nat.le_refl 0, rfl, hoff, fun h => absurd h (Nat.not_lt_zero 0)⟩
  | cons rec rest ih =>
      rw [packScan]
      split_ifs with hfit
      · refine ⟨0, Nat.zero_le _, rfl, hoff, fun _ => ?_⟩
        simpa using hfit
      · obtain ⟨n, hn, hpack, hlen, hnext⟩ := ih (off + rec.length) (by omega)
        refine ⟨n + 1, by simpa using hn, ?_, ?_, ?_⟩
        · rw [hpack, List.take_succ_cons, List.flatten_cons]
        · rw [List.take_succ_cons, List.flatten_cons, List.length_append]
          omega
        · intro hlt
          have hlast := hnext (by simpa using hlt)
          rw [List.take_succ_cons, List.flatten_cons, List.length_append]
          omega

/-! ## What the host reads -/

/-- A six-byte address, and a name whose length fits the byte that says it. -/
structure Advertiser.Fits (a : Advertiser) : Prop where
  addr : a.addr.length = 6
  name : a.name.length < 256

theorem NimbleScanRec.Sums.fits {e : NimbleScanRec} {k : Vector UInt8 6} {g : List DiscReport}
    (h : e.Sums parse k g) : e.advertiser.Fits where
  addr := by
    change e.addr.length = 6
    rw [h.addr, Vector.length_toList]
  name := by
    change (e.name.read 0 e.nameLen.toNat).length < 256
    rw [Buf.length_read]
    exact e.nameLen.toNat_lt

/-- The first record is read back, and the rest after it. -/
theorem decodeScan_wire {a : Advertiser} (ha : a.Fits) (fuel : Nat) (rest : List UInt8) :
    decodeScan (fuel + 1) (a.wire ++ rest) = a :: decodeScan fuel rest := by
  have hlen : a.wire.length = 9 + a.name.length := by
    simp [Advertiser.wire, ha.addr]
    omega
  have h6 : byteAt (a.wire ++ rest) 6 = a.addrType := by
    simp [byteAt, Advertiser.wire, ha.addr]
  have h7 : byteAt (a.wire ++ rest) 7 = a.rssi.toUInt8 := by
    simp [byteAt, Advertiser.wire, List.getElem?_append, ha.addr]
  have h8 : (byteAt (a.wire ++ rest) 8).toNat = a.name.length := by
    have hbyte : byteAt (a.wire ++ rest) 8 = UInt8.ofNat a.name.length := by
      simp [byteAt, Advertiser.wire, List.getElem?_append, ha.addr]
    rw [hbyte]
    exact UInt8.toNat_ofNat_of_lt ha.name
  rw [decodeScan, if_neg (by rw [List.length_append]; omega)]
  simp only [h8, h7, h6]
  congr 1
  · have haddr : (a.wire ++ rest).take 6 = a.addr := by
      simp [Advertiser.wire, ← ha.addr]
    have hname : ((a.wire ++ rest).drop 9).take a.name.length = a.name := by
      have hsplit : a.wire ++ rest = (a.addr ++ [a.addrType, a.rssi.toUInt8,
          UInt8.ofNat a.name.length]) ++ (a.name ++ rest) := by simp [Advertiser.wire]
      rw [hsplit, List.drop_left' (by simp [ha.addr]), List.take_left]
    rw [haddr, hname, Int8.toInt8_toUInt8]
  · rw [← hlen, List.drop_left]

/-- A reply is read back to the advertisers it was made of. -/
theorem decodeScan_flatten {as : List Advertiser} (has : ∀ a ∈ as, a.Fits) {fuel : Nat}
    (hfuel : as.length ≤ fuel) : decodeScan fuel (as.map Advertiser.wire).flatten = as := by
  induction as generalizing fuel with
  | nil => cases fuel <;> rfl
  | cons a as ih =>
      cases fuel with
      | zero => simp at hfuel
      | succ fuel =>
          rw [List.map_cons, List.flatten_cons, decodeScan_wire (has a (by simp))]
          rw [ih (fun b hb => has b (by simp [hb])) (by simpa using hfuel)]

/-- A reply has at least as many bytes as records. -/
theorem length_le_flatten_wire (as : List Advertiser) :
    as.length ≤ (as.map Advertiser.wire).flatten.length := by
  induction as with
  | nil => simp
  | cons a as ih =>
      simp only [List.map_cons, List.flatten_cons, List.length_append, List.length_cons]
      simp only [Advertiser.wire, List.length_append, List.length_cons]
      omega

/-- A discovery that succeeds copies out a cache that holds the reports made to it. -/
theorem nimbleScan_ok {w : ScanWorld} {c : ScanCache} (hok : (nimbleScan parse w c bleScanRecs).1 = 0) :
    ∃ c' : ScanCache, c'.Holds parse (w.events.filterMap GapScanEvent.report?) ∧
      (nimbleScan parse w c bleScanRecs).2.1 = (List.range c'.count).map c'.entry := by
  unfold nimbleScan at hok ⊢
  simp only at hok ⊢
  split_ifs at hok ⊢ with hen hsync hdisc
  · exact absurd (show (-1 : Int) = 0 from hok) (by decide)
  · exact absurd (show (-1 : Int) = 0 from hok) (by decide)
  · exact absurd hok hdisc
  · have hempty : ScanCache.Holds parse ⟨c.entry, 0⟩ [] := .empty c.entry
    have hholds := hempty.events w.events
    rw [List.nil_append] at hholds
    refine ⟨_, hholds, ?_⟩
    rw [Nat.min_eq_left]
    rw [hholds.count]
    exact length_keys_le

/-- A scan that succeeds packs the listing of what was reported. -/
theorem bleScan_ok {w : ScanWorld} {c : ScanCache} {cap : Nat}
    (hok : (bleScan parse w c cap).rv = hwOk) :
    (bleScan parse w c cap).data = packScan cap 0
      ((listing parse DiscReport.addr (w.events.filterMap GapScanEvent.report?)).map Advertiser.wire) ∧
    ∀ a ∈ listing parse DiscReport.addr (w.events.filterMap GapScanEvent.report?), a.Fits := by
  have hrun : bleScan parse w c cap = hwBleScan w.hostEnabled (nimbleScan parse w c bleScanRecs).1
      (nimbleScan parse w c bleScanRecs).2.1 cap := rfl
  rw [hrun] at hok ⊢
  unfold hwBleScan at hok ⊢
  split_ifs at hok ⊢ with hhost hrc
  · exact absurd hok (by decide)
  · exact absurd hok (by decide)
  obtain ⟨c', hholds, hrecs⟩ := nimbleScan_ok (not_not.mp hrc)
  have hsums : ∀ i ∈ List.range c'.count, ∃ k g, (c'.entry i).Sums parse k g := by
    intro i hi
    rw [List.mem_range, hholds.count] at hi
    exact ⟨_, _, hholds.entry i _ (List.getElem?_eq_getElem hi)⟩
  rw [hrecs, hholds.listing_eq, List.map_map, List.map_map]
  constructor
  · apply congrArg (packScan cap 0)
    apply List.map_congr_left
    intro i hi
    obtain ⟨k, g, h⟩ := hsums i hi
    exact h.record
  · intro a ha
    obtain ⟨i, hi, rfl⟩ := List.mem_map.mp ha
    obtain ⟨k, g, h⟩ := hsums i hi
    exact h.fits

/-- A scan lists each address once: decoded, the reply is the listing of the reports by address if
all of it fits, and in any case the bytes are the longest prefix of whole records that does. -/
theorem bleScan_lists (w : ScanWorld) (c : ScanCache) (cap : Nat)
    (hok : (bleScan parse w c cap).rv = hwOk) :
    let reports := w.events.filterMap GapScanEvent.report?
    let advertisers := listing parse DiscReport.addr reports
    let data := (bleScan parse w c cap).data
    ((advertisers.map Advertiser.wire).flatten.length ≤ cap →
        decodeScan data.length data = advertisers) ∧
      ∃ n ≤ advertisers.length, data = ((advertisers.take n).map Advertiser.wire).flatten ∧
        data.length ≤ cap ∧
        (n < advertisers.length →
          cap < ((advertisers.take (n + 1)).map Advertiser.wire).flatten.length) := by
  intro reports advertisers data
  obtain ⟨hdata, hfits⟩ := bleScan_ok hok
  obtain ⟨n, hn, hpack, hlen, hnext⟩ :=
    packScan_prefix cap (advertisers.map Advertiser.wire) 0 (Nat.zero_le cap)
  rw [List.length_map] at hn hnext
  rw [← List.map_take, Nat.zero_add] at hlen hnext
  rw [← List.map_take] at hpack
  have hpre : data = ((advertisers.take n).map Advertiser.wire).flatten := hdata.trans hpack
  refine ⟨fun hcap => ?_, n, hn, hpre, ?_, hnext⟩
  · have hall : advertisers.take n = advertisers := by
      apply List.take_of_length_le
      by_contra hlt
      have hnot := hnext (Nat.lt_of_not_le hlt)
      have hsplit : (advertisers.map Advertiser.wire).flatten =
          ((advertisers.take (n + 1)).map Advertiser.wire).flatten ++
            ((advertisers.drop (n + 1)).map Advertiser.wire).flatten := by
        rw [← List.flatten_append, ← List.map_append, List.take_append_drop]
      rw [hsplit, List.length_append] at hcap
      omega
    rw [hall] at hpre
    rw [hpre]
    exact decodeScan_flatten hfits (length_le_flatten_wire _)
  · rw [hpre]
    exact hlen

end

section

/-- A public and a random address with the same bytes. -/
def sameBytes : ScanWorld where
  hostEnabled := true
  hsEnabled := true
  syncs := 0
  disc := 0
  events :=
    [.disc ⟨#v[1, 2, 3, 4, 5, 6], 0, -40, []⟩, .disc ⟨#v[1, 2, 3, 4, 5, 6], 1, -70, []⟩]

/-- A scan does not list an advertiser for each pair of an address and its type. -/
theorem bleScan_merges_types :
    ¬ ∀ (parse : List UInt8 → Option AdvFields) (w : ScanWorld) (c : ScanCache) (cap : Nat),
      (bleScan parse w c cap).rv = hwOk →
      let advertisers := listing parse (fun r => (r.addr, r.addrType))
        (w.events.filterMap GapScanEvent.report?)
      let data := (bleScan parse w c cap).data
      (advertisers.map Advertiser.wire).flatten.length ≤ cap →
        decodeScan data.length data = advertisers := by
  intro h
  have hrun := h (fun _ => none) sameBytes ⟨fun _ => ⟨[], 0, 0, 0, Buf.zero⟩, 0⟩ 64 (by decide) (by decide)
  exact absurd hrun (by decide)

/-- The scan of both reports with room for one record. -/
theorem bleScan_lists_sameBytes :
    let scan := bleScan (fun _ => none) sameBytes ⟨fun _ => ⟨[], 0, 0, 0, Buf.zero⟩, 0⟩ 9
    scan.rv = hwOk ∧ decodeScan scan.data.length scan.data =
      listing (fun _ => none) DiscReport.addr (sameBytes.events.filterMap GapScanEvent.report?) := by
  intro scan
  have hok : scan.rv = hwOk := by decide
  exact ⟨hok, (bleScan_lists sameBytes _ 9 hok).1 (by decide +kernel)⟩

end

end Cc3501eBridge
