import Sloane.WifiHal.VendorData

/-!
# Hotlist and significant change events

Model of `BssidHotlistCommand::handleEvent` and `SignificantWifiChangeCommand::handleEvent`
(`gscan.cpp`).  Both count the records that the whole payload could hold, and read that many behind
the header of the nested attribute.  `sizeof(wifi_scan_result)` is a parameter.

* `hotlist_inBounds`, `change_inBounds` — what is read of a payload.
* `hotlist_reported`, `change_reported` — what is reported then.
* `apEvents_reported_iff` — when exactly the records are reported, and only the payload is read.
-/

namespace Sloane.WifiHal

open Sloane.Lib

/-! ## The handlers -/

def BssidHotlistCommand.MAX_RESULTS : Nat := 64
def SignificantWifiChangeCommand.MAX_RESULTS : Nat := 64

/-- A call of `on_hotlist_ap_found` or `on_hotlist_ap_lost`, with the `num` records of `mResults`
as bytes. -/
structure HotlistCall where
  id : Int
  found : Bool
  num : Nat
  results : List (List UInt8)
  deriving DecidableEq, Repr

/-- The records of an array, each of `size` bytes. -/
def recordsOf (size num : Nat) (bytes : List UInt8) : List (List UInt8) :=
  (List.range num).map fun i => (bytes.drop (i * size)).take size

/-- The handler that is called, with whether it is the one for APs that were found. -/
def hotlistHandler (onFound onLost : Bool) (eventId : Int) : Option Bool :=
  if eventId = VendorEvent.hotlistResultsFound.subcmd then
    if onFound then some true else none
  else if eventId = VendorEvent.hotlistResultsLost.subcmd then
    if onLost then some false else none
  else none

/-- `mResults`, cleared and, if the attribute is of the type, filled with `num` records. -/
def copyHotlist (size num : Nat) (type : Int) : Reads UInt8 (List UInt8) :=
  if type = VendorEvent.hotlistResultsLost.subcmd ∨
      type = VendorEvent.hotlistResultsFound.subcmd then
    Reads.range (nlaData 0) (num * size)
  else pure (List.replicate (num * size) 0)

/-- `BssidHotlistCommand::handleEvent`; `size` is `sizeof(wifi_scan_result)`. -/
def BssidHotlistCommand.handleEvent (size : Nat) (id : Int) (onFound onLost : Bool)
    (event : WifiEvent) : Reads UInt8 (Option HotlistCall) :=
  match event.vendorData with
  | none => pure none
  | some ⟨len, _⟩ =>
      if len = 0 then pure none
      else do
        let num := min BssidHotlistCommand.MAX_RESULTS (len / size)
        -- printed before the type is looked at
        let _ ← Nlattr.nlaLen 0
        let type ← Nlattr.nlaType 0
        let mResults ← copyHotlist size num type
        return (hotlistHandler onFound onLost event.subcmd).map fun found =>
          ⟨id, found, num, recordsOf size num mResults⟩

/-- `ChangeInfo`, without the flags, which are not read. -/
structure ChangeInfo where
  bssid : List UInt8
  channel : Nat
  rssiHistory : List Int
  deriving DecidableEq, Repr

def ChangeInfo.size : Nat := 18

/-- The fields of the `ChangeInfo` at an offset, as they are stored in `mResultsBuffer`. -/
def changeInfoAt (ci : Nat) : Reads UInt8 ChangeInfo := do
  let bssid ← Reads.range (ci + 4) MAC_ADDR_LEN
  let channel ← u16At (ci + 2)
  let rssi ← Reads.range (ci + 10) 8
  return ⟨bssid, channel, rssi.map fun b => signed 8 b.toNat⟩

/-- A call of `on_significant_change`, with the results that the `num` pointers point to. -/
structure ChangeCall where
  id : Int
  num : Nat
  results : List ChangeInfo
  deriving DecidableEq, Repr

/-- `SignificantWifiChangeCommand::handleEvent`. -/
def SignificantWifiChangeCommand.handleEvent (id : Int) (event : WifiEvent) :
    Reads UInt8 (Option ChangeCall) :=
  match event.vendorData with
  | none => pure none
  | some ⟨len, _⟩ =>
      if len = 0 then pure none
      else do
        let num := min (len / ChangeInfo.size) SignificantWifiChangeCommand.MAX_RESULTS
        let type ← Nlattr.nlaType 0
        if (type : Int) = VendorEvent.significantChangeResults.subcmd then
          let ci := nlaData 0
          let results ← Reads.collect (fun i => changeInfoAt (ci + i * ChangeInfo.size)) 0 num
          let _ ← Nlattr.nlaType 0
          return if num ≠ 0 then some ⟨id, num, results⟩ else none
        else return none

/-! ## What is asked of them -/

/-- The length and the type of the attribute that the payload begins with. -/
def attrLen (d : VendorData) : Nat := leValue (d.data.read 0 2)
def attrType (d : VendorData) : Int := (leValue (d.data.read 2 2) : Nat)

/-- How much of the payload is behind the header of its attribute and belongs to the attribute. -/
def nestedLen (d : VendorData) : Nat := min (attrLen d) d.len - NLA_HDRLEN

/-- The number of whole records in the attribute, up to a maximum. -/
def nestedCount (size max : Nat) (d : VendorData) : Nat := min max (nestedLen d / size)

/-- The attribute is of a hotlist. -/
def HotlistType (d : VendorData) : Prop :=
  attrType d = VendorEvent.hotlistResultsLost.subcmd ∨
    attrType d = VendorEvent.hotlistResultsFound.subcmd

instance (d : VendorData) : Decidable (HotlistType d) := inferInstanceAs (Decidable (_ ∨ _))

/-- The records in the attribute, if it is of a hotlist. -/
def hotlistRecords (size : Nat) (d : VendorData) : List (List UInt8) :=
  if HotlistType d then
    (List.range (nestedCount size BssidHotlistCommand.MAX_RESULTS d)).map fun i =>
      d.data.read (nlaData 0 + i * size) size
  else []

/-- The attribute is of a significant change. -/
def ChangeType (d : VendorData) : Prop :=
  attrType d = VendorEvent.significantChangeResults.subcmd

instance (d : VendorData) : Decidable (ChangeType d) := inferInstanceAs (Decidable (_ = _))

def changeRecords (d : VendorData) : List ChangeInfo :=
  if ChangeType d then
    (List.range (nestedCount ChangeInfo.size SignificantWifiChangeCommand.MAX_RESULTS d)).map
      fun i => (changeInfoAt (nlaData 0 + i * ChangeInfo.size)).value d.data
  else []

/-- Only the payload is read, and the handler, if there is one, gets exactly the records. -/
structure RecordsReported {κ α : Type} (event : WifiEvent) (heard : Prop) (results : κ → List α)
    (records : VendorData → List α) (x : Reads UInt8 (Option κ)) : Prop where
  inBounds : ∀ d ∈ event.vendorData, x.InBounds d.len d.data
  reported : ∀ d ∈ event.vendorData, heard →
    d.len ≠ 0 → ((x.value d.data).map results).getD [] = records d

/-- The number of records that the whole payload could hold, up to a maximum. -/
def outerCount (size max : Nat) (d : VendorData) : Nat := min max (d.len / size)

/-- The payload has a header, the records that are copied, and no more or fewer than are counted. -/
structure HotlistCounted (size : Nat) (heard : Prop) (d : VendorData) : Prop where
  header : NLA_HDRLEN ≤ d.len
  copied : HotlistType d →
    nlaData 0 + outerCount size BssidHotlistCommand.MAX_RESULTS d * size ≤ d.len
  counted : heard → outerCount size BssidHotlistCommand.MAX_RESULTS d =
    if HotlistType d then nestedCount size BssidHotlistCommand.MAX_RESULTS d else 0

/-- The same for a significant change, which is reported only if the type is right. -/
structure ChangeCounted (d : VendorData) : Prop where
  header : NLA_HDRLEN ≤ d.len
  counted : ChangeType d →
    outerCount ChangeInfo.size SignificantWifiChangeCommand.MAX_RESULTS d =
      nestedCount ChangeInfo.size SignificantWifiChangeCommand.MAX_RESULTS d

/-! ## Records -/

variable {d : VendorData} {size : Nat}

theorem recordsOf_read (num off : Nat) (m : Mem UInt8) :
    recordsOf size num (m.read off (num * size)) =
      (List.range num).map fun i => m.read (off + i * size) size := by
  unfold recordsOf
  refine List.map_congr_left fun i hi => ?_
  have hle : i * size + size ≤ num * size := by
    rw [← Nat.succ_mul]
    exact Nat.mul_le_mul_right size (List.mem_range.mp hi)
  rw [Mem.read_drop _ _ (by omega), Mem.read_take _ _ (by omega)]

/-- As many records as are in the attribute end in the payload. -/
theorem nested_le {max num : Nat} (hheader : NLA_HDRLEN ≤ d.len)
    (h : num = nestedCount size max d) : nlaData 0 + num * size ≤ d.len := by
  have hnum : num * size ≤ nestedLen d := by
    rw [h, nestedCount]
    exact Nat.le_trans (Nat.mul_le_mul_right size (Nat.min_le_right _ _)) (Nat.div_mul_le_self _ _)
  have hle : nestedLen d ≤ d.len - NLA_HDRLEN := Nat.sub_le_sub_right (Nat.min_le_right _ _) _
  rw [nlaData, Nat.zero_add]
  omega

/-- Records that lie behind each other end in the payload iff the last one does. -/
theorem records_le_iff {num : Nat} (hheader : NLA_HDRLEN ≤ d.len) :
    (∀ j < num, nlaData 0 + j * size + size ≤ d.len) ↔ nlaData 0 + num * size ≤ d.len := by
  constructor
  · intro hall
    cases num with
    | zero => rwa [Nat.zero_mul, nlaData, Nat.zero_add]
    | succ num =>
      rw [Nat.succ_mul, ← Nat.add_assoc]
      exact hall num (Nat.lt_succ_self num)
  · intro hle j hj
    have hmul : j * size + size ≤ num * size := by
      rw [← Nat.succ_mul]
      exact Nat.mul_le_mul_right size hj
    omega

theorem map_range_inj {α : Type} {f : Nat → α} {n k : Nat} :
    (List.range n).map f = (List.range k).map f ↔ n = k := by
  refine ⟨fun h => ?_, fun h => by rw [h]⟩
  have hlen := congrArg List.length h
  rwa [List.length_map, List.length_map, List.length_range, List.length_range] at hlen

theorem map_range_eq_nil {α : Type} {f : Nat → α} {n : Nat} :
    (List.range n).map f = [] ↔ n = 0 := by
  rw [List.map_eq_nil_iff, List.range_eq_nil]

/-- The header is within the payload. -/
theorem header_inBounds {attr len : Nat} {m : Mem UInt8} :
    (Nlattr.nlaLen attr).InBounds len m ∧ (Nlattr.nlaType attr).InBounds len m ↔
      attr + NLA_HDRLEN ≤ len := by
  simp only [Nlattr.nlaLen, Nlattr.nlaType, u16At, leAt_inBounds, NLA_HDRLEN]
  omega

theorem attrType_value : (((Nlattr.nlaType 0).value d.data : Nat) : Int) = attrType d := by
  simp [Nlattr.nlaType, u16At, attrType]

/-! ## Hotlist events -/

section Hotlist

variable (size) (id : Int) (onFound onLost : Bool) (event : WifiEvent)

theorem copyHotlist_eq (num : Nat) : copyHotlist size num (attrType d) =
    if HotlistType d then Reads.range (nlaData 0) (num * size)
    else pure (List.replicate (num * size) 0) := rfl

/-- What is read of a payload that is not empty. -/
theorem hotlist_inBounds (hdata : event.vendorData = some d) (hlen : d.len ≠ 0) :
    (BssidHotlistCommand.handleEvent size id onFound onLost event).InBounds d.len d.data ↔
      NLA_HDRLEN ≤ d.len ∧ (HotlistType d →
        nlaData 0 + outerCount size BssidHotlistCommand.MAX_RESULTS d * size ≤ d.len) := by
  unfold BssidHotlistCommand.handleEvent
  simp only [hdata, if_neg hlen, Reads.inBounds_bind, attrType_value, Reads.inBounds_pure, and_true]
  rw [← and_assoc, header_inBounds, Nat.zero_add]
  refine and_congr_right fun hheader => ?_
  by_cases hmatch : HotlistType d
  · rw [copyHotlist_eq, if_pos hmatch, Reads.inBounds_range, forall_prop_of_true hmatch]
    refine or_iff_right_of_imp fun hzero => ?_
    rw [hzero]
    exact hheader
  · rw [copyHotlist_eq, if_neg hmatch]
    exact iff_of_true (Reads.inBounds_pure _ _ _) fun h => absurd h hmatch

/-- What is reported to a handler. -/
theorem hotlist_reported (hdata : event.vendorData = some d) (hlen : d.len ≠ 0)
    (heard : (hotlistHandler onFound onLost event.subcmd).isSome = true) :
    ((BssidHotlistCommand.handleEvent size id onFound onLost event).value d.data).map
        HotlistCall.results =
      some (recordsOf size (outerCount size BssidHotlistCommand.MAX_RESULTS d)
        ((copyHotlist size (outerCount size BssidHotlistCommand.MAX_RESULTS d) (attrType d)).value
          d.data)) := by
  obtain ⟨found, hfound⟩ := Option.isSome_iff_exists.mp heard
  unfold BssidHotlistCommand.handleEvent
  simp only [hdata, if_neg hlen, Reads.value_bind, attrType_value, Reads.value_pure, hfound]
  rfl

/-- **When the records of a hotlist event are reported right.** -/
theorem hotlistReported_iff :
    RecordsReported event (hotlistHandler onFound onLost event.subcmd).isSome HotlistCall.results
        (hotlistRecords size) (BssidHotlistCommand.handleEvent size id onFound onLost event) ↔
      ∀ d ∈ event.vendorData, d.len ≠ 0 →
        HotlistCounted size (hotlistHandler onFound onLost event.subcmd).isSome d := by
  have hcount : ∀ d : VendorData,
      recordsOf size (outerCount size BssidHotlistCommand.MAX_RESULTS d)
          ((copyHotlist size (outerCount size BssidHotlistCommand.MAX_RESULTS d)
            (attrType d)).value d.data) = hotlistRecords size d ↔
        outerCount size BssidHotlistCommand.MAX_RESULTS d =
          if HotlistType d then nestedCount size BssidHotlistCommand.MAX_RESULTS d else 0 := by
    intro d
    rw [copyHotlist_eq, hotlistRecords]
    by_cases hmatch : HotlistType d
    · rw [if_pos hmatch, if_pos hmatch, if_pos hmatch, Reads.value_range, recordsOf_read,
        map_range_inj]
    · rw [if_neg hmatch, if_neg hmatch, if_neg hmatch]
      exact map_range_eq_nil
  constructor
  · intro h d hdata hlen
    obtain ⟨hheader, hcopied⟩ :=
      (hotlist_inBounds size id onFound onLost event hdata hlen).mp (h.inBounds d hdata)
    refine ⟨hheader, hcopied, fun heard => ?_⟩
    have hreported := h.reported d hdata heard hlen
    rw [hotlist_reported size id onFound onLost event hdata hlen heard,
      Option.getD_some] at hreported
    exact (hcount d).mp hreported
  · intro h
    refine ⟨fun d hdata => ?_, fun d hdata heard hlen => ?_⟩
    · by_cases hlen : d.len = 0
      · unfold BssidHotlistCommand.handleEvent
        simp only [show event.vendorData = some d from hdata, if_pos hlen, Reads.inBounds_pure]
      · have hd := h d hdata hlen
        exact (hotlist_inBounds size id onFound onLost event hdata hlen).mpr
          ⟨hd.header, hd.copied⟩
    · rw [hotlist_reported size id onFound onLost event hdata hlen heard, Option.getD_some]
      exact (hcount d).mpr ((h d hdata hlen).counted heard)

end Hotlist

/-! ## Significant change events -/

section Change

variable (id : Int) (event : WifiEvent)

theorem changeInfoAt_inBounds {ci len : Nat} {m : Mem UInt8} :
    (changeInfoAt ci).InBounds len m ↔ ci + ChangeInfo.size ≤ len := by
  simp only [changeInfoAt, u16At, Reads.inBounds_bind, Reads.inBounds_range, leAt_inBounds,
    Reads.inBounds_pure, and_true, MAC_ADDR_LEN, ChangeInfo.size]
  omega

/-- What is read of a payload that is not empty. -/
theorem change_inBounds (hdata : event.vendorData = some d) (hlen : d.len ≠ 0) :
    (SignificantWifiChangeCommand.handleEvent id event).InBounds d.len d.data ↔
      NLA_HDRLEN ≤ d.len ∧ (ChangeType d →
        nlaData 0 + outerCount ChangeInfo.size SignificantWifiChangeCommand.MAX_RESULTS d *
          ChangeInfo.size ≤ d.len) := by
  have hheader : (Nlattr.nlaType 0).InBounds d.len d.data ↔ NLA_HDRLEN ≤ d.len := by
    simp [Nlattr.nlaType, u16At, NLA_HDRLEN]
  unfold SignificantWifiChangeCommand.handleEvent
  simp only [hdata, if_neg hlen, Reads.inBounds_bind, attrType_value, hheader]
  refine and_congr_right fun hle => ?_
  by_cases hmatch : ChangeType d
  · have hmatch' : attrType d = VendorEvent.significantChangeResults.subcmd := hmatch
    simp only [if_pos hmatch', Reads.inBounds_bind, Reads.inBounds_collect, changeInfoAt_inBounds,
      hheader, Reads.inBounds_pure, and_true, hle, forall_prop_of_true hmatch, Nat.zero_add,
      Nat.zero_le, true_implies, Nat.min_comm _ SignificantWifiChangeCommand.MAX_RESULTS]
    change (∀ j < outerCount ChangeInfo.size SignificantWifiChangeCommand.MAX_RESULTS d,
      nlaData 0 + j * ChangeInfo.size + ChangeInfo.size ≤ d.len) ↔ _
    exact records_le_iff hle
  · have hmatch' : ¬ attrType d = VendorEvent.significantChangeResults.subcmd := hmatch
    simp only [if_neg hmatch']
    exact iff_of_true (Reads.inBounds_pure _ _ _) fun h => absurd h hmatch

/-- What is reported. -/
theorem change_reported (hdata : event.vendorData = some d) (hlen : d.len ≠ 0) :
    (((SignificantWifiChangeCommand.handleEvent id event).value d.data).map
        ChangeCall.results).getD [] =
      if ChangeType d then
        (List.range (outerCount ChangeInfo.size SignificantWifiChangeCommand.MAX_RESULTS d)).map
          fun i => (changeInfoAt (nlaData 0 + i * ChangeInfo.size)).value d.data
      else [] := by
  unfold SignificantWifiChangeCommand.handleEvent
  simp only [hdata, if_neg hlen, Reads.value_bind, attrType_value]
  by_cases hmatch : ChangeType d
  · have hmatch' : attrType d = VendorEvent.significantChangeResults.subcmd := hmatch
    simp only [if_pos hmatch', if_pos hmatch, Reads.value_bind, Reads.value_collect,
      Reads.value_pure, ← List.range_eq_range',
      Nat.min_comm _ SignificantWifiChangeCommand.MAX_RESULTS]
    unfold outerCount
    by_cases hzero : min SignificantWifiChangeCommand.MAX_RESULTS (d.len / ChangeInfo.size) = 0
    · rw [hzero]
      rfl
    · rw [if_pos hzero]
      rfl
  · have hmatch' : ¬ attrType d = VendorEvent.significantChangeResults.subcmd := hmatch
    simp only [if_neg hmatch', if_neg hmatch]
    rfl

/-- **When the records of a significant change are reported right.** -/
theorem changeReported_iff :
    RecordsReported event True ChangeCall.results changeRecords
        (SignificantWifiChangeCommand.handleEvent id event) ↔
      ∀ d ∈ event.vendorData, d.len ≠ 0 → ChangeCounted d := by
  constructor
  · intro h d hdata hlen
    obtain ⟨hheader, -⟩ := (change_inBounds id event hdata hlen).mp (h.inBounds d hdata)
    refine ⟨hheader, fun hmatch => ?_⟩
    have hreported := h.reported d hdata trivial hlen
    rw [change_reported id event hdata hlen, changeRecords, if_pos hmatch, if_pos hmatch,
      map_range_inj] at hreported
    exact hreported
  · intro h
    refine ⟨fun d hdata => ?_, fun d hdata _ hlen => ?_⟩
    · by_cases hlen : d.len = 0
      · unfold SignificantWifiChangeCommand.handleEvent
        simp only [show event.vendorData = some d from hdata, if_pos hlen, Reads.inBounds_pure]
      · have hd := h d hdata hlen
        exact (change_inBounds id event hdata hlen).mpr
          ⟨hd.header, fun hmatch => nested_le hd.header (hd.counted hmatch)⟩
    · have hd := h d hdata hlen
      rw [change_reported id event hdata hlen, changeRecords]
      by_cases hmatch : ChangeType d
      · rw [if_pos hmatch, if_pos hmatch, hd.counted hmatch]
      · rw [if_neg hmatch, if_neg hmatch]

end Change

/-! ## Both handlers -/

/-- **When the records of both kinds of events are reported right.** -/
theorem apEvents_reported_iff (size : Nat) (id : Int) (onFound onLost : Bool) (event : WifiEvent) :
    (RecordsReported event (hotlistHandler onFound onLost event.subcmd).isSome HotlistCall.results
        (hotlistRecords size) (BssidHotlistCommand.handleEvent size id onFound onLost event) ↔
      ∀ d ∈ event.vendorData, d.len ≠ 0 →
        HotlistCounted size (hotlistHandler onFound onLost event.subcmd).isSome d) ∧
    (RecordsReported event True ChangeCall.results changeRecords
        (SignificantWifiChangeCommand.handleEvent id event) ↔
      ∀ d ∈ event.vendorData, d.len ≠ 0 → ChangeCounted d) :=
  ⟨hotlistReported_iff size id onFound onLost event, changeReported_iff id event⟩

/-- A hotlist attribute of 88 bytes, which is four short of a header and a record of 88. -/
def shortHotlist : VendorData := .ofBytes ([88, 0, 1, 0] ++ List.replicate 84 0)

/-- The end of the record lies behind the payload. -/
theorem not_apEvents_reported : ¬ ∀ (size : Nat) (id : Int) (onFound onLost : Bool)
    (event : WifiEvent),
    RecordsReported event (hotlistHandler onFound onLost event.subcmd).isSome HotlistCall.results
        (hotlistRecords size) (BssidHotlistCommand.handleEvent size id onFound onLost event) ∧
      RecordsReported event True ChangeCall.results changeRecords
        (SignificantWifiChangeCommand.handleEvent id event) := by
  intro hall
  have h := (hall 88 0 true true ⟨VendorEvent.hotlistResultsFound.subcmd, some shortHotlist⟩).1
  have hcopied := ((hotlist_inBounds 88 0 true true _ rfl (by decide)).mp
    (h.inBounds shortHotlist rfl)).2
  exact absurd (hcopied (by decide)) (by decide)

end Sloane.WifiHal
