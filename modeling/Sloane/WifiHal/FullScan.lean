import Sloane.WifiHal.VendorData

/-!
# Full scan results

Model of `wifi_handle_full_scan_event` (`gscan.cpp`).  The record lies behind the header of a
nested attribute, while the tests are made with the length of the whole payload.

* `fullScan_inBounds`, `fullScan_value` — what is read of a payload, and what is delivered.
* `fullScanSafe_iff` — an event is handled safely exactly when its information elements end in the
  payload and its SSID is followed by a zero byte there.
-/

namespace Sloane.WifiHal

open Sloane.Lib

def MAX_PROBE_RESP_IE_LEN : Nat := 2048

/-- A call of `on_full_scan_result`. -/
structure FullScanCall where
  id : Int
  result : WifiScanResult
  buckets : Nat
  deriving DecidableEq, Repr

/-- The `ssid` of the last `ALOGI`, printed with `%-32s`: it is read up to a zero byte.  The model
goes no further than the first byte behind the payload. -/
def logSsid (len drvRes : Nat) : Reads UInt8 (List UInt8) :=
  let ssid := drvRes + GscanFullResult.fixed + GscanResult.ssid
  Reads.scan 0 ssid (len + 1 - ssid)

/-- `wifi_handle_full_scan_event`, with the outcome of `malloc` and whether there is a handler. -/
def wifiHandleFullScanEvent (id : Int) (malloc handler : Bool) (event : WifiEvent) :
    Reads UInt8 (Option FullScanCall) :=
  match event.vendorData with
  | none => pure none
  | some ⟨len, _⟩ =>
      if len < GscanFullResult.size then pure none
      else if event.subcmd ≠ VendorEvent.fullScanResults.subcmd then pure none
      else do
        let drvRes := nlaData 0
        let ieLength ← u32At (drvRes + GscanFullResult.ieLength)
        let ieLen := min MAX_PROBE_RESP_IE_LEN ieLength
        if ieLen + GscanFullResult.ieData > len then return none
        else if !malloc then return none
        else
          let fixed ← convertToHalResult (drvRes + GscanFullResult.fixed)
          let ieData ← Reads.range (drvRes + GscanFullResult.ieData) ieLen
          let buckets ← u32At (drvRes + GscanFullResult.scanChBucket)
          let _ ← logSsid len drvRes
          return if handler then some ⟨id, { fixed with ieLength := ieLen, ieData }, buckets⟩
            else none

/-! ## What is asked of it -/

/-- The `ie_length` that the driver announces. -/
def announcedIeLength (d : VendorData) : Nat :=
  leValue ((d.bytes.drop (nlaData 0 + GscanFullResult.ieLength)).take 4)

/-- Only the payload is read, and what is delivered are the first announced bytes of its IE area. -/
structure FullScanSafe (event : WifiEvent) (x : Reads UInt8 (Option FullScanCall)) : Prop where
  inBounds : ∀ d ∈ event.vendorData, x.InBounds d.len d.data
  delivered : ∀ d ∈ event.vendorData, ∀ call ∈ x.value d.data,
    call.result.ieLength = min MAX_PROBE_RESP_IE_LEN (announcedIeLength d) ∧
      call.result.ieData.length = call.result.ieLength ∧
      call.result.ieData <+: d.bytes.drop (nlaData 0 + GscanFullResult.ieData)

/-- The payload passes the tests, and there is memory for the result. -/
structure FullScanTaken (malloc : Bool) (event : WifiEvent) (d : VendorData) : Prop where
  vendorData : event.vendorData = some d
  subcmd : event.subcmd = VendorEvent.fullScanResults.subcmd
  size : GscanFullResult.size ≤ d.len
  fits : min MAX_PROBE_RESP_IE_LEN (announcedIeLength d) + GscanFullResult.ieData ≤ d.len
  malloc : malloc = true

/-- The elements end in the payload, and so does the SSID taken for a string. -/
structure FullScanEnds (d : VendorData) : Prop where
  ieData : nlaData 0 + GscanFullResult.ieData + min MAX_PROBE_RESP_IE_LEN (announcedIeLength d) ≤
    d.len
  ssid : 0 ∈ d.bytes.drop (nlaData 0 + GscanFullResult.fixed + GscanResult.ssid)

/-! ## One payload -/

section Payload

variable {event : WifiEvent} {d : VendorData} {malloc : Bool} (id : Int) (handler : Bool)

/-- The announced length lies in every payload that is looked at. -/
theorem announced_read (h : GscanFullResult.size ≤ d.len) :
    leValue (d.data.read (nlaData 0 + GscanFullResult.ieLength) 4) = announcedIeLength d := by
  rw [announcedIeLength, d.read_eq (Nat.le_trans (by decide) h)]

/-- A payload that does not pass the tests is not read behind `ie_length`, and nothing comes of
it. -/
theorem fullScan_not_taken (hdata : event.vendorData = some d)
    (h : ¬ FullScanTaken malloc event d) :
    (wifiHandleFullScanEvent id malloc handler event).InBounds d.len d.data ∧
      (wifiHandleFullScanEvent id malloc handler event).value d.data = none := by
  unfold wifiHandleFullScanEvent
  simp only [hdata]
  by_cases hsize : d.len < GscanFullResult.size
  · rw [if_pos hsize]
    exact ⟨Reads.inBounds_pure _ _ _, rfl⟩
  rw [if_neg hsize]
  by_cases hsubcmd : event.subcmd ≠ VendorEvent.fullScanResults.subcmd
  · rw [if_pos hsubcmd]
    exact ⟨Reads.inBounds_pure _ _ _, rfl⟩
  rw [if_neg hsubcmd]
  have hsize' := Nat.le_of_not_lt hsize
  have hlength : nlaData 0 + GscanFullResult.ieLength + 4 ≤ d.len := Nat.le_trans (by decide) hsize'
  simp only [u32At, Reads.inBounds_bind, Reads.value_bind, leAt_inBounds, leAt_value,
    announced_read hsize', hlength, or_true, true_and]
  by_cases hfits : min MAX_PROBE_RESP_IE_LEN (announcedIeLength d) + GscanFullResult.ieData > d.len
  · simp [hfits]
  cases hmalloc : malloc with
  | false => simp [hfits]
  | true => exact absurd ⟨hdata, not_not.mp hsubcmd, hsize', Nat.le_of_not_lt hfits, hmalloc⟩ h

/-- **What is read** of a payload that passes them. -/
theorem fullScan_inBounds (h : FullScanTaken malloc event d) :
    (wifiHandleFullScanEvent id malloc handler event).InBounds d.len d.data ↔ FullScanEnds d := by
  have hsize := h.size
  have hfits := h.fits
  have hssid : nlaData 0 + GscanFullResult.fixed + GscanResult.ssid ≤ d.len :=
    Nat.le_trans (by decide) hsize
  unfold wifiHandleFullScanEvent
  simp only [h.vendorData, h.subcmd, h.malloc, u32At, logSsid, Reads.inBounds_bind, leAt_inBounds,
    leAt_value, announced_read hsize, Nat.not_lt.mpr hsize, Nat.not_lt.mpr hfits, if_false,
    ne_eq, not_true_eq_false, Bool.not_true, Bool.false_eq_true, Reads.inBounds_range,
    Reads.inBounds_scan hssid, convertToHalResult_inBounds, Reads.inBounds_pure,
    ← d.mem_drop hssid]
  -- the fields in front of the elements are within the size that was tested
  have hdata : nlaData 0 + GscanFullResult.ieData ≤ d.len := Nat.le_trans (by decide) hsize
  constructor
  · rintro ⟨-, -, hie, -, hzero, -⟩
    exact ⟨by omega, hzero⟩
  · intro hends
    exact ⟨.inr (Nat.le_trans (by decide) hsize), Nat.le_trans (by decide) hsize,
      .inr hends.ieData, .inr (Nat.le_trans (by decide) hsize), hends.ssid, trivial⟩

/-- **What is delivered** then. -/
theorem fullScan_value (h : FullScanTaken malloc event d) {call : FullScanCall}
    (hcall : call ∈ (wifiHandleFullScanEvent id malloc handler event).value d.data) :
    call.result.ieLength = min MAX_PROBE_RESP_IE_LEN (announcedIeLength d) ∧
      call.result.ieData =
        d.data.read (nlaData 0 + GscanFullResult.ieData) call.result.ieLength := by
  unfold wifiHandleFullScanEvent at hcall
  simp only [h.vendorData, h.subcmd, h.malloc, u32At, Reads.value_bind, leAt_value,
    announced_read h.size, Nat.not_lt.mpr h.size, Nat.not_lt.mpr h.fits, if_false, ne_eq,
    not_true_eq_false, Bool.not_true, Bool.false_eq_true, Reads.value_range,
    Reads.value_pure] at hcall
  split at hcall
  · obtain rfl := Option.some.inj hcall
    exact ⟨rfl, rfl⟩
  · cases hcall

end Payload

/-- **When a full scan event is handled safely.** -/
theorem fullScanSafe_iff (id : Int) (malloc handler : Bool) (event : WifiEvent) :
    FullScanSafe event (wifiHandleFullScanEvent id malloc handler event) ↔
      ∀ d, FullScanTaken malloc event d → FullScanEnds d := by
  constructor
  · intro h d htaken
    exact (fullScan_inBounds id handler htaken).mp (h.inBounds d htaken.vendorData)
  · intro h
    refine ⟨fun d hdata => ?_, fun d hdata call hcall => ?_⟩
    · by_cases htaken : FullScanTaken malloc event d
      · exact (fullScan_inBounds id handler htaken).mpr (h d htaken)
      · exact (fullScan_not_taken id handler hdata htaken).1
    · by_cases htaken : FullScanTaken malloc event d
      · obtain ⟨hlength, hread⟩ := fullScan_value id handler htaken hcall
        have hends := (h d htaken).ieData
        refine ⟨hlength, by rw [hread, Mem.read_length], ?_⟩
        rw [hread, d.read_eq (by omega)]
        exact List.take_prefix _ _
      · rw [(fullScan_not_taken id handler hdata htaken).2] at hcall
        cases hcall

/-- Eight bytes of elements, behind which the payload should have four more. -/
def shortFullScan : VendorData := .ofBytes (List.replicate 96 0 ++ 8 :: List.replicate 7 0)

/-- The last elements lie behind the payload. -/
theorem not_fullScanSafe : ¬ ∀ (id : Int) (malloc handler : Bool) (event : WifiEvent),
    FullScanSafe event (wifiHandleFullScanEvent id malloc handler event) := by
  intro hall
  have h := hall 0 true true ⟨VendorEvent.fullScanResults.subcmd, some shortFullScan⟩
  have htaken : FullScanTaken true ⟨VendorEvent.fullScanResults.subcmd, some shortFullScan⟩
      shortFullScan := ⟨rfl, rfl, by decide, by decide, rfl⟩
  have hends := (fullScan_inBounds 0 true htaken).mp (h.inBounds _ rfl)
  exact absurd hends.ieData (by decide)

end Sloane.WifiHal
