import Sloane.WifiHal.VendorData

/-!
# Passpoint networks that were found

Model of `AnqpoConfigureCommand::handleEvent` (`gscan.cpp`).  A scan record, its information
elements, a GAS response and a network id follow each other in the payload; only the length of a
`wifi_scan_result`, a parameter, is tested.

* `anqpo_inBounds`, `anqpo_value` — what is read, and what is handed to the handler.
* `partsInside_iff` — all parts lie in the payload exactly when the last one ends in it.
-/

namespace Sloane.WifiHal

open Sloane.Lib

/-- The offsets in a `wifi_anqp_gas_resp`. -/
def AnqpGasResp.dataLen : Nat := 6
def AnqpGasResp.data : Nat := 8

/-- A call of `on_passpoint_network_found`; `anqp` is an offset in the payload. -/
structure PasspointCall where
  id : Int
  networkId : Int
  result : WifiScanResult
  anqpLen : Nat
  anqp : Nat
  deriving DecidableEq, Repr

/-- `AnqpoConfigureCommand::handleEvent`, with the outcome of `malloc` and whether there is a
handler; `size` is `sizeof(wifi_scan_result)`. -/
def AnqpoConfigureCommand.handleEvent (size : Nat) (id : Int) (malloc handler : Bool)
    (event : WifiEvent) : Reads UInt8 (Option PasspointCall) :=
  match event.vendorData with
  | none => pure none
  | some ⟨len, _⟩ =>
      if len < size then pure none
      else if !malloc then pure none
      else do
        let drvRes := 0
        let mResult ← convertToHalResult (drvRes + GscanFullResult.fixed)
        let ieLength ← u32At (drvRes + GscanFullResult.ieLength)
        let anqp := drvRes + GscanFullResult.ieData + ieLength
        let dataLen ← u16At (anqp + AnqpGasResp.dataLen)
        let anqpLen := AnqpGasResp.data + dataLen
        let networkId ← u32At (anqp + anqpLen)
        return if handler then some ⟨id, signed 32 networkId, mResult, anqpLen, anqp⟩ else none

/-! ## The parts of a payload -/

section Parts

variable (d : VendorData)

/-- The length of the information elements, where the code looks for it. -/
def ieLengthOf : Nat := leValue (d.data.read GscanFullResult.ieLength 4)

/-- Where the GAS response begins, and the length of its data. -/
def gasOffset : Nat := GscanFullResult.ieData + ieLengthOf d
def gasDataLen : Nat := leValue (d.data.read (gasOffset d + AnqpGasResp.dataLen) 2)

/-- The end of the network id, which is the last part. -/
def anqpoEnd : Nat := gasOffset d + (AnqpGasResp.data + gasDataLen d) + 4

/-- The payload is accepted, and there is memory for the result. -/
structure AnqpoTaken (size : Nat) (malloc : Bool) (event : WifiEvent) : Prop where
  vendorData : event.vendorData = some d
  size : size ≤ d.len
  malloc : malloc = true

end Parts

/-- The length of all parts, for the lengths of the elements and of the data. -/
def anqpoSize (ieLength dataLen : Nat) : Nat :=
  GscanFullResult.ieData + ieLength + AnqpGasResp.data + dataLen + 4

/-- All parts of an accepted payload lie in it, nothing else is read, and the handler gets the GAS
response behind the information elements. -/
structure PartsInside (size : Nat) (malloc : Bool) (event : WifiEvent)
    (x : Reads UInt8 (Option PasspointCall)) : Prop where
  record : ∀ d, AnqpoTaken d size malloc event → GscanResult.size ≤ d.len
  ieData : ∀ d, AnqpoTaken d size malloc event → gasOffset d ≤ d.len
  gas : ∀ d, AnqpoTaken d size malloc event →
    gasOffset d + (AnqpGasResp.data + gasDataLen d) ≤ d.len
  networkId : ∀ d, AnqpoTaken d size malloc event → anqpoEnd d ≤ d.len
  inBounds : ∀ d ∈ event.vendorData, x.InBounds d.len d.data
  handed : ∀ d ∈ event.vendorData, ∀ call ∈ x.value d.data,
    call.anqp = gasOffset d ∧ call.anqpLen = AnqpGasResp.data + gasDataLen d

section Payload

variable {d : VendorData} {size : Nat} {malloc : Bool} {event : WifiEvent} (id : Int)
  (handler : Bool)

theorem anqpo_not_taken (hdata : event.vendorData = some d)
    (h : ¬ AnqpoTaken d size malloc event) :
    AnqpoConfigureCommand.handleEvent size id malloc handler event = pure none := by
  unfold AnqpoConfigureCommand.handleEvent
  simp only [hdata]
  by_cases hsize : d.len < size
  · rw [if_pos hsize]
  rw [if_neg hsize]
  cases hmalloc : malloc with
  | false => rfl
  | true => exact absurd ⟨hdata, Nat.le_of_not_lt hsize, hmalloc⟩ h

/-- **What is read** of an accepted payload ends with the network id. -/
theorem anqpo_inBounds (h : AnqpoTaken d size malloc event) (hend : anqpoEnd d ≤ d.len) :
    (AnqpoConfigureCommand.handleEvent size id malloc handler event).InBounds d.len d.data := by
  have hgas : GscanFullResult.ieData ≤ gasOffset d := Nat.le_add_right _ _
  have hdata : AnqpGasResp.dataLen + 2 = AnqpGasResp.data := rfl
  have hrecord : GscanResult.ieLength ≤ GscanFullResult.ieData := by decide
  have hlength : GscanFullResult.ieLength + 4 = GscanFullResult.ieData := rfl
  unfold anqpoEnd at hend
  unfold AnqpoConfigureCommand.handleEvent
  simp only [h.vendorData, Nat.not_lt.mpr h.size, h.malloc, if_false, Bool.not_true,
    Bool.false_eq_true, u32At, u16At, Reads.inBounds_bind, convertToHalResult_inBounds,
    leAt_inBounds, leAt_value, Reads.inBounds_pure, Nat.zero_add, and_true]
  change _ ∧ _ ∧ (2 = 0 ∨ gasOffset d + AnqpGasResp.dataLen + 2 ≤ d.len) ∧
    (4 = 0 ∨ gasOffset d + (AnqpGasResp.data + gasDataLen d) + 4 ≤ d.len)
  refine ⟨?_, .inr ?_, .inr ?_, .inr hend⟩
  · rw [GscanFullResult.fixed]
    omega
  · omega
  · omega

/-- **What is handed** to the handler. -/
theorem anqpo_value (hdata : event.vendorData = some d) {call : PasspointCall}
    (hcall : call ∈
      (AnqpoConfigureCommand.handleEvent size id malloc handler event).value d.data) :
    call.anqp = gasOffset d ∧ call.anqpLen = AnqpGasResp.data + gasDataLen d := by
  by_cases h : AnqpoTaken d size malloc event
  · unfold AnqpoConfigureCommand.handleEvent at hcall
    simp only [h.vendorData, Nat.not_lt.mpr h.size, h.malloc, if_false, Bool.not_true,
      Bool.false_eq_true, u32At, u16At, Reads.value_bind, leAt_value, Reads.value_pure,
      Nat.zero_add] at hcall
    split at hcall
    · obtain rfl := Option.some.inj hcall
      exact ⟨rfl, rfl⟩
    · cases hcall
  · rw [anqpo_not_taken id handler hdata h] at hcall
    cases hcall

end Payload

/-- **When all parts lie in the payload.** -/
theorem partsInside_iff (size : Nat) (id : Int) (malloc handler : Bool) (event : WifiEvent) :
    PartsInside size malloc event
        (AnqpoConfigureCommand.handleEvent size id malloc handler event) ↔
      ∀ d, AnqpoTaken d size malloc event → anqpoSize (ieLengthOf d) (gasDataLen d) ≤ d.len := by
  constructor
  · intro h d htaken
    have hend := h.networkId d htaken
    unfold anqpoEnd gasOffset at hend
    unfold anqpoSize
    omega
  · intro h
    have hend : ∀ d, AnqpoTaken d size malloc event → anqpoEnd d ≤ d.len := by
      intro d htaken
      have hsize := h d htaken
      unfold anqpoSize at hsize
      unfold anqpoEnd gasOffset
      omega
    refine ⟨fun d htaken => ?_, fun d htaken => ?_, fun d htaken => ?_, hend, ?_, ?_⟩
    · have hle := hend d htaken
      have hrecord : GscanResult.size ≤ GscanFullResult.ieData := by decide
      unfold anqpoEnd gasOffset at hle
      omega
    · have hle := hend d htaken
      unfold anqpoEnd at hle
      omega
    · have hle := hend d htaken
      unfold anqpoEnd at hle
      omega
    · intro d hdata
      by_cases htaken : AnqpoTaken d size malloc event
      · exact anqpo_inBounds id handler htaken (hend d htaken)
      · rw [anqpo_not_taken id handler hdata htaken]
        exact Reads.inBounds_pure _ _ _
    · exact fun d hdata call hcall => anqpo_value id handler hdata hcall

/-- A zeroed scan record with nothing behind it. -/
def recordOnly : VendorData := .ofBytes (List.replicate 88 0)

/-- The length of the elements is read behind the payload. -/
theorem not_partsInside : ¬ ∀ (size : Nat) (id : Int) (malloc handler : Bool) (event : WifiEvent),
    PartsInside size malloc event
      (AnqpoConfigureCommand.handleEvent size id malloc handler event) := by
  intro hall
  have h := (hall 88 0 true true ⟨9, some recordOnly⟩).ieData recordOnly ⟨rfl, by decide, rfl⟩
  exact absurd h (by decide)

end Sloane.WifiHal
