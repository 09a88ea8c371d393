import Mathlib.Algebra.Group.Int.Defs
import Sloane.WifiHal.HalTables
import Sloane.WifiHal.RttResult

/-!
# Vendor data and the records in it

What the event handlers of `gscan.cpp` see of a `WifiEvent`: the subcommand, and the payload of
`NL80211_ATTR_VENDOR_DATA` with the memory behind it.  Structures of `common.h` are read field by
field at the offsets that the compiler gives them, and an attribute header as the two numbers of
`struct nlattr`.

* `leAt_inBounds` — when a number is read inside the payload.
* `convertToHalResult_inBounds` — the same for the scan record that `convert_to_hal_result` copies.
-/

namespace Sloane.WifiHal

open Sloane.Lib

/-- The `len` bytes of vendor data, with the memory that begins with them. -/
structure VendorData where
  len : Nat
  data : Mem UInt8

/-- The payload alone. -/
def VendorData.bytes (d : VendorData) : List UInt8 := d.data.read 0 d.len

/-- Vendor data with nothing but zeros behind it. -/
def VendorData.ofBytes (bytes : List UInt8) : VendorData := ⟨bytes.length, Mem.ofList bytes 0⟩

theorem VendorData.read_eq (d : VendorData) {offset n : Nat} (h : offset + n ≤ d.len) :
    d.data.read offset n = (d.bytes.drop offset).take n := by
  rw [bytes, Mem.read_drop _ _ (by omega), Mem.read_take _ _ (by omega), Nat.zero_add]

/-- A byte of the payload behind an offset. -/
theorem VendorData.mem_drop (d : VendorData) {offset : Nat} (h : offset ≤ d.len) {b : UInt8} :
    b ∈ d.bytes.drop offset ↔ ∃ i, offset ≤ i ∧ i < d.len ∧ d.data i = b := by
  rw [bytes, Mem.read_drop _ _ h, Nat.zero_add, Mem.read, List.mem_map]
  constructor
  · rintro ⟨i, hi, rfl⟩
    have := List.mem_range.mp hi
    exact ⟨offset + i, by omega, by omega, rfl⟩
  · rintro ⟨i, hle, hlt, rfl⟩
    refine ⟨i - offset, List.mem_range.mpr (by omega), ?_⟩
    rw [Nat.add_sub_cancel' hle]

/-- A handler that can fail goes on with the result of each step. -/
theorem bind_eq_ok {ε α β : Type} {x : Except ε α} {f : α → Except ε β} {b : β} :
    x >>= f = .ok b ↔ ∃ a, x = .ok a ∧ f a = .ok b := by
  cases x with
  | error e => exact iff_of_false nofun nofun
  | ok a => exact ⟨fun h => ⟨a, rfl, h⟩, fun ⟨_, ha, h⟩ => Except.ok.inj ha ▸ h⟩

/-- `WifiEvent`, with the value of `NL80211_ATTR_VENDOR_SUBCMD`. -/
structure WifiEvent where
  subcmd : Int
  vendorData : Option VendorData

/-! ## Numbers -/

/-- The little-endian number of `n` bytes at an offset. -/
def leAt (n offset : Nat) : Reads UInt8 Nat := do
  let bytes ← Reads.range offset n
  return leValue bytes

def u16At (offset : Nat) : Reads UInt8 Nat := leAt 2 offset
def u32At (offset : Nat) : Reads UInt8 Nat := leAt 4 offset
def u64At (offset : Nat) : Reads UInt8 Nat := leAt 8 offset

/-- The signed number with the given bits. -/
def signed (bits n : Nat) : Int := if n < 2 ^ (bits - 1) then n else (n : Int) - 2 ^ bits

@[simp] theorem leAt_value (n offset : Nat) (m : Mem UInt8) :
    (leAt n offset).value m = leValue (m.read offset n) := by
  simp [leAt]

@[simp] theorem leAt_inBounds {n offset len : Nat} {m : Mem UInt8} :
    (leAt n offset).InBounds len m ↔ n = 0 ∨ offset + n ≤ len := by
  simp [leAt]

/-! ## Attributes -/

def NLA_HDRLEN : Nat := 4

/-- `nlattr::nla_len`, which counts the header. -/
def Nlattr.nlaLen (attr : Nat) : Reads UInt8 Nat := u16At attr
def Nlattr.nlaType (attr : Nat) : Reads UInt8 Nat := u16At (attr + 2)
def nlaData (attr : Nat) : Nat := attr + NLA_HDRLEN

/-! ## Scan records -/

def DOT11_MAX_SSID_LEN : Nat := 32
def MAC_ADDR_LEN : Nat := 6

/-- `wifi_scan_result`; `ie_data` has the bytes that are filled in. -/
structure WifiScanResult where
  ts : Int
  ssid : List UInt8
  bssid : List UInt8
  channel : Int
  rssi : Int
  rtt : Int
  rttSd : Int
  beaconPeriod : Nat
  capability : Nat
  ieLength : Nat
  ieData : List UInt8
  deriving DecidableEq, Repr

/-- The offsets in a `wifi_gscan_result_t`, and its size. -/
def GscanResult.ts : Nat := 0
def GscanResult.ssid : Nat := 8
def GscanResult.bssid : Nat := 41
def GscanResult.channel : Nat := 48
def GscanResult.rssi : Nat := 52
def GscanResult.rtt : Nat := 56
def GscanResult.rttSd : Nat := 64
def GscanResult.beaconPeriod : Nat := 72
def GscanResult.capability : Nat := 74
def GscanResult.ieLength : Nat := 76
def GscanResult.size : Nat := 88

/-- The offsets in a `wifi_gscan_full_result_t`, and its size. -/
def GscanFullResult.fixed : Nat := 0
def GscanFullResult.scanChBucket : Nat := 88
def GscanFullResult.ieLength : Nat := 92
def GscanFullResult.ieData : Nat := 96
def GscanFullResult.size : Nat := 104

/-- `convert_to_hal_result`, from the record at an offset.  The two `ie_` fields are left for the
caller. -/
def convertToHalResult (fr : Nat) : Reads UInt8 WifiScanResult := do
  let ts ← u64At (fr + GscanResult.ts)
  let channel ← u32At (fr + GscanResult.channel)
  let rssi ← u32At (fr + GscanResult.rssi)
  let rtt ← u64At (fr + GscanResult.rtt)
  let rttSd ← u64At (fr + GscanResult.rttSd)
  let beaconPeriod ← u16At (fr + GscanResult.beaconPeriod)
  let capability ← u16At (fr + GscanResult.capability)
  let ssid ← Reads.range (fr + GscanResult.ssid) (DOT11_MAX_SSID_LEN + 1)
  let bssid ← Reads.range (fr + GscanResult.bssid) MAC_ADDR_LEN
  return ⟨signed 64 ts, ssid, bssid, signed 32 channel, signed 32 rssi, signed 64 rtt,
    signed 64 rttSd, beaconPeriod, capability, 0, []⟩

/-- What is copied of a record reaches up to its `ie_length`. -/
theorem convertToHalResult_inBounds {fr len : Nat} {m : Mem UInt8} :
    (convertToHalResult fr).InBounds len m ↔ fr + GscanResult.ieLength ≤ len := by
  simp only [convertToHalResult, u64At, u32At, u16At, Reads.inBounds_bind, leAt_inBounds,
    Reads.inBounds_range, Reads.inBounds_pure, and_true, GscanResult.ts, GscanResult.channel,
    GscanResult.rssi, GscanResult.rtt, GscanResult.rttSd, GscanResult.beaconPeriod,
    GscanResult.capability, GscanResult.ssid, GscanResult.bssid, GscanResult.ieLength,
    DOT11_MAX_SSID_LEN, MAC_ADDR_LEN]
  omega

end Sloane.WifiHal
