import Sloane.WifiHal.VendorData

/-!
# ePNO events

Model of `ePNOCommand::handleEvent` (`gscan.cpp`), which stores the networks that were found at the
indices of their records.  A copy or a terminator behind the `ssid` field is a fault.
`MAX_EPNO_NETWORKS` is a parameter.

* `fillResults_ok` — when the loop gets through, and what it stores.
* `networksReported_iff` — the handler gets the networks that were found exactly when every record
  looked at is of one, with an SSID that fits.
-/

namespace Sloane.WifiHal

open Sloane.Lib

def PNO_SSID_FOUND : Nat := 1

/-- `wifi_pno_result_t`, with its `ssid_len` and its flags as the driver sent them. -/
structure PnoResult where
  ssid : List UInt8
  ssidLen : Nat
  rssi : Int
  channel : Nat
  flags : Nat
  bssid : List UInt8
  deriving DecidableEq, Repr

def PnoResult.size : Nat := 44

/-- The record at an offset. -/
def pnoResultAt (res : Nat) : Reads UInt8 PnoResult := do
  let ssid ← Reads.range res DOT11_MAX_SSID_LEN
  let ssidLen ← Reads.read (res + 32)
  let rssi ← Reads.read (res + 33)
  let channel ← u16At (res + 34)
  let flags ← u16At (res + 36)
  let bssid ← Reads.range (res + 38) MAC_ADDR_LEN
  return ⟨ssid, ssidLen.toNat, signed 8 rssi.toNat, channel, flags, bssid⟩

/-- The first `num` records of a payload. -/
def pnoResults (num : Nat) (d : VendorData) : List PnoResult :=
  (List.range num).map fun i => (pnoResultAt (i * PnoResult.size)).value d.data

inductive EpnoFault where
  /-- the copy of an SSID ends behind the field -/
  | copy (index : Nat)
  /-- its terminator is written behind the field -/
  | terminator (index : Nat)
  deriving DecidableEq, Repr

/-- The fields of a `wifi_scan_result` that are stored for a network. -/
structure EpnoNetwork where
  ssid : List UInt8
  bssid : List UInt8
  channel : Int
  rssi : Int
  deriving DecidableEq, Repr

/-- The `ssid` field, which was cleared, with the first bytes of an SSID and a zero behind them. -/
def ssidField (ssid : List UInt8) (n : Nat) : List UInt8 :=
  ssid.take n ++ List.replicate (DOT11_MAX_SSID_LEN + 1 - n) 0

/-- The body of the loop for a network that was found. -/
def storeNetwork (i : Nat) (res : PnoResult) : Except EpnoFault EpnoNetwork :=
  if res.ssidLen > DOT11_MAX_SSID_LEN + 1 then .error (.copy i)
  else if res.ssidLen ≥ DOT11_MAX_SSID_LEN + 1 then .error (.terminator i)
  else .ok ⟨ssidField res.ssid res.ssidLen, res.bssid, res.channel, res.rssi⟩

/-- The loop, from an index; an entry that is only cleared is `none`. -/
def fillResults : Nat → List PnoResult → Except EpnoFault (List (Option EpnoNetwork))
  | _, [] => .ok []
  | i, res :: rs =>
      if res.flags = PNO_SSID_FOUND then do
        let network ← storeNetwork i res
        let mResults ← fillResults (i + 1) rs
        return some network :: mResults
      else do
        let mResults ← fillResults (i + 1) rs
        return none :: mResults

/-- A call of `on_network_found`. -/
structure EpnoCall where
  id : Int
  num : Nat
  results : List (Option EpnoNetwork)
  deriving DecidableEq, Repr

/-- `ePNOCommand::handleEvent`; `max` is `MAX_EPNO_NETWORKS`. -/
def EPNOCommand.handleEvent (max : Nat) (id : Int) (handler : Bool) (event : WifiEvent) :
    Except EpnoFault (Option EpnoCall) :=
  match event.vendorData with
  | none => .ok none
  | some d =>
      if d.len = 0 then .ok none
      else do
        let num := min max (d.len / PnoResult.size)
        let mResults ← fillResults 0 (pnoResults num d)
        return if handler then some ⟨id, num, mResults⟩ else none

/-! ## What is asked of it -/

/-- All records of a payload. -/
def allPnoResults (d : VendorData) : List PnoResult := pnoResults (d.len / PnoResult.size) d

/-- What is to be reported for a record, with an SSID of at most 32 bytes. -/
def PnoResult.network (res : PnoResult) : EpnoNetwork :=
  ⟨ssidField res.ssid (min res.ssidLen DOT11_MAX_SSID_LEN), res.bssid, res.channel, res.rssi⟩

/-- The networks that were found, in order and up to a maximum. -/
def networksFound (max : Nat) (d : VendorData) : List EpnoNetwork :=
  (((allPnoResults d).filter fun res => res.flags = PNO_SSID_FOUND).take max).map PnoResult.network

/-- The handler gets exactly the networks that were found. -/
def NetworksReported (max : Nat) (d : VendorData) (r : Except EpnoFault (Option EpnoCall)) : Prop :=
  ∃ call, r = .ok (some call) ∧ call.num = call.results.length ∧
    call.results = (networksFound max d).map some

/-- The record is of a network that was found, with an SSID that fits. -/
def PnoResult.Fits (res : PnoResult) : Prop :=
  res.flags = PNO_SSID_FOUND ∧ res.ssidLen ≤ DOT11_MAX_SSID_LEN

/-! ## The loop -/

theorem storeNetwork_eq_ok {i : Nat} {res : PnoResult} {network : EpnoNetwork} :
    storeNetwork i res = .ok network ↔
      res.ssidLen ≤ DOT11_MAX_SSID_LEN ∧ network = res.network := by
  unfold storeNetwork
  split
  · exact iff_of_false nofun fun h => absurd h.1 (by omega)
  split
  · exact iff_of_false nofun fun h => absurd h.1 (by omega)
  · have hle : res.ssidLen ≤ DOT11_MAX_SSID_LEN := by omega
    rw [and_iff_right hle, PnoResult.network, Nat.min_eq_left hle]
    exact ⟨fun h => (Except.ok.inj h).symm, fun h => congrArg _ h.symm⟩

/-- What the loop stores for a record. -/
def PnoResult.stored (res : PnoResult) : Option EpnoNetwork :=
  if res.flags = PNO_SSID_FOUND then some res.network else none

/-- **When the loop gets through**, and what it stores. -/
theorem fillResults_ok {i : Nat} {rs : List PnoResult} {results : List (Option EpnoNetwork)} :
    fillResults i rs = .ok results ↔
      (∀ res ∈ rs, res.flags = PNO_SSID_FOUND → res.ssidLen ≤ DOT11_MAX_SSID_LEN) ∧
        results = rs.map PnoResult.stored := by
  induction rs generalizing i results with
  | nil =>
    rw [and_iff_right (by exact nofun)]
    exact ⟨fun h => (Except.ok.inj h).symm, fun h => congrArg Except.ok h.symm⟩
  | cons res rs ih =>
    rw [List.forall_mem_cons, List.map_cons, fillResults, PnoResult.stored]
    by_cases hfound : res.flags = PNO_SSID_FOUND
    · rw [if_pos hfound, if_pos hfound, forall_prop_of_true hfound, bind_eq_ok]
      constructor
      · rintro ⟨network, hstore, h⟩
        obtain ⟨hle, rfl⟩ := storeNetwork_eq_ok.mp hstore
        obtain ⟨rest, hrest, heq⟩ := bind_eq_ok.mp h
        obtain ⟨hall, rfl⟩ := ih.mp hrest
        exact ⟨⟨hle, hall⟩, (Except.ok.inj heq).symm⟩
      · rintro ⟨⟨hle, hall⟩, rfl⟩
        exact ⟨_, storeNetwork_eq_ok.mpr ⟨hle, rfl⟩, bind_eq_ok.mpr ⟨_, ih.mpr ⟨hall, rfl⟩, rfl⟩⟩
    · rw [if_neg hfound, if_neg hfound, forall_prop_of_false hfound, true_and, bind_eq_ok]
      constructor
      · rintro ⟨rest, hrest, heq⟩
        obtain ⟨hall, rfl⟩ := ih.mp hrest
        exact ⟨hall, (Except.ok.inj heq).symm⟩
      · rintro ⟨hall, rfl⟩
        exact ⟨_, ih.mpr ⟨hall, rfl⟩, rfl⟩

/-- Where all entries are filled, all records are of networks that were found. -/
theorem map_stored_eq_iff {rs : List PnoResult} {networks : List EpnoNetwork} :
    rs.map PnoResult.stored = networks.map some ↔
      (∀ res ∈ rs, res.flags = PNO_SSID_FOUND) ∧ networks = rs.map PnoResult.network := by
  constructor
  · intro h
    have hfound : ∀ res ∈ rs, res.flags = PNO_SSID_FOUND := by
      intro res hres
      by_contra hlost
      have hnone : none ∈ networks.map some := by
        rw [← h]
        exact List.mem_map.mpr ⟨res, hres, if_neg hlost⟩
      simp at hnone
    refine ⟨hfound, ?_⟩
    have hstored : rs.map PnoResult.stored = (rs.map PnoResult.network).map some := by
      rw [List.map_map]
      exact List.map_congr_left fun res hres => if_pos (hfound res hres)
    rw [hstored] at h
    exact (List.map_injective_iff.mpr (fun _ _ => Option.some.inj) h).symm
  · rintro ⟨hfound, rfl⟩
    rw [List.map_map]
    exact List.map_congr_left fun res hres => if_pos (hfound res hres)

/-- Nothing is dropped from the front of a list whose front is kept. -/
theorem take_filter_of_front {rs : List PnoResult} {p : PnoResult → Bool} {n : Nat}
    (h : ∀ res ∈ rs.take n, p res = true) : (rs.filter p).take n = rs.take n := by
  have hsplit : rs.filter p = rs.take n ++ (rs.drop n).filter p := by
    conv_lhs => rw [← List.take_append_drop n rs, List.filter_append]
    rw [List.filter_eq_self.mpr h]
  rw [hsplit]
  by_cases hlen : rs.length ≤ n
  · rw [List.drop_of_length_le hlen, List.filter_nil, List.append_nil, List.take_take, Nat.min_self]
  · rw [List.take_append_of_le_length (by rw [List.length_take]; omega), List.take_take,
      Nat.min_self]

/-! ## Events -/

/-- The records that the loop looks at. -/
theorem pnoResults_take (max : Nat) (d : VendorData) :
    pnoResults (min max (d.len / PnoResult.size)) d = (allPnoResults d).take max := by
  rw [allPnoResults, pnoResults, pnoResults, ← List.map_take, List.take_range]

/-- What is passed to a handler. -/
theorem handleEvent_eq_ok {max : Nat} {id : Int} {event : WifiEvent} {d : VendorData}
    (hdata : event.vendorData = some d) (hlen : d.len ≠ 0) {call : EpnoCall} :
    EPNOCommand.handleEvent max id true event = .ok (some call) ↔
      call.id = id ∧ call.num = min max (d.len / PnoResult.size) ∧
        fillResults 0 ((allPnoResults d).take max) = .ok call.results := by
  unfold EPNOCommand.handleEvent
  simp only [hdata, if_neg hlen, bind_eq_ok, if_true, pnoResults_take]
  constructor
  · rintro ⟨results, hfill, heq⟩
    obtain rfl := Option.some.inj (Except.ok.inj heq)
    exact ⟨rfl, rfl, hfill⟩
  · obtain ⟨id', num, results⟩ := call
    rintro ⟨rfl, rfl, hfill⟩
    exact ⟨results, hfill, rfl⟩

/-- **When the networks that were found are reported.** -/
theorem networksReported_iff (max : Nat) (id : Int) (event : WifiEvent) :
    (∀ d ∈ event.vendorData, d.len ≠ 0 →
        NetworksReported max d (EPNOCommand.handleEvent max id true event)) ↔
      ∀ d ∈ event.vendorData, d.len ≠ 0 → ∀ res ∈ (allPnoResults d).take max, res.Fits := by
  refine forall₃_congr fun d hdata hlen => ?_
  constructor
  · rintro ⟨call, hcall, -, hresults⟩ res hres
    obtain ⟨-, -, hfill⟩ := (handleEvent_eq_ok hdata hlen).mp hcall
    obtain ⟨hfits, hstored⟩ := fillResults_ok.mp hfill
    rw [hresults, eq_comm, map_stored_eq_iff] at hstored
    have hfound := hstored.1 res hres
    exact ⟨hfound, hfits res hres hfound⟩
  · intro h
    have hfront : ((allPnoResults d).filter fun res => res.flags = PNO_SSID_FOUND).take max =
        (allPnoResults d).take max :=
      take_filter_of_front fun res hres => decide_eq_true (h res hres).1
    have hstored : ((allPnoResults d).take max).map PnoResult.stored =
        (networksFound max d).map some :=
      map_stored_eq_iff.mpr ⟨fun res hres => (h res hres).1, by rw [networksFound, hfront]⟩
    refine ⟨⟨id, min max (d.len / PnoResult.size), _⟩, (handleEvent_eq_ok hdata hlen).mpr
      ⟨rfl, rfl, fillResults_ok.mpr ⟨fun res hres _ => (h res hres).2, rfl⟩⟩, ?_, hstored⟩
    simp [allPnoResults, pnoResults]

/-- A record of a network that was lost, and one of a network that was found. -/
def lostAndFound : VendorData :=
  .ofBytes (List.replicate 36 0 ++ [2, 0] ++ List.replicate 6 0 ++
    (List.replicate 36 0 ++ [1, 0] ++ List.replicate 6 0))

/-- The network that was found is the second entry of two. -/
theorem not_networksReported : ¬ ∀ (max : Nat) (id : Int) (event : WifiEvent),
    ∀ d ∈ event.vendorData, d.len ≠ 0 →
      NetworksReported max d (EPNOCommand.handleEvent max id true event) := by
  intro hall
  obtain ⟨call, hcall, -, hresults⟩ := hall 64 0 ⟨8, some lostAndFound⟩ lostAndFound rfl (by decide)
  obtain ⟨-, -, hfill⟩ := (handleEvent_eq_ok rfl (by decide)).mp hcall
  obtain ⟨-, hstored⟩ := fillResults_ok.mp hfill
  rw [hresults, eq_comm, map_stored_eq_iff] at hstored
  exact absurd hstored.1 (by decide +kernel)

end Sloane.WifiHal
