import Mathlib.Data.List.TakeDrop
import Sloane.WifiHal.HalTables

/-!
# Enumerating the Wi-Fi interfaces

Model of `wifi_init_interfaces` with `is_wifi_interface` and `get_interface` (`wifi_hal.cpp`).  The
two passes over `/sys/class/net` may see different listings; these, the outcomes of `opendir` and
`malloc`, and `if_nametoindex` are inputs.  Names are strings without the terminator.

* `fillLoop_spec` — which entries the second pass writes.
* `enumerated_iff` — they are the Wi-Fi interfaces of the second listing, within the array, exactly
  when that listing has as many as the first and no long name.
-/

namespace Sloane.WifiHal

def WIFI_ERROR_UNKNOWN : Int := -1
def WIFI_ERROR_NOT_AVAILABLE : Int := -4

/-- `sizeof(interface_info::name)`. -/
def IFACE_NAME_SIZE : Nat := 8 + 1

abbrev NetName := List Char

/-- `interface_info`. -/
structure InterfaceInfo where
  handle : Nat
  name : NetName
  id : Nat
  deriving DecidableEq, Repr

/-- What the two passes meet with; a listing is `none` if `opendir` fails. -/
structure NetEnv where
  first : Option (List NetName)
  second : Option (List NetName)
  /-- `malloc` of the array, and of the entries -/
  mallocTable : Bool
  mallocEntry : Nat → Bool
  ifNametoindex : NetName → Nat

def isWifiInterface (name : NetName) : Bool :=
  if name.take 4 ≠ ['w', 'l', 'a', 'n'] ∧ name.take 3 ≠ ['p', '2', 'p'] then false else true

/-- `get_interface`, into fresh memory. -/
def getInterface (env : NetEnv) (handle : Nat) (name : NetName) : Int × InterfaceInfo :=
  (WIFI_SUCCESS, ⟨handle, name.take (IFACE_NAME_SIZE - 1), env.ifNametoindex name⟩)

def hiddenName (name : NetName) : Bool := name.head? = some '.'

/-- The first pass. -/
def countLoop : List NetName → Nat → Nat
  | [], n => n
  | name :: names, n =>
      if hiddenName name then countLoop names n
      else if isWifiInterface name then countLoop names (n + 1)
      else countLoop names n

/-- The second pass: what is written to `interfaces`, and whether it comes to its end; it does not
if `get_interface` is given NULL. -/
def fillLoop (env : NetEnv) (handle : Nat) :
    List NetName → Nat → List (Nat × InterfaceInfo) × Bool
  | [], _ => ([], true)
  | name :: names, i =>
      if hiddenName name then fillLoop env handle names i
      else if isWifiInterface name then
        if env.mallocEntry i then
          let (ret, ifinfo) := getInterface env handle name
          if ret ≠ WIFI_SUCCESS then fillLoop env handle names i
          else
            let (writes, completed) := fillLoop env handle names (i + 1)
            ((i, ifinfo) :: writes, completed)
        else ([], false)
      else fillLoop env handle names i

/-- What `wifi_init_interfaces` has done; `ret` is `none` if it did not return. -/
structure InitInterfaces where
  ret : Option Int
  /-- the size of the array -/
  allocated : Nat
  writes : List (Nat × InterfaceInfo)
  numInterfaces : Option Nat
  deriving DecidableEq, Repr

def wifiInitInterfaces (env : NetEnv) (handle : Nat) : InitInterfaces :=
  match env.first with
  | none => ⟨some WIFI_ERROR_UNKNOWN, 0, [], none⟩
  | some first =>
      let n := countLoop first 0
      if n = 0 then ⟨some WIFI_ERROR_NOT_AVAILABLE, 0, [], none⟩
      else
        match env.second with
        | none => ⟨some WIFI_ERROR_UNKNOWN, 0, [], none⟩
        | some second =>
            if env.mallocTable then
              let (writes, completed) := fillLoop env handle second 0
              if completed then ⟨some WIFI_SUCCESS, n, writes, some n⟩ else ⟨none, n, writes, none⟩
            else ⟨some WIFI_ERROR_OUT_OF_MEMORY, 0, [], none⟩

/-! ## What is asked of it -/

/-- The Wi-Fi interfaces of a listing. -/
def wifiNames (names : List NetName) : List NetName :=
  names.filter fun name => !hiddenName name && isWifiInterface name

/-- No write is behind the array, and on success exactly the entries up to `num_interfaces` are
initialised and name the Wi-Fi interfaces of the second listing. -/
structure Enumerated (env : NetEnv) (r : InitInterfaces) : Prop where
  inBounds : ∀ w ∈ r.writes, w.1 < r.allocated
  initialised : r.ret = some WIFI_SUCCESS →
    ∃ n, r.numInterfaces = some n ∧ r.writes.map Prod.fst = List.range n
  names : r.ret = some WIFI_SUCCESS → ∃ second, env.second = some second ∧
    r.writes.map (fun w => w.2.name) = wifiNames second

/-- The second pass is made. -/
structure Fills (env : NetEnv) (first second : List NetName) : Prop where
  listing1 : env.first = some first
  listing2 : env.second = some second
  found : wifiNames first ≠ []
  mallocTable : env.mallocTable = true

/-- There are no more entries than the first listing had Wi-Fi interfaces; and if there is memory
for all of the second listing, these are as many, with names that fit. -/
structure SameInterfaces (env : NetEnv) (first second : List NetName) : Prop where
  atMost : ∀ k ≤ (wifiNames second).length, (∀ i < k, env.mallocEntry i = true) →
    k ≤ (wifiNames first).length
  all : (∀ i < (wifiNames second).length, env.mallocEntry i = true) →
    (wifiNames second).length = (wifiNames first).length ∧
      ∀ name ∈ wifiNames second, name.length < IFACE_NAME_SIZE

/-! ## The two passes -/

theorem countLoop_eq (names : List NetName) (n : Nat) :
    countLoop names n = n + (wifiNames names).length := by
  induction names generalizing n with
  | nil => rfl
  | cons name names ih =>
    unfold countLoop wifiNames
    by_cases hhidden : hiddenName name
    · rw [if_pos hhidden, ih, List.filter_cons_of_neg (by simp [hhidden])]
      rfl
    rw [if_neg hhidden]
    by_cases hwifi : isWifiInterface name
    · rw [if_pos hwifi, ih, List.filter_cons_of_pos (by simp [hhidden, hwifi]), List.length_cons]
      exact Nat.add_right_comm n 1 _
    · rw [if_neg hwifi, ih, List.filter_cons_of_neg (by simp [hwifi])]
      rfl

/-- The first `k` of the interfaces have been written, from an index. -/
structure Filled (env : NetEnv) (names : List NetName) (i k : Nat)
    (r : List (Nat × InterfaceInfo) × Bool) : Prop where
  le : k ≤ (wifiNames names).length
  index : r.1.map Prod.fst = List.range' i k
  name : r.1.map (fun w => w.2.name) =
    ((wifiNames names).take k).map (List.take (IFACE_NAME_SIZE - 1))
  malloc : ∀ j < k, env.mallocEntry (i + j) = true
  completed : r.2 = true ↔ k = (wifiNames names).length
  stopped : r.2 = false → env.mallocEntry (i + k) = false

/-- **What the second pass writes**: the interfaces up to the first for which there is no memory. -/
theorem fillLoop_spec (env : NetEnv) (handle : Nat) (names : List NetName) (i : Nat) :
    ∃ k, Filled env names i k (fillLoop env handle names i) := by
  induction names generalizing i with
  | nil => exact ⟨0, Nat.le_refl 0, rfl, rfl, nofun, iff_of_true rfl rfl, nofun⟩
  | cons name names ih =>
    unfold fillLoop
    by_cases hhidden : hiddenName name
    · have hskip : wifiNames (name :: names) = wifiNames names :=
        List.filter_cons_of_neg (by simp [hhidden])
      obtain ⟨k, h⟩ := ih i
      rw [if_pos hhidden]
      exact ⟨k, hskip ▸ h.le, h.index, hskip ▸ h.name, h.malloc, hskip ▸ h.completed, h.stopped⟩
    rw [if_neg hhidden]
    by_cases hwifi : isWifiInterface name
    · have htake : wifiNames (name :: names) = name :: wifiNames names :=
        List.filter_cons_of_pos (by simp [hhidden, hwifi])
      rw [if_pos hwifi]
      by_cases hmalloc : env.mallocEntry i
      · obtain ⟨k, h⟩ := ih (i + 1)
        rw [if_pos hmalloc]
        simp only [getInterface, ne_eq, not_true_eq_false, if_false]
        refine ⟨k + 1, ?_, ?_, ?_, ?_, ?_, ?_⟩
        · rw [htake]
          exact Nat.succ_le_succ h.le
        · rw [List.map_cons, h.index]
          rfl
        · rw [List.map_cons, h.name, htake]
          rfl
        · rintro (_ | j) hj
          · exact hmalloc
          · have := h.malloc j (Nat.lt_of_succ_lt_succ hj)
            rwa [Nat.add_right_comm] at this
        · rw [h.completed, htake, List.length_cons, Nat.add_right_cancel_iff]
        · intro hstop
          have := h.stopped hstop
          rwa [Nat.add_right_comm] at this
      · rw [if_neg hmalloc]
        refine ⟨0, Nat.zero_le _, rfl, rfl, nofun, ?_, fun _ => by simpa using hmalloc⟩
        rw [htake]
        exact iff_of_false nofun nofun
    · have hskip : wifiNames (name :: names) = wifiNames names :=
        List.filter_cons_of_neg (by simp [hwifi])
      obtain ⟨k, h⟩ := ih i
      rw [if_neg hwifi]
      exact ⟨k, hskip ▸ h.le, h.index, hskip ▸ h.name, h.malloc, hskip ▸ h.completed, h.stopped⟩

/-! ## Enumerating -/

section Enumerate

variable {env : NetEnv} {handle : Nat}

/-- Without a second pass nothing is written. -/
theorem not_fills (handle : Nat) (h : ¬ ∃ first second, Fills env first second) :
    (wifiInitInterfaces env handle).writes = [] ∧
      (wifiInitInterfaces env handle).ret ≠ some WIFI_SUCCESS := by
  unfold wifiInitInterfaces
  split
  · exact ⟨rfl, by decide⟩
  rename_i first hfirst
  simp only [countLoop_eq, Nat.zero_add]
  split
  · exact ⟨rfl, by decide⟩
  rename_i hfound
  split
  · exact ⟨rfl, by decide⟩
  rename_i second hsecond
  split
  · rename_i htable
    exact absurd ⟨first, second, hfirst, hsecond, fun h0 => hfound (by rw [h0]; rfl), htable⟩ h
  · exact ⟨rfl, by decide⟩

/-- The second pass is made over the second listing. -/
theorem fills_eq (handle : Nat) {first second : List NetName} (h : Fills env first second) :
    wifiInitInterfaces env handle =
      ⟨if (fillLoop env handle second 0).2 then some WIFI_SUCCESS else none,
        (wifiNames first).length, (fillLoop env handle second 0).1,
        if (fillLoop env handle second 0).2 then some (wifiNames first).length else none⟩ := by
  have hfound : (wifiNames first).length ≠ 0 := fun h0 =>
    h.found (List.eq_nil_of_length_eq_zero h0)
  simp only [wifiInitInterfaces, h.listing1, h.listing2, h.mallocTable, countLoop_eq, Nat.zero_add,
    if_neg hfound, if_true]
  cases (fillLoop env handle second 0).2 <;> rfl

/-- Names that fit are stored as they are. -/
theorem map_take_eq_iff {names : List NetName} :
    names.map (List.take (IFACE_NAME_SIZE - 1)) = names ↔
      ∀ name ∈ names, name.length < IFACE_NAME_SIZE := by
  have hself : names.map (List.take (IFACE_NAME_SIZE - 1)) = names.map id ↔
      ∀ name ∈ names, name.take (IFACE_NAME_SIZE - 1) = name := List.map_inj_left
  rw [List.map_id] at hself
  rw [hself]
  refine forall₂_congr fun name _ => ?_
  rw [List.take_eq_self_iff]
  exact Nat.lt_succ_iff.symm

namespace Filled

variable {names : List NetName} {k n : Nat} {r : List (Nat × InterfaceInfo) × Bool}

/-- The pass goes on as long as there is memory. -/
theorem reach (h : Filled env names 0 k r) {k' : Nat} (hle : k' ≤ (wifiNames names).length)
    (hmalloc : ∀ i < k', env.mallocEntry i = true) : k' ≤ k := by
  cases hover : r.2 with
  | true => exact (h.completed.mp hover) ▸ hle
  | false =>
    have hstop := h.stopped hover
    rw [Nat.zero_add] at hstop
    by_contra hlt
    rw [hmalloc k (by omega)] at hstop
    cases hstop

theorem inBounds_iff (h : Filled env names 0 k r) : (∀ w ∈ r.1, w.1 < n) ↔ k ≤ n := by
  have hindex : (∀ i ∈ r.1.map Prod.fst, i < n) ↔ k ≤ n := by
    rw [h.index, ← List.range_eq_range']
    constructor
    · intro hall
      by_contra hlt
      exact Nat.lt_irrefl n (hall n (List.mem_range.mpr (by omega)))
    · intro hle i hi
      exact Nat.lt_of_lt_of_le (List.mem_range.mp hi) hle
  rw [← hindex, List.forall_mem_map]

end Filled

/-- **When the interfaces are enumerated right.** -/
theorem enumerated_iff (env : NetEnv) (handle : Nat) :
    Enumerated env (wifiInitInterfaces env handle) ↔
      ∀ first second, Fills env first second → SameInterfaces env first second := by
  by_cases hfills : ∃ first second, Fills env first second
  · obtain ⟨first, second, hf⟩ := hfills
    obtain ⟨k, hk⟩ := fillLoop_spec env handle second 0
    have heq := fills_eq handle hf
    have hret : (wifiInitInterfaces env handle).ret = some WIFI_SUCCESS ↔
        k = (wifiNames second).length := by
      rw [heq, ← hk.completed]
      cases (fillLoop env handle second 0).2 <;> simp
    have hwrites : (wifiInitInterfaces env handle).writes = (fillLoop env handle second 0).1 := by
      rw [heq]
    have hnum : k = (wifiNames second).length →
        (wifiInitInterfaces env handle).numInterfaces = some (wifiNames first).length := by
      intro hk'
      rw [heq]
      exact if_pos (hk.completed.mpr hk')
    have hbounds : (∀ w ∈ (wifiInitInterfaces env handle).writes,
        w.1 < (wifiInitInterfaces env handle).allocated) ↔ k ≤ (wifiNames first).length := by
      rw [heq]
      exact hk.inBounds_iff
    constructor
    · intro h first' second' hf'
      obtain rfl := Option.some.inj (hf.listing1.symm.trans hf'.listing1)
      obtain rfl := Option.some.inj (hf.listing2.symm.trans hf'.listing2)
      have hle := hbounds.mp h.inBounds
      refine ⟨fun k' hk' hmalloc => Nat.le_trans (hk.reach hk' hmalloc) hle, fun hmalloc => ?_⟩
      have hall := Nat.le_antisymm hk.le (hk.reach (Nat.le_refl _) hmalloc)
      obtain ⟨n, hn, hrange⟩ := h.initialised (hret.mpr hall)
      obtain rfl := Option.some.inj ((hnum hall).symm.trans hn)
      obtain ⟨second', hsecond, hnames⟩ := h.names (hret.mpr hall)
      obtain rfl := Option.some.inj (hf.listing2.symm.trans hsecond)
      rw [hwrites, hk.index, hall] at hrange
      rw [hwrites, hk.name, hall, List.take_length, map_take_eq_iff] at hnames
      have hlen := congrArg List.length hrange
      rw [List.length_range', List.length_range] at hlen
      exact ⟨hlen, hnames⟩
    · intro h
      obtain ⟨hatMost, hall⟩ := h first second hf
      have hmalloc : ∀ i < k, env.mallocEntry i = true := by
        intro i hi
        have := hk.malloc i hi
        rwa [Nat.zero_add] at this
      refine ⟨hbounds.mpr (hatMost k hk.le hmalloc), fun hok => ?_, fun hok => ?_⟩
      · have hk' := hret.mp hok
        refine ⟨(wifiNames first).length, hnum hk', ?_⟩
        rw [hwrites, hk.index, ← List.range_eq_range', hk', (hall (hk' ▸ hmalloc)).1]
      · have hk' := hret.mp hok
        refine ⟨second, hf.listing2, ?_⟩
        rw [hwrites, hk.name, hk', List.take_length, map_take_eq_iff]
        exact (hall (hk' ▸ hmalloc)).2
  · obtain ⟨hnone, hret⟩ := not_fills handle hfills
    refine iff_of_true ⟨?_, fun h => absurd h hret, fun h => absurd h hret⟩
      fun first second hf => absurd ⟨first, second, hf⟩ hfills
    rw [hnone]
    exact nofun

end Enumerate

/-- An interface that appears between the two passes. -/
theorem not_enumerated : ¬ ∀ (env : NetEnv) (handle : Nat),
    Enumerated env (wifiInitInterfaces env handle) := by
  intro hall
  have h := (hall ⟨some ["wlan0".toList], some ["wlan0".toList, "p2p0".toList], true,
    fun _ => true, fun _ => 0⟩ 0).inBounds
  exact absurd h (by decide)

end Sloane.WifiHal
