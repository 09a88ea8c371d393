import Sloane.WifiHal.Commands

/-!
# Configuring the Passpoint networks

Model of `AnqpoConfigureCommand::createRequest` and of `start` and `cancel` as far as they build and
send it (`gscan.cpp`), with `WifiRequest::create` (`cpp_bindings.cpp`).  What libnl answers is an
input; a call on a message or a nest that is NULL is a fault.  `mNetworks` is the memory of the
caller, and the entries read from it are recorded.

* `createRequest_val` — the count given to `createRequest` is not used.
* `addNetworks_spec` — which networks are read, and what is put.
* `clearsList_iff` — `cancel` clears the list exactly when there was none, or no request goes out.
-/

namespace Sloane.WifiHal

/-! ## Messages -/

/-- `NL80211_ATTR_IFINDEX` and the vendor attributes of the kernel header. -/
def NL80211_ATTR_IFINDEX : Nat := 3
def NL80211_ATTR_VENDOR_ID : Nat := 195
def NL80211_ATTR_VENDOR_SUBCMD : Nat := 196
def NL80211_ATTR_VENDOR_DATA : Nat := 197

def GSCAN_SUBCMD_ANQPO_CONFIG : UInt32 := 0x1015

def GSCAN_ATTRIBUTE_ANQPO_HS_LIST : Nat := 110
def GSCAN_ATTRIBUTE_ANQPO_HS_LIST_SIZE : Nat := 111
def GSCAN_ATTRIBUTE_ANQPO_HS_NETWORK_ID : Nat := 112
def GSCAN_ATTRIBUTE_ANQPO_HS_NAI_REALM : Nat := 113
def GSCAN_ATTRIBUTE_ANQPO_HS_ROAM_CONSORTIUM_ID : Nat := 114
def GSCAN_ATTRIBUTE_ANQPO_HS_PLMN : Nat := 115

/-- An attribute of a message: a number, bytes, or attributes. -/
inductive MsgAttr where
  | u32 (type : Nat) (value : UInt32)
  | put (type : Nat) (bytes : List UInt8)
  | nest (type : Nat) (attrs : List MsgAttr)

/-- The answers of libnl: whether `nlmsg_alloc` succeeds, and the results of the calls of `nla_put`
and `nla_nest_start`; a nest is NULL where the result is not 0. -/
structure NlAnswers where
  alloc : Bool
  result : Nat → NlResult

/-- `WifiRequest::create(id, subcmd)`: the message, if there is one, and the number of calls made.
Its result is not looked at. -/
def WifiRequest.create (nl : NlAnswers) (iface : Int) (id subcmd : UInt32) :
    Option (List MsgAttr × Nat) :=
  if nl.alloc then
    if (nl.result 0).val < 0 then some ([], 1)
    else if (nl.result 1).val < 0 then some ([.u32 NL80211_ATTR_VENDOR_ID id], 2)
    else
      let attrs := [.u32 NL80211_ATTR_VENDOR_ID id, .u32 NL80211_ATTR_VENDOR_SUBCMD subcmd]
      if iface ≠ -1 then
        if (nl.result 2).val < 0 then some (attrs, 3)
        else some (attrs ++ [.u32 NL80211_ATTR_IFINDEX (UInt32.ofInt iface)], 3)
      else some (attrs, 2)
  else none

/-! ## The request -/

/-- `wifi_passpoint_network`. -/
structure PasspointNetwork where
  id : Int32
  realm : List UInt8
  roamingConsortiumIds : List UInt8
  plmn : List UInt8

/-- The nest for a network. -/
def PasspointNetwork.entry (i : Nat) (network : PasspointNetwork) : MsgAttr :=
  .nest i [
    .u32 GSCAN_ATTRIBUTE_ANQPO_HS_NETWORK_ID network.id.toUInt32,
    .put GSCAN_ATTRIBUTE_ANQPO_HS_NAI_REALM (network.realm.take 256),
    .put GSCAN_ATTRIBUTE_ANQPO_HS_ROAM_CONSORTIUM_ID (network.roamingConsortiumIds.take 128),
    .put GSCAN_ATTRIBUTE_ANQPO_HS_PLMN (network.plmn.take 3)]

/-- How building a request ends. -/
inductive BuildEnd where
  | built (msg : List MsgAttr)
  | failed (result : Int)
  /-- a call on NULL -/
  | fault

/-- With the indices at which `mNetworks` was read. -/
structure Build where
  fate : BuildEnd
  networksRead : List Nat

/-- The result of the first of some calls that fails. -/
def firstFailure (nl : NlAnswers) (k : Nat) : Nat → Option Int
  | 0 => none
  | n + 1 => if (nl.result k).val < 0 then some (nl.result k).val else firstFailure nl (k + 1) n

/-- The loop over the networks, for `n` more of them from index `i`; `k` calls were made before.
The nests, or the result with which the function is left. -/
def addNetworks (nl : NlAnswers) (mNetworks : Nat → PasspointNetwork) :
    Nat → Nat → Nat → Except Int (List MsgAttr) × List Nat
  | 0, _, _ => (.ok [], [])
  | n + 1, i, k =>
      if (nl.result k).val ≠ 0 then (.error WIFI_ERROR_OUT_OF_MEMORY, [])
      else
        match firstFailure nl (k + 1) 4 with
        | some result => (.error result, [i])
        | none =>
            let (rest, read) := addNetworks nl mNetworks n (i + 1) (k + 5)
            (rest.map ((mNetworks i).entry i :: ·), i :: read)

/-- The members of `AnqpoConfigureCommand`, with the interface and what libnl answers. -/
structure AnqpoEnv where
  nl : NlAnswers
  iface : Int
  numHs : Int32
  mNetworks : Nat → PasspointNetwork

/-- `AnqpoConfigureCommand::createRequest`. -/
def AnqpoConfigureCommand.createRequest (env : AnqpoEnv) (_val : Int32) : Build :=
  match WifiRequest.create env.nl env.iface GOOGLE_OUI.toUInt32 GSCAN_SUBCMD_ANQPO_CONFIG with
  | none => ⟨.fault, []⟩
  | some (header, k) =>
      if (env.nl.result k).val < 0 then ⟨.failed (env.nl.result k).val, []⟩
      else
        let listSize := .u32 GSCAN_ATTRIBUTE_ANQPO_HS_LIST_SIZE env.numHs.toUInt32
        -- `data` and `attr` are not tested
        let data := (env.nl.result (k + 1)).val = 0
        let attr := (env.nl.result (k + 2)).val = 0
        match addNetworks env.nl env.mNetworks env.numHs.toInt.toNat 0 (k + 3) with
        | (.error result, read) => ⟨.failed result, read⟩
        | (.ok entries, read) =>
            if data ∧ attr then
              ⟨.built (header ++ [listSize, .nest NL80211_ATTR_VENDOR_DATA
                [.nest GSCAN_ATTRIBUTE_ANQPO_HS_LIST entries]]), read⟩
            else ⟨.fault, read⟩

/-- What is sent to the driver, and which networks were read for it. -/
structure AnqpoSent where
  msg : Option (List MsgAttr)
  networksRead : List Nat

def Build.sent (b : Build) : AnqpoSent :=
  match b.fate with
  | .built msg => ⟨some msg, b.networksRead⟩
  | _ => ⟨none, b.networksRead⟩

/-- `start` and `cancel`, up to `requestResponse`. -/
def AnqpoConfigureCommand.startRequest (env : AnqpoEnv) : AnqpoSent :=
  (AnqpoConfigureCommand.createRequest env env.numHs).sent

def AnqpoConfigureCommand.cancelRequest (env : AnqpoEnv) : AnqpoSent :=
  (AnqpoConfigureCommand.createRequest env 0).sent

/-! ## What is asked of it -/

/-- The number of networks that a request announces. -/
def announcedNetworks (msg : List MsgAttr) : Option UInt32 :=
  msg.findSome? fun
    | .u32 type value => if type = GSCAN_ATTRIBUTE_ANQPO_HS_LIST_SIZE then some value else none
    | _ => none

/-- The attributes nested in those of a type. -/
def nestedIn (type : Nat) (msg : List MsgAttr) : List MsgAttr :=
  msg.flatMap fun
    | .nest t attrs => if t = type then attrs else []
    | _ => []

/-- The entries of the network list of a request. -/
def networkEntries (msg : List MsgAttr) : List MsgAttr :=
  nestedIn GSCAN_ATTRIBUTE_ANQPO_HS_LIST (nestedIn NL80211_ATTR_VENDOR_DATA msg)

/-- The request announces no networks and has none, and the list of the caller is not read. -/
structure ClearsList (r : AnqpoSent) : Prop where
  announced : ∀ msg, r.msg = some msg → announcedNetworks msg = some 0
  entries : ∀ msg, r.msg = some msg → networkEntries msg = []
  notRead : r.networksRead = []

/-- The message or an attribute that is needed before the first network cannot be made. -/
def NoRequest (env : AnqpoEnv) : Prop :=
  match WifiRequest.create env.nl env.iface GOOGLE_OUI.toUInt32 GSCAN_SUBCMD_ANQPO_CONFIG with
  | none => True
  | some (_, k) => (env.nl.result k).val ≠ 0 ∨
      (0 < env.numHs.toInt ∧ (env.nl.result (k + 3)).val ≠ 0) ∨
      (env.numHs.toInt < 0 ∧
        ((env.nl.result (k + 1)).val ≠ 0 ∨ (env.nl.result (k + 2)).val ≠ 0))

/-! ## Building the request -/

/-- **The count that is asked for makes no difference.** -/
theorem createRequest_val (env : AnqpoEnv) (val val' : Int32) :
    AnqpoConfigureCommand.createRequest env val = AnqpoConfigureCommand.createRequest env val' :=
  rfl

/-- The attributes in front of the list are others. -/
theorem create_header {nl : NlAnswers} {iface : Int} {id subcmd : UInt32} {header : List MsgAttr}
    {k : Nat} (h : WifiRequest.create nl iface id subcmd = some (header, k)) :
    announcedNetworks header = none ∧ nestedIn NL80211_ATTR_VENDOR_DATA header = [] := by
  unfold WifiRequest.create at h
  repeat' split at h
  all_goals cases h
  all_goals exact ⟨rfl, rfl⟩

/-- A network is read unless there is none, or its nest cannot be made. -/
theorem addNetworks_spec (nl : NlAnswers) (mNetworks : Nat → PasspointNetwork) (n i k : Nat) :
    (n = 0 → addNetworks nl mNetworks n i k = (.ok [], [])) ∧
      (n ≠ 0 → (nl.result k).val ≠ 0 →
        addNetworks nl mNetworks n i k = (.error WIFI_ERROR_OUT_OF_MEMORY, [])) ∧
      (n ≠ 0 → (nl.result k).val = 0 → (addNetworks nl mNetworks n i k).2 ≠ []) := by
  cases n with
  | zero => exact ⟨fun _ => rfl, fun h => absurd rfl h, fun h => absurd rfl h⟩
  | succ n =>
    refine ⟨nofun, fun _ hroom => if_pos hroom, fun _ hroom => ?_⟩
    unfold addNetworks
    rw [if_neg (not_not.mpr hroom)]
    cases firstFailure nl (k + 1) 4 with
    | some result => simp
    | none => simp

section Cancel

variable {env : AnqpoEnv} {header : List MsgAttr} {k : Nat}

/-- A request with a list of the size announced and some entries. -/
def listRequest (env : AnqpoEnv) (header entries : List MsgAttr) : List MsgAttr :=
  header ++ [.u32 GSCAN_ATTRIBUTE_ANQPO_HS_LIST_SIZE env.numHs.toUInt32,
    .nest NL80211_ATTR_VENDOR_DATA [.nest GSCAN_ATTRIBUTE_ANQPO_HS_LIST entries]]

/-- With a message and room for the size, the loop decides. -/
theorem cancelRequest_eq
    (h : WifiRequest.create env.nl env.iface GOOGLE_OUI.toUInt32 GSCAN_SUBCMD_ANQPO_CONFIG =
      some (header, k)) (hsize : (env.nl.result k).val = 0) :
    AnqpoConfigureCommand.cancelRequest env =
      match addNetworks env.nl env.mNetworks env.numHs.toInt.toNat 0 (k + 3) with
      | (.error _, read) => ⟨none, read⟩
      | (.ok entries, read) =>
          if (env.nl.result (k + 1)).val = 0 ∧ (env.nl.result (k + 2)).val = 0 then
            ⟨some (listRequest env header entries), read⟩
          else ⟨none, read⟩ := by
  unfold AnqpoConfigureCommand.cancelRequest AnqpoConfigureCommand.createRequest
  have hok : ¬ (env.nl.result k).val < 0 := by omega
  simp only [h, if_neg hok]
  rcases addNetworks env.nl env.mNetworks env.numHs.toInt.toNat 0 (k + 3) with ⟨_ | entries, read⟩
  · rfl
  · simp only
    split <;> rfl

/-- What a request without entries says. -/
theorem listRequest_nil (env : AnqpoEnv) (hheader : announcedNetworks header = none ∧
    nestedIn NL80211_ATTR_VENDOR_DATA header = []) :
    announcedNetworks (listRequest env header []) = some env.numHs.toUInt32 ∧
      networkEntries (listRequest env header []) = [] := by
  obtain ⟨hsize, hdata⟩ := hheader
  constructor
  · rw [listRequest, announcedNetworks, List.findSome?_append]
    change (announcedNetworks header).or _ = _
    rw [hsize]
    rfl
  · have happ : nestedIn NL80211_ATTR_VENDOR_DATA (listRequest env header []) =
        nestedIn NL80211_ATTR_VENDOR_DATA header ++ [.nest GSCAN_ATTRIBUTE_ANQPO_HS_LIST []] := by
      rw [listRequest, nestedIn, List.flatMap_append]
      rfl
    rw [networkEntries, happ, hdata]
    rfl

end Cancel

theorem clearsList_of_none {read : List Nat} : ClearsList ⟨none, read⟩ ↔ read = [] :=
  ⟨fun h => h.notRead, fun h => ⟨nofun, nofun, h⟩⟩

theorem toUInt32_eq_zero {n : Int32} : n.toUInt32 = 0 ↔ n = 0 := by
  obtain ⟨n⟩ := n
  exact ⟨fun h => congrArg Int32.ofUInt32 h, fun h => congrArg Int32.toUInt32 h⟩

theorem toInt_eq_zero {n : Int32} : n.toInt = 0 ↔ n = 0 :=
  Int32.toInt_inj (y := 0)

/-- With a request that has no entries, nothing is read, and what is announced decides. -/
theorem clearsList_no_entries {env : AnqpoEnv} {header : List MsgAttr} {k : Nat}
    (hcreate : WifiRequest.create env.nl env.iface GOOGLE_OUI.toUInt32 GSCAN_SUBCMD_ANQPO_CONFIG =
      some (header, k)) (hsize : (env.nl.result k).val = 0) (hcount : env.numHs.toInt ≤ 0) :
    ClearsList (AnqpoConfigureCommand.cancelRequest env) ↔
      env.numHs = 0 ∨ (env.nl.result (k + 1)).val ≠ 0 ∨ (env.nl.result (k + 2)).val ≠ 0 := by
  have hzero := (addNetworks_spec env.nl env.mNetworks env.numHs.toInt.toNat 0 (k + 3)).1
    (Int.toNat_of_nonpos hcount)
  simp only [cancelRequest_eq hcreate hsize, hzero]
  by_cases hnests : (env.nl.result (k + 1)).val = 0 ∧ (env.nl.result (k + 2)).val = 0
  · obtain ⟨hannounced, hentries⟩ := listRequest_nil env (create_header hcreate)
    rw [if_pos hnests, or_iff_left (by omega), ← toUInt32_eq_zero]
    constructor
    · intro h
      exact Option.some.inj (hannounced.symm.trans (h.announced _ rfl))
    · intro h
      refine ⟨fun msg hmsg => ?_, fun msg hmsg => ?_, rfl⟩
      · rw [← Option.some.inj hmsg, hannounced, h]
      · rw [← Option.some.inj hmsg, hentries]
  · rw [if_neg hnests, clearsList_of_none]
    exact iff_of_true rfl (.inr (by omega))

/-- With networks, the first one is read as soon as there is room for it. -/
theorem clearsList_networks {env : AnqpoEnv} {header : List MsgAttr} {k : Nat}
    (hcreate : WifiRequest.create env.nl env.iface GOOGLE_OUI.toUInt32 GSCAN_SUBCMD_ANQPO_CONFIG =
      some (header, k)) (hsize : (env.nl.result k).val = 0) (hcount : 0 < env.numHs.toInt) :
    ClearsList (AnqpoConfigureCommand.cancelRequest env) ↔ (env.nl.result (k + 3)).val ≠ 0 := by
  obtain ⟨-, hroom, hread⟩ :=
    addNetworks_spec env.nl env.mNetworks env.numHs.toInt.toNat 0 (k + 3)
  have hn : env.numHs.toInt.toNat ≠ 0 := by omega
  by_cases hfirst : (env.nl.result (k + 3)).val = 0
  · refine iff_of_false (fun h => hread hn hfirst ?_) (not_not.mpr hfirst)
    have hnotRead := h.notRead
    rw [cancelRequest_eq hcreate hsize] at hnotRead
    revert hnotRead
    rcases addNetworks env.nl env.mNetworks env.numHs.toInt.toNat 0 (k + 3) with
      ⟨_ | entries, read⟩
    · exact id
    · intro hnotRead
      simp only at hnotRead
      split at hnotRead <;> exact hnotRead
  · simp only [cancelRequest_eq hcreate hsize, hroom hn hfirst]
    exact iff_of_true (clearsList_of_none.mpr rfl) hfirst

/-- Without a message, or room for the size in it, nothing is read or sent. -/
theorem cancelRequest_none {env : AnqpoEnv}
    (h : ∀ header k, WifiRequest.create env.nl env.iface GOOGLE_OUI.toUInt32
      GSCAN_SUBCMD_ANQPO_CONFIG = some (header, k) → (env.nl.result k).val ≠ 0) :
    AnqpoConfigureCommand.cancelRequest env = ⟨none, []⟩ := by
  unfold AnqpoConfigureCommand.cancelRequest AnqpoConfigureCommand.createRequest
  split
  · rfl
  · rename_i header k hcreate
    have hle := (env.nl.result k).property
    have hne := h header k hcreate
    rw [if_pos (by omega)]
    rfl

/-- **When `cancel` clears the list.** -/
theorem clearsList_iff (env : AnqpoEnv) :
    ClearsList (AnqpoConfigureCommand.cancelRequest env) ↔ env.numHs = 0 ∨ NoRequest env := by
  unfold NoRequest
  split
  · rename_i hcreate
    rw [cancelRequest_none (by simp [hcreate])]
    exact iff_of_true (clearsList_of_none.mpr rfl) (.inr trivial)
  rename_i header k hcreate
  by_cases hsize : (env.nl.result k).val = 0
  · rw [← toInt_eq_zero, or_iff_right (not_not.mpr hsize)]
    by_cases hcount : 0 < env.numHs.toInt
    · rw [clearsList_networks hcreate hsize hcount]
      omega
    · rw [clearsList_no_entries hcreate hsize (by omega), ← toInt_eq_zero]
      omega
  · refine iff_of_true ?_ (.inr (.inl hsize))
    rw [cancelRequest_none fun header' k' h' => ?_]
    · exact clearsList_of_none.mpr rfl
    · obtain ⟨-, rfl⟩ := Prod.mk.inj (Option.some.inj (hcreate.symm.trans h'))
      exact hsize

/-- libnl with room for everything. -/
def roomyLibnl : NlAnswers := ⟨true, fun _ => ⟨0, success_nonpos⟩⟩

/-- A list of one network. -/
theorem not_clearsList : ¬ ∀ env : AnqpoEnv,
    ClearsList (AnqpoConfigureCommand.cancelRequest env) := by
  intro hall
  have h := (hall ⟨roomyLibnl, 3, 1, fun _ => ⟨7, [], [], []⟩⟩).notRead
  exact absurd h (by decide)

end Sloane.WifiHal
