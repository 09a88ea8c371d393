import Sloane.WifiHal.HalTables

/-!
# Starting and cancelling commands

Model of `start` and `cancel` of the command classes in `gscan.cpp`, `rtt.cpp` and
`wifi_hal.cpp`, of the eight APIs that start a command, and of `wifi_cancel_cmd`.

Every `start` is a sequence of the same four statements, so it is given as a list of
`StartStep`, one for each statement of the source in its order, and executed by `runStart`.  The
netlink requests are an oracle: any result that `requestResponse` can return.

* `runStart_eq` — a `start` registers some events and, when a request fails, unregisters others.
* `CommandClass.cancel_info` — cancelling unregisters the events of the class.
* `CommandClass.outcome_spec` — every `start` rolls back at least what it registered.
-/

namespace Sloane.WifiHal

open Sloane.Lib

/-! ## Results of building and sending a request -/

/-- What building or sending a netlink request returns: 0 or a negative error. -/
abbrev NlResult := { r : Int // r ≤ 0 }

theorem success_nonpos : WIFI_SUCCESS ≤ 0 := Int.le_refl 0

/-- The loop `while (err > 0)` of `requestResponse`; `errs` are the values that `err` has after
each `nl_recvmsgs`.  `none`: the loop is still waiting. -/
def requestResponseLoop (err : Int) : List Int → Option NlResult
  | [] => if h : err ≤ 0 then some ⟨err, h⟩ else none
  | e :: errs => if h : err ≤ 0 then some ⟨err, h⟩ else requestResponseLoop e errs

/-- `WifiCommand::requestResponse`: `cbAlloc` and `sent` are the outcomes of `nl_cb_alloc` and
`nl_send_auto_complete`.  Without a callback structure nothing is sent and 0 is returned. -/
def requestResponse (cbAlloc : Bool) (sent : Int) (errs : List Int) : Option NlResult :=
  if cbAlloc then
    if h : sent < 0 then some ⟨sent, by omega⟩ else requestResponseLoop 1 errs
  else some ⟨0, Int.le_refl 0⟩

/-! ## `start` -/

/-- The two forms of the test for failure, `result < 0` and `result != WIFI_SUCCESS`. -/
inductive Check where
  | lt
  | ne
  deriving DecidableEq, Repr

def Check.failed : Check → Int → Bool
  | .lt, result => decide (result < 0)
  | .ne, result => decide (result ≠ WIFI_SUCCESS)

/-- A statement of a `start` method. -/
inductive StartStep where
  /-- `result = create…Request(request); if (failed) return result;` -/
  | create (c : Check)
  /-- `result = requestResponse(request); if (failed) { unregister…; return result; }` -/
  | send (c : Check) (rollback : List VendorEvent)
  /-- `registerVendorHandler(GOOGLE_OUI, e);` -/
  | register (e : VendorEvent)
  /-- `if (failed) { unregister…; return result; }` on the result already tested. -/
  | recheck (c : Check) (rollback : List VendorEvent)
  deriving DecidableEq, Repr

/-- Execute the statements of a `start`; `ρ` gives the results of its requests in order. -/
def runStart (cmd : WifiCommand) :
    List StartStep → (Nat → NlResult) → Int → HalInfo → Int × HalInfo
  | [], _, result, info => (result, info)
  | .create c :: steps, ρ, _, info =>
      let result := (ρ 0).val
      if c.failed result then (result, info)
      else runStart cmd steps (fun n => ρ (n + 1)) result info
  | .send c rollback :: steps, ρ, _, info =>
      let result := (ρ 0).val
      if c.failed result then (result, unregisterAll rollback info)
      else runStart cmd steps (fun n => ρ (n + 1)) result info
  | .register e :: steps, ρ, result, info =>
      runStart cmd steps ρ result
        (wifiRegisterVendorHandler info GOOGLE_OUI e.subcmd .eventHandler cmd).2
  | .recheck c rollback :: steps, ρ, result, info =>
      if c.failed result then (result, unregisterAll rollback info)
      else runStart cmd steps ρ result info

def FullScanResultsCommand.start : List StartStep :=
  [.create .ne, .register .fullScanResults, .send .ne [.fullScanResults]]

def ScanCommand.start : List StartStep :=
  [.create .ne, .send .ne [], .create .ne, .send .ne [], .create .ne,
    .register .scanResultsAvailable, .register .completeScan, .register .fullScanResults,
    .send .ne [.completeScan, .scanResultsAvailable, .fullScanResults]]

/-- The first request is rolled back before anything is registered. -/
def BssidHotlistCommand.start : List StartStep :=
  [.create .lt, .send .lt [.hotlistResultsFound, .hotlistResultsLost], .create .lt,
    .register .hotlistResultsFound, .register .hotlistResultsLost,
    .send .lt [.hotlistResultsFound, .hotlistResultsLost]]

def EPNOCommand.start : List StartStep :=
  [.create .lt, .send .lt [.epnoEvent], .register .epnoEvent]

def SignificantWifiChangeCommand.start : List StartStep :=
  [.create .lt, .send .lt [], .create .lt, .register .significantChangeResults,
    .send .lt [.significantChangeResults]]

def RttCommand.start : List StartStep :=
  [.create .ne, .send .ne [], .register .rttComplete]

/-- The result is tested again after the registration, without a request in between. -/
def SetRSSIMonitorCommand.start : List StartStep :=
  [.create .lt, .send .lt [], .register .rssiMonitor, .recheck .lt [.rssiMonitor]]

def AnqpoConfigureCommand.start : List StartStep :=
  [.create .ne, .register .anqpoHotspotMatch, .send .ne [.anqpoHotspotMatch]]

/-- The virtual method `start`. -/
def CommandClass.start : CommandClass → List StartStep
  | .fullScanResults => FullScanResultsCommand.start
  | .scan => ScanCommand.start
  | .bssidHotlist => BssidHotlistCommand.start
  | .epno => EPNOCommand.start
  | .significantWifiChange => SignificantWifiChangeCommand.start
  | .rtt => RttCommand.start
  | .setRSSIMonitor => SetRSSIMonitorCommand.start
  | .anqpoConfigure => AnqpoConfigureCommand.start

/-! ## `cancel` -/

/-- A `cancel` that first asks the driver to stop; the results are logged only. -/
def cancelAfterRequest (es : List VendorEvent) (_ρ : Nat → NlResult) (info : HalInfo) :
    Int × HalInfo :=
  (WIFI_SUCCESS, unregisterAll es info)

/-- A `cancel` that unregisters first and then tears the feature down. -/
def cancelBeforeRequest (es : List VendorEvent) (ρ : Nat → NlResult) (info : HalInfo) :
    Int × HalInfo :=
  let info := unregisterAll es info
  if (ρ 0).val < 0 then ((ρ 0).val, info) else ((ρ 1).val, info)

def FullScanResultsCommand.cancel := cancelAfterRequest [.fullScanResults]

def ScanCommand.cancel :=
  cancelAfterRequest [.completeScan, .scanResultsAvailable, .fullScanResults]

def BssidHotlistCommand.cancel := cancelBeforeRequest [.hotlistResultsFound, .hotlistResultsLost]

def EPNOCommand.cancel := cancelBeforeRequest [.epnoEvent]

def SignificantWifiChangeCommand.cancel := cancelBeforeRequest [.significantChangeResults]

def RttCommand.cancel := cancelAfterRequest [.rttComplete]

/-- `RttCommand::cancel_specific`, the same with a list of addresses in the request. -/
def RttCommand.cancelSpecific := cancelAfterRequest [.rttComplete]

def SetRSSIMonitorCommand.cancel := cancelAfterRequest [.rssiMonitor]

def AnqpoConfigureCommand.cancel := cancelAfterRequest [.anqpoHotspotMatch]

/-- The virtual method `cancel`. -/
def CommandClass.cancel : CommandClass → (Nat → NlResult) → HalInfo → Int × HalInfo
  | .fullScanResults => FullScanResultsCommand.cancel
  | .scan => ScanCommand.cancel
  | .bssidHotlist => BssidHotlistCommand.cancel
  | .epno => EPNOCommand.cancel
  | .significantWifiChange => SignificantWifiChangeCommand.cancel
  | .rtt => RttCommand.cancel
  | .setRSSIMonitor => SetRSSIMonitorCommand.cancel
  | .anqpoConfigure => AnqpoConfigureCommand.cancel

/-! ## The APIs -/

/-- What an API leaves: its return value, the tables, and the command object it released. -/
structure ApiResult where
  ret : Int
  info : HalInfo
  released : Option WifiCommand
  deriving DecidableEq

/-- The environment of a start API: whether `new` succeeds, and the results of the requests. -/
structure StartEnv where
  allocated : Bool
  netlink : Nat → NlResult

/-- The common body of the start APIs, for an object `obj` of class `cls`. -/
def startCommand (cls : CommandClass) (id : Int) (obj : Nat) (env : StartEnv) (info : HalInfo) :
    ApiResult :=
  if !env.allocated then ⟨WIFI_ERROR_OUT_OF_MEMORY, info, none⟩ else
  let cmd : WifiCommand := ⟨obj, cls, id⟩
  let (result, info) := wifiRegisterCmd info id cmd
  if result ≠ WIFI_SUCCESS then ⟨result, info, some cmd⟩ else
  let (result, info) := runStart cmd cls.start env.netlink WIFI_SUCCESS info
  if result ≠ WIFI_SUCCESS then ⟨result, (wifiUnregisterCmd info id).2, some cmd⟩ else
  ⟨result, info, none⟩

def wifiStartGscan := startCommand .scan
def wifiEnableFullScanResults := startCommand .fullScanResults
def wifiSetBssidHotlist := startCommand .bssidHotlist
def wifiSetEpnoList := startCommand .epno
def wifiSetSignificantChangeHandler := startCommand .significantWifiChange
def wifiRttRangeRequest := startCommand .rtt
def wifiStartRssiMonitoring := startCommand .setRSSIMonitor
def wifiSetPasspointList := startCommand .anqpoConfigure

/-- The start API of a class. -/
def startApi : CommandClass → Int → Nat → StartEnv → HalInfo → ApiResult
  | .scan => wifiStartGscan
  | .fullScanResults => wifiEnableFullScanResults
  | .bssidHotlist => wifiSetBssidHotlist
  | .epno => wifiSetEpnoList
  | .significantWifiChange => wifiSetSignificantChangeHandler
  | .rtt => wifiRttRangeRequest
  | .setRSSIMonitor => wifiStartRssiMonitoring
  | .anqpoConfigure => wifiSetPasspointList

theorem startApi_eq (cls : CommandClass) : startApi cls = startCommand cls := by
  cases cls <;> rfl

def wifiCancelCmd (id : Int) (ρ : Nat → NlResult) (info : HalInfo) : ApiResult :=
  match wifiUnregisterCmd info id with
  | (some cmd, info) => ⟨WIFI_SUCCESS, (cmd.cls.cancel ρ info).2, some cmd⟩
  | (none, info) => ⟨WIFI_ERROR_INVALID_ARGS, info, none⟩

/-- The stop APIs with `id == -1`: a command made for the purpose, never registered, is
cancelled and released.  `wifi_disable_full_scan_results` gives it the id 0. -/
def cancelUnregistered (cls : CommandClass) (obj : Nat) (ρ : Nat → NlResult) (info : HalInfo) :
    ApiResult :=
  ⟨WIFI_SUCCESS, (cls.cancel ρ info).2,
    some ⟨obj, cls, if cls = .fullScanResults then 0 else -1⟩⟩

/-- The classes whose stop API has that case. -/
def CommandClass.stopsUnregistered : CommandClass → Bool
  | .scan | .fullScanResults | .epno | .setRSSIMonitor => true
  | .bssidHotlist | .significantWifiChange | .rtt | .anqpoConfigure => false

def wifiRttRangeCancel (id : Int) (obj : Nat) (ρ : Nat → NlResult) (info : HalInfo) : ApiResult :=
  ⟨WIFI_SUCCESS, (RttCommand.cancelSpecific ρ info).2, some ⟨obj, .rtt, id⟩⟩

/-- `RttCommand::handleEvent` on the last result: the command takes itself out of the tables.
The object released is whatever is stored under its id. -/
def RttCommand.handleComplete (cmd : WifiCommand) (info : HalInfo) : ApiResult :=
  let info := unregisterAll [.rttComplete] info
  let (found, info) := wifiUnregisterCmd info cmd.mId
  ⟨WIFI_SUCCESS, info, found⟩

/-! ## The events of a class -/

/-- The events a command of the class needs, in the order in which `cancel` unregisters them. -/
def CommandClass.events : CommandClass → List VendorEvent
  | .fullScanResults => [.fullScanResults]
  | .scan => [.completeScan, .scanResultsAvailable, .fullScanResults]
  | .bssidHotlist => [.hotlistResultsFound, .hotlistResultsLost]
  | .epno => [.epnoEvent]
  | .significantWifiChange => [.significantChangeResults]
  | .rtt => [.rttComplete]
  | .setRSSIMonitor => [.rssiMonitor]
  | .anqpoConfigure => [.anqpoHotspotMatch]

theorem CommandClass.events_nodup (cls : CommandClass) : cls.events.Nodup := by
  cases cls <;> decide

theorem CommandClass.eventKeys_nodup (cls : CommandClass) :
    (cls.events.map VendorEvent.key).Nodup :=
  cls.events_nodup.map VendorEvent.key_injective

theorem CommandClass.cancel_info (cls : CommandClass) (ρ : Nat → NlResult) (info : HalInfo) :
    (cls.cancel ρ info).2 = unregisterAll cls.events info := by
  have hbefore : ∀ es, (cancelBeforeRequest es ρ info).2 = unregisterAll es info := by
    intro es
    unfold cancelBeforeRequest
    split <;> rfl
  cases cls
  case bssidHotlist => exact hbefore _
  case epno => exact hbefore _
  case significantWifiChange => exact hbefore _
  all_goals rfl

/-- Which events a `start` has registered when it ends, and which it then unregisters because a
request failed; `none` when every request succeeded. -/
def netlinkOutcome :
    List StartStep → (Nat → NlResult) → List VendorEvent × Option (List VendorEvent)
  | [], _ => ([], none)
  | .create c :: steps, ρ =>
      if c.failed (ρ 0).val then ([], some []) else netlinkOutcome steps fun n => ρ (n + 1)
  | .send c rollback :: steps, ρ =>
      if c.failed (ρ 0).val then ([], some rollback) else netlinkOutcome steps fun n => ρ (n + 1)
  | .register e :: steps, ρ => ((e :: (netlinkOutcome steps ρ).1), (netlinkOutcome steps ρ).2)
  | .recheck _ _ :: steps, ρ => netlinkOutcome steps ρ

theorem Check.failed_of_ne {c : Check} {r : NlResult} (hr : r.val ≠ WIFI_SUCCESS) :
    c.failed r.val = true := by
  have hle := r.property
  cases c with
  | lt =>
    have hlt : r.val < 0 := Int.lt_iff_le_and_ne.mpr ⟨hle, hr⟩
    simpa [Check.failed] using hlt
  | ne => simpa [Check.failed] using hr

theorem Check.failed_success (c : Check) : c.failed WIFI_SUCCESS = false := by
  cases c <;> decide

/-- **What a `start` does to the tables**, and that it reports failure exactly when it rolls
back. -/
theorem runStart_eq (cmd : WifiCommand) (steps : List StartStep) (ρ : Nat → NlResult)
    (info : HalInfo) :
    (runStart cmd steps ρ WIFI_SUCCESS info).2 =
        unregisterAll ((netlinkOutcome steps ρ).2.getD [])
          (registerAll cmd (netlinkOutcome steps ρ).1 info) ∧
      ((runStart cmd steps ρ WIFI_SUCCESS info).1 ≠ WIFI_SUCCESS ↔
        (netlinkOutcome steps ρ).2 ≠ none) := by
  induction steps generalizing ρ info with
  | nil => simp [runStart, netlinkOutcome]
  | cons st steps ih =>
    cases st with
    | create c =>
      unfold runStart netlinkOutcome
      by_cases hr : (ρ 0).val = WIFI_SUCCESS
      · simp only [hr, c.failed_success, Bool.false_eq_true, if_false]
        exact ih _ info
      · simp [Check.failed_of_ne hr, hr]
    | send c rollback =>
      unfold runStart netlinkOutcome
      by_cases hr : (ρ 0).val = WIFI_SUCCESS
      · simp only [hr, c.failed_success, Bool.false_eq_true, if_false]
        exact ih _ info
      · simp [Check.failed_of_ne hr, hr]
    | register e => exact ih ρ _
    | recheck c rollback =>
      -- the result was already tested when this statement is reached
      unfold runStart netlinkOutcome
      simp only [c.failed_success, Bool.false_eq_true, if_false]
      exact ih ρ info

/-- The events that a `start` registers when every request succeeds. -/
def registeredEvents : List StartStep → List VendorEvent
  | [] => []
  | .register e :: steps => e :: registeredEvents steps
  | .create _ :: steps | .send _ _ :: steps | .recheck _ _ :: steps => registeredEvents steps

/-- Wherever a request can fail, the roll-back is part of `es` and has every event registered until
then; `reg` are those registered already. -/
def RollsBack (es reg : List VendorEvent) : List StartStep → Prop
  | [] => True
  | .create _ :: steps => reg = [] ∧ RollsBack es reg steps
  | .send _ rollback :: steps =>
      (rollback.Nodup ∧ rollback ⊆ es ∧ reg ⊆ rollback) ∧ RollsBack es reg steps
  | .register e :: steps => RollsBack es (e :: reg) steps
  | .recheck _ _ :: steps => RollsBack es reg steps

instance (es : List VendorEvent) :
    (reg : List VendorEvent) → (steps : List StartStep) → Decidable (RollsBack es reg steps)
  | _, [] => .isTrue trivial
  | reg, .create _ :: steps =>
      have := instDecidableRollsBack es reg steps
      inferInstanceAs (Decidable (reg = [] ∧ RollsBack es reg steps))
  | reg, .send _ rollback :: steps =>
      have := instDecidableRollsBack es reg steps
      inferInstanceAs (Decidable ((rollback.Nodup ∧ rollback ⊆ es ∧ reg ⊆ rollback) ∧ _))
  | reg, .register e :: steps => instDecidableRollsBack es (e :: reg) steps
  | reg, .recheck _ _ :: steps => instDecidableRollsBack es reg steps

theorem netlinkOutcome_registered (steps : List StartStep) (ρ : Nat → NlResult) :
    (netlinkOutcome steps ρ).1.Sublist (registeredEvents steps) ∧
      ((netlinkOutcome steps ρ).2 = none →
        (netlinkOutcome steps ρ).1 = registeredEvents steps) := by
  induction steps generalizing ρ with
  | nil => exact ⟨.refl _, fun _ => rfl⟩
  | cons st steps ih =>
    cases st with
    | create c =>
      unfold netlinkOutcome
      split
      · exact ⟨List.nil_sublist _, nofun⟩
      · exact ih _
    | send c rollback =>
      unfold netlinkOutcome
      split
      · exact ⟨List.nil_sublist _, nofun⟩
      · exact ih _
    | register e =>
      obtain ⟨hsub, hall⟩ := ih ρ
      exact ⟨hsub.cons_cons e, fun hnone => congrArg (e :: ·) (hall hnone)⟩
    | recheck c rollback => exact ih ρ

theorem RollsBack.outcome {es reg : List VendorEvent} {steps : List StartStep}
    (h : RollsBack es reg steps) {ρ : Nat → NlResult} {rollback : List VendorEvent}
    (hout : (netlinkOutcome steps ρ).2 = some rollback) :
    rollback.Nodup ∧ rollback ⊆ es ∧ reg ⊆ rollback ∧
      (netlinkOutcome steps ρ).1 ⊆ rollback := by
  induction steps generalizing reg ρ with
  | nil => cases hout
  | cons st steps ih =>
    cases st with
    | create c =>
      obtain ⟨rfl, h⟩ := h
      unfold netlinkOutcome at hout ⊢
      split at hout
      · rename_i hfailed
        obtain rfl := Option.some.inj hout
        rw [if_pos hfailed]
        simp
      · rename_i hok
        rw [if_neg hok]
        exact ih h hout
    | send c rollback' =>
      obtain ⟨⟨hnodup, hes, hreg⟩, h⟩ := h
      unfold netlinkOutcome at hout ⊢
      split at hout
      · rename_i hfailed
        obtain rfl := Option.some.inj hout
        rw [if_pos hfailed]
        exact ⟨hnodup, hes, hreg, List.nil_subset _⟩
      · rename_i hok
        rw [if_neg hok]
        exact ih h hout
    | register e =>
      obtain ⟨hnodup, hes, hreg, hsub⟩ := ih h hout
      obtain ⟨he, hreg⟩ := List.cons_subset.mp hreg
      exact ⟨hnodup, hes, hreg, List.cons_subset.mpr ⟨he, hsub⟩⟩
    | recheck c rollback' => exact ih h hout

theorem CommandClass.start_rollsBack (cls : CommandClass) :
    RollsBack cls.events [] cls.start := by
  cases cls <;> decide

/-- A `start` registers the events of its class, each once. -/
theorem CommandClass.start_registers (cls : CommandClass) :
    (registeredEvents cls.start).Perm cls.events := by
  cases cls <;> decide

/-- **Every `start` rolls back at least what it registered**, at every point where it can fail,
and registers all events of its class when it does not. -/
theorem CommandClass.outcome_spec (cls : CommandClass) (ρ : Nat → NlResult) :
    (netlinkOutcome cls.start ρ).1.Nodup ∧
    (∀ e ∈ (netlinkOutcome cls.start ρ).1, e ∈ cls.events) ∧
    ((netlinkOutcome cls.start ρ).2 = none →
      (netlinkOutcome cls.start ρ).1.length = cls.events.length ∧
        ∀ e ∈ cls.events, e ∈ (netlinkOutcome cls.start ρ).1) ∧
    ∀ rollback, (netlinkOutcome cls.start ρ).2 = some rollback →
      rollback.Nodup ∧ (∀ e ∈ rollback, e ∈ cls.events) ∧
        ∀ e ∈ (netlinkOutcome cls.start ρ).1, e ∈ rollback := by
  obtain ⟨hsub, hall⟩ := netlinkOutcome_registered cls.start ρ
  have hperm := cls.start_registers
  refine ⟨?_, ?_, ?_, ?_⟩
  · exact (hperm.nodup_iff.mpr cls.events_nodup).sublist hsub
  · intro e he
    exact hperm.mem_iff.mp (hsub.subset he)
  · intro hnone
    rw [hall hnone]
    exact ⟨hperm.length_eq, fun e he => hperm.mem_iff.mpr he⟩
  · intro rollback hout
    obtain ⟨hnodup, hes, -, hreg⟩ := cls.start_rollsBack.outcome hout
    exact ⟨hnodup, fun e he => hes he, fun e he => hreg he⟩

end Sloane.WifiHal
