import Mathlib.Data.List.Perm.Subperm
import Sloane.WifiHal.HalRuns

/-!
# What `wifi_cancel_cmd` removes

Cancelling a command should take its own handlers out of `event_cb` and no others.  The handlers
are looked up by event alone, so this depends on whose handler comes first.

* `cancelsOwn_iff` — cancelling `b` is right iff every event of its class that has a handler is
  dispatched to `b`.
* `Exclusive.step` — while starts only touch events without a handler, every event keeps at most
  one, that of the live command it was registered for.
* `cancelCmd_removes_own` — both over the runs of the start APIs and `wifi_cancel_cmd`.
-/

namespace Sloane.WifiHal

open Sloane.Lib

/-! ## Runs with distinct request ids -/

/-- Only the start APIs and `wifi_cancel_cmd` are called, and a start uses an id that no
registered command has. -/
def DistinctIds (s : HalState) : HalAction → Prop
  | .start _ id _ => ∀ c ∈ s.info.cmd.entries, c.id ≠ id
  | .cancel _ _ => True
  | .stopUnregistered _ _ | .rttRangeCancel _ _ | .rttComplete => False

def cancelRuns : System HalState HalAction := hal.restrict DistinctIds

def IdsNodup (s : HalState) : Prop := (s.info.cmd.entries.map (·.id)).Nodup

theorem IdsNodup.step {s t : HalState} {a : HalAction} (h : IdsNodup s)
    (hs : cancelRuns.step s a t) : IdsNodup t := by
  obtain ⟨rfl, hdist⟩ := hs
  cases a with
  | start cls id env =>
    have hcase := startCommand_case cls id s.nextObj env s.info
    simp only [IdsNodup, HalState.step, startApi_eq]
    generalize startCommand cls id s.nextObj env s.info = r at hcase
    cases hcase with
    | noMemory => exact h
    | noRoom => exact h
    | started _ _ _ _ hcmd =>
      rw [hcmd, List.map_append, List.map_singleton]
      refine List.nodup_append.mpr ⟨h, List.nodup_singleton _, ?_⟩
      rintro x hx y hy rfl
      obtain ⟨c, hc, rfl⟩ := List.mem_map.mp hx
      exact hdist c hc (List.mem_singleton.mp hy)
    | failed _ _ _ _ _ hcmd =>
      rw [hcmd, eraseP_id_append hdist]
      exact h
  | cancel id ρ =>
    exact h.sublist ((wifiCancelCmd_sublist id ρ s.info).2.map _)
  | stopUnregistered => exact hdist.elim
  | rttRangeCancel => exact hdist.elim
  | rttComplete => exact hdist.elim

theorem cancelRuns_idsNodup {s : HalState} (h : cancelRuns.Reachable s) : IdsNodup s := by
  refine h.invariant ?_ fun s a t _ hs => hs.step
  rintro s rfl
  exact List.nodup_nil

/-! ## Cancelling one command -/

/-- The command is registered, under its own id. -/
def HalInfo.Registered (info : HalInfo) (b : WifiCommand) : Prop :=
  CmdInfo.mk b.mId b ∈ info.cmd.entries

/-- Cancelling `b` takes exactly its handlers out of `event_cb`, keeps the order of the others,
and releases `b`. -/
def CancelsOwn (info : HalInfo) (b : WifiCommand) (ρ : Nat → NlResult) : Prop :=
  (wifiCancelCmd b.mId ρ info).info.eventCb.entries =
      info.eventCb.entries.filter (fun c => decide (c.cbArg ≠ b)) ∧
    (wifiCancelCmd b.mId ρ info).released = some b

/-- Every event of its class that has a handler at all is dispatched to `b`. -/
def OwnsFirst (info : HalInfo) (b : WifiCommand) : Prop :=
  ∀ e ∈ b.cls.events, ∀ c, info.dispatch e = some c → c.cbArg = b

theorem find?_id {l : List CmdInfo} (hl : (l.map (·.id)).Nodup) {c : CmdInfo} (hc : c ∈ l) :
    l.find? (·.id == c.id) = some c :=
  find?_key hl hc

/-- Cancelling a registered command runs its own `cancel`. -/
theorem wifiCancelCmd_registered {s : HalState} (hids : IdsNodup s) {b : WifiCommand}
    (hb : s.info.Registered b) (ρ : Nat → NlResult) :
    (wifiCancelCmd b.mId ρ s.info).info.eventCb.entries =
        eraseKeys CbInfo.key (b.cls.events.map VendorEvent.key) s.info.eventCb.entries ∧
      (wifiCancelCmd b.mId ρ s.info).info.cmd.entries =
        s.info.cmd.entries.eraseP (·.id == b.mId) ∧
      (wifiCancelCmd b.mId ρ s.info).released = some b := by
  have hfind : s.info.cmd.entries.find? (·.id == b.mId) = some ⟨b.mId, b⟩ := find?_id hids hb
  simp only [wifiCancelCmd, wifiUnregisterCmd, hfind, Option.map_some, CommandClass.cancel_info,
    unregisterAll_eventCb, unregisterAll_cmd, BoundedTable.removeFirst_entries, and_self]

/-- An id that is not in use cancels nothing. -/
theorem wifiCancelCmd_unknown {info : HalInfo} {id : Int} (h : ∀ c ∈ info.cmd.entries, c.id ≠ id)
    (ρ : Nat → NlResult) : (wifiCancelCmd id ρ info).info = info := by
  have hnone : info.cmd.entries.find? (·.id == id) = none := by
    rw [List.find?_eq_none]
    intro c hc hid
    exact h c hc (by simpa using hid)
  have hsame : info.cmd.removeFirst (·.id == id) = info.cmd := by
    apply BoundedTable.ext_entries
    exact List.eraseP_of_forall_not (List.find?_eq_none.mp hnone)
  simp [wifiCancelCmd, wifiUnregisterCmd, hnone, hsame]

/-- **Cancelling a command is right iff its handlers come first.** -/
theorem cancelsOwn_iff {s : HalState} (hwf : WellFormed s) (hids : IdsNodup s) {b : WifiCommand}
    (hb : s.info.Registered b) (ρ : Nat → NlResult) :
    CancelsOwn s.info b ρ ↔ OwnsFirst s.info b := by
  obtain ⟨hev, -, hrel⟩ := wifiCancelCmd_registered hids hb ρ
  have hkey : ∀ c ∈ s.info.eventCb.entries, decide (c.cbArg = b) = true →
      c.key ∈ b.cls.events.map VendorEvent.key := by
    intro c hc hown
    obtain rfl := of_decide_eq_true hown
    obtain ⟨e, he, hce⟩ := hwf.owned c hc
    exact List.mem_map.mpr ⟨e, he, by rw [hce]; rfl⟩
  have huniq : ∀ c ∈ s.info.eventCb.entries, ∀ d ∈ s.info.eventCb.entries,
      decide (c.cbArg = b) = true → decide (d.cbArg = b) = true → c.key = d.key → c = d := by
    intro c _ d _ hc hd hcd
    exact CbInfo.eq_of_key_eq hcd ((of_decide_eq_true hc).trans (of_decide_eq_true hd).symm)
  have hmain := eraseKeys_eq_filter_iff b.cls.eventKeys_nodup hwf.nodup hkey huniq
  have hnot : s.info.eventCb.entries.filter (fun c => decide (c.cbArg ≠ b)) =
      s.info.eventCb.entries.filter (fun c => !decide (c.cbArg = b)) :=
    List.filter_congr fun c _ => decide_not
  unfold CancelsOwn
  rw [hev, hrel, hnot, hmain]
  simp only [and_true, List.forall_mem_map, decide_eq_true_eq]
  rfl

/-! ## Starts that touch no event in use -/

/-- The events that a start with these results registers or unregisters. -/
def touched (cls : CommandClass) (env : StartEnv) : List VendorEvent :=
  (netlinkOutcome cls.start env.netlink).1 ++
    (netlinkOutcome cls.start env.netlink).2.getD []

/-- No event that the start touches has a handler. -/
def FreshEvents (s : HalState) : HalAction → Prop
  | .start cls _ env => ∀ e ∈ touched cls env, ∀ c ∈ s.info.eventCb.entries, c.key ≠ e.key
  | .cancel _ _ | .stopUnregistered _ _ | .rttRangeCancel _ _ | .rttComplete => True

/-- Every event has at most one handler, and every registered command has all of its own. -/
structure Exclusive (s : HalState) : Prop where
  keys : (s.info.eventCb.entries.map CbInfo.key).Nodup
  held : ∀ b ∈ s.info.cmd.entries, ∀ e ∈ b.cmd.cls.events,
    b.cmd.handler e ∈ s.info.eventCb.entries

def VendorEvent.all : List VendorEvent :=
  [.significantChangeResults, .hotlistResultsFound, .scanResultsAvailable, .fullScanResults,
    .rttComplete, .completeScan, .hotlistResultsLost, .rssiMonitor, .epnoEvent,
    .anqpoHotspotMatch]

/-- With one handler for each event the table is far from full. -/
theorem Exclusive.length_le {s : HalState} (h : Exclusive s) (hwf : WellFormed s) :
    s.info.eventCb.entries.length ≤ 10 := by
  have hsub : s.info.eventCb.entries.map CbInfo.key ⊆ VendorEvent.all.map VendorEvent.key := by
    intro k hk
    obtain ⟨c, hc, rfl⟩ := List.mem_map.mp hk
    obtain ⟨e, -, hce⟩ := hwf.owned c hc
    exact List.mem_map.mpr ⟨e, by cases e <;> decide, by rw [hce]; rfl⟩
  have hle := (List.subperm_of_subset h.keys hsub).length_le
  rw [List.length_map, List.length_map] at hle
  exact hle

/-- A registered command then owns the first handler of each of its events. -/
theorem Exclusive.ownsFirst {s : HalState} (h : Exclusive s) {b : WifiCommand}
    (hb : s.info.Registered b) : OwnsFirst s.info b := by
  intro e he c hc
  have hkey : c.key = (b.handler e).key := by simpa using List.find?_some hc
  have hcb : c = b.handler e :=
    List.inj_on_of_nodup_map h.keys (List.mem_of_find?_eq_some hc) (h.held _ hb e he) hkey
  rw [hcb, WifiCommand.handler_cbArg]

/-- The roll-back of such a start leaves the tables as they were. -/
theorem failed_start_same {s : HalState} (hwf : WellFormed s) {cls : CommandClass} {id : Int}
    {env : StartEnv} {rollback : List VendorEvent} {info : HalInfo}
    (hid : ∀ c ∈ s.info.cmd.entries, c.id ≠ id) (hfresh : FreshEvents s (.start cls id env))
    (hout : (netlinkOutcome cls.start env.netlink).2 = some rollback)
    (hev : info.eventCb.entries = eraseKeys CbInfo.key (rollback.map VendorEvent.key)
      (s.info.eventCb.entries ++
        s.info.added ⟨s.nextObj, cls, id⟩ (netlinkOutcome cls.start env.netlink).1))
    (hcmd : info.cmd.entries =
      (s.info.cmd.entries ++ [CmdInfo.mk id ⟨s.nextObj, cls, id⟩]).eraseP (·.id == id)) :
    info.eventCb.entries = s.info.eventCb.entries ∧ info.cmd.entries = s.info.cmd.entries := by
  refine ⟨?_, hcmd.trans (eraseP_id_append hid _)⟩
  rw [hev]
  apply (hwf.rollback_eventCb_iff hout id).mpr
  intro c hc hk
  obtain ⟨e, he, hek⟩ := List.mem_map.mp hk
  refine hfresh e (List.mem_append_right _ ?_) c hc hek.symm
  rw [hout]
  exact he

theorem Exclusive.start {s : HalState} (h : Exclusive s) (hwf : WellFormed s) {cls : CommandClass}
    {id : Int} {env : StartEnv} (hid : ∀ c ∈ s.info.cmd.entries, c.id ≠ id)
    (hfresh : FreshEvents s (.start cls id env)) : Exclusive (s.step (.start cls id env)) := by
  obtain ⟨hnodup, -, hall, -⟩ := cls.outcome_spec env.netlink
  have hcase := startCommand_case cls id s.nextObj env s.info
  simp only [HalState.step, startApi_eq]
  generalize startCommand cls id s.nextObj env s.info = r at hcase
  cases hcase with
  | noMemory => exact ⟨h.keys, h.held⟩
  | noRoom => exact ⟨h.keys, h.held⟩
  | started _ _ hout hev hcmd =>
    obtain ⟨hlen, hmem⟩ := hall hout
    -- there is room for every handler
    have hroom : s.info.added ⟨s.nextObj, cls, id⟩ (netlinkOutcome cls.start env.netlink).1 =
        (netlinkOutcome cls.start env.netlink).1.map
          (WifiCommand.handler ⟨s.nextObj, cls, id⟩) := by
      have hle := h.length_le hwf
      have hthree : cls.events.length ≤ 3 := by cases cls <;> decide
      rw [HalInfo.added, List.take_of_length_le]
      simp only [DEFAULT_EVENT_CB_SIZE]
      omega
    constructor
    · rw [hev, hroom, List.map_append, List.map_map]
      refine List.nodup_append.mpr ⟨h.keys, hnodup.map VendorEvent.key_injective, ?_⟩
      rintro k hk k' hk' rfl
      obtain ⟨c, hc, hck⟩ := List.mem_map.mp hk
      obtain ⟨e, he, hek⟩ := List.mem_map.mp hk'
      exact hfresh e (List.mem_append_left _ he) c hc (hck.trans hek.symm)
    · intro b hb e he
      rw [hcmd] at hb
      rw [hev, hroom]
      rcases List.mem_append.mp hb with hb | hb
      · exact List.mem_append_left _ (h.held b hb e he)
      · obtain rfl := List.mem_singleton.mp hb
        exact List.mem_append_right _ (List.mem_map.mpr ⟨e, hmem e he, rfl⟩)
  | failed _ _ hout _ hev hcmd =>
    obtain ⟨hsame, hsameCmd⟩ := failed_start_same hwf hid hfresh hout hev hcmd
    exact ⟨by rw [hsame]; exact h.keys, by rw [hsame, hsameCmd]; exact h.held⟩

theorem Exclusive.cancel {s : HalState} (h : Exclusive s) (hwf : WellFormed s) (hids : IdsNodup s)
    (id : Int) (ρ : Nat → NlResult) : Exclusive (s.step (.cancel id ρ)) := by
  by_cases hreg : ∃ c ∈ s.info.cmd.entries, c.id = id
  · obtain ⟨c, hc, rfl⟩ := hreg
    have hb : s.info.Registered c.cmd := by
      have hcid := hwf.idCmd c hc
      rw [HalInfo.Registered, ← hcid]
      exact hc
    obtain ⟨hown, -⟩ := (cancelsOwn_iff hwf hids hb ρ).mpr (h.ownsFirst hb)
    obtain ⟨-, hcmd, -⟩ := wifiCancelCmd_registered hids hb ρ
    rw [← hwf.idCmd c hc] at hown hcmd
    constructor
    · simp only [HalState.step]
      rw [hown]
      exact h.keys.sublist (List.filter_sublist.map _)
    · intro b hbmem e he
      simp only [HalState.step] at hbmem ⊢
      rw [hcmd] at hbmem
      rw [hown]
      refine List.mem_filter.mpr ⟨h.held b (List.mem_of_mem_eraseP hbmem) e he, ?_⟩
      -- the command that is left has another id than the cancelled one
      rw [WifiCommand.handler_cbArg, decide_eq_true_eq]
      intro hbc
      have hnd : s.info.cmd.entries.Nodup := List.Nodup.of_map _ hids
      have hne := ((mem_eraseP_of_nodup hnd).mp hbmem).2
      have hbid : b.id = c.id := by
        rw [hwf.idCmd b (List.mem_of_mem_eraseP hbmem), hwf.idCmd c hc, hbc]
      exact hne (hbid ▸ find?_id hids (List.mem_of_mem_eraseP hbmem))
  · have hsame : (wifiCancelCmd id ρ s.info).info = s.info :=
      wifiCancelCmd_unknown (fun c hc hid => hreg ⟨c, hc, hid⟩) ρ
    constructor
    · simp only [HalState.step]
      rw [hsame]
      exact h.keys
    · simp only [HalState.step]
      rw [hsame]
      exact h.held

/-- **Step lemma.** -/
theorem Exclusive.step {s t : HalState} {a : HalAction} (h : Exclusive s) (hwf : WellFormed s)
    (hids : IdsNodup s) (hs : cancelRuns.step s a t) (hfresh : FreshEvents s a) :
    Exclusive t := by
  obtain ⟨rfl, hdist⟩ := hs
  cases a with
  | start cls id env => exact h.start hwf hdist hfresh
  | cancel id ρ => exact h.cancel hwf hids id ρ
  | stopUnregistered => exact hdist.elim
  | rttRangeCancel => exact hdist.elim
  | rttComplete => exact hdist.elim

theorem run_exclusive {tr : List (Transition HalState HalAction)} {s : HalState}
    (h : cancelRuns.Run tr s) (hfresh : ∀ x ∈ tr, FreshEvents x.pre x.act) : Exclusive s := by
  induction h with
  | start hi =>
    obtain rfl := hi
    constructor <;> simp [HalInfo.init, BoundedTable.empty]
  | @step tr s a t hr hs ih =>
    rw [List.forall_mem_append, List.forall_mem_singleton] at hfresh
    exact (ih hfresh.1).step (hal_wellFormed hr.reachable.of_restrict)
      (cancelRuns_idsNodup hr.reachable) hs hfresh.2

/-- **`wifi_cancel_cmd` removes exactly the command's own handlers**, in a state that a run leads
to, iff each of its events with a handler is dispatched to it; and this is so when the starts of
the run touched only events without a handler. -/
theorem cancelCmd_removes_own {tr : List (Transition HalState HalAction)} {s : HalState}
    (h : cancelRuns.Run tr s) {b : WifiCommand} (hb : s.info.Registered b) (ρ : Nat → NlResult) :
    (CancelsOwn s.info b ρ ↔ OwnsFirst s.info b) ∧
      ((∀ x ∈ tr, FreshEvents x.pre x.act) → CancelsOwn s.info b ρ) := by
  have hr := h.reachable
  have hiff : CancelsOwn s.info b ρ ↔ OwnsFirst s.info b :=
    cancelsOwn_iff (hal_wellFormed hr.of_restrict) (cancelRuns_idsNodup hr) hb ρ
  exact ⟨hiff, fun hfresh => hiff.mpr ((run_exclusive h hfresh).ownsFirst hb)⟩

/-! ## A full-scan listener and a scan -/

/-- Every request succeeds. -/
def allSucceed : StartEnv := ⟨true, fun _ => ⟨0, success_nonpos⟩⟩

def halStart : HalState := ⟨HalInfo.init, 0⟩

/-- `wifi_enable_full_scan_results` with id 1, then `wifi_start_gscan` with id 2. -/
def listenerAndScan : HalState :=
  (halStart.step (.start .fullScanResults 1 allSucceed)).step (.start .scan 2 allSucceed)

/-- Cancelling the scan removes the listener's handler and leaves the scan's own, which then
points at a released object. -/
theorem not_cancelsOwn_listenerAndScan :
    cancelRuns.Reachable listenerAndScan ∧ listenerAndScan.info.Registered ⟨1, .scan, 2⟩ ∧
      ¬ CancelsOwn listenerAndScan.info ⟨1, .scan, 2⟩ allSucceed.netlink := by
  refine ⟨.step (.step (.start rfl) ⟨rfl, ?_⟩) ⟨rfl, ?_⟩, ?_, ?_⟩
  · unfold DistinctIds
    decide
  · unfold DistinctIds
    decide
  · unfold HalInfo.Registered
    decide
  · unfold CancelsOwn
    decide

/-- The scan alone is cancelled as it should be. -/
theorem cancelCmd_removes_own_scan :
    OwnsFirst (halStart.step (.start .scan 2 allSucceed)).info ⟨0, .scan, 2⟩ ∧
      CancelsOwn (halStart.step (.start .scan 2 allSucceed)).info ⟨0, .scan, 2⟩
        allSucceed.netlink := by
  have hrun : cancelRuns.Run [⟨halStart, .start .scan 2 allSucceed, _⟩]
      (halStart.step (.start .scan 2 allSucceed)) :=
    .step (.start rfl) ⟨rfl, by unfold DistinctIds; decide⟩
  have hreg : (halStart.step (.start .scan 2 allSucceed)).info.Registered ⟨0, .scan, 2⟩ := by
    unfold HalInfo.Registered
    decide
  have hfresh : ∀ x ∈ [Transition.mk halStart (.start .scan 2 allSucceed)
      (halStart.step (.start .scan 2 allSucceed))], FreshEvents x.pre x.act := by
    intro x hx
    obtain rfl := List.mem_singleton.mp hx
    intro e _ c hc
    cases hc
  obtain ⟨hiff, hcancel⟩ := cancelCmd_removes_own hrun hreg allSucceed.netlink
  exact ⟨hiff.mp (hcancel hfresh), hcancel hfresh⟩

end Sloane.WifiHal
