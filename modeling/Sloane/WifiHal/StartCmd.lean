import Sloane.WifiHal.HalRuns

/-!
# Failed starts

A start API that fails should leave both tables as they were.  The roll-back removes handlers
and commands by event and by id, so it can take those of others; and a full `event_cb` is not
reported.

* `startCommand_atomic_iff` — for well-formed tables, the exact condition on the tables, the id
  and the results of the requests.
* `startApi_atomic_iff` — the same for each of the eight APIs in every reachable state.
-/

namespace Sloane.WifiHal

open Sloane.Lib

/-- The command is in neither table. -/
def HalInfo.Free (info : HalInfo) (cmd : WifiCommand) : Prop :=
  (∀ c ∈ info.eventCb.entries, c.cbArg ≠ cmd) ∧ ∀ c ∈ info.cmd.entries, c.cmd ≠ cmd

/-- A start that fails changes nothing and leaves no trace of the object it released; one that
succeeds has a handler for every event of the class. -/
def StartAtomic (cls : CommandClass) (id : Int) (obj : Nat) (info : HalInfo) (r : ApiResult) :
    Prop :=
  (r.ret ≠ WIFI_SUCCESS →
    r.info = info ∧ ∀ cmd, r.released = some cmd → r.info.Free cmd) ∧
  (r.ret = WIFI_SUCCESS →
    ∀ e ∈ cls.events, ∃ c ∈ r.info.eventCb.entries, c.key = e.key ∧ c.cbArg = ⟨obj, cls, id⟩)

/-- No object is made; or the command table is full; or all requests succeed and there is room
for the handlers; or a request fails whose roll-back finds no handler of another command, and
the id is not in use. -/
def StartSafe (cls : CommandClass) (id : Int) (env : StartEnv) (info : HalInfo) : Prop :=
  env.allocated = false ∨ info.cmd.entries.length = DEFAULT_CMD_SIZE ∨
  match (netlinkOutcome cls.start env.netlink).2 with
  | none => info.eventCb.entries.length + cls.events.length ≤ DEFAULT_EVENT_CB_SIZE
  | some rollback =>
      (∀ c ∈ info.cmd.entries, c.id ≠ id) ∧
        ∀ c ∈ info.eventCb.entries, c.key ∉ rollback.map VendorEvent.key

/-- A new object is in neither table. -/
theorem WellFormed.free {s : HalState} (h : WellFormed s) (cls : CommandClass) (id : Int) :
    s.info.Free ⟨s.nextObj, cls, id⟩ := by
  constructor
  · rintro c hc hcmd
    have := h.old c hc
    rw [hcmd] at this
    exact Nat.lt_irrefl _ this
  · rintro c hc hcmd
    have := h.oldCmd c hc
    rw [hcmd] at this
    exact Nat.lt_irrefl _ this

/-- Every handler of a new command is added iff there is room for all. -/
theorem WellFormed.all_added_iff {s : HalState} (h : WellFormed s) (cls : CommandClass) (id : Int)
    {es : List VendorEvent} (hlen : es.length = cls.events.length)
    (hnodup : es.Nodup) (hes : ∀ e ∈ cls.events, e ∈ es) (hcls : ∀ e ∈ es, e ∈ cls.events) :
    (∀ e ∈ cls.events, ∃ c ∈ s.info.eventCb.entries ++ s.info.added ⟨s.nextObj, cls, id⟩ es,
        c.key = e.key ∧ c.cbArg = ⟨s.nextObj, cls, id⟩) ↔
      s.info.eventCb.entries.length + cls.events.length ≤ DEFAULT_EVENT_CB_SIZE := by
  have hsize := s.info.eventCb.size_le
  constructor
  · intro hall
    by_contra hroom
    -- an event past the end of the table has no handler of the new object
    have hk : DEFAULT_EVENT_CB_SIZE - s.info.eventCb.entries.length < es.length := by omega
    have hget := List.getElem_mem hk
    obtain ⟨c, hc, hckey, hcmd⟩ := hall _ (hcls _ hget)
    rcases List.mem_append.mp hc with hc | hc
    · exact (h.free cls id).1 c hc hcmd
    · obtain ⟨e, he, rfl⟩ := List.mem_map.mp hc
      obtain ⟨i, hi, hei⟩ := List.mem_take_iff_getElem.mp he
      have heq : es[i] = es[DEFAULT_EVENT_CB_SIZE - s.info.eventCb.entries.length] :=
        hei.trans (VendorEvent.key_injective hckey)
      have := (hnodup.getElem_inj_iff).mp heq
      omega
  · intro hroom e he
    refine ⟨WifiCommand.handler ⟨s.nextObj, cls, id⟩ e, List.mem_append_right _ ?_, rfl, rfl⟩
    rw [HalInfo.added, List.take_of_length_le (by omega)]
    exact List.mem_map.mpr ⟨e, hes e he, rfl⟩

theorem HalInfo.eq_iff {a b : HalInfo} :
    a = b ↔ a.eventCb.entries = b.eventCb.entries ∧ a.cmd.entries = b.cmd.entries := by
  constructor
  · rintro rfl
    exact ⟨rfl, rfl⟩
  · rintro ⟨hev, hcmd⟩
    cases a; cases b
    exact congrArg₂ HalInfo.mk (BoundedTable.ext_entries hev) (BoundedTable.ext_entries hcmd)

/-- The roll-back of the command table takes the new command iff the id was not in use. -/
theorem WellFormed.eraseP_id_iff {s : HalState} (h : WellFormed s) (cls : CommandClass) (id : Int) :
    (s.info.cmd.entries ++ [CmdInfo.mk id ⟨s.nextObj, cls, id⟩]).eraseP (·.id == id) =
        s.info.cmd.entries ↔
      ∀ c ∈ s.info.cmd.entries, c.id ≠ id := by
  constructor
  · intro heq c hc hid
    -- an older command goes, so the new one stays
    rw [List.eraseP_append_left (by simpa using hid) _ hc] at heq
    have hmem : CmdInfo.mk id ⟨s.nextObj, cls, id⟩ ∈ s.info.cmd.entries := by
      rw [← heq]
      exact List.mem_append_right _ (List.mem_singleton.mpr rfl)
    exact (h.free cls id).2 _ hmem rfl
  · intro hid
    exact eraseP_id_append hid _

/-- **When a start is atomic.** -/
theorem startCommand_atomic_iff {s : HalState} (h : WellFormed s) (cls : CommandClass) (id : Int)
    (env : StartEnv) :
    StartAtomic cls id s.nextObj s.info (startCommand cls id s.nextObj env s.info) ↔
      StartSafe cls id env s.info := by
  obtain ⟨hnodup, hcls, hall, -⟩ := cls.outcome_spec env.netlink
  have hfree := h.free cls id
  have hcase := startCommand_case cls id s.nextObj env s.info
  generalize startCommand cls id s.nextObj env s.info = r at hcase
  unfold StartSafe StartAtomic
  cases hcase with
  | noMemory hmem => simp [hmem, WIFI_ERROR_OUT_OF_MEMORY, WIFI_SUCCESS]
  | noRoom hmem hfull => simp [hmem, hfull, hfree, WIFI_ERROR_OUT_OF_MEMORY, WIFI_SUCCESS]
  | started hmem hroom hout hev hcmd =>
    obtain ⟨hlen, hmem'⟩ := hall hout
    rw [hev, hout]
    simp only [hmem, Nat.ne_of_lt hroom, Bool.true_eq_false, false_or, ne_eq, not_true_eq_false,
      false_implies, true_and, true_implies]
    exact h.all_added_iff cls id hlen hnodup hmem' hcls
  | @failed info' ret rollback hmem hroom hout hret hev hcmd =>
    have hevIff : info'.eventCb.entries = s.info.eventCb.entries ↔
        ∀ c ∈ s.info.eventCb.entries, c.key ∉ rollback.map VendorEvent.key := by
      rw [hev]
      exact h.rollback_eventCb_iff hout id
    have hcmdIff : info'.cmd.entries = s.info.cmd.entries ↔
        ∀ c ∈ s.info.cmd.entries, c.id ≠ id := by
      rw [hcmd]
      exact h.eraseP_id_iff cls id
    simp only [hmem, Nat.ne_of_lt hroom, hout, hret, Bool.true_eq_false, false_or, ne_eq,
      not_false_eq_true, true_implies, false_implies, and_true, Option.some.injEq, forall_eq']
    rw [HalInfo.eq_iff, hevIff, hcmdIff]
    constructor
    · exact fun ha => ⟨ha.1.2, ha.1.1⟩
    · rintro ⟨hid, hkeys⟩
      have hsame : info' = s.info := HalInfo.eq_iff.mpr ⟨hevIff.mpr hkeys, hcmdIff.mpr hid⟩
      exact ⟨⟨hkeys, hid⟩, hsame ▸ hfree⟩

/-- **When a start API is atomic**, in every reachable state, for every id and every outcome of
the requests. -/
theorem startApi_atomic_iff {s : HalState} (h : hal.Reachable s) (cls : CommandClass) (id : Int)
    (env : StartEnv) :
    StartAtomic cls id s.nextObj s.info (startApi cls id s.nextObj env s.info) ↔
      StartSafe cls id env s.info := by
  rw [startApi_eq]
  exact startCommand_atomic_iff (hal_wellFormed h) cls id env

/-! ## A full-scan listener that fails to start during a scan -/

/-- The request with this number fails, the others succeed. -/
def failAt (n : Nat) : StartEnv :=
  ⟨true, fun i => if i = n then ⟨-1, by decide⟩ else ⟨0, success_nonpos⟩⟩

/-- `wifi_start_gscan` with id 1. -/
def scanning : HalState := HalState.step ⟨HalInfo.init, 0⟩ (.start .scan 1 (failAt 100))

/-- The listener's roll-back removes the scan's handler for full results and leaves its own, whose
object is released. -/
theorem not_startAtomic_scanning :
    hal.Reachable scanning ∧
      ¬ StartAtomic .fullScanResults 2 scanning.nextObj scanning.info
        (wifiEnableFullScanResults 2 scanning.nextObj (failAt 1) scanning.info) := by
  refine ⟨.step (.start rfl) rfl, ?_⟩
  intro h
  have hsame := (h.1 (by decide)).1
  revert hsame
  decide

/-- With empty tables the same failure leaves nothing behind. -/
theorem startApi_atomic_listener :
    StartSafe .fullScanResults 2 (failAt 1) HalInfo.init ∧
      StartAtomic .fullScanResults 2 0 HalInfo.init
        (wifiEnableFullScanResults 2 0 (failAt 1) HalInfo.init) := by
  have hsafe : StartSafe .fullScanResults 2 (failAt 1) HalInfo.init := by
    refine .inr (.inr ⟨?_, ?_⟩)
    · intro c hc
      cases hc
    · intro c hc
      cases hc
  have hinit : hal.Reachable ⟨HalInfo.init, 0⟩ := .start rfl
  exact ⟨hsafe, (startApi_atomic_iff hinit .fullScanResults 2 (failAt 1)).mpr hsafe⟩

end Sloane.WifiHal
