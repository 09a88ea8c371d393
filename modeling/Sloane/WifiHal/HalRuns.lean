import Sloane.Lib.Run
import Sloane.WifiHal.Commands

/-!
# Runs of the Wi-Fi HAL

The tables as a transition system: every API that touches them, with any arguments and any
results of the netlink requests, and the event that completes a ranging request.

* `startCommand_case` — the outcomes of a start API, each with the tables it leaves.
* `hal_wellFormed` — the invariant of every reachable state.
* `WellFormed.rollback_eventCb_iff` — when a roll-back undoes the registrations of a new command.
-/

namespace Sloane.WifiHal

open Sloane.Lib

/-- The tables, and the identity the next command object will have. -/
structure HalState where
  info : HalInfo
  nextObj : Nat

inductive HalAction where
  | start (cls : CommandClass) (id : Int) (env : StartEnv)
  | cancel (id : Int) (ρ : Nat → NlResult)
  | stopUnregistered (cls : CommandClass) (ρ : Nat → NlResult)
  | rttRangeCancel (id : Int) (ρ : Nat → NlResult)
  | rttComplete

/-- The first handler of the event gets it. -/
def HalInfo.dispatch (info : HalInfo) (e : VendorEvent) : Option CbInfo :=
  info.eventCb.entries.find? (·.key == e.key)

def HalState.step (s : HalState) : HalAction → HalState
  | .start cls id env => ⟨(startApi cls id s.nextObj env s.info).info, s.nextObj + 1⟩
  | .cancel id ρ => ⟨(wifiCancelCmd id ρ s.info).info, s.nextObj⟩
  | .stopUnregistered cls ρ =>
      if cls.stopsUnregistered then
        ⟨(cancelUnregistered cls s.nextObj ρ s.info).info, s.nextObj + 1⟩
      else s
  | .rttRangeCancel id ρ => ⟨(wifiRttRangeCancel id s.nextObj ρ s.info).info, s.nextObj + 1⟩
  | .rttComplete =>
      match s.info.dispatch .rttComplete with
      | some c => ⟨(RttCommand.handleComplete c.cbArg s.info).info, s.nextObj⟩
      | none => s

def hal : System HalState HalAction where
  init s := s = ⟨HalInfo.init, 0⟩
  step s a t := t = s.step a

/-! ## The outcomes of a start API -/

/-- The handlers that registering `es` for `cmd` really adds. -/
def HalInfo.added (info : HalInfo) (cmd : WifiCommand) (es : List VendorEvent) : List CbInfo :=
  (es.take (DEFAULT_EVENT_CB_SIZE - info.eventCb.entries.length)).map cmd.handler

inductive StartCase (cls : CommandClass) (id : Int) (obj : Nat) (env : StartEnv)
    (info : HalInfo) : ApiResult → Prop
  | noMemory : env.allocated = false →
      StartCase cls id obj env info ⟨WIFI_ERROR_OUT_OF_MEMORY, info, none⟩
  | noRoom : env.allocated = true → info.cmd.entries.length = DEFAULT_CMD_SIZE →
      StartCase cls id obj env info ⟨WIFI_ERROR_OUT_OF_MEMORY, info, some ⟨obj, cls, id⟩⟩
  | started {info'} : env.allocated = true → info.cmd.entries.length < DEFAULT_CMD_SIZE →
      (netlinkOutcome cls.start env.netlink).2 = none →
      info'.eventCb.entries = info.eventCb.entries ++
        info.added ⟨obj, cls, id⟩ (netlinkOutcome cls.start env.netlink).1 →
      info'.cmd.entries = info.cmd.entries ++ [CmdInfo.mk id ⟨obj, cls, id⟩] →
      StartCase cls id obj env info ⟨WIFI_SUCCESS, info', none⟩
  | failed {info' ret rollback} : env.allocated = true →
      info.cmd.entries.length < DEFAULT_CMD_SIZE →
      (netlinkOutcome cls.start env.netlink).2 = some rollback → ret ≠ WIFI_SUCCESS →
      info'.eventCb.entries = eraseKeys CbInfo.key (rollback.map VendorEvent.key)
        (info.eventCb.entries ++
          info.added ⟨obj, cls, id⟩ (netlinkOutcome cls.start env.netlink).1) →
      info'.cmd.entries =
        (info.cmd.entries ++ [CmdInfo.mk id ⟨obj, cls, id⟩]).eraseP (·.id == id) →
      StartCase cls id obj env info ⟨ret, info', some ⟨obj, cls, id⟩⟩

theorem wifiRegisterCmd_cases (info : HalInfo) (id : Int) (cmd : WifiCommand) :
    (info.cmd.entries.length = DEFAULT_CMD_SIZE ∧
      wifiRegisterCmd info id cmd = (WIFI_ERROR_OUT_OF_MEMORY, info)) ∨
    ∃ t, info.cmd.entries.length < DEFAULT_CMD_SIZE ∧ t.entries = info.cmd.entries ++ [⟨id, cmd⟩] ∧
      wifiRegisterCmd info id cmd = (WIFI_SUCCESS, { info with cmd := t }) := by
  unfold wifiRegisterCmd
  split
  · rename_i t ht
    obtain ⟨hroom, hentries⟩ := BoundedTable.add?_eq_some.mp ht
    exact .inr ⟨t, hroom, hentries, rfl⟩
  · rename_i hfull
    exact .inl ⟨BoundedTable.add?_eq_none.mp hfull, rfl⟩

/-- **The outcomes of a start API.** -/
theorem startCommand_case (cls : CommandClass) (id : Int) (obj : Nat) (env : StartEnv)
    (info : HalInfo) : StartCase cls id obj env info (startCommand cls id obj env info) := by
  unfold startCommand
  cases hmem : env.allocated with
  | false => exact .noMemory hmem
  | true =>
    simp only [Bool.not_true, Bool.false_eq_true, if_false]
    obtain ⟨hfull, hreg⟩ | ⟨t, hroom, ht, hreg⟩ := wifiRegisterCmd_cases info id ⟨obj, cls, id⟩
    · simp only [hreg]
      exact .noRoom hmem hfull
    · simp only [hreg, ne_eq, not_true_eq_false, if_false]
      obtain ⟨hinfo, hret⟩ :=
        runStart_eq ⟨obj, cls, id⟩ cls.start env.netlink { info with cmd := t }
      cases hout : (netlinkOutcome cls.start env.netlink).2 with
      | none =>
        have hok := not_not.mp fun h => hret.mp h hout
        rw [if_neg (not_not_intro hok), hok, hinfo, hout]
        refine .started hmem hroom hout ?_ ?_
        · exact registerAll_eventCb ..
        · exact (congrArg BoundedTable.entries (registerAll_cmd ..)).trans ht
      | some rollback =>
        have hbad := hret.mpr (by simp [hout])
        rw [if_pos hbad, hinfo, hout]
        refine .failed hmem hroom hout hbad ?_ ?_
        · simp only [wifiUnregisterCmd, Option.getD_some, unregisterAll_eventCb,
            registerAll_eventCb, HalInfo.added]
        · simp [wifiUnregisterCmd, ht]

/-- Under an id that is not in use, the roll-back of the command table removes the new command. -/
theorem eraseP_id_append {l : List CmdInfo} {id : Int} (h : ∀ c ∈ l, c.id ≠ id)
    (cmd : WifiCommand) : (l ++ [CmdInfo.mk id cmd]).eraseP (·.id == id) = l := by
  rw [List.eraseP_append_right _ fun x hx => by simpa using h x hx]
  simp

/-! ## The invariant -/

/-- Handlers and commands come from objects made so far; a handler is one that its owner's class
registers, and no two entries are the same. -/
structure WellFormed (s : HalState) : Prop where
  nodup : s.info.eventCb.entries.Nodup
  owned : ∀ c ∈ s.info.eventCb.entries, ∃ e ∈ c.cbArg.cls.events, c = c.cbArg.handler e
  old : ∀ c ∈ s.info.eventCb.entries, c.cbArg.obj < s.nextObj
  oldCmd : ∀ c ∈ s.info.cmd.entries, c.cmd.obj < s.nextObj
  idCmd : ∀ c ∈ s.info.cmd.entries, c.id = c.cmd.mId

/-- Removing entries, and making objects, keeps the invariant. -/
theorem WellFormed.of_sublist {s t : HalState} (h : WellFormed s)
    (hev : t.info.eventCb.entries.Sublist s.info.eventCb.entries)
    (hcmd : t.info.cmd.entries.Sublist s.info.cmd.entries) (hobj : s.nextObj ≤ t.nextObj) :
    WellFormed t where
  nodup := h.nodup.sublist hev
  owned c hc := h.owned c (hev.subset hc)
  old c hc := Nat.lt_of_lt_of_le (h.old c (hev.subset hc)) hobj
  oldCmd c hc := Nat.lt_of_lt_of_le (h.oldCmd c (hcmd.subset hc)) hobj
  idCmd c hc := h.idCmd c (hcmd.subset hc)

theorem unregisterAll_sublist (es : List VendorEvent) (info : HalInfo) :
    (unregisterAll es info).eventCb.entries.Sublist info.eventCb.entries := by
  rw [unregisterAll_eventCb]
  exact eraseKeys_sublist _ _

theorem mem_added {info : HalInfo} {cmd : WifiCommand} {es : List VendorEvent} {c : CbInfo}
    (h : c ∈ info.added cmd es) : ∃ e ∈ es, c = cmd.handler e := by
  obtain ⟨e, he, rfl⟩ := List.mem_map.mp h
  exact ⟨e, List.mem_of_mem_take he, rfl⟩

theorem WifiCommand.handler_injective (cmd : WifiCommand) : Function.Injective cmd.handler := by
  intro a b h
  exact VendorEvent.key_injective (congrArg CbInfo.key h)

/-- The handlers of a new object are no entries yet. -/
theorem WellFormed.append_nodup {s : HalState} (h : WellFormed s) {cmd : WifiCommand}
    (hobj : s.nextObj ≤ cmd.obj) {es : List VendorEvent} (hes : es.Nodup) :
    (s.info.eventCb.entries ++ s.info.added cmd es).Nodup := by
  refine List.nodup_append.mpr ⟨h.nodup, ?_, ?_⟩
  · exact (hes.sublist (List.take_sublist _ _)).map cmd.handler_injective
  · rintro c hc d hd rfl
    obtain ⟨e, -, rfl⟩ := mem_added hd
    have := h.old _ hc
    rw [WifiCommand.handler_cbArg] at this
    omega

/-- The roll-back of the handlers of a new object restores `event_cb` iff none of those there has an
event that is rolled back. -/
theorem WellFormed.rollback_eventCb_iff {s : HalState} (h : WellFormed s) {cls : CommandClass}
    {env : StartEnv} {rollback : List VendorEvent}
    (hout : (netlinkOutcome cls.start env.netlink).2 = some rollback) (id : Int) :
    eraseKeys CbInfo.key (rollback.map VendorEvent.key) (s.info.eventCb.entries ++
        s.info.added ⟨s.nextObj, cls, id⟩ (netlinkOutcome cls.start env.netlink).1) =
      s.info.eventCb.entries ↔
    ∀ c ∈ s.info.eventCb.entries, c.key ∉ rollback.map VendorEvent.key := by
  obtain ⟨hnodup, -, -, hback⟩ := cls.outcome_spec env.netlink
  obtain ⟨hrb, -, hsub⟩ := hback rollback hout
  apply eraseKeys_append_eq_iff (hrb.map VendorEvent.key_injective)
    (h.append_nodup (Nat.le_refl _) hnodup)
  · intro c hc
    obtain ⟨e, he, rfl⟩ := mem_added hc
    exact List.mem_map.mpr ⟨e, hsub e he, rfl⟩
  · rw [HalInfo.added, List.map_map]
    exact (hnodup.sublist (List.take_sublist _ _)).map VendorEvent.key_injective

/-- Adding the handlers and the command of a new object keeps the invariant. -/
theorem WellFormed.append {s t : HalState} (h : WellFormed s) {cmd : WifiCommand}
    (hobj : cmd.obj = s.nextObj) {es : List VendorEvent} (hes : es.Nodup)
    (hcls : ∀ e ∈ es, e ∈ cmd.cls.events)
    (hev : t.info.eventCb.entries = s.info.eventCb.entries ++ s.info.added cmd es)
    (hcmd : t.info.cmd.entries = s.info.cmd.entries ++ [⟨cmd.mId, cmd⟩])
    (hnext : t.nextObj = s.nextObj + 1) : WellFormed t where
  nodup := by
    rw [hev]
    exact h.append_nodup (Nat.le_of_eq hobj.symm) hes
  owned c hc := by
    rw [hev] at hc
    rcases List.mem_append.mp hc with hc | hc
    · exact h.owned c hc
    · obtain ⟨e, he, rfl⟩ := mem_added hc
      exact ⟨e, hcls e he, rfl⟩
  old c hc := by
    rw [hev] at hc
    rcases List.mem_append.mp hc with hc | hc
    · have := h.old c hc
      omega
    · obtain ⟨e, -, rfl⟩ := mem_added hc
      rw [WifiCommand.handler_cbArg]
      omega
  oldCmd c hc := by
    rw [hcmd] at hc
    rcases List.mem_append.mp hc with hc | hc
    · have := h.oldCmd c hc
      omega
    · rw [List.mem_singleton.mp hc]
      simp only
      omega
  idCmd c hc := by
    rw [hcmd] at hc
    rcases List.mem_append.mp hc with hc | hc
    · exact h.idCmd c hc
    · rw [List.mem_singleton.mp hc]

/-- A start keeps the invariant, whatever its outcome. -/
theorem WellFormed.start {s : HalState} (h : WellFormed s) (cls : CommandClass) (id : Int)
    (env : StartEnv) : WellFormed (s.step (.start cls id env)) := by
  obtain ⟨hnodup, hcls, -, -⟩ := cls.outcome_spec env.netlink
  have hcase := startCommand_case cls id s.nextObj env s.info
  simp only [HalState.step, startApi_eq]
  generalize startCommand cls id s.nextObj env s.info = r at hcase
  have hsame : WellFormed ⟨s.info, s.nextObj + 1⟩ :=
    h.of_sublist (.refl _) (.refl _) (Nat.le_succ _)
  cases hcase with
  | noMemory => exact hsame
  | noRoom => exact hsame
  | started _ _ _ hev hcmd => exact h.append rfl hnodup hcls hev hcmd rfl
  | @failed info' _ _ _ hroom _ _ hev hcmd =>
    -- what is left is part of the tables as they were before the roll-back
    have hsize := s.info.eventCb.size_le
    have hadded : (registerAll ⟨s.nextObj, cls, id⟩ (netlinkOutcome cls.start env.netlink).1
        s.info).eventCb.entries = _ := registerAll_eventCb _ _ _
    have hfull : WellFormed ⟨⟨(registerAll ⟨s.nextObj, cls, id⟩
        (netlinkOutcome cls.start env.netlink).1 s.info).eventCb,
        ⟨s.info.cmd.entries ++ [⟨id, ⟨s.nextObj, cls, id⟩⟩], by simp; omega⟩⟩,
        s.nextObj + 1⟩ := h.append rfl hnodup hcls hadded rfl rfl
    refine hfull.of_sublist ?_ ?_ (Nat.le_refl _)
    · rw [hev, hadded]
      exact eraseKeys_sublist _ _
    · rw [hcmd]
      exact List.eraseP_sublist

theorem wifiCancelCmd_sublist (id : Int) (ρ : Nat → NlResult) (info : HalInfo) :
    (wifiCancelCmd id ρ info).info.eventCb.entries.Sublist info.eventCb.entries ∧
      (wifiCancelCmd id ρ info).info.cmd.entries.Sublist info.cmd.entries := by
  simp only [wifiCancelCmd, wifiUnregisterCmd]
  cases (info.cmd.entries.find? (·.id == id)).map (·.cmd) with
  | none => exact ⟨.refl _, List.eraseP_sublist⟩
  | some cmd =>
    simp only [CommandClass.cancel_info, unregisterAll_cmd]
    exact ⟨unregisterAll_sublist _ _, List.eraseP_sublist⟩

/-- **Step lemma.** -/
theorem WellFormed.step {s : HalState} (h : WellFormed s) (a : HalAction) :
    WellFormed (s.step a) := by
  cases a with
  | start cls id env => exact h.start cls id env
  | cancel id ρ =>
    obtain ⟨hev, hcmd⟩ := wifiCancelCmd_sublist id ρ s.info
    exact h.of_sublist hev hcmd (Nat.le_refl _)
  | stopUnregistered cls ρ =>
    simp only [HalState.step, cancelUnregistered, CommandClass.cancel_info]
    split
    · refine h.of_sublist (unregisterAll_sublist _ _) ?_ (Nat.le_succ _)
      simp
    · exact h
  | rttRangeCancel id ρ =>
    refine h.of_sublist (unregisterAll_sublist [.rttComplete] _) ?_ (Nat.le_succ _)
    simp [HalState.step, wifiRttRangeCancel, RttCommand.cancelSpecific, cancelAfterRequest]
  | rttComplete =>
    simp only [HalState.step]
    split
    · exact h.of_sublist (unregisterAll_sublist [.rttComplete] _) List.eraseP_sublist
        (Nat.le_refl _)
    · exact h

/-- **The tables are well formed in every reachable state.** -/
theorem hal_wellFormed {s : HalState} (h : hal.Reachable s) : WellFormed s := by
  refine h.invariant ?_ ?_
  · rintro s rfl
    constructor <;> simp [HalInfo.init, BoundedTable.empty]
  · rintro s a t - hs rfl
    exact hs.step a

end Sloane.WifiHal
