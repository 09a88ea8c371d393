import Mathlib.Logic.Function.Basic
import Sloane.WifiHal.CancelCmd

/-!
# Dispatching events while commands are cancelled

Model of `internal_valid_message_handler`, `wifi_cancel_cmd` and the completion in
`RttCommand::handleEvent`, run by any number of threads.  A step is one table operation, one change
of a reference count, or one change of `cb_lock`; the operations on `event_cb` need the lock, those
on `cmd` do not.  `log` records each callback and each `releaseRef` with the count it finds.

* `run_started` — the start APIs and `wifi_cancel_cmd` leave tables that dispatch can begin with.
* `step_case` — all that a step can do, with where the thread goes.
-/

namespace Sloane.WifiHal

open Sloane.Lib System

/-- Where a thread is.  From `looked` to `returning` it is in `internal_valid_message_handler`. -/
inductive DispatchPc where
  | idle
  /-- in `cancel`, with the events that it has yet to unregister -/
  | cancelling (cmd : WifiCommand) (rest : List VendorEvent)
  /-- the lock is held and the entry found -/
  | looked (cbi : CbInfo)
  /-- the lock is held, the reference added -/
  | referenced (cbi : CbInfo)
  | calling (cbi : CbInfo)
  /-- in `RttCommand::handleEvent`, before `unregisterVendorHandler` -/
  | completing (cmd : WifiCommand)
  /-- before `wifi_unregister_cmd` -/
  | reporting (cmd : WifiCommand)
  /-- before the `releaseRef` of the command that `wifi_unregister_cmd` has returned -/
  | dropping (cmd found : WifiCommand)
  /-- before the `releaseRef` of `internal_valid_message_handler` -/
  | returning (cmd : WifiCommand)
  deriving DecidableEq, Repr

inductive RefEvent where
  /-- a callback is called -/
  | invoked (cmd : WifiCommand) (refs : Int)
  /-- `releaseRef`, with the count before -/
  | released (cmd : WifiCommand) (refs : Int)
  deriving DecidableEq, Repr

def RefEvent.refs : RefEvent → Int
  | .invoked _ refs | .released _ refs => refs

structure DispatchState where
  info : HalInfo
  /-- the thread that holds `cb_lock` -/
  lock : Option Nat
  /-- `mRefs` -/
  refs : WifiCommand → Int
  threads : List DispatchPc
  log : List RefEvent

inductive DispatchAct where
  /-- `wifi_cancel_cmd` -/
  | cancelCmd (id : Int)
  /-- a message arrives -/
  | message (key : EventKey)
  /-- the callback is called; `completed` is `mCompleted` after an RTT event -/
  | callback (completed : Bool)
  | next
  deriving DecidableEq, Repr

/-- The entry that a message is for: only vendor commands are compared further. -/
def HalInfo.lookup (info : HalInfo) (key : EventKey) : Option CbInfo :=
  info.eventCb.entries.find? fun c => c.nlCmd == key.nlCmd &&
    (key.nlCmd != NL80211_CMD_VENDOR ||
      (c.vendorId == key.vendorId && c.vendorSubcmd == key.vendorSubcmd))

/-- Thread `i` goes on at `pc`. -/
def DispatchState.goto (s : DispatchState) (i : Nat) (pc : DispatchPc) : DispatchState :=
  { s with threads := s.threads.set i pc }

def DispatchState.addRef (s : DispatchState) (cmd : WifiCommand) : DispatchState :=
  { s with refs := Function.update s.refs cmd (s.refs cmd + 1) }

def DispatchState.releaseRef (s : DispatchState) (cmd : WifiCommand) : DispatchState :=
  { s with
    refs := Function.update s.refs cmd (s.refs cmd - 1)
    log := s.log ++ [.released cmd (s.refs cmd)] }

/-- The callback is called; it is `handleEvent` of the command. -/
def DispatchState.invoke (s : DispatchState) (cmd : WifiCommand) : DispatchState :=
  { s with log := s.log ++ [.invoked cmd (s.refs cmd)] }

/-- One step of thread `i`, which is at `pc`. -/
def DispatchState.threadStep (s : DispatchState) (i : Nat) :
    DispatchPc → DispatchAct → Option DispatchState
  | .idle, .cancelCmd id =>
      match wifiUnregisterCmd s.info id with
      | (some cmd, info) => some ({ s with info := info }.goto i (.cancelling cmd cmd.cls.events))
      | (none, info) => some { s with info := info }
  | .cancelling cmd (e :: rest), .next =>
      if s.lock = none then
        some ({ s with info := wifiUnregisterVendorHandler s.info GOOGLE_OUI e.subcmd }.goto i
          (.cancelling cmd rest))
      else none
  | .cancelling cmd [], .next => some ((s.releaseRef cmd).goto i .idle)
  | .idle, .message key =>
      if s.lock = none then
        match s.info.lookup key with
        | some cbi => some ({ s with lock := some i }.goto i (.looked cbi))
        | none => some s
      else none
  | .looked cbi, .next => some ((s.addRef cbi.cbArg).goto i (.referenced cbi))
  | .referenced cbi, .next => some ({ s with lock := none }.goto i (.calling cbi))
  | .calling cbi, .callback completed =>
      some ((s.invoke cbi.cbArg).goto i
        (if cbi.cbArg.cls = .rtt ∧ completed then .completing cbi.cbArg
        else .returning cbi.cbArg))
  | .completing cmd, .next =>
      if s.lock = none then
        some ({ s with
          info := wifiUnregisterVendorHandler s.info GOOGLE_OUI
            VendorEvent.rttComplete.subcmd }.goto i (.reporting cmd))
      else none
  | .reporting cmd, .next =>
      match wifiUnregisterCmd s.info cmd.mId with
      | (some found, info) => some ({ s with info := info }.goto i (.dropping cmd found))
      | (none, info) => some ({ s with info := info }.goto i (.returning cmd))
  | .dropping cmd found, .next => some ((s.releaseRef found).goto i (.returning cmd))
  | .returning cmd, .next => some ((s.releaseRef cmd).goto i .idle)
  | _, _ => none

def DispatchState.step (s : DispatchState) (a : Nat × DispatchAct) : Option DispatchState :=
  match s.threads[a.1]? with
  | some pc => s.threadStep a.1 pc a.2
  | none => none

/-- `n` idle threads; each command in the table has the reference it was made with. -/
def DispatchState.start (info : HalInfo) (n : Nat) : DispatchState where
  info := info
  lock := none
  refs cmd := (info.cmd.entries.map (·.cmd)).count cmd
  threads := List.replicate n .idle
  log := []

def dispatching (info : HalInfo) (n : Nat) : System DispatchState (Nat × DispatchAct) :=
  .ofStep (.start info n) DispatchState.step

/-- The tables hold commands that have been started: their ids are distinct, and each event has at
most one handler, that of a registered command. -/
structure HalInfo.Started (info : HalInfo) : Prop where
  ids : (info.cmd.entries.map (·.id)).Nodup
  idCmd : ∀ c ∈ info.cmd.entries, c.id = c.cmd.mId
  keys : (info.eventCb.entries.map CbInfo.key).Nodup
  owned : ∀ c ∈ info.eventCb.entries, ∃ e ∈ c.cbArg.cls.events, c = c.cbArg.handler e
  registered : ∀ c ∈ info.eventCb.entries, ∃ d ∈ info.cmd.entries, d.cmd = c.cbArg

/-! ## The tables that the APIs leave -/

/-- Each handler is that of a registered command. -/
def HandlersRegistered (s : HalState) : Prop :=
  ∀ c ∈ s.info.eventCb.entries, ∃ d ∈ s.info.cmd.entries, d.cmd = c.cbArg

theorem HandlersRegistered.start {s : HalState} (h : HandlersRegistered s) (hwf : WellFormed s)
    {cls : CommandClass} {id : Int} {env : StartEnv} (hid : ∀ c ∈ s.info.cmd.entries, c.id ≠ id)
    (hfresh : FreshEvents s (.start cls id env)) :
    HandlersRegistered (s.step (.start cls id env)) := by
  have hcase := startCommand_case cls id s.nextObj env s.info
  simp only [HalState.step, startApi_eq]
  generalize startCommand cls id s.nextObj env s.info = r at hcase
  cases hcase with
  | noMemory => exact h
  | noRoom => exact h
  | started _ _ _ hev hcmd =>
    intro c hc
    simp only [hev, hcmd] at hc ⊢
    rcases List.mem_append.mp hc with hc | hc
    · obtain ⟨d, hd, hdc⟩ := h c hc
      exact ⟨d, List.mem_append_left _ hd, hdc⟩
    · obtain ⟨e, -, rfl⟩ := mem_added hc
      exact ⟨_, List.mem_append_right _ (List.mem_singleton.mpr rfl), rfl⟩
  | failed _ _ hout _ hev hcmd =>
    obtain ⟨hsame, hsameCmd⟩ := failed_start_same hwf hid hfresh hout hev hcmd
    unfold HandlersRegistered
    rw [hsame, hsameCmd]
    exact h

theorem HandlersRegistered.cancel {s : HalState} (h : HandlersRegistered s) (hwf : WellFormed s)
    (hids : IdsNodup s) (hexcl : Exclusive s) (id : Int) (ρ : Nat → NlResult) :
    HandlersRegistered (s.step (.cancel id ρ)) := by
  by_cases hreg : ∃ b ∈ s.info.cmd.entries, b.id = id
  · obtain ⟨b, hb, rfl⟩ := hreg
    have hbreg : s.info.Registered b.cmd := by
      rw [HalInfo.Registered, ← hwf.idCmd b hb]
      exact hb
    obtain ⟨hown, -⟩ := (cancelsOwn_iff hwf hids hbreg ρ).mpr (hexcl.ownsFirst hbreg)
    obtain ⟨-, hcmd, -⟩ := wifiCancelCmd_registered hids hbreg ρ
    rw [← hwf.idCmd b hb] at hown hcmd
    intro c hc
    simp only [HalState.step] at hc ⊢
    rw [hown] at hc
    obtain ⟨hc, hne⟩ := List.mem_filter.mp hc
    obtain ⟨d, hd, hdc⟩ := h c hc
    rw [hcmd]
    refine ⟨d, (mem_eraseP_key hids).mpr ⟨hd, ?_⟩, hdc⟩
    intro hdb
    have hsame : d = b := List.inj_on_of_nodup_map hids hd hb hdb
    rw [← hdc, hsame] at hne
    exact of_decide_eq_true hne rfl
  · have hsame : (wifiCancelCmd id ρ s.info).info = s.info :=
      wifiCancelCmd_unknown (fun b hb hid => hreg ⟨b, hb, hid⟩) ρ
    simp only [HandlersRegistered, HalState.step]
    rw [hsame]
    exact h

/-- **Dispatch can begin** after any run of the start APIs and `wifi_cancel_cmd` in which a start
uses a new id and touches only events without a handler. -/
theorem run_started {tr : List (Transition HalState HalAction)} {s : HalState}
    (h : cancelRuns.Run tr s) (hfresh : ∀ x ∈ tr, FreshEvents x.pre x.act) : s.info.Started := by
  have hregistered : HandlersRegistered s := by
    induction h with
    | start hi =>
      obtain rfl := hi
      intro c hc
      cases hc
    | @step tr s a t hr hs ih =>
      rw [List.forall_mem_append, List.forall_mem_singleton] at hfresh
      have hwf := hal_wellFormed hr.reachable.of_restrict
      obtain ⟨rfl, hdist⟩ := hs
      cases a with
      | start cls id env => exact (ih hfresh.1).start hwf hdist hfresh.2
      | cancel id ρ =>
        exact (ih hfresh.1).cancel hwf (cancelRuns_idsNodup hr.reachable)
          (run_exclusive hr hfresh.1) id ρ
      | stopUnregistered => exact hdist.elim
      | rttRangeCancel => exact hdist.elim
      | rttComplete => exact hdist.elim
  have hwf := hal_wellFormed h.reachable.of_restrict
  exact ⟨cancelRuns_idsNodup h.reachable, hwf.idCmd, (run_exclusive h hfresh).keys, hwf.owned,
    hregistered⟩

/-! ## What a step does -/

section Fields

variable (s : DispatchState) (i : Nat) (pc : DispatchPc) (cmd : WifiCommand)

@[simp] theorem goto_info : (s.goto i pc).info = s.info := rfl
@[simp] theorem goto_refs : (s.goto i pc).refs = s.refs := rfl
@[simp] theorem goto_threads : (s.goto i pc).threads = s.threads.set i pc := rfl
@[simp] theorem addRef_info : (s.addRef cmd).info = s.info := rfl
@[simp] theorem releaseRef_info : (s.releaseRef cmd).info = s.info := rfl

end Fields

/-- The steps of thread `i`, by where it is and where it goes. -/
inductive StepCase (s : DispatchState) (i : Nat) :
    DispatchPc → DispatchPc → DispatchState → Prop
  | stay : StepCase s i .idle .idle s
  | unregisterCmd {id c} : s.info.cmd.entries.find? (·.id == id) = some c →
      StepCase s i .idle (.cancelling c.cmd c.cmd.cls.events)
        ({ s with info := (wifiUnregisterCmd s.info id).2 }.goto i
          (.cancelling c.cmd c.cmd.cls.events))
  | unregisterHandler {cmd e rest} : s.lock = none →
      StepCase s i (.cancelling cmd (e :: rest)) (.cancelling cmd rest)
        ({ s with info := wifiUnregisterVendorHandler s.info GOOGLE_OUI e.subcmd }.goto i
          (.cancelling cmd rest))
  | cancelled {cmd} :
      StepCase s i (.cancelling cmd []) .idle ((s.releaseRef cmd).goto i .idle)
  | lookup {cbi} : s.lock = none → cbi ∈ s.info.eventCb.entries →
      StepCase s i .idle (.looked cbi) ({ s with lock := some i }.goto i (.looked cbi))
  | addRef {cbi} :
      StepCase s i (.looked cbi) (.referenced cbi)
        ((s.addRef cbi.cbArg).goto i (.referenced cbi))
  | unlock {cbi} :
      StepCase s i (.referenced cbi) (.calling cbi)
        ({ s with lock := none }.goto i (.calling cbi))
  | callback {cbi pc'} :
      (pc' = .completing cbi.cbArg ∧ cbi.cbArg.cls = .rtt ∨ pc' = .returning cbi.cbArg) →
      StepCase s i (.calling cbi) pc' ((s.invoke cbi.cbArg).goto i pc')
  | complete {cmd} : s.lock = none →
      StepCase s i (.completing cmd) (.reporting cmd)
        ({ s with
          info := wifiUnregisterVendorHandler s.info GOOGLE_OUI
            VendorEvent.rttComplete.subcmd }.goto i (.reporting cmd))
  | report {cmd c} : s.info.cmd.entries.find? (·.id == cmd.mId) = some c →
      StepCase s i (.reporting cmd) (.dropping cmd c.cmd)
        ({ s with info := (wifiUnregisterCmd s.info cmd.mId).2 }.goto i (.dropping cmd c.cmd))
  | reported {cmd} :
      StepCase s i (.reporting cmd) (.returning cmd) (s.goto i (.returning cmd))
  | dropped {cmd found} :
      StepCase s i (.dropping cmd found) (.returning cmd)
        ((s.releaseRef found).goto i (.returning cmd))
  | returned {cmd} :
      StepCase s i (.returning cmd) .idle ((s.releaseRef cmd).goto i .idle)

/-- `wifi_unregister_cmd` finds an entry, or leaves the tables as they are. -/
theorem wifiUnregisterCmd_cases (info : HalInfo) (id : Int) :
    (∃ c, info.cmd.entries.find? (·.id == id) = some c ∧
      wifiUnregisterCmd info id = (some c.cmd, (wifiUnregisterCmd info id).2)) ∨
    wifiUnregisterCmd info id = (none, info) := by
  cases hfind : info.cmd.entries.find? (·.id == id) with
  | some c =>
    refine .inl ⟨c, rfl, ?_⟩
    simp [wifiUnregisterCmd, hfind]
  | none =>
    right
    have hsame : info.cmd.removeFirst (·.id == id) = info.cmd := by
      apply BoundedTable.ext_entries
      exact List.eraseP_of_forall_not (List.find?_eq_none.mp hfind)
    simp [wifiUnregisterCmd, hfind, hsame]

theorem threadStep_cases {s t : DispatchState} {i : Nat} {pc : DispatchPc} {a : DispatchAct}
    (h : s.threadStep i pc a = some t) : ∃ pc', StepCase s i pc pc' t := by
  unfold DispatchState.threadStep at h
  split at h
  · rename_i id
    obtain ⟨c, hfind, heq⟩ | heq := wifiUnregisterCmd_cases s.info id
    · rw [heq] at h
      obtain rfl := Option.some.inj h
      exact ⟨_, .unregisterCmd hfind⟩
    · rw [heq] at h
      obtain rfl := Option.some.inj h
      exact ⟨_, .stay⟩
  · split at h
    · rename_i hlock
      obtain rfl := Option.some.inj h
      exact ⟨_, .unregisterHandler hlock⟩
    · cases h
  · obtain rfl := Option.some.inj h
    exact ⟨_, .cancelled⟩
  · split at h
    · rename_i hlock
      split at h
      · rename_i cbi hcbi
        obtain rfl := Option.some.inj h
        exact ⟨_, .lookup hlock (List.mem_of_find?_eq_some hcbi)⟩
      · obtain rfl := Option.some.inj h
        exact ⟨_, .stay⟩
    · cases h
  · obtain rfl := Option.some.inj h
    exact ⟨_, .addRef⟩
  · obtain rfl := Option.some.inj h
    exact ⟨_, .unlock⟩
  · obtain rfl := Option.some.inj h
    refine ⟨_, .callback ?_⟩
    split
    · rename_i hrtt
      exact .inl ⟨rfl, hrtt.1⟩
    · exact .inr rfl
  · split at h
    · rename_i hlock
      obtain rfl := Option.some.inj h
      exact ⟨_, .complete hlock⟩
    · cases h
  · rename_i cmd
    obtain ⟨c, hfind, heq⟩ | heq := wifiUnregisterCmd_cases s.info cmd.mId
    · rw [heq] at h
      obtain rfl := Option.some.inj h
      exact ⟨_, .report hfind⟩
    · rw [heq] at h
      obtain rfl := Option.some.inj h
      exact ⟨_, .reported⟩
  · obtain rfl := Option.some.inj h
    exact ⟨_, .dropped⟩
  · obtain rfl := Option.some.inj h
    exact ⟨_, .returned⟩
  · cases h

theorem step_case {s t : DispatchState} {a : Nat × DispatchAct} (h : s.step a = some t) :
    ∃ pc pc', s.threads[a.1]? = some pc ∧ StepCase s a.1 pc pc' t := by
  unfold DispatchState.step at h
  split at h
  · rename_i pc hpc
    obtain ⟨pc', hcase⟩ := threadStep_cases h
    exact ⟨pc, pc', hpc, hcase⟩
  · cases h

end Sloane.WifiHal
