import Sloane.Lib.Tokens
import Sloane.WifiHal.Dispatch

/-!
# The references of a command

* `DispatchState.Inv` — every reference is accounted for: by an entry of `cmd`, or by a thread that
  has yet to release it; and a handler is there only while its command has a reference.
* `dispatch_counted` — no callback and no `releaseRef` finds a count of 0, so that no command is
  freed twice.
-/

namespace Sloane.WifiHal

open Sloane.Lib System

/-! ## The invariant -/

/-- The references that a thread has yet to release. -/
def DispatchPc.owned : DispatchPc → List WifiCommand
  | .idle | .looked _ => []
  | .referenced cbi | .calling cbi => [cbi.cbArg]
  | .cancelling cmd _ | .completing cmd | .reporting cmd | .returning cmd => [cmd]
  | .dropping cmd found => [cmd, found]

/-- One reference for each entry of `cmd`, and those that threads hold. -/
def DispatchState.tokens (s : DispatchState) (cmd : WifiCommand) : Nat :=
  (s.info.cmd.entries.map (·.cmd)).count cmd + held DispatchPc.owned s.threads cmd

/-- The handler is that of a registered command, or of one whose `cancel` has yet to unregister
it. -/
def DispatchState.Guarded (s : DispatchState) (h : CbInfo) : Prop :=
  (∃ c ∈ s.info.cmd.entries, c.cmd = h.cbArg) ∨
    ∃ (j : Nat) (rest : List VendorEvent),
      s.threads[j]? = some (.cancelling h.cbArg rest) ∧ ∃ e ∈ rest, h.key = e.key

/-- The command was registered at the start. -/
def HalInfo.Knows (info : HalInfo) (cmd : WifiCommand) : Prop :=
  ∃ c ∈ info.cmd.entries, c.cmd = cmd

/-- What holds where a thread is. -/
def DispatchState.PcInv (info₀ : HalInfo) (s : DispatchState) (i : Nat) : DispatchPc → Prop
  | .looked cbi => s.lock = some i ∧ cbi ∈ s.info.eventCb.entries
  | .referenced cbi => s.lock = some i ∧ info₀.Knows cbi.cbArg
  | .calling cbi => info₀.Knows cbi.cbArg
  | .completing cmd => info₀.Knows cmd ∧ cmd.cls = .rtt
  | .reporting cmd => info₀.Knows cmd ∧ cmd.cls = .rtt ∧
      ∀ h ∈ s.info.eventCb.entries, h.key ≠ VendorEvent.rttComplete.key
  | .idle | .cancelling _ _ | .dropping _ _ | .returning _ => True

/-- The counts found so far are positive, and a command that has a reference was never freed. -/
structure DispatchState.LogInv (s : DispatchState) : Prop where
  positive : ∀ e ∈ s.log, 0 < e.refs
  once : ∀ cmd, s.log.count (.released cmd 1) ≤ 1
  alive : ∀ cmd, 0 < s.refs cmd → s.log.count (.released cmd 1) = 0

structure DispatchState.Inv (info₀ : HalInfo) (s : DispatchState) : Prop where
  cmds : s.info.cmd.entries.Sublist info₀.cmd.entries
  handlers : s.info.eventCb.entries.Sublist info₀.eventCb.entries
  pcs : ∀ i pc, s.threads[i]? = some pc → s.PcInv info₀ i pc
  guarded : ∀ h ∈ s.info.eventCb.entries, s.Guarded h
  counted : ∀ cmd, s.refs cmd = s.tokens cmd
  logged : s.LogInv

section Inv

variable {info₀ : HalInfo} {s t : DispatchState} {i : Nat} {pc pc' : DispatchPc}

/-- A command has the references that a thread holds. -/
theorem DispatchState.Inv.pos_of_owned (h : s.Inv info₀) (hpc : pc ∈ s.threads)
    {cmd : WifiCommand} (hcmd : cmd ∈ pc.owned) : 0 < s.refs cmd := by
  have hheld : 0 < held DispatchPc.owned s.threads cmd := held_pos hpc hcmd
  have hcounted := h.counted cmd
  unfold DispatchState.tokens at hcounted
  omega

/-- A command with a handler has a reference. -/
theorem DispatchState.Inv.pos_of_handler (h : s.Inv info₀) {cbi : CbInfo}
    (hcbi : cbi ∈ s.info.eventCb.entries) : 0 < s.refs cbi.cbArg := by
  obtain ⟨c, hc, hcmd⟩ | ⟨j, rest, hj, -⟩ := h.guarded cbi hcbi
  · have hcount : 0 < (s.info.cmd.entries.map (·.cmd)).count cbi.cbArg :=
      List.count_pos_iff.mpr (List.mem_map.mpr ⟨c, hc, hcmd⟩)
    have hcounted := h.counted cbi.cbArg
    unfold DispatchState.tokens at hcounted
    omega
  · exact h.pos_of_owned (List.mem_of_getElem? hj) (List.mem_singleton.mpr rfl)

theorem StepCase.threads (h : StepCase s i pc pc' t) (hpc : s.threads[i]? = some pc) :
    t.threads = s.threads.set i pc' := by
  cases h with
  | stay =>
    obtain ⟨hi, hpc⟩ := List.getElem?_eq_some_iff.mp hpc
    rw [← hpc, List.set_getElem_self]
  | _ => rfl

/-- The tables only shrink, and what another thread has locked stays as it is. -/
theorem StepCase.frame (h : StepCase s i pc pc' t) (hinv : s.PcInv info₀ i pc) :
    t.info.cmd.entries.Sublist s.info.cmd.entries ∧
      t.info.eventCb.entries.Sublist s.info.eventCb.entries ∧
      ∀ j, j ≠ i → s.lock = some j →
        t.lock = some j ∧ t.info.eventCb.entries = s.info.eventCb.entries := by
  have hsame : s.info.cmd.entries.Sublist s.info.cmd.entries ∧
      s.info.eventCb.entries.Sublist s.info.eventCb.entries := ⟨.refl _, .refl _⟩
  cases h with
  | unregisterCmd =>
    refine ⟨List.eraseP_sublist, .refl _, ?_⟩
    intro j _ hlock
    exact ⟨hlock, rfl⟩
  | unregisterHandler hnone =>
    refine ⟨.refl _, List.eraseP_sublist, ?_⟩
    intro j _ hlock
    rw [hnone] at hlock
    cases hlock
  | complete hnone =>
    refine ⟨.refl _, List.eraseP_sublist, ?_⟩
    intro j _ hlock
    rw [hnone] at hlock
    cases hlock
  | report =>
    refine ⟨List.eraseP_sublist, .refl _, ?_⟩
    intro j _ hlock
    exact ⟨hlock, rfl⟩
  | lookup hnone =>
    refine ⟨hsame.1, hsame.2, ?_⟩
    intro j _ hlock
    rw [hnone] at hlock
    cases hlock
  | unlock =>
    refine ⟨hsame.1, hsame.2, ?_⟩
    intro j hj hlock
    rw [hinv.1] at hlock
    exact absurd (Option.some.inj hlock).symm hj
  | _ => exact ⟨hsame.1, hsame.2, fun j _ hlock => ⟨hlock, rfl⟩⟩

/-- What holds where another thread is still holds. -/
theorem StepCase.pcInv_of_ne (h : StepCase s i pc pc' t) (hinv : s.PcInv info₀ i pc) {j : Nat}
    (hj : j ≠ i) {q : DispatchPc} (hq : s.PcInv info₀ j q) : t.PcInv info₀ j q := by
  obtain ⟨-, hsub, hlocked⟩ := h.frame hinv
  cases q with
  | looked cbi =>
    obtain ⟨hlock, hsame⟩ := hlocked j hj hq.1
    refine ⟨hlock, ?_⟩
    rw [hsame]
    exact hq.2
  | referenced cbi => exact ⟨(hlocked j hj hq.1).1, hq.2⟩
  | reporting cmd => exact ⟨hq.1, hq.2.1, fun c hc => hq.2.2 c (hsub.subset hc)⟩
  | _ => exact hq

/-- What is left after `wifi_unregister_vendor_handler`, where each event has one handler. -/
theorem mem_wifiUnregisterVendorHandler {info : HalInfo}
    (hkeys : (info.eventCb.entries.map CbInfo.key).Nodup) {e : VendorEvent} {h : CbInfo} :
    h ∈ (wifiUnregisterVendorHandler info GOOGLE_OUI e.subcmd).eventCb.entries ↔
      h ∈ info.eventCb.entries ∧ h.key ≠ e.key := by
  rw [wifiUnregisterVendorHandler_eventCb]
  exact mem_eraseP_key hkeys

/-- What holds where the thread goes. -/
theorem StepCase.pcInv (h : StepCase s i pc pc' t) (h₀ : info₀.Started) (hinv : s.Inv info₀)
    (hpc : s.PcInv info₀ i pc) : t.PcInv info₀ i pc' := by
  cases h with
  | lookup _ hcbi => exact ⟨rfl, hcbi⟩
  | addRef =>
    obtain ⟨hlock, hcbi⟩ := hpc
    exact ⟨hlock, h₀.registered _ (hinv.handlers.subset hcbi)⟩
  | unlock => exact hpc.2
  | callback hnext =>
    obtain ⟨rfl, hrtt⟩ | rfl := hnext
    · exact ⟨hpc, hrtt⟩
    · trivial
  | complete =>
    refine ⟨hpc.1, hpc.2, ?_⟩
    intro c hc
    have hkeys := h₀.keys.sublist (hinv.handlers.map CbInfo.key)
    exact ((mem_wifiUnregisterVendorHandler hkeys).mp hc).2
  | _ => trivial

/-- A registered command loses its entry only when a thread has still to unregister its handlers,
or when they are gone. -/
theorem StepCase.guarded_cmd (h : StepCase s i pc pc' t) (h₀ : info₀.Started)
    (hinv : s.Inv info₀) (hpc : s.threads[i]? = some pc) {cbi : CbInfo}
    (hcbi : cbi ∈ s.info.eventCb.entries) {c : CmdInfo} (hc : c ∈ s.info.cmd.entries)
    (hcmd : c.cmd = cbi.cbArg) : t.Guarded cbi := by
  have hids : (s.info.cmd.entries.map (·.id)).Nodup := h₀.ids.sublist (hinv.cmds.map _)
  obtain ⟨e, he, hcbie⟩ := h₀.owned cbi (hinv.handlers.subset hcbi)
  have hkey : cbi.key = e.key := by rw [hcbie, WifiCommand.handler_key]
  cases h with
  | @unregisterCmd id d hfind =>
    have hid : d.id = id := by simpa using List.find?_some hfind
    by_cases hcid : c.id = id
    · have hcd : c = d :=
        List.inj_on_of_nodup_map hids hc (List.mem_of_find?_eq_some hfind) (hcid.trans hid.symm)
      obtain ⟨hi, -⟩ := List.getElem?_eq_some_iff.mp hpc
      rw [← hcmd, hcd] at he
      refine .inr ⟨i, d.cmd.cls.events, ?_, e, he, hkey⟩
      rw [goto_threads, List.getElem?_set_self hi, ← hcmd, hcd]
    · exact .inl ⟨c, (mem_eraseP_key hids).mpr ⟨hc, hcid⟩, hcmd⟩
  | @report cmd d hfind =>
    obtain ⟨⟨k, hk, hkcmd⟩, hrtt, hgone⟩ := hinv.pcs i _ hpc
    by_cases hcid : c.id = cmd.mId
    · -- the entry is the command's own, whose only event has been unregistered
      have hck : c = k := by
        refine List.inj_on_of_nodup_map h₀.ids (hinv.cmds.subset hc) hk ?_
        rw [hcid, h₀.idCmd k hk, hkcmd]
      rw [← hcmd, hck, hkcmd, hrtt] at he
      rw [List.mem_singleton.mp he] at hkey
      exact absurd hkey (hgone cbi hcbi)
    · exact .inl ⟨c, (mem_eraseP_key hids).mpr ⟨hc, hcid⟩, hcmd⟩
  | _ => exact .inl ⟨c, hc, hcmd⟩

/-- A thread that cancels keeps the event until it has unregistered it. -/
theorem StepCase.guarded_thread (h : StepCase s i pc pc' t) (h₀ : info₀.Started)
    (hinv : s.Inv info₀) (hpc : s.threads[i]? = some pc) {cbi : CbInfo}
    (hcbi : cbi ∈ t.info.eventCb.entries) {j : Nat} {rest : List VendorEvent}
    (hj : s.threads[j]? = some (.cancelling cbi.cbArg rest)) {e : VendorEvent} (he : e ∈ rest)
    (hkey : cbi.key = e.key) : t.Guarded cbi := by
  have hthreads := h.threads hpc
  by_cases hji : j = i
  · subst hji
    rw [hpc] at hj
    cases h with
    | @unregisterHandler cmd e' rest' =>
      obtain ⟨rfl, rfl⟩ := DispatchPc.cancelling.inj (Option.some.inj hj)
      have hkeys := h₀.keys.sublist (hinv.handlers.map CbInfo.key)
      have hne := ((mem_wifiUnregisterVendorHandler hkeys).mp hcbi).2
      obtain ⟨hlt, -⟩ := List.getElem?_eq_some_iff.mp hpc
      refine .inr ⟨j, rest', ?_, e, ?_, hkey⟩
      · rw [hthreads, List.getElem?_set_self hlt]
      · rcases List.mem_cons.mp he with rfl | he
        · exact absurd hkey hne
        · exact he
    | cancelled =>
      obtain ⟨rfl, rfl⟩ := DispatchPc.cancelling.inj (Option.some.inj hj)
      cases he
    | _ => cases hj
  · refine .inr ⟨j, rest, ?_, e, he, hkey⟩
    rw [hthreads, List.getElem?_set_ne (Ne.symm hji)]
    exact hj

theorem addRef_refs (s : DispatchState) (cmd c : WifiCommand) :
    (s.addRef cmd).refs c = s.refs c + ([cmd].count c : Nat) := by
  by_cases hc : c = cmd
  · subst hc
    simp [DispatchState.addRef]
  · simp [DispatchState.addRef, hc, Ne.symm hc]

theorem releaseRef_refs (s : DispatchState) (cmd c : WifiCommand) :
    (s.releaseRef cmd).refs c = s.refs c - ([cmd].count c : Nat) := by
  by_cases hc : c = cmd
  · subst hc
    simp [DispatchState.releaseRef]
  · simp [DispatchState.releaseRef, hc, Ne.symm hc]

theorem count_owned_dropping (cmd found c : WifiCommand) :
    (DispatchPc.dropping cmd found).owned.count c = [cmd].count c + [found].count c := by
  show ([cmd] ++ [found]).count c = _
  exact List.count_append

/-- What `wifi_unregister_cmd` returns takes its reference out of the table. -/
theorem count_wifiUnregisterCmd {info : HalInfo} {id : Int} {d : CmdInfo}
    (h : info.cmd.entries.find? (·.id == id) = some d) (c : WifiCommand) :
    (info.cmd.entries.map (·.cmd)).count c =
      ((wifiUnregisterCmd info id).2.cmd.entries.map (·.cmd)).count c + [d.cmd].count c := by
  have hperm := ((perm_cons_eraseP h).map (·.cmd)).count_eq c
  rw [hperm, List.map_cons, ← List.singleton_append, List.count_append, Nat.add_comm]
  rfl

/-- A reference that leaves the table, or is added, is then held by the thread; one that the thread
no longer holds has been released. -/
theorem StepCase.refs (h : StepCase s i pc pc' t) (c : WifiCommand) :
    t.refs c + (s.info.cmd.entries.map (·.cmd)).count c + pc.owned.count c =
      s.refs c + (t.info.cmd.entries.map (·.cmd)).count c + pc'.owned.count c := by
  cases h with
  | stay => rfl
  | unregisterCmd hfind =>
    have hcount := count_wifiUnregisterCmd hfind c
    simp only [goto_info, goto_refs, DispatchPc.owned, List.count_nil]
    omega
  | report hfind =>
    rename_i cmd d
    have hcount := count_wifiUnregisterCmd hfind c
    simp only [goto_info, goto_refs, count_owned_dropping]
    simp only [DispatchPc.owned]
    omega
  | dropped =>
    rename_i cmd found
    simp only [goto_info, goto_refs, releaseRef_info, releaseRef_refs, count_owned_dropping]
    simp only [DispatchPc.owned]
    omega
  | cancelled =>
    simp only [goto_info, goto_refs, releaseRef_info, releaseRef_refs, DispatchPc.owned,
      List.count_nil]
    omega
  | returned =>
    simp only [goto_info, goto_refs, releaseRef_info, releaseRef_refs, DispatchPc.owned,
      List.count_nil]
    omega
  | addRef =>
    simp only [goto_info, goto_refs, addRef_info, addRef_refs, DispatchPc.owned, List.count_nil]
    omega
  | callback hnext =>
    obtain ⟨rfl, -⟩ | rfl := hnext
    · rfl
    · rfl
  | _ => rfl

theorem StepCase.counted (h : StepCase s i pc pc' t) (hpc : s.threads[i]? = some pc)
    {c : WifiCommand} (hcounted : s.refs c = s.tokens c) : t.refs c = t.tokens c := by
  have hrefs := h.refs c
  have hheld : held DispatchPc.owned (s.threads.set i pc') c + pc.owned.count c =
      held DispatchPc.owned s.threads c + pc'.owned.count c := held_set hpc pc' c
  rw [← h.threads hpc] at hheld
  unfold DispatchState.tokens at hcounted ⊢
  omega

/-! ## The log -/

theorem DispatchState.LogInv.addRef (h : s.LogInv) {cmd : WifiCommand} (hpos : 0 < s.refs cmd) :
    (s.addRef cmd).LogInv where
  positive := h.positive
  once := h.once
  alive c hc := by
    refine h.alive c ?_
    by_cases hcmd : c = cmd
    · exact hcmd ▸ hpos
    · rw [addRef_refs, List.count_singleton, if_neg (by simpa using Ne.symm hcmd)] at hc
      simpa using hc

theorem DispatchState.LogInv.invoke (h : s.LogInv) {cmd : WifiCommand} (hpos : 0 < s.refs cmd) :
    (s.invoke cmd).LogInv := by
  have hcount : ∀ c, (s.invoke cmd).log.count (.released c 1) = s.log.count (.released c 1) := by
    intro c
    simp [DispatchState.invoke]
  constructor
  · exact List.forall_mem_append.mpr ⟨h.positive, List.forall_mem_singleton.mpr hpos⟩
  · intro c
    rw [hcount]
    exact h.once c
  · intro c hc
    rw [hcount]
    exact h.alive c hc

theorem DispatchState.LogInv.releaseRef (h : s.LogInv) {cmd : WifiCommand}
    (hpos : 0 < s.refs cmd) : (s.releaseRef cmd).LogInv := by
  have hcount : ∀ c, (s.releaseRef cmd).log.count (.released c 1) =
      s.log.count (.released c 1) + [RefEvent.released cmd (s.refs cmd)].count (.released c 1) :=
    fun c => List.count_append
  have hother : ∀ c, c ≠ cmd ∨ s.refs cmd ≠ 1 →
      [RefEvent.released cmd (s.refs cmd)].count (.released c 1) = 0 := by
    intro c hc
    refine List.count_eq_zero.mpr ?_
    intro hmem
    obtain ⟨hcmd, hone⟩ := RefEvent.released.inj (List.mem_singleton.mp hmem)
    rcases hc with hc | hc
    · exact hc hcmd
    · exact hc hone.symm
  constructor
  · exact List.forall_mem_append.mpr ⟨h.positive, List.forall_mem_singleton.mpr hpos⟩
  · intro c
    rw [hcount]
    by_cases hc : c = cmd
    · have halive := h.alive cmd hpos
      have hle : [RefEvent.released cmd (s.refs cmd)].count (.released c 1) ≤ 1 :=
        List.count_le_length
      rw [hc] at hle ⊢
      omega
    · rw [hother c (.inl hc)]
      exact h.once c
  · intro c hc
    rw [hcount]
    rw [releaseRef_refs] at hc
    by_cases hcmd : c = cmd
    · -- a reference is left, so this was not the last
      rw [hcmd, List.count_singleton_self] at hc
      rw [hcmd, h.alive cmd hpos, hother cmd (.inr (by omega))]
    · rw [List.count_singleton, if_neg (by simpa using Ne.symm hcmd)] at hc
      rw [h.alive c (by simpa using hc), hother c (.inl hcmd)]

/-- Each count that a step finds is positive. -/
theorem StepCase.logged (h : StepCase s i pc pc' t) (hinv : s.Inv info₀)
    (hpc : s.threads[i]? = some pc) : t.LogInv := by
  have hmem := List.mem_of_getElem? hpc
  have hsame : ∀ {u : DispatchState}, u.refs = s.refs → u.log = s.log → u.LogInv := by
    intro u hrefs hlog
    constructor
    · rw [hlog]
      exact hinv.logged.positive
    · rw [hlog]
      exact hinv.logged.once
    · rw [hlog, hrefs]
      exact hinv.logged.alive
  cases h with
  | addRef =>
    have hcbi := (hinv.pcs i _ hpc).2
    have hlog := hinv.logged.addRef (hinv.pos_of_handler hcbi)
    exact ⟨hlog.positive, hlog.once, hlog.alive⟩
  | callback =>
    have hlog := hinv.logged.invoke (hinv.pos_of_owned hmem (List.mem_singleton.mpr rfl))
    exact ⟨hlog.positive, hlog.once, hlog.alive⟩
  | cancelled =>
    have hlog := hinv.logged.releaseRef (hinv.pos_of_owned hmem (List.mem_singleton.mpr rfl))
    exact ⟨hlog.positive, hlog.once, hlog.alive⟩
  | returned =>
    have hlog := hinv.logged.releaseRef (hinv.pos_of_owned hmem (List.mem_singleton.mpr rfl))
    exact ⟨hlog.positive, hlog.once, hlog.alive⟩
  | dropped =>
    have hlog := hinv.logged.releaseRef
      (hinv.pos_of_owned hmem (List.mem_cons_of_mem _ (List.mem_singleton.mpr rfl)))
    exact ⟨hlog.positive, hlog.once, hlog.alive⟩
  | _ => exact hsame rfl rfl

/-! ## Runs -/

/-- **Step lemma.** -/
theorem DispatchState.Inv.step (hinv : s.Inv info₀) (h₀ : info₀.Started)
    {a : Nat × DispatchAct} (h : s.step a = some t) : t.Inv info₀ := by
  obtain ⟨pc, pc', hpc, hcase⟩ := step_case h
  have hpcInv := hinv.pcs _ _ hpc
  obtain ⟨hcmds, hhandlers, -⟩ := hcase.frame hpcInv
  constructor
  · exact hcmds.trans hinv.cmds
  · exact hhandlers.trans hinv.handlers
  · intro j q hq
    rw [hcase.threads hpc] at hq
    by_cases hj : j = a.1
    · subst hj
      obtain ⟨hlt, -⟩ := List.getElem?_eq_some_iff.mp hpc
      rw [List.getElem?_set_self hlt] at hq
      rw [← Option.some.inj hq]
      exact hcase.pcInv h₀ hinv hpcInv
    · rw [List.getElem?_set_ne (Ne.symm hj)] at hq
      exact hcase.pcInv_of_ne hpcInv hj (hinv.pcs j q hq)
  · intro cbi hcbi
    have hold := hhandlers.subset hcbi
    obtain ⟨c, hc, hcmd⟩ | ⟨j, rest, hj, e, he, hkey⟩ := hinv.guarded cbi hold
    · exact hcase.guarded_cmd h₀ hinv hpc hold hc hcmd
    · exact hcase.guarded_thread h₀ hinv hpc hcbi hj he hkey
  · intro c
    exact hcase.counted hpc (hinv.counted c)
  · exact hcase.logged hinv hpc

theorem HalInfo.Started.inv (h₀ : info₀.Started) (n : Nat) :
    (DispatchState.start info₀ n).Inv info₀ := by
  have hidle : ∀ {pc}, pc ∈ (DispatchState.start info₀ n).threads → pc = .idle :=
    fun hpc => List.eq_of_mem_replicate hpc
  constructor
  · exact .refl _
  · exact .refl _
  · intro i pc hpc
    rw [hidle (List.mem_of_getElem? hpc)]
    trivial
  · intro cbi hcbi
    exact .inl (h₀.registered cbi hcbi)
  · intro c
    have hnone : held DispatchPc.owned (DispatchState.start info₀ n).threads c = 0 := by
      refine held_eq_zero ?_
      intro pc hpc
      rw [hidle hpc]
      exact List.not_mem_nil
    rw [DispatchState.tokens, hnone]
    rfl
  · constructor <;> simp [DispatchState.start]

theorem dispatching_inv (h₀ : info₀.Started) {n : Nat}
    (h : (dispatching info₀ n).Reachable s) : s.Inv info₀ := by
  refine h.invariant ?_ ?_
  · rintro s rfl
    exact h₀.inv n
  · intro s a t _ hinv hs
    exact hinv.step h₀ hs

end Inv

/-- **Event dispatch never runs on a freed command.**  For any number of threads and in every
interleaving, each callback is called on a command with a positive count, no `releaseRef` finds a
count of 0, each command is freed at most once, and no command is freed while a thread holds a
reference to it. -/
theorem dispatch_counted {info : HalInfo} (h₀ : info.Started) (n : Nat) {s : DispatchState}
    (h : (dispatching info n).Reachable s) :
    (∀ e ∈ s.log, 0 < e.refs) ∧ (∀ cmd, s.log.count (.released cmd 1) ≤ 1) ∧
      ∀ pc ∈ s.threads, ∀ cmd ∈ pc.owned, 0 < s.refs cmd := by
  have hinv := dispatching_inv h₀ h
  refine ⟨hinv.logged.positive, hinv.logged.once, ?_⟩
  intro pc hpc cmd hcmd
  exact hinv.pos_of_owned hpc hcmd

/-! ## A ranging request that completes while it is cancelled -/

/-- `wifi_rtt_range_request` with id 1. -/
def ranging : HalState := halStart.step (.start .rtt 1 allSucceed)

/-- Thread 0 delivers the last result; thread 1 cancels the request before the completion reaches
the table of commands. -/
def completedAndCancelled : List (Nat × DispatchAct) :=
  [(0, .message VendorEvent.rttComplete.key), (0, .next), (0, .next), (0, .callback true),
    (1, .cancelCmd 1), (0, .next), (1, .next), (0, .next), (1, .next), (0, .next)]

theorem ranging_started : ranging.info.Started := by
  have hrun : cancelRuns.Run ([] ++ [⟨halStart, .start .rtt 1 allSucceed, ranging⟩]) ranging := by
    refine .step (.start rfl) ⟨rfl, ?_⟩
    intro c hc
    cases hc
  refine run_started hrun ?_
  rw [List.nil_append, List.forall_mem_singleton]
  intro e _ c hc
  cases hc

/-- The command is freed once, by the thread that comes last. -/
theorem dispatch_counted_completedAndCancelled :
    ∃ s, (dispatching ranging.info 2).Reachable s ∧
      s.log = [.invoked ⟨0, .rtt, 1⟩ 2, .released ⟨0, .rtt, 1⟩ 2, .released ⟨0, .rtt, 1⟩ 1] ∧
      (∀ e ∈ s.log, 0 < e.refs) ∧ ∀ cmd, s.log.count (.released cmd 1) ≤ 1 := by
  have hlog : (execute DispatchState.step (.start ranging.info 2) completedAndCancelled).map
      (·.2.log) = some [.invoked ⟨0, .rtt, 1⟩ 2, .released ⟨0, .rtt, 1⟩ 2,
        .released ⟨0, .rtt, 1⟩ 1] := by
    decide
  obtain ⟨⟨tr, s⟩, he, hs⟩ := Option.map_eq_some_iff.mp hlog
  have hr := (run_of_execute he).reachable
  obtain ⟨hpos, honce, -⟩ := dispatch_counted ranging_started 2 hr
  exact ⟨s, hr, hs, hpos, honce⟩

end Sloane.WifiHal
