import Sloane.WifiHal.HalTables

/-!
# Cancelling the commands that are left

Model of the loop of `wifi_cleanup` (`wifi_hal.cpp`) over `info->cmd`.  What a `cancel` does to the
table is a parameter that may depend on all the calls before it; `cb_lock` is not held during it.

* `cleanupRound_spec` — one round takes the command behind the ones that would not go.
* `cleanupLoop_spec` — the loop ends, and visits what was behind them in the order of the table.
* `cleanup_visits_once` — so each command is cancelled once and released once.
-/

namespace Sloane.WifiHal

/-- `cmd_info`, with the pointer that the loop tests. -/
structure CmdSlot where
  id : Int
  cmd : Option WifiCommand
  deriving DecidableEq, Repr

/-- `wifi_unregister_cmd(handle, cmd)`: the first entry with this pointer. -/
def unregisterCmdPtr (table : List CmdSlot) (cmd : WifiCommand) : List CmdSlot :=
  table.eraseP fun slot => slot.cmd == some cmd

inductive CleanupCall where
  | cancel (cmd : WifiCommand)
  | releaseRef (cmd : WifiCommand)
  deriving DecidableEq, Repr

/-- `info->cmd` with its fill count, `bad_commands`, and the calls so far. -/
structure CleanupState where
  cmd : List CmdSlot
  badCommands : Nat
  calls : List CleanupCall
  deriving DecidableEq, Repr

/-- What the table is after the `cancel` of a command. -/
abbrev CancelEffect := List CleanupCall → WifiCommand → List CmdSlot → List CmdSlot

/-- One round of the loop; `none` when its condition is false. -/
def cleanupRound (cancel : CancelEffect) (s : CleanupState) : Option CleanupState :=
  match s.cmd[s.badCommands]? with
  | none => none
  | some ⟨_, none⟩ =>
      -- a NULL entry stays, and so does `bad_commands`
      some s
  | some ⟨_, some cmd⟩ =>
      let numCmd := s.cmd.length
      let table := cancel s.calls cmd s.cmd
      some {
        cmd := table
        badCommands := if numCmd = table.length then s.badCommands + 1 else s.badCommands
        calls := s.calls ++ [.cancel cmd, .releaseRef cmd] }

/-- The loop, for at most `n` rounds; `none` when it is not over then. -/
def cleanupLoop (cancel : CancelEffect) : Nat → CleanupState → Option CleanupState
  | 0, s => if (cleanupRound cancel s).isNone then some s else none
  | n + 1, s =>
      match cleanupRound cancel s with
      | none => some s
      | some t => cleanupLoop cancel n t

/-- The loop of `wifi_cleanup` begins. -/
def CleanupState.start (table : List CmdSlot) : CleanupState := ⟨table, 0, []⟩

/-- A `cancel` leaves the table, or takes its own command out of it. -/
def CancelEffect.OwnEntryOnly (cancel : CancelEffect) : Prop :=
  ∀ calls cmd table,
    cancel calls cmd table = table ∨ cancel calls cmd table = unregisterCmdPtr table cmd

/-! ## One round -/

/-- The calls made for an entry. -/
def CmdSlot.visit (slot : CmdSlot) : List CleanupCall :=
  match slot.cmd with
  | none => []
  | some cmd => [.cancel cmd, .releaseRef cmd]

variable {cancel : CancelEffect} {bad todo : List CmdSlot} {slot : CmdSlot}

/-- Unregistering a command closes the gap that its entry leaves. -/
theorem unregisterCmdPtr_of_distinct {cmd : WifiCommand} (hcmd : slot.cmd = some cmd)
    (hdistinct : ((bad ++ slot :: todo).map CmdSlot.cmd).Nodup) :
    unregisterCmdPtr (bad ++ slot :: todo) cmd = bad ++ todo := by
  have hbefore : ∀ other ∈ bad, ¬ (other.cmd == some cmd) = true := by
    intro other hother heq
    rw [List.map_append, List.nodup_append] at hdistinct
    exact hdistinct.2.2 _ (List.mem_map_of_mem hother) slot.cmd (by simp)
      ((eq_of_beq heq).trans hcmd.symm)
  rw [unregisterCmdPtr, List.eraseP_append_right _ hbefore,
    List.eraseP_cons_of_pos (by simp [hcmd])]

/-- **One round** takes the first command behind the bad ones; it is bad as well, or gone. -/
theorem cleanupRound_spec (calls : List CleanupCall) (hcancel : cancel.OwnEntryOnly)
    (hcmd : slot.cmd.isSome = true)
    (hdistinct : ((bad ++ slot :: todo).map CmdSlot.cmd).Nodup) :
    ∃ kept, (kept = [slot] ∨ kept = []) ∧
      cleanupRound cancel ⟨bad ++ slot :: todo, bad.length, calls⟩ =
        some ⟨bad ++ kept ++ todo, (bad ++ kept).length, calls ++ slot.visit⟩ := by
  obtain ⟨id, _ | cmd⟩ := slot
  · cases hcmd
  have hget : (bad ++ ⟨id, some cmd⟩ :: todo)[bad.length]? = some ⟨id, some cmd⟩ := by simp
  simp only [cleanupRound, hget, CmdSlot.visit]
  rcases hcancel calls cmd (bad ++ ⟨id, some cmd⟩ :: todo) with heq | heq
  · refine ⟨[⟨id, some cmd⟩], .inl rfl, ?_⟩
    rw [heq, if_pos rfl]
    simp
  · refine ⟨[], .inr rfl, ?_⟩
    rw [heq, unregisterCmdPtr_of_distinct rfl hdistinct, if_neg (by simp)]
    simp

/-! ## The loop -/

/-- **The loop ends** after as many rounds as there are commands behind the bad ones, and has
visited these in order. -/
theorem cleanupLoop_spec (bad : List CmdSlot) (calls : List CleanupCall)
    (hcancel : cancel.OwnEntryOnly)
    (hcmd : ∀ slot ∈ todo, slot.cmd.isSome = true)
    (hdistinct : ((bad ++ todo).map CmdSlot.cmd).Nodup) :
    ∃ kept, kept.Sublist todo ∧
      cleanupLoop cancel todo.length ⟨bad ++ todo, bad.length, calls⟩ =
        some ⟨bad ++ kept, (bad ++ kept).length, calls ++ todo.flatMap CmdSlot.visit⟩ := by
  induction todo generalizing bad calls with
  | nil => exact ⟨[], .slnil, by simp [cleanupLoop, cleanupRound]⟩
  | cons slot todo ih =>
    obtain ⟨hslot, htodo⟩ := List.forall_mem_cons.mp hcmd
    obtain ⟨kept, hkept, hstep⟩ := cleanupRound_spec calls hcancel hslot hdistinct
    have hsub : kept.Sublist [slot] := by
      rcases hkept with rfl | rfl
      · exact .refl _
      · exact List.nil_sublist _
    have hdistinct' : ((bad ++ kept ++ todo).map CmdSlot.cmd).Nodup := by
      refine hdistinct.sublist (List.Sublist.map _ ?_)
      rw [List.append_assoc]
      exact (List.Sublist.refl bad).append (hsub.append (.refl todo))
    obtain ⟨kept', hkept', hloop⟩ := ih (bad ++ kept) (calls ++ slot.visit) htodo hdistinct'
    refine ⟨kept ++ kept', hsub.append hkept', ?_⟩
    simp only [List.length_cons, cleanupLoop, hstep]
    rw [hloop, List.append_assoc, List.append_assoc, List.flatMap_cons]

/-- The calls for the entries of a table with distinct commands. -/
theorem count_visits {table : List CmdSlot} (hdistinct : (table.map CmdSlot.cmd).Nodup)
    {cmd : WifiCommand} (h : some cmd ∈ table.map CmdSlot.cmd) :
    (table.flatMap CmdSlot.visit).count (.cancel cmd) = 1 ∧
      (table.flatMap CmdSlot.visit).count (.releaseRef cmd) = 1 := by
  have hslot : ∀ slot : CmdSlot,
      slot.visit.count (.cancel cmd) = [slot.cmd].count (some cmd) ∧
        slot.visit.count (.releaseRef cmd) = [slot.cmd].count (some cmd) := by
    rintro ⟨id, _ | c⟩
    · exact ⟨rfl, rfl⟩
    · simp [CmdSlot.visit, List.count_cons]
  have hcount : (table.flatMap CmdSlot.visit).count (.cancel cmd) =
        (table.map CmdSlot.cmd).count (some cmd) ∧
      (table.flatMap CmdSlot.visit).count (.releaseRef cmd) =
        (table.map CmdSlot.cmd).count (some cmd) := by
    clear hdistinct h
    induction table with
    | nil => exact ⟨rfl, rfl⟩
    | cons slot table ih =>
      rw [List.flatMap_cons, List.count_append, List.count_append, ih.1, ih.2, (hslot slot).1,
        (hslot slot).2, ← List.count_append]
      exact ⟨rfl, rfl⟩
  rw [hcount.1, hcount.2]
  exact ⟨List.count_eq_one_of_mem hdistinct h, List.count_eq_one_of_mem hdistinct h⟩

/-- **Cleanup visits every command once**, and is over after a round for each. -/
theorem cleanup_visits_once (cancel : CancelEffect) (hcancel : cancel.OwnEntryOnly)
    (table : List CmdSlot) (hcmd : ∀ slot ∈ table, slot.cmd.isSome = true)
    (hdistinct : (table.map CmdSlot.cmd).Nodup) :
    ∃ s, cleanupLoop cancel table.length (.start table) = some s ∧
      ∀ cmd, some cmd ∈ table.map CmdSlot.cmd →
        s.calls.count (.cancel cmd) = 1 ∧ s.calls.count (.releaseRef cmd) = 1 := by
  obtain ⟨kept, -, hloop⟩ := cleanupLoop_spec [] [] hcancel hcmd hdistinct
  exact ⟨_, hloop, fun cmd h => count_visits hdistinct h⟩

/-- A command that leaves the table between two that stay. -/
theorem cleanup_visits_once_middle :
    ∃ s, cleanupLoop
        (fun _ cmd table => if cmd.cls = .rtt then unregisterCmdPtr table cmd else table) 3
        (.start [⟨1, some ⟨0, .scan, 1⟩⟩, ⟨2, some ⟨1, .rtt, 2⟩⟩, ⟨1, some ⟨2, .epno, 1⟩⟩]) =
          some s ∧
      ∀ cmd : WifiCommand,
        some cmd ∈ [some ⟨0, .scan, 1⟩, some ⟨1, .rtt, 2⟩, some ⟨2, .epno, 1⟩] →
        s.calls.count (.cancel cmd) = 1 ∧ s.calls.count (.releaseRef cmd) = 1 := by
  refine cleanup_visits_once _ ?_
    [⟨1, some ⟨0, .scan, 1⟩⟩, ⟨2, some ⟨1, .rtt, 2⟩⟩, ⟨1, some ⟨2, .epno, 1⟩⟩] ?_ ?_
  · intro calls cmd table
    by_cases hcls : cmd.cls = .rtt
    · exact .inr (if_pos hcls)
    · exact .inl (if_neg hcls)
  · decide
  · decide

end Sloane.WifiHal
