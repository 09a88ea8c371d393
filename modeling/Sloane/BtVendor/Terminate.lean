import Sloane.BtVendor.InitThread

/-!
# Requests to end the firmware-init thread

`notify_thread_exit` sets `cmd_status` to `CMD_TERMINATE`.  The thread sets it back only where it
waits for an event, so a request is left over unless it finds the thread there, or the callback
of an event overwrites it.

* `owed` — whether a run leaves a request that nobody has answered and nobody will.
* `OwedInv.step` — what that means for the state, kept by every step.
* `join_status_iff` — after `pthread_join` the status is not `CMD_TERMINATE` iff nothing is owed,
  and then the next thread is not kept from its loop.
-/

namespace Sloane.BtVendor

open Sloane.Lib System

/-- A command is under way: marked pending, and its wait not over. -/
def Worker.inCommand : Worker → Bool
  | .send _ | .wait _ => true
  | .none | .start | .loop _ | .check _ | .exit _ | .ended => false

/-- A request is owed an answer when it is made with no command under way, or when the command
under way then fails to be sent; an event callback settles it. -/
def owedStep (owed : Bool) (x : Transition InitState InitAction) : Bool :=
  match x.act with
  | .notifyThreadExit => !x.pre.worker.inCommand
  | .send false => decide (x.pre.status = .terminate)
  | .eventLocked | .reload => false
  | _ => owed

def owed (tr : List (Transition InitState InitAction)) : Bool := tr.foldl owedStep false

theorem owed_snoc (tr : List (Transition InitState InitAction))
    (x : Transition InitState InitAction) : owed (tr ++ [x]) = owedStep (owed tr) x := by
  simp [owed]

/-- What an owed request, and its absence, mean for the state. -/
structure OwedInv (owed : Bool) (s : InitState) : Prop where
  left : owed = true → s.status = .terminate ∧ s.worker.inCommand = false
  answered : owed = false → s.status = .terminate → s.worker.inCommand = true
  idle : s.control = .idle → s.worker = .none

/-- A step of the thread outside the sections that write the status. -/
theorem OwedInv.move {b : Bool} {s : InitState} (h : OwedInv b s)
    (hs : s.worker.inCommand = false) (hc : s.control ≠ .idle) {t : InitState}
    (hstatus : t.status = s.status) (ht : t.worker.inCommand = false)
    (hcontrol : t.control = s.control) : OwedInv b t where
  left hb := ⟨hstatus.trans (h.left hb).1, ht⟩
  answered hb hterm := absurd (h.answered hb (hstatus ▸ hterm)) (by simp [hs])
  idle hi := absurd (hcontrol ▸ hi) hc

/-- The status is no request. -/
theorem OwedInv.of_ne {s : InitState} (hs : s.status ≠ .terminate)
    (hi : s.control = .idle → s.worker = .none) : OwedInv false s :=
  ⟨nofun, fun _ h => absurd h hs, hi⟩

theorem OwedInv.not_idle {b : Bool} {s : InitState} (h : OwedInv b s) (hw : s.worker ≠ .none) :
    s.control ≠ .idle :=
  fun hi => hw (h.idle hi)

theorem startWorker_inCommand (s : InitState) (addrDefault : Bool) :
    (s.startWorker addrDefault).worker.inCommand = false := by
  unfold InitState.startWorker
  dsimp only
  split <;> rfl

theorem loopStep_eq (s : InitState) (i : Nat) (env : LoopEnv) :
    ∃ w : Worker, w.inCommand = false ∧ s.loopStep i env = { s with worker := w } := by
  unfold InitState.loopStep
  split
  · exact ⟨_, rfl, rfl⟩
  · refine ⟨_, ?_, rfl⟩
    split_ifs <;> rfl

/-- Nothing is owed while a command is under way. -/
theorem OwedInv.not_owed {b : Bool} {s : InitState} (h : OwedInv b s)
    (hin : s.worker.inCommand = true) : b = false := by
  cases b with
  | false => rfl
  | true => exact absurd (h.left rfl).2 (by simp [hin])

theorem OwedInv.check {b : Bool} {s t : InitState} (h : OwedInv b s)
    (hs : s.step .check = some t) : OwedInv b t := by
  simp only [InitState.step] at hs
  split at hs
  · rename_i i hw
    have hidle := h.not_idle (by simp [hw])
    split at hs
    · rename_i hterm
      obtain rfl := Option.some.inj hs
      -- nothing can be owed, since the status is no request
      cases b with
      | false => exact .of_ne nofun fun hi => absurd hi hidle
      | true => exact absurd (h.left rfl).1 hterm
    · obtain rfl := Option.some.inj hs
      exact h.move (by simp [hw, Worker.inCommand]) hidle rfl rfl rfl
  · cases hs

/-- A command that cannot be sent leaves a request that was made meanwhile. -/
theorem OwedInv.send {b ret : Bool} {s t : InitState} (h : OwedInv b s)
    (hs : s.step (.send ret) = some t) : OwedInv (owedStep b ⟨s, .send ret, t⟩) t := by
  simp only [InitState.step] at hs
  split at hs
  · rename_i i hw
    have hidle := h.not_idle (by simp [hw])
    have hb := h.not_owed (by simp [hw, Worker.inCommand])
    cases ret with
    | true =>
      obtain rfl := Option.some.inj hs
      exact ⟨fun h' => by simp [owedStep, hb] at h', fun _ _ => rfl, fun hi => absurd hi hidle⟩
    | false =>
      obtain rfl := Option.some.inj hs
      exact ⟨fun h' => ⟨by simpa [owedStep] using h', rfl⟩,
        fun h' hterm => absurd hterm (by simpa [owedStep] using h'), fun hi => absurd hi hidle⟩
  · cases hs

/-- The thread answers a request that finds it waiting. -/
theorem OwedInv.wait {b : Bool} {s t : InitState} (h : OwedInv b s)
    (hs : s.step .wait = some t) : OwedInv b t := by
  simp only [InitState.step] at hs
  split at hs
  · rename_i i hw
    have hidle := h.not_idle (by simp [hw])
    obtain rfl := h.not_owed (by simp [hw, Worker.inCommand])
    unfold InitState.waitStep at hs
    split at hs
    · cases hs
    all_goals
      rename_i hstatus
      obtain rfl := Option.some.inj hs
      refine .of_ne ?_ fun hi => absurd hi hidle
      simp [hstatus]
  · cases hs

/-- **Step lemma.** -/
theorem OwedInv.step {b : Bool} {s t : InitState} {a : InitAction} (h : OwedInv b s)
    (hs : s.step a = some t) : OwedInv (owedStep b ⟨s, a, t⟩) t := by
  cases a with
  | initDevice chipId created =>
    simp only [InitState.step, Option.ite_none_right_eq_some, Option.some.injEq] at hs
    obtain ⟨hc, rfl⟩ := hs
    have hw := h.idle hc
    cases created with
    | false => exact ⟨h.left, h.answered, fun _ => hw⟩
    | true =>
      refine ⟨fun hb => ⟨(h.left hb).1, rfl⟩, ?_, nofun⟩
      intro hb hterm
      have hin := h.answered hb hterm
      simp [hw, Worker.inCommand] at hin
  | initTail =>
    simp only [InitState.step, Option.ite_none_right_eq_some, Option.some.injEq] at hs
    obtain ⟨-, rfl⟩ := hs
    exact ⟨h.left, h.answered, nofun⟩
  | cleanup =>
    simp only [InitState.step, Option.ite_none_right_eq_some, Option.some.injEq] at hs
    obtain ⟨-, rfl⟩ := hs
    refine ⟨h.left, h.answered, ?_⟩
    intro hi
    dsimp only at hi
    split at hi <;> cases hi
  | notifyThreadExit =>
    simp only [InitState.step, Option.ite_none_right_eq_some, Option.some.injEq] at hs
    obtain ⟨-, rfl⟩ := hs
    exact ⟨fun hb => ⟨rfl, by simpa [owedStep] using hb⟩,
      fun hb _ => by simpa [owedStep] using hb, nofun⟩
  | join =>
    simp only [InitState.step, Option.ite_none_right_eq_some, Option.some.injEq] at hs
    obtain ⟨⟨-, hw⟩, rfl⟩ := hs
    refine ⟨fun hb => ⟨(h.left hb).1, rfl⟩, ?_, fun _ => rfl⟩
    intro hb hterm
    have hin := h.answered hb hterm
    rcases hw with hw | hw <;> simp [hw, Worker.inCommand] at hin
  | reload =>
    simp only [InitState.step, Option.ite_none_right_eq_some, Option.some.injEq] at hs
    obtain ⟨⟨hc, -⟩, rfl⟩ := hs
    exact .of_ne nofun fun _ => h.idle hc
  | threadStart addrDefault =>
    simp only [InitState.step, Option.ite_none_right_eq_some, Option.some.injEq] at hs
    obtain ⟨hw, rfl⟩ := hs
    exact h.move (by simp [hw, Worker.inCommand]) (h.not_idle (by simp [hw])) rfl
      (startWorker_inCommand s addrDefault) rfl
  | loop env =>
    simp only [InitState.step] at hs
    split at hs
    · rename_i i hw
      obtain rfl := Option.some.inj hs
      obtain ⟨w, hin, heq⟩ := loopStep_eq s i env
      rw [heq]
      exact h.move (by simp [hw, Worker.inCommand]) (h.not_idle (by simp [hw])) rfl hin rfl
    · cases hs
  | check => exact h.check hs
  | send ret => exact h.send hs
  | wait => exact h.wait hs
  | finish =>
    simp only [InitState.step] at hs
    split at hs
    · rename_i ret hw
      obtain rfl := Option.some.inj hs
      exact h.move (by simp [hw, Worker.inCommand]) (h.not_idle (by simp [hw])) rfl rfl rfl
    · cases hs
  | event success =>
    simp only [InitState.step, Option.ite_none_right_eq_some, Option.some.injEq] at hs
    obtain ⟨-, rfl⟩ := hs
    exact ⟨h.left, h.answered, h.idle⟩
  | eventLocked =>
    simp only [InitState.step] at hs
    split at hs
    · rename_i success _
      obtain rfl := Option.some.inj hs
      refine .of_ne ?_ h.idle
      cases success <;> nofun
    · cases hs

/-- **Run lemma.** -/
theorem run_owedInv {tr : List (Transition InitState InitAction)} {s : InitState}
    (h : initSystem.Run tr s) : OwedInv (owed tr) s := by
  induction h with
  | start hi =>
    obtain rfl := hi
    exact .of_ne nofun fun _ => rfl
  | step _ hs ih =>
    rw [owed_snoc]
    exact ih.step hs

/-- Only `notify_thread_exit` makes a request. -/
theorem status_ne_terminate_step {s t : InitState} {a : InitAction} (hs : s.step a = some t)
    (ha : a ≠ .notifyThreadExit) (h : s.status ≠ .terminate) : t.status ≠ .terminate := by
  cases a with
  | notifyThreadExit => exact absurd rfl ha
  | loop env =>
    simp only [InitState.step] at hs
    split at hs
    · rename_i i _
      obtain ⟨w, -, heq⟩ := loopStep_eq s i env
      obtain rfl := Option.some.inj hs
      rwa [heq]
    · cases hs
  | wait =>
    simp only [InitState.step] at hs
    split at hs
    · unfold InitState.waitStep at hs
      split at hs <;> cases hs <;> simp_all
    · cases hs
  | eventLocked =>
    simp only [InitState.step] at hs
    split at hs
    · rename_i success _
      obtain rfl := Option.some.inj hs
      cases success <;> nofun
    · cases hs
  | _ =>
    simp only [InitState.step] at hs
    repeat' split at hs
    all_goals cases hs
    all_goals first | exact h | nofun

/-- **When joining the thread leaves no request behind**; the threads that follow then enter their
loop, as long as no new request is made. -/
theorem join_status_iff {tr : List (Transition InitState InitAction)}
    {x : Transition InitState InitAction} {t : InitState} (h : initSystem.Run (tr ++ [x]) t)
    (hx : x.act = .join) :
    (t.status ≠ .terminate ↔ owed tr = false) ∧
    (owed tr = false → ∀ tr' u, initSystem.Run (tr ++ [x] ++ tr') u →
      (∀ y ∈ tr', y.act ≠ .notifyThreadExit) → ∀ i, u.loopTest i = (u.commandFunc i).isSome) := by
  have hlast : owed (tr ++ [x]) = owed tr := by
    rw [owed_snoc, owedStep, hx]
  have hinv := run_owedInv h
  rw [hlast] at hinv
  obtain ⟨-, hs, rfl⟩ := run_snoc.mp h
  have hw : x.post.worker = .none := by
    simp only [hx, initSystem, ofStep, InitState.step, Option.ite_none_right_eq_some,
      Option.some.injEq] at hs
    rw [← hs.2]
  have hiff : x.post.status ≠ .terminate ↔ owed tr = false := by
    constructor
    · intro hne
      by_contra hb
      exact hne (hinv.left (by simpa using hb)).1
    · intro hb hterm
      have hin := hinv.answered hb hterm
      simp [hw, Worker.inCommand] at hin
  refine ⟨hiff, ?_⟩
  intro hb tr' u hu hno i
  have hne : u.status ≠ .terminate :=
    Run.preserved (M := initSystem) (P := fun s => s.status ≠ .terminate)
      (C := fun a => a ≠ .notifyThreadExit) (fun _ _ _ => status_ne_terminate_step) hu
      (hiff.mpr hb) hno
  simp [InitState.loopTest, hne]

/-! ## A cleanup before the first command, and one during a command -/

def fullEnv : LoopEnv := ⟨true, true, true⟩

/-- Enable, and clean up before the thread tests its loop for the first time. -/
def earlyCleanup : List InitAction :=
  [.initDevice 0x6580 true, .initTail, .threadStart false, .cleanup, .notifyThreadExit,
    .loop fullEnv, .finish]

/-- Enable, and clean up while the thread waits for the first event. -/
def cleanupWhileWaiting : List InitAction :=
  [.initDevice 0x6580 true, .initTail, .threadStart false, .loop fullEnv, .check, .send true,
    .cleanup, .notifyThreadExit, .wait, .finish]

/-- Joined, with this status left, and a command sent or not. -/
def joined (status : CmdStatus) (sent : Bool) : InitState :=
  { InitState.init with
    status := status, chipId := 0x6580, script := some btInitPreloadScriptConsys
    internalCb := sent }

/-- The thread has ended and is to be joined. -/
def joining (status : CmdStatus) (sent : Bool) : InitState :=
  { joined status sent with worker := .ended, control := .joining }

/-- After the early cleanup the request is still there, and the next thread ends with a failure
without a command. -/
theorem early_cleanup_leaves_terminate :
    (∃ tr, initSystem.Run (tr ++ [⟨joining .terminate false, .join, joined .terminate false⟩])
      (joined .terminate false)) ∧
    (execute InitState.step (joined .terminate false)
        [.initDevice 0x6580 true, .initTail, .threadStart false, .loop fullEnv]).map
      (fun r => r.2.worker) = some (.exit false) := by
  refine ⟨?_, by decide⟩
  have he : (execute InitState.step .init earlyCleanup).map Prod.snd =
      some (joining .terminate false) := by decide
  obtain ⟨⟨tr, s⟩, hrun, rfl⟩ := Option.map_eq_some_iff.mp he
  exact ⟨tr, (run_of_execute hrun).step rfl⟩

/-- A request that finds the thread waiting is answered. -/
theorem join_status_while_waiting :
    ∃ tr, initSystem.Run (tr ++ [⟨joining .success true, .join, joined .success true⟩])
        (joined .success true) ∧
      owed tr = false ∧ (joined .success true).status ≠ .terminate := by
  have he : (execute InitState.step .init cleanupWhileWaiting).map
      (fun r => (r.2, owed r.1)) = some (joining .success true, false) := by decide
  obtain ⟨⟨tr, s⟩, hrun, heq⟩ := Option.map_eq_some_iff.mp he
  obtain ⟨rfl, hb⟩ := Prod.mk.inj heq
  have hjoin : initSystem.Run (tr ++ [⟨joining .success true, .join, joined .success true⟩]) _ :=
    (run_of_execute hrun).step rfl
  exact ⟨tr, hjoin, hb, (join_status_iff hjoin rfl).1.mpr hb⟩

end Sloane.BtVendor
