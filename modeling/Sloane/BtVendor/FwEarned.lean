import Mathlib.Data.List.Forall2
import Sloane.BtVendor.FwConfig
import Sloane.Lib.History

/-!
# Success is earned

* `Quiet`, `Asked` — where the commands of a script stand while none, and while one, is under way.
* `FwState.Inv.step` — the invariant of a run.
* `fw_init_earned` — when the thread reports success, every command it was to send has been sent
  once, in order, after the ones before it were answered, and nothing but the answers was kept
  from the stack.
-/

namespace Sloane.BtVendor

open Sloane.Lib System

/-! ## What the history tells -/

/-- A Command Complete event with the opcode of the command and status 0. -/
def Answers (c : HciCommand) (ev : HciEvent) : Prop :=
  ev.eventCode = HCI_COMMAND_COMPLETE_EVENT ∧ ev.opcode = c.wOpCode ∧ ev.status = 0

def FwEvent.sent? : FwEvent → Option HciCommand
  | .sent c => some c
  | _ => none

def FwEvent.answered? : FwEvent → Option HciEvent
  | .answered ev => some ev
  | _ => none

/-- The commands sent. -/
def sents (h : List FwEvent) : List HciCommand := h.filterMap FwEvent.sent?

/-- The events taken for the pending command. -/
def answers (h : List FwEvent) : List HciEvent := h.filterMap FwEvent.answered?

/-- Every command sent so far has been answered, in order. -/
def AllAnswered (h : List FwEvent) : Prop :=
  ∃ evs rest, answers h = evs ++ rest ∧ List.Forall₂ Answers (sents h) evs

/-- Each command is sent after the ones before it were answered. -/
def InTurn (h : List FwEvent) : Prop :=
  Always (fun pre e => e.sent?.isSome → AllAnswered pre) h

/-- The commands `cmds`, and no others, were sent in their turn and answered, and no other event
was taken for an answer. -/
structure Earned (cmds : List HciCommand) (h : List FwEvent) : Prop where
  sent : sents h = cmds
  inTurn : InTurn h
  answered : List.Forall₂ Answers cmds (answers h)

@[simp] theorem sents_append (h h' : List FwEvent) : sents (h ++ h') = sents h ++ sents h' :=
  List.filterMap_append

@[simp] theorem answers_append (h h' : List FwEvent) :
    answers (h ++ h') = answers h ++ answers h' :=
  List.filterMap_append

theorem inTurn_snoc_of_none {h : List FwEvent} {e : FwEvent} (he : e.sent? = none)
    (hturn : InTurn h) : InTurn (h ++ [e]) :=
  always_snoc.mpr ⟨hturn, fun hsome => by simp [he] at hsome⟩

/-! ## The invariant -/

/-- Not in a callback, which runs to its end once it is entered. -/
def Dispatch.outside : Dispatch → Bool
  | .callback _ _ | .locking _ => false
  | _ => true

/-- No command is under way; those sent are `cmds` and they are answered. -/
structure FwState.Quiet (s : FwState) (cmds : List HciCommand) : Prop where
  sent : sents s.history = cmds
  answered : List.Forall₂ Answers cmds (answers s.history)
  slot : s.internalCb = none ∨ s.internalCb = some .unloaded
  dispatch : s.dispatch.outside = true

/-- The thread would still wait, or give up. -/
def CmdStatus.unsettled : CmdStatus → Bool
  | .pending | .terminate => true
  | _ => false

/-- The command `c` is under way after `done` were answered: it waits for its event, or the event
is on its way to `cmd_status`, or it is there. -/
inductive FwState.Asked (s : FwState) (done : List HciCommand) (c : HciCommand) : Prop
  | waiting : s.internalCb = some c.callback → s.dispatch.outside = true →
      s.status.unsettled = true → List.Forall₂ Answers done (answers s.history) → Asked s done c
  | taken (evs ev) : s.internalCb = none → s.dispatch = .callback c.callback ev →
      s.status.unsettled = true → answers s.history = evs ++ [ev] →
      List.Forall₂ Answers done evs → Asked s done c
  | judged (evs ev success) : s.internalCb = none → s.dispatch = .locking success →
      s.status.unsettled = true → answers s.history = evs ++ [ev] →
      List.Forall₂ Answers done evs → (success = true → Answers c ev) → Asked s done c
  | told (evs ev) : s.internalCb = none → s.dispatch = .idle →
      answers s.history = evs ++ [ev] → List.Forall₂ Answers done evs →
      (s.status = .success → Answers c ev) → Asked s done c

/-- The commands from one index of a script to before another that are not skipped. -/
def issued (env : FwCfgEnv) (script : List HciCommand) (start i : Nat) : List HciCommand :=
  ((script.take i).drop start).filter fun c => !env.skips c

def FwState.start (s : FwState) (left : Leftover) : Nat :=
  startIndex s.chipId s.addr left.getEFUSE

/-- The commands that the thread is through with at index `i`. -/
def FwState.done (s : FwState) (env : FwCfgEnv) (left : Leftover) (i : Nat) : List HciCommand :=
  issued env (s.script.getD []) (s.start left) i

/-- All the commands that are to be sent. -/
def FwState.cmds (s : FwState) (env : FwCfgEnv) (left : Leftover) : List HciCommand :=
  ((s.script.getD []).drop (s.start left)).filter fun c => !env.skips c

/-- `c` is at index `i` and is not skipped. -/
structure FwState.Current (s : FwState) (env : FwCfgEnv) (left : Leftover) (i : Nat)
    (c : HciCommand) : Prop where
  start : s.start left ≤ i
  command : s.commandFunc i = some c
  wanted : env.skips c = false

/-- What holds where the thread is. -/
def FwState.Course (s : FwState) (env : FwCfgEnv) (left : Leftover) : Prop :=
  match s.worker with
  | .absent => s.Quiet []
  | .start => s.getEFUSE = left.getEFUSE ∧ s.Quiet []
  | .loop i => s.start left ≤ i ∧ s.Quiet (s.done env left i)
  | .check i => ∃ c, s.Current env left i c ∧ s.Quiet (s.done env left i)
  | .setOpCode i => ∃ c, s.Current env left i c ∧ s.status.unsettled = true ∧
      s.Quiet (s.done env left i)
  | .setCb i => ∃ c, s.Current env left i c ∧ s.wOpCode = c.wOpCode ∧ s.status.unsettled = true ∧
      s.Quiet (s.done env left i)
  | .setOpcode i | .send i => ∃ c, s.Current env left i c ∧ s.wOpCode = c.wOpCode ∧
      sents s.history = s.done env left i ∧ s.Asked (s.done env left i) c
  | .wait i => ∃ c, s.Current env left i c ∧ s.wOpCode = c.wOpCode ∧
      sents s.history = s.done env left i ++ [c] ∧ s.Asked (s.done env left i) c
  | .exit ret => ret = true → s.Quiet (s.cmds env left)
  | .ended => .fwcfgCb true ∈ s.history → s.Quiet (s.cmds env left)

structure FwState.Inv (s : FwState) (env : FwCfgEnv) (left : Leftover) : Prop where
  inTurn : InTurn s.history
  unreported : s.worker ≠ .ended → .fwcfgCb true ∉ s.history
  course : s.Course env left

/-! ## The script -/

theorem issued_succ (env : FwCfgEnv) {script : List HciCommand} {start i : Nat} {c : HciCommand}
    (hstart : start ≤ i) (hc : script[i]? = some c) :
    issued env script start (i + 1) =
      issued env script start i ++ if env.skips c then [] else [c] := by
  have hlt : i < script.length := (List.getElem?_eq_some_iff.mp hc).1
  unfold issued
  rw [List.take_add_one, hc, Option.toList_some,
    List.drop_append_of_le_length (by rw [List.length_take]; omega), List.filter_append]
  congr 1
  cases hskip : env.skips c <;> simp [hskip]

theorem issued_of_none {env : FwCfgEnv} {script : List HciCommand} {start i : Nat}
    (h : script[i]? = none) :
    issued env script start i = (script.drop start).filter fun c => !env.skips c := by
  unfold issued
  rw [List.take_of_length_le (List.getElem?_eq_none_iff.mp h)]

theorem issued_start (env : FwCfgEnv) (script : List HciCommand) (start : Nat) :
    issued env script start start = [] := by
  unfold issued
  rw [List.drop_eq_nil_of_le (by rw [List.length_take]; omega)]
  rfl

/-! ## The thread that handles events -/

/-- What a step of that thread leaves as it is. -/
structure EventFrame (s t : FwState) : Prop where
  worker : t.worker = s.worker
  script : t.script = s.script
  chipId : t.chipId = s.chipId
  addr : t.addr = s.addr
  wOpCode : t.wOpCode = s.wOpCode
  getEFUSE : t.getEFUSE = s.getEFUSE
  sent : sents t.history = sents s.history
  inTurn : InTurn s.history → InTurn t.history
  reported : FwEvent.fwcfgCb true ∈ t.history ↔ FwEvent.fwcfgCb true ∈ s.history

/-- A step that records at most an event of the controller. -/
theorem EventFrame.of_log {s t : FwState} (es : List FwEvent)
    (ht : t = { s with
      internalCb := t.internalCb
      dispatch := t.dispatch
      status := t.status
      history := s.history ++ es })
    (hes : es = [] ∨ ∃ ev, es = [.passed ev] ∨ es = [.answered ev]) : EventFrame s t := by
  rw [ht]
  rcases hes with rfl | ⟨ev, rfl | rfl⟩
  · rw [List.append_nil]
    exact ⟨rfl, rfl, rfl, rfl, rfl, rfl, rfl, id, .rfl⟩
  all_goals
    refine ⟨rfl, rfl, rfl, rfl, rfl, rfl, ?_, inTurn_snoc_of_none rfl, ?_⟩
    · simp [sents, FwEvent.sent?]
    · simp

theorem EventCase.frame {s t : FwState} {evs : List HciEvent} (h : EventCase s evs t) :
    EventFrame s t := by
  cases h with
  | unexpected => exact .of_log _ rfl (.inr ⟨_, .inl rfl⟩)
  | passed => exact .of_log _ rfl (.inr ⟨_, .inl rfl⟩)
  | taken => exact .of_log _ rfl (.inr ⟨_, .inr rfl⟩)
  | _ => exact .of_log [] (by simp) (.inl rfl)

theorem answers_snoc_passed (h : List FwEvent) (ev : HciEvent) :
    answers (h ++ [.passed ev]) = answers h := by
  simp [answers, FwEvent.answered?]

theorem answers_snoc_answered (h : List FwEvent) (ev : HciEvent) :
    answers (h ++ [.answered ev]) = answers h ++ [ev] := by
  simp [answers, FwEvent.answered?]

/-- While no command is under way, no event is taken for an answer. -/
theorem FwState.Quiet.event {s t : FwState} {evs : List HciEvent} {cmds : List HciCommand}
    (hs : s.Quiet cmds) (h : EventCase s evs t) : t.Quiet cmds := by
  have hsent := h.frame.sent.trans hs.sent
  obtain ⟨-, hanswered, hslot, hout⟩ := hs
  cases h with
  | expected => exact ⟨hsent, hanswered, hslot, rfl⟩
  | unexpected => exact ⟨hsent, by rwa [answers_snoc_passed], hslot, hout⟩
  | matched => exact ⟨hsent, hanswered, hslot, rfl⟩
  | passed => exact ⟨hsent, by rwa [answers_snoc_passed], hslot, rfl⟩
  | crashed => exact ⟨hsent, hanswered, .inl rfl, rfl⟩
  | taken hpc hcb hne =>
    rcases hslot with hslot | hslot <;> rw [hslot] at hcb <;> cases hcb
    exact absurd rfl hne
  | judged hpc | told hpc =>
    rw [hpc] at hout
    cases hout

theorem HciCommand.callback_ne_unloaded (c : HciCommand) : c.callback ≠ .unloaded := by
  cases c <;> simp [HciCommand.callback]

/-- A callback reports success for an answer only. -/
theorem answers_of_callbackSuccess {s : FwState} {c : HciCommand} {ev : HciEvent}
    (hw : s.wOpCode = c.wOpCode) (h : s.callbackSuccess c.callback ev = true) : Answers c ev := by
  simp only [FwState.callbackSuccess, Bool.and_eq_true, decide_eq_true_eq] at h
  obtain ⟨⟨hcode, hopcode⟩, hstatus⟩ := h
  refine ⟨hcode, ?_, hstatus⟩
  rw [hopcode]
  split
  · rename_i hcb
    cases c <;> first | rfl | cases hcb
  · exact hw

/-- While a command is under way, the only event taken is the one that it waits for. -/
theorem FwState.Asked.event {s t : FwState} {evs : List HciEvent} {done : List HciCommand}
    {c : HciCommand} (hs : s.Asked done c) (hw : s.wOpCode = c.wOpCode) (h : EventCase s evs t) :
    t.Asked done c := by
  cases hs with
  | waiting hcb hout hstatus hdone =>
    cases h with
    | expected => exact .waiting hcb rfl hstatus hdone
    | unexpected _ hnone =>
      rw [hcb] at hnone
      cases hnone
    | matched => exact .waiting hcb rfl hstatus hdone
    | passed => exact .waiting hcb rfl hstatus (by rwa [answers_snoc_passed])
    | crashed _ hgone =>
      rw [hcb] at hgone
      rcases hgone with hgone | hgone
      · cases hgone
      · exact absurd (Option.some.inj hgone) c.callback_ne_unloaded
    | @taken ev cb hpc hsome =>
      rw [hcb] at hsome
      obtain rfl := Option.some.inj hsome
      exact .taken _ ev rfl rfl hstatus (answers_snoc_answered _ ev) hdone
    | judged hpc | told hpc =>
      rw [hpc] at hout
      cases hout
  | taken evs ev hcb hdispatch hstatus hans hdone =>
    obtain rfl := h.of_callback hdispatch
    exact .judged evs ev _ hcb rfl hstatus hans hdone (answers_of_callbackSuccess hw)
  | judged evs ev b hcb hdispatch hstatus hans hdone hsuccess =>
    obtain rfl := h.of_locking hdispatch
    refine .told evs ev hcb rfl hans hdone ?_
    intro hsuc
    cases b with
    | true => exact hsuccess rfl
    | false => cases hsuc
  | told evs ev hcb hdispatch hans hdone hsuccess =>
    obtain ⟨ev', rfl⟩ := h.of_idle hdispatch hcb
    exact .told evs ev hcb hdispatch (by rwa [answers_snoc_passed]) hdone hsuccess

section Frame

variable {s t : FwState} {env : FwCfgEnv} {left : Leftover}

theorem EventFrame.start_eq (h : EventFrame s t) : t.start left = s.start left := by
  unfold FwState.start
  rw [h.chipId, h.addr]

theorem EventFrame.done_eq (h : EventFrame s t) (i : Nat) :
    t.done env left i = s.done env left i := by
  unfold FwState.done
  rw [h.script, h.start_eq]

theorem EventFrame.cmds_eq (h : EventFrame s t) : t.cmds env left = s.cmds env left := by
  unfold FwState.cmds
  rw [h.script, h.start_eq]

theorem EventFrame.current {i : Nat} {c : HciCommand} (h : EventFrame s t)
    (hs : s.Current env left i c) : t.Current env left i c := by
  refine ⟨h.start_eq ▸ hs.start, ?_, hs.wanted⟩
  unfold FwState.commandFunc
  rw [h.script]
  exact hs.command

end Frame

/-- Only a callback changes the status. -/
theorem FwState.Quiet.event_status {s t : FwState} {evs : List HciEvent} {cmds : List HciCommand}
    (hs : s.Quiet cmds) (h : EventCase s evs t) : t.status = s.status := by
  have hout := hs.dispatch
  cases h with
  | told hpc =>
    rw [hpc] at hout
    cases hout
  | _ => rfl

/-- Nor does an event change what is said of a command that is being sent. -/
theorem FwState.Asked.current_event {s t : FwState} {env : FwCfgEnv} {left : Leftover}
    {evs : List HciEvent} (h : EventCase s evs t) {i : Nat} {done : List HciCommand}
    {sent : HciCommand → List HciCommand}
    (hs : ∃ c, s.Current env left i c ∧ s.wOpCode = c.wOpCode ∧ sents s.history = sent c ∧
      s.Asked done c) :
    ∃ c, t.Current env left i c ∧ t.wOpCode = c.wOpCode ∧ sents t.history = sent c ∧
      t.Asked done c := by
  have hf := h.frame
  obtain ⟨c, hc, hw, hsent, hasked⟩ := hs
  exact ⟨c, hf.current hc, hf.wOpCode.trans hw, hf.sent.trans hsent, hasked.event hw h⟩

/-- The thread that handles events keeps the course of the other. -/
theorem FwState.Course.event {s t : FwState} {env : FwCfgEnv} {left : Leftover}
    {evs : List HciEvent} (hs : s.Course env left) (h : EventCase s evs t) :
    t.Course env left := by
  have hf := h.frame
  unfold FwState.Course at hs ⊢
  rw [hf.worker]
  split at hs
  · exact hs.event h
  · exact ⟨hf.getEFUSE.trans hs.1, hs.2.event h⟩
  · rw [hf.start_eq, hf.done_eq]
    exact ⟨hs.1, hs.2.event h⟩
  · obtain ⟨c, hc, hq⟩ := hs
    rw [hf.done_eq]
    exact ⟨c, hf.current hc, hq.event h⟩
  · obtain ⟨c, hc, hu, hq⟩ := hs
    rw [hf.done_eq, hq.event_status h]
    exact ⟨c, hf.current hc, hu, hq.event h⟩
  · obtain ⟨c, hc, hw, hu, hq⟩ := hs
    rw [hf.done_eq, hq.event_status h]
    exact ⟨c, hf.current hc, hf.wOpCode.trans hw, hu, hq.event h⟩
  · rw [hf.done_eq]
    exact FwState.Asked.current_event h hs
  · rw [hf.done_eq]
    exact FwState.Asked.current_event h hs
  · rw [hf.done_eq]
    exact FwState.Asked.current_event h hs
  · rw [hf.cmds_eq]
    exact fun hret => (hs hret).event h
  · rw [hf.cmds_eq]
    exact fun hreported => (hs (hf.reported.mp hreported)).event h

theorem FwState.Asked.of_eq {s t : FwState} {done : List HciCommand} {c : HciCommand}
    (hs : s.Asked done c) (hans : answers t.history = answers s.history)
    (hcb : t.internalCb = s.internalCb) (hdispatch : t.dispatch = s.dispatch)
    (hstatus : t.status = s.status) : t.Asked done c := by
  cases hs with
  | waiting h₁ h₂ h₃ h₄ =>
    exact .waiting (hcb ▸ h₁) (hdispatch ▸ h₂) (hstatus ▸ h₃) (hans ▸ h₄)
  | taken evs ev h₁ h₂ h₃ h₄ h₅ =>
    exact .taken evs ev (hcb ▸ h₁) (hdispatch ▸ h₂) (hstatus ▸ h₃) (hans ▸ h₄) h₅
  | judged evs ev b h₁ h₂ h₃ h₄ h₅ h₆ =>
    exact .judged evs ev b (hcb ▸ h₁) (hdispatch ▸ h₂) (hstatus ▸ h₃) (hans ▸ h₄) h₅ h₆
  | told evs ev h₁ h₂ h₃ h₄ h₅ =>
    exact .told evs ev (hcb ▸ h₁) (hdispatch ▸ h₂) (hans ▸ h₃) h₄ (hstatus ▸ h₅)

/-! ## `notify_thread_exit` -/

theorem FwState.Asked.terminate {s : FwState} {done : List HciCommand} {c : HciCommand}
    (hs : s.Asked done c) : ({ s with status := .terminate } : FwState).Asked done c := by
  cases hs with
  | waiting hcb hout _ hdone => exact .waiting hcb hout rfl hdone
  | taken evs ev hcb hdispatch _ hans hdone => exact .taken evs ev hcb hdispatch rfl hans hdone
  | judged evs ev b hcb hdispatch _ hans hdone hsuccess =>
    exact .judged evs ev b hcb hdispatch rfl hans hdone hsuccess
  | told evs ev hcb hdispatch hans hdone _ => exact .told evs ev hcb hdispatch hans hdone nofun

theorem FwState.Quiet.terminate {s : FwState} {cmds : List HciCommand} (hs : s.Quiet cmds) :
    ({ s with status := .terminate } : FwState).Quiet cmds :=
  ⟨hs.sent, hs.answered, hs.slot, hs.dispatch⟩

theorem FwState.Current.terminate {s : FwState} {env : FwCfgEnv} {left : Leftover} {i : Nat}
    {c : HciCommand} (hs : s.Current env left i c) :
    ({ s with status := .terminate } : FwState).Current env left i c :=
  ⟨hs.start, hs.command, hs.wanted⟩

theorem FwState.Course.terminate {s : FwState} {env : FwCfgEnv} {left : Leftover}
    (hs : s.Course env left) : ({ s with status := .terminate } : FwState).Course env left := by
  unfold FwState.Course at hs ⊢
  rw [show ({ s with status := .terminate } : FwState).worker = s.worker from rfl]
  split at hs
  · exact hs.terminate
  · exact ⟨hs.1, hs.2.terminate⟩
  · exact ⟨hs.1, hs.2.terminate⟩
  · obtain ⟨c, hc, hq⟩ := hs
    exact ⟨c, hc.terminate, hq.terminate⟩
  · obtain ⟨c, hc, -, hq⟩ := hs
    exact ⟨c, hc.terminate, rfl, hq.terminate⟩
  · obtain ⟨c, hc, hw, -, hq⟩ := hs
    exact ⟨c, hc.terminate, hw, rfl, hq.terminate⟩
  · obtain ⟨c, hc, hw, hsent, hasked⟩ := hs
    exact ⟨c, hc.terminate, hw, hsent, hasked.terminate⟩
  · obtain ⟨c, hc, hw, hsent, hasked⟩ := hs
    exact ⟨c, hc.terminate, hw, hsent, hasked.terminate⟩
  · obtain ⟨c, hc, hw, hsent, hasked⟩ := hs
    exact ⟨c, hc.terminate, hw, hsent, hasked.terminate⟩
  · exact fun hret => (hs hret).terminate
  · exact fun hreported => (hs hreported).terminate

/-! ## The thread -/

theorem FwState.done_of_none {s : FwState} {env : FwCfgEnv} {left : Leftover} {i : Nat}
    (h : s.commandFunc i = none) : s.done env left i = s.cmds env left :=
  issued_of_none h

theorem FwState.Current.done_succ {s : FwState} {env : FwCfgEnv} {left : Leftover} {i : Nat}
    {c : HciCommand} (h : s.Current env left i c) :
    s.done env left (i + 1) = s.done env left i ++ [c] := by
  have hsucc := issued_succ env h.start h.command
  rwa [h.wanted, if_neg Bool.false_ne_true] at hsucc

theorem FwState.Quiet.of_eq {s t : FwState} {cmds : List HciCommand} (hs : s.Quiet cmds)
    (hhistory : t.history = s.history) (hcb : t.internalCb = s.internalCb)
    (hdispatch : t.dispatch = s.dispatch) : t.Quiet cmds :=
  ⟨hhistory ▸ hs.sent, hhistory ▸ hs.answered, hcb ▸ hs.slot, hdispatch ▸ hs.dispatch⟩

theorem FwState.Course.threadStart {s : FwState} {env : FwCfgEnv} {left : Leftover}
    (hs : s.Course env left) (hpc : s.worker = .start) : s.threadStart.Course env left := by
  simp only [FwState.Course, hpc] at hs
  obtain ⟨hefuse, hq⟩ := hs
  unfold FwState.threadStart
  split
  · exact nofun
  · rename_i script hscript
    have hstart : startIndex s.chipId s.addr s.getEFUSE = s.start left := by
      unfold FwState.start
      rw [hefuse]
    refine ⟨Nat.le_of_eq hstart.symm, ?_⟩
    show FwState.Quiet _ (issued env script (s.start left) _)
    rw [hstart, issued_start]
    exact hq.of_eq rfl rfl rfl

theorem FwState.exitAt_of_some {s : FwState} {i : Nat} {c : HciCommand}
    (h : s.commandFunc i = some c) : s.exitAt i = .exit false := by
  unfold FwState.exitAt
  rw [h]
  rfl

/-- Leaving the loop at a command is a failure. -/
theorem FwState.Course.of_exitAt {s : FwState} {env : FwCfgEnv} {left : Leftover} {i : Nat}
    {c : HciCommand} (h : s.commandFunc i = some c) (status : CmdStatus) :
    ({ s with status := status, worker := s.exitAt i } : FwState).Course env left := by
  rw [FwState.exitAt_of_some h]
  exact nofun

theorem FwState.Course.loopStep {s : FwState} {env : FwCfgEnv} {left : Leftover} {i : Nat}
    (hs : s.Course env left) (hpc : s.worker = .loop i) (allocated : Bool) :
    (s.loopStep env i allocated).Course env left := by
  simp only [FwState.Course, hpc] at hs
  obtain ⟨hstart, hq⟩ := hs
  unfold FwState.loopStep
  split
  · rename_i hnone
    intro _
    exact (FwState.done_of_none hnone ▸ hq).of_eq rfl rfl rfl
  · rename_i c hc
    split_ifs with hterm hskip halloc
    · exact .of_exitAt hc s.status
    · refine ⟨Nat.le_succ_of_le hstart, ?_⟩
      have hsucc := issued_succ env hstart hc
      rw [if_pos hskip, List.append_nil] at hsucc
      show FwState.Quiet _ (issued env (s.script.getD []) (s.start left) (i + 1))
      rw [hsucc]
      exact hq.of_eq rfl rfl rfl
    · exact ⟨c, ⟨hstart, hc, Bool.eq_false_iff.mpr hskip⟩, hq.of_eq rfl rfl rfl⟩
    · exact .of_exitAt hc s.status

section Command

variable {s : FwState} {env : FwCfgEnv} {left : Leftover} {i : Nat} (hs : s.Course env left)
include hs

theorem FwState.Course.pend (hpc : s.worker = .check i) :
    ({ s with status := .pending, worker := .setOpCode i } : FwState).Course env left := by
  simp only [FwState.Course, hpc] at hs
  obtain ⟨c, hc, hq⟩ := hs
  exact ⟨c, ⟨hc.start, hc.command, hc.wanted⟩, rfl, hq.of_eq rfl rfl rfl⟩

theorem FwState.Course.setOpCode {c : HciCommand} (hpc : s.worker = .setOpCode i)
    (hcommand : s.commandFunc i = some c) :
    ({ s with
      wOpCode := c.wOpCode
      getEFUSE := if c = .setLocalBDAddr then false else s.getEFUSE
      worker := .setCb i } : FwState).Course env left := by
  simp only [FwState.Course, hpc] at hs
  obtain ⟨c', hc, hu, hq⟩ := hs
  obtain rfl := Option.some.inj (hcommand.symm.trans hc.command)
  exact ⟨c, ⟨hc.start, hc.command, hc.wanted⟩, rfl, hu, hq.of_eq rfl rfl rfl⟩

theorem FwState.Course.setCb {c : HciCommand} (hpc : s.worker = .setCb i)
    (hcommand : s.commandFunc i = some c) :
    ({ s with internalCb := some c.callback, worker := .setOpcode i } : FwState).Course env
      left := by
  simp only [FwState.Course, hpc] at hs
  obtain ⟨c', hc, hw, hu, hq⟩ := hs
  obtain rfl := Option.some.inj (hcommand.symm.trans hc.command)
  exact ⟨c, ⟨hc.start, hc.command, hc.wanted⟩, hw, hq.sent,
    .waiting rfl hq.dispatch hu hq.answered⟩

theorem FwState.Course.setOpcode (hpc : s.worker = .setOpcode i) :
    ({ s with internalOpcode := s.wOpCode, worker := .send i } : FwState).Course env left := by
  simp only [FwState.Course, hpc] at hs
  obtain ⟨c, hc, hw, hsent, hasked⟩ := hs
  exact ⟨c, ⟨hc.start, hc.command, hc.wanted⟩, hw, hsent, hasked.of_eq rfl rfl rfl rfl⟩

theorem FwState.Course.send {c : HciCommand} (hpc : s.worker = .send i)
    (hcommand : s.commandFunc i = some c) :
    ({ s with worker := .wait i, history := s.history ++ [.sent c] } : FwState).Course env
      left := by
  simp only [FwState.Course, hpc] at hs
  obtain ⟨c', hc, hw, hsent, hasked⟩ := hs
  obtain rfl := Option.some.inj (hcommand.symm.trans hc.command)
  refine ⟨c, ⟨hc.start, hc.command, hc.wanted⟩, hw, ?_, ?_⟩
  · rw [sents_append, hsent]
    rfl
  · exact hasked.of_eq (by rw [answers_append]; exact List.append_nil _) rfl rfl rfl

/-- The answer is there, so that the command is done with. -/
theorem FwState.Course.answered (hpc : s.worker = .wait i) (hstatus : s.status = .success) :
    ({ s with worker := .loop (i + 1) } : FwState).Course env left := by
  simp only [FwState.Course, hpc] at hs
  obtain ⟨c, hc, hw, hsent, hasked⟩ := hs
  cases hasked with
  | told evs ev hcb hdispatch hans hdone hanswers =>
    refine ⟨Nat.le_succ_of_le hc.start, ?_⟩
    show FwState.Quiet _ (s.done env left (i + 1))
    rw [hc.done_succ]
    refine ⟨hsent, ?_, .inl hcb, ?_⟩
    · show List.Forall₂ Answers _ (answers s.history)
      rw [hans]
      exact List.rel_append hdone (.cons (hanswers hstatus) .nil)
    · show s.dispatch.outside = true
      rw [hdispatch]
      rfl
  | waiting _ _ hu =>
    rw [hstatus] at hu
    cases hu
  | taken _ _ _ _ hu =>
    rw [hstatus] at hu
    cases hu
  | judged _ _ _ _ _ hu =>
    rw [hstatus] at hu
    cases hu

theorem FwState.Course.giveUp (hpc : s.worker = .check i ∨ s.worker = .wait i)
    (status : CmdStatus) :
    ({ s with status := status, worker := s.exitAt i } : FwState).Course env left := by
  rcases hpc with hpc | hpc
  · simp only [FwState.Course, hpc] at hs
    obtain ⟨c, hc, -⟩ := hs
    exact .of_exitAt hc.command status
  · simp only [FwState.Course, hpc] at hs
    obtain ⟨c, hc, -⟩ := hs
    exact .of_exitAt hc.command status

end Command

/-- The report is made in the state that the course ends with. -/
theorem FwState.Inv.report {s t : FwState} {env : FwCfgEnv} {left : Leftover} {ret : Bool}
    {es : List FwEvent} (hs : s.Inv env left) (hpc : s.worker = .exit ret)
    (hes : es = [] ∨ es = [.initializeComplete ret])
    (ht : t = { s with
      worker := .ended
      initializeCompleteCb := t.initializeCompleteCb
      history := s.history ++ [.fwcfgCb ret] ++ es }) : t.Inv env left := by
  have hsents : sents t.history = sents s.history := by
    rw [ht]
    rcases hes with rfl | rfl <;> simp [sents, FwEvent.sent?]
  have hanswers : answers t.history = answers s.history := by
    rw [ht]
    rcases hes with rfl | rfl <;> simp [answers, FwEvent.answered?]
  have hret : FwEvent.fwcfgCb true ∈ t.history → ret = true := by
    have hnot := hs.unreported (by rw [hpc]; exact nofun)
    rw [ht]
    rcases hes with rfl | rfl <;> simp [hnot, eq_comm]
  have hended : t.worker = .ended := by rw [ht]
  refine ⟨?_, fun h => absurd hended h, ?_⟩
  · have hturn := inTurn_snoc_of_none (e := .fwcfgCb ret) rfl hs.inTurn
    rw [ht]
    rcases hes with rfl | rfl
    · rwa [List.append_nil]
    · exact inTurn_snoc_of_none rfl hturn
  · have hcourse := hs.course
    simp only [FwState.Course, hpc] at hcourse
    simp only [FwState.Course, hended]
    intro hreported
    have hq := hcourse (hret hreported)
    have hcmds : t.cmds env left = s.cmds env left := by rw [ht]; rfl
    refine ⟨?_, ?_, ?_, ?_⟩
    · rw [hcmds, hsents, hq.sent]
    · rw [hcmds, hanswers]
      exact hq.answered
    · rw [ht]
      exact hq.slot
    · rw [ht]
      exact hq.dispatch

theorem FwState.Inv.finish {s : FwState} {env : FwCfgEnv} {left : Leftover} {ret : Bool}
    (hs : s.Inv env left) (hpc : s.worker = .exit ret) :
    ({ s.onFirmwareConfigured ret with worker := .ended } : FwState).Inv env left := by
  unfold FwState.onFirmwareConfigured
  split
  · exact hs.report hpc (.inr rfl) (by simp)
  · exact hs.report hpc (.inl rfl) (by simp)

/-! ## Runs -/

theorem FwState.Inv.of_course {s t : FwState} {env : FwCfgEnv} {left : Leftover}
    (hs : s.Inv env left) (hhistory : t.history = s.history) (hpc : s.worker ≠ .ended)
    (ht : t.Course env left) : t.Inv env left :=
  ⟨hhistory ▸ hs.inTurn, fun _ => hhistory ▸ hs.unreported hpc, ht⟩

/-- What was sent before the command under way has been answered. -/
theorem FwState.Asked.allAnswered {s : FwState} {c : HciCommand}
    (hs : s.Asked (sents s.history) c) : AllAnswered s.history := by
  cases hs with
  | waiting _ _ _ hdone => exact ⟨_, [], (List.append_nil _).symm, hdone⟩
  | taken evs ev _ _ _ hans hdone => exact ⟨evs, [ev], hans, hdone⟩
  | judged evs ev _ _ _ _ hans hdone => exact ⟨evs, [ev], hans, hdone⟩
  | told evs ev _ _ hans hdone => exact ⟨evs, [ev], hans, hdone⟩

/-- The command under way is the first that has not been answered. -/
theorem FwState.Inv.send {s : FwState} {env : FwCfgEnv} {left : Leftover} {i : Nat}
    {c : HciCommand} (hs : s.Inv env left) (hpc : s.worker = .send i)
    (hcommand : s.commandFunc i = some c) :
    ({ s with worker := .wait i, history := s.history ++ [.sent c] } : FwState).Inv env left := by
  have hcourse := hs.course
  simp only [FwState.Course, hpc] at hcourse
  obtain ⟨c', -, -, hsent, hasked⟩ := hcourse
  refine ⟨?_, ?_, hs.course.send hpc hcommand⟩
  · exact always_snoc.mpr ⟨hs.inTurn, fun _ => (hsent ▸ hasked).allAnswered⟩
  · intro _ hreported
    rcases List.mem_append.mp hreported with hreported | hlast
    · exact hs.unreported (by rw [hpc]; exact nofun) hreported
    · cases List.mem_singleton.mp hlast

theorem FwState.Inv.worker {s t : FwState} {env : FwCfgEnv} {left : Leftover}
    (hs : s.Inv env left) (h : WorkerCase s env t) : t.Inv env left := by
  cases h with
  | threadStart hpc =>
    refine hs.of_course ?_ (by rw [hpc]; exact nofun) (hs.course.threadStart hpc)
    unfold FwState.threadStart
    split <;> rfl
  | @loop i allocated hpc =>
    refine hs.of_course ?_ (by rw [hpc]; exact nofun) (hs.course.loopStep hpc allocated)
    unfold FwState.loopStep
    split <;> rfl
  | pend hpc => exact hs.of_course rfl (by rw [hpc]; exact nofun) (hs.course.pend hpc)
  | giveUp hpc =>
    exact hs.of_course rfl (by rw [hpc]; exact nofun) (hs.course.giveUp (.inl hpc) s.status)
  | setOpCode hpc hc =>
    exact hs.of_course rfl (by rw [hpc]; exact nofun) (hs.course.setOpCode hpc hc)
  | setCb hpc hc => exact hs.of_course rfl (by rw [hpc]; exact nofun) (hs.course.setCb hpc hc)
  | setOpcode hpc => exact hs.of_course rfl (by rw [hpc]; exact nofun) (hs.course.setOpcode hpc)
  | send hpc hc => exact hs.send hpc hc
  | answered hpc hstatus =>
    exact hs.of_course rfl (by rw [hpc]; exact nofun) (hs.course.answered hpc hstatus)
  | refused hpc =>
    exact hs.of_course rfl (by rw [hpc]; exact nofun) (hs.course.giveUp (.inr hpc) s.status)
  | terminated hpc =>
    exact hs.of_course rfl (by rw [hpc]; exact nofun) (hs.course.giveUp (.inr hpc) .success)
  | finish hpc => exact hs.finish hpc
  | notifyThreadExit => exact ⟨hs.inTurn, hs.unreported, hs.course.terminate⟩

/-- **Step lemma.** -/
theorem FwState.Inv.step {s t : FwState} {env : FwCfgEnv} {left : Leftover} {a : FwAct}
    (hs : s.Inv env left) (h : s.step env a = some t) : t.Inv env left := by
  have hnext := next_of_step h
  cases ha : a.isEvent with
  | true =>
    have hcase := event_case ha hnext
    have hf := hcase.frame
    refine ⟨hf.inTurn hs.inTurn, ?_, hs.course.event hcase⟩
    rw [hf.worker, hf.reported]
    exact hs.unreported
  | false => exact hs.worker (worker_case ha hnext)

theorem FwState.open_spec (env : FwCfgEnv) (left : Leftover) :
    (FwState.open env left).history = [] ∧ (FwState.open env left).dispatch = .idle ∧
      ((FwState.open env left).internalCb = none ∨
        (FwState.open env left).internalCb = some .unloaded) ∧
      (FwState.open env left).getEFUSE = left.getEFUSE ∧
      ((FwState.open env left).worker = .absent ∨ (FwState.open env left).worker = .start) := by
  unfold FwState.open
  simp only
  cases mtkFwCfg env with
  | none => cases left.unanswered <;> simp
  | some r => cases left.unanswered <;> cases env.created <;> simp

theorem FwState.Inv.open (env : FwCfgEnv) (left : Leftover) :
    (FwState.open env left).Inv env left := by
  obtain ⟨hhistory, hdispatch, hslot, hefuse, hpc⟩ := FwState.open_spec env left
  have hq : (FwState.open env left).Quiet [] := by
    refine ⟨?_, ?_, hslot, by rw [hdispatch]; rfl⟩
    · rw [hhistory]
      rfl
    · rw [hhistory]
      exact .nil
  refine ⟨?_, ?_, ?_⟩
  · rw [hhistory]
    exact always_nil _
  · intro _
    rw [hhistory]
    exact nofun
  · rcases hpc with hpc | hpc <;> simp only [FwState.Course, hpc]
    · exact hq
    · exact ⟨hefuse, hq⟩

theorem fwInit_inv {env : FwCfgEnv} {left : Leftover} {s : FwState}
    (h : (fwInit env left).Reachable s) : s.Inv env left := by
  refine @Reachable.invariant _ _ (fwInit env left) (fun s => s.Inv env left) ?_ ?_ s h
  · rintro _ rfl
    exact .open env left
  · intro s a t _ hs hstep
    exact hs.step hstep

def FwEvent.routed? : FwEvent → Option HciEvent
  | .answered ev | .passed ev => some ev
  | _ => none

/-- The events that `HandleIncomingEvent` is through with. -/
def routed (h : List FwEvent) : List HciEvent := h.filterMap FwEvent.routed?

/-- The event that `HandleIncomingEvent` is at. -/
def Dispatch.held : Dispatch → List HciEvent
  | .checking ev | .matched ev | .crashed ev => [ev]
  | .idle | .callback _ _ | .locking _ => []

/-- What the steps of the other threads leave as it is. -/
structure WorkerFrame (s t : FwState) : Prop where
  chipId : t.chipId = s.chipId
  addr : t.addr = s.addr
  dispatch : t.dispatch = s.dispatch
  routed : routed t.history = routed s.history

theorem WorkerFrame.of_eq {s t : FwState} (hchip : t.chipId = s.chipId) (haddr : t.addr = s.addr)
    (hdispatch : t.dispatch = s.dispatch) (hhistory : t.history = s.history) :
    WorkerFrame s t :=
  ⟨hchip, haddr, hdispatch, hhistory ▸ rfl⟩

/-- The thread has chosen its script. -/
def FwWorker.begun : FwWorker → Bool
  | .absent | .start => false
  | _ => true

/-- A step of the thread changes the script only at its start. -/
theorem WorkerCase.frame {s t : FwState} {env : FwCfgEnv} (h : WorkerCase s env t) :
    WorkerFrame s t ∧ (t.script = curScript s.chipId ∨
      t.script = s.script ∧ (s.worker.begun = true ∨ t.worker = s.worker)) := by
  cases h with
  | threadStart =>
    unfold FwState.threadStart
    split
    · rename_i hnone
      exact ⟨.of_eq rfl rfl rfl rfl, .inl hnone.symm⟩
    · rename_i hsome
      exact ⟨.of_eq rfl rfl rfl rfl, .inl hsome.symm⟩
  | loop hpc =>
    have hbegun : s.worker.begun = true := by rw [hpc]; rfl
    unfold FwState.loopStep
    split <;> exact ⟨.of_eq rfl rfl rfl rfl, .inr ⟨rfl, .inl hbegun⟩⟩
  | send hpc =>
    exact ⟨⟨rfl, rfl, rfl, by simp [routed, FwEvent.routed?]⟩, .inr ⟨rfl, .inl (by rw [hpc]; rfl)⟩⟩
  | finish hpc =>
    have hbegun : s.worker.begun = true := by rw [hpc]; rfl
    unfold FwState.onFirmwareConfigured
    split <;> exact ⟨⟨rfl, rfl, rfl, by simp [routed, FwEvent.routed?]⟩, .inr ⟨rfl, .inl hbegun⟩⟩
  | notifyThreadExit => exact ⟨.of_eq rfl rfl rfl rfl, .inr ⟨rfl, .inr rfl⟩⟩
  | pend hpc | giveUp hpc | setOpCode hpc | setCb hpc | setOpcode hpc | answered hpc | refused hpc
  | terminated hpc =>
    exact ⟨.of_eq rfl rfl rfl rfl, .inr ⟨rfl, .inl (by rw [hpc]; rfl)⟩⟩

/-- An event step moves the event on. -/
theorem EventCase.routed_eq {s t : FwState} {evs : List HciEvent} (h : EventCase s evs t) :
    routed t.history ++ t.dispatch.held = routed s.history ++ s.dispatch.held ++ evs := by
  cases h <;> simp [*, routed, FwEvent.routed?, Dispatch.held]

/-- Every event is taken for an answer, passed on, or still at hand. -/
theorem incoming_eq {env : FwCfgEnv} {left : Leftover} {tr : List (Transition FwState FwAct)}
    {s : FwState} (h : (fwInit env left).Run tr s) :
    (tr.filterMap fun x => x.act.incoming?) = routed s.history ++ s.dispatch.held := by
  induction h with
  | start hi =>
    obtain rfl := hi
    obtain ⟨hhistory, hdispatch, -⟩ := FwState.open_spec env left
    rw [hhistory, hdispatch]
    rfl
  | @step tr s a t hr hs ih =>
    have hnext := next_of_step hs
    rw [List.filterMap_append, ih]
    cases ha : a.isEvent with
    | true =>
      rw [(event_case ha hnext).routed_eq]
      cases hin : a.incoming? <;> simp [hin]
    | false =>
      have hf := (worker_case ha hnext).frame.1
      have hnone : a.incoming? = none := by
        cases a <;> first | rfl | cases ha
      rw [hf.routed, hf.dispatch]
      simp [hnone]

/-- The chip and its address, and its script once the thread has chosen it. -/
structure FwState.Setup (s : FwState) (chip : Nat) (address : List UInt8) : Prop where
  chipId : s.chipId = chip
  addr : s.addr = address
  script : s.worker.begun = true → s.script = curScript chip

theorem FwState.Setup.step {s t : FwState} {env : FwCfgEnv} {a : FwAct} {chip : Nat}
    {address : List UInt8} (hs : s.Setup chip address) (h : s.next env a = some t) :
    t.Setup chip address := by
  cases ha : a.isEvent with
  | true =>
    have hf := (event_case ha h).frame
    refine ⟨hf.chipId.trans hs.chipId, hf.addr.trans hs.addr, ?_⟩
    rw [hf.worker, hf.script]
    exact hs.script
  | false =>
    obtain ⟨hf, hscript⟩ := (worker_case ha h).frame
    refine ⟨hf.chipId.trans hs.chipId, hf.addr.trans hs.addr, fun hbegun => ?_⟩
    rcases hscript with hscript | ⟨hscript, hpc | hpc⟩
    · rw [hscript, hs.chipId]
    · rw [hscript, hs.script hpc]
    · rw [hscript, hs.script (hpc ▸ hbegun)]

theorem fwInit_setup {env : FwCfgEnv} {left : Leftover} {s : FwState} {chip : Nat}
    {address : List UInt8} (hcfg : mtkFwCfg env = some (chip, address))
    (h : (fwInit env left).Reachable s) : s.Setup chip address := by
  induction h with
  | start hi =>
    obtain rfl := hi
    have hpc := (FwState.open_spec env left).2.2.2.2
    refine ⟨?_, ?_, fun hbegun => ?_⟩
    · simp only [FwState.open, hcfg]
    · simp only [FwState.open, hcfg]
    · rcases hpc with hpc | hpc <;> rw [hpc] at hbegun <;> cases hbegun
  | step _ hs ih => exact ih.step (next_of_step hs)

/-- A combo chip whose address is set. -/
def comboEnv : FwCfgEnv where
  chipidReads _ := "0x7662"
  nvram :=
    { initReads := fun _ => "Ready"
      iFileDesc := 3
      recNum := 1
      recSize := 64
      readRet := 64
      record := ⟨List.replicate 64 1, rfl⟩ }
  created := true
  syslogVal := "0"
  sspdebugVal := ""

def freshLeftover : Leftover := ⟨.success, 0, false, false, 0⟩

/-- The Command Complete event for the opcode with the bytes `lo` and `hi`. -/
def completeEvent (lo hi status : UInt8) : HciEvent :=
  ⟨[0x0E, 4, 1, lo, hi, status], by simp, by simp⟩

/-- One command from the test of the loop to its answer. -/
def commandRun (ev : HciEvent) : List FwAct :=
  [.loop true, .check, .command, .command, .command, .command, .incoming ev, .dispatch, .dispatch,
    .dispatch, .dispatch, .wait]

/-- Three commands are answered, with an event for the stack in between; the last is skipped. -/
def comboRun : List FwAct :=
  .threadStart :: commandRun (completeEvent 0x79 0xFC 0) ++
    [.incoming (completeEvent 0x79 0xFC 0)] ++ commandRun (completeEvent 0x93 0xFC 0) ++
    commandRun (completeEvent 0x7A 0xFC 0) ++ [.loop true, .loop true, .finish]

end Sloane.BtVendor
