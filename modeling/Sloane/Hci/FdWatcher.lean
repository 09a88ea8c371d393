import Sloane.Lib.KeyedVector
import Sloane.Lib.Run

/-!
# The file descriptor watcher

Model of `AsyncFdWatcher`: the thread that blocks in `select`, and one other thread that calls
`WatchFdForNonBlockingReads`, `ConfigureTimeout` and `StopWatchingFileDescriptors`.  Every
section under a lock, every exchange of `running_` and every access to the notification pipe is a
step of its own, so the two threads interleave between any two of them.

* `WatcherState.Inv.step` — what the thread has read is current or a wake-up is on its way, as
  long as no call adds a descriptor behind the thread's back.
* `watcher_awake` — the resulting law for a blocked thread, and that each call outside the
  condition can break it.
-/

namespace Sloane.Hci

open Sloane.Lib System

/-- Callbacks are known by number. -/
abbrev Callback := Nat

structure Timeval where
  tvSec : Int
  tvUsec : Int
  deriving DecidableEq, Repr

/-- `timeout_ptr`: the argument of `select` for `timeout_ms_`. -/
def timeoutPtr (timeoutMs : Int) : Option Timeval :=
  if 0 < timeoutMs then some ⟨timeoutMs / 1000, timeoutMs % 1000 * 1000⟩ else none

/-- What `select` is called with, apart from the listening end of the pipe. -/
structure ReadSet where
  fds : List Int
  timeout : Option Timeval
  deriving DecidableEq, Repr

/-- Where the calling thread is. -/
inductive CallerPc where
  | idle
  /-- `WatchFdForNonBlockingReads` has added its descriptor -/
  | tryStart
  | openPipe
  | startThread
  /-- `ConfigureTimeout` has set the timeout -/
  | notifyTimeout
  /-- `stopThread` has cleared `running_` -/
  | notifyStop
  | join
  | clearFds
  | clearTimeout
  | closePipe
  deriving DecidableEq, Repr

/-- Where `ThreadRoutine` is. -/
inductive ThreadPc where
  /-- there is no thread -/
  | absent
  /-- before the test of `running_` -/
  | test
  | buildSet
  | buildTimeout (fds : List Int)
  | select (r : ReadSet)
  | timedOut
  | runTimeout (savedCb : Option Callback)
  | notified
  | callbacks (ready : List Int)
  | exited
  deriving DecidableEq, Repr

/-- A callback made by the thread. -/
inductive WatcherCall where
  | timeout (cb : Callback)
  | read (fd : Int) (cb : Callback)
  deriving DecidableEq, Repr

structure WatcherState where
  running : Bool
  watchedFds : KeyedVector Int Callback
  timeoutCb : Option Callback
  timeoutMs : Int
  /-- the unread bytes of the notification pipe, if it is open -/
  pipe : Option Nat
  caller : CallerPc
  thread : ThreadPc
  calls : List WatcherCall

def WatcherState.start : WatcherState :=
  ⟨false, .empty, none, 0, none, .idle, .absent, []⟩

inductive CallerAct where
  | watchFdForNonBlockingReads (fd : Int) (cb : Callback)
  | exchange
  | pipe2 (ok : Bool)
  | createThread
  | configureTimeout (timeoutMs : Int) (cb : Callback)
  | stopWatchingFileDescriptors
  /-- `notifyThread`; a full pipe takes no byte -/
  | notify (full : Bool)
  | joined
  | clear
  deriving DecidableEq, Repr

/-- How `select` returns. -/
inductive SelectResult where
  | error
  | timeout
  | notification
  | data (ready : List Int)
  deriving DecidableEq, Repr

inductive ThreadAct where
  | next
  | selected (result : SelectResult)
  deriving DecidableEq, Repr

inductive WatcherAct where
  | caller (a : CallerAct)
  | thread (a : ThreadAct)
  deriving DecidableEq, Repr

/-- The keys of `watched_fds_`. -/
def WatcherState.fds (s : WatcherState) : List Int := s.watchedFds.entries.map Prod.fst

def WatcherState.unread (s : WatcherState) : Nat := s.pipe.getD 0

/-- The write of `notifyThread`; without a pipe it fails. -/
def notifyThread (pipe : Option Nat) (full : Bool) : Option Nat :=
  pipe.map fun n => if full ∧ 0 < n then n else n + 1

/-- One step of the calling thread. -/
def callerStep (s : WatcherState) : CallerAct → Option WatcherState
  | .watchFdForNonBlockingReads fd cb =>
      if s.caller = .idle then
        some { s with watchedFds := s.watchedFds.add fd cb, caller := .tryStart }
      else none
  | .exchange =>
      if s.caller = .tryStart then
        some { s with running := true, caller := if s.running then .idle else .openPipe }
      else none
  | .pipe2 ok =>
      if s.caller = .openPipe then
        -- `running_` stays set when there is no pipe
        if ok then some { s with pipe := some 0, caller := .startThread }
        else some { s with caller := .idle }
      else none
  | .createThread =>
      if s.caller = .startThread then some { s with thread := .test, caller := .idle } else none
  | .configureTimeout timeoutMs cb =>
      if s.caller = .idle then
        some { s with timeoutCb := some cb, timeoutMs := timeoutMs, caller := .notifyTimeout }
      else none
  | .stopWatchingFileDescriptors =>
      if s.caller = .idle then
        some { s with running := false, caller := if s.running then .notifyStop else .idle }
      else none
  | .notify full =>
      if s.caller = .notifyTimeout then
        some { s with pipe := notifyThread s.pipe full, caller := .idle }
      else if s.caller = .notifyStop then
        some { s with pipe := notifyThread s.pipe full, caller := .join }
      else none
  | .joined =>
      if s.caller = .join ∧ s.thread = .exited then
        some { s with thread := .absent, caller := .clearFds }
      else none
  | .clear =>
      match s.caller with
      | .clearFds => some { s with watchedFds := .empty, caller := .clearTimeout }
      | .clearTimeout => some { s with timeoutCb := none, caller := .closePipe }
      | .closePipe => some { s with pipe := none, caller := .idle }
      | _ => none

/-- One step of `ThreadRoutine`. -/
def threadStep (s : WatcherState) : ThreadAct → Option WatcherState
  | .next =>
      match s.thread with
      | .test => some { s with thread := if s.running then .buildSet else .exited }
      | .buildSet => some { s with thread := .buildTimeout s.fds }
      | .buildTimeout fds =>
          some { s with thread := .select ⟨fds, timeoutPtr s.timeoutMs⟩ }
      | .timedOut =>
          some { s with thread := .runTimeout (if 0 < s.timeoutMs then s.timeoutCb else none) }
      | .runTimeout savedCb =>
          some { s with
            thread := .test
            calls := s.calls ++ savedCb.toList.map .timeout }
      | .notified => some { s with pipe := s.pipe.map (· - 1), thread := .test }
      | .callbacks ready =>
          some { s with
            thread := .test
            calls := s.calls ++ (s.watchedFds.entries.filter fun e => e.1 ∈ ready).map
              fun e => .read e.1 e.2 }
      | .absent | .select _ | .exited => none
  | .selected result =>
      match s.thread with
      | .select r =>
          match result with
          | .error => some { s with thread := .test }
          | .timeout =>
              if r.timeout.isSome then some { s with thread := .timedOut } else none
          | .notification => if 0 < s.unread then some { s with thread := .notified } else none
          | .data ready =>
              if ready ≠ [] ∧ ready ⊆ r.fds then some { s with thread := .callbacks ready }
              else none
      | _ => none

def WatcherState.step (s : WatcherState) : WatcherAct → Option WatcherState
  | .caller a => callerStep s a
  | .thread a => threadStep s a

def watcher : System WatcherState WatcherAct := ofStep .start WatcherState.step

/-! ## The law -/

/-- What the thread blocks with is what the watcher is configured with. -/
structure ReadSet.Current (r : ReadSet) (s : WatcherState) : Prop where
  fds : ∀ fd ∈ s.fds, fd ∈ r.fds
  timeout : r.timeout = timeoutPtr s.timeoutMs
  running : s.running = true

/-- Between calls, a blocked thread is up to date or about to be woken. -/
def WatcherState.Awake (s : WatcherState) : Prop :=
  s.caller = .idle → ∀ r, s.thread = .select r → r.Current s ∨ 0 < s.unread

/-- The descriptors that the thread has read for its next or present `select`. -/
def ThreadPc.fdsRead : ThreadPc → Option (List Int)
  | .buildTimeout fds => some fds
  | .select r => some r.fds
  | _ => none

/-- A call adds a descriptor only before the thread reads the descriptors, or when the thread has
it already or has yet to read a notification. -/
def WatchSeen (s : WatcherState) : WatcherAct → Prop
  | .caller (.watchFdForNonBlockingReads fd _) =>
      ∀ fds ∈ s.thread.fdsRead, fd ∈ fds ∨ 0 < s.unread
  | _ => True

/-- The thread has passed the test of `running_` and not yet returned from `select`. -/
def ThreadPc.committed : ThreadPc → Bool
  | .buildSet | .buildTimeout _ | .select _ => true
  | _ => false

/-- What holds between any two steps. -/
structure WatcherState.Inv (s : WatcherState) : Prop where
  timeout : ∀ r, s.thread = .select r →
    r.timeout = timeoutPtr s.timeoutMs ∨ 0 < s.unread ∨ s.caller = .notifyTimeout
  running : s.thread.committed = true → s.running = true ∨ 0 < s.unread ∨ s.caller = .notifyStop
  pipe : s.thread ≠ .absent → s.pipe.isSome = true
  starting : s.caller = .openPipe ∨ s.caller = .startThread →
    s.running = true ∧ s.thread = .absent
  started : s.caller = .startThread → s.pipe.isSome = true
  stopping : s.running = false → s.thread = .absent ∨ s.caller = .notifyStop ∨ s.caller = .join
  clearing : s.caller = .clearFds ∨ s.caller = .clearTimeout ∨ s.caller = .closePipe →
    s.thread = .absent

/-- What the thread has read covers the watched descriptors, or a byte is unread. -/
def WatcherState.Covered (s : WatcherState) : Prop :=
  ∀ fds, s.thread.fdsRead = some fds → (∀ fd ∈ s.fds, fd ∈ fds) ∨ 0 < s.unread

/-! ## Simple facts -/

/-- The `timeval` stands for the time in milliseconds, and none for no timeout. -/
theorem timeoutPtr_eq_some {timeoutMs : Int} {tv : Timeval} (h : timeoutPtr timeoutMs = some tv) :
    0 < timeoutMs ∧ tv.tvSec * 1000000 + tv.tvUsec = timeoutMs * 1000 := by
  unfold timeoutPtr at h
  split at h
  · rename_i hpos
    cases h
    refine ⟨hpos, ?_⟩
    simp only
    omega
  · cases h

theorem mem_fds_add {m : KeyedVector Int Callback} {fd fd' : Int} {cb : Callback} :
    fd' ∈ (m.add fd cb).entries.map Prod.fst ↔ fd' = fd ∨ fd' ∈ m.entries.map Prod.fst := by
  rw [KeyedVector.mem_keys_iff, KeyedVector.mem_keys_iff, KeyedVector.valueFor_add]
  split
  · rename_i heq
    simp [heq]
  · rename_i hne
    simp [hne]

theorem ThreadPc.fdsRead_eq_none {pc : ThreadPc} (h : pc.committed = false) :
    pc.fdsRead = none := by
  cases pc <;> first | rfl | cases h

theorem ThreadPc.ne_select {pc : ThreadPc} (h : pc.committed = false) (r : ReadSet) :
    pc ≠ .select r := by
  rintro rfl
  cases h

theorem notifyThread_pos {pipe : Option Nat} (h : pipe.isSome = true) (full : Bool) :
    0 < (notifyThread pipe full).getD 0 := by
  cases pipe with
  | none => cases h
  | some n =>
    show 0 < if full = true ∧ 0 < n then n else n + 1
    split <;> omega

/-- A step of the thread leaves `select` and what led to it, or goes on towards it. -/
theorem threadStep_cases {s t : WatcherState} {a : ThreadAct} (h : threadStep s a = some t) :
    (s.thread ≠ .absent ∧ t.thread.committed = false ∧ t.pipe.isSome = s.pipe.isSome ∧
      t = { s with thread := t.thread, pipe := t.pipe, calls := t.calls }) ∨
    (s.thread = .test ∧ s.running = true ∧ t = { s with thread := .buildSet }) ∨
    (s.thread = .buildSet ∧ t = { s with thread := .buildTimeout s.fds }) ∨
    ∃ fds, s.thread = .buildTimeout fds ∧
      t = { s with thread := .select ⟨fds, timeoutPtr s.timeoutMs⟩ } := by
  cases a with
  | next =>
    simp only [threadStep] at h
    split at h <;> cases h
    case h_1 hpc =>
      cases hrun : s.running with
      | true => exact .inr (.inl ⟨hpc, rfl, rfl⟩)
      | false => exact .inl ⟨by simp [hpc], rfl, rfl, rfl⟩
    case h_2 hpc => exact .inr (.inr (.inl ⟨hpc, rfl⟩))
    case h_3 fds hpc => exact .inr (.inr (.inr ⟨fds, hpc, rfl⟩))
    case h_6 hpc => exact .inl ⟨by simp [hpc], rfl, Option.isSome_map, rfl⟩
    all_goals exact .inl ⟨by simp [*], rfl, rfl, rfl⟩
  | selected result =>
    simp only [threadStep] at h
    split at h
    · rename_i r hpc
      split at h
      · cases h
        exact .inl ⟨by simp [hpc], rfl, rfl, rfl⟩
      all_goals
        split at h
        · cases h
          exact .inl ⟨by simp [hpc], rfl, rfl, rfl⟩
        · cases h
    · cases h

/-- A notification reaches the thread, if there is one. -/
theorem WatcherState.Inv.notify_pos {s : WatcherState} (hs : s.Inv) (full : Bool) :
    s.thread = .absent ∨ 0 < (notifyThread s.pipe full).getD 0 := by
  rcases eq_or_ne s.thread .absent with hthread | hthread
  · exact .inl hthread
  · exact .inr (notifyThread_pos (hs.pipe hthread) full)

/-- Where a call has come to its end, or is about to join the thread. -/
def CallerPc.between (c : CallerPc) : Prop := c = .idle ∨ c = .tryStart ∨ c = .join

namespace CallerPc.between

variable {c : CallerPc} (hc : c.between)
include hc

theorem not_starting : ¬ (c = .openPipe ∨ c = .startThread) := by
  rcases hc with rfl | rfl | rfl <;> simp

theorem not_started : c ≠ .startThread := fun h => hc.not_starting (.inr h)

theorem not_clearing : ¬ (c = .clearFds ∨ c = .clearTimeout ∨ c = .closePipe) := by
  rcases hc with rfl | rfl | rfl <;> simp

end CallerPc.between

/-- While there is no thread only a start in progress is constrained. -/
theorem WatcherState.Inv.of_absent {t : WatcherState} (hthread : t.thread = .absent)
    (hstarting : t.caller = .openPipe ∨ t.caller = .startThread → t.running = true)
    (hstarted : t.caller = .startThread → t.pipe.isSome = true) : t.Inv := by
  constructor
  · intro r hr
    rw [hthread] at hr
    cases hr
  · intro hcommitted
    rw [hthread] at hcommitted
    cases hcommitted
  · exact absurd hthread
  · exact fun h => ⟨hstarting h, hthread⟩
  · exact hstarted
  · exact fun _ => .inl hthread
  · exact fun _ => hthread

/-- The caller goes on between calls that concern the thread. -/
theorem WatcherState.Inv.of_goto {s t : WatcherState} (hs : s.Inv)
    (hfrom : s.caller ≠ .notifyTimeout ∧ s.caller ≠ .notifyStop ∧ s.caller ≠ .join)
    (hto : t.caller = .idle ∨ t.caller = .tryStart) (hthread : t.thread = s.thread)
    (hrunning : t.running = s.running) (hpipe : t.pipe = s.pipe)
    (hms : t.timeoutMs = s.timeoutMs) : t.Inv := by
  have hunread : t.unread = s.unread := by rw [unread, unread, hpipe]
  have hbetween : t.caller.between := hto.imp_right .inl
  constructor
  · intro r hr
    rw [hthread] at hr
    rw [hms, hunread]
    exact (hs.timeout r hr).imp_right (Or.imp_right fun h => absurd h hfrom.1)
  · intro hcommitted
    rw [hthread] at hcommitted
    rw [hrunning, hunread]
    exact (hs.running hcommitted).imp_right (Or.imp_right fun h => absurd h hfrom.2.1)
  · rw [hthread, hpipe]
    exact hs.pipe
  · exact fun h => absurd h hbetween.not_starting
  · exact fun h => absurd h hbetween.not_started
  · intro hstopped
    rw [hrunning] at hstopped
    rw [hthread]
    rcases hs.stopping hstopped with h | h | h
    · exact .inl h
    · exact absurd h hfrom.2.1
    · exact absurd h hfrom.2.2
  · exact fun h => absurd h hbetween.not_clearing

/-- A byte is unread, so that the thread will leave `select`. -/
theorem WatcherState.Inv.of_unread {s t : WatcherState} (hs : s.Inv)
    (hto : s.caller = .notifyTimeout ∧ t.caller = .idle ∨ s.caller = .notifyStop ∧ t.caller = .join)
    (hthread : t.thread = s.thread) (hrunning : t.running = s.running) (hunread : 0 < t.unread) :
    t.Inv := by
  have hbetween : t.caller.between := hto.imp And.right fun h => .inr h.2
  constructor
  · exact fun _ _ => .inr (.inl hunread)
  · exact fun _ => .inr (.inl hunread)
  · intro _
    cases hpipe : t.pipe with
    | some n => rfl
    | none =>
      rw [WatcherState.unread, hpipe] at hunread
      cases hunread
  · exact fun h => absurd h hbetween.not_starting
  · exact fun h => absurd h hbetween.not_started
  · intro hstopped
    rw [hrunning] at hstopped
    rw [hthread]
    rcases hto with ⟨hfrom, -⟩ | ⟨-, hto⟩
    · have hstopping := hs.stopping hstopped
      rw [hfrom] at hstopping
      exact .inl (by simpa using hstopping)
    · exact .inr (.inr hto)
  · exact fun h => absurd h hbetween.not_clearing

/-- A call of `notifyThread` finds the thread, or there is none. -/
theorem WatcherState.Inv.of_notify {s t : WatcherState} (hs : s.Inv) (full : Bool)
    (hto : s.caller = .notifyTimeout ∧ t.caller = .idle ∨ s.caller = .notifyStop ∧ t.caller = .join)
    (hthread : t.thread = s.thread) (hrunning : t.running = s.running)
    (hpipe : t.pipe = notifyThread s.pipe full) : t.Inv := by
  have hbetween : t.caller.between := hto.imp And.right fun h => .inr h.2
  rcases hs.notify_pos full with habsent | hpos
  · refine .of_absent (hthread.trans habsent) ?_ ?_
    · exact fun h => absurd h hbetween.not_starting
    · exact fun h => absurd h hbetween.not_started
  · refine hs.of_unread hto hthread hrunning ?_
    rw [WatcherState.unread, hpipe]
    exact hpos

theorem WatcherState.Inv.of_callerStep {s t : WatcherState} {a : CallerAct} (hs : s.Inv)
    (h : callerStep s a = some t) : t.Inv := by
  cases a with
  | watchFdForNonBlockingReads fd cb =>
    simp only [callerStep] at h
    split at h <;> cases h
    rename_i hcaller
    exact hs.of_goto (by simp [hcaller]) (.inr rfl) rfl rfl rfl rfl
  | exchange =>
    simp only [callerStep] at h
    split at h <;> cases h
    rename_i hcaller
    cases hrun : s.running with
    | true => exact hs.of_goto (by simp [hcaller]) (.inl rfl) rfl hrun.symm rfl rfl
    | false =>
      have habsent : s.thread = .absent := by simpa [hcaller] using hs.stopping hrun
      exact .of_absent habsent (fun _ => rfl) (fun h => by cases h)
  | pipe2 ok =>
    simp only [callerStep] at h
    split at h
    · rename_i hcaller
      obtain ⟨hrun, habsent⟩ := hs.starting (.inl hcaller)
      split at h <;> cases h
      · exact .of_absent habsent (fun _ => hrun) fun _ => rfl
      · exact .of_absent habsent (fun _ => hrun) fun h => by cases h
    · cases h
  | createThread =>
    simp only [callerStep] at h
    split at h <;> cases h
    rename_i hcaller
    obtain ⟨hrun, -⟩ := hs.starting (.inr hcaller)
    have hpipe := hs.started hcaller
    constructor <;> simp [hrun, hpipe, ThreadPc.committed]
  | configureTimeout timeoutMs cb =>
    simp only [callerStep] at h
    split at h <;> cases h
    rename_i hcaller
    obtain ⟨-, hrunning, hpipe, -, -, hstopping, -⟩ := hs
    rw [hcaller] at hrunning hstopping
    constructor
    · exact fun _ _ => .inr (.inr rfl)
    · exact fun hcommitted => (hrunning hcommitted).imp_right (Or.imp_right nofun)
    · exact hpipe
    · simp
    · simp
    · simpa using hstopping
    · simp
  | stopWatchingFileDescriptors =>
    simp only [callerStep] at h
    split at h <;> cases h
    rename_i hcaller
    cases hrun : s.running with
    | false => exact hs.of_goto (by simp [hcaller]) (.inl rfl) rfl hrun.symm rfl rfl
    | true =>
      obtain ⟨htimeout, -, hpipe, -, -, -, -⟩ := hs
      rw [hcaller] at htimeout
      constructor
      · exact fun r hr => (htimeout r hr).imp_right (Or.imp_right nofun)
      · exact fun _ => .inr (.inr rfl)
      · exact hpipe
      · simp
      · simp
      · exact fun _ => .inr (.inl rfl)
      · simp
  | notify full =>
    simp only [callerStep] at h
    split at h
    · rename_i hcaller
      cases h
      exact hs.of_notify full (.inl ⟨hcaller, rfl⟩) rfl rfl rfl
    · split at h
      · rename_i hcaller
        cases h
        exact hs.of_notify full (.inr ⟨hcaller, rfl⟩) rfl rfl rfl
      · cases h
  | joined =>
    simp only [callerStep] at h
    split at h <;> cases h
    exact .of_absent rfl (by simp) (by simp)
  | clear =>
    have hclearing := hs.clearing
    simp only [callerStep] at h
    split at h <;> cases h
    all_goals
      rename_i hcaller
      exact .of_absent (hclearing (by simp [hcaller])) (by simp) (by simp)

/-- The thread goes on: only what it has read and passed is to be shown. -/
theorem WatcherState.Inv.of_thread {s t : WatcherState} (hs : s.Inv) (hthere : s.thread ≠ .absent)
    (hcaller : t.caller = s.caller) (hrunning : t.running = s.running)
    (hsome : t.pipe.isSome = s.pipe.isSome)
    (htimeout : ∀ r, t.thread = .select r →
      r.timeout = timeoutPtr t.timeoutMs ∨ 0 < t.unread ∨ t.caller = .notifyTimeout)
    (hcommitted : t.thread.committed = true →
      t.running = true ∨ 0 < t.unread ∨ t.caller = .notifyStop) : t.Inv := by
  refine ⟨htimeout, hcommitted, ?_, ?_, ?_, ?_, ?_⟩
  · intro _
    rw [hsome]
    exact hs.pipe hthere
  · intro h
    rw [hcaller] at h
    exact absurd (hs.starting h).2 hthere
  · intro h
    rw [hcaller] at h
    rw [hsome]
    exact hs.started h
  · intro h
    rw [hrunning] at h
    rw [hcaller]
    exact .inr ((hs.stopping h).resolve_left hthere)
  · intro h
    rw [hcaller] at h
    exact absurd (hs.clearing h) hthere

theorem WatcherState.Inv.of_threadStep {s t : WatcherState} {a : ThreadAct} (hs : s.Inv)
    (h : threadStep s a = some t) : t.Inv := by
  rcases threadStep_cases h with ⟨hthere, hout, hsome, heq⟩ | ⟨hpc, hrun, rfl⟩ |
    ⟨hpc, rfl⟩ | ⟨fds, hpc, rfl⟩
  · refine hs.of_thread hthere (by rw [heq]) (by rw [heq]) hsome ?_ ?_
    · intro r hr
      exact absurd hr (ThreadPc.ne_select hout r)
    · intro hcommitted
      rw [hout] at hcommitted
      cases hcommitted
  · refine hs.of_thread (by simp [hpc]) rfl rfl rfl nofun ?_
    intro _
    exact .inl hrun
  · refine hs.of_thread (by simp [hpc]) rfl rfl rfl nofun ?_
    intro _
    exact hs.running (by rw [hpc]; rfl)
  · refine hs.of_thread (by simp [hpc]) rfl rfl rfl ?_ ?_
    · intro r hr
      obtain rfl := ThreadPc.select.inj hr
      exact .inl rfl
    · intro _
      exact hs.running (by rw [hpc]; rfl)

/-! ## What the thread has read -/

theorem WatcherState.Covered.of_none {t : WatcherState} (h : t.thread.fdsRead = none) :
    t.Covered := by
  intro fds hfds
  rw [h] at hfds
  cases hfds

theorem WatcherState.Covered.of_subset {s t : WatcherState} (hcov : s.Covered)
    (hthread : t.thread = s.thread) (hfds : ∀ fd ∈ t.fds, fd ∈ s.fds) (hpipe : t.pipe = s.pipe) :
    t.Covered := by
  intro fds hread
  rw [hthread] at hread
  have hunread : t.unread = s.unread := by rw [unread, unread, hpipe]
  rw [hunread]
  exact (hcov fds hread).imp_left fun hall fd hfd => hall fd (hfds fd hfd)

theorem WatcherState.Covered.of_notify {s t : WatcherState} (hs : s.Inv) (full : Bool)
    (hthread : t.thread = s.thread) (hpipe : t.pipe = notifyThread s.pipe full) : t.Covered := by
  rcases hs.notify_pos full with habsent | hpos
  · refine .of_none ?_
    rw [hthread, habsent]
    rfl
  · intro _ _
    rw [unread, hpipe]
    exact .inr hpos

theorem WatcherState.Covered.of_callerStep {s t : WatcherState} {a : CallerAct} (hs : s.Inv)
    (hcov : s.Covered) (h : callerStep s a = some t) (ha : WatchSeen s (.caller a)) :
    t.Covered := by
  cases a with
  | watchFdForNonBlockingReads fd cb =>
    simp only [callerStep] at h
    split at h <;> cases h
    intro fds hread
    rcases ha fds hread with hfd | hunread
    · refine (hcov fds hread).imp_left ?_
      intro hall fd' hfd'
      rcases mem_fds_add.mp hfd' with rfl | hfd'
      · exact hfd
      · exact hall fd' hfd'
    · exact .inr hunread
  | pipe2 ok =>
    simp only [callerStep] at h
    split at h
    · rename_i hcaller
      obtain ⟨-, habsent⟩ := hs.starting (.inl hcaller)
      have hnone : s.thread.fdsRead = none := by rw [habsent]; rfl
      split at h <;> cases h <;> exact .of_none hnone
    · cases h
  | createThread =>
    simp only [callerStep] at h
    split at h <;> cases h
    exact .of_none rfl
  | notify full =>
    simp only [callerStep] at h
    split at h
    · cases h
      exact .of_notify hs full rfl rfl
    · split at h <;> cases h
      exact .of_notify hs full rfl rfl
  | joined =>
    simp only [callerStep] at h
    split at h <;> cases h
    exact .of_none rfl
  | clear =>
    have hclearing := hs.clearing
    simp only [callerStep] at h
    split at h <;> cases h
    all_goals
      rename_i hcaller
      refine .of_none ?_
      rw [hclearing (by simp [hcaller])]
      rfl
  | _ =>
    simp only [callerStep] at h
    split at h <;> cases h
    exact hcov.of_subset rfl (fun _ hfd => hfd) rfl

theorem WatcherState.Covered.of_threadStep {s t : WatcherState} {a : ThreadAct}
    (hcov : s.Covered) (h : threadStep s a = some t) : t.Covered := by
  unfold WatcherState.Covered at hcov ⊢
  intro fds hfds
  rcases threadStep_cases h with ⟨-, hout, -⟩ | ⟨-, -, rfl⟩ | ⟨-, rfl⟩ | ⟨fds', hpc, rfl⟩
  · rw [ThreadPc.fdsRead_eq_none hout] at hfds
    cases hfds
  · cases hfds
  · cases hfds
    exact .inl fun _ h => h
  · cases hfds
    exact hcov fds' (by rw [hpc]; rfl)

/-! ## Runs -/

theorem WatcherState.Inv.start : WatcherState.start.Inv := by
  constructor <;> intros <;> simp_all [WatcherState.start, ThreadPc.committed]

theorem WatcherState.Inv.step {s t : WatcherState} {a : WatcherAct} (hs : s.Inv)
    (h : s.step a = some t) : t.Inv := by
  cases a with
  | caller a => exact hs.of_callerStep h
  | thread a => exact hs.of_threadStep h

theorem watcher_inv {s : WatcherState} (h : watcher.Reachable s) : s.Inv :=
  h.invariant (fun _ h => h ▸ .start) fun _ _ _ _ hs h => hs.step h

theorem WatcherState.Covered.step {s t : WatcherState} {a : WatcherAct} (hs : s.Inv)
    (hcov : s.Covered) (h : s.step a = some t) (ha : WatchSeen s a) : t.Covered := by
  cases a with
  | caller a => exact hcov.of_callerStep hs h ha
  | thread a => exact hcov.of_threadStep h

theorem WatcherState.Covered.awake {s : WatcherState} (hs : s.Inv) (hcov : s.Covered) :
    s.Awake := by
  intro hidle r hselect
  by_cases hunread : 0 < s.unread
  · exact .inr hunread
  refine .inl ⟨?_, ?_, ?_⟩
  · exact (hcov r.fds (by rw [hselect]; rfl)).resolve_right hunread
  · rcases hs.timeout r hselect with htimeout | hpos | hcaller
    · exact htimeout
    · exact absurd hpos hunread
    · rw [hidle] at hcaller
      cases hcaller
  · rcases hs.running (by rw [hselect]; rfl) with hrunning | hpos | hcaller
    · exact hrunning
    · exact absurd hpos hunread
    · rw [hidle] at hcaller
      cases hcaller

theorem not_awake_of_missing {s : WatcherState} {r : ReadSet} {fd : Int} (hidle : s.caller = .idle)
    (hselect : s.thread = .select r) (hwatched : fd ∈ s.fds) (hmissing : fd ∉ r.fds)
    (hunread : ¬ 0 < s.unread) : ¬ s.Awake := by
  intro hawake
  rcases hawake hidle r hselect with hcurrent | hpos
  · exact hmissing (hcurrent.fds fd hwatched)
  · exact hunread hpos

/-- A call outside the condition, carried to its end, leaves the thread asleep. -/
theorem WatcherState.Inv.asleep {s : WatcherState} {fd : Int} {cb : Callback} (hs : s.Inv)
    (hidle : s.caller = .idle)
    (hseen : ¬ WatchSeen s (.caller (.watchFdForNonBlockingReads fd cb))) :
    ∃ as tr t, (∀ a ∈ as, a = .caller .exchange ∨ a = .thread .next) ∧
      execute WatcherState.step s (.caller (.watchFdForNonBlockingReads fd cb) :: as) =
        some (tr, t) ∧ ¬ t.Awake := by
  simp only [WatchSeen, Option.mem_def, not_forall, not_or] at hseen
  obtain ⟨fds, hfds, hmissing, hunread⟩ := hseen
  -- the thread lives, so the exchange finds `running_` set and ends the call
  have hrun : s.running = true := by
    by_contra hstop
    rcases hs.stopping (Bool.eq_false_of_not_eq_true hstop) with h | h | h
    · rw [h] at hfds
      cases hfds
    all_goals
      rw [hidle] at h
      cases h
  let added : WatcherState := { s with watchedFds := s.watchedFds.add fd cb, caller := .tryStart }
  let done : WatcherState := { added with running := true, caller := .idle }
  have hcall : s.step (.caller (.watchFdForNonBlockingReads fd cb)) = some added := if_pos hidle
  have hexchange : added.step (.caller .exchange) = some done := by
    show some { added with running := true, caller := if s.running then .idle else .openPipe } = _
    rw [hrun]
    rfl
  have hadded : fd ∈ done.fds := mem_fds_add.mpr (.inl rfl)
  cases hpc : s.thread with
  | buildTimeout fds' =>
    rw [hpc] at hfds
    cases hfds
    let blocked : WatcherState :=
      { done with thread := .select ⟨fds, timeoutPtr s.timeoutMs⟩ }
    have hblock : done.step (.thread .next) = some blocked := by
      show threadStep done .next = _
      simp only [threadStep, show done.thread = .buildTimeout fds from hpc]
      rfl
    refine ⟨[.caller .exchange, .thread .next],
      [⟨s, .caller (.watchFdForNonBlockingReads fd cb), added⟩, ⟨added, .caller .exchange, done⟩,
        ⟨done, .thread .next, blocked⟩], blocked, by simp, ?_, ?_⟩
    · simp only [execute, hcall, hexchange, hblock]
      rfl
    · exact not_awake_of_missing rfl rfl hadded hmissing hunread
  | select r =>
    rw [hpc] at hfds
    cases hfds
    refine ⟨[.caller .exchange],
      [⟨s, .caller (.watchFdForNonBlockingReads fd cb), added⟩, ⟨added, .caller .exchange, done⟩],
      done, by simp, ?_, ?_⟩
    · simp only [execute, hcall, hexchange]
      rfl
    · exact not_awake_of_missing rfl hpc hadded hmissing hunread
  | _ =>
    rw [hpc] at hfds
    cases hfds

/-- **The thread never sleeps on what it has not read, unless a descriptor is added behind its
back.** -/
theorem watcher_awake {tr : List (Transition WatcherState WatcherAct)} {s : WatcherState}
    (h : watcher.Run tr s) :
    ((∀ x ∈ tr, WatchSeen x.pre x.act) → s.Awake ∧ ∀ x ∈ tr, x.pre.Awake) ∧
    ∀ fd cb, s.caller = .idle →
      ¬ WatchSeen s (.caller (.watchFdForNonBlockingReads fd cb)) →
      ∃ as tr' t, (∀ a ∈ as, a = .caller .exchange ∨ a = .thread .next) ∧
        execute WatcherState.step s (.caller (.watchFdForNonBlockingReads fd cb) :: as) =
          some (tr', t) ∧ watcher.Run (tr ++ tr') t ∧ ¬ t.Awake := by
  constructor
  · intro hseen
    have hawake : ∀ t, (watcher.restrict WatchSeen).Reachable t → t.Awake := by
      intro t ht
      have hcov : t.Covered := by
        refine ht.invariant ?_ ?_
        · rintro _ rfl fds hfds
          cases hfds
        · rintro u a v hu hcov ⟨hstep, ha⟩
          exact hcov.step (watcher_inv hu.of_restrict) hstep ha
      exact hcov.awake (watcher_inv ht.of_restrict)
    have hrun := h.restrict hseen
    exact ⟨hawake s hrun.reachable, fun x hx => hawake x.pre (hrun.transition x hx).1⟩
  · intro fd cb hidle hbehind
    obtain ⟨as, tr', t, has, he, hasleep⟩ := (watcher_inv h.reachable).asleep hidle hbehind
    exact ⟨as, tr', t, has, he, h.execute he, hasleep⟩

instance (s : WatcherState) : (a : WatcherAct) → Decidable (WatchSeen s a)
  | .caller (.watchFdForNonBlockingReads fd _) =>
      inferInstanceAs (Decidable (∀ fds ∈ s.thread.fdsRead, fd ∈ fds ∨ 0 < s.unread))
  | .caller .exchange | .caller (.pipe2 _) | .caller .createThread
  | .caller (.configureTimeout _ _) | .caller .stopWatchingFileDescriptors
  | .caller (.notify _) | .caller .joined | .caller .clear | .thread _ => isTrue trivial

/-- One descriptor is watched and the thread blocks for it. -/
def openOneFd : List WatcherAct :=
  [.caller (.watchFdForNonBlockingReads 5 0), .caller .exchange, .caller (.pipe2 true),
    .caller .createThread, .thread .next, .thread .next, .thread .next]

/-- A timeout is configured behind a blocked thread, which wakes up and blocks with it. -/
def configureRun : List WatcherAct :=
  openOneFd ++ [.caller (.configureTimeout 5000 1), .caller (.notify false),
    .thread (.selected .notification), .thread .next, .thread .next, .thread .next, .thread .next]

theorem watcher_awake_configureRun :
    ∃ tr s, watcher.Run tr s ∧ tr.map Transition.act = configureRun ∧
      s.thread = .select ⟨[5], some ⟨5, 0⟩⟩ ∧ s.Awake ∧ ∀ x ∈ tr, x.pre.Awake := by
  have he : (execute WatcherState.step .start configureRun).map
      (fun r => decide (r.1.map Transition.act = configureRun ∧
        r.2.thread = .select ⟨[5], some ⟨5, 0⟩⟩ ∧ ∀ x ∈ r.1, WatchSeen x.pre x.act)) =
      some true := by decide +kernel
  obtain ⟨⟨tr, s⟩, hrun, heq⟩ := Option.map_eq_some_iff.mp he
  obtain ⟨hacts, hselect, hseen⟩ := of_decide_eq_true heq
  have hr := run_of_execute hrun
  exact ⟨tr, s, hr, hacts, hselect, (watcher_awake hr).1 hseen⟩

/-- `VendorInterface::Open` with two descriptors. -/
def openTwoFds : List WatcherAct :=
  openOneFd ++ [.caller (.watchFdForNonBlockingReads 6 1), .caller .exchange]

/-- The thread blocks with the first descriptor only. -/
theorem not_awake_openTwoFds : ¬ ∀ s, watcher.Reachable s → s.Awake := by
  intro hall
  have he : (execute WatcherState.step .start openTwoFds).map
      (fun r => decide (r.2.caller = .idle ∧ r.2.thread = .select ⟨[5], none⟩ ∧ 6 ∈ r.2.fds ∧
        ¬ 0 < r.2.unread)) = some true := by decide +kernel
  obtain ⟨⟨tr, s⟩, hrun, heq⟩ := Option.map_eq_some_iff.mp he
  obtain ⟨hidle, hselect, hwatched, hunread⟩ := of_decide_eq_true heq
  exact not_awake_of_missing hidle hselect hwatched (by decide) hunread
    (hall s (run_of_execute hrun).reachable)

end Sloane.Hci
