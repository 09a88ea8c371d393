import Sloane.Lib.History
import Sloane.Lib.Run

/-!
# The shutdown handshake

Model of `wifi_cleanup` and `wifi_event_loop`: two threads that share `hal_info` and the socket
pair `cleanup_socks`.  A step is one system call or one stretch of code between two of them; a read
may return any part of what is there.  `history` records what is written and read on the pair, each
access of the event loop to `hal_info`, and the `free` in `internal_cleaned_up_handler`.

* `HandshakeState.Inv.step` — what is under way on the pair, and where the event loop is.
* `cleanup_handshake` — once the reply is read the event loop is over and `hal_info` is its own no
  more; the request is taken once and answered only then.
-/

namespace Sloane.WifiHal

open Sloane.Lib System

/-- The bytes of `"Exit"` and of `"Done"`. -/
def EXIT : List UInt8 := [0x45, 0x78, 0x69, 0x74]

def DONE : List UInt8 := [0x44, 0x6F, 0x6E, 0x65]

/-- What `poll` returns: an error, or the events of the netlink socket and of the cleanup socket. -/
inductive PollResult where
  | error
  | revents (err hup netlink cleanup : Bool)
  deriving DecidableEq, Repr

/-- Where the thread in `wifi_event_loop` is. -/
inductive LoopPc where
  | start
  /-- `in_event_loop` is set, the descriptors are to be read -/
  | setup
  | poll
  /-- in `internal_pollin_handler` -/
  | pollin
  | readCleanup
  | writeDone
  /-- before the test of `clean_up` -/
  | test
  | left
  deriving DecidableEq, Repr

/-- Where the thread in `wifi_cleanup` is. -/
inductive CleanupPc where
  /-- not called yet -/
  | idle
  | write
  | read
  /-- before `clean_up` is set -/
  | setFlag
  /-- cancelling commands, and before `internal_cleaned_up_handler` frees `hal_info` -/
  | teardown
  | done
  deriving DecidableEq, Repr

inductive HandshakeEvent where
  /-- the event loop reads or writes `hal_info` -/
  | loopAccess
  | exitWritten
  | exitConsumed
  | doneWritten
  | replyRead
  | freed
  deriving DecidableEq, Repr

structure HandshakeState where
  inEventLoop : Bool
  /-- `clean_up` -/
  cleanUp : Bool
  /-- unread bytes at `cleanup_socks[1]` and at `cleanup_socks[0]` -/
  toLoop : List UInt8
  toCleanup : List UInt8
  /-- pending netlink events -/
  pending : Nat
  loop : LoopPc
  cleanup : CleanupPc
  history : List HandshakeEvent
  deriving DecidableEq, Repr

def HandshakeState.init : HandshakeState := ⟨false, false, [], [], 0, .start, .idle, []⟩

inductive LoopAct where
  | enter
  | setup
  | poll (result : PollResult)
  /-- the handler reads or writes `hal_info`; `events` netlink events are done with after it -/
  | handle (events : Nat) (finished : Bool)
  /-- read `n` bytes from the cleanup socket -/
  | read (n : Nat)
  /-- write the reply, and whether that succeeds -/
  | write (ok : Bool)
  | test
  deriving DecidableEq, Repr

inductive CleanupAct where
  | call
  | write (ok : Bool)
  | read (n : Nat)
  | setFlag
  | free
  deriving DecidableEq, Repr

inductive HandshakeAct where
  | loop (a : LoopAct)
  | cleanup (a : CleanupAct)
  /-- netlink events arrive -/
  | arrive (events : Nat)
  deriving DecidableEq, Repr

/-- `poll` returns what is there, and with no timeout only when there is something. -/
def HandshakeState.PollOk (s : HandshakeState) : PollResult → Prop
  | .error => True
  | .revents err hup netlink cleanup =>
      (err ∨ hup ∨ netlink ∨ cleanup) ∧ (netlink → 0 < s.pending) ∧ (cleanup → s.toLoop ≠ [])

instance (s : HandshakeState) : (r : PollResult) → Decidable (s.PollOk r)
  | .error => isTrue trivial
  | .revents _ _ _ _ => inferInstanceAs (Decidable (_ ∧ _ ∧ _))

/-- The branches after `poll`, in their order. -/
def afterPoll : PollResult → LoopPc
  | .error => .test
  | .revents err hup netlink cleanup =>
      if err then .test
      else if hup then .left
      else if netlink then .pollin
      else if cleanup then .readCleanup
      else .test

/-- `strncmp(buf, "Exit", 4) == 0` for the bytes read into the cleared buffer. -/
def isExit (bytes : List UInt8) : Bool := bytes.take 4 = EXIT

/-- The thread reads or writes `hal_info`. -/
def HandshakeState.access (s : HandshakeState) : HandshakeState :=
  { s with history := s.history ++ [.loopAccess] }

/-- One step of `wifi_event_loop`. -/
def loopStep (s : HandshakeState) : LoopAct → Option HandshakeState
  | .enter =>
      if s.loop = .start then
        some { s.access with inEventLoop := true, loop := if s.inEventLoop then .left else .setup }
      else none
  | .setup => if s.loop = .setup then some { s.access with loop := .poll } else none
  | .poll result =>
      if s.loop = .poll ∧ s.PollOk result then some { s with loop := afterPoll result } else none
  | .handle events finished =>
      if s.loop = .pollin then
        some { s.access with
          pending := s.pending - events
          loop := if finished then .test else .pollin }
      else none
  | .read n =>
      if s.loop = .readCleanup ∧ 1 ≤ n ∧ n ≤ min 2048 s.toLoop.length then
        if isExit (s.toLoop.take n) then
          some { s with
            toLoop := s.toLoop.drop n
            loop := .writeDone
            history := s.history ++ [.exitConsumed] }
        else some { s with toLoop := s.toLoop.drop n, loop := .test }
      else none
  | .write ok =>
      if s.loop = .writeDone then
        if ok then
          some { s with
            toCleanup := s.toCleanup ++ DONE
            loop := .left
            history := s.history ++ [.doneWritten] }
        else some { s with loop := .left }
      else none
  | .test =>
      if s.loop = .test then some { s.access with loop := if s.cleanUp then .left else .poll }
      else none

/-- One step of `wifi_cleanup`. -/
def cleanupStep (s : HandshakeState) : CleanupAct → Option HandshakeState
  | .call => if s.cleanup = .idle then some { s with cleanup := .write } else none
  | .write ok =>
      if s.cleanup = .write then
        if ok then
          some { s with
            toLoop := s.toLoop ++ EXIT
            cleanup := .read
            history := s.history ++ [.exitWritten] }
        else some { s with cleanup := .setFlag }
      else none
  | .read n =>
      if s.cleanup = .read ∧ 1 ≤ n ∧ n ≤ min 64 s.toCleanup.length then
        some { s with
          toCleanup := s.toCleanup.drop n
          cleanup := .setFlag
          history := s.history ++ [.replyRead] }
      else none
  | .setFlag =>
      if s.cleanup = .setFlag then some { s with cleanUp := true, cleanup := .teardown } else none
  | .free =>
      if s.cleanup = .teardown then
        some { s with cleanup := .done, history := s.history ++ [.freed] }
      else none

def HandshakeState.step (s : HandshakeState) : HandshakeAct → Option HandshakeState
  | .loop a => loopStep s a
  | .cleanup a => cleanupStep s a
  | .arrive events => some { s with pending := s.pending + events }

def handshake : System HandshakeState HandshakeAct := .ofStep .init HandshakeState.step

/-! ## The invariant -/

/-- The event loop reads or writes `hal_info` only before it answers, it answers a request only, and
only an answer is read as the reply. -/
def InOrder (pre : List HandshakeEvent) : HandshakeEvent → Prop
  | .loopAccess => .doneWritten ∉ pre
  | .doneWritten => .exitConsumed ∈ pre
  | .replyRead => .doneWritten ∈ pre
  | _ => True

/-- What is under way on the socket pair, by what has been written and read. -/
structure HandshakeState.Inv (s : HandshakeState) : Prop where
  inOrder : Always InOrder s.history
  unsent : s.cleanup = .idle ∨ s.cleanup = .write → s.history.count .exitWritten = 0
  sent : s.history.count .exitWritten ≤ 1
  request : s.toLoop.length + 4 * s.history.count .exitConsumed ≤ 4 * s.history.count .exitWritten
  answering : s.loop = .writeDone →
    s.history.count .exitConsumed = 1 ∧ s.history.count .doneWritten = 0
  answered : s.history.count .doneWritten ≤ s.history.count .exitConsumed
  reply : s.toCleanup.length + s.history.count .replyRead ≤ 4 * s.history.count .doneWritten
  afterDone : .doneWritten ∈ s.history → s.loop = .left

/-- A request that is recognised is read as a whole. -/
theorem length_of_isExit {bytes : List UInt8} (h : isExit bytes = true) : 4 ≤ bytes.length := by
  have htake : bytes.take 4 = EXIT := of_decide_eq_true h
  have hlength := congrArg List.length htake
  rw [List.length_take] at hlength
  have : EXIT.length = 4 := rfl
  omega

theorem HandshakeState.Inv.access {s : HandshakeState} (hs : s.Inv) (hpc : s.loop ≠ .left) :
    s.access.Inv := by
  obtain ⟨horder, hunsent, hsent, hrequest, hanswering, hanswered, hreply, hover⟩ := hs
  unfold HandshakeState.access
  refine ⟨always_snoc.mpr ⟨horder, fun hdone => hpc (hover hdone)⟩, ?_, ?_, ?_, ?_, ?_, ?_, ?_⟩
  all_goals simp only [List.count_append]
  all_goals simp_all

/-- The event loop goes on, without the request. -/
theorem HandshakeState.Inv.goto {s t : HandshakeState} (hs : s.Inv) (hpc : s.loop ≠ .left)
    (ht : t.loop ≠ .writeDone) (hhistory : t.history = s.history)
    (hloop : t.toLoop.length ≤ s.toLoop.length) (hcleanup : t.toCleanup = s.toCleanup)
    (hcaller : t.cleanup = s.cleanup) : t.Inv := by
  obtain ⟨horder, hunsent, hsent, hrequest, -, hanswered, hreply, hover⟩ := hs
  refine ⟨hhistory ▸ horder, ?_, hhistory ▸ hsent, ?_, fun h => absurd h ht, hhistory ▸ hanswered,
    ?_, ?_⟩
  · rw [hhistory, hcaller]
    exact hunsent
  · rw [hhistory]
    omega
  · rw [hhistory, hcleanup]
    exact hreply
  · rw [hhistory]
    exact fun hdone => absurd (hover hdone) hpc

/-- The same with an access to the tables. -/
theorem HandshakeState.Inv.visit {s t : HandshakeState} (hs : s.Inv) (hpc : s.loop ≠ .left)
    (ht : t.loop ≠ .writeDone) (hhistory : t.history = s.access.history)
    (hloop : t.toLoop = s.toLoop) (hcleanup : t.toCleanup = s.toCleanup)
    (hcaller : t.cleanup = s.cleanup) : t.Inv := by
  have haccess : s.access.Inv := hs.access hpc
  exact haccess.goto hpc ht hhistory (Nat.le_of_eq (congrArg _ hloop)) hcleanup hcaller

theorem ite_ne_writeDone {b : Bool} {pc pc' : LoopPc} (h : pc ≠ .writeDone)
    (h' : pc' ≠ .writeDone) : (if b then pc else pc') ≠ .writeDone := by
  split <;> assumption

theorem afterPoll_ne_writeDone (r : PollResult) : afterPoll r ≠ .writeDone := by
  cases r with
  | error => exact nofun
  | revents err hup netlink cleanup =>
    show (if err then LoopPc.test else if hup then .left else if netlink then .pollin
      else if cleanup then .readCleanup else .test) ≠ .writeDone
    split_ifs <;> exact nofun

/-- The request is read: nothing of it is left, and it is the only one. -/
theorem HandshakeState.Inv.takeRequest {s : HandshakeState} {n : Nat} (hs : s.Inv)
    (hpc : s.loop ≠ .left) (hexit : isExit (s.toLoop.take n) = true) :
    HandshakeState.Inv { s with
      toLoop := s.toLoop.drop n
      loop := .writeDone
      history := s.history ++ [.exitConsumed] } := by
  obtain ⟨horder, hunsent, hsent, hrequest, -, hanswered, hreply, hover⟩ := hs
  have hlength := length_of_isExit hexit
  rw [List.length_take] at hlength
  have hnone : s.history.count .doneWritten = 0 :=
    List.count_eq_zero.mpr fun hdone => hpc (hover hdone)
  refine ⟨always_snoc.mpr ⟨horder, trivial⟩, ?_, ?_, ?_, fun _ => ?_, ?_, ?_, ?_⟩
  all_goals simp only [List.count_append, List.length_drop]
  · simpa using hunsent
  · simpa using hsent
  · simp
    omega
  · simp [hnone]
    omega
  · simp
    omega
  · simpa using hreply
  · simpa using fun hdone => absurd (hover hdone) hpc

/-- The reply is written once, after the request. -/
theorem HandshakeState.Inv.answer {s : HandshakeState} (hs : s.Inv) (hpc : s.loop = .writeDone) :
    HandshakeState.Inv { s with
      toCleanup := s.toCleanup ++ DONE
      loop := .left
      history := s.history ++ [.doneWritten] } := by
  obtain ⟨horder, hunsent, hsent, hrequest, hanswering, hanswered, hreply, hover⟩ := hs
  obtain ⟨hconsumed, hdone⟩ := hanswering hpc
  refine ⟨always_snoc.mpr ⟨horder, ?_⟩, ?_, ?_, ?_, nofun, ?_, ?_, fun _ => rfl⟩
  · exact List.count_pos_iff.mp (by omega)
  all_goals simp only [List.count_append, List.length_append]
  · simpa using hunsent
  · simpa using hsent
  · simpa using hrequest
  · simp
    omega
  · have : DONE.length = 4 := rfl
    simp
    omega

theorem HandshakeState.Inv.of_loopStep {s t : HandshakeState} {a : LoopAct} (hs : s.Inv)
    (h : loopStep s a = some t) : t.Inv := by
  cases a with
  | enter =>
    simp only [loopStep, Option.ite_none_right_eq_some, Option.some.injEq] at h
    obtain ⟨hpc, rfl⟩ := h
    have hne : s.loop ≠ .left := by rw [hpc]; exact nofun
    exact hs.visit hne (ite_ne_writeDone nofun nofun) rfl rfl rfl rfl
  | setup =>
    simp only [loopStep, Option.ite_none_right_eq_some, Option.some.injEq] at h
    obtain ⟨hpc, rfl⟩ := h
    have hne : s.loop ≠ .left := by rw [hpc]; exact nofun
    exact hs.visit hne nofun rfl rfl rfl rfl
  | poll r =>
    simp only [loopStep, Option.ite_none_right_eq_some, Option.some.injEq] at h
    obtain ⟨⟨hpc, -⟩, rfl⟩ := h
    exact hs.goto (by rw [hpc]; exact nofun) (afterPoll_ne_writeDone r) rfl (Nat.le_refl _) rfl rfl
  | handle events finished =>
    simp only [loopStep, Option.ite_none_right_eq_some, Option.some.injEq] at h
    obtain ⟨hpc, rfl⟩ := h
    have hne : s.loop ≠ .left := by rw [hpc]; exact nofun
    exact hs.visit hne (ite_ne_writeDone nofun nofun) rfl rfl rfl rfl
  | test =>
    simp only [loopStep, Option.ite_none_right_eq_some, Option.some.injEq] at h
    obtain ⟨hpc, rfl⟩ := h
    have hne : s.loop ≠ .left := by rw [hpc]; exact nofun
    exact hs.visit hne (ite_ne_writeDone nofun nofun) rfl rfl rfl rfl
  | read n =>
    simp only [loopStep] at h
    split at h
    · rename_i hread
      obtain ⟨hpc, -, hn⟩ := hread
      have hne : s.loop ≠ .left := by rw [hpc]; exact nofun
      split at h <;> cases h
      · rename_i hexit
        exact hs.takeRequest hne hexit
      · refine hs.goto hne nofun rfl ?_ rfl rfl
        rw [List.length_drop]
        omega
    · cases h
  | write ok =>
    simp only [loopStep] at h
    split at h
    · rename_i hpc
      have hne : s.loop ≠ .left := by rw [hpc]; exact nofun
      split at h <;> cases h
      · exact hs.answer hpc
      · exact hs.goto hne nofun rfl (Nat.le_refl _) rfl rfl
    · cases h

theorem HandshakeState.Inv.of_cleanupStep {s t : HandshakeState} {a : CleanupAct} (hs : s.Inv)
    (h : cleanupStep s a = some t) : t.Inv := by
  obtain ⟨horder, hunsent, hsent, hrequest, hanswering, hanswered, hreply, hover⟩ := hs
  cases a with
  | call =>
    simp only [cleanupStep, Option.ite_none_right_eq_some, Option.some.injEq] at h
    obtain ⟨hpc, rfl⟩ := h
    exact ⟨horder, fun _ => hunsent (.inl hpc), hsent, hrequest, hanswering, hanswered, hreply,
      hover⟩
  | write ok =>
    simp only [cleanupStep] at h
    split at h
    · rename_i hpc
      split at h <;> cases h
      · have hnone := hunsent (.inr hpc)
        refine ⟨always_snoc.mpr ⟨horder, trivial⟩, nofun, ?_, ?_, ?_, ?_, ?_, ?_⟩
        all_goals simp only [List.count_append, List.length_append]
        · simp [hnone]
        · have : EXIT.length = 4 := rfl
          simp
          omega
        · simpa using hanswering
        · simpa using hanswered
        · simpa using hreply
        · simpa using hover
      · exact ⟨horder, nofun, hsent, hrequest, hanswering, hanswered, hreply, hover⟩
    · cases h
  | read n =>
    simp only [cleanupStep, Option.ite_none_right_eq_some, Option.some.injEq] at h
    obtain ⟨⟨-, hpos, hn⟩, rfl⟩ := h
    refine ⟨always_snoc.mpr ⟨horder, ?_⟩, nofun, ?_, ?_, ?_, ?_, ?_, ?_⟩
    · exact List.count_pos_iff.mp (by omega)
    all_goals simp only [List.count_append, List.length_drop]
    · simpa using hsent
    · simpa using hrequest
    · simpa using hanswering
    · simpa using hanswered
    · simp
      omega
    · simpa using hover
  | setFlag =>
    simp only [cleanupStep, Option.ite_none_right_eq_some, Option.some.injEq] at h
    obtain ⟨-, rfl⟩ := h
    exact ⟨horder, nofun, hsent, hrequest, hanswering, hanswered, hreply, hover⟩
  | free =>
    simp only [cleanupStep, Option.ite_none_right_eq_some, Option.some.injEq] at h
    obtain ⟨-, rfl⟩ := h
    refine ⟨always_snoc.mpr ⟨horder, trivial⟩, nofun, ?_, ?_, ?_, ?_, ?_, ?_⟩
    all_goals simp only [List.count_append]
    · simpa using hsent
    · simpa using hrequest
    · simpa using hanswering
    · simpa using hanswered
    · simpa using hreply
    · simpa using hover

theorem HandshakeState.Inv.step {s t : HandshakeState} {a : HandshakeAct} (hs : s.Inv)
    (h : s.step a = some t) : t.Inv := by
  cases a with
  | loop a => exact hs.of_loopStep h
  | cleanup a => exact hs.of_cleanupStep h
  | arrive events =>
    cases h
    exact ⟨hs.inOrder, hs.unsent, hs.sent, hs.request, hs.answering, hs.answered, hs.reply,
      hs.afterDone⟩

theorem HandshakeState.Inv.init : HandshakeState.init.Inv := by
  refine ⟨always_nil _, fun _ => rfl, Nat.zero_le _, Nat.le_refl _, nofun, Nat.le_refl _,
    Nat.le_refl _, nofun⟩

theorem handshake_inv {s : HandshakeState} (h : handshake.Reachable s) : s.Inv :=
  h.invariant (fun _ h => h ▸ .init) fun _ _ _ _ hs h => hs.step h

/-! ## Runs -/

/-- The request of `wifi_cleanup` is written. -/
def HandshakeAct.Written : HandshakeAct → Prop
  | .cleanup (.write ok) => ok = true
  | _ => True

instance : (a : HandshakeAct) → Decidable a.Written
  | .cleanup (.write ok) => inferInstanceAs (Decidable (ok = true))
  | .cleanup .call | .cleanup (.read _) | .cleanup .setFlag | .cleanup .free | .loop _
  | .arrive _ => isTrue trivial

/-- `hal_info` is freed after a reply. -/
def FreedAfterReply (pre : List HandshakeEvent) (e : HandshakeEvent) : Prop :=
  e = .freed → .replyRead ∈ pre

/-- `wifi_cleanup` goes past its read with a reply only. -/
structure HandshakeState.Replied (s : HandshakeState) : Prop where
  past : s.cleanup = .setFlag ∨ s.cleanup = .teardown ∨ s.cleanup = .done → .replyRead ∈ s.history
  freed : Always FreedAfterReply s.history

/-- An event other than `free` is recorded. -/
theorem HandshakeState.Replied.log {s t : HandshakeState} {e : HandshakeEvent} (hs : s.Replied)
    (he : e ≠ .freed) (hhistory : t.history = s.history ++ [e])
    (hcaller : t.cleanup = .setFlag ∨ t.cleanup = .teardown ∨ t.cleanup = .done →
      e = .replyRead ∨ s.cleanup = .setFlag ∨ s.cleanup = .teardown ∨ s.cleanup = .done) :
    t.Replied := by
  refine ⟨fun hpast => ?_, hhistory ▸ always_snoc.mpr ⟨hs.freed, fun h => absurd h he⟩⟩
  rw [hhistory]
  rcases hcaller hpast with rfl | hpast
  · exact List.mem_append_right _ (List.mem_singleton.mpr rfl)
  · exact List.mem_append_left _ (hs.past hpast)

theorem HandshakeState.Replied.of_eq {s t : HandshakeState} (hs : s.Replied)
    (hhistory : t.history = s.history)
    (hcaller : t.cleanup = .setFlag ∨ t.cleanup = .teardown ∨ t.cleanup = .done →
      s.cleanup = .setFlag ∨ s.cleanup = .teardown ∨ s.cleanup = .done) : t.Replied :=
  ⟨fun hpast => hhistory ▸ hs.past (hcaller hpast), hhistory ▸ hs.freed⟩

theorem HandshakeState.Replied.of_loopStep {s t : HandshakeState} {a : LoopAct} (hs : s.Replied)
    (h : loopStep s a = some t) : t.Replied := by
  cases a with
  | poll r =>
    simp only [loopStep, Option.ite_none_right_eq_some, Option.some.injEq] at h
    obtain ⟨-, rfl⟩ := h
    exact hs.of_eq rfl id
  | read n =>
    simp only [loopStep] at h
    split at h
    · split at h <;> cases h
      · exact hs.log (e := .exitConsumed) nofun rfl .inr
      · exact hs.of_eq rfl id
    · cases h
  | write ok =>
    simp only [loopStep] at h
    split at h
    · split at h <;> cases h
      · exact hs.log (e := .doneWritten) nofun rfl .inr
      · exact hs.of_eq rfl id
    · cases h
  | _ =>
    simp only [loopStep, Option.ite_none_right_eq_some, Option.some.injEq] at h
    obtain ⟨-, rfl⟩ := h
    exact hs.log (e := .loopAccess) nofun rfl .inr

theorem HandshakeState.Replied.of_cleanupStep {s t : HandshakeState} {a : CleanupAct}
    (hs : s.Replied) (h : cleanupStep s a = some t) (ha : (HandshakeAct.cleanup a).Written) :
    t.Replied := by
  cases a with
  | call =>
    simp only [cleanupStep, Option.ite_none_right_eq_some, Option.some.injEq] at h
    obtain ⟨-, rfl⟩ := h
    exact hs.of_eq rfl nofun
  | write ok =>
    simp only [cleanupStep] at h
    split at h
    · rw [if_pos (show ok = true from ha)] at h
      cases h
      exact hs.log (e := .exitWritten) nofun rfl nofun
    · cases h
  | read n =>
    simp only [cleanupStep, Option.ite_none_right_eq_some, Option.some.injEq] at h
    obtain ⟨-, rfl⟩ := h
    exact hs.log (e := .replyRead) nofun rfl fun _ => .inl rfl
  | setFlag =>
    simp only [cleanupStep, Option.ite_none_right_eq_some, Option.some.injEq] at h
    obtain ⟨hpc, rfl⟩ := h
    exact hs.of_eq rfl fun _ => .inl hpc
  | free =>
    simp only [cleanupStep, Option.ite_none_right_eq_some, Option.some.injEq] at h
    obtain ⟨hpc, rfl⟩ := h
    have hreply := hs.past (.inr (.inl hpc))
    exact ⟨fun _ => List.mem_append_left _ hreply,
      always_snoc.mpr ⟨hs.freed, fun _ => hreply⟩⟩

theorem handshake_replied {s : HandshakeState}
    (h : (handshake.restrict fun _ a => a.Written).Reachable s) : s.Replied := by
  refine h.invariant ?_ ?_
  · rintro _ rfl
    exact ⟨nofun, always_nil _⟩
  · rintro s a t - hs ⟨hstep, ha⟩
    cases a with
    | loop a => exact hs.of_loopStep hstep
    | cleanup a => exact hs.of_cleanupStep hstep ha
    | arrive events =>
      cases hstep
      exact hs.of_eq rfl id

/-- **The shutdown handshake.** -/
theorem cleanup_handshake {tr : List (Transition HandshakeState HandshakeAct)}
    {s : HandshakeState} (h : handshake.Run tr s) (hwritten : ∀ x ∈ tr, x.act.Written) :
    (.replyRead ∈ s.history → s.loop = .left) ∧
    Always (fun pre e => e = .loopAccess → .replyRead ∉ pre ∧ .freed ∉ pre) s.history ∧
    s.history.count .exitConsumed ≤ 1 ∧
    Always (fun pre e => e = .doneWritten → .exitConsumed ∈ pre) s.history := by
  have hinv := handshake_inv h.reachable
  have hreplied := handshake_replied (h.restrict hwritten).reachable
  refine ⟨?_, ?_, ?_, ?_⟩
  · intro hreply
    exact hinv.afterDone (hinv.inOrder.mem_of_mem (e := .replyRead) (fun _ h => h) hreply)
  · rintro pre e post heq rfl
    have hpre : Always InOrder pre := (always_append.mp (heq ▸ hinv.inOrder)).1
    have hfree : Always FreedAfterReply pre := (always_append.mp (heq ▸ hreplied.freed)).1
    have hnoreply : .replyRead ∉ pre := fun hreply =>
      hinv.inOrder pre .loopAccess post heq
        (hpre.mem_of_mem (e := .replyRead) (fun _ h => h) hreply)
    exact ⟨hnoreply, fun hfreed => hnoreply (hfree.mem_of_mem (fun _ h => h rfl) hfreed)⟩
  · have := hinv.request
    have := hinv.sent
    omega
  · exact hinv.inOrder.mono fun pre e he hdone => by
      subst hdone
      exact he

/-- Cleanup is called while netlink events are pending; the loop handles them before it answers. -/
def busyShutdown : List HandshakeAct :=
  [.loop .enter, .loop .setup, .arrive 2, .loop (.poll (.revents false false true false)),
    .cleanup .call, .loop (.handle 1 false), .cleanup (.write true), .loop (.handle 1 true),
    .loop .test, .loop (.poll (.revents false false false true)), .arrive 1, .loop (.read 4),
    .loop (.write true), .cleanup (.read 4), .cleanup .setFlag, .cleanup .free]

theorem cleanup_handshake_busyShutdown :
    ∃ tr s, handshake.Run tr s ∧ tr.map Transition.act = busyShutdown ∧ .freed ∈ s.history ∧
      s.loop = .left ∧
      Always (fun pre e => e = .loopAccess → .replyRead ∉ pre ∧ .freed ∉ pre) s.history := by
  have he : (execute HandshakeState.step .init busyShutdown).map
      (fun r => decide (r.1.map Transition.act = busyShutdown ∧ .freed ∈ r.2.history ∧
        .replyRead ∈ r.2.history ∧ ∀ x ∈ r.1, x.act.Written)) = some true := by decide +kernel
  obtain ⟨⟨tr, s⟩, hrun, heq⟩ := Option.map_eq_some_iff.mp he
  obtain ⟨hacts, hfreed, hreply, hwritten⟩ := of_decide_eq_true heq
  have hr := run_of_execute hrun
  have hsafe := cleanup_handshake hr hwritten
  exact ⟨tr, s, hr, hacts, hfreed, hsafe.1 hreply, hsafe.2.1⟩

end Sloane.WifiHal
