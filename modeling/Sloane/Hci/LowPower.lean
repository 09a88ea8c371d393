import Mathlib
import Sloane.Lib.History
import Sloane.Lib.Run

/-!
# Low power mode

Model of the part of `VendorInterface` that asserts and deasserts the wake line: `Open`, `Close`,
`Send`, `OnFirmwareConfigured` and `OnTimeout`, each taken as one step.  The flags are static and
outlive the `VendorInterface`; the watcher with its timeout does not.  `history` records the calls
and what they issue.

* `low_power` — a packet is sent only with wake asserted; wake is deasserted only by an `OnTimeout`
  with no `Send` since the one before; and once the firmware is configured, the timeout is armed
  as long as wake is asserted.
-/

namespace Sloane.Hci

open Sloane.Lib System

/-- What the vendor library gives for `BT_VND_OP_GET_LPM_IDLE_TIMEOUT`. -/
def LPM_IDLE_TIMEOUT : Nat := 5000

inductive WakeState where
  | assert
  | deassert
  deriving DecidableEq, Repr

/-- The callbacks that a timeout is configured with. -/
inductive TimeoutCallback where
  | onTimeout
  | zeroTimeout
  deriving DecidableEq, Repr

/-- The part of `AsyncFdWatcher` that `ConfigureTimeout` sets. -/
structure Watcher where
  timeoutMs : Nat
  timeoutCb : Option TimeoutCallback
  deriving DecidableEq, Repr

/-- A `VendorInterface`. -/
structure Session where
  fdWatcher : Watcher
  /-- `OnFirmwareConfigured` has been called -/
  configured : Bool
  deriving DecidableEq, Repr

inductive LpmEvent where
  /-- `Send` is called -/
  | sendCall
  /-- `OnTimeout` is called -/
  | timeoutCall
  /-- `BT_VND_OP_LPM_WAKE_SET_STATE` -/
  | wake (state : WakeState)
  /-- `hci_->Send` -/
  | hciSend
  deriving DecidableEq, Repr

structure LpmState where
  lpmWakeDeasserted : Bool
  lpmTimeoutMs : Nat
  recentActivityFlag : Bool
  /-- `g_vendor_interface` -/
  vendorInterface : Option Session
  history : List LpmEvent
  deriving DecidableEq, Repr

inductive LpmCall where
  | open
  | close
  | send
  | onFirmwareConfigured
  | onTimeout
  deriving DecidableEq, Repr

def Watcher.new : Watcher := ⟨0, none⟩

def Session.configureTimeout (i : Session) (timeoutMs : Nat) (cb : TimeoutCallback) : Session :=
  { i with fdWatcher := ⟨timeoutMs, some cb⟩ }

namespace LpmState

def start : LpmState := ⟨false, 0, false, none, []⟩

def log (s : LpmState) (es : List LpmEvent) : LpmState := { s with history := s.history ++ es }

def openSession (s : LpmState) : LpmState :=
  { s with vendorInterface := some ⟨.new, false⟩, lpmWakeDeasserted := true }

def send (s : LpmState) (i : Session) : LpmState :=
  let s := { s with recentActivityFlag := true }.log [.sendCall]
  if s.lpmWakeDeasserted = true then
    { s with vendorInterface := some (i.configureTimeout s.lpmTimeoutMs .onTimeout)
             lpmWakeDeasserted := false }.log [.wake .assert, .hciSend]
  else s.log [.hciSend]

def onFirmwareConfigured (s : LpmState) (i : Session) : LpmState :=
  { s with lpmTimeoutMs := LPM_IDLE_TIMEOUT
           vendorInterface := some
             { i.configureTimeout LPM_IDLE_TIMEOUT .onTimeout with configured := true } }

def onTimeout (s : LpmState) (i : Session) : LpmState :=
  let s := s.log [.timeoutCall]
  let s := if s.recentActivityFlag = false then
      { s with lpmWakeDeasserted := true
               vendorInterface := some (i.configureTimeout 0 .zeroTimeout) }.log [.wake .deassert]
    else s
  { s with recentActivityFlag := false }

/-- There is a `VendorInterface` between `Open` and `Close`. -/
def next (s : LpmState) (c : LpmCall) : Option LpmState :=
  match s.vendorInterface, c with
  | none, .open => some s.openSession
  | some _, .close => some { s with vendorInterface := none }
  | some i, .send => some (s.send i)
  | some i, .onFirmwareConfigured => some (s.onFirmwareConfigured i)
  | some i, .onTimeout => some (s.onTimeout i)
  | _, _ => none

end LpmState

def lowPower : System LpmState LpmCall := ofStep .start LpmState.next

/-! ## What is to hold -/

def LpmEvent.wakeState : LpmEvent → Option WakeState
  | .wake state => some state
  | _ => none

/-- The last wake operation issued to the vendor library. -/
def lastWake (es : List LpmEvent) : Option WakeState := lastOf LpmEvent.wakeState es

def LpmEvent.isTimeout (e : LpmEvent) : Bool := e = .timeoutCall

/-- A packet is sent with wake asserted, and wake is deasserted by an `OnTimeout` with no `Send`
since the one before. -/
def WakeOk (pre : List LpmEvent) : LpmEvent → Prop
  | .hciSend => lastWake pre = some .assert
  | .wake .deassert => ∃ pre', pre = pre' ++ [.timeoutCall] ∧
      .sendCall ∉ since LpmEvent.isTimeout pre'
  | _ => True

/-- The timeout calls `OnTimeout` after `lpm_timeout_ms`. -/
def LpmState.Armed (s : LpmState) (i : Session) : Prop :=
  i.fdWatcher.timeoutMs = s.lpmTimeoutMs ∧ 0 < i.fdWatcher.timeoutMs ∧
    i.fdWatcher.timeoutCb = some .onTimeout

structure LpmState.Inv (s : LpmState) : Prop where
  ok : Always WakeOk s.history
  /-- The flag is clear only if nothing was sent since the last `OnTimeout`. -/
  recent : s.recentActivityFlag = false →
    .sendCall ∉ since LpmEvent.isTimeout s.history
  asserted : ∀ i ∈ s.vendorInterface, s.lpmWakeDeasserted = false →
    lastWake s.history = some .assert ∧ i.fdWatcher.timeoutMs = s.lpmTimeoutMs ∧
      i.fdWatcher.timeoutCb = some .onTimeout
  armed : ∀ i ∈ s.vendorInterface, i.configured = true →
    s.lpmTimeoutMs = LPM_IDLE_TIMEOUT ∧ (lastWake s.history = some .assert → s.Armed i)

/-! ## Events -/

theorem lastWake_wake (es : List LpmEvent) (state : WakeState) :
    lastWake (es ++ [.wake state]) = some state := lastOf_snoc_some rfl

theorem lastWake_other {e : LpmEvent} (he : e.wakeState = none) (es : List LpmEvent) :
    lastWake (es ++ [e]) = lastWake es := lastOf_snoc_none he

/-- What is logged between two `OnTimeout` calls adds to what came after the first. -/
theorem since_timeout_snoc {e : LpmEvent} (he : e.isTimeout = false) (es : List LpmEvent) :
    since LpmEvent.isTimeout (es ++ [e]) = since LpmEvent.isTimeout es ++ [e] :=
  since_snoc_of_neg he

/-! ## Calls -/

namespace LpmState.Inv

variable {s : LpmState} (h : s.Inv)
include h

theorem openSession : s.openSession.Inv where
  ok := h.ok
  recent := h.recent
  asserted _ _ hflag := by cases hflag
  armed i hi hconf := by
    obtain rfl := Option.some.inj hi
    cases hconf

theorem close : LpmState.Inv { s with vendorInterface := none } where
  ok := h.ok
  recent := h.recent
  asserted _ hi := by cases hi
  armed _ hi := by cases hi

theorem send {i : Session} (hi : s.vendorInterface = some i) : (s.send i).Inv := by
  have hcall : lastWake (s.history ++ [.sendCall]) = lastWake s.history := lastWake_other rfl _
  have hok : Always WakeOk (s.history ++ [.sendCall]) := always_snoc.mpr ⟨h.ok, trivial⟩
  unfold LpmState.send LpmState.log
  dsimp only
  split
  · rename_i hdeasserted
    have hwake : lastWake (s.history ++ [.sendCall] ++ [.wake .assert]) = some .assert :=
      lastWake_wake _ _
    have hsent : lastWake (s.history ++ [.sendCall] ++ [.wake .assert, .hciSend]) =
        some .assert := by
      rw [List.append_cons, lastWake_other rfl, hwake]
    constructor
    · show Always WakeOk (s.history ++ [.sendCall] ++ [.wake .assert, .hciSend])
      rw [List.append_cons]
      exact always_snoc.mpr ⟨always_snoc.mpr ⟨hok, trivial⟩, hwake⟩
    · intro hflag
      cases hflag
    · intro j hj _
      obtain rfl := Option.some.inj hj
      exact ⟨hsent, rfl, rfl⟩
    · intro j hj hconf
      obtain rfl := Option.some.inj hj
      have htimeout := (h.armed i hi hconf).1
      refine ⟨htimeout, fun _ => ⟨rfl, ?_, rfl⟩⟩
      show 0 < s.lpmTimeoutMs
      rw [htimeout]
      decide
  · rename_i hasserted
    have hasserted := (h.asserted i hi (by simpa using hasserted))
    have hsent : lastWake (s.history ++ [.sendCall] ++ [.hciSend]) = lastWake s.history := by
      rw [lastWake_other rfl, hcall]
    constructor
    · exact always_snoc.mpr ⟨hok, hcall.trans hasserted.1⟩
    · intro hflag
      cases hflag
    · intro j hj hflag
      rw [hsent]
      exact h.asserted j hj hflag
    · intro j hj hconf
      rw [hsent]
      exact h.armed j hj hconf

theorem onFirmwareConfigured {i : Session} (hi : s.vendorInterface = some i) :
    (s.onFirmwareConfigured i).Inv where
  ok := h.ok
  recent := h.recent
  asserted j hj hflag := by
    obtain rfl := Option.some.inj hj
    exact ⟨(h.asserted i hi hflag).1, rfl, rfl⟩
  armed j hj _ := by
    obtain rfl := Option.some.inj hj
    exact ⟨rfl, fun _ => ⟨rfl, show 0 < LPM_IDLE_TIMEOUT by decide, rfl⟩⟩

theorem onTimeout {i : Session} (hi : s.vendorInterface = some i) : (s.onTimeout i).Inv := by
  have hcall : lastWake (s.history ++ [.timeoutCall]) = lastWake s.history := lastWake_other rfl _
  have hok : Always WakeOk (s.history ++ [.timeoutCall]) := always_snoc.mpr ⟨h.ok, trivial⟩
  have hsince : since LpmEvent.isTimeout (s.history ++ [.timeoutCall]) = [] :=
    since_snoc_of_pos rfl
  unfold LpmState.onTimeout LpmState.log
  dsimp only
  split
  · rename_i hidle
    constructor
    · exact always_snoc.mpr ⟨hok, s.history, rfl, h.recent hidle⟩
    · intro _
      show .sendCall ∉ since LpmEvent.isTimeout (s.history ++ [.timeoutCall] ++ [.wake .deassert])
      rw [since_timeout_snoc rfl, hsince]
      simp
    · intro _ _ hflag
      cases hflag
    · intro j hj hconf
      obtain rfl := Option.some.inj hj
      refine ⟨(h.armed i hi hconf).1, fun hlast => ?_⟩
      change lastWake (s.history ++ [.timeoutCall] ++ [.wake .deassert]) = _ at hlast
      rw [lastWake_wake] at hlast
      cases hlast
  · constructor
    · exact hok
    · intro _
      show .sendCall ∉ since LpmEvent.isTimeout (s.history ++ [.timeoutCall])
      rw [hsince]
      simp
    · intro j hj hflag
      rw [hcall]
      exact h.asserted j hj hflag
    · intro j hj hconf
      rw [hcall]
      exact h.armed j hj hconf

theorem next {c : LpmCall} {t : LpmState} (hnext : s.next c = some t) : t.Inv := by
  unfold LpmState.next at hnext
  split at hnext
  · obtain rfl := Option.some.inj hnext
    exact h.openSession
  · obtain rfl := Option.some.inj hnext
    exact h.close
  · rename_i i hi
    obtain rfl := Option.some.inj hnext
    exact h.send hi
  · rename_i i hi
    obtain rfl := Option.some.inj hnext
    exact h.onFirmwareConfigured hi
  · rename_i i hi
    obtain rfl := Option.some.inj hnext
    exact h.onTimeout hi
  · cases hnext

end LpmState.Inv

theorem LpmState.Inv.of_reachable {s : LpmState} (hs : lowPower.Reachable s) : s.Inv := by
  refine hs.invariant ?_ fun s c t _ h hnext => h.next hnext
  rintro _ rfl
  exact ⟨always_nil _, by simp [LpmState.start, since], by simp [LpmState.start],
    by simp [LpmState.start]⟩

/-- Without a `Send` in between, the second of two calls of `OnTimeout` deasserts wake. -/
theorem onTimeout_twice (s : LpmState) (i j : Session) :
    lastWake ((s.onTimeout i).onTimeout j).history = some .deassert := by
  have hidle : (s.onTimeout i).recentActivityFlag = false := rfl
  generalize s.onTimeout i = t at hidle
  unfold LpmState.onTimeout LpmState.log
  dsimp only
  rw [if_pos hidle]
  exact lastWake_wake _ _

/-- **The low power protocol.** -/
theorem low_power {s : LpmState} (h : lowPower.Reachable s) :
    (∀ pre post, s.history = pre ++ .hciSend :: post → lastWake pre = some .assert) ∧
    (∀ pre post, s.history = pre ++ .wake .deassert :: post →
      ∃ pre', pre = pre' ++ [.timeoutCall] ∧ .sendCall ∉ since LpmEvent.isTimeout pre') ∧
    (∀ i, s.vendorInterface = some i → i.configured = true →
      s.lpmWakeDeasserted = false ∨ lastWake s.history = some .assert →
      s.Armed i ∧ ∃ t u, s.next .onTimeout = some t ∧ t.next .onTimeout = some u ∧
        lastWake u.history = some .deassert) := by
  have hinv := LpmState.Inv.of_reachable h
  refine ⟨fun pre post heq => hinv.ok pre _ post heq,
    fun pre post heq => hinv.ok pre _ post heq, ?_⟩
  intro i hi hconf hasserted
  have hlast : lastWake s.history = some .assert := by
    rcases hasserted with hflag | hlast
    · exact (hinv.asserted i hi hflag).1
    · exact hlast
  refine ⟨(hinv.armed i hi hconf).2 hlast, ?_⟩
  obtain ⟨j, hj⟩ : ∃ j, (s.onTimeout i).vendorInterface = some j := by
    unfold LpmState.onTimeout LpmState.log
    dsimp only
    split
    · exact ⟨_, rfl⟩
    · exact ⟨i, hi⟩
  exact ⟨s.onTimeout i, (s.onTimeout i).onTimeout j, by simp [LpmState.next, hi],
    by simp [LpmState.next, hj], onTimeout_twice s i j⟩

/-- Two sessions, the first of which is closed with wake asserted. -/
def twoSessions : List LpmCall :=
  [.open, .send, .onFirmwareConfigured, .close, .open, .send, .onFirmwareConfigured, .onTimeout,
    .onTimeout, .send]

theorem low_power_twoSessions :
    ∃ s i, lowPower.Reachable s ∧ s.vendorInterface = some i ∧ i.configured = true ∧ s.Armed i := by
  have he : (execute LpmState.next .start twoSessions).map (fun r =>
      (r.2.vendorInterface, r.2.lpmWakeDeasserted)) =
      some (some ⟨⟨5000, some .onTimeout⟩, true⟩, false) := by decide
  obtain ⟨⟨tr, s⟩, hrun, heq⟩ := Option.map_eq_some_iff.mp he
  obtain ⟨hi, hflag⟩ := Prod.mk.inj heq
  have hreach : lowPower.Reachable s := (run_of_execute hrun).reachable
  exact ⟨s, _, hreach, hi, rfl, ((low_power hreach).2.2 _ hi rfl (.inl hflag)).1⟩

end Sloane.Hci
