import Mathlib.Algebra.Order.BigOperators.Group.List
import Mathlib.Algebra.Order.Ring.Int
import Sloane.Lib.Run

/-!
# The frame rate counter

`update` counts a frame and how long it took, and reports once the interval is over.  If time does
not advance, it starts the interval again, but not the counting.

* `FpsHistory.Inv` — the counter and the frames that it counted.
* `FpsHistory.Consistent` — what a report should say about the frames of its interval.
* `FpsHistory.consistent_of_advances` — while time advances, it does.
* `report_consistent_iff` — exactly when it does.
-/

namespace Sloane.UiExt

open Sloane.Lib

/-! ## The source -/

/-- The frames and the nanoseconds of which `mFps` is the quotient, per second. -/
structure FrameRate where
  frames : Nat
  duration : Int
  deriving DecidableEq, Repr

structure FpsCounter where
  mFps : FrameRate
  mMaxDuration : Int
  mMinDuration : Int
  mMaxDurationCounting : Int
  mMinDurationCounting : Int
  mFrames : Nat
  mLastLogTime : Int
  mLastLogDuration : Int
  mLastTime : Int
  mLastDuration : Int
  mCountInterval : Int
  deriving DecidableEq, Repr

namespace FpsCounter

/-- `reset`, with the number of milliseconds that the property `debug.sf.stc_interval` holds. -/
def reset (stc_interval : Int) : FpsCounter where
  mFps := ⟨0, 1⟩
  mMaxDuration := -1
  mMinDuration := -1
  mMaxDurationCounting := -1
  mMinDurationCounting := -1
  mFrames := 0
  mLastLogTime := -1
  mLastLogDuration := -1
  mLastTime := -1
  mLastDuration := -1
  mCountInterval := stc_interval * 1000000

/-- The frame that ends at the timestamp. -/
def count (c : FpsCounter) (timestamp : Int) : FpsCounter :=
  let mLastDuration := timestamp - c.mLastTime
  { c with
    mFrames := (c.mFrames + 1) % 2 ^ 32
    mLastDuration := mLastDuration
    mLastTime := timestamp
    mMaxDurationCounting :=
      if -1 = c.mMaxDurationCounting ∨ mLastDuration > c.mMaxDurationCounting then mLastDuration
      else c.mMaxDurationCounting
    mMinDurationCounting :=
      if -1 = c.mMinDurationCounting ∨ mLastDuration < c.mMinDurationCounting then mLastDuration
      else c.mMinDurationCounting }

/-- The result, and the counting data for the next one. -/
def report (c : FpsCounter) (timestamp duration : Int) : FpsCounter :=
  { c with
    mFps := ⟨c.mFrames, duration⟩
    mLastLogDuration := duration
    mMaxDuration := c.mMaxDurationCounting
    mMinDuration := c.mMinDurationCounting
    mFrames := 0
    mLastLogTime := timestamp
    mMaxDurationCounting := -1
    mMinDurationCounting := -1 }

def update (c : FpsCounter) (timestamp : Int) : Bool × FpsCounter :=
  if -1 = c.mLastLogTime ∨ -1 = c.mLastTime ∨ c.mLastTime ≥ timestamp then
    (false, { c with mLastLogTime := timestamp, mLastTime := timestamp })
  else
    let c := c.count timestamp
    -- check if reach statistics interval
    let duration := timestamp - c.mLastLogTime
    if duration > c.mCountInterval then (true, c.report timestamp duration) else (false, c)

/-- The branch that starts the interval again. -/
def Restarts (c : FpsCounter) (timestamp : Int) : Prop :=
  -1 = c.mLastLogTime ∨ -1 = c.mLastTime ∨ c.mLastTime ≥ timestamp

instance (c : FpsCounter) (timestamp : Int) : Decidable (c.Restarts timestamp) :=
  inferInstanceAs (Decidable (_ ∨ _ ∨ _))

/-- The branch that reports. -/
def Reports (c : FpsCounter) (timestamp : Int) : Prop :=
  ¬ c.Restarts timestamp ∧ timestamp - c.mLastLogTime > c.mCountInterval

instance (c : FpsCounter) (timestamp : Int) : Decidable (c.Reports timestamp) :=
  inferInstanceAs (Decidable (_ ∧ _))

end FpsCounter

namespace FpsCounter

theorem update_restarts {c : FpsCounter} {timestamp : Int} (h : c.Restarts timestamp) :
    c.update timestamp = (false, { c with mLastLogTime := timestamp, mLastTime := timestamp }) :=
  if_pos h

theorem update_counts {c : FpsCounter} {timestamp : Int} (h : ¬ c.Restarts timestamp)
    (hr : ¬ c.Reports timestamp) : c.update timestamp = (false, c.count timestamp) := by
  have hduration : ¬ timestamp - c.mLastLogTime > c.mCountInterval := fun hlt => hr ⟨h, hlt⟩
  exact (if_neg h).trans (if_neg hduration)

theorem update_reports {c : FpsCounter} {timestamp : Int} (h : c.Reports timestamp) :
    c.update timestamp =
      (true, (c.count timestamp).report timestamp (timestamp - c.mLastLogTime)) :=
  (if_neg h.1).trans (if_pos h.2)

/-- **What `update` returns.** -/
theorem update_fst (c : FpsCounter) (timestamp : Int) :
    (c.update timestamp).1 = true ↔ c.Reports timestamp := by
  by_cases h : c.Restarts timestamp
  · rw [update_restarts h]
    exact iff_of_false Bool.false_ne_true fun hr => hr.1 h
  · by_cases hr : c.Reports timestamp
    · rw [update_reports hr]
      exact iff_of_true rfl hr
    · rw [update_counts h hr]
      exact iff_of_false Bool.false_ne_true hr

end FpsCounter

/-! ## What was counted -/

/-- The counter, and the frames since its last report. -/
structure FpsHistory where
  counter : FpsCounter
  /-- How long the frames took that were counted since the interval began. -/
  durations : List Int
  /-- How many were counted before that. -/
  earlier : Nat
  deriving DecidableEq, Repr

inductive FpsAct
  | reset (stc_interval : Int)
  /-- `mCountInterval` is public. -/
  | setInterval (mCountInterval : Int)
  | update (timestamp : Int)

namespace FpsHistory

def start (stc_interval : Int) : FpsHistory := ⟨.reset stc_interval, [], 0⟩

def next (s : FpsHistory) : FpsAct → FpsHistory
  | .reset stc_interval => .start stc_interval
  | .setInterval interval => { s with counter := { s.counter with mCountInterval := interval } }
  | .update timestamp =>
      let counter := (s.counter.update timestamp).2
      if s.counter.Restarts timestamp then ⟨counter, [], s.earlier + s.durations.length⟩
      else if s.counter.Reports timestamp then ⟨counter, [], 0⟩
      else ⟨counter, s.durations ++ [timestamp - s.counter.mLastTime], s.earlier⟩

/-- The durations of the frames that a report is about. -/
def reported (s : FpsHistory) (timestamp : Int) : List Int :=
  s.durations ++ [timestamp - s.counter.mLastTime]

/-- **What a report should say**: the rate is that of the frames counted since the interval began,
which is as long as they are, and the average is between the extremes. -/
structure Consistent (durations : List Int) (c : FpsCounter) : Prop where
  frames : c.mFps.frames = durations.length
  duration : c.mLastLogDuration = durations.sum
  min_le : c.mFps.frames * c.mMinDuration ≤ c.mLastLogDuration
  le_max : c.mLastLogDuration ≤ c.mFps.frames * c.mMaxDuration

/-- No frame was counted between the last report and the interval, as far as 32 bits can tell, and
those of the interval can be counted in them. -/
def Clean (s : FpsHistory) : Prop :=
  s.earlier % 2 ^ 32 = 0 ∧ s.durations.length + 1 < 2 ^ 32

instance (s : FpsHistory) : Decidable s.Clean := inferInstanceAs (Decidable (_ ∧ _))

end FpsHistory

/-- Any sequence of calls. -/
def fpsCounter : System FpsHistory FpsAct :=
  ⟨fun s => ∃ stc_interval, s = .start stc_interval, fun s a t => t = s.next a⟩

namespace FpsHistory

/-! ## The counter keeps count -/

structure Inv (s : FpsHistory) : Prop where
  frames : s.counter.mFrames = (s.earlier + s.durations.length) % 2 ^ 32
  time : s.counter.mLastTime - s.counter.mLastLogTime = s.durations.sum
  min_ok : s.counter.mMinDurationCounting = -1 ∨ 0 < s.counter.mMinDurationCounting
  bounds : ∀ d ∈ s.durations, 0 < s.counter.mMinDurationCounting ∧
    s.counter.mMinDurationCounting ≤ d ∧ d ≤ s.counter.mMaxDurationCounting

variable {s : FpsHistory} {timestamp : Int}

theorem Inv.start (stc_interval : Int) : (start stc_interval).Inv where
  frames := rfl
  time := rfl
  min_ok := Or.inl rfl
  bounds d hd := by cases hd

theorem length_reported : (s.reported timestamp).length = s.durations.length + 1 := by
  rw [reported, List.length_append, List.length_singleton]

/-- A frame is counted together with its duration. -/
theorem Inv.count (h : s.Inv) (hcount : ¬ s.counter.Restarts timestamp) :
    Inv ⟨s.counter.count timestamp, s.reported timestamp, s.earlier⟩ := by
  have hpos : 0 < timestamp - s.counter.mLastTime := by
    unfold FpsCounter.Restarts at hcount
    omega
  constructor
  · show (s.counter.mFrames + 1) % 2 ^ 32 = (s.earlier + (s.reported timestamp).length) % 2 ^ 32
    rw [h.frames, length_reported, Nat.mod_add_mod, Nat.add_assoc]
  · show timestamp - s.counter.mLastLogTime = _
    rw [reported, List.sum_append, List.sum_singleton, ← h.time]
    omega
  · refine Or.inr ?_
    simp only [FpsCounter.count]
    rcases h.min_ok with hmin | hmin
    · rw [if_pos (Or.inl hmin.symm)]
      exact hpos
    · split <;> assumption
  · intro d hd
    simp only [FpsCounter.count]
    rcases List.mem_append.mp hd with hold | hnew
    · obtain ⟨hmin, hle, hge⟩ := h.bounds d hold
      refine ⟨?_, ?_, ?_⟩
      · split <;> assumption
      · split
        · omega
        · exact hle
      · split
        · omega
        · exact hge
    · obtain rfl := List.mem_singleton.mp hnew
      refine ⟨?_, ?_, ?_⟩
      · rcases h.min_ok with hmin | hmin
        · rw [if_pos (Or.inl hmin.symm)]
          exact hpos
        · split <;> assumption
      · split <;> omega
      · split <;> omega

theorem Inv.next (h : s.Inv) (a : FpsAct) : (s.next a).Inv := by
  cases a with
  | reset stc_interval => exact .start stc_interval
  | setInterval interval => exact ⟨h.frames, h.time, h.min_ok, h.bounds⟩
  | update timestamp =>
    simp only [FpsHistory.next]
    by_cases hrestart : s.counter.Restarts timestamp
    · rw [if_pos hrestart, FpsCounter.update_restarts hrestart]
      exact ⟨h.frames, Int.sub_self _, h.min_ok, fun d hd => by cases hd⟩
    · rw [if_neg hrestart]
      by_cases hreport : s.counter.Reports timestamp
      · rw [if_pos hreport, FpsCounter.update_reports hreport]
        exact ⟨rfl, Int.sub_self _, Or.inl rfl, fun d hd => by cases hd⟩
      · rw [if_neg hreport, FpsCounter.update_counts hrestart hreport]
        exact h.count hrestart

theorem Inv.of_reachable (h : fpsCounter.Reachable s) : s.Inv := by
  refine h.invariant ?_ ?_
  · rintro s ⟨stc_interval, rfl⟩
    exact .start stc_interval
  · rintro s a t - hinv rfl
    exact hinv.next a

/-- The update comes later than the one before it. -/
def Advances (s : FpsHistory) : FpsAct → Prop
  | .update timestamp => s.counter.mLastTime < timestamp
  | _ => True

/-- Nothing is left over, and the interval has begun unless nothing was counted. -/
def NothingLeft (s : FpsHistory) : Prop :=
  s.earlier = 0 ∧ (s.durations = [] ∧ s.counter.mLastTime = -1 ∨
    0 ≤ s.counter.mLastTime ∧ 0 ≤ s.counter.mLastLogTime)

/-- While time advances, nothing is left over. -/
theorem NothingLeft.of_advances (h : (fpsCounter.restrict Advances).Reachable s) :
    s.NothingLeft := by
  refine h.invariant ?_ ?_
  · rintro s ⟨stc_interval, rfl⟩
    exact ⟨rfl, Or.inl ⟨rfl, rfl⟩⟩
  · rintro s a t - ⟨hearlier, htime⟩ ⟨rfl, hadvances⟩
    cases a with
    | reset stc_interval => exact ⟨rfl, Or.inl ⟨rfl, rfl⟩⟩
    | setInterval interval => exact ⟨hearlier, htime⟩
    | update timestamp =>
      have hlater : s.counter.mLastTime < timestamp := hadvances
      simp only [FpsHistory.next]
      by_cases hrestart : s.counter.Restarts timestamp
      · -- only the first update starts an interval, and nothing was counted before it
        have hfirst : s.durations = [] := by
          rcases htime with ⟨hnone, -⟩ | ⟨hlast, hlog⟩
          · exact hnone
          · unfold FpsCounter.Restarts at hrestart
            omega
        rw [if_pos hrestart, FpsCounter.update_restarts hrestart, hfirst, hearlier]
        have hfrom : 0 ≤ timestamp := by omega
        exact ⟨rfl, Or.inr ⟨hfrom, hfrom⟩⟩
      · have hfrom : 0 ≤ timestamp ∧ 0 ≤ s.counter.mLastLogTime := by
          unfold FpsCounter.Restarts at hrestart
          omega
        rw [if_neg hrestart]
        by_cases hreport : s.counter.Reports timestamp
        · rw [if_pos hreport, FpsCounter.update_reports hreport]
          exact ⟨rfl, Or.inr ⟨hfrom.1, hfrom.1⟩⟩
        · rw [if_neg hreport, FpsCounter.update_counts hrestart hreport]
          exact ⟨hearlier, Or.inr hfrom⟩

/-! ## The reports -/

/-- The frames of a report are those of its interval exactly if no others were left over. -/
theorem frames_eq_iff (earlier n : Nat) :
    (earlier + (n + 1)) % 2 ^ 32 = n + 1 ↔ earlier % 2 ^ 32 = 0 ∧ n + 1 < 2 ^ 32 := by
  omega

theorem Inv.consistent_iff (h : s.Inv) (hreport : s.counter.Reports timestamp) :
    Consistent (s.reported timestamp) (s.counter.update timestamp).2 ↔ s.Clean := by
  have hcount := h.count hreport.1
  have hframes : (s.counter.count timestamp).mFrames = (s.reported timestamp).length ↔ s.Clean := by
    rw [hcount.frames, length_reported]
    exact frames_eq_iff _ _
  rw [FpsCounter.update_reports hreport]
  refine ⟨fun hc => hframes.mp hc.frames, fun hclean => ?_⟩
  have hduration : timestamp - s.counter.mLastLogTime = (s.reported timestamp).sum := hcount.time
  constructor
  · exact hframes.mpr hclean
  · exact hduration
  · show (s.counter.count timestamp).mFrames * (s.counter.count timestamp).mMinDurationCounting ≤
      timestamp - s.counter.mLastLogTime
    rw [hframes.mpr hclean, hduration, ← Int.nsmul_eq_mul]
    exact List.card_nsmul_le_sum _ _ fun d hd => (hcount.bounds d hd).2.1
  · show timestamp - s.counter.mLastLogTime ≤
      (s.counter.count timestamp).mFrames * (s.counter.count timestamp).mMaxDurationCounting
    rw [hframes.mpr hclean, hduration, ← Int.nsmul_eq_mul]
    exact List.sum_le_card_nsmul _ _ fun d hd => (hcount.bounds d hd).2.2

/-- While time advances, every report is consistent. -/
theorem consistent_of_advances (h : (fpsCounter.restrict Advances).Reachable s)
    (hreport : s.counter.Reports timestamp) (hfew : s.durations.length + 1 < 2 ^ 32) :
    Consistent (s.reported timestamp) (s.counter.update timestamp).2 := by
  refine ((Inv.of_reachable h.of_restrict).consistent_iff hreport).mpr ⟨?_, hfew⟩
  rw [(NothingLeft.of_advances h).1, Nat.zero_mod]

end FpsHistory

/-- **The reports**: whenever `update` returns true, what it reports is consistent iff no frame
was left over from before its interval. -/
theorem report_consistent_iff {s : FpsHistory} (hs : fpsCounter.Reachable s) {timestamp : Int}
    (h : (s.counter.update timestamp).1 = true) :
    FpsHistory.Consistent (s.reported timestamp) (s.counter.update timestamp).2 ↔ s.Clean :=
  (FpsHistory.Inv.of_reachable hs).consistent_iff ((FpsCounter.update_fst _ _).mp h)

/-- Two frames of 600 and 500 milliseconds. -/
theorem report_consistent_twoFrames :
    FpsHistory.Consistent [600000000, 500000000]
      (((FpsHistory.start 1000).next (.update 0)).next (.update 600000000)
        |>.counter.update 1100000000).2 := by
  have hs : fpsCounter.Reachable
      (((FpsHistory.start 1000).next (.update 0)).next (.update 600000000)) :=
    .step (.step (.start ⟨1000, rfl⟩) rfl) rfl
  have hreport : ((((FpsHistory.start 1000).next (.update 0)).next
      (.update 600000000)).counter.update 1100000000).1 = true := by decide
  exact (report_consistent_iff hs hreport).mpr (by decide)

/-- A frame of 400 milliseconds, and then time goes back. -/
def setBack : FpsHistory :=
  ((((FpsHistory.start 1000).next (.update 0)).next (.update 400000000)).next
    (.update 300000000)).next (.update 900000000)

/-- The report counts it as well, though the interval began after it. -/
theorem not_consistent_setBack :
    ¬ ∀ s timestamp, fpsCounter.Reachable s → (s.counter.update timestamp).1 = true →
      FpsHistory.Consistent (s.reported timestamp) (s.counter.update timestamp).2 := by
  intro hall
  have hs : fpsCounter.Reachable setBack :=
    .step (.step (.step (.step (.start ⟨1000, rfl⟩) rfl) rfl) rfl) rfl
  have hreport := hall setBack 1400000000 hs (by decide)
  have hframes : ((setBack.counter.update 1400000000).2).mFps.frames = 3 := by decide
  have hlength : (setBack.reported 1400000000).length = 2 := by decide
  exact absurd (hframes.symm.trans (hreport.frames.trans hlength)) (by decide)

end Sloane.UiExt
