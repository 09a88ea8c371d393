import Mathlib.Tactic.Common

/-!
# The red, green and blue LEDs

Model of `blink_red`, `blink_green` and `blink_blue` over the values last written to the files of
the LED class.  The writes succeed.

* `blink_display` — after a call the LED is as asked for, unless it was blinking and still is: then
  it keeps its rate.
-/

namespace Sloane.LightsHal

inductive Trigger where
  | none
  | timer
  deriving DecidableEq, Repr

/-- The values last written for one LED. -/
structure Led where
  trigger : Trigger
  brightness : Int
  delayOn : Int
  delayOff : Int
  deriving DecidableEq, Repr

namespace Led

def writeBrightness (led : Led) (value : Int) : Led := { led with brightness := value }

/-- The timer lights the LED at full brightness. -/
def writeTrigger (led : Led) (t : Trigger) : Led :=
  { led with trigger := t, brightness := if t = .timer then 255 else led.brightness }

def writeDelayOff (led : Led) (ms : Int) : Led := { led with delayOff := ms }

def writeDelayOn (led : Led) (ms : Int) : Led := { led with delayOn := ms }

end Led

/-- What the LED shows. -/
inductive Display where
  | off
  | steady
  | blinking (onMS offMS : Int)
  deriving DecidableEq, Repr

def Led.display (led : Led) : Display :=
  if led.brightness = 0 then .off
  else
    match led.trigger with
    | .timer => .blinking led.delayOn led.delayOff
    | .none => .steady

/-- The values of `preStatus`. -/
inductive Status where
  | off
  | blink
  | noBlink
  deriving DecidableEq, Repr

/-- An LED and the static variable of the function that drives it. -/
structure DrivenLed where
  led : Led
  preStatus : Status
  deriving DecidableEq, Repr

def nowStatus (level onMS offMS : Int) : Status :=
  if level = 0 then .off
  else if onMS ≠ 0 ∧ offMS ≠ 0 then .blink
  else .noBlink

/-- The function of one LED; the wait for the files of the timer is left out. -/
def DrivenLed.blink (d : DrivenLed) (level onMS offMS : Int) : DrivenLed :=
  if d.preStatus = nowStatus level onMS offMS then d
  else
    match nowStatus level onMS offMS with
    | .off => ⟨d.led.writeBrightness 0, .off⟩
    | .blink => ⟨((d.led.writeTrigger .timer).writeDelayOff offMS).writeDelayOn onMS, .blink⟩
    | .noBlink => ⟨(d.led.writeTrigger .none).writeBrightness 255, .noBlink⟩

/-- The LED that no one has lit. -/
def DrivenLed.start : DrivenLed := ⟨⟨.none, 0, 0, 0⟩, .off⟩

/-! ## What a call leaves -/

/-- What the arguments ask for. -/
def asked (level onMS offMS : Int) : Display :=
  match nowStatus level onMS offMS with
  | .off => .off
  | .blink => .blinking onMS offMS
  | .noBlink => .steady

def Display.status : Display → Status
  | .off => .off
  | .steady => .noBlink
  | .blinking _ _ => .blink

@[simp] theorem asked_status (level onMS offMS : Int) :
    (asked level onMS offMS).status = nowStatus level onMS offMS := by
  unfold asked
  cases nowStatus level onMS offMS <;> rfl

/-- `preStatus` is about what the LED shows. -/
def DrivenLed.Tracked (d : DrivenLed) : Prop := d.preStatus = d.led.display.status

theorem DrivenLed.Tracked.start : DrivenLed.start.Tracked := rfl

namespace DrivenLed

/-- **What a call leaves**: what is asked for, or the old rate. -/
theorem blink_display {d : DrivenLed} (h : d.Tracked) (level onMS offMS : Int) :
    (d.blink level onMS offMS).led.display =
      if d.led.display.status = nowStatus level onMS offMS then d.led.display
      else asked level onMS offMS := by
  unfold Tracked at h
  unfold blink
  rw [h]
  split
  · rfl
  · unfold asked
    cases nowStatus level onMS offMS <;> rfl

theorem blink_tracked {d : DrivenLed} (h : d.Tracked) (level onMS offMS : Int) :
    (d.blink level onMS offMS).Tracked := by
  unfold blink
  split
  · exact h
  · cases nowStatus level onMS offMS <;> rfl

/-- **A call does what is asked for** unless the LED blinks at another rate. -/
theorem blink_eq_asked {d : DrivenLed} (h : d.Tracked) (level onMS offMS : Int) :
    (d.blink level onMS offMS).led.display = asked level onMS offMS ↔
      (nowStatus level onMS offMS = .blink → d.led.display.status = .blink →
        d.led.display = .blinking onMS offMS) := by
  rw [blink_display h]
  split
  · rename_i hsame
    unfold asked
    cases hnow : nowStatus level onMS offMS with
    | off =>
      rw [hnow] at hsame
      cases hd : d.led.display <;> simp_all [Display.status]
    | blink => simp [hsame, hnow]
    | noBlink =>
      rw [hnow] at hsame
      cases hd : d.led.display <;> simp_all [Display.status]
  · rename_i hdiff
    refine iff_of_true rfl ?_
    intro hnow hblink
    exact absurd (hblink.trans hnow.symm) hdiff

theorem blink_off {d : DrivenLed} (h : d.Tracked) :
    (d.blink 0 0 0).led.display = .off :=
  (blink_eq_asked h 0 0 0).mpr fun hnow => by cases hnow

end DrivenLed

end Sloane.LightsHal
