import Sloane.LightsHal.Leds
import Sloane.Lib.Run

/-!
# The notification LED

Model of `set_light_battery` and `set_light_notifications`, which share the three LEDs: the battery
has them if it is lit.  The trackball light and its file are left out, apart from the call that
`set_light_battery` makes when there is one.

* `shows_iff_atRate` — in any run the LEDs show what the effective source asks for after each call
  if and only if no call asks a lit battery's LED to blink while it blinks at another rate.
* `not_shows_newRate` — a battery that is lit keeps its first rate.
-/

namespace Sloane.LightsHal

open Sloane.Lib System

def LIGHT_FLASH_NONE : Int := 0
def LIGHT_FLASH_TIMED : Int := 1

/-- `light_state_t`, less what is not read. -/
structure LightState where
  color : UInt32
  flashMode : Int
  flashOnMS : Int
  flashOffMS : Int
  deriving DecidableEq, Repr

inductive Color where
  | red
  | green
  | blue
  deriving DecidableEq, Repr

structure Lights where
  haveTrackballLight : Bool
  notification : LightState
  battery : LightState
  red : DrivenLed
  green : DrivenLed
  blue : DrivenLed
  deriving DecidableEq, Repr

inductive LightCall where
  | setLightBattery (state : LightState)
  | setLightNotifications (state : LightState)
  deriving DecidableEq, Repr

def isLit (state : LightState) : Bool := state.color &&& 0x00ffffff ≠ 0

/-- `onMS` and `offMS`. -/
def flashTimes (state : LightState) : Int × Int :=
  if state.flashMode = LIGHT_FLASH_TIMED then (state.flashOnMS, state.flashOffMS) else (0, 0)

/-- `red`, `green` and `blue`; without alpha they are all off. -/
def channels (state : LightState) : UInt32 × UInt32 × UInt32 :=
  if (state.color >>> 24) &&& 0xFF ≠ 0 then
    ((state.color >>> 16) &&& 0xFF, (state.color >>> 8) &&& 0xFF, state.color &&& 0xFF)
  else (0, 0, 0)

namespace Lights

def blinkRed (s : Lights) (level onMS offMS : Int) : Lights :=
  { s with red := s.red.blink level onMS offMS }

def blinkGreen (s : Lights) (level onMS offMS : Int) : Lights :=
  { s with green := s.green.blink level onMS offMS }

def blinkBlue (s : Lights) (level onMS offMS : Int) : Lights :=
  { s with blue := s.blue.blink level onMS offMS }

def setSpeakerLightLocked (s : Lights) (state : LightState) : Lights :=
  let (onMS, offMS) := flashTimes state
  let (red, green, blue) := channels state
  if red ≠ 0 then ((s.blinkGreen 0 0 0).blinkBlue 0 0 0).blinkRed red.toNat onMS offMS
  else if green ≠ 0 then ((s.blinkRed 0 0 0).blinkBlue 0 0 0).blinkGreen green.toNat onMS offMS
  else if blue ≠ 0 then ((s.blinkRed 0 0 0).blinkGreen 0 0 0).blinkBlue blue.toNat onMS offMS
  else ((s.blinkRed 0 0 0).blinkGreen 0 0 0).blinkBlue 0 0 0

/-- A battery that is not lit turns the LEDs off before the notification has them. -/
def handleSpeakerBatteryLocked (s : Lights) : Lights :=
  if isLit s.battery then s.setSpeakerLightLocked s.battery
  else (s.setSpeakerLightLocked s.battery).setSpeakerLightLocked s.notification

def setLightBattery (s : Lights) (state : LightState) : Lights :=
  let s := { s with battery := state }
  let s := if s.haveTrackballLight then s.setSpeakerLightLocked state else s
  s.handleSpeakerBatteryLocked

def setLightNotifications (s : Lights) (state : LightState) : Lights :=
  handleSpeakerBatteryLocked { s with notification := state }

def next (s : Lights) : LightCall → Lights
  | .setLightBattery state => s.setLightBattery state
  | .setLightNotifications state => s.setLightNotifications state

/-- The static variables before the first call. -/
def start (haveTrackballLight : Bool) : Lights :=
  ⟨haveTrackballLight, ⟨0, 0, 0, 0⟩, ⟨0, 0, 0, 0⟩, .start, .start, .start⟩

def led (s : Lights) : Color → DrivenLed
  | .red => s.red
  | .green => s.green
  | .blue => s.blue

end Lights

def lights (haveTrackballLight : Bool) : System Lights LightCall :=
  ofStep (.start haveTrackballLight) fun s a => some (s.next a)

/-! ## What is asked for -/

/-- The channel that a state asks for, if any. -/
def chosen (state : LightState) : Option Color :=
  if (state.color >>> 24) &&& 0xFF = 0 then none
  else if (state.color >>> 16) &&& 0xFF ≠ 0 then some .red
  else if (state.color >>> 8) &&& 0xFF ≠ 0 then some .green
  else if state.color &&& 0xFF ≠ 0 then some .blue
  else none

/-- How the channel is lit. -/
def manner (state : LightState) : Display :=
  if state.flashMode = LIGHT_FLASH_TIMED ∧ state.flashOnMS ≠ 0 ∧ state.flashOffMS ≠ 0 then
    .blinking state.flashOnMS state.flashOffMS
  else .steady

/-- What a state asks of an LED. -/
def requested (state : LightState) (c : Color) : Display :=
  if chosen state = some c then manner state else .off

namespace Lights

/-- The battery if it is lit, the notification otherwise. -/
def effective (s : Lights) : LightState := if isLit s.battery then s.battery else s.notification

/-- At most one LED is not off. -/
def AtMostOne (s : Lights) : Prop :=
  ∀ c c', (s.led c).led.display ≠ .off → (s.led c').led.display ≠ .off → c = c'

/-- The LEDs show what the effective source asks for. -/
def Shows (s : Lights) : Prop := ∀ c, (s.led c).led.display = requested s.effective c

/-- No LED that is to blink is blinking at another rate. -/
def AtRate (s : Lights) (state : LightState) : Prop :=
  ∀ c, (requested state c).status = .blink → (s.led c).led.display.status = .blink →
    (s.led c).led.display = requested state c

end Lights

def LightCall.battery (s : Lights) : LightCall → LightState
  | .setLightBattery state => state
  | .setLightNotifications _ => s.battery

/-- The condition: if the battery is lit after the call, the LED it is to blink is not blinking at
another rate. -/
def BatteryAtRate (s : Lights) (a : LightCall) : Prop :=
  isLit (a.battery s) = true → s.AtRate (a.battery s)

/-! ## One state on the LEDs -/

/-- The level of a channel. -/
def level (state : LightState) : Color → UInt32
  | .red => (channels state).1
  | .green => (channels state).2.1
  | .blue => (channels state).2.2

theorem level_chosen {state : LightState} {c : Color} (h : chosen state = some c) :
    level state c ≠ 0 := by
  unfold chosen at h
  split at h
  · cases h
  · rename_i halpha
    unfold level channels
    rw [if_pos halpha]
    split at h
    · rename_i hred
      obtain rfl := Option.some.inj h
      exact hred
    · split at h
      · rename_i hgreen
        obtain rfl := Option.some.inj h
        exact hgreen
      · split at h
        · rename_i hblue
          obtain rfl := Option.some.inj h
          exact hblue
        · cases h

theorem chosen_of_not_lit {state : LightState} (h : isLit state = false) : chosen state = none := by
  have hcolor : state.color &&& 0x00ffffff = 0 := by simpa [isLit] using h
  have hmod : state.color.toNat % 2 ^ 24 = 0 := by
    have := congrArg UInt32.toNat hcolor
    rw [UInt32.toNat_and] at this
    exact (Nat.and_two_pow_sub_one_eq_mod _ 24).symm.trans this
  have hbyte : ∀ n, n = 0 ∨ n = 8 ∨ n = 16 → state.color.toNat >>> n &&& 255 = 0 := by
    intro n hn
    rw [Nat.shiftRight_eq_div_pow, show (255 : Nat) = 2 ^ 8 - 1 from rfl,
      Nat.and_two_pow_sub_one_eq_mod]
    rcases hn with rfl | rfl | rfl <;> omega
  have hred : (state.color >>> 16) &&& 0xFF = 0 := by
    apply UInt32.toNat_inj.mp
    rw [UInt32.toNat_and, UInt32.toNat_shiftRight]
    exact hbyte 16 (by omega)
  have hgreen : (state.color >>> 8) &&& 0xFF = 0 := by
    apply UInt32.toNat_inj.mp
    rw [UInt32.toNat_and, UInt32.toNat_shiftRight]
    exact hbyte 8 (by omega)
  have hblue : state.color &&& 0xFF = 0 := by
    apply UInt32.toNat_inj.mp
    rw [UInt32.toNat_and]
    exact hbyte 0 (by omega)
  simp [chosen, hred, hgreen, hblue]

/-- **What one state does to an LED.** -/
theorem setSpeakerLightLocked_led (s : Lights) (state : LightState) (c : Color) :
    (s.setSpeakerLightLocked state).led c =
      if chosen state = some c then
        (s.led c).blink (level state c).toNat (flashTimes state).1 (flashTimes state).2
      else (s.led c).blink 0 0 0 := by
  unfold Lights.setSpeakerLightLocked level chosen
  by_cases halpha : (state.color >>> 24) &&& 0xFF = 0
  · have hnone : channels state = (0, 0, 0) := if_neg (not_not.mpr halpha)
    rw [hnone, if_pos halpha]
    cases c <;> rfl
  · have hchannels : channels state = ((state.color >>> 16) &&& 0xFF,
        (state.color >>> 8) &&& 0xFF, state.color &&& 0xFF) := if_pos halpha
    rw [hchannels, if_neg halpha]
    dsimp only
    by_cases hred : (state.color >>> 16) &&& 0xFF = 0
    · by_cases hgreen : (state.color >>> 8) &&& 0xFF = 0
      · by_cases hblue : state.color &&& 0xFF = 0
        · simp only [hred, hgreen, hblue, ne_eq, not_true, if_false]
          cases c <;> rfl
        · simp only [hred, hgreen, hblue, ne_eq, not_true, not_false_iff, if_true, if_false]
          cases c <;> rfl
      · simp only [hred, hgreen, ne_eq, not_true, not_false_iff, if_true, if_false]
        cases c <;> rfl
    · simp only [hred, ne_eq, not_false_iff, if_true]
      cases c <;> rfl

theorem asked_level {state : LightState} {c : Color} (h : chosen state = some c) :
    asked (level state c).toNat (flashTimes state).1 (flashTimes state).2 = manner state := by
  have hlevel : ((level state c).toNat : Int) ≠ 0 := by
    intro hzero
    exact level_chosen h (UInt32.toNat_inj.mp (by simpa using hzero))
  unfold asked nowStatus manner flashTimes
  rw [if_neg hlevel]
  by_cases hmode : state.flashMode = LIGHT_FLASH_TIMED
  · by_cases htimes : state.flashOnMS ≠ 0 ∧ state.flashOffMS ≠ 0
    · simp [hmode, htimes]
    · simp [hmode, htimes]
  · simp [hmode]

/-- Every `preStatus` is about what its LED shows. -/
def Lights.Tracked (s : Lights) : Prop := ∀ c, (s.led c).Tracked

/-- The static variables that the LEDs are not among. -/
theorem setSpeakerLightLocked_keeps (s : Lights) (state : LightState) :
    (s.setSpeakerLightLocked state).battery = s.battery ∧
    (s.setSpeakerLightLocked state).notification = s.notification := by
  unfold Lights.setSpeakerLightLocked
  dsimp only
  split
  · exact ⟨rfl, rfl⟩
  · split
    · exact ⟨rfl, rfl⟩
    · split <;> exact ⟨rfl, rfl⟩

theorem setSpeakerLightLocked_tracked {s : Lights} (h : s.Tracked) (state : LightState) :
    (s.setSpeakerLightLocked state).Tracked := by
  intro c
  rw [setSpeakerLightLocked_led]
  split
  · exact DrivenLed.blink_tracked (h c) _ _ _
  · exact DrivenLed.blink_tracked (h c) _ _ _

/-- An LED that the state does not ask for is off. -/
theorem setSpeakerLightLocked_off {s : Lights} (h : s.Tracked) {state : LightState} {c : Color}
    (hc : chosen state ≠ some c) :
    ((s.setSpeakerLightLocked state).led c).led.display = .off := by
  rw [setSpeakerLightLocked_led, if_neg hc]
  exact DrivenLed.blink_off (h c)

theorem setSpeakerLightLocked_atMostOne {s : Lights} (h : s.Tracked) (state : LightState) :
    (s.setSpeakerLightLocked state).AtMostOne := by
  intro c c' hc hc'
  have hchosen : chosen state = some c := by
    by_contra hne
    exact hc (setSpeakerLightLocked_off h hne)
  have hchosen' : chosen state = some c' := by
    by_contra hne
    exact hc' (setSpeakerLightLocked_off h hne)
  exact Option.some.inj (hchosen.symm.trans hchosen')

/-- **The LEDs are as asked for** unless one keeps another rate. -/
theorem setSpeakerLightLocked_shows {s : Lights} (h : s.Tracked) (state : LightState) :
    (∀ c, ((s.setSpeakerLightLocked state).led c).led.display = requested state c) ↔
      s.AtRate state := by
  unfold Lights.AtRate
  refine forall_congr' fun c => ?_
  rw [setSpeakerLightLocked_led]
  by_cases hc : chosen state = some c
  · rw [if_pos hc, requested, if_pos hc, ← asked_level hc, DrivenLed.blink_eq_asked (h c),
      asked_status]
    refine forall_congr' fun hnow => ?_
    rw [asked, hnow]
  · rw [if_neg hc, requested, if_neg hc, DrivenLed.blink_off (h c)]
    simp [Display.status]

theorem blink_blink (d : DrivenLed) (level onMS offMS : Int) :
    (d.blink level onMS offMS).blink level onMS offMS = d.blink level onMS offMS := by
  have hstatus : (d.blink level onMS offMS).preStatus = nowStatus level onMS offMS := by
    unfold DrivenLed.blink
    split
    · assumption
    · cases nowStatus level onMS offMS <;> rfl
  generalize d.blink level onMS offMS = d' at hstatus
  exact if_pos hstatus

/-- The second of two equal calls changes nothing. -/
theorem setSpeakerLightLocked_twice (s : Lights) (state : LightState) (c : Color) :
    ((s.setSpeakerLightLocked state).setSpeakerLightLocked state).led c =
      (s.setSpeakerLightLocked state).led c := by
  simp only [setSpeakerLightLocked_led]
  split <;> exact blink_blink _ _ _ _

/-! ## Calls -/

theorem handleSpeakerBatteryLocked_tracked {s : Lights} (h : s.Tracked) :
    s.handleSpeakerBatteryLocked.Tracked ∧ s.handleSpeakerBatteryLocked.AtMostOne := by
  unfold Lights.handleSpeakerBatteryLocked
  split
  · exact ⟨setSpeakerLightLocked_tracked h _, setSpeakerLightLocked_atMostOne h _⟩
  · have hfirst := setSpeakerLightLocked_tracked h s.battery
    exact ⟨setSpeakerLightLocked_tracked hfirst _, setSpeakerLightLocked_atMostOne hfirst _⟩

theorem handleSpeakerBatteryLocked_keeps (s : Lights) :
    s.handleSpeakerBatteryLocked.effective = s.effective := by
  have hfirst := setSpeakerLightLocked_keeps s s.battery
  have hsecond := setSpeakerLightLocked_keeps (s.setSpeakerLightLocked s.battery) s.notification
  unfold Lights.handleSpeakerBatteryLocked Lights.effective
  split
  · rename_i hlit
    rw [hfirst.1]
    simp [hlit]
  · rename_i hlit
    rw [hsecond.1, hsecond.2, hfirst.1, hfirst.2]
    simp [hlit]

/-- The call for a trackball light changes nothing that the shared part does not change too. -/
theorem handleSpeakerBatteryLocked_after (s : Lights) (c : Color) :
    (s.setSpeakerLightLocked s.battery).handleSpeakerBatteryLocked.led c =
      s.handleSpeakerBatteryLocked.led c := by
  obtain ⟨hbattery, hnotification⟩ := setSpeakerLightLocked_keeps s s.battery
  unfold Lights.handleSpeakerBatteryLocked
  rw [hbattery, hnotification]
  split
  · exact setSpeakerLightLocked_twice s s.battery c
  · rw [setSpeakerLightLocked_led, setSpeakerLightLocked_twice, ← setSpeakerLightLocked_led]

/-- **The shared part of the calls**: a battery that is not lit makes room for the notification. -/
theorem handleSpeakerBatteryLocked_shows {s : Lights} (h : s.Tracked) :
    s.handleSpeakerBatteryLocked.Shows ↔ (isLit s.battery = true → s.AtRate s.battery) := by
  unfold Lights.Shows
  rw [handleSpeakerBatteryLocked_keeps]
  unfold Lights.handleSpeakerBatteryLocked Lights.effective
  by_cases hlit : isLit s.battery = true
  · simp only [hlit, if_true, forall_const]
    exact setSpeakerLightLocked_shows h s.battery
  · simp only [hlit, if_false, Bool.false_eq_true]
    have hnone := chosen_of_not_lit (Bool.not_eq_true _ ▸ hlit)
    refine iff_of_true ?_ fun hfalse => hfalse.elim
    apply (setSpeakerLightLocked_shows (setSpeakerLightLocked_tracked h _) s.notification).mpr
    -- the LEDs have been turned off in between
    intro c _ hblink
    rw [setSpeakerLightLocked_off h (by simp [hnone])] at hblink
    cases hblink

theorem next_tracked {s : Lights} (h : s.Tracked) (a : LightCall) :
    (s.next a).Tracked ∧ (s.next a).AtMostOne := by
  cases a with
  | setLightBattery state =>
    apply handleSpeakerBatteryLocked_tracked
    split
    · exact setSpeakerLightLocked_tracked (s := { s with battery := state }) h state
    · exact h
  | setLightNotifications state =>
    exact handleSpeakerBatteryLocked_tracked (s := { s with notification := state }) h

/-- **A call** leaves the LEDs as asked for if and only if no lit battery's LED keeps a rate. -/
theorem next_shows {s : Lights} (h : s.Tracked) (a : LightCall) :
    (s.next a).Shows ↔ BatteryAtRate s a := by
  cases a with
  | setLightNotifications state =>
    exact handleSpeakerBatteryLocked_shows (s := { s with notification := state }) h
  | setLightBattery state =>
    have hplain := handleSpeakerBatteryLocked_shows (s := { s with battery := state }) h
    simp only [Lights.next, Lights.setLightBattery]
    split
    · refine Iff.trans ?_ hplain
      unfold Lights.Shows
      rw [handleSpeakerBatteryLocked_keeps, handleSpeakerBatteryLocked_keeps]
      have heffective : ({ s with battery := state } : Lights).effective =
          (({ s with battery := state } : Lights).setSpeakerLightLocked state).effective := by
        obtain ⟨hbattery, hnotification⟩ :=
          setSpeakerLightLocked_keeps { s with battery := state } state
        unfold Lights.effective
        rw [hbattery, hnotification]
      rw [← heffective]
      refine forall_congr' fun c => ?_
      rw [handleSpeakerBatteryLocked_after { s with battery := state } c]
    · exact hplain

/-! ## Runs -/

theorem Lights.Tracked.start (haveTrackballLight : Bool) :
    (Lights.start haveTrackballLight).Tracked := by
  intro c
  cases c <;> rfl

/-- **The notification LED**: at most one LED is not off after a call, and the LEDs show what the
effective source asks for if and only if no lit battery's LED blinks at another rate. -/
theorem shows_iff_atRate {haveTrackballLight : Bool} {tr : List (Transition Lights LightCall)}
    {s : Lights} (h : (lights haveTrackballLight).Run tr s) :
    (∀ x ∈ tr, x.post.AtMostOne) ∧
      ((∀ x ∈ tr, x.post.Shows) ↔ ∀ x ∈ tr, BatteryAtRate x.pre x.act) := by
  have hstart : ∀ s, (lights haveTrackballLight).init s → s.Tracked := by
    rintro _ rfl
    exact .start haveTrackballLight
  have hstep : ∀ s a t, s.Tracked → (lights haveTrackballLight).step s a t →
      t.Tracked ∧ t.AtMostOne ∧ (t.Shows ↔ BatteryAtRate s a) := by
    intro s a t hs ht
    obtain rfl := Option.some.inj ht
    obtain ⟨htracked, hone⟩ := next_tracked hs a
    exact ⟨htracked, hone, next_shows hs a⟩
  constructor
  · intro x hx
    obtain ⟨hreach, hx⟩ := h.transition x hx
    have hs : x.pre.Tracked := hreach.invariant hstart fun s a t _ hs ht => (hstep s a t hs ht).1
    exact (hstep _ _ _ hs hx).2.1
  · refine h.all_iff_all Lights.Tracked BatteryAtRate hstart ?_ ?_
    · intro s a t hs ht
      exact (hstep s a t hs ht).2.2
    · intro s a t hs ht _
      exact (hstep s a t hs ht).1

instance (s : Lights) (state : LightState) : Decidable (s.AtRate state) :=
  decidable_of_iff (∀ c ∈ [Color.red, .green, .blue], (requested state c).status = .blink →
      (s.led c).led.display.status = .blink → (s.led c).led.display = requested state c) <| by
    constructor
    · intro h c
      exact h c (by cases c <;> decide)
    · intro h c _
      exact h c

instance (s : Lights) (a : LightCall) : Decidable (BatteryAtRate s a) :=
  inferInstanceAs (Decidable (_ → _))

instance (s : Lights) : Decidable s.Shows :=
  decidable_of_iff (∀ c ∈ [Color.red, .green, .blue],
      (s.led c).led.display = requested s.effective c) <| by
    constructor
    · intro h c
      exact h c (by cases c <;> decide)
    · intro h c _
      exact h c

/-- A colour, blinking at a rate. -/
def blinkingLight (color : UInt32) (onMS offMS : Int) : LightState :=
  ⟨color, LIGHT_FLASH_TIMED, onMS, offMS⟩

/-- A notification blinks in blue, the battery in red and then steadily, and is off again. -/
def notificationAndBattery : List LightCall :=
  [.setLightNotifications (blinkingLight 0xFF0000FF 300 1000),
    .setLightBattery (blinkingLight 0xFFFF0000 500 500),
    .setLightBattery ⟨0xFFFF0000, LIGHT_FLASH_NONE, 0, 0⟩,
    .setLightBattery ⟨0, LIGHT_FLASH_NONE, 0, 0⟩]

theorem shows_notificationAndBattery :
    ∃ tr s, (lights false).Run tr s ∧ tr.map Transition.act = notificationAndBattery ∧
      s.blue.led.display = .blinking 300 1000 ∧ ∀ x ∈ tr, x.post.Shows := by
  have he : (execute (fun s a => some (Lights.next s a)) (.start false)
      notificationAndBattery).map (fun r => decide (
        r.1.map Transition.act = notificationAndBattery ∧
        r.2.blue.led.display = .blinking 300 1000 ∧
        ∀ x ∈ r.1, BatteryAtRate x.pre x.act)) = some true := by decide
  obtain ⟨⟨tr, s⟩, hrun, heq⟩ := Option.map_eq_some_iff.mp he
  obtain ⟨hacts, hblue, hrate⟩ := of_decide_eq_true heq
  exact ⟨tr, s, run_of_execute hrun, hacts, hblue,
    (shows_iff_atRate (run_of_execute hrun)).2.mpr hrate⟩

/-- The battery is to blink slowly, and then fast. -/
def newRate : List LightCall :=
  [.setLightBattery (blinkingLight 0xFFFF0000 1000 1000),
    .setLightBattery (blinkingLight 0xFFFF0000 100 100)]

/-- The LED keeps blinking slowly. -/
theorem not_shows_newRate :
    ¬ ∀ tr s, (lights false).Run tr s → ∀ x ∈ tr, x.post.Shows := by
  intro hall
  have he : (execute (fun s a => some (Lights.next s a)) (.start false) newRate).map
      (fun r => decide (∀ x ∈ r.1, x.post.Shows)) = some false := by decide
  obtain ⟨⟨tr, s⟩, hrun, hnot⟩ := Option.map_eq_some_iff.mp he
  exact of_decide_eq_false hnot (hall tr s (run_of_execute hrun))

end Sloane.LightsHal
