import Sloane.Btremoted.MainBuf
import Sloane.Lib.Run

/-!
# The voice stream between two calls of `clear_main_buf`

Any order of calls of `write_to_main_buf` and `write_to_client`, right after `clear_main_buf`.

* `stream_holds` — in every run the buffer holds what the history of the run says.
* `stream_intact` — what the client's socket took is a prefix of the copied chunks less the first
  `ntrim` bytes, and all of it once the buffer has drained; no call leaves `main_buf`.
-/

namespace Sloane.Btremoted

open Sloane.Lib System

variable {C : Codec}

inductive VoiceCall where
  | writeToMainBuf (buf : Mem UInt8) (len : Nat) (good : Bool)
  | writeToClient (clientFd : Int) (r : SendResult)

namespace VoiceCall

def perform (cfg : Config) (v : Voice C) : VoiceCall → Voice C × List VoiceEvent
  | .writeToMainBuf buf len good =>
      let (v, _, e) := Btremoted.writeToMainBuf cfg v buf len good
      (v, [e])
  | .writeToClient clientFd r => (Btremoted.writeToClient v clientFd r).2

/-- `tail + len` is not beyond an `unsigned int`; the callers' buffer has `DECODE_BUF_SIZE`
bytes. -/
def LenOk : VoiceCall → Prop
  | .writeToMainBuf _ len _ => len + BUFFER_SIZE < 2 ^ 32
  | .writeToClient _ _ => True

/-- The part of `main_buf` that the call hands to `memcpy` or `send`: where it begins and where it
ends. -/
def range (v : Voice C) : VoiceCall → Option (Nat × Nat)
  | .writeToMainBuf _ len _ =>
      if (v.mainBuf.tail + len) % 2 ^ 32 ≤ BUFFER_SIZE then
        some (v.mainBuf.tail, v.mainBuf.tail + len)
      else none
  | .writeToClient clientFd _ =>
      if clientFd < 0 ∨ v.mainBuf.tail < v.mainBuf.head then none
      else some (v.mainBuf.head, v.mainBuf.tail)

/-- **A call keeps the history.** -/
theorem perform_holds {trim : Nat} {es : List VoiceEvent} {v : Voice C}
    (h : Holds trim es v.mainBuf) (cfg : Config) {c : VoiceCall} (hc : c.LenOk) :
    Holds trim (es ++ (c.perform cfg v).2) (c.perform cfg v).1.mainBuf := by
  cases c with
  | writeToMainBuf buf len good => exact h.write cfg buf hc good
  | writeToClient clientFd r => exact h.send clientFd r

theorem range_inside {v : Voice C} (hv : v.mainBuf.tail ≤ BUFFER_SIZE) {c : VoiceCall}
    (hc : c.LenOk) {lo hi : Nat} (h : c.range v = some (lo, hi)) : lo ≤ hi ∧ hi ≤ BUFFER_SIZE := by
  cases c with
  | writeToMainBuf buf len good =>
    have hlen : len + BUFFER_SIZE < 2 ^ 32 := hc
    simp only [range] at h
    split at h
    · rename_i hfit
      rw [Nat.mod_eq_of_lt (by omega)] at hfit
      obtain ⟨rfl, rfl⟩ := Prod.mk.inj (Option.some.inj h)
      exact ⟨Nat.le_add_right _ _, hfit⟩
    · cases h
  | writeToClient clientFd r =>
    simp only [range] at h
    split at h
    · cases h
    · rename_i hsend
      obtain ⟨rfl, rfl⟩ := Prod.mk.inj (Option.some.inj h)
      exact ⟨by omega, hv⟩

end VoiceCall

def stream (C : Codec) (cfg : Config) : System (Voice C) VoiceCall where
  init v := ∃ v₀, v = clearMainBuf cfg v₀
  step v c v' := c.LenOk ∧ v' = (c.perform cfg v).1

theorem stream_perform {cfg : Config} {tr : List (Transition (Voice C) VoiceCall)} {v : Voice C}
    (h : (stream C cfg).Run tr v) {c : VoiceCall} (hc : c.LenOk) :
    (stream C cfg).Run (tr ++ [⟨v, c, (c.perform cfg v).1⟩]) (c.perform cfg v).1 :=
  h.step ⟨hc, rfl⟩

/-- The history of a run. -/
def streamEvents (cfg : Config) (tr : List (Transition (Voice C) VoiceCall)) :
    List VoiceEvent :=
  tr.flatMap fun x => (x.act.perform cfg x.pre).2

/-- **The buffer holds what the history says.** -/
theorem stream_holds {cfg : Config} {tr : List (Transition (Voice C) VoiceCall)}
    {v : Voice C} (h : (stream C cfg).Run tr v) :
    Holds cfg.trim (streamEvents cfg tr) v.mainBuf := by
  induction h with
  | start hi =>
    obtain ⟨v₀, rfl⟩ := hi
    exact .start cfg v₀
  | @step tr v c v' _ hs ih =>
    obtain ⟨hlen, rfl⟩ := hs
    have hstep := VoiceCall.perform_holds ih cfg hlen
    simpa only [streamEvents, List.flatMap_append, List.flatMap_singleton] using hstep

/-- No call of a run leaves `main_buf`. -/
theorem stream_inside {cfg : Config} {tr : List (Transition (Voice C) VoiceCall)}
    {v : Voice C} (h : (stream C cfg).Run tr v) :
    ∀ x ∈ tr, ∀ lo hi, x.act.range x.pre = some (lo, hi) → lo ≤ hi ∧ hi ≤ BUFFER_SIZE := by
  intro x hx lo hi hrange
  obtain ⟨hreach, hlen, -⟩ := h.transition x hx
  obtain ⟨tr', hrun⟩ := hreach.exists_run
  exact VoiceCall.range_inside (stream_holds hrun).tail_le hlen hrange

theorem Config.trim_eq {cfg : Config} (hdec : cfg.decodeEnabled = true) (htrim : 0 ≤ cfg.ntrim) :
    cfg.trim = cfg.ntrim.toNat := by
  have hrange := cfg.ntrim_range
  unfold Config.trim
  rw [if_pos hdec, Int.emod_eq_of_lt htrim (by omega)]

/-- **The voice stream arrives intact**: after `clear_main_buf`, whatever the order of the calls,
the bytes that the client's socket took are a prefix of the copied chunks less the first `ntrim`
bytes, they are all of them when both indices are 0, and no call leaves `main_buf`. -/
theorem stream_intact {cfg : Config} (hdec : cfg.decodeEnabled = true) (htrim : 0 ≤ cfg.ntrim)
    {tr : List (Transition (Voice C) VoiceCall)} {v : Voice C}
    (h : (stream C cfg).Run tr v) :
    sent (streamEvents cfg tr) <+: (copied (streamEvents cfg tr)).drop cfg.ntrim.toNat ∧
    (v.mainBuf.head = 0 → v.mainBuf.tail = 0 →
      sent (streamEvents cfg tr) = (copied (streamEvents cfg tr)).drop cfg.ntrim.toNat) ∧
    ∀ x ∈ tr, ∀ lo hi, x.act.range x.pre = some (lo, hi) → lo ≤ hi ∧ hi ≤ BUFFER_SIZE := by
  obtain ⟨base, htr⟩ := (stream_holds h).tracks
  rw [cfg.trim_eq hdec htrim] at htr
  exact ⟨htr.sent_prefix, htr.drained, stream_inside h⟩

/-! ## An instance -/

/-- Decoding without concealment, and a trim of two bytes. -/
def trimTwo : Config where
  decodeEnabled := true
  plcEnabled := false
  ntrim := 2
  ntrim_range := by decide

def writeSix : VoiceCall := .writeToMainBuf (Mem.ofList [1, 2, 3, 4, 5, 6] 0) 6 true

def sendThree : VoiceCall := .writeToClient 7 (.accepted 3)

/-- Six bytes are written and three of the four that remain are sent. -/
theorem stream_intact_sixBytes :
    ∃ tr v, (stream silentCodec trimTwo).Run tr v ∧ sent (streamEvents trimTwo tr) = [4, 3, 6] ∧
      sent (streamEvents trimTwo tr) <+: (copied (streamEvents trimTwo tr)).drop 2 := by
  have h₀ : (stream silentCodec trimTwo).Run [] (clearMainBuf trimTwo silentVoice) :=
    .start ⟨silentVoice, rfl⟩
  have h₁ := stream_perform h₀ (c := writeSix) (by show 6 + BUFFER_SIZE < 2 ^ 32; decide)
  have h₂ := stream_perform h₁ (c := sendThree) trivial
  exact ⟨_, _, h₂, by decide, (stream_intact rfl (by decide) h₂).1⟩

end Sloane.Btremoted
