import Mathlib.Algebra.Group.Int.Defs
import Mathlib.Algebra.Group.Nat.Defs
import Sloane.Lib.StreamBuffer

/-!
# The main buffer of btremoted

Model of the part of `btremoted/btremoted.c` that fills `main_buf` and sends it to the client.
The SBC decoder and the packet-loss concealment (`msbc.c`, `sbcplc.c`) are a parameter, `Codec`.

A sample (`short`) is its bit pattern.  Functions return, besides the state, the `VoiceEvent`s
that they cause.
-/

namespace Sloane.Btremoted

open Sloane.Lib

def BUFFER_SIZE : Nat := 320000
def DECODE_BUF_SIZE : Nat := 256

/-- The settings read from the system properties. -/
structure Config where
  decodeEnabled : Bool
  plcEnabled : Bool
  ntrim : Int
  /-- `ntrim` is an `int`. -/
  ntrim_range : -2 ^ 31 ≤ ntrim ∧ ntrim < 2 ^ 31

/-- No trim is in the range. -/
theorem zero_ntrim_range : -2 ^ 31 ≤ (0 : Int) ∧ (0 : Int) < 2 ^ 31 := by decide

/-- What a call of `sbc_decode` leaves: its return value and the bytes it wrote. -/
structure DecodeResult where
  framelen : Int
  out : List UInt8
  out_le : out.length ≤ DECODE_BUF_SIZE
  out_failed : framelen ≤ 0 → out = []

/-- A frame of 240 zero bytes. -/
def silence : DecodeResult where
  framelen := 57
  out := .replicate 240 0
  out_le := by rw [List.length_replicate]; decide
  out_failed := by intro h; exact absurd h (by decide)

/-- The decoder and the concealment, which keep a state each. -/
structure Codec where
  Plc : Type
  Sbc : Type
  initPLC : Plc → Plc
  /-- From the state, `plc_in` and `plc_out`. -/
  plcGoodFrame : Plc → Mem UInt16 → Mem UInt16 → Plc × Mem UInt16
  plcBadFrame : Plc → Mem UInt16 → Mem UInt16 → Plc × Mem UInt16
  sbcDecode : Sbc → List UInt8 → Sbc × DecodeResult

inductive Status where
  | success
  | clientFailed
  | scoClosed
  | scoFailed
  | scoNoData
  | scoDataFailed
  deriving DecidableEq, Repr

/-- What happens to the voice data. -/
inductive VoiceEvent where
  /-- a chunk was copied into `main_buf` -/
  | copied (bs : List UInt8)
  /-- a chunk did not fit and was left out -/
  | truncated
  /-- the client's socket took these bytes -/
  | sent (bs : List UInt8)
  /-- a new client was accepted -/
  | accepted
  deriving DecidableEq, Repr

/-- The static variables that the voice data passes through. -/
structure Voice (C : Codec) where
  /-- `main_buf`, `head` and `tail` -/
  mainBuf : StreamBuffer UInt8
  plcState : C.Plc
  plcIn : Mem UInt16
  plcOut : Mem UInt16
  sbc : C.Sbc
  lastSeqNum : Int

variable {C : Codec}

/-! ## Conversions -/

def ucharToShortArray (cbuf : Mem UInt8) (sbuf : Mem UInt16) (len : Nat) : Mem UInt16 := fun i =>
  if i < len / 2 then ((cbuf (2 * i + 1)).toUInt16 <<< 8) + (cbuf (2 * i)).toUInt16 else sbuf i

def shortToUcharArray (sbuf : Mem UInt16) (cbuf : Mem UInt8) (len : Nat) : Mem UInt8 := fun i =>
  if i < len / 2 * 2 then
    if i % 2 = 0 then (sbuf (i / 2)).toUInt8 else (sbuf (i / 2) >>> 8).toUInt8
  else cbuf i

/-- Swap the bytes of every pair that begins before `len`. -/
def beToLe (buf : Mem UInt8) (len : Nat) : Mem UInt8 := fun i =>
  if i / 2 * 2 < len then (if i % 2 = 0 then buf (i + 1) else buf (i - 1)) else buf i

/-! ## The buffer -/

/-- The bytes passed over at the start of a stream: `ntrim` as an `unsigned int`. -/
def Config.trim (cfg : Config) : Nat :=
  if cfg.decodeEnabled then (cfg.ntrim % 2 ^ 32).toNat else 0

def clearMainBuf (cfg : Config) (v : Voice C) : Voice C :=
  { v with mainBuf := v.mainBuf.clear cfg.trim }

/-- What `write_to_main_buf` does to the chunk before it copies it: the state of the concealment
and the chunk. -/
def convertChunk (cfg : Config) (v : Voice C) (buf : Mem UInt8) (len : Nat) (good : Bool) :
    Voice C × Mem UInt8 :=
  if cfg.decodeEnabled then
    let buf := beToLe buf len
    if cfg.plcEnabled then
      let plcIn := ucharToShortArray buf v.plcIn len
      let (plcState, plcOut) :=
        if good then C.plcGoodFrame v.plcState plcIn v.plcOut
        else C.plcBadFrame v.plcState plcIn v.plcOut
      ({ v with plcState := plcState, plcIn := plcIn, plcOut := plcOut },
        shortToUcharArray plcOut buf len)
    else (v, buf)
  else (v, buf)

/-- The third component is the event; the second is the chunk, converted in place. -/
def writeToMainBuf (cfg : Config) (v : Voice C) (buf : Mem UInt8) (len : Nat) (good : Bool) :
    Voice C × Mem UInt8 × VoiceEvent :=
  let (v, buf) := convertChunk cfg v buf len good
  if (v.mainBuf.tail + len) % 2 ^ 32 ≤ BUFFER_SIZE then
    ({ v with mainBuf := v.mainBuf.push (buf.read 0 len) }, buf, .copied (buf.read 0 len))
  else (v, buf, .truncated)

/-- The outcome of `send`: an error, or a count that is cut to the length requested. -/
inductive SendResult where
  | error
  | accepted (n : Nat)
  deriving DecidableEq, Repr

def writeToClient (v : Voice C) (clientFd : Int) (r : SendResult) :
    Status × Voice C × List VoiceEvent :=
  if clientFd < 0 then (.clientFailed, v, [])
  else if v.mainBuf.tail < v.mainBuf.head then (.success, v, [])
  else
    match r with
    | .error => (.clientFailed, v, [])
    | .accepted n =>
        let written := min n (v.mainBuf.tail - v.mainBuf.head)
        (.success, { v with mainBuf := v.mainBuf.pop written },
          [.sent (v.mainBuf.peek written)])

/-! ## What the functions do -/

theorem convertChunk_voice (cfg : Config) (v : Voice C) (buf : Mem UInt8) (len : Nat)
    (good : Bool) : ∃ plcState plcIn plcOut, (convertChunk cfg v buf len good).1 =
      { v with plcState := plcState, plcIn := plcIn, plcOut := plcOut } := by
  unfold convertChunk
  split
  · split
    · exact ⟨_, _, _, rfl⟩
    · exact ⟨v.plcState, v.plcIn, v.plcOut, rfl⟩
  · exact ⟨v.plcState, v.plcIn, v.plcOut, rfl⟩

/-- **What a write does**: the converted chunk goes in as a whole, or the buffer stays as it is. -/
theorem writeToMainBuf_cases (cfg : Config) {v : Voice C} (hv : v.mainBuf.tail ≤ BUFFER_SIZE)
    (buf : Mem UInt8) {len : Nat} (hlen : len + BUFFER_SIZE < 2 ^ 32) (good : Bool) :
    (∃ bs, bs.length = len ∧ v.mainBuf.tail + len ≤ BUFFER_SIZE ∧
      (writeToMainBuf cfg v buf len good).2.2 = .copied bs ∧
      (writeToMainBuf cfg v buf len good).1.mainBuf = v.mainBuf.push bs) ∨
    ((writeToMainBuf cfg v buf len good).2.2 = .truncated ∧
      (writeToMainBuf cfg v buf len good).1.mainBuf = v.mainBuf) := by
  obtain ⟨plcState, plcIn, plcOut, hconv⟩ := convertChunk_voice cfg v buf len good
  have hwrap : (v.mainBuf.tail + len) % 2 ^ 32 = v.mainBuf.tail + len :=
    Nat.mod_eq_of_lt (by omega)
  unfold writeToMainBuf
  simp only [hconv, hwrap]
  split
  · rename_i hfit
    exact .inl ⟨_, by simp, hfit, rfl, rfl⟩
  · exact .inr ⟨rfl, rfl⟩

theorem writeToMainBuf_event (cfg : Config) (v : Voice C) (buf : Mem UInt8) (len : Nat)
    (good : Bool) : (writeToMainBuf cfg v buf len good).2.2 = .truncated ∨
      ∃ bs, bs.length = len ∧ (writeToMainBuf cfg v buf len good).2.2 = .copied bs := by
  unfold writeToMainBuf
  dsimp only
  split
  · exact .inr ⟨_, by simp, rfl⟩
  · exact .inl rfl

theorem writeToMainBuf_other (cfg : Config) (v : Voice C) (buf : Mem UInt8) (len : Nat)
    (good : Bool) : (writeToMainBuf cfg v buf len good).1.sbc = v.sbc ∧
      (writeToMainBuf cfg v buf len good).1.lastSeqNum = v.lastSeqNum := by
  obtain ⟨plcState, plcIn, plcOut, hconv⟩ := convertChunk_voice cfg v buf len good
  unfold writeToMainBuf
  simp only [hconv]
  split <;> exact ⟨rfl, rfl⟩

/-- **What a send does**: nothing, or it takes some bytes from the head. -/
theorem writeToClient_cases (v : Voice C) (clientFd : Int) (r : SendResult) :
    ((writeToClient v clientFd r).2 = (v, [])) ∨
    ∃ n, v.mainBuf.head + n ≤ v.mainBuf.tail ∧
      (writeToClient v clientFd r).2 =
        ({ v with mainBuf := v.mainBuf.pop n }, [.sent (v.mainBuf.peek n)]) := by
  unfold writeToClient
  split
  · exact .inl rfl
  · split
    · exact .inl rfl
    · cases r with
      | error => exact .inl rfl
      | accepted n => exact .inr ⟨min n (v.mainBuf.tail - v.mainBuf.head), by omega, rfl⟩

/-! ## The history of a stream -/

/-- The bytes copied into the buffer. -/
def copied (es : List VoiceEvent) : List UInt8 :=
  es.flatMap fun
    | .copied bs => bs
    | .truncated | .sent _ | .accepted => []

/-- The bytes the client's socket took. -/
def sent (es : List VoiceEvent) : List UInt8 :=
  es.flatMap fun
    | .sent bs => bs
    | .copied _ | .truncated | .accepted => []

theorem copied_append (a b : List VoiceEvent) : copied (a ++ b) = copied a ++ copied b :=
  List.flatMap_append

theorem sent_append (a b : List VoiceEvent) : sent (a ++ b) = sent a ++ sent b :=
  List.flatMap_append

/-- The buffer is filled no further than it goes and holds what the history says. -/
structure Holds (trim : Nat) (es : List VoiceEvent) (b : StreamBuffer UInt8) : Prop where
  tail_le : b.tail ≤ BUFFER_SIZE
  tracks : ∃ base, b.Tracks trim base (copied es) (sent es)

theorem Holds.start (cfg : Config) (v : Voice C) :
    Holds cfg.trim [] (clearMainBuf cfg v).mainBuf :=
  ⟨Nat.zero_le _, 0, .start v.mainBuf cfg.trim⟩

/-- **A write keeps the history.** -/
theorem Holds.write {trim : Nat} {es : List VoiceEvent} {v : Voice C}
    (h : Holds trim es v.mainBuf) (cfg : Config) (buf : Mem UInt8) {len : Nat}
    (hlen : len + BUFFER_SIZE < 2 ^ 32) (good : Bool) :
    Holds trim (es ++ [(writeToMainBuf cfg v buf len good).2.2])
      (writeToMainBuf cfg v buf len good).1.mainBuf := by
  obtain ⟨base, htr⟩ := h.tracks
  rcases writeToMainBuf_cases cfg h.tail_le buf hlen good with
    ⟨bs, hbs, hfit, hev, hbuf⟩ | ⟨hev, hbuf⟩
  · rw [hev, hbuf]
    refine ⟨?_, base, ?_⟩
    · simpa [StreamBuffer.push, hbs] using hfit
    · simpa [copied_append, sent_append, copied, sent] using htr.push bs
  · rw [hev, hbuf]
    refine ⟨h.tail_le, base, ?_⟩
    simpa [copied_append, sent_append, copied, sent] using htr

/-- **A send keeps the history.** -/
theorem Holds.send {trim : Nat} {es : List VoiceEvent} {v : Voice C}
    (h : Holds trim es v.mainBuf) (clientFd : Int) (r : SendResult) :
    Holds trim (es ++ (writeToClient v clientFd r).2.2)
      (writeToClient v clientFd r).2.1.mainBuf := by
  obtain ⟨base, htr⟩ := h.tracks
  rcases writeToClient_cases v clientFd r with heq | ⟨n, hn, heq⟩
  · rw [heq, List.append_nil]
    exact h
  · rw [heq]
    refine ⟨?_, StreamBuffer.Tracks.popBase base v.mainBuf n, ?_⟩
    · have hle := h.tail_le
      simp only [StreamBuffer.pop]
      split
      · exact Nat.zero_le _
      · exact hle
    · simpa [copied_append, sent_append, copied, sent] using htr.pop hn

/-- Every buffer holds what some history says. -/
theorem Holds.self {b : StreamBuffer UInt8} (h : b.tail ≤ BUFFER_SIZE) :
    Holds b.head [.copied (b.mem.read 0 b.tail)] b where
  tail_le := h
  tracks := ⟨0, by simp [copied], by simp [copied], by simp [sent], by simp [sent]⟩

/-! ## Writes only -/

/-- The event of a call of `write_to_main_buf`. -/
def VoiceEvent.IsWrite : VoiceEvent → Prop
  | .copied _ | .truncated => True
  | .sent _ | .accepted => False

theorem sent_writes {es : List VoiceEvent} (h : ∀ e ∈ es, e.IsWrite) : sent es = [] := by
  apply List.flatMap_eq_nil_iff.mpr
  intro e he
  have hw := h e he
  cases e with
  | copied bs => rfl
  | truncated => rfl
  | sent bs => exact absurd hw id
  | accepted => exact absurd hw id

/-- From `b` to `b'` nothing happens but the writes `es`. -/
structure Appends (b : StreamBuffer UInt8) (es : List VoiceEvent) (b' : StreamBuffer UInt8) :
    Prop where
  writes : ∀ e ∈ es, e.IsWrite
  holds : ∀ {trim hs}, Holds trim hs b → Holds trim (hs ++ es) b'

namespace Appends

theorem refl (b : StreamBuffer UInt8) : Appends b [] b where
  writes := by simp
  holds h := by rwa [List.append_nil]

theorem trans {b b' b'' : StreamBuffer UInt8} {es es' : List VoiceEvent} (h : Appends b es b')
    (h' : Appends b' es' b'') : Appends b (es ++ es') b'' where
  writes := List.forall_mem_append.mpr ⟨h.writes, h'.writes⟩
  holds hs := by
    rw [← List.append_assoc]
    exact h'.holds (h.holds hs)

theorem write (cfg : Config) (v : Voice C) (buf : Mem UInt8) {len : Nat}
    (hlen : len + BUFFER_SIZE < 2 ^ 32) (good : Bool) :
    Appends v.mainBuf [(writeToMainBuf cfg v buf len good).2.2]
      (writeToMainBuf cfg v buf len good).1.mainBuf where
  writes := by
    rw [List.forall_mem_singleton]
    rcases writeToMainBuf_event cfg v buf len good with htrunc | ⟨bs, -, hev⟩
    · rw [htrunc]
      trivial
    · rw [hev]
      trivial
  holds h := h.write cfg buf hlen good

theorem tail_le {b b' : StreamBuffer UInt8} {es : List VoiceEvent} (h : Appends b es b')
    (hb : b.tail ≤ BUFFER_SIZE) : b'.tail ≤ BUFFER_SIZE :=
  (h.holds (Holds.self hb)).tail_le

end Appends

/-! ## An instance -/

/-- A decoder that accepts every frame as silence, and no concealment. -/
def silentCodec : Codec where
  Plc := Unit
  Sbc := Unit
  initPLC _ := ()
  plcGoodFrame _ plcIn _ := ((), plcIn)
  plcBadFrame _ _ plcOut := ((), plcOut)
  sbcDecode _ _ := ((), silence)

def silentVoice : Voice silentCodec where
  mainBuf := ⟨fun _ => 0, 0, 0⟩
  plcState := ()
  plcIn _ := 0
  plcOut _ := 0
  sbc := ()
  lastSeqNum := 0

end Sloane.Btremoted
