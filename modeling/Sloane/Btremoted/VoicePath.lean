import Sloane.Btremoted.PlcConceal
import Sloane.Btremoted.PlcTime
import Sloane.Btremoted.Sessions
import Sloane.Btremoted.SbcSynthesis

/-!
# The way of the voice

The daemon with its own decoder and its own concealment, over any order of packets and of sends to
the client.  Beside it stands what the client should hear: a frame for every sequence number,
through the plain filter and the concealment.

* `writeToMainBuf_plc` — a chunk of samples goes into the buffer as the concealment plays it.
* `Agree.decode` — one frame through the decoder.
* `Follows.write`, `Follows.packet` — what is kept over a frame and over a packet.
* `voicePath` — the client gets what it should hear.
-/

namespace Sloane.Btremoted

open Sloane.Lib Plc

/-! ## A chunk of samples -/

/-- A sample is its two bytes. -/
theorem join_split (s : UInt16) : ((s >>> 8).toUInt8.toUInt16 <<< 8) + s.toUInt8.toUInt16 = s := by
  have hs := s.toNat_lt
  apply UInt16.toNat_inj.mp
  simp only [UInt16.toNat_add, UInt16.toNat_shiftLeft, UInt8.toNat_toUInt16, UInt16.toNat_toUInt8,
    UInt16.toNat_shiftRight, Nat.shiftLeft_eq, Nat.shiftRight_eq_div_pow,
    show UInt16.toNat 8 % 16 = 8 from rfl]
  omega

/-- The samples of a chunk that was swapped. -/
theorem ucharToShortArray_littleEndian {buf : Mem UInt8} {samples : List UInt16} {off : Nat}
    (h : buf.read off (2 * samples.length) = littleEndian samples) {i : Nat}
    (hi : i < samples.length) :
    ((buf (off + 2 * i + 1)).toUInt16 <<< 8) + (buf (off + 2 * i)).toUInt16 = samples[i] := by
  induction samples generalizing off i with
  | nil => exact absurd hi (Nat.not_lt_zero i)
  | cons s samples ih =>
    rw [List.length_cons, read_pair] at h
    obtain ⟨hlo, htail⟩ := List.cons.inj h
    obtain ⟨hhi, hrest⟩ := List.cons.inj htail
    cases i with
    | zero =>
      show ((buf (off + 1)).toUInt16 <<< 8) + (buf off).toUInt16 = s
      rw [hhi, hlo]
      exact join_split s
    | succ i =>
      have hnext := ih hrest (Nat.lt_of_succ_lt_succ hi)
      rw [show off + 2 * (i + 1) = off + 2 + 2 * i by omega]
      exact hnext

/-- Bytes that hold samples. -/
theorem read_littleEndian {m : Mem UInt8} {sbuf : Mem UInt16} {off k n : Nat}
    (h : ∀ j < n, m (off + 2 * j) = (sbuf (k + j)).toUInt8 ∧
      m (off + 2 * j + 1) = (sbuf (k + j) >>> 8).toUInt8) :
    m.read off (2 * n) = littleEndian (sbuf.read k n) := by
  induction n generalizing off k with
  | zero => rfl
  | succ n ih =>
    obtain ⟨hlo, hhi⟩ := h 0 (Nat.succ_pos n)
    have hrest : m.read (off + 2) (2 * n) = littleEndian (sbuf.read (k + 1) n) := by
      apply ih
      intro j hj
      have hnext := h (j + 1) (Nat.succ_lt_succ hj)
      rwa [show off + 2 * (j + 1) = off + 2 + 2 * j by omega,
        show k + (j + 1) = k + 1 + j by omega] at hnext
    have hread : sbuf.read k (n + 1) = sbuf k :: sbuf.read (k + 1) n := by
      rw [Nat.add_comm, Mem.read_add]
      rfl
    rw [read_pair, hread, hrest]
    exact congrArg₂ (fun lo hi => lo :: hi :: littleEndian (sbuf.read (k + 1) n)) hlo hhi

theorem read_shortToUcharArray (sbuf : Mem UInt16) (cbuf : Mem UInt8) (n : Nat) :
    (shortToUcharArray sbuf cbuf (2 * n)).read 0 (2 * n) = littleEndian (sbuf.read 0 n) := by
  apply read_littleEndian
  intro j hj
  constructor
  · rw [shortToUcharArray, if_pos (by omega), if_pos (by omega)]
    congr 2
    omega
  · rw [shortToUcharArray, if_pos (by omega), if_neg (by omega)]
    congr 3
    omega

/-! ## A chunk through the concealment -/

/-- A frame of these samples. -/
def frameOf (good : Bool) (samples : Mem UInt16) : Frame :=
  if good then .good samples else .bad samples

variable {f : FloatOps}

/-- The output goes into the history and the history is shifted. -/
def afterGood (st : PlcState) (out : Mem UInt16) : PlcState :=
  let hist : Mem UInt16 := fun i =>
    if LHIST ≤ i ∧ i < LHIST + FS then out (i - LHIST) else st.hist i
  { st with hist := fun i => if i < LHIST then hist (i + FS) else hist i, nbf := 0 }

theorem perform_good (st : PlcState) (plcOut plcIn : Mem UInt16) :
    perform f st plcOut (.good plcIn) =
      (afterGood st (goodOut f st plcIn plcOut), goodOut f st plcIn plcOut) := rfl

/-- Only a frame of samples is looked at. -/
theorem perform_congr (st : PlcState) (plcOut : Mem UInt16) {plcIn plcIn' : Mem UInt16}
    (h : ∀ i < FS, plcIn i = plcIn' i) (good : Bool) :
    perform f st plcOut (frameOf good plcIn) = perform f st plcOut (frameOf good plcIn') := by
  have hsizes : SBCRT + OLAL ≤ FS ∧ OLAL ≤ FS := by decide
  cases good with
  | true =>
    have hout : goodOut f st plcIn plcOut = goodOut f st plcIn' plcOut := by
      funext i
      by_cases hi : i < FS
      · simp only [goodOut, PlcFloat.goodFrame, h i hi]
      · have hfade : ¬ (0 < st.nbf ∧ i < SBCRT + OLAL) := by omega
        have hkept : ¬ (0 < st.nbf ∧ i < SBCRT) := by omega
        simp only [goodOut, PlcFloat.goodFrame, if_neg hkept, if_neg hfade, if_neg hi]
    show perform f st plcOut (.good plcIn) = perform f st plcOut (.good plcIn')
    rw [perform_good, perform_good, hout]
  | false =>
    have hconcealed : concealed f st plcIn = concealed f st plcIn' := by
      have hfade (sf : f.F) (bestlag : Nat) :
          st.hist.fill (fadeIn f plcIn sf bestlag) LHIST 0 OLAL =
            st.hist.fill (fadeIn f plcIn' sf bestlag) LHIST 0 OLAL := by
        apply Mem.fill_congr
        intro m k _ hk
        rw [fadeIn, fadeIn, h k (by omega)]
      unfold concealed
      dsimp only
      rw [hfade]
    show badFrame f st plcIn plcOut = badFrame f st plcIn' plcOut
    unfold badFrame
    rw [hconcealed]

/-- The decoder and the concealment of the daemon; `behind` lies behind every frame. -/
def daemonCodec (f : FloatOps) (behind : Mem UInt8) : Codec :=
  plcCodec (plcFloat f) Sbc fun sbc frame => sbcDecode sbc (frameMem behind frame) frame.length

variable {behind : Mem UInt8} {cfg : Config}

/-- **A chunk through the concealment**: what is played goes into the buffer. -/
theorem writeToMainBuf_plc (hdec : cfg.decodeEnabled = true) (hplc : cfg.plcEnabled = true)
    (v : Voice (daemonCodec f behind)) {buf : Mem UInt8} {samples : List UInt16}
    (hlen : samples.length = FS) (hbuf : buf.read 0 (2 * samples.length) = bigEndian samples)
    (good : Bool)
    (hfit : (writeToMainBuf cfg v buf (2 * samples.length) good).2.2 ≠ .truncated) :
    let w := writeToMainBuf cfg v buf (2 * samples.length) good
    let p := perform f v.plcState v.plcOut (frameOf good (Mem.ofList samples 0))
    w.1.plcState = p.1 ∧ w.1.plcOut = p.2 ∧ w.2.2 = .copied (littleEndian (p.2.read 0 FS)) := by
  have hin : ∀ i < FS, ucharToShortArray (beToLe buf (2 * samples.length)) v.plcIn
      (2 * samples.length) i = Mem.ofList samples 0 i := by
    intro i hi
    have hlt : i < samples.length := by omega
    have hcell := ucharToShortArray_littleEndian (beToLe_read hbuf) hlt
    rw [ucharToShortArray, if_pos (by omega), Mem.ofList, List.getD_eq_getElem _ _ hlt, ← hcell,
      Nat.zero_add]
  have hconv : convertChunk cfg v buf (2 * samples.length) good =
      ({ v with
          plcState := (perform f v.plcState v.plcOut (frameOf good (Mem.ofList samples 0))).1,
          plcIn := ucharToShortArray (beToLe buf (2 * samples.length)) v.plcIn
            (2 * samples.length),
          plcOut := (perform f v.plcState v.plcOut (frameOf good (Mem.ofList samples 0))).2 },
        shortToUcharArray
          (perform f v.plcState v.plcOut (frameOf good (Mem.ofList samples 0))).2
          (beToLe buf (2 * samples.length)) (2 * samples.length)) := by
    rw [← perform_congr v.plcState v.plcOut hin good]
    unfold convertChunk
    rw [if_pos hdec]
    dsimp only
    rw [if_pos hplc]
    cases good with
    | true => rfl
    | false => rfl
  intro w p
  have hread := read_shortToUcharArray p.2 (beToLe buf (2 * samples.length)) samples.length
  have hw : w = writeToMainBuf cfg v buf (2 * samples.length) good := rfl
  unfold writeToMainBuf at hw hfit
  rw [hconv] at hw hfit
  dsimp only at hw hfit
  split at hw
  · rw [hw]
    refine ⟨rfl, rfl, ?_⟩
    rw [← hlen]
    exact congrArg VoiceEvent.copied hread
  · rename_i hfull
    rw [if_neg hfull] at hfit
    exact absurd rfl hfit

/-! ## A frame through the decoder -/

/-- The samples of a frame; none if it is malformed. -/
def plainSamples (d : PlainSbc) (input : Mem UInt8) (inputLen : Nat) : Option (List UInt16) :=
  let (framelen, h, samples) := (sbcUnpackFrame inputLen d.header).value input
  if framelen ≤ 0 then none
  else some (interleave h (plainSynthesizeAudio d.past h samples).2 DECODE_BUF_SIZE)

def plainStart : PlainSbc := ⟨.zero, fun _ => [], .be⟩

/-- Both decoders have decoded the same, or neither has been called. -/
structure Agree (sbc : Sbc) (d : PlainSbc) : Prop where
  endian : d.endian = .be
  same : Refines 8 sbc d ∨ sbc = msbcDecoder ∧ d = plainStart

theorem length_interleave_msbc (pcm : List (List Int)) :
    (interleave msbcHeader pcm DECODE_BUF_SIZE).length = FS := by
  have hroom : ¬ DECODE_BUF_SIZE <
      msbcHeader.blocks * msbcHeader.subbands * msbcHeader.channels * 2 := by decide
  unfold interleave
  dsimp only
  rw [if_neg hroom]
  simp [List.length_flatMap, msbcHeader, FS]

variable {input : Mem UInt8} {inputLen : Nat}

/-- What the plain decoder writes are its samples. -/
theorem plainDecode_samples (hsync : input 0 = MSBC_SYNCWORD) {d : PlainSbc}
    (hendian : d.endian = .be) :
    plainSamples d input inputLen = none ∧ (plainDecode d input inputLen).2.1 ≤ 0 ∨
      ∃ samples, plainSamples d input inputLen = some samples ∧ samples.length = FS ∧
        0 < (plainDecode d input inputLen).2.1 ∧
        (plainDecode d input inputLen).2.2 = bigEndian samples := by
  have hheader : 0 < ((sbcUnpackFrame inputLen d.header).value input).1 →
      ((sbcUnpackFrame inputLen d.header).value input).2.1 = msbcHeader := by
    intro hpos
    obtain ⟨hlen, -⟩ := coded_of_unpacked hpos
    rw [sbcUnpackFrame_msbc hsync hlen]
  unfold plainSamples plainDecode
  generalize (sbcUnpackFrame inputLen d.header).value input = r at hheader ⊢
  obtain ⟨framelen, h, samples⟩ := r
  dsimp only at hheader ⊢
  by_cases hfail : framelen ≤ 0
  · rw [if_pos hfail, if_pos hfail]
    exact .inl ⟨rfl, hfail⟩
  · rw [if_neg hfail, if_neg hfail, hendian]
    obtain rfl := hheader (Int.not_le.mp hfail)
    exact .inr ⟨_, rfl, length_interleave_msbc _, Int.not_le.mp hfail, rfl⟩

/-- **One frame** through either decoder, unless a frame without a header is the first. -/
theorem Agree.decode {sbc : Sbc} {d : PlainSbc} (h : Agree sbc d)
    (hsync : input 0 = MSBC_SYNCWORD) (hready : sbc.init = true ∨ 4 ≤ inputLen) :
    Agree (sbcDecode sbc input inputLen).1 (plainDecode d input inputLen).1 ∧
      (sbcDecode sbc input inputLen).1.init = true ∧
      (plainSamples d input inputLen = none ∧ (sbcDecode sbc input inputLen).2.framelen ≤ 0 ∨
        ∃ samples, plainSamples d input inputLen = some samples ∧ samples.length = FS ∧
          0 < (sbcDecode sbc input inputLen).2.framelen ∧
          (sbcDecode sbc input inputLen).2.out = bigEndian samples) := by
  have hcoded : codedSubbands input = some 8 := by
    unfold codedSubbands
    rw [hsync]
    rfl
  have hsub : ∀ m, codedSubbands input = some m → m = 8 := fun m hm =>
    Option.some.inj (hm.symm.trans hcoded)
  have hstep : Refines 8 (sbcDecode sbc input inputLen).1 (plainDecode d input inputLen).1 ∧
      ((sbcDecode sbc input inputLen).2.framelen, (sbcDecode sbc input inputLen).2.out) =
        (plainDecode d input inputLen).2 := by
    rcases h.same with hrefines | ⟨rfl, rfl⟩
    · have hstate : sbc.synthesisState input inputLen = sbc.decState := by
        rw [synthesisState_eq, if_pos hrefines.init]
      exact sbcDecode_plain hrefines.header hrefines.endian (hstate ▸ hrefines.past) hsub
    · have hlen : 4 ≤ inputLen := hready.resolve_left nofun
      exact sbcDecode_plain rfl rfl (holdsPast_fresh .be hlen hcoded) hsub
  obtain ⟨hrefines, hres⟩ := hstep
  obtain ⟨hframelen, hout⟩ := Prod.mk.inj hres
  have hendian : (plainDecode d input inputLen).1.endian = .be := by
    refine Eq.trans ?_ h.endian
    unfold plainDecode
    dsimp only
    split
    · rfl
    · rfl
  refine ⟨⟨hendian, .inl hrefines⟩, hrefines.init, ?_⟩
  rw [hframelen, hout]
  exact plainDecode_samples hsync h.endian

/-! ## What should be heard -/

/-- The client's side of the stream: the blocks that were decoded, and all that was played. -/
structure Listener where
  decoder : PlainSbc
  concealment : Session
  lastSeqNum : Int

namespace Listener

def start (st : PlcState) (plcOut : Mem UInt16) : Listener := ⟨plainStart, .start st plcOut, 3⟩

/-- A session begins. -/
def session (x : Listener) : Listener :=
  { x with concealment := .start x.concealment.plc x.concealment.plcOut, lastSeqNum := 3 }

/-- A frame is played, unless it is malformed. -/
def frame (f : FloatOps) (behind : Mem UInt8) (good : Bool) (bs : List UInt8) (x : Listener) :
    Listener :=
  { x with
    decoder := (plainDecode x.decoder (frameMem behind bs) bs.length).1
    concealment := (plainSamples x.decoder (frameMem behind bs) bs.length).elim x.concealment
      fun samples => x.concealment.next f (frameOf good (Mem.ofList samples 0)) }

/-- The frames between the two sequence numbers are lost. -/
def packet (f : FloatOps) (behind : Mem UInt8) (bs : List UInt8) (x : Listener) : Listener :=
  let missing := (seqNum bs - x.lastSeqNum - 1) % NUM_SEQ_CODES
  { ((frame f behind false indices0)^[missing.toNat] x).frame f behind true (msbcData bs) with
    lastSeqNum := seqNum bs }

end Listener

/-! ## The daemon and the listener -/

theorem performPlc_succ {C : Codec} (cfg : Config) (n : Nat) {v : Voice C} {pcmBuf : Mem UInt8}
    {w : Voice C × Mem UInt8 × VoiceEvent}
    (hw : writeToMainBuf cfg { v with sbc := (C.sbcDecode v.sbc indices0).1 }
      (pcmBuf.write 0 (C.sbcDecode v.sbc indices0).2.out)
      (C.sbcDecode v.sbc indices0).2.out.length false = w) :
    performPlc cfg (n + 1) v pcmBuf =
      ((performPlc cfg n w.1 w.2.1).1, (performPlc cfg n w.1 w.2.1).2.1,
        w.2.2 :: (performPlc cfg n w.1 w.2.1).2.2) := by
  rw [← hw]
  rfl

theorem handleGoodFrame_failed {C : Codec} (cfg : Config) {v : Voice C} {frame : List UInt8}
    (pcmBuf : Mem UInt8) (hfail : (C.sbcDecode v.sbc frame).2.framelen ≤ 0) :
    (handleGoodFrame cfg v frame pcmBuf).2 =
      ({ v with sbc := (C.sbcDecode v.sbc frame).1 }, []) := by
  unfold handleGoodFrame
  dsimp only
  rw [if_neg (Int.not_lt.mpr hfail)]

theorem handleGoodFrame_decoded {C : Codec} (cfg : Config) {v : Voice C} {frame : List UInt8}
    {pcmBuf : Mem UInt8} (hpos : 0 < (C.sbcDecode v.sbc frame).2.framelen)
    {w : Voice C × Mem UInt8 × VoiceEvent}
    (hw : writeToMainBuf cfg { v with sbc := (C.sbcDecode v.sbc frame).1 }
      (pcmBuf.write 0 (C.sbcDecode v.sbc frame).2.out)
      (C.sbcDecode v.sbc frame).2.out.length true = w) :
    (handleGoodFrame cfg v frame pcmBuf).2 = (w.1, [w.2.2]) := by
  unfold handleGoodFrame
  dsimp only
  rw [if_pos hpos, ← hw]

/-- The daemon is where the listener is, and the listener has heard what was copied. -/
structure Follows (v : Voice (daemonCodec f behind)) (x : Listener) (es : List VoiceEvent) :
    Prop where
  agree : Agree v.sbc x.decoder
  plc : v.plcState = x.concealment.plc
  plcOut : v.plcOut = x.concealment.plcOut
  last : v.lastSeqNum = x.lastSeqNum
  last_range : 0 ≤ x.lastSeqNum ∧ x.lastSeqNum ≤ 3
  heard : littleEndian x.concealment.played =
    littleEndian (List.replicate LHIST 0) ++ copied es

theorem littleEndian_append (a b : List UInt16) :
    littleEndian (a ++ b) = littleEndian a ++ littleEndian b := List.flatMap_append

theorem littleEndian_drop (samples : List UInt16) (n : Nat) :
    littleEndian (samples.drop n) = (littleEndian samples).drop (2 * n) := by
  induction n generalizing samples with
  | zero => rfl
  | succ n ih =>
    cases samples with
    | nil => simp [littleEndian]
    | cons s samples => exact ih samples

section Follows

variable (hdec : cfg.decodeEnabled = true) (hplc : cfg.plcEnabled = true)
  {v : Voice (daemonCodec f behind)} {x : Listener} {es : List VoiceEvent}
include hdec hplc

/-- **One frame**: it is refused by both, or decoded and played. -/
theorem Follows.frame (h : Follows v x es) {bs : List UInt8}
    (hsync : bs.head? = some MSBC_SYNCWORD) (hready : Sbc.init v.sbc = true ∨ 4 ≤ bs.length)
    (good : Bool) (pcmBuf : Mem UInt8) :
    let r := (daemonCodec f behind).sbcDecode v.sbc bs
    let w := writeToMainBuf cfg { v with sbc := r.1 } (pcmBuf.write 0 r.2.out) r.2.out.length good
    Sbc.init r.1 = true ∧
      (r.2.framelen ≤ 0 ∧ Follows { v with sbc := r.1 } (x.frame f behind good bs) es ∨
        0 < r.2.framelen ∧
          (w.2.2 ≠ .truncated → Follows w.1 (x.frame f behind good bs) (es ++ [w.2.2]))) := by
  intro r w
  obtain ⟨hagree, hinit, hres⟩ := h.agree.decode (@frameMem_sync behind _ hsync) hready
  refine ⟨hinit, ?_⟩
  rcases hres with ⟨hnone, hfail⟩ | ⟨samples, hsome, hlen, hpos, hout⟩
  · refine .inl ⟨hfail, hagree, ?_, ?_, h.last, h.last_range, ?_⟩
    · simp only [Listener.frame, hnone]
      exact h.plc
    · simp only [Listener.frame, hnone]
      exact h.plcOut
    · simp only [Listener.frame, hnone]
      exact h.heard
  · refine .inr ⟨hpos, fun hfit => ?_⟩
    have hbytes : r.2.out.length = 2 * samples.length := by
      rw [← bigEndian_length, ← hout]
      rfl
    have hbuf : (pcmBuf.write 0 r.2.out).read 0 (2 * samples.length) = bigEndian samples := by
      rw [← hbytes, Mem.read_write_self]
      exact hout
    have hw : w = writeToMainBuf cfg { v with sbc := r.1 } (pcmBuf.write 0 r.2.out)
        (2 * samples.length) good := by
      rw [← hbytes]
    rw [hw] at hfit ⊢
    obtain ⟨hstate, hplcOut, hevent⟩ := writeToMainBuf_plc hdec hplc _ hlen hbuf good hfit
    obtain ⟨hsbc, hlast⟩ := writeToMainBuf_other cfg { v with sbc := r.1 } (pcmBuf.write 0 r.2.out)
      (2 * samples.length) good
    have hperform : perform f v.plcState v.plcOut (frameOf good (Mem.ofList samples 0)) =
        perform f x.concealment.plc x.concealment.plcOut (frameOf good (Mem.ofList samples 0)) :=
      congrArg₂ (fun st plcOut => perform f st plcOut _) h.plc h.plcOut
    refine ⟨?_, ?_, ?_, hlast.trans h.last, h.last_range, ?_⟩
    · rw [hsbc]
      exact hagree
    · simp only [Listener.frame, hsome]
      exact hstate.trans (congrArg Prod.fst hperform)
    · simp only [Listener.frame, hsome]
      exact hplcOut.trans (congrArg Prod.snd hperform)
    · have hplayed := hevent.trans
        (congrArg (fun p => VoiceEvent.copied (littleEndian (p.2.read 0 FS))) hperform)
      rw [hplayed]
      simp only [Listener.frame, hsome, Option.elim, next_played]
      rw [littleEndian_append, h.heard, copied_append, List.append_assoc]
      simp [copied]

omit hdec hplc in
theorem daemon_indices0 (sbc : Sbc) :
    0 < ((daemonCodec f behind).sbcDecode sbc indices0).2.framelen := indices0_decoded sbc

/-- The frames that were lost. -/
theorem Follows.lost (h : Follows v x es) (n : Nat) (pcmBuf : Mem UInt8)
    (hfull : .truncated ∉ (performPlc cfg n v pcmBuf).2.2) :
    Follows (performPlc cfg n v pcmBuf).1 ((Listener.frame f behind false indices0)^[n] x)
        (es ++ (performPlc cfg n v pcmBuf).2.2) ∧
      (Sbc.init v.sbc = true → Sbc.init (performPlc cfg n v pcmBuf).1.sbc = true) := by
  induction n generalizing v x es pcmBuf with
  | zero =>
    refine ⟨?_, id⟩
    show Follows v x (es ++ [])
    rw [List.append_nil]
    exact h
  | succ n ih =>
    have hsync : indices0.head? = some MSBC_SYNCWORD := rfl
    obtain ⟨hinit, hframe⟩ := h.frame hdec hplc hsync (.inr (by decide)) false pcmBuf
    rcases hframe with ⟨hfail, -⟩ | ⟨-, hnext⟩
    · exact absurd (@daemon_indices0 f behind v.sbc) (Int.not_lt.mpr hfail)
    · have hsbc := (writeToMainBuf_other cfg
        { v with sbc := ((daemonCodec f behind).sbcDecode v.sbc indices0).1 }
        (pcmBuf.write 0 ((daemonCodec f behind).sbcDecode v.sbc indices0).2.out)
        ((daemonCodec f behind).sbcDecode v.sbc indices0).2.out.length false).1
      generalize hw : writeToMainBuf cfg
        { v with sbc := ((daemonCodec f behind).sbcDecode v.sbc indices0).1 }
        (pcmBuf.write 0 ((daemonCodec f behind).sbcDecode v.sbc indices0).2.out)
        ((daemonCodec f behind).sbcDecode v.sbc indices0).2.out.length false = w at hnext hsbc
      rw [performPlc_succ cfg n hw] at hfull ⊢
      rw [List.mem_cons, not_or] at hfull
      obtain ⟨hfirst, hrest⟩ := hfull
      obtain ⟨hall, hkeep⟩ := ih (hnext (Ne.symm hfirst)) w.2.1 hrest
      rw [List.append_assoc] at hall
      exact ⟨hall, fun _ => hkeep (hsbc ▸ hinit)⟩

omit hdec hplc in
theorem Follows.seqNum (h : Follows v x es) {n : Int} (hn : 0 ≤ n ∧ n ≤ 3) :
    Follows { v with lastSeqNum := n } { x with lastSeqNum := n } es :=
  ⟨h.agree, h.plc, h.plcOut, rfl, hn, h.heard⟩

/-- The frame that was received. -/
theorem Follows.received (h : Follows v x es) {bs : List UInt8}
    (hsync : bs.head? = some MSBC_SYNCWORD) (hready : Sbc.init v.sbc = true ∨ 4 ≤ bs.length)
    (pcmBuf : Mem UInt8) (hfull : .truncated ∉ (handleGoodFrame cfg v bs pcmBuf).2.2) :
    Follows (handleGoodFrame cfg v bs pcmBuf).2.1 (x.frame f behind true bs)
        (es ++ (handleGoodFrame cfg v bs pcmBuf).2.2) ∧
      Sbc.init (handleGoodFrame cfg v bs pcmBuf).2.1.sbc = true := by
  obtain ⟨hinit, hframe⟩ := h.frame hdec hplc hsync hready true pcmBuf
  refine ⟨?_, by rw [handleGoodFrame_sbc]; exact hinit⟩
  rcases hframe with ⟨hfail, hrefused⟩ | ⟨hpos, hplayed⟩
  · rw [handleGoodFrame_failed cfg pcmBuf hfail, List.append_nil]
    exact hrefused
  · generalize hw : writeToMainBuf cfg
      { v with sbc := ((daemonCodec f behind).sbcDecode v.sbc bs).1 }
      (pcmBuf.write 0 ((daemonCodec f behind).sbcDecode v.sbc bs).2.out)
      ((daemonCodec f behind).sbcDecode v.sbc bs).2.out.length true = w at hplayed
    rw [handleGoodFrame_decoded cfg hpos hw] at hfull ⊢
    exact hplayed (Ne.symm (List.ne_of_not_mem_cons hfull))

/-- **A packet that gets to the decoder**: its frame is played after those lost before it. -/
theorem Follows.packet (h : Follows v x es) {bs : List UInt8} (hup : UpdatesSeqNum bs)
    (hready : Sbc.init v.sbc = true ∨ MSBC_SYNC_OFFSET + 4 ≤ bs.length)
    (hfull : .truncated ∉ (handleMsbcData cfg v bs).2.2) :
    Follows (handleMsbcData cfg v bs).2.1 (x.packet f behind bs)
        (es ++ (handleMsbcData cfg v bs).2.2) ∧
      Sbc.init (handleMsbcData cfg v bs).2.1.sbc = true := by
  have hmissing : (numLost v bs).toNat =
      ((Btremoted.seqNum bs - x.lastSeqNum - 1) % NUM_SEQ_CODES).toNat := by
    obtain ⟨hlow, hhigh⟩ := h.last_range
    have hseq := hup.2
    unfold numLost NUM_SEQ_CODES
    rw [h.last, Int.tmod_eq_emod_of_nonneg (by omega)]
    omega
  generalize hlost : performPlc cfg (numLost v bs).toNat v (fun _ => 0) = lost
  have hseqNum : handleSeqNum cfg v bs (fun _ => 0) =
      some ({ lost.1 with lastSeqNum := Btremoted.seqNum bs }, lost.2.1, lost.2.2) := by
    unfold handleSeqNum
    rw [if_pos hplc, if_neg (Int.not_lt.mpr hup.2), hlost]
  generalize hown : handleGoodFrame cfg { lost.1 with lastSeqNum := Btremoted.seqNum bs }
    (msbcData bs) lost.2.1 = own
  have hres : (handleMsbcData cfg v bs).2 = (own.2.1, lost.2.2 ++ own.2.2) := by
    unfold handleMsbcData
    simp only [hup.1, hdec, hseqNum, hown]
    rfl
  rw [hres] at hfull ⊢
  rw [List.mem_append, not_or, ← hlost] at hfull
  obtain ⟨hlostFull, hownFull⟩ := hfull
  obtain ⟨hafter, hkeep⟩ := h.lost hdec hplc _ _ hlostFull
  rw [hlost, hmissing] at hafter
  rw [hlost] at hkeep
  have hlen : Sbc.init lost.1.sbc = true ∨ 4 ≤ (msbcData bs).length := by
    rcases hready with hinit | hlong
    · exact .inl (hkeep hinit)
    · refine .inr ?_
      rw [msbcData, List.length_drop]
      omega
  rw [← hown] at hownFull
  obtain ⟨hplayed, hinit⟩ := (hafter.seqNum ⟨hup.2, seqNum_le bs⟩).received hdec hplc hup.1 hlen
    lost.2.1 hownFull
  rw [hown, List.append_assoc] at hplayed
  rw [hown] at hinit
  exact ⟨hplayed, hinit⟩

end Follows

/-! ## The life of the daemon -/

inductive DaemonCall where
  /-- A client is accepted while the SCO socket is closed. -/
  | session
  | handleMsbcData (packet : List UInt8)
  | writeToClient (clientFd : Int) (r : SendResult)

instance : DecidablePred UpdatesSeqNum := fun _ => inferInstanceAs (Decidable (_ ∧ _))

namespace DaemonCall

def perform {C : Codec} (cfg : Config) (v : Voice C) : DaemonCall → Voice C × List VoiceEvent
  | .session => (startPlc (clearMainBuf cfg v), [.accepted])
  | .handleMsbcData packet => (Btremoted.handleMsbcData cfg v packet).2
  | .writeToClient clientFd r => (Btremoted.writeToClient v clientFd r).2

/-- What `recv` returns fits into its buffer. -/
def LenOk : DaemonCall → Prop
  | .handleMsbcData packet => packet.length ≤ SCO_MAX_BUFFER_SZ
  | .session | .writeToClient _ _ => True

/-- The packet whose frame gets to the decoder. -/
def decoded : DaemonCall → Option (List UInt8)
  | .handleMsbcData packet => if UpdatesSeqNum packet then some packet else none
  | .session | .writeToClient _ _ => none

end DaemonCall

def Listener.hear (f : FloatOps) (behind : Mem UInt8) (x : Listener) : DaemonCall → Listener
  | .session => x.session
  | .handleMsbcData packet => if UpdatesSeqNum packet then x.packet f behind packet else x
  | .writeToClient _ _ => x

/-- The voice data, with all that has happened to it. -/
structure Daemon (C : Codec) where
  voice : Voice C
  history : List VoiceEvent

def Daemon.next {C : Codec} (cfg : Config) (s : Daemon C) (c : DaemonCall) : Daemon C where
  voice := (c.perform cfg s.voice).1
  history := s.history ++ (c.perform cfg s.voice).2

def Daemon.run {C : Codec} (cfg : Config) (s : Daemon C) (calls : List DaemonCall) : Daemon C :=
  calls.foldl (Daemon.next cfg) s

theorem Daemon.run_history {C : Codec} (cfg : Config) (s : Daemon C) (calls : List DaemonCall) :
    s.history <+: (s.run cfg calls).history := by
  induction calls generalizing s with
  | nil => exact List.prefix_rfl
  | cons c calls ih => exact (List.prefix_append _ _).trans (ih (s.next cfg c))

/-- The listener has heard this session, and the buffer holds it. -/
structure Heard (cfg : Config) (s : Daemon (daemonCodec f behind)) (x : Listener) : Prop where
  follows : Follows s.voice x (sinceAccepted s.history)
  holds : Holds cfg.trim (sinceAccepted s.history) s.voice.mainBuf

section Life

variable {s : Daemon (daemonCodec f behind)} {x : Listener} {c : DaemonCall}

/-- A session begins. -/
theorem Heard.session (hagree : Agree s.voice.sbc x.decoder)
    (hplc : s.voice.plcState = x.concealment.plc)
    (hplcOut : s.voice.plcOut = x.concealment.plcOut) :
    Heard cfg (s.next cfg .session) x.session where
  follows := by
    refine ⟨hagree, congrArg PlcState.init hplc, hplcOut, rfl,
      show (0 : Int) ≤ 3 ∧ (3 : Int) ≤ 3 by decide, ?_⟩
    show littleEndian (List.replicate LHIST 0) =
      _ ++ copied (sinceAccepted (s.history ++ [.accepted]))
    rw [sinceAccepted_accepted]
    exact (List.append_nil _).symm
  holds := by
    show Holds cfg.trim (sinceAccepted (s.history ++ [.accepted])) _
    rw [sinceAccepted_accepted]
    exact .start cfg s.voice

variable (hdec : cfg.decodeEnabled = true) (hplc : cfg.plcEnabled = true)
include hdec hplc

/-- **One call.** -/
theorem Heard.next (h : Heard cfg s x) (hlen : c.LenOk)
    (hready : Sbc.init s.voice.sbc = true ∨
      ∀ packet, c.decoded = some packet → MSBC_SYNC_OFFSET + 4 ≤ packet.length)
    (hfull : .truncated ∉ (c.perform cfg s.voice).2) :
    Heard cfg (s.next cfg c) (x.hear f behind c) ∧
      (Sbc.init s.voice.sbc = true ∨ c.decoded ≠ none →
        Sbc.init (s.next cfg c).voice.sbc = true) := by
  cases c with
  | session => exact ⟨.session h.follows.agree h.follows.plc h.follows.plcOut,
      fun hinit => hinit.resolve_right (not_not.mpr rfl)⟩
  | handleMsbcData packet =>
    have happends := handleMsbcData_appends cfg s.voice hlen
    have hsince := @sinceAccepted_append s.history _ (accepted_notMem happends.writes)
    have hholds := happends.holds h.holds
    rw [← hsince] at hholds
    by_cases hup : UpdatesSeqNum packet
    · have hheard : x.hear f behind (.handleMsbcData packet) = x.packet f behind packet :=
        if_pos hup
      obtain ⟨hfollows, hinit⟩ := h.follows.packet hdec hplc hup
        (hready.imp_right fun hall => hall packet (if_pos hup)) hfull
      rw [← hsince, ← hheard] at hfollows
      exact ⟨⟨hfollows, hholds⟩, fun _ => hinit⟩
    · have hheard : x.hear f behind (.handleMsbcData packet) = x := if_neg hup
      have hskip := handleMsbcData_skip hdec hplc (v := s.voice) hup
      refine ⟨⟨?_, hholds⟩, fun hinit => ?_⟩
      · rw [hheard]
        simp only [Daemon.next, DaemonCall.perform, hskip, List.append_nil]
        exact h.follows
      · simp only [Daemon.next, DaemonCall.perform, hskip]
        exact hinit.resolve_right (not_not.mpr (if_neg hup))
  | writeToClient clientFd r =>
    have hholds := h.holds.send clientFd r
    rcases writeToClient_cases s.voice clientFd r with heq | ⟨n, -, heq⟩
    · rw [heq, List.append_nil] at hholds
      refine ⟨⟨?_, ?_⟩, ?_⟩
      all_goals simp only [Daemon.next, DaemonCall.perform, heq, List.append_nil, Listener.hear]
      · exact h.follows
      · exact hholds
      · exact fun hinit => hinit.resolve_right (not_not.mpr rfl)
    · have hsince : sinceAccepted (s.history ++ [.sent (s.voice.mainBuf.peek n)]) =
          sinceAccepted s.history ++ [.sent (s.voice.mainBuf.peek n)] :=
        sinceAccepted_append (by simp)
      rw [heq] at hholds
      refine ⟨⟨?_, ?_⟩, ?_⟩
      all_goals simp only [Daemon.next, DaemonCall.perform, heq, hsince, Listener.hear]
      · refine ⟨h.follows.agree, h.follows.plc, h.follows.plcOut, h.follows.last,
          h.follows.last_range, ?_⟩
        rw [copied_append, h.follows.heard]
        simp [copied]
      · exact hholds
      · exact fun hinit => hinit.resolve_right (not_not.mpr rfl)

/-- **Any calls.** -/
theorem Heard.run (h : Heard cfg s x) {calls : List DaemonCall} (hlen : ∀ c ∈ calls, c.LenOk)
    (hready : Sbc.init s.voice.sbc = true ∨
      ∀ packet, calls.findSome? DaemonCall.decoded = some packet →
        MSBC_SYNC_OFFSET + 4 ≤ packet.length)
    (hfull : .truncated ∉ (s.run cfg calls).history) :
    Heard cfg (s.run cfg calls) (calls.foldl (Listener.hear f behind) x) := by
  induction calls generalizing s x with
  | nil => exact h
  | cons c calls ih =>
    obtain ⟨hc, hrest⟩ := List.forall_mem_cons.mp hlen
    have hfirst : .truncated ∉ (c.perform cfg s.voice).2 := fun hmem =>
      hfull ((Daemon.run_history cfg (s.next cfg c) calls).subset (List.mem_append_right _ hmem))
    obtain ⟨hnext, hinit⟩ := h.next hdec hplc hc (hready.imp_right fun hall packet hdecoded =>
      hall packet (by rw [List.findSome?_cons, hdecoded])) hfirst
    refine ih hnext hrest ?_ hfull
    rcases hready with hready | hall
    · exact .inl (hinit (.inl hready))
    · by_cases hnone : c.decoded = none
      · rw [List.findSome?_cons, hnone] at hall
        exact .inr hall
      · exact .inl (hinit (.inr hnone))

end Life

/-! ## An instance -/

/-- Whole numbers; they are enough for silence. -/
def wholeOps : FloatOps where
  F := Int
  ofShort := shortValue
  ofNat := Int.ofNat
  lit digits places := digits / 10 ^ places
  add := (· + ·)
  mul := (· * ·)
  div := (· / ·)
  sqrt x := Nat.sqrt x.toNat
  lt x y := x < y
  toShort := Btremoted.toShort

def bootVoice : Voice (daemonCodec wholeOps fun _ => 0) where
  mainBuf := ⟨fun _ => 0, 0, 0⟩
  plcState := ⟨fun _ => 0, 0, 0⟩
  plcIn _ := 0
  plcOut _ := 0
  sbc := msbcDecoder
  lastSeqNum := 0

/-- The packet with sequence code 0 was lost. -/
def lateCalls : List DaemonCall :=
  [.handleMsbcData (0x01 :: 0x38 :: indices0), .writeToClient 7 (.accepted 100)]

end Sloane.Btremoted
