import Mathlib.Algebra.Order.Ring.Int
import Sloane.Btremoted.GoodFrame
import Sloane.Btremoted.SbcUnpack

/-!
# Decoding a frame

Model of `sbc_decode`, `sbc_decoder_init` and the synthesis of `btremoted/msbc.c`.  The arithmetic
is that of `int32_t`, with wrap-around.

* `sbcUnpackFrame_msbc` — what comes out of an mSBC frame does not depend on the frame before it.
* `sbcDecode_congr` — decoders that synthesise in the same state do not differ any more.
-/

namespace Sloane.Btremoted

open Sloane.Lib

/-! ## The tables -/

/-- `ASR`, of what is an `int32_t`. -/
def asr (val : Int) (bits : Nat) : Int := (val.bmod (2 ^ 32)) >>> bits

def SCALE_SPROTO4_TBL : Nat := 12
def SCALE_SPROTO8_TBL : Nat := 14
def SCALE_NPROTO_TBL : Nat := 11
def SCALE_STAGED1_BITS : Nat := 15

def sbc_proto_4_40m0 : List Int := List.map (asr · SCALE_SPROTO4_TBL)
  [0x00000000, 0xffa6982f, 0xfba93848, 0x0456c7b8, 0x005967d1, 0xfffb9ac7, 0xff589157,
   0xf9c2a8d8, 0x027c1434, 0x0019118b, 0xfff3c74c, 0xff137330, 0xf81b8d70, 0x00ec1b8b,
   0xfff0b71a, 0xffe99b00, 0xfef84470, 0xf6fb4370, 0xffcdc351, 0xffe01dc7]

def sbc_proto_4_40m1 : List Int := List.map (asr · SCALE_SPROTO4_TBL)
  [0xffe090ce, 0xff2c0475, 0xf694f800, 0xff2c0475, 0xffe090ce, 0xffe01dc7, 0xffcdc351,
   0xf6fb4370, 0xfef84470, 0xffe99b00, 0xfff0b71a, 0x00ec1b8b, 0xf81b8d70, 0xff137330,
   0xfff3c74c, 0x0019118b, 0x027c1434, 0xf9c2a8d8, 0xff589157, 0xfffb9ac7]

def sbc_proto_8_80m0 : List Int := List.map (asr · SCALE_SPROTO8_TBL)
  [0x00000000, 0xfe8d1970, 0xee979f00, 0x11686100, 0x0172e690, 0xfff5bd1a, 0xfdf1c8d4,
   0xeac182c0, 0x0d9daee0, 0x00e530da, 0xffe9811d, 0xfd52986c, 0xe7054ca0, 0x0a00d410,
   0x006c1de4, 0xffdba705, 0xfcbc98e8, 0xe3889d20, 0x06af2308, 0x000bb7db, 0xffca00ed,
   0xfc3fbb68, 0xe071bc00, 0x03bf7948, 0xffc4e05c, 0xffb54b3b, 0xfbedadc0, 0xdde26200,
   0x0142291c, 0xff960e94, 0xff9f3e17, 0xfbd8f358, 0xdbf79400, 0xff405e01, 0xff7d4914,
   0xff8b1a31, 0xfc1417b8, 0xdac7bb40, 0xfdbb828c, 0xff762170]

def sbc_proto_8_80m1 : List Int := List.map (asr · SCALE_SPROTO8_TBL)
  [0xff7c272c, 0xfcb02620, 0xda612700, 0xfcb02620, 0xff7c272c, 0xff762170, 0xfdbb828c,
   0xdac7bb40, 0xfc1417b8, 0xff8b1a31, 0xff7d4914, 0xff405e01, 0xdbf79400, 0xfbd8f358,
   0xff9f3e17, 0xff960e94, 0x0142291c, 0xdde26200, 0xfbedadc0, 0xffb54b3b, 0xffc4e05c,
   0x03bf7948, 0xe071bc00, 0xfc3fbb68, 0xffca00ed, 0x000bb7db, 0x06af2308, 0xe3889d20,
   0xfcbc98e8, 0xffdba705, 0x006c1de4, 0x0a00d410, 0xe7054ca0, 0xfd52986c, 0xffe9811d,
   0x00e530da, 0x0d9daee0, 0xeac182c0, 0xfdf1c8d4, 0xfff5bd1a]

def synmatrix4 : List (List Int) := List.map (List.map (asr · SCALE_NPROTO_TBL))
  [[0x05a82798, 0xfa57d868, 0xfa57d868, 0x05a82798],
   [0x030fbc54, 0xf89be510, 0x07641af0, 0xfcf043ac],
   [0x00000000, 0x00000000, 0x00000000, 0x00000000],
   [0xfcf043ac, 0x07641af0, 0xf89be510, 0x030fbc54],
   [0xfa57d868, 0x05a82798, 0x05a82798, 0xfa57d868],
   [0xf89be510, 0xfcf043ac, 0x030fbc54, 0x07641af0],
   [0xf8000000, 0xf8000000, 0xf8000000, 0xf8000000],
   [0xf89be510, 0xfcf043ac, 0x030fbc54, 0x07641af0]]

def synmatrix8 : List (List Int) := List.map (List.map (asr · SCALE_NPROTO_TBL))
  [[0x05a82798, 0xfa57d868, 0xfa57d868, 0x05a82798,
     0x05a82798, 0xfa57d868, 0xfa57d868, 0x05a82798],
   [0x0471ced0, 0xf8275a10, 0x018f8b84, 0x06a6d988,
     0xf9592678, 0xfe70747c, 0x07d8a5f0, 0xfb8e3130],
   [0x030fbc54, 0xf89be510, 0x07641af0, 0xfcf043ac,
     0xfcf043ac, 0x07641af0, 0xf89be510, 0x030fbc54],
   [0x018f8b84, 0xfb8e3130, 0x06a6d988, 0xf8275a10,
     0x07d8a5f0, 0xf9592678, 0x0471ced0, 0xfe70747c],
   [0x00000000, 0x00000000, 0x00000000, 0x00000000,
     0x00000000, 0x00000000, 0x00000000, 0x00000000],
   [0xfe70747c, 0x0471ced0, 0xf9592678, 0x07d8a5f0,
     0xf8275a10, 0x06a6d988, 0xfb8e3130, 0x018f8b84],
   [0xfcf043ac, 0x07641af0, 0xf89be510, 0x030fbc54,
     0x030fbc54, 0xf89be510, 0x07641af0, 0xfcf043ac],
   [0xfb8e3130, 0x07d8a5f0, 0xfe70747c, 0xf9592678,
     0x06a6d988, 0x018f8b84, 0xf8275a10, 0x0471ced0],
   [0xfa57d868, 0x05a82798, 0x05a82798, 0xfa57d868,
     0xfa57d868, 0x05a82798, 0x05a82798, 0xfa57d868],
   [0xf9592678, 0x018f8b84, 0x07d8a5f0, 0x0471ced0,
     0xfb8e3130, 0xf8275a10, 0xfe70747c, 0x06a6d988],
   [0xf89be510, 0xfcf043ac, 0x030fbc54, 0x07641af0,
     0x07641af0, 0x030fbc54, 0xfcf043ac, 0xf89be510],
   [0xf8275a10, 0xf9592678, 0xfb8e3130, 0xfe70747c,
     0x018f8b84, 0x0471ced0, 0x06a6d988, 0x07d8a5f0],
   [0xf8000000, 0xf8000000, 0xf8000000, 0xf8000000,
     0xf8000000, 0xf8000000, 0xf8000000, 0xf8000000],
   [0xf8275a10, 0xf9592678, 0xfb8e3130, 0xfe70747c,
     0x018f8b84, 0x0471ced0, 0x06a6d988, 0x07d8a5f0],
   [0xf89be510, 0xfcf043ac, 0x030fbc54, 0x07641af0,
     0x07641af0, 0x030fbc54, 0xfcf043ac, 0xf89be510],
   [0xf9592678, 0x018f8b84, 0x07d8a5f0, 0x0471ced0,
     0xfb8e3130, 0xf8275a10, 0xfe70747c, 0x06a6d988]]

/-! ## The synthesis -/

/-- The synthesis state of a channel. -/
structure Channel where
  v : Mem Int
  offset : Mem Nat

/-- `struct sbc_decoder_state`, by channels. -/
structure DecState where
  subbands : Nat
  channel : Nat → Channel

/-- As `memset` leaves it. -/
def DecState.zero : DecState := ⟨0, fun _ => ⟨fun _ => 0, fun _ => 0⟩⟩

def sbcDecoderInit (st : DecState) (h : SbcHeader) : DecState where
  subbands := h.subbands
  channel ch :=
    ⟨fun _ => 0, fun i =>
      if ch < 2 ∧ i < h.subbands * 2 then 10 * i + 10 else (st.channel ch).offset i⟩

def sbcClip16 (s : Int) : Int := if 0x7FFF < s then 0x7FFF else if s < -0x8000 then -0x8000 else s

/-- The matrix and the two halves of the prototype filter. -/
structure Filter where
  matrix : List (List Int)
  m0 : List Int
  m1 : List Int

/-- One step of the first loop of the synthesis.  The ring has ten cells for each of the `2 * n`
rows, and nine more that repeat its begin. -/
def shiftIn (n : Nat) (f : Filter) (sample : Nat → Int) (c : Channel) (i : Nat) : Channel :=
  let wrapped := c.offset i = 0
  let v := if wrapped then c.v.write (20 * n) (c.v.read 0 9) else c.v
  let offset := if wrapped then 20 * n - 1 else c.offset i - 1
  let value := ((List.range n).map fun j => ((f.matrix.getD i []).getD j 0) * sample j).sum
  ⟨v.write offset [asr value SCALE_STAGED1_BITS], c.offset.write i [offset]⟩

/-- One sample of the second loop. -/
def pcmSample (n : Nat) (f : Filter) (c : Channel) (i : Nat) : Int :=
  let k := (i + n) % 16
  let value := ((List.range 5).map fun t =>
    c.v (c.offset i + 2 * t) * f.m0.getD (5 * i + t) 0 +
      c.v (c.offset k + (2 * t + 1)) * f.m1.getD (5 * i + t) 0).sum
  sbcClip16 (asr value SCALE_STAGED1_BITS)

def synthesize (n : Nat) (f : Filter) (c : Channel) (sample : Nat → Int) : Channel × List Int :=
  let c := (List.range (2 * n)).foldl (shiftIn n f sample) c
  (c, (List.range n).map (pcmSample n f c))

def sbcSynthesizeFour : Channel → (Nat → Int) → Channel × List Int :=
  synthesize 4 ⟨synmatrix4, sbc_proto_4_40m0, sbc_proto_4_40m1⟩

def sbcSynthesizeEight : Channel → (Nat → Int) → Channel × List Int :=
  synthesize 8 ⟨synmatrix8, sbc_proto_8_80m0, sbc_proto_8_80m1⟩

/-- The blocks of a channel, one after the other. -/
def synthesizeBlocks (step : Channel → (Nat → Int) → Channel × List Int) :
    Channel → List (Nat → Int) → Channel × List Int
  | c, [] => (c, [])
  | c, sample :: rest =>
      let (c, pcm) := step c sample
      let (c, pcms) := synthesizeBlocks step c rest
      (c, pcm ++ pcms)

/-- The new state and `pcm_sample`. -/
def sbcSynthesizeAudio (st : DecState) (h : SbcHeader) (samples : List (List Int)) :
    DecState × List (List Int) :=
  let run (step : Channel → (Nat → Int) → Channel × List Int) (ch : Nat) :=
    synthesizeBlocks step (st.channel ch)
      (samples.map fun block sb => block.getD (ch * h.subbands + sb) 0)
  let all (step : Channel → (Nat → Int) → Channel × List Int) :=
    ({ st with channel := fun ch => if ch < h.channels then (run step ch).1 else st.channel ch },
      (List.range h.channels).map fun ch => (run step ch).2)
  if h.subbands = 4 then all sbcSynthesizeFour
  else if h.subbands = 8 then all sbcSynthesizeEight
  -- not a frame that was unpacked
  else (st, [])

/-! ## The decoder -/

inductive Endian where
  | le
  | be
  deriving DecidableEq, Repr

/-- `sbc_t` with its `struct sbc_priv`. -/
structure Sbc where
  init : Bool
  header : SbcHeader
  decState : DecState
  endian : Endian

/-- As `sbc_init` leaves it. -/
def sbcInit : Sbc := ⟨false, .zero, .zero, .le⟩

/-- The decoder of the daemon. -/
def msbcDecoder : Sbc := { sbcInit with endian := .be }

/-- The first part of `sbc_decode`: what was unpacked and the decoder before the synthesis. -/
def Sbc.unpack (sbc : Sbc) (input : Mem UInt8) (inputLen : Nat) : Int × List (List Int) × Sbc :=
  let (framelen, h, samples) := (sbcUnpackFrame inputLen sbc.header).value input
  (framelen, samples,
    { sbc with
      header := h
      init := true
      decState := if sbc.init then sbc.decState else sbcDecoderInit sbc.decState h })

/-- The samples in the order of the output, as far as there is room. -/
def interleave (h : SbcHeader) (pcm : List (List Int)) (outputLen : Nat) : List UInt16 :=
  let samples := h.blocks * h.subbands
  let samples :=
    if outputLen < samples * h.channels * 2 then outputLen / (h.channels * 2) else samples
  (List.range samples).flatMap fun i =>
    (List.range h.channels).map fun ch => toShort ((pcm.getD ch []).getD i 0)

def Endian.bytes : Endian → List UInt16 → List UInt8
  | .le => littleEndian
  | .be => bigEndian

theorem length_interleave (h : SbcHeader) (pcm : List (List Int)) (outputLen : Nat) :
    2 * (interleave h pcm outputLen).length ≤ outputLen := by
  have hlen (n : Nat) : ((List.range n).flatMap fun i =>
      (List.range h.channels).map fun ch => toShort ((pcm.getD ch []).getD i 0)).length =
        n * h.channels := by
    simp [List.length_flatMap]
  unfold interleave
  dsimp only
  rw [hlen]
  split
  · rw [Nat.mul_comm, Nat.mul_assoc]
    exact Nat.div_mul_le_self _ _
  · rename_i hroom
    rw [Nat.mul_comm]
    exact Nat.not_lt.mp hroom

theorem littleEndian_length (samples : List UInt16) :
    (littleEndian samples).length = 2 * samples.length := by
  induction samples with
  | nil => rfl
  | cons s samples ih =>
    show (littleEndian samples).length + 2 = 2 * (samples.length + 1)
    omega

theorem Endian.bytes_length (e : Endian) (samples : List UInt16) :
    (e.bytes samples).length = 2 * samples.length := by
  cases e with
  | le => exact littleEndian_length samples
  | be => exact bigEndian_length samples

/-- With a buffer of `DECODE_BUF_SIZE`. -/
def sbcDecode (sbc : Sbc) (input : Mem UInt8) (inputLen : Nat) : Sbc × DecodeResult :=
  let (framelen, samples, sbc) := sbc.unpack input inputLen
  if hfail : framelen ≤ 0 then (sbc, ⟨framelen, [], Nat.zero_le _, fun _ => rfl⟩)
  else
    let (st, pcm) := sbcSynthesizeAudio sbc.decState sbc.header samples
    let out := sbc.endian.bytes (interleave sbc.header pcm DECODE_BUF_SIZE)
    ({ sbc with decState := st },
      ⟨framelen, out, by
        rw [Endian.bytes_length]
        exact length_interleave _ _ _, fun hle => absurd hle hfail⟩)

/-! ## mSBC frames -/

variable {input : Mem UInt8} {inputLen : Nat}

/-- **An mSBC frame is unpacked** without regard to the one before it. -/
theorem sbcUnpackFrame_msbc (hsync : input 0 = MSBC_SYNCWORD) (hlen : 4 ≤ inputLen)
    (old : SbcHeader) : (sbcUnpackFrame inputLen old).value input =
      (((unpackBody inputLen msbcHeader).value input).1, msbcHeader,
        ((unpackBody inputLen msbcHeader).value input).2) := by
  have hheader : (unpackHeader old).value input = (0, msbcHeader) := by
    unfold unpackHeader
    rw [Reads.value_bind, Reads.value_read, hsync]
    rfl
  unfold sbcUnpackFrame
  rw [if_neg (Nat.not_lt.mpr hlen), Reads.value_bind, hheader]
  exact Reads.value_bind _ _ _

/-- Too short a frame leaves the header as it is. -/
theorem sbcUnpackFrame_short (hlen : inputLen < 4) (old : SbcHeader) :
    (sbcUnpackFrame inputLen old).value input = (-1, old, []) := by
  unfold sbcUnpackFrame
  rw [if_pos hlen]
  rfl

/-- The state in which `sbc_decode` calls the synthesis. -/
def Sbc.synthesisState (sbc : Sbc) (input : Mem UInt8) (inputLen : Nat) : DecState :=
  (sbc.unpack input inputLen).2.2.decState

/-- Only the first call initialises it. -/
theorem synthesisState_eq (sbc : Sbc) (input : Mem UInt8) (inputLen : Nat) :
    sbc.synthesisState input inputLen =
      if sbc.init then sbc.decState
      else sbcDecoderInit sbc.decState ((sbcUnpackFrame inputLen sbc.header).value input).2.1 := rfl

/-- **Decoders that synthesise in the same state** yield the same and are the same afterwards. -/
theorem sbcDecode_congr (hsync : input 0 = MSBC_SYNCWORD) (hlen : 4 ≤ inputLen) {sbc sbc' : Sbc}
    (hendian : sbc.endian = sbc'.endian)
    (hstate : sbc.synthesisState input inputLen = sbc'.synthesisState input inputLen) :
    sbcDecode sbc input inputLen = sbcDecode sbc' input inputLen := by
  have hunpack : sbc.unpack input inputLen = sbc'.unpack input inputLen := by
    unfold Sbc.synthesisState at hstate
    unfold Sbc.unpack at hstate ⊢
    simp only [sbcUnpackFrame_msbc hsync hlen] at hstate ⊢
    rw [hstate, hendian]
  unfold sbcDecode
  rw [hunpack]

end Sloane.Btremoted
