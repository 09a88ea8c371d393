import Sloane.Btremoted.FirstPacket
import Sloane.Lib.WindowRing

/-!
# The synthesis without its ring

The synthesis of `btremoted/msbc.c` keeps its last ten blocks in a ring of moving windows.  Here it
is stated over the blocks themselves: a sample is a sum over what the matrix made of the last ten.

* `synthesize_plain` — one block: the ring holds the last ten, and the samples are those sums.
* `decodeAll_plain` — a decoder of a stream yields what the plain filter yields, for four subbands
  and for eight.
-/

namespace Sloane.Btremoted

open Sloane.Lib WindowRing

/-! ## The plain filter -/

/-- What the matrix makes of a block. -/
def matrixed (n : Nat) (f : Filter) (sample : Nat → Int) (i : Nat) : Int :=
  asr ((List.range n).map fun j => ((f.matrix.getD i []).getD j 0) * sample j).sum
    SCALE_STAGED1_BITS

/-- What it made of the block `m` blocks ago; `past` has the latest block in front. -/
def rowValue (n : Nat) (f : Filter) (past : List (Nat → Int)) (i m : Nat) : Int :=
  (past[m]?.map fun sample => matrixed n f sample i).getD 0

def plainSample (n : Nat) (f : Filter) (past : List (Nat → Int)) (i : Nat) : Int :=
  sbcClip16 (asr ((List.range 5).map fun t =>
    rowValue n f past i (2 * t) * f.m0.getD (5 * i + t) 0 +
      rowValue n f past (i + n) (2 * t + 1) * f.m1.getD (5 * i + t) 0).sum SCALE_STAGED1_BITS)

/-- The blocks of a frame, and the blocks so far. -/
def plainBlocks (n : Nat) (f : Filter) :
    List (Nat → Int) → List (Nat → Int) → List (Nat → Int) × List Int
  | past, [] => (past, [])
  | past, sample :: rest =>
      let (all, pcm) := plainBlocks n f (sample :: past) rest
      (all, (List.range n).map (plainSample n f (sample :: past)) ++ pcm)

def filterOf (n : Nat) : Filter :=
  if n = 4 then ⟨synmatrix4, sbc_proto_4_40m0, sbc_proto_4_40m1⟩
  else ⟨synmatrix8, sbc_proto_8_80m0, sbc_proto_8_80m1⟩

/-! ## One block -/

def Channel.store (c : Channel) : Store Int := ⟨c.v, c.offset⟩

/-- The channel holds the last ten of these blocks. -/
def HoldsBlocks (n : Nat) (f : Filter) (past : List (Nat → Int)) (c : Channel) : Prop :=
  ∃ b, Windows (2 * n) 10 b (rowValue n f past) c.store

variable {n : Nat} {f : Filter} {past : List (Nat → Int)} {c : Channel}

theorem foldl_shiftIn (sample : Nat → Int) (l : List Nat) (c : Channel) :
    (l.foldl (shiftIn n f sample) c).store =
      l.foldl (fun r i => push (20 * n) 9 r i (matrixed n f sample i)) c.store := by
  induction l generalizing c with
  | nil => rfl
  | cons i l ih => exact ih (shiftIn n f sample c i)

theorem rowValue_cons (sample : Nat → Int) (past : List (Nat → Int)) (i : Nat) :
    rowValue n f (sample :: past) i = cons (matrixed n f sample i) (rowValue n f past i) := by
  funext m
  cases m with
  | zero => rfl
  | succ m => rfl

/-- **One block.** -/
theorem synthesize_plain (hn : n ≤ 8) (hc : HoldsBlocks n f past c) (sample : Nat → Int) :
    HoldsBlocks n f (sample :: past) (synthesize n f c sample).1 ∧
      (synthesize n f c sample).2 = (List.range n).map (plainSample n f (sample :: past)) := by
  obtain ⟨b, hb⟩ := hc
  obtain ⟨hnext, hfull⟩ := hb.pushAll (matrixed n f sample)
  have hring : (synthesize n f c sample).1.store =
      pushAll (2 * n * 10) (10 - 1) (2 * n) (matrixed n f sample) c.store := by
    rw [show 2 * n * 10 = 20 * n by omega]
    exact foldl_shiftIn sample (List.range (2 * n)) c
  simp only [← hring, ← rowValue_cons] at hnext hfull
  refine ⟨⟨_, hnext⟩, List.map_congr_left fun i hi => ?_⟩
  have hi := List.mem_range.mp hi
  have hk : (i + n) % 16 = i + n := Nat.mod_eq_of_lt (by omega)
  have hterm : ∀ t ∈ List.range 5,
      (synthesize n f c sample).1.v ((synthesize n f c sample).1.offset i + 2 * t) *
          f.m0.getD (5 * i + t) 0 +
        (synthesize n f c sample).1.v
            ((synthesize n f c sample).1.offset ((i + n) % 16) + (2 * t + 1)) *
          f.m1.getD (5 * i + t) 0 =
      rowValue n f (sample :: past) i (2 * t) * f.m0.getD (5 * i + t) 0 +
        rowValue n f (sample :: past) (i + n) (2 * t + 1) * f.m1.getD (5 * i + t) 0 := by
    intro t ht
    have ht := List.mem_range.mp ht
    have heven := hfull i (by omega) (2 * t) (by omega)
    have hodd := hfull (i + n) (by omega) (2 * t + 1) (by omega)
    rw [hk]
    rw [← heven, ← hodd]
    rfl
  have hsum := congrArg List.sum (List.map_congr_left hterm)
  exact congrArg (fun s => sbcClip16 (asr s SCALE_STAGED1_BITS)) hsum

/-- The blocks of a frame. -/
theorem synthesizeBlocks_plain (hn : n ≤ 8) (hc : HoldsBlocks n f past c)
    (blocks : List (Nat → Int)) :
    HoldsBlocks n f (plainBlocks n f past blocks).1 (synthesizeBlocks (synthesize n f) c blocks).1 ∧
      (synthesizeBlocks (synthesize n f) c blocks).2 = (plainBlocks n f past blocks).2 := by
  induction blocks generalizing past c with
  | nil => exact ⟨hc, rfl⟩
  | cons sample rest ih =>
    obtain ⟨hnext, hpcm⟩ := synthesize_plain hn hc sample
    obtain ⟨hrest, hpcms⟩ := ih hnext
    exact ⟨hrest, congrArg₂ (· ++ ·) hpcm hpcms⟩

/-- A channel that was just initialised has no blocks. -/
theorem holdsBlocks_nil (hn : 0 < n) (hoffset : ∀ i, i < 2 * n → c.offset i = 10 * i + 10)
    (hv : ∀ i, c.v i = 0) : HoldsBlocks n f [] c := by
  refine ⟨10, ⟨by omega, fun i hi => ?_, fun i _ j _ => hv _⟩⟩
  show c.offset i = _ ∨ _ ∧ c.offset i = _
  rw [hoffset i hi]
  unfold wrap
  split <;> omega

/-! ## A frame -/

def plainSynthesizeAudio (past : Nat → List (Nat → Int)) (h : SbcHeader)
    (samples : List (List Int)) : (Nat → List (Nat → Int)) × List (List Int) :=
  let run (ch : Nat) := plainBlocks h.subbands (filterOf h.subbands) (past ch)
    (samples.map fun block sb => block.getD (ch * h.subbands + sb) 0)
  (fun ch => if ch < h.channels then (run ch).1 else past ch,
    (List.range h.channels).map fun ch => (run ch).2)

/-- The decoder with the blocks so far in place of the ring. -/
structure PlainSbc where
  header : SbcHeader
  past : Nat → List (Nat → Int)
  endian : Endian

def plainDecode (d : PlainSbc) (input : Mem UInt8) (inputLen : Nat) :
    PlainSbc × Int × List UInt8 :=
  let (framelen, h, samples) := (sbcUnpackFrame inputLen d.header).value input
  if framelen ≤ 0 then ({ d with header := h }, framelen, [])
  else
    let (past, pcm) := plainSynthesizeAudio d.past h samples
    (⟨h, past, d.endian⟩, framelen, d.endian.bytes (interleave h pcm DECODE_BUF_SIZE))

/-- Both channels hold the blocks so far. -/
def HoldsPast (n : Nat) (past : Nat → List (Nat → Int)) (st : DecState) : Prop :=
  ∀ ch, ch < 2 → HoldsBlocks n (filterOf n) (past ch) (st.channel ch)

/-- **One frame.** -/
theorem sbcSynthesizeAudio_plain {h : SbcHeader} (hn : n = 4 ∨ n = 8) (hsub : h.subbands = n)
    (hch : h.channels ≤ 2) {blocks : Nat → List (Nat → Int)} {st : DecState}
    (hst : HoldsPast n blocks st) (samples : List (List Int)) :
    HoldsPast n (plainSynthesizeAudio blocks h samples).1 (sbcSynthesizeAudio st h samples).1 ∧
      (sbcSynthesizeAudio st h samples).2 = (plainSynthesizeAudio blocks h samples).2 := by
  subst hsub
  have hall : sbcSynthesizeAudio st h samples =
      ({ st with channel := fun ch =>
          if ch < h.channels then
            (synthesizeBlocks (synthesize h.subbands (filterOf h.subbands)) (st.channel ch)
              (samples.map fun block sb => block.getD (ch * h.subbands + sb) 0)).1
          else st.channel ch },
        (List.range h.channels).map fun ch =>
          (synthesizeBlocks (synthesize h.subbands (filterOf h.subbands)) (st.channel ch)
            (samples.map fun block sb => block.getD (ch * h.subbands + sb) 0)).2) := by
    unfold sbcSynthesizeAudio
    rcases hn with hfour | height
    · simp only [hfour, if_true]
      rfl
    · simp only [height, show (8 : Nat) ≠ 4 by decide, if_false, if_true]
      rfl
  have hstep (ch : Nat) (hlt : ch < 2) := synthesizeBlocks_plain (n := h.subbands) (by omega)
    (hst ch hlt) (samples.map fun block sb => block.getD (ch * h.subbands + sb) 0)
  rw [hall]
  constructor
  · intro ch hlt
    unfold plainSynthesizeAudio
    dsimp only
    split
    · exact (hstep ch hlt).1
    · exact hst ch hlt
  · refine List.map_congr_left fun ch hmem => ?_
    have hlt := List.mem_range.mp hmem
    exact (hstep ch (by omega)).2

/-! ## What the header says -/

/-- The subbands that a frame says it has. -/
def codedSubbands (data : Mem UInt8) : Option Nat :=
  if data 0 = SBC_SYNCWORD then some (if data 1 &&& 0x01 = 0 then 4 else 8)
  else if data 0 = MSBC_SYNCWORD then some 8
  else none

variable {input : Mem UInt8} {inputLen : Nat}

theorem codedSubbands_eq (hsub : codedSubbands input = some n) : n = 4 ∨ n = 8 := by
  unfold codedSubbands at hsub
  split_ifs at hsub <;> simp_all

theorem channels_parseHeader (b1 b2 : UInt8) : (parseHeader b1 b2).channels ≤ 2 := by
  unfold parseHeader
  dsimp only
  split <;> decide

theorem unpackHeader_coded (hsub : codedSubbands input = some n) (old : SbcHeader) :
    ((unpackHeader old).value input).2.subbands = n ∧
      ((unpackHeader old).value input).2.channels ≤ 2 := by
  unfold unpackHeader
  unfold codedSubbands at hsub
  rw [Reads.value_bind, Reads.value_read]
  split
  · rename_i hsync
    rw [if_pos hsync] at hsub
    obtain rfl := Option.some.inj hsub
    exact ⟨rfl, channels_parseHeader _ _⟩
  · rename_i hsync
    rw [if_neg hsync] at hsub
    split
    · rename_i hmsbc
      rw [if_pos hmsbc] at hsub
      obtain rfl := Option.some.inj hsub
      exact ⟨rfl, show msbcHeader.channels ≤ 2 by decide⟩
    · rename_i hmsbc
      rw [if_neg hmsbc] at hsub
      cases hsub

theorem unpackHeader_uncoded (hsub : codedSubbands input = none) (old : SbcHeader) :
    (unpackHeader old).value input = (-2, old) := by
  unfold codedSubbands at hsub
  unfold unpackHeader
  rw [Reads.value_bind, Reads.value_read]
  split_ifs at hsub with hsync hmsbc
  rw [if_neg hsync, if_neg hmsbc]
  rfl

theorem sbcUnpackFrame_header (hlen : 4 ≤ inputLen) (old : SbcHeader) :
    ((sbcUnpackFrame inputLen old).value input).2.1 = ((unpackHeader old).value input).2 := by
  unfold sbcUnpackFrame
  rw [if_neg (Nat.not_lt.mpr hlen), Reads.value_bind]
  generalize (unpackHeader old).value input = r
  obtain ⟨err, h⟩ := r
  dsimp only
  split
  · rfl
  · rw [Reads.value_bind]
    rfl

/-- What is unpacked has a sync word. -/
theorem coded_of_unpacked {old : SbcHeader}
    (hpos : 0 < ((sbcUnpackFrame inputLen old).value input).1) :
    4 ≤ inputLen ∧ ∃ m, codedSubbands input = some m := by
  have hlen : 4 ≤ inputLen := by
    by_contra hshort
    rw [sbcUnpackFrame_short (Nat.not_le.mp hshort)] at hpos
    exact absurd hpos (show ¬ (0 : Int) < -1 by decide)
  refine ⟨hlen, ?_⟩
  cases hsub : codedSubbands input with
  | some m => exact ⟨m, rfl⟩
  | none =>
    unfold sbcUnpackFrame at hpos
    rw [if_neg (Nat.not_lt.mpr hlen), Reads.value_bind, unpackHeader_uncoded hsub] at hpos
    exact absurd hpos (show ¬ (0 : Int) < -2 by decide)

/-! ## A stream -/

/-- The same stream so far. -/
structure Refines (n : Nat) (sbc : Sbc) (d : PlainSbc) : Prop where
  init : sbc.init = true
  header : sbc.header = d.header
  endian : sbc.endian = d.endian
  past : HoldsPast n d.past sbc.decState

/-- **One call of `sbc_decode`**, from the state in which it synthesises. -/
theorem sbcDecode_plain {sbc : Sbc} {d : PlainSbc} (hheader : sbc.header = d.header)
    (hendian : sbc.endian = d.endian)
    (hpast : HoldsPast n d.past (sbc.synthesisState input inputLen))
    (hsub : ∀ m, codedSubbands input = some m → m = n) :
    Refines n (sbcDecode sbc input inputLen).1 (plainDecode d input inputLen).1 ∧
      ((sbcDecode sbc input inputLen).2.framelen, (sbcDecode sbc input inputLen).2.out) =
        (plainDecode d input inputLen).2 := by
  unfold Sbc.synthesisState Sbc.unpack at hpast
  unfold sbcDecode plainDecode Sbc.unpack
  rw [hheader] at hpast ⊢
  have hfacts : 0 < ((sbcUnpackFrame inputLen d.header).value input).1 →
      (n = 4 ∨ n = 8) ∧
      ((sbcUnpackFrame inputLen d.header).value input).2.1.subbands = n ∧
        ((sbcUnpackFrame inputLen d.header).value input).2.1.channels ≤ 2 := by
    intro hpos
    obtain ⟨hlen, m, hm⟩ := coded_of_unpacked hpos
    obtain rfl := hsub m hm
    rw [sbcUnpackFrame_header hlen]
    exact ⟨codedSubbands_eq hm, unpackHeader_coded hm d.header⟩
  generalize (sbcUnpackFrame inputLen d.header).value input = r at hfacts hpast ⊢
  obtain ⟨framelen, h, samples⟩ := r
  dsimp only at hfacts hpast ⊢
  split
  · exact ⟨⟨rfl, rfl, hendian, hpast⟩, rfl⟩
  · rename_i hpos
    obtain ⟨hn, hsub, hch⟩ := hfacts (Int.not_le.mp hpos)
    obtain ⟨hafter, hpcm⟩ := sbcSynthesizeAudio_plain hn hsub hch hpast samples
    refine ⟨⟨rfl, rfl, hendian, hafter⟩, ?_⟩
    dsimp only
    rw [hpcm, hendian]

/-- What the calls return and write. -/
def decodeAll : Sbc → List (Mem UInt8 × Nat) → List (Int × List UInt8)
  | _, [] => []
  | sbc, (input, inputLen) :: rest =>
      let (sbc, res) := sbcDecode sbc input inputLen
      (res.framelen, res.out) :: decodeAll sbc rest

def plainDecodeAll : PlainSbc → List (Mem UInt8 × Nat) → List (Int × List UInt8)
  | _, [] => []
  | d, (input, inputLen) :: rest =>
      let (d, res) := plainDecode d input inputLen
      res :: plainDecodeAll d rest

theorem Refines.decodeAll {sbc : Sbc} {d : PlainSbc} (h : Refines n sbc d)
    {inputs : List (Mem UInt8 × Nat)}
    (hsub : ∀ input ∈ inputs, ∀ m, codedSubbands input.1 = some m → m = n) :
    decodeAll sbc inputs = plainDecodeAll d inputs := by
  induction inputs generalizing sbc d with
  | nil => rfl
  | cons input inputs ih =>
    obtain ⟨hfirst, hrest⟩ := List.forall_mem_cons.mp hsub
    have hstate : sbc.synthesisState input.1 input.2 = sbc.decState := by
      rw [synthesisState_eq, if_pos h.init]
    obtain ⟨hnext, hres⟩ := @sbcDecode_plain n input.1 input.2 sbc d h.header h.endian
      (hstate ▸ h.past) hfirst
    exact congrArg₂ (· :: ·) hres (ih hnext hrest)

/-- A decoder that has decoded nothing yet. -/
def freshSbc (endian : Endian) : Sbc := { sbcInit with endian := endian }

/-- The first frame is synthesised from no blocks. -/
theorem holdsPast_fresh (endian : Endian) (hlen : 4 ≤ inputLen)
    (hcoded : codedSubbands input = some n) :
    HoldsPast n (fun _ => []) ((freshSbc endian).synthesisState input inputLen) := by
  have hn := codedSubbands_eq hcoded
  rw [synthesisState_eq, if_neg (show ¬ (freshSbc endian).init = true from nofun),
    sbcUnpackFrame_header hlen]
  intro ch hch
  have hsub := (unpackHeader_coded hcoded (freshSbc endian).header).1
  refine holdsBlocks_nil (by omega) (fun i hi => ?_) fun _ => rfl
  show (if ch < 2 ∧ i < _ * 2 then 10 * i + 10 else _) = _
  rw [hsub, if_pos ⟨hch, by omega⟩]

/-- **The ring is the plain filter**: over a stream of frames with the same number of subbands, of
which some may be malformed but not the header of the first, a decoder returns and writes what the
filter over the blocks so far does. -/
theorem decodeAll_plain (endian : Endian) (first : Mem UInt8 × Nat)
    (rest : List (Mem UInt8 × Nat)) (hlen : 4 ≤ first.2)
    (hfirst : codedSubbands first.1 = some n)
    (hrest : ∀ input ∈ rest, ∀ m, codedSubbands input.1 = some m → m = n) :
    decodeAll (freshSbc endian) (first :: rest) =
      plainDecodeAll ⟨.zero, fun _ => [], endian⟩ (first :: rest) := by
  have hpast := holdsPast_fresh endian hlen hfirst
  have hsub (m : Nat) (hm : codedSubbands first.1 = some m) : m = n :=
    Option.some.inj (hm.symm.trans hfirst)
  obtain ⟨hnext, hres⟩ := @sbcDecode_plain n _ _ (freshSbc endian) ⟨.zero, fun _ => [], endian⟩
    rfl rfl hpast hsub
  exact congrArg₂ (· :: ·) hres (hnext.decodeAll hrest)

/-- The frame that replaces a lost one, twice. -/
theorem decodeAll_plain_indices0 :
    decodeAll (freshSbc .be) [(Mem.ofList indices0 0, 58), (Mem.ofList indices0 0, 58)] =
      plainDecodeAll ⟨.zero, fun _ => [], .be⟩
        [(Mem.ofList indices0 0, 58), (Mem.ofList indices0 0, 58)] := by
  have hsub : codedSubbands (Mem.ofList indices0 0) = some 8 := rfl
  refine decodeAll_plain .be (Mem.ofList indices0 0, 58) _ (by decide) hsub ?_
  intro input hinput m hm
  obtain rfl := List.mem_singleton.mp hinput
  exact Option.some.inj (hm.symm.trans hsub)

end Sloane.Btremoted
