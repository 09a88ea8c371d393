import Sloane.Btremoted.SbcLayout
import Sloane.Lib.BitPack

/-!
# Packing a frame

Model of `sbc_pack_frame` in `btremoted/msbc.c`, and of what `sbc_encode` checks before it calls
it.  What the encoder computes before, the scale factors and the subband samples, is an input.

* `quantize_lt` — a sample fits into the bits that it was given.
* `packFrame_bits` — what a packed frame consists of, bit by bit.
* `length_body` — how long it is.
* `packFrame_ok` — a valid frame is packed.
-/

namespace Sloane.Btremoted

open Sloane.Lib BitPack

/-! ## The frame -/

/-- What `sbc_pack_frame` reads of `struct sbc_frame`. -/
structure SbcFrame where
  header : SbcHeader
  block_mode : Nat
  scale_factor : Nat → Nat → Nat
  sb_sample_f : Nat → Nat → Nat → Int

def SbcMode.code : SbcMode → Nat
  | .mono => 0
  | .dualChannel => 1
  | .stereo => 2
  | .jointStereo => 3

def SbcAllocation.code : SbcAllocation → Nat
  | .loudness => 0
  | .snr => 1

/-- `data[1]` -/
def SbcFrame.headerByte (frame : SbcFrame) (subbands : Nat) : UInt8 :=
  .ofNat ((frame.header.frequency &&& 0x03) <<< 6 ||| (frame.block_mode &&& 0x03) <<< 4 |||
    (frame.header.mode.code &&& 0x03) <<< 2 ||| (frame.header.allocation.code &&& 0x01) <<< 1 |||
    (if subbands = 8 then 0x01 else 0))

/-- The scale factors in the order of the loops over channels and subbands. -/
def SbcFrame.scaleFactors (frame : SbcFrame) (subbands channels : Nat) : List Nat :=
  (List.range channels).flatMap fun ch => (List.range subbands).map fun sb =>
    frame.scale_factor ch sb

/-! ## The checksum -/

/-- A half of a byte is added to `crc_header`; `crc_pos` is the position in bits. -/
def crcPut (st : Mem UInt8 × Nat) (v : Nat) : Mem UInt8 × Nat :=
  (st.1.write (st.2 / 8) [st.1 (st.2 / 8) <<< 4 ||| (.ofNat v &&& 0x0F)], st.2 + 4)

/-- `crc_header` and `crc_pos`. -/
def crcHeader (data1 data2 : UInt8) (mode : SbcMode) (joint subbands : Nat)
    (scaleFactors : List Nat) : Mem UInt8 × Nat :=
  let header : Mem UInt8 := Mem.ofList [data1, data2] 0
  let st :=
    if mode = .jointStereo then (header.write 2 [.ofNat joint], 16 + subbands) else (header, 16)
  let (header, crcPos) := scaleFactors.foldl crcPut st
  -- align the last crc byte
  if crcPos % 8 ≠ 0 then
    (header.write (crcPos / 8) [header (crcPos / 8) <<< (.ofNat (8 - crcPos % 8))], crcPos)
  else (header, crcPos)

/-! ## The samples -/

def SCALE_OUT_BITS : Nat := 15

/-- `audio_sample`, in the arithmetic of `uint32_t` and `uint64_t`. -/
def quantize (bits scaleFactor : Nat) (sample : Int) : Nat :=
  let level := ((1 <<< bits - 1) <<< (32 - (scaleFactor + SCALE_OUT_BITS + 2))) % 2 ^ 32
  let sampleDelta := (1 <<< (scaleFactor + SCALE_OUT_BITS + 1)) % 2 ^ 32
  (level * ((sampleDelta + sample) % 2 ^ 32).toNat) >>> 32

/-- The numbers that are written for a block, with their bits; without bits none is. -/
def SbcFrame.blockFields (frame : SbcFrame) (bits : List (List Nat)) (subbands channels blk : Nat) :
    List (Nat × Nat) :=
  (List.range channels).flatMap fun ch => (List.range subbands).filterMap fun sb =>
    let b := (bits.getD ch []).getD sb 0
    if b = 0 then none
    else some (b, quantize b (frame.scale_factor ch sb) (frame.sb_sample_f blk ch sb))

/-- All that is written, in the order of the calls of `PUT_BITS`. -/
def SbcFrame.fields (frame : SbcFrame) (bits : List (List Nat)) (subbands channels joint : Nat) :
    List (Nat × Nat) :=
  (if frame.header.mode = .jointStereo then [(subbands, joint)] else []) ++
    (frame.scaleFactors subbands channels).map (fun scaleFactor => (4, scaleFactor &&& 0x0F)) ++
    (List.range frame.header.blocks).flatMap fun blk =>
      frame.blockFields bits subbands channels blk

/-! ## The packed frame -/

/-- The error, or the packed frame. -/
def packFrameInternal (frame : SbcFrame) (subbands channels joint : Nat) :
    Except Int (List UInt8) :=
  if subbands ≠ 4 ∧ subbands ≠ 8 then .error (-4)
  else
    let data1 := frame.headerByte subbands
    let data2 : UInt8 := .ofNat frame.header.bitpool
    let mode := frame.header.mode
    if (mode = .mono ∨ mode = .dualChannel) ∧ subbands <<< 4 < frame.header.bitpool then .error (-5)
    else if (mode = .stereo ∨ mode = .jointStereo) ∧ subbands <<< 5 < frame.header.bitpool then
      .error (-5)
    else
      let (header, crcPos) := crcHeader data1 data2 mode joint subbands
        (frame.scaleFactors subbands channels)
      let bits := calculateBits frame.header
        ((List.range channels).map fun ch => (List.range subbands).map fun sb =>
          frame.scale_factor ch sb)
      let w := Writer.empty.puts (frame.fields bits subbands channels joint)
      .ok (SBC_SYNCWORD :: data1 :: data2 :: sbcCrc8 (header.read 0 11) crcPos :: w.flush)

def packFrame (frame : SbcFrame) (joint : Nat) : Except Int (List UInt8) :=
  packFrameInternal frame (if frame.header.subbands = 4 then 4 else 8)
    (if frame.header.channels = 1 then 1 else 2) joint

/-! ## What is written fits -/

/-- The arithmetic does not overflow for what the subband filter yields. -/
theorem quantize_eq {bits scaleFactor : Nat} {sample : Int} (hbits : bits ≤ 16)
    (hscale : scaleFactor ≤ 15) (hlow : -(2 : Int) ^ (scaleFactor + 16) ≤ sample)
    (hhigh : sample < 2 ^ (scaleFactor + 16)) :
    quantize bits scaleFactor sample =
      (2 ^ bits - 1) * (2 ^ (scaleFactor + 16) + sample).toNat / 2 ^ (scaleFactor + 17) := by
  have hpow : (2 : Nat) ^ bits ≤ 2 ^ 16 := Nat.pow_le_pow_right (by decide) hbits
  have hsplit : (2 : Nat) ^ 32 = 2 ^ (15 - scaleFactor) * 2 ^ (scaleFactor + 17) := by
    rw [← Nat.pow_add]
    congr 1
    omega
  have hlevel : (2 ^ bits - 1) * 2 ^ (15 - scaleFactor) < 2 ^ 32 := by
    have hshift : (2 : Nat) ^ (15 - scaleFactor) ≤ 2 ^ 15 :=
      Nat.pow_le_pow_right (by decide) (Nat.sub_le _ _)
    calc (2 ^ bits - 1) * 2 ^ (15 - scaleFactor) ≤ 2 ^ 16 * 2 ^ 15 :=
          Nat.mul_le_mul (by omega) hshift
      _ < 2 ^ 32 := by decide
  have hdelta : (2 : Nat) ^ (scaleFactor + 16) < 2 ^ 32 :=
    Nat.pow_lt_pow_right (by decide) (by omega)
  have hcast : (((2 : Nat) ^ (scaleFactor + 16) : Nat) : Int) = 2 ^ (scaleFactor + 16) := by
    push_cast
    rfl
  have htop : (2 : Int) ^ (scaleFactor + 16) + 2 ^ (scaleFactor + 16) ≤ 2 ^ 32 := by
    have hnat : (2 : Nat) ^ (scaleFactor + 16) ≤ 2 ^ 31 :=
      Nat.pow_le_pow_right (by decide) (by omega)
    omega
  have hmod : ((2 : Int) ^ (scaleFactor + 16) + sample) % 2 ^ 32 =
      2 ^ (scaleFactor + 16) + sample := Int.emod_eq_of_lt (by omega) (by omega)
  unfold quantize
  rw [show 32 - (scaleFactor + SCALE_OUT_BITS + 2) = 15 - scaleFactor by
      unfold SCALE_OUT_BITS; omega,
    show scaleFactor + SCALE_OUT_BITS + 1 = scaleFactor + 16 from rfl]
  dsimp only
  rw [Nat.shiftLeft_eq, Nat.shiftLeft_eq, Nat.shiftLeft_eq, Nat.one_mul, Nat.one_mul,
    Nat.mod_eq_of_lt hlevel, Nat.mod_eq_of_lt hdelta, hcast, hmod, Nat.shiftRight_eq_div_pow,
    hsplit, Nat.mul_comm (2 ^ bits - 1), Nat.mul_assoc,
    Nat.mul_div_mul_left _ _ (Nat.two_pow_pos _)]

/-- **A sample fits** into its bits; all of them set is never written. -/
theorem quantize_lt {bits scaleFactor : Nat} {sample : Int} (hpos : 0 < bits) (hbits : bits ≤ 16)
    (hscale : scaleFactor ≤ 15) (hlow : -(2 : Int) ^ (scaleFactor + 16) ≤ sample)
    (hhigh : sample < 2 ^ (scaleFactor + 16)) :
    quantize bits scaleFactor sample < 2 ^ bits - 1 := by
  have hone : 2 ≤ 2 ^ bits := Nat.le_self_pow (by omega) 2
  have hcast : (((2 : Nat) ^ (scaleFactor + 17) : Nat) : Int) =
      2 ^ (scaleFactor + 16) + 2 ^ (scaleFactor + 16) := by
    push_cast
    rw [show scaleFactor + 17 = scaleFactor + 16 + 1 from rfl, pow_succ, mul_two]
  have hsample : (2 ^ (scaleFactor + 16) + sample).toNat < 2 ^ (scaleFactor + 17) := by
    omega
  rw [quantize_eq hbits hscale hlow hhigh, Nat.div_lt_iff_lt_mul (Nat.two_pow_pos _)]
  exact Nat.mul_lt_mul_of_pos_left hsample (by omega)

/-- Without bits there is nothing to write. -/
theorem quantize_zero (scaleFactor : Nat) (sample : Int) : quantize 0 scaleFactor sample = 0 := by
  simp [quantize]

/-- A frame as the encoder fills it in. -/
structure SbcFrame.Valid (frame : SbcFrame) (joint : Nat) : Prop where
  frequency : frame.header.frequency < 4
  block_mode : frame.block_mode < 4
  blocks : frame.header.blocks = 4 * (frame.block_mode + 1)
  subbands : frame.header.subbands = 4 ∨ frame.header.subbands = 8
  header : frame.header.Unpackable
  bitpool : frame.header.bitpool < 256
  joint_lt : joint < 2 ^ frame.header.subbands
  scale_factor : ∀ ch < frame.header.channels, ∀ sb < frame.header.subbands,
    frame.scale_factor ch sb ≤ 15
  sb_sample_f : ∀ blk < frame.header.blocks, ∀ ch < frame.header.channels,
    ∀ sb < frame.header.subbands,
      -2 ^ (frame.scale_factor ch sb + 16) ≤ frame.sb_sample_f blk ch sb ∧
        frame.sb_sample_f blk ch sb < 2 ^ (frame.scale_factor ch sb + 16)

/-! ## The bits of a packed frame -/

/-- The scale factors of each channel. -/
def SbcFrame.scales (frame : SbcFrame) : List (List Nat) :=
  (List.range frame.header.channels).map fun ch => (List.range frame.header.subbands).map fun sb =>
    frame.scale_factor ch sb

def SbcFrame.bits (frame : SbcFrame) : List (List Nat) := calculateBits frame.header frame.scales

/-- The samples of a block as they are packed: the bits, the scale factor and the number. -/
def SbcFrame.codes (frame : SbcFrame) (blk : Nat) : List (Nat × Nat × Nat) :=
  (List.range frame.header.channels).flatMap fun ch =>
    (List.range frame.header.subbands).map fun sb =>
      ((frame.bits.getD ch []).getD sb 0, frame.scale_factor ch sb,
        quantize ((frame.bits.getD ch []).getD sb 0) (frame.scale_factor ch sb)
          (frame.sb_sample_f blk ch sb))

/-- The bits of packed samples. -/
def codeBits (codes : List (Nat × Nat × Nat)) : List Bool := codes.flatMap fun e => bitsOf e.1 e.2.2

theorem length_codeBits (codes : List (Nat × Nat × Nat)) :
    (codeBits codes).length = (codes.map Prod.fst).sum := by
  unfold codeBits
  rw [List.length_flatMap]
  simp only [length_bitsOf]

variable {frame : SbcFrame} {joint : Nat}

theorem SbcFrame.Valid.scaleFactors (hv : frame.Valid joint) :
    ScaleFactors frame.header frame.scales where
  channels := by simp [SbcFrame.scales]
  subbands channel hmem := by
    obtain ⟨ch, -, rfl⟩ := List.mem_map.mp hmem
    simp
  le channel hmem scaleFactor hscale := by
    obtain ⟨ch, hch, rfl⟩ := List.mem_map.mp hmem
    obtain ⟨sb, hsb, rfl⟩ := List.mem_map.mp hscale
    exact hv.scale_factor ch (List.mem_range.mp hch) sb (List.mem_range.mp hsb)

theorem SbcFrame.bits_le (hv : frame.Valid joint) (ch sb : Nat) :
    (frame.bits.getD ch []).getD sb 0 ≤ 16 := by
  have hshape := (calculateBits_shape hv.scaleFactors).2
  rcases getD_mem_or_default frame.bits ch [] with hmem | hnil
  · rcases getD_mem_or_default (frame.bits.getD ch []) sb 0 with hb | hzero
    · exact (hshape _ hmem).2 _ hb
    · rw [hzero]
      exact Nat.zero_le 16
  · rw [hnil]
    exact Nat.zero_le 16

/-- The samples fit into their bits. -/
theorem codes_lt (hv : frame.Valid joint) {blk : Nat} (hblk : blk < frame.header.blocks)
    {e : Nat × Nat × Nat} (hmem : e ∈ frame.codes blk) :
    e.1 ≤ 16 ∧ e.2.1 ≤ 15 ∧ (0 < e.1 → e.2.2 < 2 ^ e.1 - 1) := by
  obtain ⟨ch, hch, hsbs⟩ := List.mem_flatMap.mp hmem
  obtain ⟨sb, hsb, rfl⟩ := List.mem_map.mp hsbs
  have hch := List.mem_range.mp hch
  have hsb := List.mem_range.mp hsb
  obtain ⟨hlow, hhigh⟩ := hv.sb_sample_f blk hblk ch hch sb hsb
  have hscale := hv.scale_factor ch hch sb hsb
  have hbits := frame.bits_le hv ch sb
  exact ⟨hbits, hscale, fun hpos => quantize_lt hpos hbits hscale hlow hhigh⟩

theorem code_fits (hv : frame.Valid joint) {blk : Nat} (hblk : blk < frame.header.blocks)
    {e : Nat × Nat × Nat} (hmem : e ∈ frame.codes blk) : e.2.2 < 2 ^ e.1 := by
  obtain ⟨-, -, hlt⟩ := codes_lt hv hblk hmem
  obtain ⟨ch, -, hsbs⟩ := List.mem_flatMap.mp hmem
  obtain ⟨sb, -, rfl⟩ := List.mem_map.mp hsbs
  rcases Nat.eq_zero_or_pos ((frame.bits.getD ch []).getD sb 0) with hzero | hpos
  · dsimp only
    rw [hzero, quantize_zero]
    exact Nat.one_pos
  · exact Nat.lt_of_lt_of_le (hlt hpos) (Nat.sub_le _ _)

/-- Passing over samples without bits leaves no trace. -/
theorem fieldBits_filterMap (l : List Nat) (bits value : Nat → Nat) :
    fieldBits (l.filterMap fun sb => if bits sb = 0 then none else some (bits sb, value sb)) =
      l.flatMap fun sb => bitsOf (bits sb) (value sb) := by
  induction l with
  | nil => rfl
  | cons sb l ih =>
    rw [List.flatMap_cons, ← ih, List.filterMap_cons]
    by_cases hzero : bits sb = 0
    · rw [if_pos hzero, hzero]
      rfl
    · rw [if_neg hzero]
      rfl

theorem fieldBits_flatMap (l : List Nat) (g : Nat → List (Nat × Nat)) :
    fieldBits (l.flatMap g) = l.flatMap fun k => fieldBits (g k) := List.flatMap_assoc

/-- The bits of a block are those of its samples. -/
theorem fieldBits_blockFields (frame : SbcFrame) (blk : Nat) :
    fieldBits (frame.blockFields frame.bits frame.header.subbands frame.header.channels blk) =
      codeBits (frame.codes blk) := by
  unfold SbcFrame.blockFields SbcFrame.codes codeBits
  rw [fieldBits_flatMap, List.flatMap_assoc]
  refine congrArg (List.flatMap · _) (funext fun ch => ?_)
  rw [fieldBits_filterMap, List.flatMap_map]

/-- All that is written of a valid frame fits. -/
theorem fields_fit (hv : frame.Valid joint) {field : Nat × Nat}
    (hmem : field ∈ frame.fields frame.bits frame.header.subbands frame.header.channels joint) :
    field.1 ≤ 16 ∧ field.2 < 2 ^ field.1 := by
  unfold SbcFrame.fields at hmem
  rcases List.mem_append.mp hmem with hfront | hsamples
  · rcases List.mem_append.mp hfront with hjoint | hscale
    · split at hjoint
      · rw [List.mem_singleton.mp hjoint]
        exact ⟨by rcases hv.subbands with h | h <;> omega, hv.joint_lt⟩
      · exact absurd hjoint (List.not_mem_nil)
    · obtain ⟨scaleFactor, -, rfl⟩ := List.mem_map.mp hscale
      exact ⟨show 4 ≤ 16 by decide, Nat.lt_succ_of_le Nat.and_le_right⟩
  · obtain ⟨blk, hblk, hfield⟩ := List.mem_flatMap.mp hsamples
    obtain ⟨ch, hch, hsbs⟩ := List.mem_flatMap.mp hfield
    obtain ⟨sb, hsb, hsome⟩ := List.mem_filterMap.mp hsbs
    have hcode : ((frame.bits.getD ch []).getD sb 0, frame.scale_factor ch sb,
        quantize ((frame.bits.getD ch []).getD sb 0) (frame.scale_factor ch sb)
          (frame.sb_sample_f blk ch sb)) ∈ frame.codes blk :=
      List.mem_flatMap.mpr ⟨ch, hch, List.mem_map.mpr ⟨sb, hsb, rfl⟩⟩
    obtain ⟨hbits, -, -⟩ := codes_lt hv (List.mem_range.mp hblk) hcode
    have hfits := code_fits hv (List.mem_range.mp hblk) hcode
    dsimp only at hsome hbits hfits
    split at hsome
    · exact absurd hsome nofun
    · rw [← Option.some.inj hsome]
      exact ⟨hbits, hfits⟩

/-- What is behind the four bytes of the header. -/
def SbcFrame.body (frame : SbcFrame) (joint : Nat) : List UInt8 :=
  (Writer.empty.puts
    (frame.fields frame.bits frame.header.subbands frame.header.channels joint)).flush

/-- **A packed frame**, bit by bit. -/
theorem packFrame_bits (hv : frame.Valid joint) : ∃ pad < 8, byteBits (frame.body joint) =
    fieldBits (frame.fields frame.bits frame.header.subbands frame.header.channels joint) ++
      List.replicate pad false := by
  obtain ⟨hbits, -⟩ := Writer.puts_bits (show Writer.empty.count < 16 by decide)
    fun field hmem => fields_fit hv hmem
  rw [Writer.bits_empty, List.nil_append] at hbits
  have hflush := Writer.flush_bits (Writer.empty.puts
    (frame.fields frame.bits frame.header.subbands frame.header.channels joint))
  rw [hbits] at hflush
  exact ⟨_, Nat.mod_lt _ (by decide), hflush⟩

theorem sum_codes (hv : frame.Valid joint) (blk : Nat) :
    ((frame.codes blk).map Prod.fst).sum = frame.header.blockBits := by
  obtain ⟨hchannels, hshape⟩ := calculateBits_shape hv.scaleFactors
  have htable := table_eq 0 hchannels fun channel hmem => (hshape channel hmem).1
  rw [← sum_calculateBits hv.header hv.scaleFactors, htable]
  unfold SbcFrame.codes
  rw [List.map_flatMap, List.flatMap_def]
  simp only [List.map_map, Function.comp_def]
  rfl

theorem length_codes (hv : frame.Valid joint) (blk : Nat) :
    (codeBits (frame.codes blk)).length = frame.header.blockBits :=
  (length_codeBits _).trans (sum_codes hv blk)

/-- What is packed of a frame, in bits. -/
theorem length_fieldBits_fields (hv : frame.Valid joint) :
    (fieldBits (frame.fields frame.bits frame.header.subbands frame.header.channels joint)).length =
      (if frame.header.mode = .jointStereo then frame.header.subbands else 0) +
        4 * (frame.header.channels * frame.header.subbands) +
          frame.header.blocks * frame.header.blockBits := by
  have hscales : (fieldBits ((frame.scaleFactors frame.header.subbands frame.header.channels).map
      fun scaleFactor => (4, scaleFactor &&& 0x0F))).length =
        4 * (frame.header.channels * frame.header.subbands) := by
    rw [length_fieldBits, List.map_map]
    simp [SbcFrame.scaleFactors, Function.comp_def, Nat.mul_comm]
  have hblocks : (fieldBits ((List.range frame.header.blocks).flatMap fun blk =>
      frame.blockFields frame.bits frame.header.subbands frame.header.channels blk)).length =
        frame.header.blocks * frame.header.blockBits := by
    rw [fieldBits_flatMap, List.length_flatMap]
    simp only [fieldBits_blockFields, length_codes hv]
    simp
  unfold SbcFrame.fields
  rw [fieldBits_append, fieldBits_append, List.length_append, List.length_append, hscales, hblocks]
  split
  · simp [fieldBits]
  · rfl

/-- **How long a packed frame is**, without the four bytes of the header. -/
theorem length_body (hv : frame.Valid joint) : (frame.body joint).length =
    ((if frame.header.mode = .jointStereo then frame.header.subbands else 0) +
      4 * (frame.header.channels * frame.header.subbands) +
        frame.header.blocks * frame.header.blockBits + 7) / 8 := by
  obtain ⟨pad, hpad, hbits⟩ := packFrame_bits hv
  have hlength := congrArg List.length hbits
  rw [length_byteBits, List.length_append, length_fieldBits_fields hv, List.length_replicate]
    at hlength
  omega

/-- A valid frame is packed. -/
theorem packFrame_ok (hv : frame.Valid joint) : packFrame frame joint = .ok
    (SBC_SYNCWORD :: frame.headerByte frame.header.subbands :: .ofNat frame.header.bitpool ::
      (sbcCrc8 ((crcHeader (frame.headerByte frame.header.subbands) (.ofNat frame.header.bitpool)
          frame.header.mode joint frame.header.subbands
          (frame.scaleFactors frame.header.subbands frame.header.channels)).1.read 0 11)
        (crcHeader (frame.headerByte frame.header.subbands) (.ofNat frame.header.bitpool)
          frame.header.mode joint frame.header.subbands
          (frame.scaleFactors frame.header.subbands frame.header.channels)).2) ::
      frame.body joint) := by
  have hsubbands : (if frame.header.subbands = 4 then 4 else 8) = frame.header.subbands := by
    rcases hv.subbands with h | h <;> rw [h] <;> rfl
  have hchannels : (if frame.header.channels = 1 then 1 else 2) = frame.header.channels := by
    rw [hv.header.channels]
    split_ifs <;> first | rfl | omega
  have hpool := hv.header.bitpool
  unfold SbcHeader.maxBitpool at hpool
  unfold packFrame packFrameInternal
  rw [hsubbands, hchannels, if_neg (by rcases hv.subbands with h | h <;> omega), if_neg, if_neg]
  · rfl
  · rintro ⟨hmode | hmode, hlt⟩ <;> rw [hmode] at hpool <;> dsimp only at hpool <;>
      rw [Nat.shiftLeft_eq] at hlt <;> omega
  · rintro ⟨hmode | hmode, hlt⟩ <;> rw [hmode] at hpool <;> dsimp only at hpool <;>
      rw [Nat.shiftLeft_eq] at hlt <;> omega

end Sloane.Btremoted
