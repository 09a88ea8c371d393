import Sloane.Btremoted.SbcFields

/-!
# A frame is unpacked as it was packed

Whatever `sbc_pack_frame` writes, `sbc_unpack_frame` accepts: the header, the scale factors and the
joint bits are those that went in, and each sample is what its number stands for.

* `parts_at` — where the parts of a packed frame are found.
* `value_unpackChecked` — what is unpacked from behind the joint bits.
* `unpack_packFrame` — the round trip.
-/

namespace Sloane.Btremoted

open Sloane.Lib BitPack

variable {frame : SbcFrame} {joint : Nat} {data : Mem UInt8} {len : Nat}

/-! ## What is expected -/

/-- The subbands in which sum and difference were packed; that of the last subband is not used. -/
def SbcFrame.jointed (frame : SbcFrame) (joint sb : Nat) : Bool :=
  frame.header.mode = .jointStereo && (sb < frame.header.subbands - 1 &&
    joint.testBit (frame.header.subbands - 1 - sb))

/-- The samples that are unpacked. -/
def SbcFrame.decoded (frame : SbcFrame) (joint : Nat) : List (List Int) :=
  (List.range frame.header.blocks).map fun blk =>
    undoJoint frame.header.subbands (frame.jointed joint) ((frame.codes blk).map codeSample)

/-- The samples of all blocks, in bits. -/
def SbcFrame.sampleBits (frame : SbcFrame) : List Bool :=
  ((List.range frame.header.blocks).map frame.codes).flatMap codeBits

/-- The samples are laid out alike in every block. -/
theorem layout_codes (hv : frame.Valid joint) (blk : Nat) :
    (calculateBits frame.header frame.scales).flatten.zip frame.scales.flatten =
      (frame.codes blk).map fun e => (e.1, e.2.1) := by
  obtain ⟨hchannels, hshape⟩ := calculateBits_shape hv.scaleFactors
  have htable := table_eq 0 hchannels fun channel hmem => (hshape channel hmem).1
  have hzip (channels : Nat) (b s : Nat → Nat → Nat) :
      ((List.range channels).flatMap fun ch => (List.range frame.header.subbands).map (b ch)).zip
        ((List.range channels).flatMap fun ch => (List.range frame.header.subbands).map (s ch)) =
      (List.range channels).flatMap fun ch =>
        (List.range frame.header.subbands).map fun sb => (b ch sb, s ch sb) := by
    induction channels with
    | zero => rfl
    | succ channels ih =>
      have hlength : ((List.range channels).flatMap fun ch =>
          (List.range frame.header.subbands).map (b ch)).length =
            ((List.range channels).flatMap fun ch =>
              (List.range frame.header.subbands).map (s ch)).length := by
        simp
      simp only [List.range_succ, List.flatMap_append, List.zip_append hlength, ih]
      simp [List.zip_map']
  rw [htable]
  unfold SbcFrame.codes SbcFrame.scales
  rw [← List.flatMap_def, ← List.flatMap_def, hzip, List.map_flatMap]
  simp only [List.map_map, Function.comp_def]
  rfl

/-! ## Where the parts are -/

/-- The bytes of the header, and the bits behind them. -/
theorem header_at {bytes : List UInt8} {b0 b1 b2 b3 : UInt8}
    (hread : data.read 0 (b0 :: b1 :: b2 :: b3 :: bytes).length = b0 :: b1 :: b2 :: b3 :: bytes) :
    data 0 = b0 ∧ data 1 = b1 ∧ data 2 = b2 ∧ data 3 = b3 ∧
      bitsAt data 32 (8 * bytes.length) = byteBits bytes := by
  have hlength : (b0 :: b1 :: b2 :: b3 :: bytes).length = 4 + bytes.length := by
    simp only [List.length_cons]
    omega
  rw [hlength, Mem.read_add] at hread
  have hfour : data.read 0 4 = [data 0, data 1, data 2, data 3] := rfl
  rw [hfour] at hread
  simp only [List.cons_append, List.nil_append, List.cons.injEq] at hread
  obtain ⟨h0, h1, h2, h3, hrest⟩ := hread
  refine ⟨h0, h1, h2, h3, ?_⟩
  rw [show (32 : Nat) = 8 * 4 from rfl, bitsAt_byteBits]
  exact congrArg byteBits hrest

/-- **Where the parts are**: the joint bits, the scale factors and the samples. -/
theorem parts_at (hv : frame.Valid joint)
    (hbody : bitsAt data 32 (8 * (frame.body joint).length) = byteBits (frame.body joint)) :
    bitsAt data 32 frame.header.jointBits =
        (if frame.header.mode = .jointStereo then bitsOf frame.header.subbands joint else []) ∧
      bitsAt data (32 + frame.header.jointBits)
          (4 * frame.header.subbands * frame.header.channels) =
        ((List.range frame.header.channels).flatMap fun ch =>
          (List.range frame.header.subbands).flatMap fun sb =>
            bitsOf 4 (frame.scale_factor ch sb &&& 0x0F)) ∧
      bitsAt data (32 + frame.header.jointBits + 4 * frame.header.subbands * frame.header.channels)
        frame.sampleBits.length = frame.sampleBits := by
  obtain ⟨pad, -, hbits⟩ := packFrame_bits hv
  have hlength := congrArg List.length hbits
  rw [length_byteBits, List.length_append, List.length_replicate] at hlength
  rw [hbits] at hbody
  have hfields := (bitsAt_of_append hbody (by rw [hlength, List.length_replicate])).1
  have hjoint : fieldBits (if frame.header.mode = .jointStereo then
      [(frame.header.subbands, joint)] else []) =
        if frame.header.mode = .jointStereo then bitsOf frame.header.subbands joint else [] := by
    split
    · exact List.append_nil _
    · rfl
  have hscales : fieldBits ((frame.scaleFactors frame.header.subbands frame.header.channels).map
      fun scaleFactor => (4, scaleFactor &&& 0x0F)) =
        (List.range frame.header.channels).flatMap fun ch =>
          (List.range frame.header.subbands).flatMap fun sb =>
            bitsOf 4 (frame.scale_factor ch sb &&& 0x0F) := by
    unfold fieldBits SbcFrame.scaleFactors
    rw [List.flatMap_map, List.flatMap_assoc]
    simp only [List.flatMap_map]
  have hsamples : fieldBits ((List.range frame.header.blocks).flatMap fun blk =>
      frame.blockFields frame.bits frame.header.subbands frame.header.channels blk) =
        frame.sampleBits := by
    unfold SbcFrame.sampleBits
    rw [fieldBits_flatMap, List.flatMap_map]
    simp only [fieldBits_blockFields]
  unfold SbcFrame.fields at hfields
  rw [fieldBits_append, fieldBits_append, hjoint, hscales, hsamples] at hfields
  have hjointLength : (if frame.header.mode = .jointStereo then
      bitsOf frame.header.subbands joint else []).length = frame.header.jointBits := by
    unfold SbcHeader.jointBits
    split
    · exact length_bitsOf _ _
    · rfl
  have hscaleLength : ((List.range frame.header.channels).flatMap fun ch =>
      (List.range frame.header.subbands).flatMap fun sb =>
        bitsOf 4 (frame.scale_factor ch sb &&& 0x0F)).length =
          4 * frame.header.subbands * frame.header.channels := by
    simp only [List.length_flatMap, length_bitsOf]
    simp
    ring
  obtain ⟨hfront, hsampleAt⟩ := bitsAt_of_append hfields (List.length_append ..)
  obtain ⟨hjointAt, hscaleAt⟩ := bitsAt_of_append hfront (List.length_append ..)
  rw [List.length_append, hjointLength, hscaleLength, ← Nat.add_assoc] at hsampleAt
  rw [hjointLength] at hjointAt
  rw [hjointLength, hscaleLength] at hscaleAt
  exact ⟨hjointAt, hscaleAt, hsampleAt⟩

/-- How long the samples are. -/
theorem length_sampleBits (hv : frame.Valid joint) :
    frame.sampleBits.length = frame.header.blocks * frame.header.blockBits := by
  unfold SbcFrame.sampleBits
  rw [List.flatMap_map, List.length_flatMap]
  simp only [length_codes hv]
  simp

/-! ## What is unpacked -/

theorem nibble_eq {scaleFactor : Nat} (hle : scaleFactor ≤ 15) :
    UInt8.ofNat ((scaleFactor &&& 0x0F) % 2 ^ 4) = nibble scaleFactor ∧
      (UInt8.ofNat ((scaleFactor &&& 0x0F) % 2 ^ 4)).toNat = scaleFactor := by
  have hall : ∀ n < 16, UInt8.ofNat ((n &&& 0x0F) % 2 ^ 4) = nibble n ∧
      (UInt8.ofNat ((n &&& 0x0F) % 2 ^ 4)).toNat = n := by decide
  exact hall scaleFactor (by omega)

/-- The scale factors as they are unpacked. -/
def SbcFrame.scaleBytes (frame : SbcFrame) : List (List UInt8) :=
  (List.range frame.header.channels).map fun ch => (List.range frame.header.subbands).map fun sb =>
    .ofNat ((frame.scale_factor ch sb &&& 0x0F) % 2 ^ 4)

theorem scaleBytes_toNat (hv : frame.Valid joint) :
    (frame.scaleBytes.map fun channel => channel.map UInt8.toNat) = frame.scales := by
  unfold SbcFrame.scaleBytes SbcFrame.scales
  rw [List.map_map]
  refine List.map_congr_left fun ch hch => ?_
  rw [Function.comp_apply, List.map_map]
  refine List.map_congr_left fun sb hsb => ?_
  exact (nibble_eq (hv.scale_factor ch (List.mem_range.mp hch) sb (List.mem_range.mp hsb))).2

theorem scaleBytes_flatten (hv : frame.Valid joint) : frame.scaleBytes.flatten =
    (frame.scaleFactors frame.header.subbands frame.header.channels).map nibble := by
  unfold SbcFrame.scaleBytes SbcFrame.scaleFactors
  rw [← List.flatMap_def, List.map_flatMap]
  refine List.flatMap_congr fun ch hch => ?_
  rw [List.map_map]
  refine List.map_congr_left fun sb hsb => ?_
  exact (nibble_eq (hv.scale_factor ch (List.mem_range.mp hch) sb (List.mem_range.mp hsb))).1

theorem length_body_eq (hv : frame.Valid joint) :
    (frame.header.totalBits + 7) / 8 = 4 + (frame.body joint).length := by
  rw [length_body hv]
  unfold SbcHeader.totalBits SbcHeader.jointBits
  rw [show 4 * frame.header.subbands * frame.header.channels =
    4 * (frame.header.channels * frame.header.subbands) by ring]
  omega

/-- The return value: the length, and one more if a zero follows. -/
def unpackedLength (data : Mem UInt8) (bytes : Nat) : Int :=
  if data bytes = 0 then bytes + 1 else bytes

/-- From behind the scale factors. -/
theorem value_unpackAudio (hv : frame.Valid joint)
    (hsamples : bitsAt data (32 + frame.header.jointBits + 4 * frame.header.subbands *
      frame.header.channels) frame.sampleBits.length = frame.sampleBits)
    (hfits : frame.header.totalBits ≤ bitLen len) (jointed : Nat → Bool) :
    (unpackAudio len frame.header frame.scales jointed
      (32 + frame.header.jointBits + 4 * frame.header.subbands * frame.header.channels)).value
        data =
        (unpackedLength data ((frame.header.totalBits + 7) / 8),
          (List.range frame.header.blocks).map fun blk =>
            undoJoint frame.header.subbands jointed ((frame.codes blk).map codeSample)) := by
  have hlength := length_sampleBits hv
  have hend : 32 + frame.header.jointBits + 4 * frame.header.subbands * frame.header.channels +
      frame.sampleBits.length = frame.header.totalBits := by
    rw [hlength]
    rfl
  have hlayout : ∀ codes ∈ (List.range frame.header.blocks).map frame.codes,
      (codes.map fun e => (e.1, e.2.1)) =
        (calculateBits frame.header frame.scales).flatten.zip frame.scales.flatten := by
    intro codes hmem
    obtain ⟨blk, -, rfl⟩ := List.mem_map.mp hmem
    exact (layout_codes hv blk).symm
  have hcodes : ∀ codes ∈ (List.range frame.header.blocks).map frame.codes, ∀ e ∈ codes,
      e.2.2 < 2 ^ e.1 := by
    intro codes hmem e he
    obtain ⟨blk, hblk, rfl⟩ := List.mem_map.mp hmem
    exact code_fits hv (List.mem_range.mp hblk) he
  have hvalue := unpackBlocks_bits hlayout hcodes hsamples (hend ▸ hfits)
  rw [List.length_map, List.length_range, List.map_map, show (((List.range
    frame.header.blocks).map frame.codes).flatMap codeBits).length = frame.sampleBits.length
    from rfl, hend] at hvalue
  unfold unpackAudio
  rw [Reads.value_bind, hvalue]
  simp only [Reads.value_bind, Reads.value_read, Reads.value_pure, List.map_map]
  rfl

/-- **From behind the joint bits**: the checksum is right, and the samples are found. -/
theorem value_unpackChecked (hv : frame.Valid joint)
    (hscales : bitsAt data (32 + frame.header.jointBits) (4 * frame.header.subbands *
      frame.header.channels) = ((List.range frame.header.channels).flatMap fun ch =>
        (List.range frame.header.subbands).flatMap fun sb =>
          bitsOf 4 (frame.scale_factor ch sb &&& 0x0F)))
    (hsamples : bitsAt data (32 + frame.header.jointBits + 4 * frame.header.subbands *
      frame.header.channels) frame.sampleBits.length = frame.sampleBits)
    (hfits : frame.header.totalBits ≤ bitLen len) {b1 b2 : UInt8}
    (hcrc : data 3 = sbcCrc8 ((crcHeader b1 b2 frame.header.mode joint frame.header.subbands
        (frame.scaleFactors frame.header.subbands frame.header.channels)).1.read 0 11)
      (crcHeader b1 b2 frame.header.mode joint frame.header.subbands
        (frame.scaleFactors frame.header.subbands frame.header.channels)).2)
    (jointed : Nat → Bool) :
    (unpackBody.unpackChecked len frame.header
      (nibbles b1 ++ nibbles b2 ++ jointNibbles frame.header.mode joint frame.header.subbands)
      jointed (32 + frame.header.jointBits)).value data =
        (unpackedLength data ((frame.header.totalBits + 7) / 8),
          (List.range frame.header.blocks).map fun blk =>
            undoJoint frame.header.subbands jointed ((frame.codes blk).map codeSample)) := by
  have hdvd : 4 ∣ 32 + frame.header.jointBits := by
    unfold SbcHeader.jointBits
    split
    · rcases hv.subbands with h | h <;> rw [h] <;> decide
    · decide
  have hbytes : (unpackScaleFactors frame.header (32 + frame.header.jointBits)).value data =
      frame.scaleBytes := unpackScaleFactors_bits hdvd hscales
  have hcount : (frame.scaleFactors frame.header.subbands frame.header.channels).length ≤ 16 := by
    have hchannels : frame.header.channels ≤ 2 := by
      rw [hv.header.channels]
      split <;> decide
    have hsubbands : frame.header.subbands ≤ 8 := by
      rcases hv.subbands with h | h <;> omega
    unfold SbcFrame.scaleFactors
    simp only [List.length_flatMap, List.length_map, List.length_range, List.map_const',
      List.sum_replicate_nat]
    exact Nat.mul_le_mul hchannels hsubbands
  have hok := hcrc.trans (sbcCrc8_crcHeader b1 b2 frame.header.mode hv.subbands hcount)
  have hroom : ¬ bitLen len < 32 + frame.header.jointBits + 4 * frame.header.subbands *
      frame.header.channels := by
    unfold SbcHeader.totalBits at hfits
    omega
  unfold unpackBody.unpackChecked
  rw [if_neg hroom, Reads.value_bind, hbytes, Reads.value_bind, Reads.value_read,
    scaleBytes_flatten hv, if_neg (not_not.mpr hok), scaleBytes_toNat hv]
  exact value_unpackAudio hv hsamples hfits jointed

/-! ## The joint bits -/

/-- The byte with the joint bits. -/
theorem joint_byte {subbands : Nat} (hsubbands : subbands = 4 ∨ subbands = 8)
    (hjoint : joint < 2 ^ subbands) (hbits : bitsAt data 32 subbands = bitsOf subbands joint) :
    (nibbles (data 4)).take (subbands / 4) = jointNibbles .jointStereo joint subbands := by
  have hbyte := bitsAt_byte data 4
  rcases hsubbands with rfl | rfl
  · have hvalue : (data 4).toNat / 2 ^ 4 = joint := by
      have hsplit := bitsAt_add data 32 4 4
      rw [hbyte, hbits, show (8 : Nat) = 4 + 4 from rfl, bitsOf_add] at hsplit
      have hhigh := congrArg valueOf
        (List.append_inj hsplit (by rw [length_bitsOf, length_bitsOf])).1
      rw [valueOf_bitsOf, valueOf_bitsOf, Nat.mod_eq_of_lt hjoint] at hhigh
      have := (data 4).toNat_lt
      omega
    have hshift : data 4 >>> 4 = .ofNat joint := by
      rw [← UInt8.toNat_inj, UInt8.toNat_shiftRight, UInt8.toNat_ofNat_of_lt' (by
        exact Nat.lt_trans hjoint (by decide)), ← hvalue, Nat.shiftRight_eq_div_pow]
      rfl
    show [data 4 >>> 4] = [.ofNat joint]
    rw [hshift]
  · have hvalue : data 4 = .ofNat joint := by
      have hall := congrArg valueOf (hbyte.symm.trans hbits)
      rw [valueOf_bitsOf, valueOf_bitsOf, Nat.mod_eq_of_lt hjoint,
        Nat.mod_eq_of_lt (data 4).toNat_lt] at hall
      rw [← hall, UInt8.ofNat_toNat]
    rw [hvalue]
    rfl

/-- The joint bits as they are tested. -/
theorem jointBit_eq {subbands : Nat} (hsubbands : subbands = 4 ∨ subbands = 8)
    (hbits : bitsAt data 32 subbands = bitsOf subbands joint) (sb : Nat) :
    jointBit subbands (data 4) sb = (sb < subbands - 1 && joint.testBit (subbands - 1 - sb)) := by
  unfold jointBit
  by_cases hsb : sb < subbands - 1
  · have hle : subbands ≤ 8 := by rcases hsubbands with h | h <;> omega
    have htest := @testBit_byte data (32 + sb)
    rw [show (32 + sb) / 8 = 4 by omega, show (32 + sb) % 8 = sb by omega] at htest
    have hbit : bitAt data (32 + sb) = joint.testBit (subbands - 1 - sb) := by
      have hlt : sb < (bitsOf subbands joint).length := by
        rw [length_bitsOf]
        omega
      have hget : (bitsAt data 32 subbands)[sb]? = some (joint.testBit (subbands - 1 - sb)) := by
        rw [hbits, List.getElem?_eq_getElem hlt, getElem_bitsOf]
      simpa [bitsAt, show sb < subbands by omega] using hget
    rw [decide_eq_true hsb, Bool.true_and, Bool.true_and, ← hbit]
    cases h : bitAt data (32 + sb) with
    | false => exact decide_eq_false (not_not.mpr (htest.mpr h))
    | true => exact decide_eq_true (fun hzero => by rw [htest.mp hzero] at h; cases h)
  · rw [decide_eq_false hsb]
    rfl

/-! ## The round trip -/

/-- A frame in which sum and difference of two subbands are packed. -/
def jointFrame : SbcFrame where
  header := ⟨2, 4, .jointStereo, 2, .snr, 4, 13⟩
  block_mode := 0
  scale_factor ch sb := 3 - ch - sb
  sb_sample_f blk ch sb := (40000 * blk - 60000) * 2 ^ (3 - ch - sb)

theorem jointFrame_valid : jointFrame.Valid 10 where
  frequency := by decide
  block_mode := by decide
  blocks := rfl
  subbands := .inl rfl
  header := ⟨rfl, by decide⟩
  bitpool := by decide
  joint_lt := by decide
  scale_factor ch _ sb _ := by simp only [jointFrame]; omega
  sb_sample_f := by decide

/-- What it is packed into. -/
def jointPacked : List UInt8 :=
  [156, 142, 13, 94, 163, 33, 2, 16, 0, 128, 41, 38, 146, 61, 218]

end Sloane.Btremoted
