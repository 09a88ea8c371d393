import Sloane.Btremoted.SbcFields

/-!
# When unpacking stays inside the input

For a frame of SBC, whatever its header says.  Nothing is checked but the bits in front of the
samples and, one bit late, the samples themselves; the byte behind the frame is read as well.

* `unpackable_parseHeader` — a header that is accepted can be unpacked.
* `inside_unpackAudio_iff` — the samples and the byte behind them are inside the input.
* `unpackSbc_inside_iff` — when unpacking a frame stays inside the input.
-/

namespace Sloane.Btremoted

open Sloane.Lib

variable {data : Mem UInt8} {len : Nat} {h : SbcHeader}

/-! ## The header -/

/-- What a second and a third byte can say. -/
theorem parseHeader_bounds (b1 b2 : UInt8) :
    ((parseHeader b1 b2).subbands = 4 ∨ (parseHeader b1 b2).subbands = 8) ∧
      (parseHeader b1 b2).blocks ≤ 16 ∧
      (parseHeader b1 b2).channels = if (parseHeader b1 b2).mode = .mono then 1 else 2 := by
  have hall : ∀ b1 : Fin 256,
      ((parseHeader (.ofFin b1) 0).subbands = 4 ∨ (parseHeader (.ofFin b1) 0).subbands = 8) ∧
        (parseHeader (.ofFin b1) 0).blocks ≤ 16 ∧
        (parseHeader (.ofFin b1) 0).channels =
          if (parseHeader (.ofFin b1) 0).mode = .mono then 1 else 2 := by
    decide +kernel
  exact hall b1.toFin

/-- **A header that is accepted** can be unpacked. -/
theorem unpackable_parseHeader {b1 b2 : UInt8}
    (hpool : (parseHeader b1 b2).bitpool ≤ (parseHeader b1 b2).maxBitpool) :
    (parseHeader b1 b2).Unpackable where
  channels := (parseHeader_bounds b1 b2).2.2
  bitpool := hpool

/-- No frame is longer than this. -/
theorem totalBits_le (b1 b2 : UInt8) : (parseHeader b1 b2).totalBits ≤ 8296 := by
  obtain ⟨hsubbands, hblocks, hchannels⟩ := parseHeader_bounds b1 b2
  have hpool : (parseHeader b1 b2).bitpool ≤ 255 := Nat.le_of_lt_succ b2.toNat_lt
  generalize parseHeader b1 b2 = h at *
  have hchannels : h.channels ≤ 2 := by
    rw [hchannels]
    split <;> decide
  have hside : 4 * h.subbands * h.channels ≤ 4 * 8 * 2 :=
    Nat.mul_le_mul (by omega) hchannels
  have hblock : h.blockBits ≤ 512 := by
    unfold SbcHeader.blockBits
    split <;> omega
  have hsamples : h.blocks * h.blockBits ≤ 16 * 512 := Nat.mul_le_mul hblocks hblock
  have hjoint : h.jointBits ≤ 8 := by
    unfold SbcHeader.jointBits
    split <;> omega
  unfold SbcHeader.totalBits
  omega

/-! ## The scale factors -/

/-- The scale factors as numbers. -/
def scaleNumbers (data : Mem UInt8) (h : SbcHeader) (consumed : Nat) : List (List Nat) :=
  ((unpackScaleFactors h consumed).value data).map fun channel => channel.map UInt8.toNat

theorem scaleFactors_unpacked (data : Mem UInt8) (h : SbcHeader) (consumed : Nat) :
    ScaleFactors h (scaleNumbers data h consumed) := by
  have hvalue : (unpackScaleFactors h consumed).value data =
      (List.range h.channels).map fun ch => (List.range h.subbands).map fun sb =>
        (data ((consumed + 4 * (h.subbands * ch + sb)) / 8) >>>
          (4 - .ofNat ((consumed + 4 * (h.subbands * ch + sb)) % 8))) &&& 0x0f := by
    unfold unpackScaleFactors
    rw [Reads.value_collect, ← List.range_eq_range']
    refine List.map_congr_left fun ch _ => ?_
    rw [Reads.value_collect, ← List.range_eq_range']
    rfl
  unfold scaleNumbers
  rw [hvalue]
  constructor
  · simp
  · intro channel hmem
    simp only [List.map_map, List.mem_map] at hmem
    obtain ⟨ch, -, rfl⟩ := hmem
    simp
  · intro channel hmem scaleFactor hscale
    simp only [List.map_map, List.mem_map] at hmem
    obtain ⟨ch, -, rfl⟩ := hmem
    simp only [Function.comp_apply, List.map_map, List.mem_map] at hscale
    obtain ⟨sb, -, rfl⟩ := hscale
    exact Nat.and_le_right

theorem inBounds_scaleFactors {consumed : Nat} (hconsumed : 4 ∣ consumed)
    (hfits : consumed + 4 * h.subbands * h.channels ≤ 8 * len) :
    (unpackScaleFactors h consumed).InBounds len data := by
  refine Reads.inBounds_collect.mpr fun ch _ hch => Reads.inBounds_collect.mpr fun sb _ hsb => ?_
  rw [Reads.inBounds_bind]
  refine ⟨Reads.inBounds_read.mpr ?_, Reads.inBounds_pure _ _ _⟩
  have hindex : h.subbands * ch + sb < h.subbands * h.channels :=
    calc h.subbands * ch + sb < h.subbands * (ch + 1) := by rw [Nat.mul_succ]; omega
      _ ≤ h.subbands * h.channels := Nat.mul_le_mul_left _ (by omega)
  have hmul : 4 * h.subbands * h.channels = 4 * (h.subbands * h.channels) := Nat.mul_assoc ..
  omega

/-! ## The samples -/

theorem length_flatten_table {table : List (List Nat)} {c n : Nat} (hc : table.length = c)
    (hrow : ∀ row ∈ table, row.length = n) : table.flatten.length = c * n := by
  rw [List.length_flatten, List.map_congr_left hrow, List.map_const', List.sum_replicate_nat, hc]

/-- What the samples of a block take. -/
theorem sum_layout (hh : h.Unpackable) {scales : List (List Nat)} (hs : ScaleFactors h scales) :
    (((calculateBits h scales).flatten.zip scales.flatten).map Prod.fst).sum = h.blockBits := by
  obtain ⟨hchannels, hshape⟩ := calculateBits_shape hs
  have hlength : (calculateBits h scales).flatten.length = scales.flatten.length :=
    (length_flatten_table hchannels fun row hmem => (hshape row hmem).1).trans
      (length_flatten_table hs.channels hs.subbands).symm
  rw [List.map_fst_zip (Nat.le_of_eq hlength), sum_calculateBits hh hs]

/-- **The samples and the byte behind them**: they are read unless an error comes before. -/
theorem inside_unpackAudio_iff (hh : h.Unpackable) {scales : List (List Nat)}
    (hs : ScaleFactors h scales) (hsmall : h.totalBits ≤ 8296) (joint : Nat → Bool)
    (hside : 32 + h.jointBits + 4 * h.subbands * h.channels ≤ bitLen len) :
    Inside len data (unpackAudio len h scales joint
      (32 + h.jointBits + 4 * h.subbands * h.channels)) ↔ (h.totalBits + 7) / 8 < len := by
  have hblocks := @unpackBlocks_consumes data (bitLen len)
    ((calculateBits h scales).flatten.zip scales.flatten) h.blocks
      (32 + h.jointBits + 4 * h.subbands * h.channels)
  rw [sum_layout hh hs] at hblocks
  have htotal : 32 + h.jointBits + 4 * h.subbands * h.channels + h.blocks * h.blockBits =
    h.totalBits := rfl
  unfold unpackAudio
  rw [inside_bind]
  constructor
  · rintro ⟨hin, hrest⟩
    by_contra hshort
    have hbitLen : bitLen len = 8 * len := by
      unfold bitLen
      omega
    by_cases hfits : h.totalBits ≤ bitLen len
    · -- the samples are there, but not the byte that is looked at behind them
      obtain ⟨blocks, hsome⟩ := hblocks.value_of_fits (by omega)
      rw [hsome, htotal] at hrest
      have hbyte := Reads.inBounds_read.mp (inside_bind.mp hrest).1
      exact hshort hbyte
    · exact hblocks.beyond len hbitLen hside (by omega) hin
  · intro hlong
    refine ⟨hblocks.inBounds len (by omega), ?_⟩
    rcases hblocks.value with hnone | ⟨blocks, hsome⟩
    · rw [hnone]
      exact inside_error (by decide) _
    · rw [hsome, htotal]
      refine inside_bind.mpr ⟨Reads.inBounds_read.mpr hlong, Reads.inBounds_pure _ _ _, ?_⟩
      intro _
      rw [Reads.value_pure]
      split <;> omega

/-! ## A whole frame -/

/-- The halves that the checksum is computed of. -/
def crcNibbles (data : Mem UInt8) (h : SbcHeader) : List UInt8 :=
  nibbles (data 1) ++ nibbles (data 2) ++
    (if h.mode = .jointStereo then (nibbles (data 4)).take (h.subbands / 4) else []) ++
      ((unpackScaleFactors h (32 + h.jointBits)).value data).flatten

/-- Unpacking gets as far as the samples. -/
def ReachesSamples (data : Mem UInt8) (len : Nat) (h : SbcHeader) : Prop :=
  h.bitpool ≤ h.maxBitpool ∧ 32 + h.jointBits + 4 * h.subbands * h.channels ≤ bitLen len ∧
    data 3 = sbcCrc8 (packNibbles (crcNibbles data h)) (4 * (crcNibbles data h).length)

instance (data : Mem UInt8) (len : Nat) (h : SbcHeader) : Decidable (ReachesSamples data len h) :=
  inferInstanceAs (Decidable (_ ∧ _ ∧ _))

/-- From behind the joint bits. -/
theorem inside_unpackChecked (hh : h.Unpackable) (hsubbands : h.subbands = 4 ∨ h.subbands = 8)
    (hsmall : h.totalBits ≤ 8296) (joint : Nat → Bool) {front : List UInt8}
    (hfront : crcNibbles data h =
      front ++ ((unpackScaleFactors h (32 + h.jointBits)).value data).flatten) (hlen : 4 ≤ len) :
    Inside len data (unpackBody.unpackChecked len h front joint (32 + h.jointBits)) ↔
      (ReachesSamples data len h → (h.totalBits + 7) / 8 < len) := by
  have hdvd : 4 ∣ 32 + h.jointBits := by
    unfold SbcHeader.jointBits
    split
    · rcases hsubbands with hs | hs <;> rw [hs] <;> decide
    · decide
  unfold unpackBody.unpackChecked ReachesSamples
  split
  · rename_i hshort
    exact iff_of_true (inside_error (by decide) _) fun hreach => by omega
  · rename_i hside
    have hside := Nat.not_lt.mp hside
    have hbytes : (unpackScaleFactors h (32 + h.jointBits)).InBounds len data := by
      apply inBounds_scaleFactors hdvd
      unfold bitLen at hside
      omega
    rw [inside_bind, inside_bind, Reads.inBounds_read, Reads.value_read, hfront]
    split
    · rename_i hcrc
      exact iff_of_true ⟨hbytes, by omega, inside_error (by decide) _⟩
        fun hreach => absurd hreach.2.2 hcrc
    · rename_i hcrc
      have haudio := @inside_unpackAudio_iff data len h hh _ (scaleFactors_unpacked data h
        (32 + h.jointBits)) hsmall joint hside
      exact ⟨fun hin _ => haudio.mp hin.2.2, fun himp =>
        ⟨hbytes, by omega, haudio.mpr (himp ⟨hh.bitpool, hside, not_not.mp hcrc⟩)⟩⟩

/-- From behind the header. -/
theorem inside_unpackBody_iff (hh : h.Unpackable) (hsubbands : h.subbands = 4 ∨ h.subbands = 8)
    (hsmall : h.totalBits ≤ 8296) (hlen : 4 ≤ len) :
    Inside len data (unpackBody len h) ↔
      (ReachesSamples data len h → (h.totalBits + 7) / 8 < len) := by
  unfold unpackBody
  rw [inside_bind, and_iff_right (Reads.inBounds_read.mpr (by omega)), inside_bind,
    and_iff_right (Reads.inBounds_read.mpr (by omega)), Reads.value_read, Reads.value_read]
  by_cases hmode : h.mode = .jointStereo
  · have hbits : h.jointBits = h.subbands := if_pos hmode
    rw [if_pos hmode]
    split
    · rename_i hshort
      refine iff_of_true (inside_error (by decide) _) fun hreach => ?_
      have hside := hreach.2.1
      omega
    · rename_i hroom
      have hfive : 4 < len := by
        unfold bitLen at hroom
        omega
      have hfront : crcNibbles data h = nibbles (data 1) ++ nibbles (data 2) ++
          (nibbles (data 4)).take (h.subbands / 4) ++
            ((unpackScaleFactors h (32 + h.jointBits)).value data).flatten := by
        unfold crcNibbles
        rw [if_pos hmode]
      have hchecked := inside_unpackChecked hh hsubbands hsmall (jointBit h.subbands (data 4))
        hfront hlen
      rw [hbits] at hchecked
      rw [inside_bind, and_iff_right (Reads.inBounds_read.mpr hfive), Reads.value_read]
      exact hchecked
  · have hbits : h.jointBits = 0 := if_neg hmode
    have hfront : crcNibbles data h = nibbles (data 1) ++ nibbles (data 2) ++
        ((unpackScaleFactors h (32 + h.jointBits)).value data).flatten := by
      unfold crcNibbles
      rw [if_neg hmode, List.append_nil]
    have hchecked := inside_unpackChecked hh hsubbands hsmall (fun _ => false) hfront hlen
    rw [hbits] at hchecked
    rw [if_neg hmode]
    exact hchecked

/-- **When unpacking a frame stays inside the input**: it does not get to the samples, or the frame
ends before the last byte. -/
theorem unpackSbc_inside_iff (data : Mem UInt8) (hsync : data 0 = SBC_SYNCWORD) (len : Nat)
    (old : SbcHeader) : Inside len data (sbcUnpackFrame len old) ↔
      (4 ≤ len → ReachesSamples data len (parseHeader (data 1) (data 2)) →
        ((parseHeader (data 1) (data 2)).totalBits + 7) / 8 < len) := by
  unfold sbcUnpackFrame
  split
  · rename_i hshort
    exact iff_of_true (inside_error (by decide) _) fun hlen => by omega
  · rename_i hlen
    have hlen := Nat.not_lt.mp hlen
    have hsubbands := (parseHeader_bounds (data 1) (data 2)).1
    have hsmall := totalBits_le (data 1) (data 2)
    have hvalue : (unpackHeader old).value data =
        (if (parseHeader (data 1) (data 2)).maxBitpool < (parseHeader (data 1) (data 2)).bitpool
          then -4 else 0, parseHeader (data 1) (data 2)) := by
      unfold unpackHeader
      rw [Reads.value_bind, Reads.value_read, if_pos hsync]
      rfl
    have hread : (unpackHeader old).InBounds len data := by
      unfold unpackHeader
      rw [Reads.inBounds_bind, Reads.value_read, if_pos hsync]
      simp only [Reads.inBounds_bind, Reads.inBounds_read, Reads.inBounds_pure, and_true]
      omega
    rw [inside_bind, hvalue, and_iff_right hread]
    have hunpack : (parseHeader (data 1) (data 2)).bitpool ≤
        (parseHeader (data 1) (data 2)).maxBitpool → (parseHeader (data 1) (data 2)).Unpackable :=
      unpackable_parseHeader
    generalize parseHeader (data 1) (data 2) = h at *
    dsimp only
    by_cases hpool : h.maxBitpool < h.bitpool
    · rw [if_pos hpool, if_pos (by decide)]
      exact iff_of_true (inside_error (by decide) _) fun _ hreach =>
        absurd hreach.1 (Nat.not_le.mpr hpool)
    · have hbody := @inside_unpackBody_iff data len h (hunpack (Nat.not_lt.mp hpool)) hsubbands
        hsmall hlen
      rw [if_neg hpool, if_neg (not_not.mpr rfl)]
      refine inside_bind.trans ⟨fun hin _ => hbody.mp ⟨hin.1, hin.2.2⟩, fun himp => ?_⟩
      obtain ⟨hin, hret⟩ := hbody.mpr (himp hlen)
      exact ⟨hin, Reads.inBounds_pure _ _ _, hret⟩

/-- A frame with its last byte at the end of the input is read beyond it. -/
theorem unpackSbc_inside_joint :
    let frame := [156, 142, 13, 94, 163, 33, 2, 16, 0, 128, 41, 38, 146, 61, 218]
    Inside 16 (Mem.ofList frame 0) (sbcUnpackFrame 16 .zero) ∧
      ¬ Inside 15 (Mem.ofList frame 0) (sbcUnpackFrame 15 .zero) := by
  refine ⟨(unpackSbc_inside_iff _ rfl 16 .zero).mpr fun _ _ => by decide, fun hin => ?_⟩
  have hend := (unpackSbc_inside_iff _ rfl 15 .zero).mp hin (by decide) (by decide +kernel)
  exact absurd hend (by decide)

end Sloane.Btremoted
