import Sloane.Btremoted.SbcCrc

/-!
# The bits that are unpacked

What the readers of `sbc_unpack_frame` yield, in terms of the bits of the frame.

* `unpackBits_bits` — a sample is the number with the next bits.
* `unpackBlocks_bits` — the samples of all blocks.
* `unpackScaleFactors_bits` — the scale factors.
* `parseHeader_headerByte` — the header.
-/

namespace Sloane.Btremoted

open Sloane.Lib BitPack

variable {data : Mem UInt8} {limit : Nat}

/-! ## The samples -/

/-- The test for a bit. -/
theorem testBit_byte (p : Nat) :
    (data (p / 8) >>> (7 - .ofNat (p % 8))) &&& 0x01 = 0 ↔ bitAt data p = false := by
  have hall : ∀ b : Fin 256, ∀ k : Fin 8, ((UInt8.ofFin b >>> (7 - .ofNat k.val)) &&& 0x01 = 0 ↔
      (b.val / 2 ^ (7 - k.val) % 2 == 1) = false) := by decide +kernel
  exact hall (data (p / 8)).toFin ⟨p % 8, Nat.mod_lt p (by decide)⟩

theorem or_shiftLeft_one {a bit : Nat} (h : 2 ^ (bit + 1) ∣ a) : a ||| 1 <<< bit = a + 2 ^ bit := by
  obtain ⟨q, rfl⟩ := h
  have hlt : (1 : Nat) <<< bit < 2 ^ (bit + 1) := by
    rw [Nat.shiftLeft_eq, Nat.one_mul]
    exact Nat.pow_lt_pow_right (by decide) (Nat.lt_succ_self bit)
  rw [Nat.mul_comm, ← Nat.shiftLeft_eq, ← Nat.shiftLeft_add_eq_or_of_lt hlt, Nat.shiftLeft_eq 1,
    Nat.one_mul]

/-- **A sample** is the number with the next bits. -/
theorem unpackBits_bits {bits audioSample consumed : Nat} (hfits : consumed + bits ≤ limit)
    (hlow : 2 ^ bits ∣ audioSample) : (unpackBits limit bits audioSample consumed).value data =
      some (audioSample + valueOf (bitsAt data consumed bits), consumed + bits) := by
  induction bits generalizing audioSample consumed with
  | zero => rfl
  | succ bit ih =>
    have hhalf : 2 ^ bit ∣ audioSample := (Nat.pow_dvd_pow 2 (Nat.le_succ bit)).trans hlow
    have hpos : consumed + 1 + bit = consumed + (bit + 1) := by omega
    unfold unpackBits
    rw [if_neg (by omega), Reads.value_bind, Reads.value_read, bitsAt_succ, valueOf_cons,
      length_bitsAt]
    cases hbit : bitAt data consumed with
    | false =>
      rw [if_pos ((testBit_byte consumed).mpr hbit), ih (by omega) hhalf, hpos, Bool.toNat_false,
        Nat.zero_mul, Nat.zero_add]
    | true =>
      have hset : ¬ (data (consumed / 8) >>> (7 - .ofNat (consumed % 8))) &&& 0x01 = 0 := by
        rw [testBit_byte, hbit]
        decide
      rw [if_neg hset, or_shiftLeft_one hlow,
        ih (by omega) (Nat.dvd_add hhalf (Nat.dvd_refl _)), hpos, Bool.toNat_true, Nat.one_mul,
        Nat.add_assoc]

/-- What a packed sample becomes: its bits, its scale factor and the number. -/
def codeSample (e : Nat × Nat × Nat) : Int := if e.1 = 0 then 0 else sbSample e.1 e.2.1 e.2.2

/-- The samples of a block. -/
theorem unpackBlock_bits {codes : List (Nat × Nat × Nat)} {consumed : Nat}
    (hlt : ∀ e ∈ codes, e.2.2 < 2 ^ e.1)
    (hbits : bitsAt data consumed (codeBits codes).length = codeBits codes)
    (hfits : consumed + (codeBits codes).length ≤ limit) :
    (unpackBlock limit (codes.map fun e => (e.1, e.2.1)) consumed).value data =
      some (codes.map codeSample, consumed + (codeBits codes).length) := by
  induction codes generalizing consumed with
  | nil => rfl
  | cons e codes ih =>
    obtain ⟨hfirst, hrest⟩ := List.forall_mem_cons.mp hlt
    have hcons : codeBits (e :: codes) = bitsOf e.1 e.2.2 ++ codeBits codes := List.flatMap_cons
    rw [hcons, List.length_append] at hbits hfits ⊢
    obtain ⟨hsample, htail⟩ := bitsAt_of_append hbits rfl
    rw [length_bitsOf] at hsample htail hfits ⊢
    have hvalue : (unpackBits limit e.1 0 consumed).value data =
        some (e.2.2, consumed + e.1) := by
      rw [unpackBits_bits (by omega) (Nat.dvd_zero _), hsample, valueOf_bitsOf,
        Nat.mod_eq_of_lt hfirst, Nat.zero_add]
    rw [List.map_cons, List.map_cons, unpackBlock, Reads.value_andThen_some hvalue,
      Reads.value_andThen_some (ih hrest htail (by omega)), Reads.value_pure, Nat.add_assoc]
    rfl

/-- **The samples of all blocks**, which are laid out alike. -/
theorem unpackBlocks_bits {blocks : List (List (Nat × Nat × Nat))} {layout : List (Nat × Nat)}
    {consumed : Nat} (hlayout : ∀ codes ∈ blocks, (codes.map fun e => (e.1, e.2.1)) = layout)
    (hlt : ∀ codes ∈ blocks, ∀ e ∈ codes, e.2.2 < 2 ^ e.1)
    (hbits : bitsAt data consumed (blocks.flatMap codeBits).length = blocks.flatMap codeBits)
    (hfits : consumed + (blocks.flatMap codeBits).length ≤ limit) :
    (unpackBlocks limit layout blocks.length consumed).value data =
      some (blocks.map fun codes => codes.map codeSample,
        consumed + (blocks.flatMap codeBits).length) := by
  induction blocks generalizing consumed with
  | nil => rfl
  | cons codes blocks ih =>
    obtain ⟨hshape, hshapes⟩ := List.forall_mem_cons.mp hlayout
    obtain ⟨hfirst, hrest⟩ := List.forall_mem_cons.mp hlt
    rw [List.flatMap_cons, List.length_append] at hbits hfits ⊢
    obtain ⟨hblock, htail⟩ := bitsAt_of_append hbits rfl
    have hvalue : (unpackBlock limit (codes.map fun e => (e.1, e.2.1)) consumed).value data =
        some (codes.map codeSample, consumed + (codeBits codes).length) :=
      unpackBlock_bits hfirst hblock (by omega)
    rw [hshape] at hvalue
    rw [List.length_cons, unpackBlocks, Reads.value_andThen_some hvalue,
      Reads.value_andThen_some (ih hshapes hrest htail (by omega)), Reads.value_pure, Nat.add_assoc]
    rfl

/-! ## The scale factors -/

/-- Half a byte is the number with four bits. -/
theorem half_byte {pos : Nat} (hpos : 4 ∣ pos) :
    (data (pos / 8) >>> (4 - .ofNat (pos % 8))) &&& 0x0f =
      .ofNat (valueOf (bitsAt data pos 4)) := by
  have hall : ∀ b : Fin 256, (UInt8.ofFin b >>> 4) &&& 0x0f = .ofNat (b.val / 2 ^ 4 % 2 ^ 4) ∧
      UInt8.ofFin b &&& 0x0f = .ofNat (b.val % 2 ^ 4) := by decide +kernel
  obtain ⟨hhigh, hlow⟩ := hall (data (pos / 8)).toFin
  have hbyte := bitsAt_byte data (pos / 8)
  rw [show (8 : Nat) = 4 + 4 from rfl, bitsAt_add, bitsOf_add] at hbyte
  obtain ⟨hfirst, hsecond⟩ := List.append_inj hbyte (by rw [length_bitsAt, length_bitsOf])
  have hrest : pos % 8 = 0 ∨ pos % 8 = 4 := by omega
  rcases hrest with hzero | hfour
  · rw [show pos = (4 + 4) * (pos / 8) by omega, hfirst, valueOf_bitsOf,
      show (4 + 4) * (pos / 8) % 8 = 0 by omega, show (4 + 4) * (pos / 8) / 8 = pos / 8 by omega]
    exact hhigh
  · rw [hfour, show (4 : UInt8) - .ofNat 4 = 0 from rfl, UInt8.shiftRight_zero]
    refine hlow.trans ?_
    have hvalue : valueOf (bitsAt data pos 4) = (data (pos / 8)).toNat % 2 ^ 4 := by
      rw [← valueOf_bitsOf, ← hsecond, show (4 + 4) * (pos / 8) + 4 = pos by omega]
    rw [hvalue]
    rfl

/-- **The scale factors**, one behind the other. -/
theorem unpackScaleFactors_bits {h : SbcHeader} {consumed : Nat} {scale : Nat → Nat → Nat}
    (hconsumed : 4 ∣ consumed)
    (hbits : bitsAt data consumed (4 * h.subbands * h.channels) =
      (List.range h.channels).flatMap fun ch => (List.range h.subbands).flatMap fun sb =>
        bitsOf 4 (scale ch sb)) :
    (unpackScaleFactors h consumed).value data =
      (List.range h.channels).map fun ch => (List.range h.subbands).map fun sb =>
        .ofNat (scale ch sb % 2 ^ 4) := by
  have hwidth (ch : Nat) : ((List.range h.subbands).flatMap fun sb =>
      bitsOf 4 (scale ch sb)).length = 4 * h.subbands := by
    rw [List.length_flatMap]
    simp [Nat.mul_comm]
  unfold unpackScaleFactors
  rw [Reads.value_collect, ← List.range_eq_range']
  refine List.map_congr_left fun ch hch => ?_
  rw [Reads.value_collect, ← List.range_eq_range']
  refine List.map_congr_left fun sb hsb => ?_
  have hchannel := bitsAt_flatMap (fun ch _ => hwidth ch) hbits (List.mem_range.mp hch)
  have hfield := bitsAt_flatMap (fun sb _ => length_bitsOf 4 (scale ch sb)) hchannel
    (List.mem_range.mp hsb)
  have hpos : consumed + 4 * h.subbands * ch + 4 * sb = consumed + 4 * (h.subbands * ch + sb) := by
    ring
  have hdvd : 4 ∣ consumed + 4 * (h.subbands * ch + sb) :=
    Nat.dvd_add hconsumed (Nat.dvd_mul_right _ _)
  rw [hpos] at hfield
  simp only [Reads.value_bind, Reads.value_read, Reads.value_pure, half_byte hdvd, hfield,
    valueOf_bitsOf]

/-! ## The header -/

/-- The second byte of a header, from what it says. -/
def headerBits (frequency blockMode mode allocation : Nat) (eight : Bool) : UInt8 :=
  .ofNat ((frequency &&& 0x03) <<< 6 ||| (blockMode &&& 0x03) <<< 4 ||| (mode &&& 0x03) <<< 2 |||
    (allocation &&& 0x01) <<< 1 ||| (if eight then 0x01 else 0))

theorem headerBits_fields : ∀ frequency blockMode mode : Fin 4, ∀ allocation : Fin 2,
    ∀ eight : Bool, ∀ b, b = headerBits frequency blockMode mode allocation eight →
      (b >>> 6).toNat = frequency ∧ (b >>> 4 &&& 0x03).toNat = blockMode ∧
        (b >>> 2 &&& 0x03).toNat = mode ∧ (b >>> 1 &&& 0x01).toNat = allocation ∧
          (b &&& 0x01 = 0 ↔ eight = false) := by
  simp only [forall_eq]
  decide +kernel

variable {frame : SbcFrame} {joint : Nat}

/-- **The header** is parsed as it was packed. -/
theorem parseHeader_headerByte (hv : frame.Valid joint) :
    parseHeader (frame.headerByte frame.header.subbands) (.ofNat frame.header.bitpool) =
      frame.header := by
  have hmode : frame.header.mode.code < 4 := by cases frame.header.mode <;> decide
  have halloc : frame.header.allocation.code < 2 := by cases frame.header.allocation <;> decide
  have hbyte : frame.headerByte frame.header.subbands = headerBits frame.header.frequency
      frame.block_mode frame.header.mode.code frame.header.allocation.code
        (decide (frame.header.subbands = 8)) := by
    unfold SbcFrame.headerByte headerBits
    simp only [decide_eq_true_eq]
  obtain ⟨hf, hb, hm, ha, hs⟩ := headerBits_fields ⟨_, hv.frequency⟩ ⟨_, hv.block_mode⟩
    ⟨_, hmode⟩ ⟨_, halloc⟩ _ _ hbyte
  have hblocks := hv.blocks
  have hsubbands := hv.subbands
  have hbitpool := hv.bitpool
  have hchannels := hv.header.channels
  simp only at hf hb hm ha hs
  generalize frame.headerByte frame.header.subbands = b at *
  clear hv hbyte
  generalize frame.header = h at *
  obtain ⟨frequency, blocks, mode, channels, allocation, subbands, bitpool⟩ := h
  simp only at hf hb hm ha hs hblocks hsubbands hbitpool hchannels ⊢
  unfold parseHeader
  simp only [SbcHeader.mk.injEq]
  refine ⟨hf, ?_, ?_, ?_, ?_, ?_, ?_⟩
  · rw [hb, hblocks]
  · rw [hm]
    cases mode <;> rfl
  · have hzero : b >>> 2 &&& 0x03 = 0 ↔ mode = .mono := by
      rw [← UInt8.toNat_inj, hm]
      cases mode <;> decide
    simp only [hzero, hchannels]
  · have hzero : b >>> 1 &&& 0x01 = 0 ↔ allocation = .loudness := by
      rw [← UInt8.toNat_inj, ha]
      cases allocation <;> decide
    simp only [hzero]
    cases allocation <;> rfl
  · simp only [hs, decide_eq_false_iff_not]
    rcases hsubbands with rfl | rfl <;> rfl
  · exact UInt8.toNat_ofNat_of_lt' hbitpool

end Sloane.Btremoted
