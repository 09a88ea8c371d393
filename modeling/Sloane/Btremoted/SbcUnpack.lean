import Mathlib.Data.List.GetD
import Sloane.Btremoted.Msbc
import Sloane.Btremoted.SbcBits
import Sloane.Lib.BitReads

/-!
# Unpacking a frame

Model of `sbc_unpack_frame` in `btremoted/msbc.c`, as a program that reads its input.  What a frame
keeps from one call to the next is its header; the sample arrays are written before they are read.

* `unpackBits_consumes` — the samples take the bits that are allocated to them.
* `msbc_bits` — for an mSBC frame these are 26 in each of the 15 blocks, whatever the scale factors.
* `unpackInside_iff` — when unpacking an mSBC frame stays inside the input.
-/

namespace Sloane.Btremoted

open Sloane.Lib

def SBC_SYNCWORD : UInt8 := 0x9C
def MSBC_SYNCWORD : UInt8 := 0xAD

inductive SbcMode where
  | mono
  | dualChannel
  | stereo
  | jointStereo
  deriving DecidableEq, Repr

inductive SbcAllocation where
  | loudness
  | snr
  deriving DecidableEq, Repr

/-- What the header says about the frame. -/
structure SbcHeader where
  frequency : Nat
  blocks : Nat
  mode : SbcMode
  channels : Nat
  allocation : SbcAllocation
  subbands : Nat
  bitpool : Nat
  deriving DecidableEq, Repr

/-- As `memset` leaves it. -/
def SbcHeader.zero : SbcHeader := ⟨0, 0, .mono, 0, .loudness, 0, 0⟩

/-! ## The checksum -/

def crc_table : List UInt8 :=
  [0x00, 0x1D, 0x3A, 0x27, 0x74, 0x69, 0x4E, 0x53, 0xE8, 0xF5, 0xD2, 0xCF,
   0x9C, 0x81, 0xA6, 0xBB, 0xCD, 0xD0, 0xF7, 0xEA, 0xB9, 0xA4, 0x83, 0x9E,
   0x25, 0x38, 0x1F, 0x02, 0x51, 0x4C, 0x6B, 0x76, 0x87, 0x9A, 0xBD, 0xA0,
   0xF3, 0xEE, 0xC9, 0xD4, 0x6F, 0x72, 0x55, 0x48, 0x1B, 0x06, 0x21, 0x3C,
   0x4A, 0x57, 0x70, 0x6D, 0x3E, 0x23, 0x04, 0x19, 0xA2, 0xBF, 0x98, 0x85,
   0xD6, 0xCB, 0xEC, 0xF1, 0x13, 0x0E, 0x29, 0x34, 0x67, 0x7A, 0x5D, 0x40,
   0xFB, 0xE6, 0xC1, 0xDC, 0x8F, 0x92, 0xB5, 0xA8, 0xDE, 0xC3, 0xE4, 0xF9,
   0xAA, 0xB7, 0x90, 0x8D, 0x36, 0x2B, 0x0C, 0x11, 0x42, 0x5F, 0x78, 0x65,
   0x94, 0x89, 0xAE, 0xB3, 0xE0, 0xFD, 0xDA, 0xC7, 0x7C, 0x61, 0x46, 0x5B,
   0x08, 0x15, 0x32, 0x2F, 0x59, 0x44, 0x63, 0x7E, 0x2D, 0x30, 0x17, 0x0A,
   0xB1, 0xAC, 0x8B, 0x96, 0xC5, 0xD8, 0xFF, 0xE2, 0x26, 0x3B, 0x1C, 0x01,
   0x52, 0x4F, 0x68, 0x75, 0xCE, 0xD3, 0xF4, 0xE9, 0xBA, 0xA7, 0x80, 0x9D,
   0xEB, 0xF6, 0xD1, 0xCC, 0x9F, 0x82, 0xA5, 0xB8, 0x03, 0x1E, 0x39, 0x24,
   0x77, 0x6A, 0x4D, 0x50, 0xA1, 0xBC, 0x9B, 0x86, 0xD5, 0xC8, 0xEF, 0xF2,
   0x49, 0x54, 0x73, 0x6E, 0x3D, 0x20, 0x07, 0x1A, 0x6C, 0x71, 0x56, 0x4B,
   0x18, 0x05, 0x22, 0x3F, 0x84, 0x99, 0xBE, 0xA3, 0xF0, 0xED, 0xCA, 0xD7,
   0x35, 0x28, 0x0F, 0x12, 0x41, 0x5C, 0x7B, 0x66, 0xDD, 0xC0, 0xE7, 0xFA,
   0xA9, 0xB4, 0x93, 0x8E, 0xF8, 0xE5, 0xC2, 0xDF, 0x8C, 0x91, 0xB6, 0xAB,
   0x10, 0x0D, 0x2A, 0x37, 0x64, 0x79, 0x5E, 0x43, 0xB2, 0xAF, 0x88, 0x95,
   0xC6, 0xDB, 0xFC, 0xE1, 0x5A, 0x47, 0x60, 0x7D, 0x2E, 0x33, 0x14, 0x09,
   0x7F, 0x62, 0x45, 0x58, 0x0B, 0x16, 0x31, 0x2C, 0x97, 0x8A, 0xAD, 0xB0,
   0xE3, 0xFE, 0xD9, 0xC4]

def crcBit (crc octet : UInt8) : UInt8 :=
  ((crc &&& 0x7f) <<< 1) ^^^ (if (octet ^^^ crc) &&& 0x80 ≠ 0 then 0x1d else 0)

/-- The bits behind the last whole octet. -/
def crcBits : Nat → UInt8 → UInt8 → UInt8
  | 0, crc, _ => crc
  | n + 1, crc, octet => crcBits n (crcBit crc octet) (octet <<< 1)

/-- The CRC-8 of the first `len` bits. -/
def sbcCrc8 (data : List UInt8) (len : Nat) : UInt8 :=
  let crc := (data.take (len / 8)).foldl (fun crc b => crc_table.getD (crc ^^^ b).toNat 0) 0x0f
  crcBits (len % 8) crc (data.getD (len / 8) 0)

/-- `crc_header`, which is filled in halves of a byte. -/
def packNibbles : List UInt8 → List UInt8
  | [] => []
  | [hi] => [hi <<< 4]
  | hi :: lo :: rest => (hi <<< 4 ||| lo) :: packNibbles rest

def nibbles (b : UInt8) : List UInt8 := [b >>> 4, b &&& 0xf]

/-! ## The header -/

def parseHeader (b1 b2 : UInt8) : SbcHeader where
  frequency := (b1 >>> 6).toNat
  blocks := 4 * ((b1 >>> 4 &&& 0x03).toNat + 1)
  mode := match (b1 >>> 2 &&& 0x03).toNat with
    | 0 => .mono
    | 1 => .dualChannel
    | 2 => .stereo
    | _ => .jointStereo
  channels := if b1 >>> 2 &&& 0x03 = 0 then 1 else 2
  allocation := if b1 >>> 1 &&& 0x01 = 0 then .loudness else .snr
  subbands := if b1 &&& 0x01 = 0 then 4 else 8
  bitpool := b2.toNat

def SbcHeader.maxBitpool (h : SbcHeader) : Nat :=
  match h.mode with
  | .mono | .dualChannel => 16 * h.subbands
  | .stereo | .jointStereo => 32 * h.subbands

def msbcHeader : SbcHeader where
  frequency := 0
  blocks := 15
  mode := .mono
  channels := 1
  allocation := .loudness
  subbands := 8
  bitpool := 26

/-- The error, or 0, and the header as it is left. -/
def unpackHeader (old : SbcHeader) : Reads UInt8 (Int × SbcHeader) := do
  let sync ← Reads.read 0
  if sync = SBC_SYNCWORD then
    let b1 ← Reads.read 1
    let b2 ← Reads.read 2
    let h := parseHeader b1 b2
    return (if h.maxBitpool < h.bitpool then -4 else 0, h)
  else if sync = MSBC_SYNCWORD then
    return (0, msbcHeader)
  else
    -- the bytes are printed
    let _ ← Reads.range 0 3
    return (-2, old)

/-! ## The bit allocation -/

def sbc_offset4 : List (List Int) :=
  [[-1, 0, 0, 0], [-2, 0, 0, 1], [-2, 0, 0, 1], [-2, 0, 0, 1]]

def sbc_offset8 : List (List Int) :=
  [[-2, 0, 0, 0, 0, 0, 0, 1], [-3, 0, 0, 0, 0, 0, 1, 2], [-4, 0, 0, 0, 0, 0, 1, 2],
   [-4, 0, 0, 0, 0, 0, 1, 2]]

def SbcHeader.offset (h : SbcHeader) (sb : Nat) : Int :=
  ((if h.subbands = 4 then sbc_offset4 else sbc_offset8).getD h.frequency []).getD sb 0

def SbcHeader.bitneed (h : SbcHeader) (sb scaleFactor : Nat) : Int :=
  match h.allocation with
  | .snr => scaleFactor
  | .loudness =>
      if scaleFactor = 0 then -5
      else
        let loudness := scaleFactor - h.offset sb
        if 0 < loudness then loudness / 2 else loudness

/-- The bits of the samples, for each channel. -/
def calculateBits (h : SbcHeader) (scaleFactors : List (List Nat)) : List (List Nat) :=
  let need := scaleFactors.map fun channel => channel.mapIdx h.bitneed
  match h.mode with
  | .mono | .dualChannel => need.map fun channel => allocate channel h.bitpool
  | .stereo | .jointStereo =>
      -- the channels take turns in each subband
      let turns := (List.range h.subbands).flatMap fun sb =>
        need.map fun channel => channel.getD sb 0
      let bits := allocate turns h.bitpool
      (List.range h.channels).map fun ch =>
        (List.range h.subbands).map fun sb => bits.getD (h.channels * sb + ch) 0

/-! ## The samples -/

/-- `len * 8`, as a `size_t`. -/
def bitLen (len : Nat) : Nat := len * 8 % 2 ^ 64

/-- The bits of `audio_sample` that are left to read. -/
def unpackBits (limit : Nat) : Nat → Nat → Nat → Reads UInt8 (Option (Nat × Nat))
  | 0, audioSample, consumed => return some (audioSample, consumed)
  | bit + 1, audioSample, consumed =>
      if limit < consumed then return none
      else do
        let b ← Reads.read (consumed / 8)
        unpackBits limit bit
          (if (b >>> (7 - .ofNat (consumed % 8))) &&& 0x01 = 0 then audioSample
            else audioSample ||| 1 <<< bit) (consumed + 1)

/-- The arithmetic is that of `uint32_t`. -/
def sbSample (bits scaleFactor audioSample : Nat) : Int :=
  ((((2 * audioSample + 1) <<< scaleFactor) % 2 ^ 32 / (2 ^ bits - 1) : Nat) -
    (2 ^ scaleFactor : Int)).bmod (2 ^ 32)

/-- The samples of one block: the bits and the scale factor of each. -/
def unpackBlock (limit : Nat) : List (Nat × Nat) → Nat → Reads UInt8 (Option (List Int × Nat))
  | [], consumed => return some ([], consumed)
  | (bits, scaleFactor) :: rest, consumed =>
      (unpackBits limit bits 0 consumed).andThen fun audioSample consumed =>
        (unpackBlock limit rest consumed).andThen fun samples consumed =>
          return some ((if bits = 0 then 0 else sbSample bits scaleFactor audioSample) :: samples,
            consumed)

def unpackBlocks (limit : Nat) (layout : List (Nat × Nat)) :
    Nat → Nat → Reads UInt8 (Option (List (List Int) × Nat))
  | 0, consumed => return some ([], consumed)
  | blk + 1, consumed =>
      (unpackBlock limit layout consumed).andThen fun samples consumed =>
        (unpackBlocks limit layout blk consumed).andThen fun blocks consumed =>
          return some (samples :: blocks, consumed)

/-- The subbands in which sum and difference of the channels are coded. -/
def jointBit (subbands : Nat) (b : UInt8) (sb : Nat) : Bool :=
  sb < subbands - 1 && (b >>> (7 - .ofNat sb)) &&& 0x01 ≠ 0

/-- The samples of a block, the second channel behind the first. -/
def undoJoint (subbands : Nat) (joint : Nat → Bool) (samples : List Int) : List Int :=
  samples.mapIdx fun i s =>
    if joint (i % subbands) then
      let left := samples.getD (i % subbands) 0
      let right := samples.getD (subbands + i % subbands) 0
      (if i < subbands then left + right else left - right).bmod (2 ^ 32)
    else s

def unpackScaleFactors (h : SbcHeader) (consumed : Nat) : Reads UInt8 (List (List UInt8)) :=
  Reads.collect (fun ch => Reads.collect (fun sb => do
    let pos := consumed + 4 * (h.subbands * ch + sb)
    let b ← Reads.read (pos / 8)
    return (b >>> (4 - .ofNat (pos % 8))) &&& 0x0f) 0 h.subbands) 0 h.channels

/-- From behind the scale factors: the return value and the samples. -/
def unpackAudio (len : Nat) (h : SbcHeader) (scaleFactors : List (List Nat)) (joint : Nat → Bool)
    (consumed : Nat) : Reads UInt8 (Int × List (List Int)) := do
  let bits := calculateBits h scaleFactors
  match ← unpackBlocks (bitLen len) (bits.flatten.zip scaleFactors.flatten) h.blocks consumed with
  | none => return (-1, [])
  | some (blocks, consumed) =>
      let bytes := (consumed + 7) / 8
      let b ← Reads.read bytes
      return (if b = 0 then bytes + 1 else bytes, blocks.map (undoJoint h.subbands joint))

/-- From behind the header. -/
def unpackBody (len : Nat) (h : SbcHeader) : Reads UInt8 (Int × List (List Int)) := do
  let b1 ← Reads.read 1
  let b2 ← Reads.read 2
  if h.mode = .jointStereo then
    if bitLen len < 32 + h.subbands then return (-1, [])
    else
      let b4 ← Reads.read 4
      unpackChecked len h (nibbles b1 ++ nibbles b2 ++ (nibbles b4).take (h.subbands / 4))
        (jointBit h.subbands b4) (32 + h.subbands)
  else unpackChecked len h (nibbles b1 ++ nibbles b2) (fun _ => false) 32
where
  /-- The scale factors, the checksum and what they guard. -/
  unpackChecked (len : Nat) (h : SbcHeader) (crcHeader : List UInt8) (joint : Nat → Bool)
      (consumed : Nat) : Reads UInt8 (Int × List (List Int)) := do
    if bitLen len < consumed + 4 * h.subbands * h.channels then return (-1, [])
    else
      let scaleFactors ← unpackScaleFactors h consumed
      let crcHeader := crcHeader ++ scaleFactors.flatten
      let crc ← Reads.read 3
      if crc ≠ sbcCrc8 (packNibbles crcHeader) (4 * crcHeader.length) then return (-3, [])
      else
        unpackAudio len h (scaleFactors.map fun channel => channel.map UInt8.toNat) joint
          (consumed + 4 * h.subbands * h.channels)

/-- The return value, the header as it is left and the samples. -/
def sbcUnpackFrame (len : Nat) (old : SbcHeader) :
    Reads UInt8 (Int × SbcHeader × List (List Int)) := do
  if len < 4 then return (-1, old, [])
  else
    let (err, h) ← unpackHeader old
    if err ≠ 0 then return (err, h, [])
    else
      let (ret, samples) ← unpackBody len h
      return (ret, h, samples)

/-! ## The bits of an mSBC frame -/

theorem offset_msbcHeader (sb : Nat) : -2 ≤ msbcHeader.offset sb ∧ msbcHeader.offset sb ≤ 1 := by
  by_cases hsb : sb < 8
  · have hall : ∀ sb < 8, -2 ≤ msbcHeader.offset sb ∧ msbcHeader.offset sb ≤ 1 := by decide
    exact hall sb hsb
  · have hdefault : msbcHeader.offset sb = 0 :=
      List.getD_eq_default _ _ (show 8 ≤ sb from Nat.not_lt.mp hsb)
    omega

/-- A scale factor has four bits. -/
theorem bitneed_msbcHeader {scaleFactor : Nat} (hscale : scaleFactor ≤ 15) (sb : Nat) :
    -5 ≤ msbcHeader.bitneed sb scaleFactor ∧ msbcHeader.bitneed sb scaleFactor ≤ 19 := by
  obtain ⟨hlow, hhigh⟩ := offset_msbcHeader sb
  have hneed : msbcHeader.bitneed sb scaleFactor =
      if scaleFactor = 0 then -5
      else if 0 < scaleFactor - msbcHeader.offset sb then
        (scaleFactor - msbcHeader.offset sb) / 2
      else scaleFactor - msbcHeader.offset sb := rfl
  rw [hneed]
  split_ifs <;> omega

/-- **An mSBC block has 26 bits**, whatever the scale factors. -/
theorem msbc_bits {channel : List Nat} (hlen : channel.length = 8)
    (hscale : ∀ scaleFactor ∈ channel, scaleFactor ≤ 15) :
    (calculateBits msbcHeader [channel]).flatten.length = 8 ∧
      (calculateBits msbcHeader [channel]).flatten.sum = 26 := by
  have hbits : (calculateBits msbcHeader [channel]).flatten =
      allocate (channel.mapIdx msbcHeader.bitneed) 26 := List.append_nil _
  have hneed : ∀ need ∈ channel.mapIdx msbcHeader.bitneed, -5 ≤ need ∧ need ≤ 19 := by
    intro need hmem
    obtain ⟨sb, hsb, rfl⟩ := List.mem_mapIdx.mp hmem
    exact bitneed_msbcHeader (hscale _ (List.getElem_mem hsb)) sb
  rw [hbits]
  constructor
  · rw [length_allocate, List.length_mapIdx, hlen]
  · apply allocate_sum (fun need hmem => (hneed need hmem).1) fun need hmem => (hneed need hmem).2
    rw [List.length_mapIdx, hlen]
    decide

/-! ## What the samples consume -/

variable {data : Mem UInt8} {len : Nat}

theorem unpackBits_consumes (limit bits audioSample consumed : Nat) :
    Reads.Consumes limit data (unpackBits limit bits audioSample consumed) consumed bits := by
  induction bits generalizing audioSample consumed with
  | zero => exact .done limit data audioSample consumed
  | succ bit ih =>
    unfold unpackBits
    split
    · rename_i hend
      exact ⟨.inl rfl, fun hfits => by omega, fun _ _ => Reads.inBounds_pure _ _ _,
        fun _ _ hle _ => by omega⟩
    · rename_i hmore
      have hnext := fun audioSample => ih audioSample (consumed + 1)
      constructor
      · rw [Nat.add_comm bit, ← Nat.add_assoc]
        exact (hnext _).value
      · intro hfits
        exact (hnext _).fits (by omega)
      · intro k hk
        refine Reads.inBounds_bind.mpr ⟨Reads.inBounds_read.mpr (by omega), ?_⟩
        exact (hnext _).inBounds k (by omega)
      · intro k hlimit hle hlt hin
        obtain ⟨hread, hrest⟩ := Reads.inBounds_bind.mp hin
        have hbyte := Reads.inBounds_read.mp hread
        -- the bit at the limit is the first one behind the input
        exact (hnext _).beyond k hlimit (by omega) (by omega) hrest

theorem unpackBlock_consumes (limit : Nat) (layout : List (Nat × Nat)) (consumed : Nat) :
    Reads.Consumes limit data (unpackBlock limit layout consumed) consumed
      (layout.map Prod.fst).sum := by
  induction layout generalizing consumed with
  | nil => exact .done limit data [] consumed
  | cons e rest ih =>
    obtain ⟨bits, scaleFactor⟩ := e
    unfold unpackBlock
    rw [List.map_cons, List.sum_cons]
    exact (unpackBits_consumes limit bits 0 consumed).andThen fun _ =>
      (ih _).map _

theorem unpackBlocks_consumes (limit : Nat) (layout : List (Nat × Nat)) (blk consumed : Nat) :
    Reads.Consumes limit data (unpackBlocks limit layout blk consumed) consumed
      (blk * (layout.map Prod.fst).sum) := by
  induction blk generalizing consumed with
  | zero =>
    rw [Nat.zero_mul]
    exact .done limit data [] consumed
  | succ blk ih =>
    unfold unpackBlocks
    rw [Nat.succ_mul, Nat.add_comm]
    exact (unpackBlock_consumes limit layout consumed).andThen fun _ =>
      (ih _).map _

/-! ## Staying inside the input -/

/-- All that is read is inside the input, and so is the frame that is found. -/
def Inside {α : Type} (len : Nat) (data : Mem UInt8) (x : Reads UInt8 (Int × α)) : Prop :=
  x.InBounds len data ∧ (0 < (x.value data).1 → (x.value data).1 ≤ len)

theorem inside_bind {α β : Type} {x : Reads UInt8 α} {f : α → Reads UInt8 (Int × β)} :
    Inside len data (x >>= f) ↔ x.InBounds len data ∧ Inside len data (f (x.value data)) := by
  unfold Inside
  rw [Reads.inBounds_bind, Reads.value_bind, and_assoc]

theorem inside_error {α : Type} {ret : Int} (hret : ret ≤ 0) (a : α) :
    Inside len data (pure (ret, a)) :=
  ⟨Reads.inBounds_pure _ _ _, fun hpos => absurd hpos (Int.not_lt.mpr hret)⟩

theorem bitLen_of_lt (hlen : len < 58) : bitLen len = 8 * len := by
  unfold bitLen
  omega

/-- Behind the scale factors, 390 bits are left and the byte behind them is looked at. -/
theorem inside_unpackAudio {channel : List Nat} (hlength : channel.length = 8)
    (hscale : ∀ scaleFactor ∈ channel, scaleFactor ≤ 15) (joint : Nat → Bool) (hlen : 8 ≤ len) :
    Inside len data (unpackAudio len msbcHeader [channel] joint 64) ↔ 58 ≤ len := by
  obtain ⟨hbits, hsum⟩ := msbc_bits hlength hscale
  have hlayout : (((calculateBits msbcHeader [channel]).flatten.zip [channel].flatten).map
      Prod.fst).sum = 26 := by
    rw [List.map_fst_zip, hsum]
    rw [hbits, List.flatten_singleton, hlength]
  have hblocks := @unpackBlocks_consumes data (bitLen len)
    ((calculateBits msbcHeader [channel]).flatten.zip [channel].flatten) 15 64
  rw [hlayout] at hblocks
  unfold unpackAudio
  rw [inside_bind]
  constructor
  · rintro ⟨hin, hrest⟩
    by_contra hshort
    have hbitLen := bitLen_of_lt (Nat.not_le.mp hshort)
    by_cases hprobe : len = 57
    · -- the samples end in the last byte: the byte that is looked at is the next one
      obtain ⟨blocks, hsome⟩ := hblocks.value_of_fits (by omega)
      rw [show msbcHeader.blocks = 15 from rfl, hsome] at hrest
      have hbyte := Reads.inBounds_read.mp (inside_bind.mp hrest).1
      omega
    · exact hblocks.beyond len (by omega) (by omega) (by omega) hin
  · intro hlong
    refine ⟨hblocks.inBounds len (by omega), ?_⟩
    rw [show msbcHeader.blocks = 15 from rfl]
    rcases hblocks.value with hnone | ⟨blocks, hsome⟩
    · rw [hnone]
      exact inside_error (by decide) _
    · rw [hsome]
      refine inside_bind.mpr ⟨Reads.inBounds_read.mpr (by omega), Reads.inBounds_pure _ _ _, ?_⟩
      intro _
      rw [Reads.value_pure]
      split <;> omega

/-! ## Unpacking an mSBC frame -/

/-- The checksum is that of the frame. -/
def CrcOk (data : Mem UInt8) : Prop :=
  data 3 = sbcCrc8 [data 1, data 2, data 4, data 5, data 6, data 7] 48

instance : Decidable (CrcOk data) := inferInstanceAs (Decidable (_ = _))

/-- The halves of a byte, as the loops put them together. -/
theorem nibbles_join (b : UInt8) :
    b >>> 4 <<< 4 ||| b &&& 0xf = b ∧ (b >>> 4 &&& 0x0f) <<< 4 ||| b &&& 0x0f = b := by
  have hall : ∀ b : Fin 256, UInt8.ofFin b >>> 4 <<< 4 ||| UInt8.ofFin b &&& 0xf = .ofFin b ∧
      (UInt8.ofFin b >>> 4 &&& 0x0f) <<< 4 ||| UInt8.ofFin b &&& 0x0f = .ofFin b := by
    decide +kernel
  exact hall b.toFin

/-- The halves of the four bytes behind the checksum. -/
def msbcScaleFactors (data : Mem UInt8) : List UInt8 :=
  [4, 5, 6, 7].flatMap fun i => [data i >>> 4 &&& 0x0f, data i &&& 0x0f]

theorem value_unpackScaleFactors (data : Mem UInt8) :
    (unpackScaleFactors msbcHeader 32).value data = [msbcScaleFactors data] := by
  show [[4, 5, 6, 7].flatMap fun i => [data i >>> 4 &&& 0x0f, data i >>> 0 &&& 0x0f]] = _
  simp only [UInt8.shiftRight_zero]
  rfl

theorem inBounds_unpackScaleFactors :
    (unpackScaleFactors msbcHeader 32).InBounds len data ↔ 8 ≤ len := by
  have hoffsets : (unpackScaleFactors msbcHeader 32).offsets data = [4, 4, 5, 5, 6, 6, 7, 7] := rfl
  unfold Reads.InBounds
  rw [hoffsets]
  simp only [List.forall_mem_cons, List.not_mem_nil, false_imp_iff, implies_true, and_true]
  omega

theorem msbcScaleFactors_le {b : UInt8} (hmem : b ∈ msbcScaleFactors data) : b.toNat ≤ 15 := by
  obtain ⟨i, -, hhalf⟩ := List.mem_flatMap.mp hmem
  rcases List.mem_cons.mp hhalf with rfl | hlow
  · exact Nat.and_le_right
  · rw [List.mem_singleton.mp hlow]
    exact Nat.and_le_right

theorem crcHeader_msbc (data : Mem UInt8) :
    packNibbles (nibbles (data 1) ++ nibbles (data 2) ++ msbcScaleFactors data) =
      [data 1, data 2, data 4, data 5, data 6, data 7] := by
  simp only [nibbles, msbcScaleFactors, List.flatMap_cons, List.flatMap_nil, List.cons_append,
    List.nil_append, List.append_nil, packNibbles, nibbles_join]

/-- From behind the header, of which at least four bytes are there. -/
theorem inside_unpackBody (hlen : 4 ≤ len) :
    Inside len data (unpackBody len msbcHeader) ↔ len < 8 ∨ ¬ CrcOk data ∨ 58 ≤ len := by
  have hbody : Inside len data (unpackBody len msbcHeader) ↔
      Inside len data (unpackBody.unpackChecked len msbcHeader
        (nibbles (data 1) ++ nibbles (data 2)) (fun _ => false) 32) := by
    unfold unpackBody
    rw [inside_bind, inside_bind, Reads.inBounds_read, Reads.inBounds_read]
    exact (and_iff_right (by omega)).trans (and_iff_right (by omega))
  have hbits : 32 + 4 * msbcHeader.subbands * msbcHeader.channels = 64 := rfl
  rw [hbody, unpackBody.unpackChecked, hbits]
  split
  · rename_i hshort
    refine iff_of_true (inside_error (by decide) _) ?_
    unfold bitLen at hshort
    omega
  · rename_i hbitLen
    have hheader : 8 ≤ len := by
      unfold bitLen at hbitLen
      omega
    rw [inside_bind, inBounds_unpackScaleFactors, value_unpackScaleFactors, inside_bind,
      Reads.inBounds_read, Reads.value_read, List.flatten_singleton, crcHeader_msbc]
    split
    · rename_i hcrc
      exact iff_of_true ⟨hheader, by omega, inside_error (by decide) _⟩ (.inr (.inl hcrc))
    · rename_i hcrc
      have hok : CrcOk data := not_not.mp hcrc
      have haudio : Inside len data (unpackAudio len msbcHeader
          [(msbcScaleFactors data).map UInt8.toNat] (fun _ => false) 64) ↔ 58 ≤ len := by
        apply inside_unpackAudio _ _ _ hheader
        · rfl
        · intro scaleFactor hmem
          obtain ⟨b, hb, rfl⟩ := List.mem_map.mp hmem
          exact msbcScaleFactors_le hb
      simp only [List.map_cons, List.map_nil, haudio, hok, not_true, false_or]
      omega

/-- **When unpacking an mSBC frame stays inside the input**: it does not get to the samples, or
there are 58 bytes. -/
theorem unpackInside_iff (data : Mem UInt8) (hsync : data 0 = MSBC_SYNCWORD) (len : Nat)
    (old : SbcHeader) :
    Inside len data (sbcUnpackFrame len old) ↔ len < 8 ∨ ¬ CrcOk data ∨ 58 ≤ len := by
  unfold sbcUnpackFrame
  split
  · rename_i hshort
    exact iff_of_true (inside_error (by decide) _) (.inl (by omega))
  · rename_i hlen
    have hheader : (unpackHeader old).value data = (0, msbcHeader) := by
      unfold unpackHeader
      rw [Reads.value_bind, Reads.value_read, hsync]
      rfl
    have hread : (unpackHeader old).InBounds len data := by
      unfold unpackHeader
      rw [Reads.inBounds_bind, Reads.value_read, hsync]
      exact ⟨Reads.inBounds_read.mpr (by omega), Reads.inBounds_pure _ _ _⟩
    rw [inside_bind, hheader, and_iff_right hread, ← inside_unpackBody (Nat.not_lt.mp hlen)]
    refine inside_bind.trans (and_congr_right fun _ => ?_)
    exact and_iff_right (Reads.inBounds_pure _ _ _)

theorem unpackInside_indices0 :
    Inside 58 (Mem.ofList indices0 0) (sbcUnpackFrame 58 .zero) :=
  (unpackInside_iff (Mem.ofList indices0 0) rfl 58 .zero).mpr (.inr (.inr (Nat.le_refl 58)))

/-- Without its last byte, which is padding, the frame is read beyond its end. -/
theorem not_unpackInside : ¬ Inside 57 (Mem.ofList indices0 0) (sbcUnpackFrame 57 .zero) := by
  rintro ⟨hin, -⟩
  have hread : 57 ∈ (sbcUnpackFrame 57 .zero).offsets (Mem.ofList indices0 0) := by
    decide +kernel
  exact absurd (hin 57 hread) (Nat.lt_irrefl 57)

end Sloane.Btremoted
