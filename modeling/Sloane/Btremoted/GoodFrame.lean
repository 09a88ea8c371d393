import Sloane.Btremoted.MainBuf

/-!
# Good frames and the concealment

Model of `PLC_good_frame` and of the conversions around it as the compiler carries them out, for a
`char` that is signed and for one that is not.  What `sbcplc.c` computes in floating point, the
cross-fade and `PLC_bad_frame`, is a parameter.

* `ucharToShortArrayChar_eq`, `shortToUcharArrayChar_eq` — the conversions move bit patterns.
* `writeToMainBuf_goodFrame` — while no frame is being concealed, a good frame goes into the buffer
  as it does without the concealment, each sample little-endian.
-/

namespace Sloane.Btremoted

open Sloane.Lib

def FS : Nat := 120
def LHIST : Nat := 375
def SBCRT : Nat := 36
def OLAL : Nat := 16

/-! ## Conversions in C -/

/-- `(short)(char)b` -/
def charValue (charSigned : Bool) (b : UInt8) : Int :=
  if charSigned = true ∧ 128 ≤ b.toNat then b.toNat - 256 else b.toNat

/-- What an `int` leaves in a `short`. -/
def toShort (x : Int) : UInt16 := .ofNat (x % 2 ^ 16).toNat

def shortValue (s : UInt16) : Int := if 2 ^ 15 ≤ s.toNat then s.toNat - 2 ^ 16 else s.toNat

def toUchar (x : Int) : UInt8 := .ofNat (x % 2 ^ 8).toNat

def ucharToShortArrayChar (charSigned : Bool) (cbuf : Mem UInt8) (sbuf : Mem UInt16) (len : Nat) :
    Mem UInt16 := fun i =>
  if i < len / 2 then
    toShort (charValue charSigned (cbuf (2 * i + 1)) * 2 ^ 8 + (cbuf (2 * i)).toNat)
  else sbuf i

def shortToUcharArrayChar (sbuf : Mem UInt16) (cbuf : Mem UInt8) (len : Nat) : Mem UInt8 := fun i =>
  if i < len / 2 * 2 then
    if i % 2 = 0 then toUchar (shortValue (sbuf (i / 2)) % 2 ^ 8)
    else toUchar (shortValue (sbuf (i / 2)) / 2 ^ 8)
  else cbuf i

/-- Shifting a negative `char` to the left keeps its bits. -/
theorem toShort_charValue (charSigned : Bool) (hi lo : UInt8) :
    toShort (charValue charSigned hi * 2 ^ 8 + lo.toNat) = (hi.toUInt16 <<< 8) + lo.toUInt16 := by
  have hhi := hi.toNat_lt
  have hlo := lo.toNat_lt
  apply UInt16.toNat_inj.mp
  have hright : ((hi.toUInt16 <<< 8) + lo.toUInt16).toNat = hi.toNat * 256 + lo.toNat := by
    simp only [UInt16.toNat_add, UInt16.toNat_shiftLeft, UInt8.toNat_toUInt16, Nat.shiftLeft_eq,
      show UInt16.toNat 8 % 16 = 8 from rfl]
    omega
  rw [hright, toShort, charValue]
  simp only [UInt16.toNat_ofNat']
  split <;> omega

theorem toUchar_low (s : UInt16) : toUchar (shortValue s % 2 ^ 8) = s.toUInt8 := by
  have hs := s.toNat_lt
  apply UInt8.toNat_inj.mp
  rw [toUchar, shortValue, UInt16.toNat_toUInt8]
  simp only [UInt8.toNat_ofNat']
  split <;> omega

theorem toUchar_high (s : UInt16) : toUchar (shortValue s / 2 ^ 8) = (s >>> 8).toUInt8 := by
  have hs := s.toNat_lt
  apply UInt8.toNat_inj.mp
  have hright : (s >>> 8).toUInt8.toNat = s.toNat / 256 := by
    simp only [UInt16.toNat_toUInt8, UInt16.toNat_shiftRight, Nat.shiftRight_eq_div_pow,
      show UInt16.toNat 8 % 16 = 8 from rfl]
    omega
  rw [hright, toUchar, shortValue]
  simp only [UInt8.toNat_ofNat']
  split <;> omega

theorem ucharToShortArrayChar_eq (charSigned : Bool) (cbuf : Mem UInt8) (sbuf : Mem UInt16)
    (len : Nat) :
    ucharToShortArrayChar charSigned cbuf sbuf len = ucharToShortArray cbuf sbuf len := by
  funext i
  rw [ucharToShortArrayChar, ucharToShortArray, toShort_charValue]

theorem shortToUcharArrayChar_eq (sbuf : Mem UInt16) (cbuf : Mem UInt8) (len : Nat) :
    shortToUcharArrayChar sbuf cbuf len = shortToUcharArray sbuf cbuf len := by
  funext i
  rw [shortToUcharArrayChar, shortToUcharArray, toUchar_low, toUchar_high]

/-! ## PLC_good_frame -/

structure PlcState where
  hist : Mem UInt16
  bestlag : Int
  nbf : Int

/-- `InitPLC`. -/
def PlcState.init (st : PlcState) : PlcState where
  hist i := if i < LHIST + SBCRT then 0 else st.hist i
  bestlag := 0
  nbf := 0

/-- What is computed in floating point. -/
structure PlcFloat where
  /-- `(short)(hist * rcos[i] + in * rcos[OLAL - 1 - i])` -/
  fade : Nat → UInt16 → UInt16 → UInt16
  badFrame : PlcState → Mem UInt16 → Mem UInt16 → PlcState × Mem UInt16

def PlcFloat.goodFrame (fl : PlcFloat) (st : PlcState) (plcIn plcOut : Mem UInt16) :
    PlcState × Mem UInt16 :=
  let out : Mem UInt16 := fun i =>
    if 0 < st.nbf ∧ i < SBCRT then st.hist (LHIST + i)
    else if 0 < st.nbf ∧ i < SBCRT + OLAL then fl.fade (i - SBCRT) (st.hist (LHIST + i)) (plcIn i)
    else if i < FS then plcIn i
    else plcOut i
  let hist : Mem UInt16 := fun i =>
    if LHIST ≤ i ∧ i < LHIST + FS then out (i - LHIST) else st.hist i
  ({ st with hist := fun i => if i < LHIST then hist (i + FS) else hist i, nbf := 0 }, out)

/-- The concealment of `sbcplc.c` with some decoder. -/
def plcCodec (fl : PlcFloat) (Sbc : Type) (sbcDecode : Sbc → List UInt8 → Sbc × DecodeResult) :
    Codec where
  Plc := PlcState
  Sbc := Sbc
  initPLC := PlcState.init
  plcGoodFrame := fl.goodFrame
  plcBadFrame := fl.badFrame
  sbcDecode := sbcDecode

/-- **While nothing is concealed, a good frame passes as it is.** -/
theorem goodFrame_out (fl : PlcFloat) {st : PlcState} (hnbf : st.nbf = 0)
    (plcIn plcOut : Mem UInt16) {i : Nat} (hi : i < FS) :
    (fl.goodFrame st plcIn plcOut).2 i = plcIn i := by
  simp [PlcFloat.goodFrame, hnbf, hi]

/-! ## write_to_main_buf -/

variable {C : Codec}

/-- `convertChunk` with the conversions in C. -/
def convertChunkChar (charSigned : Bool) (cfg : Config) (v : Voice C) (buf : Mem UInt8) (len : Nat)
    (good : Bool) : Voice C × Mem UInt8 :=
  if cfg.decodeEnabled then
    let buf := beToLe buf len
    if cfg.plcEnabled then
      let plcIn := ucharToShortArrayChar charSigned buf v.plcIn len
      let (plcState, plcOut) :=
        if good then C.plcGoodFrame v.plcState plcIn v.plcOut
        else C.plcBadFrame v.plcState plcIn v.plcOut
      ({ v with plcState := plcState, plcIn := plcIn, plcOut := plcOut },
        shortToUcharArrayChar plcOut buf len)
    else (v, buf)
  else (v, buf)

def writeToMainBufChar (charSigned : Bool) (cfg : Config) (v : Voice C) (buf : Mem UInt8)
    (len : Nat) (good : Bool) : Voice C × Mem UInt8 × VoiceEvent :=
  let (v, buf) := convertChunkChar charSigned cfg v buf len good
  if (v.mainBuf.tail + len) % 2 ^ 32 ≤ BUFFER_SIZE then
    ({ v with mainBuf := v.mainBuf.push (buf.read 0 len) }, buf, .copied (buf.read 0 len))
  else (v, buf, .truncated)

/-- Whether `char` is signed makes no difference. -/
theorem writeToMainBufChar_eq (charSigned : Bool) (cfg : Config) (v : Voice C) (buf : Mem UInt8)
    (len : Nat) (good : Bool) :
    writeToMainBufChar charSigned cfg v buf len good = writeToMainBuf cfg v buf len good := by
  have hconv :
      convertChunkChar charSigned cfg v buf len good = convertChunk cfg v buf len good := by
    simp only [convertChunkChar, convertChunk, ucharToShortArrayChar_eq, shortToUcharArrayChar_eq]
  rw [writeToMainBufChar, hconv]
  rfl

/-! ## Samples -/

/-- The samples as `sbc_decode` writes them. -/
def bigEndian (samples : List UInt16) : List UInt8 :=
  samples.flatMap fun s : UInt16 => [(s >>> 8).toUInt8, s.toUInt8]

def littleEndian (samples : List UInt16) : List UInt8 :=
  samples.flatMap fun s : UInt16 => [s.toUInt8, (s >>> 8).toUInt8]

theorem bigEndian_length (samples : List UInt16) :
    (bigEndian samples).length = 2 * samples.length := by
  induction samples with
  | nil => rfl
  | cons s samples ih =>
    show (bigEndian samples).length + 2 = 2 * (samples.length + 1)
    omega

theorem read_pair (m : Mem UInt8) (off n : Nat) :
    m.read off (2 * (n + 1)) = m off :: m (off + 1) :: m.read (off + 2) (2 * n) := by
  rw [Nat.mul_succ, Nat.add_comm, Mem.read_add]
  rfl

/-- Bytes that are swapped in pairs. -/
theorem read_swapped {buf m : Mem UInt8} {off : Nat} {samples : List UInt16}
    (h : buf.read off (2 * samples.length) = bigEndian samples)
    (hswap : ∀ j < samples.length,
      m (off + 2 * j) = buf (off + 2 * j + 1) ∧ m (off + 2 * j + 1) = buf (off + 2 * j)) :
    m.read off (2 * samples.length) = littleEndian samples := by
  induction samples generalizing off with
  | nil => rfl
  | cons s samples ih =>
    rw [List.length_cons, read_pair] at h ⊢
    obtain ⟨hhi, htail⟩ := List.cons.inj h
    obtain ⟨hlo, hrest⟩ := List.cons.inj htail
    obtain ⟨hfirst, hsecond⟩ := hswap 0 (Nat.succ_pos _)
    have hrest' : m.read (off + 2) (2 * samples.length) = littleEndian samples := by
      apply ih hrest
      intro j hj
      have hnext := hswap (j + 1) (Nat.succ_lt_succ hj)
      rwa [show off + 2 * (j + 1) = off + 2 + 2 * j by omega] at hnext
    simp only [Nat.mul_zero, Nat.add_zero] at hfirst hsecond
    rw [hfirst, hsecond, hhi, hlo, hrest']
    rfl

/-- **The byte swap** makes the decoder's samples little-endian. -/
theorem beToLe_read {buf : Mem UInt8} {samples : List UInt16}
    (h : buf.read 0 (2 * samples.length) = bigEndian samples) :
    (beToLe buf (2 * samples.length)).read 0 (2 * samples.length) = littleEndian samples := by
  apply read_swapped h
  intro j hj
  have heven : (0 + 2 * j) / 2 * 2 < 2 * samples.length := by omega
  have hodd : (0 + 2 * j + 1) / 2 * 2 < 2 * samples.length := by omega
  constructor
  · rw [beToLe, if_pos heven, if_pos (by omega)]
  · rw [beToLe, if_pos hodd, if_neg (by omega)]
    rfl

/-- Put together and split again, a sample is what it was. -/
theorem split_join (hi lo : UInt8) :
    ((hi.toUInt16 <<< 8) + lo.toUInt16).toUInt8 = lo ∧
      (((hi.toUInt16 <<< 8) + lo.toUInt16) >>> 8).toUInt8 = hi := by
  have hhi := hi.toNat_lt
  have hlo := lo.toNat_lt
  have hsum : ((hi.toUInt16 <<< 8) + lo.toUInt16).toNat = hi.toNat * 256 + lo.toNat := by
    simp only [UInt16.toNat_add, UInt16.toNat_shiftLeft, UInt8.toNat_toUInt16, Nat.shiftLeft_eq,
      show UInt16.toNat 8 % 16 = 8 from rfl]
    omega
  constructor
  · apply UInt8.toNat_inj.mp
    rw [UInt16.toNat_toUInt8, hsum]
    omega
  · apply UInt8.toNat_inj.mp
    rw [UInt16.toNat_toUInt8, UInt16.toNat_shiftRight, hsum, Nat.shiftRight_eq_div_pow,
      show UInt16.toNat 8 % 16 = 8 from rfl]
    omega

/-- Splitting what was put together gives the bytes back. -/
theorem shortToUcharArray_ucharToShortArray {buf cbuf : Mem UInt8} (sbuf : Mem UInt16)
    {out : Mem UInt16} {len : Nat}
    (hout : ∀ i < len / 2, out i = ucharToShortArray buf sbuf len i) {i : Nat}
    (hi : i < len / 2 * 2) : shortToUcharArray out cbuf len i = buf i := by
  have hpair : i / 2 < len / 2 := by omega
  rw [shortToUcharArray, if_pos hi, hout _ hpair, ucharToShortArray, if_pos hpair]
  obtain ⟨hlo, hhi⟩ := split_join (buf (2 * (i / 2) + 1)) (buf (2 * (i / 2)))
  split
  · rename_i heven
    rw [hlo]
    congr 1
    omega
  · rename_i hodd
    rw [hhi]
    congr 1
    omega

/-! ## A good frame -/

section GoodFrame

variable {fl : PlcFloat} {Sbc : Type} {sbcDecode : Sbc → List UInt8 → Sbc × DecodeResult}

/-- With the concealment or without it, the chunk is the same. -/
theorem convertChunk_goodFrame {cfg : Config} (hdec : cfg.decodeEnabled = true)
    {v : Voice (plcCodec fl Sbc sbcDecode)} (hnbf : PlcState.nbf v.plcState = 0)
    (buf : Mem UInt8) {n : Nat} (hn : n ≤ FS) :
    (convertChunk cfg v buf (2 * n) true).2.read 0 (2 * n) =
      (beToLe buf (2 * n)).read 0 (2 * n) := by
  unfold convertChunk
  rw [if_pos hdec]
  dsimp only
  split
  · apply Mem.read_congr
    intro i _ hi
    apply shortToUcharArray_ucharToShortArray v.plcIn
    · intro j hj
      exact goodFrame_out fl hnbf _ v.plcOut (by omega)
    · omega
  · rfl

/-- What a good frame adds, with the concealment or without it. -/
theorem writeToMainBuf_littleEndian (cfg : Config) (hdec : cfg.decodeEnabled = true)
    {v : Voice (plcCodec fl Sbc sbcDecode)} (hnbf : PlcState.nbf v.plcState = 0) {buf : Mem UInt8}
    {samples : List UInt16} (hlen : samples.length ≤ FS)
    (hbuf : buf.read 0 (2 * samples.length) = bigEndian samples) :
    (writeToMainBuf cfg v buf (2 * samples.length) true).2.2 =
        (if (v.mainBuf.tail + 2 * samples.length) % 2 ^ 32 ≤ BUFFER_SIZE then
          .copied (littleEndian samples) else .truncated) ∧
      (writeToMainBuf cfg v buf (2 * samples.length) true).1.mainBuf =
        (if (v.mainBuf.tail + 2 * samples.length) % 2 ^ 32 ≤ BUFFER_SIZE then
          v.mainBuf.push (littleEndian samples) else v.mainBuf) := by
  have hread := convertChunk_goodFrame hdec hnbf buf hlen
  rw [beToLe_read hbuf] at hread
  obtain ⟨plcState, plcIn, plcOut, hconv⟩ := convertChunk_voice cfg v buf (2 * samples.length) true
  unfold writeToMainBuf
  simp only [hconv, hread]
  split
  · exact ⟨rfl, rfl⟩
  · exact ⟨rfl, rfl⟩

/-- The same settings with the concealment switched on or off. -/
def Config.withPlc (cfg : Config) (plcEnabled : Bool) : Config :=
  { cfg with plcEnabled := plcEnabled }

/-- **A good frame is not altered**: while nothing is being concealed, a chunk of the decoder's
samples goes into the buffer as it does without the concealment, each sample little-endian, whether
`char` is signed or not. -/
theorem goodFrame_unaltered (cfg : Config) (hdec : cfg.decodeEnabled = true)
    (v : Voice (plcCodec fl Sbc sbcDecode)) (hnbf : PlcState.nbf v.plcState = 0) {buf : Mem UInt8}
    {samples : List UInt16} (hlen : samples.length = FS)
    (hbuf : buf.read 0 (2 * samples.length) = bigEndian samples) (charSigned : Bool) :
    let on := writeToMainBufChar charSigned (cfg.withPlc true) v buf (2 * samples.length) true
    let off := writeToMainBufChar charSigned (cfg.withPlc false) v buf (2 * samples.length) true
    on.2.2 = off.2.2 ∧ on.1.mainBuf = off.1.mainBuf ∧
      ((v.mainBuf.tail + 2 * samples.length) % 2 ^ 32 ≤ BUFFER_SIZE →
        on.2.2 = .copied (littleEndian samples) ∧
          on.1.mainBuf = v.mainBuf.push (littleEndian samples)) := by
  simp only [writeToMainBufChar_eq]
  obtain ⟨hevOn, hbufOn⟩ := writeToMainBuf_littleEndian
    (cfg.withPlc true) hdec hnbf (Nat.le_of_eq hlen) hbuf
  obtain ⟨hevOff, hbufOff⟩ := writeToMainBuf_littleEndian
    (cfg.withPlc false) hdec hnbf (Nat.le_of_eq hlen) hbuf
  refine ⟨hevOn.trans hevOff.symm, hbufOn.trans hbufOff.symm, fun hfit => ?_⟩
  rw [hevOn, hbufOn, if_pos hfit, if_pos hfit]
  exact ⟨rfl, rfl⟩

end GoodFrame

/-! ## A negative sample -/

def noFloat : PlcFloat where
  fade _ h _ := h
  badFrame st _ out := (st, out)

def quietVoice : Voice (plcCodec noFloat Unit fun _ _ => ((), silence)) where
  mainBuf := ⟨fun _ => 0, 0, 0⟩
  plcState := ⟨fun _ => 0, 0, 0⟩
  plcIn _ := 0
  plcOut _ := 0
  sbc := ()
  lastSeqNum := 3

def decodeOn : Config where
  decodeEnabled := true
  plcEnabled := false
  ntrim := 0
  ntrim_range := zero_ntrim_range

/-- A frame of samples that are all -2. -/
def minusTwo : List UInt16 := .replicate FS 0xFFFE

theorem goodFrame_unaltered_minusTwo :
    (writeToMainBufChar true (decodeOn.withPlc true) quietVoice
      (Mem.ofList (bigEndian minusTwo) 0) (2 * minusTwo.length) true).2.2 =
        .copied (littleEndian minusTwo) := by
  have hlen : minusTwo.length = FS := List.length_replicate
  have hbuf : (Mem.ofList (bigEndian minusTwo) 0).read 0 (2 * minusTwo.length) =
      bigEndian minusTwo := by
    rw [← bigEndian_length]
    exact Mem.ofList_read _ 0
  have hfit : (quietVoice.mainBuf.tail + 2 * minusTwo.length) % 2 ^ 32 ≤ BUFFER_SIZE := by
    rw [hlen]
    decide
  obtain ⟨-, -, hcopied⟩ := goodFrame_unaltered decodeOn rfl quietVoice rfl hlen hbuf true
  exact (hcopied hfit).1

end Sloane.Btremoted
