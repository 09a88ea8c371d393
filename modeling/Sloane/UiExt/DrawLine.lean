import Mathlib.Tactic.Ring
import Sloane.Lib.Strides

/-!
# The debug lines

`drawLine` splits a buffer into blocks, as many as the pattern says but no more than 32 in each
direction, and fills the one that the position selects.

* `DrawArea` — the sizes in exact arithmetic; `drawLine_column`, `drawLine_grid` connect them.
* `drawLine_inBlock` — every position fills its own part of the buffer, and nothing outside it.
-/

namespace Sloane.UiExt

open Sloane.Lib

/-! ## The source -/

/-- An `int` where the source wants a `uint32_t`. -/
def toUint32 (n : Int) : Nat := (n % 2 ^ 32).toNat

def NO_ERROR : Int := 0

/-- What a buffer says about itself, less the handle. -/
structure BufferInfo where
  mWidth : Int
  mHeight : Int
  mStride : Int
  mFormat : Int
  deriving DecidableEq, Repr

/-- The pixel formats that the platform's headers define. -/
structure HalPixelFormats where
  RGBA_8888 : Int
  RGBX_8888 : Int
  BGRA_8888 : Int
  RGB_888 : Int
  RGB_565 : Int
  NV12_BLK : Int
  NV12_BLK_FCM : Int
  YV12 : Int

def HAL_PIXEL_FORMAT_YUYV : Int := 0x0000010c
def HAL_PIXEL_FORMAT_I420 : Int := 0x32315659 + 0x10
def HAL_PIXEL_FORMAT_YUV_PRIVATE : Int := 0x32315659 + 0x20

def getBitsPerPixel (hal : HalPixelFormats) (format : Int) : Nat :=
  if format ∈ [hal.RGBA_8888, hal.RGBX_8888, hal.BGRA_8888, 0x1ff] then 32
  else if format = hal.RGB_888 then 24
  else if format ∈ [hal.RGB_565, HAL_PIXEL_FORMAT_YUYV] then 16
  else if format ∈ [HAL_PIXEL_FORMAT_I420, hal.NV12_BLK, hal.NV12_BLK_FCM, hal.YV12,
      HAL_PIXEL_FORMAT_YUV_PRIVATE] then 12
  -- an unknown format counts as four bytes
  else 32

/-- One call of `memset`; the pointer is an offset into the buffer. -/
structure Memset where
  ptr : Nat
  val : UInt8
  len : Nat
  deriving DecidableEq, Repr

/-- The loop over the rows of a block. -/
def memsetRows (val : UInt8) (block_w pitch : Nat) : Nat → Nat → List Memset
  | 0, _ => []
  | block_h + 1, ptr => ⟨ptr, val, block_w⟩ :: memsetRows val block_w pitch block_h (ptr + pitch)

def patternLog (ptn : Nat) : Nat :=
  if Nat.log2 ptn > 5 then 5 else Nat.log2 ptn

/-- The bits of a pixel; a custom format is regarded as a plane of bytes. -/
def BufferInfo.bits (info : BufferInfo) (bitsPerPixel : Int → Nat) : Nat :=
  if info.mFormat < 0x100 then bitsPerPixel info.mFormat else 8

/-- What `drawLine` fills; `lockErr` is what locking the buffer returned. -/
def drawLine (bitsPerPixel : Int → Nat) (lockErr : Int) (info : BufferInfo) (val : UInt8)
    (ptn_w ptn_h : Nat) (pos : Int) : List Memset :=
  let width := toUint32 info.mWidth
  let height := toUint32 info.mHeight
  let stride := toUint32 info.mStride
  let ptn_w := if ptn_w = 0 then 1 else ptn_w
  let ptn_h := if ptn_h = 0 then 1 else ptn_h
  let log_w := patternLog ptn_w
  let line_w := 2 ^ log_w
  let log_h := patternLog ptn_h
  let line_h := 2 ^ log_h
  if lockErr ≠ NO_ERROR then []
  else
    let bits := info.bits bitsPerPixel
    if ptn_w = 1 then
      let pos := toUint32 pos &&& (line_h - 1)
      let bsize := (stride * height * bits % 2 ^ 32) >>> 3 >>> log_h
      [⟨bsize * pos % 2 ^ 32, val, bsize⟩]
    else
      let block_w := width >>> log_w
      let block_h := height >>> log_h
      let pos_x := toUint32 pos &&& (line_w - 1)
      let pos_y := toUint32 pos / line_w &&& (line_h - 1)
      let block_w := (block_w * bits % 2 ^ 32) >>> 3
      let ptr := ((stride * pos_y * block_h * bits % 2 ^ 32) >>> 3 + block_w * pos_x) % 2 ^ 32
      memsetRows val block_w ((stride * bits % 2 ^ 32) >>> 3) block_h ptr

/-- The byte is set. -/
def Wrote (sets : List Memset) (a : Nat) : Prop := ∃ m ∈ sets, m.ptr ≤ a ∧ a < m.ptr + m.len

/-- The column and the row of the block that the position selects. -/
def selected (ptn_w ptn_h : Nat) (pos : Int) : Nat × Nat :=
  (toUint32 pos % 2 ^ patternLog ptn_w,
    toUint32 pos / 2 ^ patternLog ptn_w % 2 ^ patternLog ptn_h)

theorem wrote_memsetRows (val : UInt8) (block_w pitch block_h ptr a : Nat) :
    Wrote (memsetRows val block_w pitch block_h ptr) a ↔
      (Rows.mk ptr pitch block_h block_w).Mem a := by
  induction block_h generalizing ptr with
  | zero => simp [Wrote, memsetRows, Rows.Mem]
  | succ n ih =>
    have hcons : Wrote (memsetRows val block_w pitch (n + 1) ptr) a ↔
        (ptr ≤ a ∧ a < ptr + block_w) ∨ Wrote (memsetRows val block_w pitch n (ptr + pitch)) a := by
      simp [Wrote, memsetRows]
    rw [hcons, ih]
    constructor
    · rintro (h | ⟨j, hj, hlo, hhi⟩)
      · exact ⟨0, Nat.succ_pos n, by simpa using h⟩
      · refine ⟨j + 1, Nat.succ_lt_succ hj, ?_⟩
        simp only [Nat.succ_mul] at hlo hhi ⊢
        omega
    · rintro ⟨_ | j, hj, hlo, hhi⟩
      · exact Or.inl (by simpa using And.intro hlo hhi)
      · refine Or.inr ⟨j, Nat.lt_of_succ_lt_succ hj, ?_⟩
        simp only [Nat.succ_mul] at hlo hhi ⊢
        omega

theorem patternLog_pattern (ptn : Nat) :
    patternLog (if ptn = 0 then 1 else ptn) = patternLog ptn := by
  split
  · rename_i h
    rw [h]
    rfl
  · rfl

theorem patternLog_of_le_one {ptn : Nat} (h : ptn ≤ 1) : patternLog ptn = 0 := by
  obtain rfl | rfl := Nat.le_one_iff_eq_zero_or_eq_one.mp h <;> rfl

/-! ## The blocks of a picture -/

/-- A picture whose bits a 32-bit number counts. -/
structure Picture where
  width : Nat
  height : Nat
  stride : Nat
  bits : Nat
  width_le : width ≤ stride
  fits : stride * height * bits < 2 ^ 32

namespace Picture

variable (p : Picture)

/-- The bytes of the picture. -/
def size : Nat := p.stride * p.height * p.bits / 8

/-- The bytes between the beginnings of two rows. -/
def pitch : Nat := p.stride * p.bits / 8

/-- The bytes of one row of a block. -/
def blockW (ptn_w : Nat) : Nat := p.width / 2 ^ patternLog ptn_w * p.bits / 8

/-- The rows of a block. -/
def blockH (ptn_h : Nat) : Nat := p.height / 2 ^ patternLog ptn_h

/-- Where the blocks of the row `y` begin. -/
def band (ptn_h y : Nat) : Nat := p.stride * y * p.blockH ptn_h * p.bits / 8

/-- **The block** at a column and a row, in exact arithmetic.  A pattern without columns cuts the
bytes of the picture, whatever its rows are. -/
def part (ptn_w ptn_h : Nat) (blk : Nat × Nat) : Rows :=
  if ptn_w ≤ 1 then
    { start := p.size / 2 ^ patternLog ptn_h * blk.2, pitch := 0, rows := 1,
      len := p.size / 2 ^ patternLog ptn_h }
  else
    { start := p.band ptn_h blk.2 + p.blockW ptn_w * blk.1, pitch := p.pitch,
      rows := p.blockH ptn_h, len := p.blockW ptn_w }

variable {p} {ptn_w ptn_h x y : Nat}

theorem size_lt : p.size < 2 ^ 32 := (Nat.div_le_self _ 8).trans_lt p.fits

/-- The blocks of a row fit next to each other. -/
theorem column_le (hx : x < 2 ^ patternLog ptn_w) :
    p.blockW ptn_w * x + p.blockW ptn_w ≤ p.pitch := by
  have hcols : p.width / 2 ^ patternLog ptn_w * (x + 1) ≤ p.stride :=
    calc p.width / 2 ^ patternLog ptn_w * (x + 1)
        ≤ p.width / 2 ^ patternLog ptn_w * 2 ^ patternLog ptn_w := Nat.mul_le_mul_left _ hx
      _ ≤ p.width := Nat.div_mul_le_self _ _
      _ ≤ p.stride := p.width_le
  rw [← Nat.mul_succ, pitch, Nat.le_div_iff_mul_le (by decide)]
  calc p.blockW ptn_w * (x + 1) * 8
      = p.blockW ptn_w * 8 * (x + 1) := Nat.mul_right_comm _ _ _
    _ ≤ p.width / 2 ^ patternLog ptn_w * p.bits * (x + 1) :=
        Nat.mul_le_mul_right _ (Nat.div_mul_le_self _ _)
    _ = p.width / 2 ^ patternLog ptn_w * (x + 1) * p.bits := Nat.mul_right_comm _ _ _
    _ ≤ p.stride * p.bits := Nat.mul_le_mul_right _ hcols

/-- The rows of a block end before the next blocks begin. -/
theorem band_succ : p.band ptn_h y + p.blockH ptn_h * p.pitch ≤ p.band ptn_h (y + 1) := by
  rw [band, band, Nat.le_div_iff_mul_le (by decide), Nat.add_mul]
  have hpitch : p.pitch * 8 ≤ p.stride * p.bits := Nat.div_mul_le_self _ _
  calc p.stride * y * p.blockH ptn_h * p.bits / 8 * 8 + p.blockH ptn_h * p.pitch * 8
      ≤ p.stride * y * p.blockH ptn_h * p.bits + p.blockH ptn_h * p.pitch * 8 :=
        Nat.add_le_add_right (Nat.div_mul_le_self _ _) _
    _ ≤ p.stride * y * p.blockH ptn_h * p.bits + p.blockH ptn_h * (p.stride * p.bits) := by
        rw [Nat.mul_assoc (p.blockH ptn_h)]
        exact Nat.add_le_add_left (Nat.mul_le_mul_left _ hpitch) _
    _ = p.stride * (y + 1) * p.blockH ptn_h * p.bits := by ring

theorem band_mono {y' : Nat} (h : y ≤ y') : p.band ptn_h y ≤ p.band ptn_h y' :=
  Nat.div_le_div_right (Nat.mul_le_mul_right _ (Nat.mul_le_mul_right _ (Nat.mul_le_mul_left _ h)))

/-- The bits in front of a row of blocks. -/
theorem bits_le (hy : y ≤ 2 ^ patternLog ptn_h) :
    p.stride * y * p.blockH ptn_h * p.bits ≤ p.stride * p.height * p.bits := by
  have hrows : y * p.blockH ptn_h ≤ p.height :=
    calc y * p.blockH ptn_h
        ≤ 2 ^ patternLog ptn_h * p.blockH ptn_h := Nat.mul_le_mul_right _ hy
      _ ≤ p.height := Nat.mul_div_le _ _
  rw [Nat.mul_assoc p.stride]
  exact Nat.mul_le_mul_right _ (Nat.mul_le_mul_left _ hrows)

theorem band_le (hy : y ≤ 2 ^ patternLog ptn_h) : p.band ptn_h y ≤ p.size :=
  Nat.div_le_div_right (bits_le hy)

/-! The products that the source computes in 32 bits do not overflow. -/

theorem height_pos (h : p.blockH ptn_h ≠ 0) : 0 < p.height := by
  apply Nat.pos_of_ne_zero
  intro hzero
  exact h (by rw [blockH, hzero, Nat.zero_div])

theorem row_lt (h : 0 < p.height) : p.stride * p.bits < 2 ^ 32 :=
  calc p.stride * p.bits
      ≤ p.stride * p.height * p.bits := Nat.mul_le_mul_right _ (Nat.le_mul_of_pos_right _ h)
    _ < 2 ^ 32 := p.fits

theorem pitch_exact (h : 0 < p.height) : p.stride * p.bits % 2 ^ 32 / 2 ^ 3 = p.pitch := by
  rw [Nat.mod_eq_of_lt (row_lt h)]
  rfl

theorem blockW_exact (h : 0 < p.height) :
    p.width / 2 ^ patternLog ptn_w * p.bits % 2 ^ 32 / 2 ^ 3 = p.blockW ptn_w := by
  have hle : p.width / 2 ^ patternLog ptn_w * p.bits ≤ p.stride * p.bits :=
    Nat.mul_le_mul_right _ ((Nat.div_le_self _ _).trans p.width_le)
  rw [Nat.mod_eq_of_lt (hle.trans_lt (row_lt h))]
  rfl

theorem band_exact (hy : y ≤ 2 ^ patternLog ptn_h) :
    p.stride * y * (p.height / 2 ^ patternLog ptn_h) * p.bits % 2 ^ 32 / 2 ^ 3 =
      p.band ptn_h y := by
  rw [show p.height / 2 ^ patternLog ptn_h = p.blockH ptn_h from rfl,
    Nat.mod_eq_of_lt ((bits_le hy).trans_lt p.fits)]
  rfl

theorem start_lt (h : p.blockH ptn_h ≠ 0) (hx : x < 2 ^ patternLog ptn_w)
    (hy : y < 2 ^ patternLog ptn_h) : p.band ptn_h y + p.blockW ptn_w * x < 2 ^ 32 :=
  calc p.band ptn_h y + p.blockW ptn_w * x
      ≤ p.band ptn_h y + p.blockH ptn_h * p.pitch := by
        have hcol : p.blockW ptn_w * x + p.blockW ptn_w ≤ p.pitch := column_le hx
        have hrow := Nat.le_mul_of_pos_left p.pitch (Nat.pos_of_ne_zero h)
        omega
    _ ≤ p.band ptn_h (y + 1) := band_succ
    _ ≤ p.size := band_le hy
    _ < 2 ^ 32 := size_lt

/-- **Inside**: a block lies in the bytes of the picture. -/
theorem part_inside {blk : Nat × Nat} (hx : blk.1 < 2 ^ patternLog ptn_w)
    (hy : blk.2 < 2 ^ patternLog ptn_h) {a : Nat} (h : (p.part ptn_w ptn_h blk).Mem a) :
    a < p.size := by
  unfold part at h
  split at h
  · obtain ⟨j, hj, -, hhi⟩ := h
    simp only at hj hhi
    have hlast : p.size / 2 ^ patternLog ptn_h * (blk.2 + 1) ≤ p.size :=
      calc p.size / 2 ^ patternLog ptn_h * (blk.2 + 1)
          ≤ p.size / 2 ^ patternLog ptn_h * 2 ^ patternLog ptn_h := Nat.mul_le_mul_left _ hy
        _ ≤ p.size := Nat.div_mul_le_self _ _
    rw [Nat.mul_succ] at hlast
    omega
  · have hband := (h.band (column_le hx)).2
    have hnext : _ ≤ p.band ptn_h (blk.2 + 1) := band_succ
    have hlast : p.band ptn_h (blk.2 + 1) ≤ p.size := band_le hy
    omega

/-- A block in a row above shares no byte with one below. -/
theorem part_above {blk blk' : Nat × Nat} (hx : blk.1 < 2 ^ patternLog ptn_w)
    (hx' : blk'.1 < 2 ^ patternLog ptn_w) (hlt : blk.2 < blk'.2) {a : Nat}
    (h : (p.part ptn_w ptn_h blk).Mem a) : ¬ (p.part ptn_w ptn_h blk').Mem a := by
  intro h'
  unfold part at h h'
  split at h
  · rename_i hcol
    rw [if_pos hcol] at h'
    obtain ⟨j, hj, -, hhi⟩ := h
    obtain ⟨j', hj', hlo', -⟩ := h'
    simp only at hj hhi hj' hlo'
    have hnext := Nat.mul_le_mul_left (p.size / 2 ^ patternLog ptn_h) (Nat.succ_le_of_lt hlt)
    rw [Nat.mul_succ] at hnext
    omega
  · rename_i hcol
    rw [if_neg hcol] at h'
    have hend := (h.band (column_le hx)).2
    have hstart := (h'.band (column_le hx')).1
    have hnext : _ ≤ p.band ptn_h (blk.2 + 1) := band_succ
    have hmono : p.band ptn_h (blk.2 + 1) ≤ p.band ptn_h blk'.2 := band_mono hlt
    omega

/-- A block on the left shares no byte with one on the right in the same row. -/
theorem part_left {x x' : Nat} (hx : x < 2 ^ patternLog ptn_w)
    (hx' : x' < 2 ^ patternLog ptn_w) (hlt : x < x') {a : Nat}
    (h : (p.part ptn_w ptn_h (x, y)).Mem a) : ¬ (p.part ptn_w ptn_h (x', y)).Mem a := by
  have hcol : ¬ ptn_w ≤ 1 := by
    intro hle
    rw [patternLog_of_le_one hle] at hx'
    omega
  unfold part at h ⊢
  rw [if_neg hcol] at h ⊢
  refine Rows.not_mem_of_columns (column_le hx) (column_le hx') (Or.inl ?_) h
  rw [← Nat.mul_succ]
  exact Nat.mul_le_mul_left _ hlt

/-- **Apart**: different blocks share no byte. -/
theorem part_disjoint {blk blk' : Nat × Nat} (hx : blk.1 < 2 ^ patternLog ptn_w)
    (hx' : blk'.1 < 2 ^ patternLog ptn_w) (hne : blk ≠ blk') {a : Nat}
    (h : (p.part ptn_w ptn_h blk).Mem a) : ¬ (p.part ptn_w ptn_h blk').Mem a := by
  rcases Nat.lt_trichotomy blk.2 blk'.2 with hlt | heq | hgt
  · exact part_above hx hx' hlt h
  · obtain ⟨x, y⟩ := blk
    obtain ⟨x', y'⟩ := blk'
    obtain rfl : y = y' := heq
    rcases Nat.lt_or_gt_of_ne (fun hxx : x = x' => hne (hxx ▸ rfl)) with hlt | hgt
    · exact part_left hx hx' hlt h
    · exact fun h' => part_left hx' hx hgt h' h
  · exact fun h' => part_above hx' hx hgt h' h

end Picture

/-! ## What is drawn -/

theorem selected_lt (ptn_w ptn_h : Nat) (pos : Int) :
    (selected ptn_w ptn_h pos).1 < 2 ^ patternLog ptn_w ∧
      (selected ptn_w ptn_h pos).2 < 2 ^ patternLog ptn_h :=
  ⟨Nat.mod_lt _ (Nat.two_pow_pos _), Nat.mod_lt _ (Nat.two_pow_pos _)⟩

/-- The picture of a buffer. -/
def BufferInfo.picture (info : BufferInfo) (bitsPerPixel : Int → Nat)
    (hwidth : toUint32 info.mWidth ≤ toUint32 info.mStride)
    (hsize : toUint32 info.mStride * toUint32 info.mHeight * info.bits bitsPerPixel < 2 ^ 32) :
    Picture where
  width := toUint32 info.mWidth
  height := toUint32 info.mHeight
  stride := toUint32 info.mStride
  bits := info.bits bitsPerPixel
  width_le := hwidth
  fits := hsize

section

variable {bitsPerPixel : Int → Nat} {info : BufferInfo}
  (hwidth : toUint32 info.mWidth ≤ toUint32 info.mStride)
  (hsize : toUint32 info.mStride * toUint32 info.mHeight * info.bits bitsPerPixel < 2 ^ 32)
  (val : UInt8) {ptn_w : Nat} (ptn_h : Nat) (pos : Int) (a : Nat)

include hwidth hsize

/-- **One column**: the 32-bit arithmetic of the first branch is exact. -/
theorem drawLine_column (hone : ptn_w ≤ 1) :
    Wrote (drawLine bitsPerPixel NO_ERROR info val ptn_w ptn_h pos) a ↔
      ((info.picture bitsPerPixel hwidth hsize).part ptn_w ptn_h
        (selected ptn_w ptn_h pos)).Mem a := by
  have hpattern : (if ptn_w = 0 then 1 else ptn_w) = 1 := by
    split <;> omega
  have hlog := patternLog_of_le_one hone
  obtain ⟨-, hy⟩ := selected_lt ptn_w ptn_h pos
  have hsel : (selected ptn_w ptn_h pos).2 =
      toUint32 pos &&& (2 ^ patternLog ptn_h - 1) := by
    rw [Nat.and_two_pow_sub_one_eq_mod, selected, hlog, Nat.pow_zero, Nat.div_one]
  generalize hp : info.picture bitsPerPixel hwidth hsize = p
  have hbytes : (toUint32 info.mStride * toUint32 info.mHeight * info.bits bitsPerPixel % 2 ^ 32)
      >>> 3 >>> patternLog ptn_h = p.size / 2 ^ patternLog ptn_h := by
    rw [Nat.mod_eq_of_lt hsize, Nat.shiftRight_eq_div_pow, Nat.shiftRight_eq_div_pow, ← hp]
    rfl
  have hexact : p.size / 2 ^ patternLog ptn_h * (selected ptn_w ptn_h pos).2 < 2 ^ 32 :=
    calc p.size / 2 ^ patternLog ptn_h * (selected ptn_w ptn_h pos).2
        ≤ p.size / 2 ^ patternLog ptn_h * 2 ^ patternLog ptn_h := Nat.mul_le_mul_left _ hy.le
      _ ≤ p.size := Nat.div_mul_le_self _ _
      _ < 2 ^ 32 := Picture.size_lt
  simp only [drawLine, hpattern, patternLog_pattern, ne_eq, not_true_eq_false, if_false, if_true,
    hbytes, ← hsel, Nat.mod_eq_of_lt hexact]
  rw [Picture.part, if_pos hone]
  simp [Wrote, Rows.Mem]

/-- **A grid**: nor does the second branch overflow when its blocks have any rows. -/
theorem drawLine_grid (hmany : ¬ ptn_w ≤ 1) :
    Wrote (drawLine bitsPerPixel NO_ERROR info val ptn_w ptn_h pos) a ↔
      ((info.picture bitsPerPixel hwidth hsize).part ptn_w ptn_h
        (selected ptn_w ptn_h pos)).Mem a := by
  have hpattern : (if ptn_w = 0 then 1 else ptn_w) = ptn_w := if_neg (by omega)
  obtain ⟨hx, hy⟩ := selected_lt ptn_w ptn_h pos
  have hselx : (selected ptn_w ptn_h pos).1 = toUint32 pos &&& (2 ^ patternLog ptn_w - 1) :=
    (Nat.and_two_pow_sub_one_eq_mod _ _).symm
  have hsely : (selected ptn_w ptn_h pos).2 =
      toUint32 pos / 2 ^ patternLog ptn_w &&& (2 ^ patternLog ptn_h - 1) :=
    (Nat.and_two_pow_sub_one_eq_mod _ _).symm
  generalize hp : info.picture bitsPerPixel hwidth hsize = p
  have hwid : toUint32 info.mWidth = p.width := hp ▸ rfl
  have hhei : toUint32 info.mHeight = p.height := hp ▸ rfl
  have hstr : toUint32 info.mStride = p.stride := hp ▸ rfl
  have hbits : info.bits bitsPerPixel = p.bits := hp ▸ rfl
  simp only [drawLine, hpattern, ne_eq, not_true_eq_false, if_false, if_neg (by omega : ptn_w ≠ 1),
    patternLog_pattern, ← hselx, ← hsely, wrote_memsetRows, hwid, hhei, hstr, hbits,
    Nat.shiftRight_eq_div_pow]
  rw [Picture.part, if_neg hmany]
  by_cases hrows : p.blockH ptn_h = 0
  · rw [hrows, show p.height / 2 ^ patternLog ptn_h = 0 from hrows]
    exact iff_of_false Rows.not_mem_of_rows_zero Rows.not_mem_of_rows_zero
  · have hheight := Picture.height_pos hrows
    rw [Picture.pitch_exact hheight, Picture.blockW_exact hheight, Picture.band_exact hy.le,
      Nat.mod_eq_of_lt (Picture.start_lt hrows hx hy)]
    rfl

/-- **What is drawn** is the selected block, if the buffer could be locked. -/
theorem drawLine_part (lockErr : Int) :
    Wrote (drawLine bitsPerPixel lockErr info val ptn_w ptn_h pos) a ↔
      lockErr = NO_ERROR ∧ ((info.picture bitsPerPixel hwidth hsize).part ptn_w ptn_h
        (selected ptn_w ptn_h pos)).Mem a := by
  by_cases hlock : lockErr = NO_ERROR
  · subst hlock
    rw [and_iff_right rfl]
    by_cases hone : ptn_w ≤ 1
    · exact drawLine_column hwidth hsize val ptn_h pos a hone
    · exact drawLine_grid hwidth hsize val ptn_h pos a hone
  · simp [drawLine, hlock, Wrote]

end

/-- **The debug lines**: what `drawLine` sets lies in the buffer, and two positions that select
different blocks set different bytes. -/
theorem drawLine_inBlock (bitsPerPixel : Int → Nat) (info : BufferInfo)
    (hwidth : toUint32 info.mWidth ≤ toUint32 info.mStride)
    (hsize : toUint32 info.mStride * toUint32 info.mHeight * info.bits bitsPerPixel < 2 ^ 32)
    (ptn_w ptn_h : Nat) :
    (∀ lockErr val pos a, Wrote (drawLine bitsPerPixel lockErr info val ptn_w ptn_h pos) a →
      a < toUint32 info.mStride * toUint32 info.mHeight * info.bits bitsPerPixel / 8) ∧
    ∀ lockErr val pos lockErr' val' pos',
      selected ptn_w ptn_h pos ≠ selected ptn_w ptn_h pos' →
      ∀ a, Wrote (drawLine bitsPerPixel lockErr info val ptn_w ptn_h pos) a →
        ¬ Wrote (drawLine bitsPerPixel lockErr' info val' ptn_w ptn_h pos') a := by
  constructor
  · intro lockErr val pos a h
    obtain ⟨-, hmem⟩ := (drawLine_part hwidth hsize val ptn_h pos a lockErr).mp h
    obtain ⟨hx, hy⟩ := selected_lt ptn_w ptn_h pos
    exact Picture.part_inside hx hy hmem
  · intro lockErr val pos lockErr' val' pos' hne a h h'
    obtain ⟨-, hmem⟩ := (drawLine_part hwidth hsize val ptn_h pos a lockErr).mp h
    obtain ⟨-, hmem'⟩ := (drawLine_part hwidth hsize val' ptn_h pos' a lockErr').mp h'
    exact Picture.part_disjoint (selected_lt ptn_w ptn_h pos).1 (selected_lt ptn_w ptn_h pos').1
      hne hmem hmem'

/-- The formats of a platform on which the standard ones are numbered from 1. -/
def halFormats : HalPixelFormats where
  RGBA_8888 := 1
  RGBX_8888 := 2
  RGB_888 := 3
  RGB_565 := 4
  BGRA_8888 := 5
  NV12_BLK := 0x7F000001
  NV12_BLK_FCM := 0x7F000002
  YV12 := 0x32315659

/-- A picture of 24 bits with 13 columns in rows of 16, cut into 4 by 2 blocks. -/
def smallInfo : BufferInfo := ⟨13, 7, 16, 3⟩

theorem drawLine_inBlock_small :
    (∀ a, Wrote (drawLine (getBitsPerPixel halFormats) NO_ERROR smallInfo 0xff 4 2 (-1)) a →
      a < 336) ∧
    ∀ a, Wrote (drawLine (getBitsPerPixel halFormats) NO_ERROR smallInfo 0xff 4 2 (-1)) a →
      ¬ Wrote (drawLine (getBitsPerPixel halFormats) NO_ERROR smallInfo 0 4 2 3) a := by
  have h := drawLine_inBlock (getBitsPerPixel halFormats) smallInfo (by decide) (by decide) 4 2
  exact ⟨h.1 NO_ERROR 0xff (-1), h.2 NO_ERROR 0xff (-1) NO_ERROR 0 3 (by decide)⟩

example : drawLine (getBitsPerPixel halFormats) NO_ERROR smallInfo 0xff 4 2 (-1) =
    [⟨171, 0xff, 9⟩, ⟨219, 0xff, 9⟩, ⟨267, 0xff, 9⟩] := by decide

end Sloane.UiExt
