import Mathlib.Algebra.Order.Ring.Nat
import Mathlib.Data.List.Basic
import Mathlib.Tactic.Common

/-!
# The bit allocation of SBC

Model of `sbc_calculate_bits_internal` in `btremoted/msbc.c`.  The source has the procedure twice,
for one channel and for two; in the second case the two channels are served in turn, which is the
same as one channel with twice as many subbands.

* `sliceLoop_spec` — the loop over the bit slices ends, and what it counts is what it hands out.
* `allocate_sum` — in the end exactly the bit pool is handed out.
-/

namespace Sloane.Btremoted

/-- The passes of the loop over the slices; `bitneed` is from -5 to 19. -/
def MAX_SLICES : Nat := 64

/-- What a subband takes from the slice. -/
def sliceBits (bitslice need : Int) : Nat :=
  if bitslice + 1 < need ∧ need < bitslice + 16 then 1
  else if need = bitslice + 1 then 2
  else 0

/-- The first choice of `bits`. -/
def grantedBits (bitslice need : Int) : Nat :=
  if need < bitslice + 2 then 0 else min (need - bitslice).toNat 16

/-- The `do` loop, with the passes left; the result is `bitslice`, `bitcount` and `slicecount`. -/
def sliceLoop (bitneed : List Int) (bitpool : Nat) : Nat → Int → Nat → Nat → Int × Nat × Nat
  | 0, bitslice, bitcount, slicecount => (bitslice, bitcount, slicecount)
  | n + 1, bitslice, bitcount, slicecount =>
      let bitslice := bitslice - 1
      let bitcount := bitcount + slicecount
      let slicecount := (bitneed.map (sliceBits bitslice)).sum
      if bitcount + slicecount < bitpool then
        sliceLoop bitneed bitpool n bitslice bitcount slicecount
      else (bitslice, bitcount, slicecount)

/-- The loop that gives one bit more to those that have some, and two to those next in line. -/
def raiseBits (bitslice : Int) (bitpool : Nat) : Nat → List (Int × Nat) → Nat × List Nat
  | bitcount, [] => (bitcount, [])
  | bitcount, (need, bits) :: rest =>
      if bitcount < bitpool ∧ 2 ≤ bits ∧ bits < 16 then
        ((raiseBits bitslice bitpool (bitcount + 1) rest).1,
          (bits + 1) :: (raiseBits bitslice bitpool (bitcount + 1) rest).2)
      else if bitcount < bitpool ∧ need = bitslice + 1 ∧ bitcount + 1 < bitpool then
        ((raiseBits bitslice bitpool (bitcount + 2) rest).1,
          2 :: (raiseBits bitslice bitpool (bitcount + 2) rest).2)
      else
        ((raiseBits bitslice bitpool bitcount rest).1,
          bits :: (raiseBits bitslice bitpool bitcount rest).2)

/-- The loop that gives away what is left. -/
def topUpBits (bitpool : Nat) : Nat → List Nat → List Nat
  | _, [] => []
  | bitcount, bits :: rest =>
      if bitcount < bitpool ∧ bits < 16 then (bits + 1) :: topUpBits bitpool (bitcount + 1) rest
      else bits :: topUpBits bitpool bitcount rest

/-- The bits of the subbands, from what they need. -/
def allocate (bitneed : List Int) (bitpool : Nat) : List Nat :=
  let maxBitneed := bitneed.foldl max 0
  let (bitslice, bitcount, slicecount) :=
    sliceLoop bitneed bitpool MAX_SLICES (maxBitneed + 1) 0 0
  let (bitslice, bitcount) :=
    if bitcount + slicecount = bitpool then (bitslice - 1, bitcount + slicecount)
    else (bitslice, bitcount)
  let (bitcount, bits) := raiseBits bitslice bitpool bitcount
    (bitneed.map fun need => (need, grantedBits bitslice need))
  topUpBits bitpool bitcount bits

/-! ## The slices -/

/-- A slice adds what it counts. -/
theorem grantedBits_pred (bitslice need : Int) :
    grantedBits (bitslice - 1) need = grantedBits bitslice need + sliceBits bitslice need := by
  unfold grantedBits sliceBits
  split_ifs <;> omega

theorem grantedBits_low {bitslice need : Int} (h : bitslice + 16 ≤ need) :
    grantedBits bitslice need = 16 := by
  unfold grantedBits
  split_ifs <;> omega

theorem grantedBits_high {bitslice need : Int} (h : need ≤ bitslice) :
    grantedBits bitslice need = 0 := if_pos (by omega)

theorem sum_grantedBits_pred (bitneed : List Int) (bitslice : Int) :
    (bitneed.map (grantedBits (bitslice - 1))).sum =
      (bitneed.map (grantedBits bitslice)).sum + (bitneed.map (sliceBits bitslice)).sum := by
  induction bitneed with
  | nil => rfl
  | cons need bitneed ih =>
    simp only [List.map_cons, List.sum_cons, ih, grantedBits_pred]
    omega

theorem sum_grantedBits_low {bitneed : List Int} {bitslice : Int}
    (h : ∀ need ∈ bitneed, bitslice + 16 ≤ need) :
    (bitneed.map (grantedBits bitslice)).sum = 16 * bitneed.length := by
  induction bitneed with
  | nil => rfl
  | cons need bitneed ih =>
    obtain ⟨hneed, hrest⟩ := List.forall_mem_cons.mp h
    simp only [List.map_cons, List.sum_cons, ih hrest, grantedBits_low hneed, List.length_cons]
    omega

theorem sum_grantedBits_high {bitneed : List Int} {bitslice : Int}
    (h : ∀ need ∈ bitneed, need ≤ bitslice) : (bitneed.map (grantedBits bitslice)).sum = 0 := by
  induction bitneed with
  | nil => rfl
  | cons need bitneed ih =>
    obtain ⟨hneed, hrest⟩ := List.forall_mem_cons.mp h
    simp only [List.map_cons, List.sum_cons, ih hrest, grantedBits_high hneed]

/-- **The loop over the slices** ends at the slice at which the pool would run out. -/
theorem sliceLoop_spec {bitneed : List Int} {bitpool : Nat} (hneed : ∀ need ∈ bitneed, -5 ≤ need)
    (hpool : bitpool ≤ 16 * bitneed.length) (n : Nat) (bitslice : Int) (bitcount slicecount : Nat)
    (hn : bitslice + 21 ≤ n + 1)
    (hcount : bitcount + slicecount = (bitneed.map (grantedBits (bitslice - 1))).sum)
    (hle : bitcount + slicecount ≤ bitpool) :
    let r := sliceLoop bitneed bitpool (n + 1) bitslice bitcount slicecount
    r.2.1 = (bitneed.map (grantedBits r.1)).sum ∧ r.2.2 = (bitneed.map (sliceBits r.1)).sum ∧
      r.2.1 ≤ bitpool ∧ bitpool ≤ r.2.1 + r.2.2 := by
  induction n generalizing bitslice bitcount slicecount with
  | zero =>
    -- the slice is so low that every subband has all it can get
    have hnext := sum_grantedBits_pred bitneed (bitslice - 1)
    have hfull : (bitneed.map (grantedBits (bitslice - 1 - 1))).sum = 16 * bitneed.length :=
      sum_grantedBits_low fun need hmem => by have := hneed need hmem; omega
    have hdone : bitpool ≤
        bitcount + slicecount + (bitneed.map (sliceBits (bitslice - 1))).sum := by omega
    simp only [sliceLoop]
    rw [if_neg (Nat.not_lt.mpr hdone)]
    exact ⟨hcount, rfl, hle, hdone⟩
  | succ n ih =>
    have hnext := sum_grantedBits_pred bitneed (bitslice - 1)
    unfold sliceLoop
    dsimp only
    split
    · rename_i hmore
      exact ih _ _ _ (by omega) (by omega) (by omega)
    · rename_i hdone
      exact ⟨hcount, rfl, hle, Nat.not_lt.mp hdone⟩

/-! ## Handing out the rest -/

/-- What a subband can be given one bit for in the loop that raises the bits. -/
theorem sliceBits_of_granted {bitslice need : Int} (hlow : 2 ≤ grantedBits bitslice need)
    (hhigh : grantedBits bitslice need < 16) : sliceBits bitslice need = 1 := by
  unfold grantedBits at hlow hhigh
  unfold sliceBits
  split_ifs at * <;> omega

/-- What asks for something but is not raised by one bit has none and asks for two. -/
theorem sliceBits_cases (bitslice need : Int) :
    sliceBits bitslice need = 0 ∨
      2 ≤ grantedBits bitslice need ∧ grantedBits bitslice need < 16 ∨
      need = bitslice + 1 ∧ sliceBits bitslice need = 2 ∧ grantedBits bitslice need = 0 := by
  unfold sliceBits grantedBits
  split_ifs <;> omega

/-- What the loop that raises the bits leaves: it stops at the pool, or it has given what the slice
asks for, or there was one bit left where two were asked for. -/
structure Raised (bitslice : Int) (bitpool bitcount : Nat) (bitneed : List Int)
    (r : Nat × List Nat) : Prop where
  ge : bitcount ≤ r.1
  le : r.1 ≤ bitpool
  sum : r.2.sum + bitcount = (bitneed.map (grantedBits bitslice)).sum + r.1
  stop : r.1 = bitpool ∨ r.1 = bitcount + (bitneed.map (sliceBits bitslice)).sum ∨
    r.1 + 1 = bitpool ∧ 0 ∈ r.2

/-- A subband that is given what it asks for, in front of the rest. -/
theorem Raised.cons {bitslice : Int} {bitpool bitcount n : Nat} {need : Int} {bitneed : List Int}
    {r : Nat × List Nat} (h : Raised bitslice bitpool (bitcount + n) bitneed r)
    (hslice : sliceBits bitslice need = n) :
    Raised bitslice bitpool bitcount (need :: bitneed)
      (r.1, (grantedBits bitslice need + n) :: r.2) where
  ge := by have := h.ge; show bitcount ≤ r.1; omega
  le := h.le
  sum := by
    have := h.sum
    simp only [List.map_cons, List.sum_cons]
    omega
  stop := by
    simp only [List.map_cons, List.sum_cons]
    rcases h.stop with hfull | hall | ⟨hleft, hzero⟩
    · exact .inl hfull
    · exact .inr (.inl (by omega))
    · exact .inr (.inr ⟨hleft, List.mem_cons_of_mem _ hzero⟩)

/-- A subband that is passed over for want of bits, in front of the rest. -/
theorem Raised.skip {bitslice : Int} {bitpool bitcount : Nat} {need : Int} {bitneed : List Int}
    {r : Nat × List Nat} (h : Raised bitslice bitpool bitcount bitneed r)
    (hwant : bitcount = bitpool ∨ bitcount + 1 = bitpool ∧ grantedBits bitslice need = 0) :
    Raised bitslice bitpool bitcount (need :: bitneed) (r.1, grantedBits bitslice need :: r.2) where
  ge := h.ge
  le := h.le
  sum := by
    have := h.sum
    simp only [List.map_cons, List.sum_cons]
    omega
  stop := by
    have hge := h.ge
    have hle := h.le
    by_cases hfull : r.1 = bitpool
    · exact .inl hfull
    · have hzero : bitcount + 1 = bitpool ∧ grantedBits bitslice need = 0 :=
        hwant.resolve_left fun heq => by omega
      refine .inr (.inr ⟨by show r.1 + 1 = bitpool; omega, ?_⟩)
      rw [hzero.2]
      exact List.mem_cons_self

theorem raiseBits_spec {bitslice : Int} {bitpool bitcount : Nat} (hle : bitcount ≤ bitpool)
    (bitneed : List Int) :
    Raised bitslice bitpool bitcount bitneed (raiseBits bitslice bitpool bitcount
      (bitneed.map fun need => (need, grantedBits bitslice need))) := by
  induction bitneed generalizing bitcount with
  | nil => exact ⟨Nat.le_refl _, hle, rfl, .inr (.inl rfl)⟩
  | cons need bitneed ih =>
    simp only [List.map_cons, raiseBits]
    split
    · rename_i hone
      have hslice := sliceBits_of_granted hone.2.1 hone.2.2
      exact (ih hone.1).cons hslice
    · rename_i hone
      split
      · rename_i htwo
        obtain ⟨-, hneed, hlt⟩ := htwo
        have hslice : sliceBits bitslice need = 2 ∧ grantedBits bitslice need = 0 := by
          unfold sliceBits grantedBits
          split_ifs <;> omega
        simpa only [hslice.2, Nat.zero_add] using (ih hlt).cons hslice.1
      · rename_i htwo
        rcases sliceBits_cases bitslice need with hnone | hsome | ⟨hneed, -, hzero⟩
        · have hrest : Raised bitslice bitpool (bitcount + 0) bitneed _ := ih hle
          exact hrest.cons hnone
        · exact (ih hle).skip (.inl (by omega))
        · refine (ih hle).skip ?_
          by_cases hfull : bitcount = bitpool
          · exact .inl hfull
          · exact .inr ⟨by omega, hzero⟩

/-- The last loop uses up what is left, if it is a single bit and some subband can take it. -/
theorem sum_topUpBits {bitpool bitcount : Nat} {bits : List Nat}
    (h : bitcount = bitpool ∨ bitcount + 1 = bitpool ∧ 0 ∈ bits) :
    (topUpBits bitpool bitcount bits).sum + bitcount = bits.sum + bitpool := by
  induction bits generalizing bitcount with
  | nil =>
    have heq : bitcount = bitpool := h.resolve_right (by simp)
    rw [heq]
    rfl
  | cons b bits ih =>
    unfold topUpBits
    split
    · rename_i hgive
      have hlast : bitcount + 1 = bitpool := by omega
      have hrest := ih (.inl hlast)
      simp only [List.sum_cons]
      omega
    · rename_i hkeep
      have hrest : bitcount = bitpool ∨ bitcount + 1 = bitpool ∧ 0 ∈ bits := by
        refine h.imp_right fun hleft => ⟨hleft.1, ?_⟩
        refine (List.mem_cons.mp hleft.2).resolve_left fun hb => ?_
        omega
      have hsum := ih hrest
      simp only [List.sum_cons]
      omega

/-- The two loops together. -/
theorem sum_topUpBits_raiseBits {bitslice : Int} {bitpool bitcount : Nat} {bitneed : List Int}
    (hcount : bitcount = (bitneed.map (grantedBits bitslice)).sum) (hle : bitcount ≤ bitpool)
    (hstop : bitcount = bitpool ∨ bitpool < bitcount + (bitneed.map (sliceBits bitslice)).sum) :
    let r := raiseBits bitslice bitpool bitcount
      (bitneed.map fun need => (need, grantedBits bitslice need))
    (topUpBits bitpool r.1 r.2).sum = bitpool := by
  intro r
  have hraised : Raised bitslice bitpool bitcount bitneed r := raiseBits_spec hle bitneed
  have hsum := hraised.sum
  have hge := hraised.ge
  have hraisedLe := hraised.le
  have hleft : r.1 = bitpool ∨ r.1 + 1 = bitpool ∧ 0 ∈ r.2 := by
    rcases hraised.stop with hfull | hall | hzero
    · exact .inl hfull
    · exact .inl (by omega)
    · exact .inr hzero
  have htop := sum_topUpBits hleft
  omega

/-! ## The allocation -/

theorem le_foldl_max (bitneed : List Int) (m : Int) :
    m ≤ bitneed.foldl max m ∧ ∀ need ∈ bitneed, need ≤ bitneed.foldl max m := by
  induction bitneed generalizing m with
  | nil => exact ⟨Int.le_refl m, by simp⟩
  | cons need bitneed ih =>
    obtain ⟨hm, hall⟩ := ih (max m need)
    exact ⟨(le_max_left m need).trans hm,
      List.forall_mem_cons.mpr ⟨(le_max_right m need).trans hm, hall⟩⟩

theorem foldl_max_le {bitneed : List Int} {m b : Int} (hm : m ≤ b)
    (h : ∀ need ∈ bitneed, need ≤ b) : bitneed.foldl max m ≤ b := by
  induction bitneed generalizing m with
  | nil => exact hm
  | cons need bitneed ih =>
    obtain ⟨hneed, hrest⟩ := List.forall_mem_cons.mp h
    exact ih (max_le hm hneed) hrest

/-- **Exactly the bit pool is handed out.** -/
theorem allocate_sum {bitneed : List Int} {bitpool : Nat} (hlow : ∀ need ∈ bitneed, -5 ≤ need)
    (hhigh : ∀ need ∈ bitneed, need ≤ 19) (hpool : bitpool ≤ 16 * bitneed.length) :
    (allocate bitneed bitpool).sum = bitpool := by
  have hmax := (le_foldl_max bitneed 0).2
  have hmaxLe : bitneed.foldl max 0 ≤ 19 := foldl_max_le (by decide) hhigh
  have hstart := sum_grantedBits_high hmax
  obtain ⟨hcount, hslice, hle, hge⟩ := sliceLoop_spec hlow hpool 63 (bitneed.foldl max 0 + 1) 0 0
    (by omega) (by rw [Int.add_sub_cancel, hstart]) (Nat.zero_le _)
  unfold allocate
  dsimp only [MAX_SLICES]
  generalize sliceLoop bitneed bitpool 64 (bitneed.foldl max 0 + 1) 0 0 = r at *
  obtain ⟨bitslice, bitcount, slicecount⟩ := r
  simp only at hcount hslice hle hge
  by_cases hall : bitcount + slicecount = bitpool
  · -- the whole slice fits: nothing is left to hand out
    have hnext := sum_grantedBits_pred bitneed bitslice
    simp only [if_pos hall]
    exact sum_topUpBits_raiseBits (by omega) (Nat.le_of_eq hall) (.inl hall)
  · simp only [if_neg hall]
    exact sum_topUpBits_raiseBits hcount hle (.inr (by omega))

theorem length_raiseBits (bitslice : Int) (bitpool bitcount : Nat) (l : List (Int × Nat)) :
    (raiseBits bitslice bitpool bitcount l).2.length = l.length := by
  induction l generalizing bitcount with
  | nil => rfl
  | cons e l ih =>
    obtain ⟨need, bits⟩ := e
    unfold raiseBits
    split
    · simp [ih]
    · split <;> simp [ih]

theorem length_topUpBits (bitpool bitcount : Nat) (bits : List Nat) :
    (topUpBits bitpool bitcount bits).length = bits.length := by
  induction bits generalizing bitcount with
  | nil => rfl
  | cons b bits ih =>
    unfold topUpBits
    split <;> simp [ih]

theorem length_allocate (bitneed : List Int) (bitpool : Nat) :
    (allocate bitneed bitpool).length = bitneed.length := by
  simp [allocate, length_topUpBits, length_raiseBits]

end Sloane.Btremoted
