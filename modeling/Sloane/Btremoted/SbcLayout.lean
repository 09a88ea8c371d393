import Sloane.Btremoted.SbcUnpack

/-!
# The layout of the samples of a frame

What `sbc_calculate_bits` yields for any header that can be unpacked: how many bits each sample
has, and how many there are in a block.

* `allocate_le` — no sample has more than 16 bits.
* `calculateBits_shape` — there is a number for each subband of each channel.
* `sum_calculateBits` — a block has as many bits as the bit pool, or twice as many with two
  independent channels.
-/

namespace Sloane.Btremoted

/-! ## No more than 16 bits -/

theorem grantedBits_le (bitslice need : Int) : grantedBits bitslice need ≤ 16 := by
  unfold grantedBits
  split
  · exact Nat.zero_le 16
  · exact Nat.min_le_right _ _

theorem raiseBits_le {bitslice : Int} {bitpool : Nat} {l : List (Int × Nat)}
    (h : ∀ e ∈ l, e.2 ≤ 16) (bitcount : Nat) :
    ∀ b ∈ (raiseBits bitslice bitpool bitcount l).2, b ≤ 16 := by
  induction l generalizing bitcount with
  | nil => exact fun b hb => absurd hb (List.not_mem_nil)
  | cons e l ih =>
    obtain ⟨need, bits⟩ := e
    obtain ⟨hfirst, hrest⟩ := List.forall_mem_cons.mp h
    unfold raiseBits
    split
    · rename_i hone
      exact List.forall_mem_cons.mpr ⟨hone.2.2, ih hrest _⟩
    · split
      · exact List.forall_mem_cons.mpr ⟨by decide, ih hrest _⟩
      · exact List.forall_mem_cons.mpr ⟨hfirst, ih hrest _⟩

theorem topUpBits_le {bitpool : Nat} {l : List Nat} (h : ∀ b ∈ l, b ≤ 16) (bitcount : Nat) :
    ∀ b ∈ topUpBits bitpool bitcount l, b ≤ 16 := by
  induction l generalizing bitcount with
  | nil => exact fun b hb => absurd hb (List.not_mem_nil)
  | cons b l ih =>
    obtain ⟨hfirst, hrest⟩ := List.forall_mem_cons.mp h
    unfold topUpBits
    split
    · rename_i hgive
      exact List.forall_mem_cons.mpr ⟨hgive.2, ih hrest _⟩
    · exact List.forall_mem_cons.mpr ⟨hfirst, ih hrest _⟩

/-- **No sample has more than 16 bits.** -/
theorem allocate_le (bitneed : List Int) (bitpool : Nat) :
    ∀ b ∈ allocate bitneed bitpool, b ≤ 16 := by
  unfold allocate
  dsimp only
  generalize sliceLoop bitneed bitpool MAX_SLICES (bitneed.foldl max 0 + 1) 0 0 = r
  obtain ⟨bitslice, bitcount, slicecount⟩ := r
  dsimp only
  apply topUpBits_le
  apply raiseBits_le
  intro e he
  obtain ⟨need, -, rfl⟩ := List.mem_map.mp he
  exact grantedBits_le _ _

/-! ## What the subbands need -/

theorem getD_mem_or_default {α : Type} (l : List α) (i : Nat) (d : α) :
    l.getD i d ∈ l ∨ l.getD i d = d := by
  by_cases hi : i < l.length
  · exact .inl (List.getD_eq_getElem _ _ hi ▸ List.getElem_mem hi)
  · exact .inr (List.getD_eq_default _ _ (Nat.not_lt.mp hi))

theorem offset_bounds (h : SbcHeader) (sb : Nat) : -4 ≤ h.offset sb ∧ h.offset sb ≤ 2 := by
  have htables : ∀ row ∈ sbc_offset4 ++ sbc_offset8, ∀ x ∈ row, -4 ≤ x ∧ x ≤ (2 : Int) := by
    decide
  have hrow : ∀ row : List Int, (row ∈ sbc_offset4 ++ sbc_offset8 ∨ row = []) →
      -4 ≤ row.getD sb 0 ∧ row.getD sb 0 ≤ 2 := by
    rintro row (hmem | rfl)
    · rcases getD_mem_or_default row sb 0 with hx | hx
      · exact htables row hmem _ hx
      · rw [hx]
        decide
    · simp
  unfold SbcHeader.offset
  apply hrow
  split
  · exact (getD_mem_or_default sbc_offset4 h.frequency []).imp_left fun hmem =>
      List.mem_append_left _ hmem
  · exact (getD_mem_or_default sbc_offset8 h.frequency []).imp_left fun hmem =>
      List.mem_append_right _ hmem

theorem bitneed_bounds (h : SbcHeader) (sb : Nat) {scaleFactor : Nat} (hscale : scaleFactor ≤ 15) :
    -5 ≤ h.bitneed sb scaleFactor ∧ h.bitneed sb scaleFactor ≤ 19 := by
  obtain ⟨hlow, hhigh⟩ := offset_bounds h sb
  unfold SbcHeader.bitneed
  cases h.allocation with
  | snr => exact ⟨by dsimp only; omega, by dsimp only; omega⟩
  | loudness =>
    dsimp only
    split_ifs <;> omega

/-! ## The shape -/

/-- The scale factors of a frame. -/
structure ScaleFactors (h : SbcHeader) (scaleFactors : List (List Nat)) : Prop where
  channels : scaleFactors.length = h.channels
  subbands : ∀ channel ∈ scaleFactors, channel.length = h.subbands
  le : ∀ channel ∈ scaleFactors, ∀ scaleFactor ∈ channel, scaleFactor ≤ 15

/-- A header as it is unpacked. -/
structure SbcHeader.Unpackable (h : SbcHeader) : Prop where
  channels : h.channels = if h.mode = .mono then 1 else 2
  bitpool : h.bitpool ≤ h.maxBitpool

variable {h : SbcHeader} {scaleFactors : List (List Nat)}

/-- What the subbands need, the channels taking turns. -/
def needByTurns (h : SbcHeader) (scaleFactors : List (List Nat)) : List Int :=
  (List.range h.subbands).flatMap fun sb =>
    (scaleFactors.map fun channel => channel.mapIdx h.bitneed).map fun channel => channel.getD sb 0

theorem calculateBits_apart (hmode : h.mode = .mono ∨ h.mode = .dualChannel) :
    calculateBits h scaleFactors =
      scaleFactors.map fun channel => allocate (channel.mapIdx h.bitneed) h.bitpool := by
  unfold calculateBits
  rcases hmode with hmono | hdual
  · rw [hmono]
    exact List.map_map
  · rw [hdual]
    exact List.map_map

theorem calculateBits_together (hmode : h.mode = .stereo ∨ h.mode = .jointStereo) :
    calculateBits h scaleFactors =
      (List.range h.channels).map fun ch => (List.range h.subbands).map fun sb =>
        (allocate (needByTurns h scaleFactors) h.bitpool).getD (h.channels * sb + ch) 0 := by
  unfold calculateBits
  rcases hmode with hstereo | hjoint
  · rw [hstereo]
    rfl
  · rw [hjoint]
    rfl

theorem SbcMode.apart_or_together (mode : SbcMode) :
    (mode = .mono ∨ mode = .dualChannel) ∨ mode = .stereo ∨ mode = .jointStereo := by
  cases mode <;> decide

/-- **The shape**: a number for each subband of each channel, of at most 16. -/
theorem calculateBits_shape (hs : ScaleFactors h scaleFactors) :
    (calculateBits h scaleFactors).length = h.channels ∧
      ∀ channel ∈ calculateBits h scaleFactors, channel.length = h.subbands ∧
        ∀ b ∈ channel, b ≤ 16 := by
  rcases h.mode.apart_or_together with hmode | hmode
  · rw [calculateBits_apart hmode]
    refine ⟨(List.length_map _).trans hs.channels, fun channel hmem => ?_⟩
    obtain ⟨scales, hscales, rfl⟩ := List.mem_map.mp hmem
    refine ⟨?_, allocate_le _ _⟩
    rw [length_allocate, List.length_mapIdx, hs.subbands scales hscales]
  · rw [calculateBits_together hmode]
    refine ⟨by simp, fun channel hmem => ?_⟩
    obtain ⟨ch, -, rfl⟩ := List.mem_map.mp hmem
    refine ⟨by simp, fun b hb => ?_⟩
    obtain ⟨sb, -, rfl⟩ := List.mem_map.mp hb
    rcases getD_mem_or_default (allocate (needByTurns h scaleFactors) h.bitpool)
      (h.channels * sb + ch) 0 with hmem | hzero
    · exact allocate_le _ _ _ hmem
    · omega

/-- A table is made of its entries. -/
theorem table_eq {α : Type} {table : List (List α)} {c s : Nat} (d : α) (hc : table.length = c)
    (hs : ∀ row ∈ table, row.length = s) :
    table = (List.range c).map fun i => (List.range s).map fun j => (table.getD i []).getD j d := by
  apply List.ext_getElem (by simp [hc])
  intro i hi _
  have hrow := hs _ (List.getElem_mem hi)
  apply List.ext_getElem (by simp [hrow])
  intro j hj _
  simp [hi, hj]

/-! ## The bits of a block -/

/-- All the bits of a block: each of two independent channels has a bit pool of its own. -/
def SbcHeader.blockBits (h : SbcHeader) : Nat :=
  if h.mode = .dualChannel then 2 * h.bitpool else h.bitpool

def SbcHeader.jointBits (h : SbcHeader) : Nat := if h.mode = .jointStereo then h.subbands else 0

/-- The bits of a frame: the header, the joint bits, the scale factors and the samples. -/
def SbcHeader.totalBits (h : SbcHeader) : Nat :=
  32 + h.jointBits + 4 * h.subbands * h.channels + h.blocks * h.blockBits

theorem bitneed_mem {scales : List Nat} (hle : ∀ scaleFactor ∈ scales, scaleFactor ≤ 15)
    {need : Int} (hmem : need ∈ scales.mapIdx h.bitneed) : -5 ≤ need ∧ need ≤ 19 := by
  obtain ⟨sb, hsb, rfl⟩ := List.mem_mapIdx.mp hmem
  exact bitneed_bounds h sb (hle _ (List.getElem_mem hsb))

/-- One channel alone hands out the bit pool. -/
theorem sum_allocate_channel (hs : ScaleFactors h scaleFactors)
    (hpool : h.bitpool ≤ 16 * h.subbands) {scales : List Nat} (hmem : scales ∈ scaleFactors) :
    (allocate (scales.mapIdx h.bitneed) h.bitpool).sum = h.bitpool := by
  have hneed : ∀ need ∈ scales.mapIdx h.bitneed, -5 ≤ need ∧ need ≤ 19 :=
    fun need hin => bitneed_mem (hs.le scales hmem) hin
  apply allocate_sum (fun need hin => (hneed need hin).1) fun need hin => (hneed need hin).2
  rw [List.length_mapIdx, hs.subbands scales hmem]
  exact hpool

theorem length_needByTurns (hs : ScaleFactors h scaleFactors) :
    (needByTurns h scaleFactors).length = h.channels * h.subbands := by
  unfold needByTurns
  rw [List.length_flatMap]
  simp [hs.channels, Nat.mul_comm]

theorem needByTurns_bounds (hs : ScaleFactors h scaleFactors) {need : Int}
    (hmem : need ∈ needByTurns h scaleFactors) : -5 ≤ need ∧ need ≤ 19 := by
  obtain ⟨sb, -, hturn⟩ := List.mem_flatMap.mp hmem
  rw [List.map_map] at hturn
  obtain ⟨scales, hscales, rfl⟩ := List.mem_map.mp hturn
  rcases getD_mem_or_default (scales.mapIdx h.bitneed) sb 0 with hin | hzero
  · exact bitneed_mem (hs.le scales hscales) hin
  · rw [Function.comp_apply, hzero]
    decide

/-- What two channels have in turn is all there is. -/
theorem sum_turns {l : List Nat} {n : Nat} (hlen : l.length = 2 * n) :
    ((List.range n).map fun sb => l.getD (2 * sb + 0) 0).sum +
      ((List.range n).map fun sb => l.getD (2 * sb + 1) 0).sum = l.sum := by
  induction n generalizing l with
  | zero => rw [List.length_eq_zero_iff.mp hlen]; rfl
  | succ n ih =>
    obtain _ | ⟨a, _ | ⟨b, rest⟩⟩ := l
    · exact absurd hlen.symm (Nat.succ_ne_zero _)
    · simp only [List.length_singleton] at hlen
      omega
    · simp only [List.length_cons] at hlen
      have hrest := ih (l := rest) (by omega)
      have hnext (k sb : Nat) : (a :: b :: rest).getD (2 * (sb + 1) + k) 0 =
          rest.getD (2 * sb + k) 0 := by
        rw [show 2 * (sb + 1) + k = 2 * sb + k + 1 + 1 by omega, List.getD_cons_succ,
          List.getD_cons_succ]
      simp only [List.range_succ_eq_map, List.map_cons, List.map_map, List.sum_cons,
        Function.comp_def, Nat.succ_eq_add_one, hnext, ← hrest]
      have hfirst : (a :: b :: rest).getD (2 * 0 + 0) 0 + (a :: b :: rest).getD (2 * 0 + 1) 0 =
        a + b := rfl
      omega

/-- **The bits of a block** are those of the bit pool, or of two. -/
theorem sum_calculateBits (hh : h.Unpackable) (hs : ScaleFactors h scaleFactors) :
    (calculateBits h scaleFactors).flatten.sum = h.blockBits := by
  have hpool := hh.bitpool
  unfold SbcHeader.maxBitpool at hpool
  unfold SbcHeader.blockBits
  have hchannels := hh.channels
  rcases h.mode.apart_or_together with hmode | hmode
  · have hfit : h.bitpool ≤ 16 * h.subbands := by
      rcases hmode with hmode | hmode <;> rw [hmode] at hpool <;> exact hpool
    have heach : (scaleFactors.map fun scales =>
        (allocate (scales.mapIdx h.bitneed) h.bitpool).sum) =
          List.replicate h.channels h.bitpool := by
      rw [← hs.channels, ← List.map_const']
      exact List.map_congr_left fun scales hmem => sum_allocate_channel hs hfit hmem
    rw [calculateBits_apart hmode, List.sum_flatten, List.map_map]
    refine (congrArg List.sum heach).trans ?_
    rw [List.sum_replicate_nat, hchannels]
    rcases hmode with hmode | hmode
    · rw [if_pos hmode, if_neg (by rw [hmode]; decide), Nat.one_mul]
    · rw [if_neg (by rw [hmode]; decide), if_pos hmode]
  · have htwo : h.channels = 2 := by
      rcases hmode with hmode | hmode <;> rw [hchannels, hmode] <;> rfl
    have hfit : h.bitpool ≤ 16 * (2 * h.subbands) := by
      have : h.bitpool ≤ 32 * h.subbands := by
        rcases hmode with hmode | hmode <;> rw [hmode] at hpool <;> exact hpool
      omega
    have hdual : h.mode ≠ .dualChannel := by
      rcases hmode with hmode | hmode <;> rw [hmode] <;> decide
    have hlength := length_needByTurns hs
    rw [htwo] at hlength
    have hall : (allocate (needByTurns h scaleFactors) h.bitpool).sum = h.bitpool :=
      allocate_sum (fun need hmem => (needByTurns_bounds hs hmem).1)
        (fun need hmem => (needByTurns_bounds hs hmem).2) (by rw [hlength]; exact hfit)
    rw [calculateBits_together hmode, if_neg hdual, htwo]
    simp only [List.range_succ, List.range_zero, List.nil_append, List.map_append, List.map_cons,
      List.map_nil, List.flatten_append, List.flatten_cons, List.flatten_nil, List.append_nil,
      List.sum_append]
    rw [sum_turns ((length_allocate _ _).trans hlength), hall]

end Sloane.Btremoted
