import Sloane.Btremoted.SbcPack

/-!
# The checksum of a packed frame

Packing fills `crc_header` in place, half a byte at a time, and shifts what is there; unpacking is
modelled with the halves in a list.  What both compute the checksum of is the same.

* `packNibbles_getD` — the bytes that halves make.
* `filled_foldl` — halves that are added to a header.
* `crcHeader_eq` — the header that is filled in place, and its length in bits.
* `sbcCrc8_congr` — the checksum looks only at the bytes up to its length.
-/

namespace Sloane.Btremoted

open Sloane.Lib BitPack

/-! ## The checksum of zeros behind -/

/-- **What the checksum looks at.** -/
theorem sbcCrc8_congr {a b : List UInt8} {len : Nat} (ha : len / 8 ≤ a.length)
    (hb : len / 8 ≤ b.length) (h : ∀ i, i ≤ len / 8 → a.getD i 0 = b.getD i 0) :
    sbcCrc8 a len = sbcCrc8 b len := by
  have htake : a.take (len / 8) = b.take (len / 8) := by
    apply List.ext_getElem (by simp [ha, hb])
    intro i hi _
    have hlt : i < len / 8 := by
      rw [List.length_take] at hi
      omega
    have hat := h i (Nat.le_of_lt hlt)
    rw [List.getD_eq_getElem _ _ (by omega), List.getD_eq_getElem _ _ (by omega)] at hat
    simpa using hat
  unfold sbcCrc8
  rw [htake, h _ (Nat.le_refl _)]

/-! ## Halves of a byte -/

theorem shiftLeft_four_or_zero (b : UInt8) : b <<< 4 = b <<< 4 ||| 0 := (UInt8.or_zero).symm

theorem zero_shiftLeft_or (b : UInt8) : (0 : UInt8) <<< 4 ||| b = b := by
  rw [UInt8.zero_shiftLeft, UInt8.zero_or]

/-- **The bytes that halves make**; a half that is missing is zero. -/
theorem packNibbles_getD (nibs : List UInt8) (i : Nat) :
    (packNibbles nibs).getD i 0 = nibs.getD (2 * i) 0 <<< 4 ||| nibs.getD (2 * i + 1) 0 := by
  induction nibs using packNibbles.induct generalizing i with
  | case1 =>
    rw [packNibbles]
    simp
  | case2 hi =>
    rw [packNibbles]
    cases i with
    | zero => exact shiftLeft_four_or_zero hi
    | succ i => simp
  | case3 hi lo rest ih =>
    rw [packNibbles]
    cases i with
    | zero => rfl
    | succ i => exact ih i

theorem length_packNibbles (nibs : List UInt8) :
    (packNibbles nibs).length = (nibs.length + 1) / 2 := by
  induction nibs using packNibbles.induct with
  | case1 => rfl
  | case2 hi =>
    rw [packNibbles, List.length_singleton, List.length_singleton]
  | case3 hi lo rest ih =>
    rw [packNibbles, List.length_cons, ih, List.length_cons, List.length_cons]
    omega

/-! ## Filling the header -/

/-- The header holds these halves; the last one of an odd number is not in its place yet. -/
structure Filled (st : Mem UInt8 × Nat) (nibs : List UInt8) : Prop where
  pos : st.2 = 4 * nibs.length
  cells : ∀ i, st.1 i = if 2 * i + 1 = nibs.length then nibs.getD (2 * i) 0
    else nibs.getD (2 * i) 0 <<< 4 ||| nibs.getD (2 * i + 1) 0

/-- What `crcPut` keeps of a number. -/
def nibble (v : Nat) : UInt8 := .ofNat v &&& 0x0F

theorem getD_append_left {α : Type} {a b : List α} {i : Nat} {d : α} (h : i < a.length) :
    (a ++ b).getD i d = a.getD i d := by
  simp [List.getD_eq_getElem?_getD, List.getElem?_append_left h]

theorem getD_append_right {α : Type} {a b : List α} {i : Nat} {d : α} (h : a.length ≤ i) :
    (a ++ b).getD i d = b.getD (i - a.length) d := by
  simp [List.getD_eq_getElem?_getD, List.getElem?_append_right h]

theorem Filled.put {st : Mem UInt8 × Nat} {nibs : List UInt8} (h : Filled st nibs) (v : Nat) :
    Filled (crcPut st v) (nibs ++ [nibble v]) := by
  obtain ⟨header, pos⟩ := st
  obtain ⟨hpos, hcells⟩ := h
  simp only at hpos hcells
  subst hpos
  refine ⟨by simp only [crcPut, List.length_append, List.length_singleton]; omega, fun i => ?_⟩
  have hat : 4 * nibs.length / 8 = nibs.length / 2 := by omega
  have hold := hcells i
  show header.write (4 * nibs.length / 8) [header (4 * nibs.length / 8) <<< 4 ||| nibble v] i = _
  rw [hat, List.length_append, List.length_singleton]
  rcases Nat.lt_trichotomy i (nibs.length / 2) with hbefore | rfl | hbehind
  · rw [Mem.write_cell_of_ne _ _ (Nat.ne_of_lt hbefore), hold, if_neg (by omega), if_neg (by omega),
      getD_append_left (by omega), getD_append_left (by omega)]
  · -- the byte that the half goes to
    rw [Mem.write_cell_self, hold]
    by_cases hodd : 2 * (nibs.length / 2) + 1 = nibs.length
    · rw [if_pos hodd, if_neg (by omega), getD_append_left (by omega),
        getD_append_right (by omega), show 2 * (nibs.length / 2) + 1 - nibs.length = 0 by omega]
      rfl
    · rw [if_neg hodd, if_pos (by omega), List.getD_eq_default _ _ (by omega),
        List.getD_eq_default _ _ (by omega), getD_append_right (by omega),
        show 2 * (nibs.length / 2) - nibs.length = 0 by omega, zero_shiftLeft_or,
        zero_shiftLeft_or]
      rfl
  · rw [Mem.write_cell_of_ne _ _ (Nat.ne_of_gt hbehind), hold, if_neg (by omega),
      if_neg (by omega), List.getD_eq_default nibs _ (by omega),
      List.getD_eq_default nibs _ (by omega),
      List.getD_eq_default _ _ (by simp only [List.length_append, List.length_singleton]; omega),
      List.getD_eq_default _ _ (by simp only [List.length_append, List.length_singleton]; omega)]

/-- **Halves are added.** -/
theorem Filled.foldl {st : Mem UInt8 × Nat} {nibs : List UInt8} (h : Filled st nibs)
    (vs : List Nat) : Filled (vs.foldl crcPut st) (nibs ++ vs.map nibble) := by
  induction vs generalizing st nibs with
  | nil => rwa [List.map_nil, List.append_nil]
  | cons v vs ih =>
    have hnext := ih (h.put v)
    rwa [List.append_assoc] at hnext

/-- What the header begins with: its two bytes, and the joint bits of as many subbands. -/
def jointNibbles (mode : SbcMode) (joint subbands : Nat) : List UInt8 :=
  if mode = .jointStereo then
    if subbands = 4 then [.ofNat joint] else nibbles (.ofNat joint)
  else []

theorem filled_start (data1 data2 : UInt8) :
    Filled (Mem.ofList [data1, data2] 0, 16) (nibbles data1 ++ nibbles data2) := by
  refine ⟨rfl, fun i => ?_⟩
  rcases i with _ | _ | i
  · exact (nibbles_join data1).1.symm
  · exact (nibbles_join data2).1.symm
  · have hlen : (nibbles data1 ++ nibbles data2).length = 4 := rfl
    rw [hlen, if_neg (by omega), List.getD_eq_default _ _ (by omega),
      List.getD_eq_default _ _ (by omega), zero_shiftLeft_or]
    rfl

/-- With the joint bits behind. -/
theorem filled_joint (data1 data2 : UInt8) {joint subbands : Nat}
    (hsubbands : subbands = 4 ∨ subbands = 8) :
    Filled ((Mem.ofList [data1, data2] 0).write 2 [.ofNat joint], 16 + subbands)
      (nibbles data1 ++ nibbles data2 ++ jointNibbles .jointStereo joint subbands) := by
  have hcells (i : Nat) : ((Mem.ofList [data1, data2] 0).write 2 [.ofNat joint]) i =
      if i = 0 then data1 else if i = 1 then data2 else if i = 2 then .ofNat joint else 0 := by
    rcases i with _ | _ | _ | i
    · rfl
    · rfl
    · rfl
    · exact Mem.write_cell_of_ne _ _ (by omega)
  rcases hsubbands with rfl | rfl
  · refine ⟨rfl, fun i => (hcells i).trans ?_⟩
    have hfour : jointNibbles .jointStereo joint 4 = [.ofNat joint] := rfl
    rw [hfour]
    rcases i with _ | _ | _ | i
    · exact (nibbles_join data1).1.symm
    · exact (nibbles_join data2).1.symm
    · rfl
    · have hlen : (nibbles data1 ++ nibbles data2 ++ [UInt8.ofNat joint]).length = 5 := rfl
      rw [hlen, if_neg (by omega), if_neg (by omega), if_neg (by omega), if_neg (by omega),
        List.getD_eq_default _ _ (by omega), List.getD_eq_default _ _ (by omega),
        zero_shiftLeft_or]
  · refine ⟨rfl, fun i => (hcells i).trans ?_⟩
    have height : jointNibbles .jointStereo joint 8 = nibbles (.ofNat joint) := rfl
    rw [height]
    rcases i with _ | _ | _ | i
    · exact (nibbles_join data1).1.symm
    · exact (nibbles_join data2).1.symm
    · exact (nibbles_join (.ofNat joint)).1.symm
    · have hlen : (nibbles data1 ++ nibbles data2 ++ nibbles (.ofNat joint)).length = 6 := rfl
      rw [hlen, if_neg (by omega), if_neg (by omega), if_neg (by omega), if_neg (by omega),
        List.getD_eq_default _ _ (by omega), List.getD_eq_default _ _ (by omega),
        zero_shiftLeft_or]

/-- The last byte is aligned. -/
theorem Filled.align {st : Mem UInt8 × Nat} {nibs : List UInt8} (h : Filled st nibs) (i : Nat) :
    (if st.2 % 8 ≠ 0 then
        (st.1.write (st.2 / 8) [st.1 (st.2 / 8) <<< (.ofNat (8 - st.2 % 8))], st.2)
      else st).1 i = (packNibbles nibs).getD i 0 := by
  obtain ⟨header, pos⟩ := st
  obtain ⟨hpos, hcells⟩ := h
  simp only at hpos hcells ⊢
  rw [packNibbles_getD]
  by_cases hodd : pos % 8 ≠ 0
  · have hrest : pos % 8 = 4 := by omega
    rw [if_pos hodd, hrest]
    by_cases hi : i = pos / 8
    · have hlast : 2 * (pos / 8) + 1 = nibs.length := by omega
      have hone : nibs.getD (2 * (pos / 8) + 1) 0 = 0 := List.getD_eq_default _ _ (by omega)
      have hold := hcells (pos / 8)
      rw [if_pos hlast] at hold
      subst hi
      rw [hone, ← shiftLeft_four_or_zero, ← hold]
      exact Mem.write_cell_self _ _ _
    · have hold := hcells i
      rw [if_neg (by omega)] at hold
      rw [← hold]
      exact Mem.write_cell_of_ne _ _ hi
  · have hold := hcells i
    rw [if_neg (by omega)] at hold
    rw [if_neg hodd, ← hold]

/-- **The header that is filled in place**, and its length. -/
theorem crcHeader_eq (data1 data2 : UInt8) (mode : SbcMode) {joint subbands : Nat}
    (hsubbands : subbands = 4 ∨ subbands = 8) (scaleFactors : List Nat) :
    let nibs := nibbles data1 ++ nibbles data2 ++ jointNibbles mode joint subbands ++
      scaleFactors.map nibble
    let r := crcHeader data1 data2 mode joint subbands scaleFactors
    (∀ i, r.1 i = (packNibbles nibs).getD i 0) ∧ r.2 = 4 * nibs.length := by
  have hfilled : Filled (scaleFactors.foldl crcPut (if mode = .jointStereo then
        ((Mem.ofList [data1, data2] 0).write 2 [.ofNat joint], 16 + subbands)
      else (Mem.ofList [data1, data2] 0, 16)))
      (nibbles data1 ++ nibbles data2 ++ jointNibbles mode joint subbands ++
        scaleFactors.map nibble) := by
    apply Filled.foldl
    by_cases hmode : mode = .jointStereo
    · rw [if_pos hmode, hmode]
      exact filled_joint data1 data2 hsubbands
    · rw [if_neg hmode, jointNibbles, if_neg hmode, List.append_nil]
      exact filled_start data1 data2
  refine ⟨fun i => hfilled.align i, ?_⟩
  rw [← hfilled.pos]
  unfold crcHeader
  dsimp only
  split_ifs <;> rfl

/-- **The checksum** is that of the halves. -/
theorem sbcCrc8_crcHeader (data1 data2 : UInt8) (mode : SbcMode) {joint subbands : Nat}
    (hsubbands : subbands = 4 ∨ subbands = 8) {scaleFactors : List Nat}
    (hlen : scaleFactors.length ≤ 16) :
    let nibs := nibbles data1 ++ nibbles data2 ++ jointNibbles mode joint subbands ++
      scaleFactors.map nibble
    let r := crcHeader data1 data2 mode joint subbands scaleFactors
    sbcCrc8 (r.1.read 0 11) r.2 = sbcCrc8 (packNibbles nibs) (4 * nibs.length) := by
  intro nibs r
  obtain ⟨hcells, hpos⟩ := @crcHeader_eq data1 data2 mode joint subbands hsubbands scaleFactors
  have hjoint : (jointNibbles mode joint subbands).length ≤ 2 := by
    unfold jointNibbles
    split_ifs <;> simp [nibbles]
  have hnibs : nibs.length ≤ 22 := by
    simp only [nibs, nibbles, List.length_append, List.length_cons, List.length_nil,
      List.length_map]
    omega
  rw [show r.2 = 4 * nibs.length from hpos]
  apply sbcCrc8_congr
  · rw [Mem.read_length]
    omega
  · rw [length_packNibbles]
    omega
  · intro i _
    by_cases hi : i < 11
    · rw [List.getD_eq_getElem _ _ (by rw [Mem.read_length]; exact hi), ← hcells i]
      simp [Mem.read, r]
    · rw [List.getD_eq_default _ _ (by rw [Mem.read_length]; omega),
        List.getD_eq_default _ _ (by rw [length_packNibbles]; omega)]

end Sloane.Btremoted
