import Sloane.Btremoted.SbcRoundTrip

/-!
# The room that the encoder asks for

Model of `sbc_get_frame_length` and of the check of the output in `sbc_encode`, both in
`btremoted/msbc.c`.  `sbc_pack_frame` does not look at the length that it is given: nothing but
this check keeps it inside the output.

* `length_packFrame` — what a packed frame takes.
* `outputFits_iff` — when the check is enough.
-/

namespace Sloane.Btremoted

/-- `sbc_get_frame_length`, from the parameters that the frame is set up with. -/
def sbcGetFrameLength (h : SbcHeader) : Nat :=
  let joint := if h.mode = .jointStereo then 1 else 0
  let ret := 4 + (4 * h.subbands * h.channels) / 8
  -- rounded up to whole bytes
  if h.channels = 1 then ret + (h.blocks * h.channels * h.bitpool + 7) / 8
  else ret + ((if joint ≠ 0 then h.subbands else 0) + h.blocks * h.bitpool + 7) / 8

/-- What `sbc_encode` compares the length of the output with: `length` is an `uint8_t`. -/
def SbcHeader.length (h : SbcHeader) : Nat := sbcGetFrameLength h % 2 ^ 8

/-- `sbc_encode` goes on to pack the frame. -/
def outputFits (h : SbcHeader) (outputLen : Nat) : Prop := h.length ≤ outputLen

variable {frame : SbcFrame} {joint : Nat}

/-- **What a packed frame takes.** -/
theorem length_packFrame (hv : frame.Valid joint) {bytes : List UInt8}
    (hpack : packFrame frame joint = .ok bytes) :
    bytes.length = (frame.header.totalBits + 7) / 8 := by
  rw [← Except.ok.inj ((packFrame_ok hv).symm.trans hpack), length_body_eq hv]
  simp only [List.length_cons]
  omega

/-- Two independent channels have a bit pool each, of which the formula counts one. -/
theorem totalBits_length (hv : frame.Valid joint) : (frame.header.totalBits + 7) / 8 =
    sbcGetFrameLength frame.header +
      if frame.header.mode = .dualChannel then
        frame.header.blocks * frame.header.bitpool / 8
      else 0 := by
  obtain ⟨k, hk⟩ : ∃ k, frame.header.blocks * frame.header.bitpool = 4 * k :=
    ⟨(frame.block_mode + 1) * frame.header.bitpool, by rw [hv.blocks]; ring⟩
  have hdouble : frame.header.blocks * (2 * frame.header.bitpool) = 2 * (4 * k) := by
    rw [Nat.mul_left_comm, hk]
  have hmono : frame.header.blocks * 1 * frame.header.bitpool = 4 * k := by rw [Nat.mul_one, hk]
  unfold SbcHeader.totalBits SbcHeader.jointBits SbcHeader.blockBits sbcGetFrameLength
  rw [hv.header.channels]
  cases hmode : frame.header.mode with
  | mono =>
    simp only [reduceCtorEq, if_true, if_false, hk, hmono]
    rcases hv.subbands with h | h <;> rw [h] <;> omega
  | dualChannel =>
    simp only [reduceCtorEq, if_true, if_false, hk, hdouble]
    rcases hv.subbands with h | h <;> rw [h] <;> simp <;> omega
  | stereo =>
    simp only [reduceCtorEq, if_false, hk]
    rcases hv.subbands with h | h <;> rw [h] <;> simp <;> omega
  | jointStereo =>
    simp only [reduceCtorEq, if_true, if_false, hk]
    rcases hv.subbands with h | h <;> rw [h] <;> simp <;> omega

/-- **When the check is enough**: not for two independent channels, unless there is next to nothing
to pack, and not when the length does not fit into a byte. -/
theorem outputFits_iff (hv : frame.Valid joint) {bytes : List UInt8}
    (hpack : packFrame frame joint = .ok bytes) :
    (∀ outputLen, outputFits frame.header outputLen → bytes.length ≤ outputLen) ↔
      (frame.header.mode = .dualChannel → frame.header.blocks * frame.header.bitpool < 8) ∧
        sbcGetFrameLength frame.header < 256 := by
  rw [length_packFrame hv hpack, totalBits_length hv]
  unfold outputFits SbcHeader.length
  constructor
  · intro hall
    have hself := hall _ (Nat.le_refl _)
    refine ⟨fun hdual => ?_, by omega⟩
    rw [if_pos hdual] at hself
    omega
  · rintro ⟨hdual, hsmall⟩ outputLen hfits
    rw [Nat.mod_eq_of_lt (show sbcGetFrameLength frame.header < 2 ^ 8 from hsmall)] at hfits
    split
    · rename_i hmode
      have := hdual hmode
      omega
    · exact hfits

theorem outputFits_joint : jointFrame.header.length = 15 ∧
    ∀ outputLen, outputFits jointFrame.header outputLen → 15 ≤ outputLen := by
  have hpack : packFrame jointFrame 10 = .ok jointPacked := by rfl
  exact ⟨by decide, (outputFits_iff jointFrame_valid hpack).mpr ⟨nofun, by decide⟩⟩

end Sloane.Btremoted
