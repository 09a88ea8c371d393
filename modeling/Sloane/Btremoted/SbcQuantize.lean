import Mathlib.Tactic.Linarith
import Sloane.Btremoted.SbcFields

/-!
# What quantising loses

A sample is packed as a number of a few bits and unpacked as the middle of what has this number.
The subband filter yields samples with 16 binary places, which the decoder does not have.

* `sbSample_eq` — no number that is packed overflows when it is unpacked.
* `sbSample_bounds` — a sample is as large as its scale factor allows.
* `quantize_error` — the sample comes back within half a step.
-/

namespace Sloane.Btremoted

theorem unpacked_lt {bits audioSample : Nat} (scaleFactor : Nat)
    (hlt : audioSample < 2 ^ bits - 1) :
    (2 * audioSample + 1) * 2 ^ scaleFactor / (2 ^ bits - 1) < 2 * 2 ^ scaleFactor := by
  rw [Nat.div_lt_iff_lt_mul (by omega),
    show 2 * 2 ^ scaleFactor * (2 ^ bits - 1) = 2 * (2 ^ bits - 1) * 2 ^ scaleFactor by ring]
  exact Nat.mul_lt_mul_of_pos_right (by omega) (Nat.two_pow_pos _)

/-- **No overflow** when a number is unpacked: there are two steps less than the bits can count. -/
theorem sbSample_eq {bits scaleFactor audioSample : Nat} (hbits : bits ≤ 16)
    (hscale : scaleFactor ≤ 15) (hlt : audioSample < 2 ^ bits - 1) :
    sbSample bits scaleFactor audioSample =
      ((2 * audioSample + 1) * 2 ^ scaleFactor / (2 ^ bits - 1) : Nat) - 2 ^ scaleFactor := by
  have hlevels : 2 ^ bits ≤ 2 ^ 16 := Nat.pow_le_pow_right (by decide) hbits
  have hscales : 2 ^ scaleFactor ≤ 2 ^ 15 := Nat.pow_le_pow_right (by decide) hscale
  have hfits : (2 * audioSample + 1) * 2 ^ scaleFactor < 2 ^ 32 :=
    calc (2 * audioSample + 1) * 2 ^ scaleFactor ≤ (2 ^ 17 - 1) * 2 ^ 15 :=
          Nat.mul_le_mul (by omega) hscales
      _ < 2 ^ 32 := by decide
  have hquotient := unpacked_lt scaleFactor hlt
  unfold sbSample
  rw [Nat.shiftLeft_eq, Nat.mod_eq_of_lt hfits]
  generalize (2 * audioSample + 1) * 2 ^ scaleFactor / (2 ^ bits - 1) = quotient at *
  have hcast : ((2 ^ scaleFactor : Nat) : Int) = 2 ^ scaleFactor := by
    push_cast
    rfl
  rw [← hcast]
  exact Int.bmod_eq_of_le (by omega) (by omega)

/-- **A sample is as large as its scale factor allows.** -/
theorem sbSample_bounds {bits scaleFactor audioSample : Nat} (hbits : bits ≤ 16)
    (hscale : scaleFactor ≤ 15) (hlt : audioSample < 2 ^ bits - 1) :
    -2 ^ scaleFactor ≤ sbSample bits scaleFactor audioSample ∧
      sbSample bits scaleFactor audioSample < 2 ^ scaleFactor := by
  have hquotient := unpacked_lt scaleFactor hlt
  have hcast : ((2 ^ scaleFactor : Nat) : Int) = 2 ^ scaleFactor := by
    push_cast
    rfl
  rw [sbSample_eq hbits hscale hlt, ← hcast]
  generalize (2 * audioSample + 1) * 2 ^ scaleFactor / (2 ^ bits - 1) = quotient at *
  omega

/-- **Within half a step**: the sample is at most half a step above what it was, and less than
half a step and one below.  A step is the range of the scale factor divided into as many parts as
the bits can count, without one. -/
theorem quantize_error {bits scaleFactor : Nat} {sample : Int} (hpos : 0 < bits)
    (hbits : bits ≤ 16) (hscale : scaleFactor ≤ 15)
    (hlow : -(2 : Int) ^ (scaleFactor + 16) ≤ sample) (hhigh : sample < 2 ^ (scaleFactor + 16)) :
    let unpacked := sbSample bits scaleFactor (quantize bits scaleFactor sample)
    (2 ^ bits - 1) * (2 ^ 16 * unpacked - sample) ≤ 2 ^ 16 * 2 ^ scaleFactor ∧
      (2 ^ bits - 1) * (sample - 2 ^ 16 * unpacked) <
        2 ^ 16 * (2 ^ scaleFactor + (2 ^ bits - 1)) := by
  intro unpacked
  have hlt := quantize_lt hpos hbits hscale hlow hhigh
  have hunpacked : unpacked = _ := sbSample_eq hbits hscale hlt
  have hquantize := quantize_eq hbits hscale hlow hhigh
  obtain ⟨x, hx⟩ := Int.eq_ofNat_of_zero_le (show 0 ≤ (2 : Int) ^ (scaleFactor + 16) + sample by
    omega)
  rw [hx, Int.toNat_natCast] at hquantize
  rw [hunpacked]
  generalize quantize bits scaleFactor sample = q at *
  obtain ⟨levels, hlevels⟩ : ∃ levels, 2 ^ bits = levels + 1 :=
    ⟨2 ^ bits - 1, by have := Nat.two_pow_pos bits; omega⟩
  have hcast : (2 : Int) ^ bits - 1 = levels := by
    have hint : ((2 ^ bits : Nat) : Int) = (levels + 1 : Nat) := congrArg _ hlevels
    push_cast at hint
    omega
  rw [hlevels, Nat.add_sub_cancel] at hquantize hlt ⊢
  rw [hcast]
  -- the number that is packed, and the quotient that it is unpacked to
  have hq := Nat.div_add_mod (levels * x) (2 ^ (scaleFactor + 17))
  have hqLt := Nat.mod_lt (levels * x) (Nat.two_pow_pos (scaleFactor + 17))
  have hd := Nat.div_add_mod ((2 * q + 1) * 2 ^ scaleFactor) levels
  have hdLt := Nat.mod_lt ((2 * q + 1) * 2 ^ scaleFactor) (show levels > 0 by omega)
  rw [← hquantize] at hq
  generalize (2 * q + 1) * 2 ^ scaleFactor / levels = d at *
  generalize (2 * q + 1) * 2 ^ scaleFactor % levels = rd at *
  generalize levels * x % 2 ^ (scaleFactor + 17) = rq at *
  rw [show (2 : Nat) ^ (scaleFactor + 17) = 131072 * 2 ^ scaleFactor by
    rw [Nat.pow_add]; ring] at hq hqLt
  have hsample : sample = x - 65536 * 2 ^ scaleFactor := by
    rw [pow_add] at hx
    linarith
  rw [hsample]
  generalize hP : 2 ^ scaleFactor = P at hq hqLt hd
  have hPcast : (2 : Int) ^ scaleFactor = P := by
    rw [← hP]
    push_cast
    rfl
  rw [hPcast]
  zify at hq hqLt hd hdLt
  constructor
  · linarith
  · linarith

/-- The largest sample of five bits: it loses almost half a step. -/
theorem quantize_error_largest :
    let unpacked := sbSample 5 3 (quantize 5 3 (2 ^ 19 - 1))
    (2 ^ 5 - 1) * (2 ^ 16 * unpacked - (2 ^ 19 - 1)) ≤ 2 ^ 16 * 2 ^ 3 ∧
      (2 ^ 5 - 1) * ((2 ^ 19 - 1) - 2 ^ 16 * unpacked) < 2 ^ 16 * (2 ^ 3 + (2 ^ 5 - 1)) :=
  quantize_error (by decide) (by decide) (by decide) (by decide) (by decide)

end Sloane.Btremoted
