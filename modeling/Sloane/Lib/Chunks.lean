import Mathlib.Tactic.Common

/-!
# Chunks that say how long they are

A region is cut into chunks.  What stands at the beginning of a chunk says how long it is, with its
header; the next chunk begins behind it, possibly after some padding.  The walk over the region
ends where what is left has no room for the chunk, or the chunk no room for its header.

* `chunks_eq` — one round of the walk; there are always enough of them.
* `Chunk.inside_of_mem` — a chunk lies in the region and has a header.
-/

namespace Sloane.Lib

/-- The length of a header, and how far the next chunk is behind the beginning of one. -/
structure ChunkFormat where
  header : Nat
  step : Nat → Nat
  header_pos : 0 < header
  le_step : ∀ len, len ≤ step len

structure Chunk where
  pos : Nat
  len : Nat
  deriving DecidableEq, Repr

/-- There is room for a chunk of the length. -/
def ChunkFormat.Fits (F : ChunkFormat) (len rem : Nat) : Prop :=
  F.header ≤ rem ∧ F.header ≤ len ∧ len ≤ rem

instance (F : ChunkFormat) (len rem : Nat) : Decidable (F.Fits len rem) :=
  inferInstanceAs (Decidable (_ ∧ _))

variable (F : ChunkFormat) (lenAt : Nat → Nat)

/-- At most some rounds of the walk over the `rem` bytes at `pos`. -/
def walk : Nat → Nat → Nat → List Chunk
  | 0, _, _ => []
  | fuel + 1, pos, rem =>
      if F.Fits (lenAt pos) rem then
        ⟨pos, lenAt pos⟩ :: walk fuel (pos + F.step (lenAt pos)) (rem - F.step (lenAt pos))
      else []

/-- The chunks in the `rem` bytes at `pos`. -/
def chunks (pos rem : Nat) : List Chunk := walk F lenAt rem pos rem

variable {F lenAt}

/-- A round leaves less than there was. -/
theorem ChunkFormat.Fits.step_pos {len rem : Nat} (h : F.Fits len rem) : 0 < F.step len :=
  Nat.lt_of_lt_of_le F.header_pos (Nat.le_trans h.2.1 (F.le_step len))

/-- As many rounds as there are bytes are enough. -/
theorem walk_fuel {f g pos rem : Nat} (hf : rem ≤ f) (hg : rem ≤ g) :
    walk F lenAt f pos rem = walk F lenAt g pos rem := by
  induction f generalizing g pos rem with
  | zero =>
    obtain rfl : rem = 0 := by omega
    cases g with
    | zero => rfl
    | succ g => exact (if_neg fun h => absurd h.1 (Nat.not_le.mpr F.header_pos)).symm
  | succ f ih =>
    cases g with
    | zero =>
      obtain rfl : rem = 0 := by omega
      exact if_neg fun h => absurd h.1 (Nat.not_le.mpr F.header_pos)
    | succ g =>
      unfold walk
      by_cases hfits : F.Fits (lenAt pos) rem
      · have hpos := hfits.step_pos
        have hf' : rem - F.step (lenAt pos) ≤ f := by omega
        have hg' : rem - F.step (lenAt pos) ≤ g := by omega
        rw [if_pos hfits, if_pos hfits, ih hf' hg']
      · rw [if_neg hfits, if_neg hfits]

/-- **One round of the walk.** -/
theorem chunks_eq (pos rem : Nat) : chunks F lenAt pos rem =
    if F.Fits (lenAt pos) rem then
      ⟨pos, lenAt pos⟩ :: chunks F lenAt (pos + F.step (lenAt pos)) (rem - F.step (lenAt pos))
    else [] := by
  unfold chunks
  rw [walk_fuel (Nat.le_refl rem) (Nat.le_succ rem), walk]
  by_cases hfits : F.Fits (lenAt pos) rem
  · rw [if_pos hfits, if_pos hfits, walk_fuel (by omega) (Nat.le_refl _)]
  · rw [if_neg hfits, if_neg hfits]

/-- **A chunk lies in the region** and has a header. -/
theorem Chunk.inside_of_mem {c : Chunk} {pos rem : Nat} (h : c ∈ chunks F lenAt pos rem) :
    pos ≤ c.pos ∧ F.header ≤ c.len ∧ c.pos + c.len ≤ pos + rem := by
  induction rem using Nat.strongRecOn generalizing pos with
  | _ rem ih =>
    rw [chunks_eq] at h
    by_cases hfits : F.Fits (lenAt pos) rem
    · rw [if_pos hfits] at h
      obtain rfl | hrest := List.mem_cons.mp h
      · exact ⟨Nat.le_refl _, hfits.2.1, Nat.add_le_add_left hfits.2.2 _⟩
      · have hpos := hfits.step_pos
        have hrem := Nat.lt_of_lt_of_le F.header_pos hfits.1
        have hheader := F.header_pos
        obtain ⟨hle, hlen, hend⟩ := ih (rem - F.step (lenAt pos)) (by omega) hrest
        -- padding may reach behind the region, but then nothing is left for a chunk
        exact ⟨by omega, hlen, by omega⟩
    · rw [if_neg hfits] at h
      cases h

end Sloane.Lib
