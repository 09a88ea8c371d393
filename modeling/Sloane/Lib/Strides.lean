import Mathlib.Tactic.Common

/-!
# Rows at a fixed stride

A block of a plane: `rows` pieces of `len` cells, each `pitch` cells behind the one before.

* `Rows.Mem.column` — where in its row a cell of the block is.
* `Rows.Mem.band` — a block that stays in its columns stays in the rows of its band.
* `Rows.not_mem_of_columns` — two blocks of one band with different columns share no cell.
-/

namespace Sloane.Lib

structure Rows where
  start : Nat
  pitch : Nat
  rows : Nat
  len : Nat

namespace Rows

/-- The cells of the block. -/
def Mem (r : Rows) (a : Nat) : Prop :=
  ∃ j < r.rows, r.start + j * r.pitch ≤ a ∧ a < r.start + j * r.pitch + r.len

variable {base col col' pitch rows rows' len len' : Nat}

theorem not_mem_of_rows_zero {start a : Nat} : ¬ (Rows.mk start pitch 0 len).Mem a :=
  fun ⟨_, hj, _⟩ => Nat.not_lt_zero _ hj

theorem Mem.column {a : Nat} (h : (Rows.mk (base + col) pitch rows len).Mem a)
    (hcol : col + len ≤ pitch) :
    base ≤ a ∧ col ≤ (a - base) % pitch ∧ (a - base) % pitch < col + len := by
  obtain ⟨j, -, hlo, hhi⟩ := h
  simp only at hlo hhi
  obtain ⟨t, rfl⟩ := Nat.exists_eq_add_of_le hlo
  have hmod : (base + col + j * pitch + t - base) % pitch = col + t := by
    rw [show base + col + j * pitch + t - base = (col + t) + j * pitch by omega,
      Nat.add_mul_mod_self_right, Nat.mod_eq_of_lt (by omega)]
  rw [hmod]
  omega

theorem Mem.band {a : Nat} (h : (Rows.mk (base + col) pitch rows len).Mem a)
    (hcol : col + len ≤ pitch) : base ≤ a ∧ a < base + rows * pitch := by
  obtain ⟨j, hj, hlo, hhi⟩ := h
  simp only at hj hlo hhi
  have hend : (j + 1) * pitch ≤ rows * pitch := Nat.mul_le_mul_right _ hj
  rw [Nat.succ_mul] at hend
  omega

theorem not_mem_of_columns {a : Nat} (hcol : col + len ≤ pitch) (hcol' : col' + len' ≤ pitch)
    (hne : col + len ≤ col' ∨ col' + len' ≤ col)
    (h : (Rows.mk (base + col) pitch rows len).Mem a) :
    ¬ (Rows.mk (base + col') pitch rows' len').Mem a := by
  intro h'
  obtain ⟨-, hlo, hhi⟩ := h.column hcol
  obtain ⟨-, hlo', hhi'⟩ := h'.column hcol'
  omega

end Rows

end Sloane.Lib
