import Mathlib.Tactic.Common
import Sloane.Lib.Mem

/-!
# Loops that fill an array from itself

A counting loop that writes one cell after the other, each computed from the array as it is by
then.

* `fill_outside` — the other cells stay.
* `fill_behind` — cells computed from those in front of them, which may be new ones.
* `fill_ahead` — cells computed from those behind them, which are all old.
* `fill_agree` — arrays that agree in front of what is written agree behind it.
-/

namespace Sloane.Lib

namespace Mem

variable {α : Type} {g : Mem α → Nat → α} {base i n : Nat} {m m' : Mem α}

/-- The loop for `n` values of the counter, from `i` on: the cell at `base + i` becomes `g m i`. -/
def fill (g : Mem α → Nat → α) (base : Nat) : Nat → Nat → Mem α → Mem α
  | _, 0, m => m
  | i, n + 1, m => fill g base (i + 1) n (m.write (base + i) [g m i])

/-- **The other cells stay.** -/
theorem fill_outside {j : Nat} (h : j < base + i ∨ base + i + n ≤ j) :
    fill g base i n m j = m j := by
  induction n generalizing i m with
  | zero => rfl
  | succ n ih =>
    unfold fill
    rw [ih (by omega), write_cell_of_ne _ _ (by omega)]

/-- Only what is computed for the values of the counter matters. -/
theorem fill_congr {g' : Mem α → Nat → α} (h : ∀ m k, i ≤ k → k < i + n → g m k = g' m k) :
    fill g base i n m = fill g' base i n m := by
  induction n generalizing i m with
  | zero => rfl
  | succ n ih =>
    unfold fill
    rw [h m i (Nat.le_refl i) (by omega)]
    exact ih fun m k hik hk => h m k (by omega) (by omega)

/-- A loop in two parts. -/
theorem fill_fill (k : Nat) :
    fill g base (i + n) k (fill g base i n m) = fill g base i (n + k) m := by
  induction n generalizing i m with
  | zero => rw [Nat.zero_add]; rfl
  | succ n ih =>
    have hnext := @ih (i + 1) (m.write (base + i) [g m i])
    rw [show i + 1 + n = i + (n + 1) by omega] at hnext
    rw [Nat.succ_add]
    exact hnext

/-- **Cells computed from those in front**: in the end each is what it should be. -/
theorem fill_behind (hg : ∀ m m' k, (∀ j < base + k, m j = m' j) → g m k = g m' k) {k : Nat}
    (hik : i ≤ k) (hk : k < i + n) :
    fill g base i n m (base + k) = g (fill g base i n m) k := by
  induction n generalizing i m with
  | zero => omega
  | succ n ih =>
    unfold fill
    rcases Nat.eq_or_lt_of_le hik with rfl | hlt
    · -- the cell that is written now; what it depends on does not change any more
      rw [fill_outside (.inl (by omega)), write_cell_self]
      apply hg
      intro j hj
      rw [fill_outside (.inl (by omega)), write_cell_of_ne _ _ (Nat.ne_of_lt hj)]
    · exact ih hlt (by omega)

/-- **Cells computed from those behind** are computed from the old ones. -/
theorem fill_ahead (hg : ∀ m m' k, (∀ j, base + k ≤ j → m j = m' j) → g m k = g m' k) {k : Nat}
    (hik : i ≤ k) (hk : k < i + n) : fill g base i n m (base + k) = g m k := by
  induction n generalizing i m with
  | zero => omega
  | succ n ih =>
    unfold fill
    rcases Nat.eq_or_lt_of_le hik with rfl | hlt
    · rw [fill_outside (.inl (by omega)), write_cell_self]
    · rw [ih hlt (by omega)]
      apply hg
      intro j hj
      exact write_cell_of_ne _ _ (by omega)

/-- **Arrays that agree** in front of what is written agree behind it. -/
theorem fill_agree (hg : ∀ m m' k, (∀ j < base + k, m j = m' j) → g m k = g m' k)
    (h : ∀ j < base + i, m j = m' j) :
    ∀ j < base + i + n, fill g base i n m j = fill g base i n m' j := by
  induction n generalizing i m m' with
  | zero => exact h
  | succ n ih =>
    unfold fill
    rw [show base + i + (n + 1) = base + (i + 1) + n by omega]
    apply ih
    intro j hj
    rcases Nat.lt_or_eq_of_le (show j ≤ base + i by omega) with hlt | rfl
    · rw [write_cell_of_ne _ _ (by omega), write_cell_of_ne _ _ (by omega), h j hlt]
    · rw [write_cell_self, write_cell_self]
      exact hg m m' i h

end Mem

end Sloane.Lib
