import Mathlib.Algebra.Order.BigOperators.Group.List
import Mathlib.Algebra.Order.Ring.Nat
import Mathlib.Tactic.Common

/-!
# Tokens held by threads

A thread holds a list of tokens that depends on where it is.

* `held_set` — what one thread's move changes.
* `held_pos` — a token that a thread holds is counted.
-/

namespace Sloane.Lib

variable {τ κ : Type} [DecidableEq κ] {owned : τ → List κ} {ts : List τ}

/-- How many tokens for `k` the threads hold. -/
def held (owned : τ → List κ) (ts : List τ) (k : κ) : Nat :=
  (ts.map fun t => (owned t).count k).sum

theorem held_set {i : Nat} {t : τ} (h : ts[i]? = some t) (t' : τ) (k : κ) :
    held owned (ts.set i t') k + (owned t).count k = held owned ts k + (owned t').count k := by
  induction ts generalizing i with
  | nil => cases h
  | cons u ts ih =>
    cases i with
    | zero =>
      obtain rfl := Option.some.inj h
      simp only [held, List.set_cons_zero, List.map_cons, List.sum_cons]
      omega
    | succ i =>
      have hrest := ih (i := i) h
      simp only [held, List.set_cons_succ, List.map_cons, List.sum_cons] at hrest ⊢
      omega

theorem held_pos {t : τ} {k : κ} (ht : t ∈ ts) (hk : k ∈ owned t) : 0 < held owned ts k := by
  have hcount : 0 < (owned t).count k := List.count_pos_iff.mpr hk
  have hle : (owned t).count k ≤ held owned ts k :=
    List.le_sum_of_mem (List.mem_map.mpr ⟨t, ht, rfl⟩)
  omega

theorem held_eq_zero {k : κ} (h : ∀ t ∈ ts, k ∉ owned t) : held owned ts k = 0 := by
  refine List.sum_eq_zero ?_
  intro n hn
  obtain ⟨t, ht, rfl⟩ := List.mem_map.mp hn
  exact List.count_eq_zero.mpr (h t ht)

end Sloane.Lib
