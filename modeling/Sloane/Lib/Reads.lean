import Sloane.Lib.Mem

/-!
# Programs that read a buffer

A `Reads β α` looks at cells of a memory, one after the other; where it looks next may depend on
what it has seen.  The program does not know how long the buffer is, so that reads behind it are
seen in `offsets`.

* `value_bind`, `offsets_bind` — programs run in sequence.
* `value_collect`, `inBounds_collect` — a loop that collects what it reads.
* `inBounds_scan` — looking for a terminator stays in the buffer iff there is one.
* `run_congr` — the result depends only on the cells that are read.
* `InBounds.run_eq` — a program that stays in its buffer does not see what lies behind it.
-/

namespace Sloane.Lib

/-- A program over cells of type `β` with a result of type `α`. -/
inductive Reads (β α : Type) where
  | done (a : α)
  | cell (i : Nat) (next : β → Reads β α)

namespace Reads

variable {β α γ : Type}

def bind : Reads β α → (α → Reads β γ) → Reads β γ
  | .done a, f => f a
  | .cell i next, f => .cell i fun b => (next b).bind f

instance : Monad (Reads β) where
  pure := .done
  bind := .bind

/-- The cell at an offset. -/
def read (i : Nat) : Reads β β := .cell i .done

/-- The result. -/
def value : Reads β α → Mem β → α
  | .done a, _ => a
  | .cell i next, m => (next (m i)).value m

/-- A counting loop that collects its results. -/
def collect (f : Nat → Reads β α) (i : Nat) : Nat → Reads β (List α)
  | 0 => pure []
  | n + 1 => do
      let a ← f i
      let as ← collect f (i + 1) n
      return a :: as

/-- The `n` cells from an offset. -/
def range (i n : Nat) : Reads β (List β) := collect read i n

/-- The cells from an offset up to a terminator; at most `n` of them are looked at. -/
def scan [DecidableEq β] (z : β) (i : Nat) : Nat → Reads β (List β)
  | 0 => pure []
  | n + 1 => do
      let b ← read i
      if b = z then return []
      let bs ← scan z (i + 1) n
      return b :: bs

/-- The offsets that are read, in order. -/
def offsets : Reads β α → Mem β → List Nat
  | .done _, _ => []
  | .cell i next, m => i :: (next (m i)).offsets m

/-- All reads are of the first `n` cells. -/
def InBounds (x : Reads β α) (n : Nat) (m : Mem β) : Prop := ∀ i ∈ x.offsets m, i < n

/-! ## Running in sequence -/

@[simp] theorem value_pure (a : α) (m : Mem β) : (pure a : Reads β α).value m = a := rfl

@[simp] theorem offsets_pure (a : α) (m : Mem β) : (pure a : Reads β α).offsets m = [] := rfl

@[simp] theorem value_read (i : Nat) (m : Mem β) : (read i).value m = m i := rfl

@[simp] theorem offsets_read (i : Nat) (m : Mem β) : (read i : Reads β β).offsets m = [i] := rfl

@[simp] theorem value_bind (x : Reads β α) (f : α → Reads β γ) (m : Mem β) :
    (x >>= f).value m = (f (x.value m)).value m := by
  change (x.bind f).value m = _
  induction x with
  | done a => rfl
  | cell i next ih => exact ih (m i)

@[simp] theorem offsets_bind (x : Reads β α) (f : α → Reads β γ) (m : Mem β) :
    (x >>= f).offsets m = x.offsets m ++ (f (x.value m)).offsets m := by
  change (x.bind f).offsets m = _
  induction x with
  | done a => rfl
  | cell i next ih => exact congrArg (i :: ·) (ih (m i))

theorem value_collect (f : Nat → Reads β α) (i n : Nat) (m : Mem β) :
    (collect f i n).value m = (List.range' i n).map fun j => (f j).value m := by
  induction n generalizing i with
  | zero => rfl
  | succ n ih =>
    unfold collect
    rw [value_bind, value_bind, value_pure, ih, List.range'_succ, List.map_cons]

@[simp] theorem value_range (i n : Nat) (m : Mem β) : (range i n).value m = m.read i n := by
  unfold range
  rw [value_collect, List.range'_eq_map_range, List.map_map]
  rfl

/-! ## Staying in a buffer -/

@[simp] theorem inBounds_pure (a : α) (n : Nat) (m : Mem β) :
    (pure a : Reads β α).InBounds n m := nofun

@[simp] theorem inBounds_read {i n : Nat} {m : Mem β} :
    (read i : Reads β β).InBounds n m ↔ i < n := by
  simp [InBounds]

@[simp] theorem inBounds_bind {x : Reads β α} {f : α → Reads β γ} {n : Nat} {m : Mem β} :
    (x >>= f).InBounds n m ↔ x.InBounds n m ∧ (f (x.value m)).InBounds n m := by
  unfold InBounds
  rw [offsets_bind, List.forall_mem_append]

theorem inBounds_collect {f : Nat → Reads β α} {i k n : Nat} {m : Mem β} :
    (collect f i k).InBounds n m ↔ ∀ j, i ≤ j → j < i + k → (f j).InBounds n m := by
  induction k generalizing i with
  | zero => exact iff_of_true (inBounds_pure _ _ _) fun j hle hlt => absurd hlt (by omega)
  | succ k ih =>
    unfold collect
    simp only [inBounds_bind, inBounds_pure, and_true, ih]
    constructor
    · rintro ⟨hi, hrest⟩ j hle hlt
      rcases Nat.eq_or_lt_of_le hle with rfl | hne
      · exact hi
      · exact hrest j hne (by omega)
    · intro hall
      exact ⟨hall i (Nat.le_refl i) (by omega), fun j hle hlt => hall j (by omega) (by omega)⟩

@[simp] theorem inBounds_range {i k n : Nat} {m : Mem β} :
    (range i k : Reads β (List β)).InBounds n m ↔ k = 0 ∨ i + k ≤ n := by
  unfold range
  simp only [inBounds_collect, inBounds_read]
  constructor
  · intro hall
    by_cases hk : k = 0
    · exact .inl hk
    · have := hall (i + k - 1) (by omega) (by omega)
      omega
  · rintro (rfl | hle) j hj hlt <;> omega

/-- **Looking for a terminator**, up to the first cell behind the buffer. -/
theorem inBounds_scan [DecidableEq β] {z : β} {i n : Nat} {m : Mem β} (hi : i ≤ n) :
    (scan z i (n + 1 - i)).InBounds n m ↔ ∃ j, i ≤ j ∧ j < n ∧ m j = z := by
  generalize hk : n - i = k
  induction k generalizing i with
  | zero =>
    obtain rfl : i = n := by omega
    rw [Nat.add_sub_cancel_left, scan]
    simp only [inBounds_bind, inBounds_read, Nat.lt_irrefl, false_and, false_iff]
    rintro ⟨j, hle, hlt, -⟩
    omega
  | succ k ih =>
    obtain ⟨f, hf⟩ : ∃ f, n + 1 - i = f + 1 := ⟨n - i, by omega⟩
    have hnext : n + 1 - (i + 1) = f := by omega
    rw [hf, scan]
    simp only [inBounds_bind, inBounds_read, value_read]
    by_cases hz : m i = z
    · simp only [hz, if_true, inBounds_pure, and_true]
      exact iff_of_true (by omega) ⟨i, Nat.le_refl i, by omega, hz⟩
    · simp only [hz, if_false, inBounds_bind, inBounds_pure, and_true]
      rw [← hnext, ih (by omega) (by omega)]
      constructor
      · rintro ⟨-, j, hle, hlt, hj⟩
        exact ⟨j, by omega, hlt, hj⟩
      · rintro ⟨j, hle, hlt, hj⟩
        have hne : j ≠ i := fun heq => hz (heq ▸ hj)
        exact ⟨by omega, j, by omega, hlt, hj⟩

/-! ## What a program sees -/

/-- Two memories that agree on the cells that are read. -/
theorem run_congr {x : Reads β α} {m m' : Mem β} (h : ∀ i ∈ x.offsets m, m i = m' i) :
    x.value m = x.value m' ∧ x.offsets m = x.offsets m' := by
  induction x with
  | done a => exact ⟨rfl, rfl⟩
  | cell i next ih =>
    obtain ⟨hi, hrest⟩ := List.forall_mem_cons.mp h
    obtain ⟨hvalue, hoffsets⟩ := ih (m i) hrest
    simp only [value, offsets, ← hi]
    exact ⟨hvalue, congrArg (i :: ·) hoffsets⟩

/-- **What lies behind the buffer is not seen.** -/
theorem InBounds.run_eq {x : Reads β α} {n : Nat} {m m' : Mem β} (h : x.InBounds n m)
    (hread : m.read 0 n = m'.read 0 n) :
    x.value m = x.value m' ∧ x.offsets m = x.offsets m' := by
  apply run_congr
  intro i hi
  simpa using Mem.eq_of_read_eq hread (h i hi)

end Reads

end Sloane.Lib
