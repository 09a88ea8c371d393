import Mathlib.Tactic.Common

/-!
# Memory as a function of the index

An array whose length the program tracks on its own: `read` and `write` take ranges, and what was
never written is arbitrary.

* `read_write_append` — writing behind what is read extends it.
* `read_add`, `read_take`, `read_drop` — ranges are read piece by piece.
-/

namespace Sloane.Lib

def Mem (α : Type) := Nat → α

namespace Mem

variable {α : Type}

def read (m : Mem α) (off n : Nat) : List α := (List.range n).map fun i => m (off + i)

def write (m : Mem α) (off : Nat) (bs : List α) : Mem α := fun i =>
  if off ≤ i then (bs[i - off]?).getD (m i) else m i

/-- A memory that begins with the given list. -/
def ofList (l : List α) (d : α) : Mem α := fun i => l.getD i d

@[simp] theorem read_length (m : Mem α) (off n : Nat) : (m.read off n).length = n := by
  simp [read]

@[simp] theorem read_zero (m : Mem α) (off : Nat) : m.read off 0 = [] := rfl

theorem read_add (m : Mem α) (off a b : Nat) :
    m.read off (a + b) = m.read off a ++ m.read (off + a) b := by
  simp [read, List.range_add, Nat.add_assoc]

theorem read_take (m : Mem α) (off : Nat) {k n : Nat} (h : k ≤ n) :
    (m.read off n).take k = m.read off k := by
  obtain ⟨b, rfl⟩ := Nat.exists_eq_add_of_le h
  rw [read_add, List.take_append_of_le_length (by simp), List.take_of_length_le (by simp)]

theorem read_drop (m : Mem α) (off : Nat) {k n : Nat} (h : k ≤ n) :
    (m.read off n).drop k = m.read (off + k) (n - k) := by
  obtain ⟨b, rfl⟩ := Nat.exists_eq_add_of_le h
  rw [read_add, List.drop_append_of_le_length (by simp), List.drop_of_length_le (by simp),
    List.nil_append, Nat.add_sub_cancel_left]

theorem read_congr {m m' : Mem α} {off n : Nat} (h : ∀ i, off ≤ i → i < off + n → m i = m' i) :
    m.read off n = m'.read off n := by
  refine List.map_congr_left fun i hi => h _ (Nat.le_add_right ..) ?_
  have := List.mem_range.mp hi
  omega

/-- A write behind the range does not change it. -/
theorem read_write_before (m : Mem α) {a n off : Nat} (bs : List α) (h : a + n ≤ off) :
    (m.write off bs).read a n = m.read a n := by
  apply read_congr
  intro i _ hi
  rw [write, if_neg (by omega)]

theorem read_write_self (m : Mem α) (off : Nat) (bs : List α) :
    (m.write off bs).read off bs.length = bs := by
  apply List.ext_getElem (by simp)
  intro i hi _
  rw [read_length] at hi
  simp [read, write, List.getElem?_eq_getElem hi]

theorem read_write_append (m : Mem α) {a n : Nat} (bs : List α) :
    (m.write (a + n) bs).read a (n + bs.length) = m.read a n ++ bs := by
  rw [read_add, read_write_before m bs (Nat.le_refl _), read_write_self]

theorem write_cell_self (m : Mem α) (k : Nat) (v : α) : m.write k [v] k = v := by
  rw [write, if_pos (Nat.le_refl k), Nat.sub_self]
  rfl

theorem write_cell_of_ne (m : Mem α) {k j : Nat} (v : α) (h : j ≠ k) : m.write k [v] j = m j := by
  unfold write
  split
  · rw [List.getElem?_eq_none (by rw [List.length_singleton]; omega), Option.getD_none]
  · rfl

theorem ofList_read (l : List α) (d : α) : (ofList l d).read 0 l.length = l := by
  apply List.ext_getElem (by simp)
  intro i hi _
  rw [read_length] at hi
  simp [read, ofList, List.getElem?_eq_getElem hi]

theorem eq_of_read_eq {m m' : Mem α} {off n i : Nat} (h : m.read off n = m'.read off n)
    (hi : i < n) : m (off + i) = m' (off + i) := by
  have hget := congrArg (·[i]?) h
  simpa [read, hi] using hget

end Mem

end Sloane.Lib
