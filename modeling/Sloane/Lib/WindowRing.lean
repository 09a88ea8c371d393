import Mathlib.Algebra.Order.Ring.Nat
import Mathlib.Tactic.Ring
import Sloane.Lib.Mem

/-!
# Sliding windows in one ring

`r` rows, each with a window of its `w` latest values, share a ring of `r * w` cells.  In each round
every row is given one value and its window moves down by one cell.  A window that crosses the end
of the ring goes on in a mirror of `w - 1` cells, which is filled when the window wraps.

* `Mid.push` — one row moves: the windows of the rows that have moved, and of those that wait.
* `Windows.pushAll` — after a round every window holds the new value and its predecessors.
* `pushAll_inside` — the ring, its mirror and the offsets of the rows are all that is used.
-/

namespace Sloane.Lib

namespace WindowRing

variable {α : Type}

/-- The cells, and where the window of each row begins. -/
structure Store (α : Type) where
  cells : Mem α
  offset : Mem Nat

/-- A row moves down by one cell, where its new value is put. -/
def push (size mirror : Nat) (c : Store α) (i : Nat) (x : α) : Store α :=
  let wrapped := c.offset i = 0
  let cells := if wrapped then c.cells.write size (c.cells.read 0 mirror) else c.cells
  let offset := if wrapped then size - 1 else c.offset i - 1
  ⟨cells.write offset [x], c.offset.write i [offset]⟩

/-- A round. -/
def pushAll (size mirror r : Nat) (x : Nat → α) (c : Store α) : Store α :=
  (List.range r).foldl (fun c i => push size mirror c i (x i)) c

/-- The values of a row, the latest first, with one more. -/
def cons (x : α) (h : Nat → α) : Nat → α
  | 0 => x
  | j + 1 => h j

/-- A position that may be one round beyond the end. -/
def wrap (size p : Nat) : Nat := if p < size then p else p - size

/-- One cell down. -/
def down (size b : Nat) : Nat := if b = 0 then size - 1 else b - 1

/-! ## Single cells -/

theorem write_one_self (m : Mem α) (i : Nat) (a : α) : m.write i [a] i = a := by
  simp [Mem.write]

theorem write_one_ne (m : Mem α) {i k : Nat} (a : α) (h : k ≠ i) : m.write i [a] k = m k := by
  unfold Mem.write
  split
  · have hpos : k - i ≠ 0 := by omega
    obtain ⟨p, hp⟩ := Nat.exists_eq_succ_of_ne_zero hpos
    simp [hp]
  · rfl

theorem write_read_at (m : Mem α) {dst n j : Nat} (src : Nat) (h : j < n) :
    m.write dst (m.read src n) (dst + j) = m (src + j) := by
  simp [Mem.write, Mem.read, h]

theorem write_read_out (m : Mem α) {dst n k : Nat} (src : Nat) (h : k < dst ∨ dst + n ≤ k) :
    m.write dst (m.read src n) k = m k := by
  unfold Mem.write
  split
  · have hlen : (m.read src n).length ≤ k - dst := by
      rw [Mem.read_length]
      omega
    rw [List.getElem?_eq_none hlen]
    rfl
  · rfl

/-! ## What one push does -/

variable {size mirror : Nat} {c : Store α} {i : Nat}

theorem push_offset_self (x : α) :
    (push size mirror c i x).offset i = if c.offset i = 0 then size - 1 else c.offset i - 1 :=
  write_one_self _ _ _

theorem push_offset_ne {k : Nat} (x : α) (h : k ≠ i) :
    (push size mirror c i x).offset k = c.offset k := write_one_ne _ _ h

/-- A cell that is neither in the mirror nor the new one. -/
theorem push_cells_of_ne {k : Nat} (x : α)
    (hnew : k ≠ if c.offset i = 0 then size - 1 else c.offset i - 1)
    (hmirror : c.offset i = 0 → k < size ∨ size + mirror ≤ k) :
    (push size mirror c i x).cells k = c.cells k := by
  unfold push
  dsimp only
  rw [write_one_ne _ _ hnew]
  split
  · rename_i hwrap
    exact write_read_out _ _ (hmirror hwrap)
  · rfl

theorem push_cells_new (x : α) :
    (push size mirror c i x).cells (if c.offset i = 0 then size - 1 else c.offset i - 1) = x :=
  write_one_self _ _ _

/-- Every cell after a push. -/
theorem push_cells (x : α) (k : Nat) :
    (push size mirror c i x).cells k =
      if k = (if c.offset i = 0 then size - 1 else c.offset i - 1) then x
      else if c.offset i = 0 ∧ size ≤ k ∧ k < size + mirror then c.cells (k - size)
      else c.cells k := by
  by_cases hnew : k = if c.offset i = 0 then size - 1 else c.offset i - 1
  · rw [if_pos hnew, hnew, push_cells_new]
  · rw [if_neg hnew]
    by_cases hmirror : c.offset i = 0 ∧ size ≤ k ∧ k < size + mirror
    · obtain ⟨hwrap, hge, hlt⟩ := hmirror
      rw [if_pos ⟨hwrap, hge, hlt⟩]
      unfold push
      dsimp only
      rw [write_one_ne _ _ hnew, if_pos hwrap]
      have hcell := @write_read_at _ c.cells size _ _ 0 (show k - size < mirror by omega)
      rwa [show size + (k - size) = k by omega, Nat.zero_add] at hcell
    · rw [if_neg hmirror]
      exact push_cells_of_ne x hnew fun hwrap => by omega

/-- **The window of the row that moves** has the new value in front. -/
theorem push_window {h : Nat → α} {w : Nat} (x : α) (hsize : 0 < size)
    (hold : ∀ j, j < w → c.cells (c.offset i + j) = h j) (j : Nat) (hj : j < w + 1) :
    (push size w c i x).cells ((push size w c i x).offset i + j) = cons x h j := by
  rw [push_offset_self]
  cases j with
  | zero => exact push_cells_new x
  | succ j =>
    have hprev := hold j (by omega)
    show (push size w c i x).cells _ = h j
    by_cases hwrap : c.offset i = 0
    · -- what follows is read from the mirror
      rw [hwrap, Nat.zero_add] at hprev
      unfold push
      dsimp only
      simp only [hwrap, if_true]
      rw [write_one_ne _ _ (by omega), show size - 1 + (j + 1) = size + j by omega,
        write_read_at _ 0 (by omega), Nat.zero_add, hprev]
    · rw [push_cells_of_ne x (by rw [if_neg hwrap]; omega) fun hzero => absurd hzero hwrap,
        if_neg hwrap, show c.offset i - 1 + (j + 1) = c.offset i + j by omega, hprev]

/-! ## Rounds -/

/-- Between two rounds.  The row at the beginning of the ring may instead be taken to be at its
end, as long as it has not moved. -/
structure Windows (r w b : Nat) (h : Nat → Nat → α) (c : Store α) : Prop where
  base : b < r * w
  offset : ∀ i, i < r → c.offset i = wrap (r * w) (b + w * i) ∨
    wrap (r * w) (b + w * i) = 0 ∧ c.offset i = r * w
  window : ∀ i, i < r → ∀ j, j + 1 < w → c.cells (c.offset i + j) = h i j

/-- Within a round, when the rows below `k` have moved. -/
structure Mid (r w b k : Nat) (h : Nat → Nat → α) (x : Nat → α) (c : Store α) : Prop where
  base : b < r * w
  moved : ∀ i, i < k → i < r → c.offset i = wrap (r * w) (down (r * w) b + w * i)
  movedWindow : ∀ i, i < k → i < r → ∀ j, j < w → c.cells (c.offset i + j) = cons (x i) (h i) j
  waiting : ∀ i, k ≤ i → i < r → c.offset i = wrap (r * w) (b + w * i) ∨
    wrap (r * w) (b + w * i) = 0 ∧ c.offset i = r * w
  window : ∀ i, k ≤ i → i < r → ∀ j, j + 1 < w → c.cells (c.offset i + j) = h i j

variable {r w b : Nat} {h : Nat → Nat → α} {x : Nat → α}

theorem Windows.mid (hc : Windows r w b h c) : Mid r w b 0 h x c where
  base := hc.base
  moved _ hi := absurd hi (Nat.not_lt_zero _)
  movedWindow _ hi := absurd hi (Nat.not_lt_zero _)
  waiting i _ hi := hc.offset i hi
  window i _ hi := hc.window i hi

/-- Rows are `w` cells apart. -/
theorem rows_apart {i k : Nat} (hlt : i < k) : w * i + w ≤ w * k := by
  calc w * i + w = w * (i + 1) := by ring
    _ ≤ w * k := Nat.mul_le_mul_left w hlt

theorem row_fits {i : Nat} (hi : i < r) : w * i + w ≤ r * w := by
  rw [Nat.mul_comm r w]
  exact rows_apart hi

/-- Where the row that moves gets to. -/
theorem next_offset {size o b p : Nat} (hb : b < size) (hp : p < size)
    (ho : o = wrap size (b + p) ∨ wrap size (b + p) = 0 ∧ o = size) :
    (if o = 0 then size - 1 else o - 1) = wrap size (down size b + p) := by
  unfold wrap at ho
  unfold wrap down
  split_ifs at * <;> omega

theorem width_pos (hb : b < r * w) : 0 < w := by
  apply Nat.pos_of_ne_zero
  rintro rfl
  exact absurd hb (by simp)

/-- The row that moves does not reach into the window of a row that has moved. -/
theorem moved_apart {size a p o j b : Nat} (hb : b < size) (ha : a + w ≤ p) (hp : p + w ≤ size)
    (hj : j < w) (ho : o = wrap size (b + p) ∨ wrap size (b + p) = 0 ∧ o = size) :
    (wrap size (down size b + a) + j ≠ if o = 0 then size - 1 else o - 1) ∧
      (o = 0 → wrap size (down size b + a) + j < size) := by
  rw [next_offset hb (by omega) ho]
  unfold wrap at ho
  unfold wrap down
  constructor
  · split_ifs <;> omega
  · intro hzero
    split_ifs at * <;> omega

/-- Nor into what is needed of the window of a row that waits. -/
theorem waiting_apart {size a p o q j b : Nat} (hb : b < size) (hp : p + w ≤ a)
    (ha : a + w ≤ size) (hj : j + 1 < w)
    (ho : o = wrap size (b + p) ∨ wrap size (b + p) = 0 ∧ o = size)
    (hq : q = wrap size (b + a) ∨ wrap size (b + a) = 0 ∧ q = size) :
    (q + j ≠ if o = 0 then size - 1 else o - 1) ∧ (o = 0 → q + j < size) := by
  rw [next_offset hb (by omega) ho]
  unfold wrap at ho hq
  unfold wrap down
  constructor
  · split_ifs at * <;> omega
  · intro hzero
    split_ifs at * <;> omega

/-- **One row moves.** -/
theorem Mid.push {k : Nat} (hc : Mid r w b k h x c) (hk : k < r) :
    Mid r w b (k + 1) h x (push (r * w) (w - 1) c k (x k)) where
  base := hc.base
  moved i hi hr := by
    rcases Nat.lt_succ_iff_lt_or_eq.mp hi with hlt | rfl
    · rw [push_offset_ne _ (Nat.ne_of_lt hlt)]
      exact hc.moved i hlt hr
    · rw [push_offset_self]
      exact next_offset hc.base (by have := @row_fits r w i hr; have := width_pos hc.base; omega)
        (hc.waiting i (Nat.le_refl i) hr)
  movedWindow i hi hr j hj := by
    have hpos := width_pos hc.base
    rcases Nat.lt_succ_iff_lt_or_eq.mp hi with hlt | rfl
    · obtain ⟨hnew, hmirror⟩ := moved_apart hc.base (rows_apart hlt) (row_fits hk) hj
        (hc.waiting k (Nat.le_refl k) hk)
      have hcell := hc.movedWindow i hlt hr j hj
      rw [push_offset_ne _ (Nat.ne_of_lt hlt)]
      rw [hc.moved i hlt hr] at hcell ⊢
      rw [push_cells_of_ne _ hnew fun hzero => .inl (hmirror hzero)]
      exact hcell
    · exact push_window (x i) (Nat.zero_lt_of_lt hc.base)
        (fun j hj => hc.window i (Nat.le_refl i) hr j (by omega)) j (by omega)
  waiting i hi hr := by
    rw [push_offset_ne _ (by omega)]
    exact hc.waiting i (by omega) hr
  window i hi hr j hj := by
    obtain ⟨hnew, hmirror⟩ := waiting_apart hc.base (rows_apart hi) (row_fits hr) hj
      (hc.waiting k (Nat.le_refl k) hk) (hc.waiting i (by omega) hr)
    rw [push_offset_ne _ (by omega), push_cells_of_ne _ hnew fun hzero => .inl (hmirror hzero)]
    exact hc.window i (by omega) hr j hj

theorem Mid.pushAll (hc : Mid r w b 0 h x c) {k : Nat} (hk : k ≤ r) :
    Mid r w b k h x (pushAll (r * w) (w - 1) k x c) := by
  induction k with
  | zero => exact hc
  | succ k ih =>
    unfold WindowRing.pushAll
    rw [List.range_succ, List.foldl_append]
    exact (ih (by omega)).push (by omega)

/-- **A round**: every window has the new value in front. -/
theorem Windows.pushAll (hc : Windows r w b h c) (x : Nat → α) :
    Windows r w (down (r * w) b) (fun i => cons (x i) (h i)) (pushAll (r * w) (w - 1) r x c) ∧
      ∀ i, i < r → ∀ j, j < w →
        (WindowRing.pushAll (r * w) (w - 1) r x c).cells
          ((WindowRing.pushAll (r * w) (w - 1) r x c).offset i + j) = cons (x i) (h i) j := by
  have hend := (hc.mid (x := x)).pushAll (Nat.le_refl r)
  refine ⟨⟨?_, fun i hi => .inl (hend.moved i hi hi), fun i hi j hj => ?_⟩, fun i hi j hj => ?_⟩
  · have := hc.base
    unfold down
    split <;> omega
  · exact hend.movedWindow i hi hi j (by omega)
  · exact hend.movedWindow i hi hi j hj

/-! ## What is used of the memory -/

/-- Equal in the first cells and for the first rows. -/
structure AgreeIn (cells rows : Nat) (c c' : Store α) : Prop where
  cell : ∀ k, k < cells → c.cells k = c'.cells k
  row : ∀ i, i < rows → c.offset i = c'.offset i

/-- Equal behind them. -/
structure AgreeBeyond (cells rows : Nat) (c c' : Store α) : Prop where
  cell : ∀ k, cells ≤ k → c.cells k = c'.cells k
  row : ∀ i, rows ≤ i → c.offset i = c'.offset i

variable {cells rows bound : Nat} {c' : Store α}

theorem AgreeIn.refl (c : Store α) : AgreeIn cells rows c c := ⟨fun _ _ => rfl, fun _ _ => rfl⟩

theorem AgreeBeyond.refl (c : Store α) : AgreeBeyond cells rows c c :=
  ⟨fun _ _ => rfl, fun _ _ => rfl⟩

theorem AgreeBeyond.trans {c₁ c₂ c₃ : Store α} (h : AgreeBeyond cells rows c₁ c₂)
    (h' : AgreeBeyond cells rows c₂ c₃) : AgreeBeyond cells rows c₁ c₃ where
  cell k hk := (h.cell k hk).trans (h'.cell k hk)
  row i hi := (h.row i hi).trans (h'.row i hi)

theorem push_inside (hi : i < rows) (hsize : size + mirror ≤ cells) (h : AgreeIn cells rows c c')
    (x : α) : AgreeIn cells rows (push size mirror c i x) (push size mirror c' i x) where
  cell k hk := by
    have hold : (if c.offset i = 0 ∧ size ≤ k ∧ k < size + mirror then c.cells (k - size)
          else c.cells k) =
        if c.offset i = 0 ∧ size ≤ k ∧ k < size + mirror then c'.cells (k - size)
          else c'.cells k := by
      split
      · exact h.cell _ (by omega)
      · exact h.cell k hk
    rw [push_cells, push_cells, ← h.row i hi, hold]
  row j hj := by
    by_cases hji : j = i
    · rw [hji, push_offset_self, push_offset_self, h.row i hi]
    · rw [push_offset_ne _ hji, push_offset_ne _ hji]
      exact h.row j hj

theorem push_outside (hi : i < rows) (hsize : size + mirror ≤ cells) (hpos : 0 < size)
    (hoff : c.offset i ≤ cells) (x : α) : AgreeBeyond cells rows c (push size mirror c i x) where
  cell k hk := by
    rw [push_cells, if_neg (by split <;> omega), if_neg (by omega)]
  row j hj := (push_offset_ne x (by omega)).symm

/-- The offsets stay within the ring. -/
theorem push_offset_le (hsize : size ≤ bound) (hoff : ∀ i, i < rows → c.offset i ≤ bound) (x : α)
    (j : Nat) (hj : j < rows) : (push size mirror c i x).offset j ≤ bound := by
  have hbefore := hoff j hj
  by_cases hji : j = i
  · subst hji
    rw [push_offset_self]
    split <;> omega
  · rw [push_offset_ne _ hji]
    exact hbefore

/-- **A round**: only the ring, its mirror and the rows are used, and nothing else changes. -/
theorem pushAll_inside (hsize : size + mirror ≤ cells) (hpos : 0 < size) (hbound : size ≤ bound)
    (hcells : bound ≤ cells) {k : Nat} (hk : k ≤ rows) (x : Nat → α)
    (hoff : ∀ i, i < rows → c.offset i ≤ bound) (h : AgreeIn cells rows c c') :
    AgreeIn cells rows (pushAll size mirror k x c) (pushAll size mirror k x c') ∧
      AgreeBeyond cells rows c (pushAll size mirror k x c) ∧
      (∀ i, i < rows → (pushAll size mirror k x c).offset i ≤ bound) ∧
      ∀ i, i < k → (pushAll size mirror k x c).offset i < bound := by
  induction k with
  | zero => exact ⟨h, .refl c, hoff, fun i hi => absurd hi (Nat.not_lt_zero i)⟩
  | succ k ih =>
    obtain ⟨hin, hout, hle, hlt⟩ := ih (by omega)
    have hstep (c : Store α) : pushAll size mirror (k + 1) x c =
        push size mirror (pushAll size mirror k x c) k (x k) := by
      unfold pushAll
      rw [List.range_succ, List.foldl_append]
      rfl
    rw [hstep, hstep]
    refine ⟨push_inside (by omega) hsize hin _,
      hout.trans (push_outside (by omega) hsize hpos ((hle k (by omega)).trans hcells) _),
      push_offset_le hbound hle _, fun i hi => ?_⟩
    rcases Nat.lt_succ_iff_lt_or_eq.mp hi with hlt' | rfl
    · rw [push_offset_ne _ (Nat.ne_of_lt hlt')]
      exact hlt i hlt'
    · have hbefore := hle i (by omega)
      rw [push_offset_self]
      split <;> omega

end WindowRing

end Sloane.Lib
