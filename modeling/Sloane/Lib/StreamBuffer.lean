import Sloane.Lib.Mem

/-!
# A linear buffer that is reset when it drains

Bytes are written at `tail` and taken from `head`; when the head reaches the tail both go back to
0.  A buffer started with its head beyond its tail passes over that many bytes first.

`Tracks trim base written sent b` relates the buffer to the whole history: what has been written
since it was cleared, and what has been taken.

* `Tracks.push`, `Tracks.pop` — the two operations keep the relation.
* `Tracks.sent_prefix` — what was taken is a prefix of what was written, less the first bytes.
* `Tracks.drained` — and all of it when both indices are 0.
-/

namespace Sloane.Lib

structure StreamBuffer (α : Type) where
  mem : Mem α
  head : Nat
  tail : Nat

namespace StreamBuffer

variable {α : Type}

/-- Forget the contents and pass over `trim` elements. -/
def clear (b : StreamBuffer α) (trim : Nat) : StreamBuffer α := { b with head := trim, tail := 0 }

def push (b : StreamBuffer α) (bs : List α) : StreamBuffer α :=
  { b with mem := b.mem.write b.tail bs, tail := b.tail + bs.length }

/-- The next `n` elements. -/
def peek (b : StreamBuffer α) (n : Nat) : List α := b.mem.read b.head n

def pop (b : StreamBuffer α) (n : Nat) : StreamBuffer α :=
  if b.tail ≤ b.head + n then { b with head := 0, tail := 0 } else { b with head := b.head + n }

/-- The buffer holds what was written from position `base` on, and its head stands behind the
elements passed over and those taken. -/
structure Tracks (trim base : Nat) (written sent : List α) (b : StreamBuffer α) : Prop where
  mem_eq : b.mem.read 0 b.tail = written.drop base
  written_length : written.length = base + b.tail
  head_eq : base + b.head = trim + sent.length
  sent_eq : sent = (written.drop trim).take sent.length

namespace Tracks

variable {trim base : Nat} {written sent : List α} {b : StreamBuffer α}

theorem start (b : StreamBuffer α) (trim : Nat) : Tracks trim 0 [] [] (b.clear trim) where
  mem_eq := rfl
  written_length := rfl
  head_eq := by simp [clear]
  sent_eq := by simp

theorem sent_prefix (h : Tracks trim base written sent b) : sent <+: written.drop trim := by
  rw [h.sent_eq]
  exact List.take_prefix _ _

theorem drained (h : Tracks trim base written sent b) (hhead : b.head = 0) (htail : b.tail = 0) :
    sent = written.drop trim := by
  have hlen := h.written_length
  have hpos := h.head_eq
  rw [h.sent_eq, List.take_of_length_le]
  rw [List.length_drop]
  omega

theorem push (h : Tracks trim base written sent b) (bs : List α) :
    Tracks trim base (written ++ bs) sent (b.push bs) where
  mem_eq := by
    have hlen := h.written_length
    have happ := Mem.read_write_append (a := 0) (n := b.tail) b.mem bs
    rw [Nat.zero_add] at happ
    rw [StreamBuffer.push, happ, h.mem_eq, List.drop_append_of_le_length (by omega)]
  written_length := by
    have hlen := h.written_length
    simp only [StreamBuffer.push, List.length_append]
    omega
  head_eq := h.head_eq
  sent_eq := by
    have hle := h.sent_prefix.length_le
    by_cases ht : trim ≤ written.length
    · rw [List.drop_append_of_le_length ht, List.take_append_of_le_length hle]
      exact h.sent_eq
    · -- nothing can have been taken while elements are still passed over
      rw [List.drop_of_length_le (by omega), List.length_nil] at hle
      obtain rfl := List.length_eq_zero_iff.mp (Nat.le_zero.mp hle)
      rfl

/-- What is at the head continues what was taken. -/
theorem peek_eq (h : Tracks trim base written sent b) {n : Nat} (hn : b.head + n ≤ b.tail) :
    b.peek n = (written.drop (trim + sent.length)).take n := by
  have hread : b.mem.read b.head n = ((b.mem.read 0 b.tail).drop b.head).take n := by
    rw [Mem.read_drop _ _ (by omega), Mem.read_take _ _ (by omega), Nat.zero_add]
  rw [peek, hread, h.mem_eq, List.drop_drop, h.head_eq]

/-- The place in the history from which the buffer holds the elements, after taking `n`. -/
def popBase (base : Nat) (b : StreamBuffer α) (n : Nat) : Nat :=
  if b.tail ≤ b.head + n then base + b.tail else base

theorem pop (h : Tracks trim base written sent b) {n : Nat} (hn : b.head + n ≤ b.tail) :
    Tracks trim (popBase base b n) written (sent ++ b.peek n) (b.pop n) := by
  have hlen := h.written_length
  have hpos := h.head_eq
  have hpeek : (b.peek n).length = n := by simp [peek]
  have hsent : sent ++ b.peek n =
      (written.drop trim).take (sent ++ b.peek n).length := by
    rw [List.length_append, hpeek, List.take_add, ← h.sent_eq, h.peek_eq hn, List.drop_drop]
  unfold StreamBuffer.pop popBase
  split
  · refine ⟨by simp [hlen], hlen, ?_, hsent⟩
    show base + b.tail + 0 = _
    rw [List.length_append, hpeek]
    omega
  · refine ⟨h.mem_eq, hlen, ?_, hsent⟩
    show base + (b.head + n) = _
    rw [List.length_append, hpeek]
    omega

end Tracks

end StreamBuffer

end Sloane.Lib
