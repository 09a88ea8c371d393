import Mathlib.Algebra.Order.Ring.Nat
import Mathlib.Data.List.Basic
import Mathlib.Data.List.Induction
import Mathlib.Tactic.Ring
import Sloane.Lib.Mem

/-!
# Numbers packed into bytes

Numbers are written with a given number of bits each, the highest first, one after the other.  The
writer keeps up to 15 bits in a cache of 32 bits, above which older bits may still stand.

* `Writer.puts_bits` — numbers are appended to the bits so far.
* `Writer.flush_bits` — in the end the bits are in the bytes, filled up with zeros.
* `bitsAt_byteBits` — the bits of a memory are those of its bytes.
* `bitsAt_flatMap` — pieces of equal length are found at multiples of it.
-/

namespace Sloane.Lib

namespace BitPack

/-- The low `n` bits of a number, the highest first. -/
def bitsOf : Nat → Nat → List Bool
  | 0, _ => []
  | n + 1, v => bitsOf n (v / 2) ++ [v % 2 == 1]

/-- The number with these bits. -/
def valueOf (bits : List Bool) : Nat := bits.foldl (fun v b => 2 * v + b.toNat) 0

def byteBits (bytes : List UInt8) : List Bool := bytes.flatMap fun b => bitsOf 8 b.toNat

@[simp] theorem length_bitsOf (n v : Nat) : (bitsOf n v).length = n := by
  induction n generalizing v with
  | zero => rfl
  | succ n ih => simp [bitsOf, ih]

theorem valueOf_append_singleton (bits : List Bool) (b : Bool) :
    valueOf (bits ++ [b]) = 2 * valueOf bits + b.toNat := by
  simp [valueOf]

theorem toNat_mod_two (v : Nat) : (v % 2 == 1).toNat = v % 2 := by
  rcases Nat.mod_two_eq_zero_or_one v with h | h
  · rw [h]
    rfl
  · rw [h]
    rfl

@[simp] theorem valueOf_bitsOf (n v : Nat) : valueOf (bitsOf n v) = v % 2 ^ n := by
  induction n generalizing v with
  | zero => simp [bitsOf, valueOf, Nat.mod_one]
  | succ n ih =>
    rw [bitsOf, valueOf_append_singleton, ih, toNat_mod_two, Nat.pow_succ', Nat.mod_mul]
    omega

theorem valueOf_cons (b : Bool) (bits : List Bool) :
    valueOf (b :: bits) = b.toNat * 2 ^ bits.length + valueOf bits := by
  induction bits using List.reverseRecOn with
  | nil => simp [valueOf]
  | append_singleton bits last ih =>
    rw [← List.cons_append, valueOf_append_singleton, valueOf_append_singleton, ih,
      List.length_append, List.length_singleton, Nat.pow_succ]
    ring

theorem getElem_bitsOf {n v i : Nat} (hi : i < (bitsOf n v).length) :
    (bitsOf n v)[i] = v.testBit (n - 1 - i) := by
  induction n generalizing v i with
  | zero => exact absurd hi (Nat.not_lt_zero i)
  | succ n ih =>
    rw [length_bitsOf] at hi
    by_cases hlast : i < n
    · have hshift : n + 1 - 1 - i = (n - 1 - i) + 1 := by omega
      simp only [bitsOf]
      rw [List.getElem_append_left (by rw [length_bitsOf]; exact hlast),
        ih (by rw [length_bitsOf]; exact hlast), hshift, Nat.testBit_succ]
    · obtain rfl : i = n := by omega
      simp only [bitsOf]
      rw [List.getElem_append_right (by rw [length_bitsOf])]
      simp [Nat.testBit_zero]
      rfl

/-- The first of the bits, and the others. -/
theorem bitsOf_add (n k v : Nat) : bitsOf (n + k) v = bitsOf n (v / 2 ^ k) ++ bitsOf k v := by
  induction k generalizing v with
  | zero => simp [bitsOf]
  | succ k ih =>
    rw [← Nat.add_assoc, bitsOf, ih, bitsOf, Nat.div_div_eq_div_mul, ← Nat.pow_succ',
      List.append_assoc]

/-- Higher bits do not matter. -/
theorem bitsOf_mod {n k : Nat} (h : n ≤ k) (v : Nat) : bitsOf n (v % 2 ^ k) = bitsOf n v := by
  induction n generalizing v k with
  | zero => rfl
  | succ n ih =>
    obtain ⟨m, rfl⟩ := Nat.exists_eq_succ_of_ne_zero (show k ≠ 0 by omega)
    have hhalf : v % 2 ^ (m + 1) / 2 = v / 2 % 2 ^ m := by
      rw [Nat.pow_succ', Nat.mod_mul_right_div_self]
    have hlow : v % 2 ^ (m + 1) % 2 = v % 2 := by
      rw [Nat.pow_succ', Nat.mod_mul_right_mod]
    rw [bitsOf, bitsOf, Nat.succ_eq_add_one, hhalf, hlow, ih (by omega)]

theorem byteBits_append (a b : List UInt8) : byteBits (a ++ b) = byteBits a ++ byteBits b :=
  List.flatMap_append ..

/-- A byte that a number is cut down to. -/
theorem byteBits_ofNat (v : Nat) : byteBits [.ofNat v] = bitsOf 8 v := by
  have hmod : (UInt8.ofNat v).toNat = v % 2 ^ 8 := UInt8.toNat_ofNat'
  show bitsOf 8 (UInt8.ofNat v).toNat ++ [] = _
  rw [hmod, List.append_nil, bitsOf_mod (Nat.le_refl 8)]

@[simp] theorem length_byteBits (bytes : List UInt8) :
    (byteBits bytes).length = 8 * bytes.length := by
  induction bytes with
  | nil => rfl
  | cons b bytes ih =>
    rw [← List.singleton_append, byteBits_append, List.length_append, ih]
    simp [byteBits]
    omega

/-! ## The writer -/

/-- The bytes so far and the cache, of which the low `count` bits are still to be written. -/
structure Writer where
  out : List UInt8
  cache : Nat
  count : Nat

def Writer.empty : Writer := ⟨[], 0, 0⟩

/-- The low `n` bits of a number; two bytes are written as soon as there are 16 bits. -/
def Writer.put (w : Writer) (v n : Nat) : Writer :=
  let cache := v ||| (w.cache <<< n) % 2 ^ 32
  let count := w.count + n
  if 16 ≤ count then
    ⟨w.out ++ [.ofNat (cache >>> (count - 8)), .ofNat (cache >>> (count - 8 - 8))], cache,
      count - 8 - 8⟩
  else ⟨w.out, cache, count⟩

/-- The whole bytes in the cache, then what is left in the high bits of a last byte. -/
def Writer.flush (w : Writer) : List UInt8 :=
  w.out ++ (List.range (w.count / 8)).map (fun k => .ofNat (w.cache >>> (w.count - 8 * (k + 1)))) ++
    if 0 < w.count % 8 then [.ofNat (w.cache <<< (8 - w.count % 8))] else []

/-- What has been written, the cache included. -/
def Writer.bits (w : Writer) : List Bool := byteBits w.out ++ bitsOf w.count w.cache

@[simp] theorem Writer.bits_empty : Writer.empty.bits = [] := rfl

/-- The cache after a number. -/
theorem cache_eq {n v : Nat} (hn : n ≤ 32) (hv : v < 2 ^ n) (cache : Nat) :
    v ||| (cache <<< n) % 2 ^ 32 = 2 ^ n * (cache % 2 ^ (32 - n)) + v := by
  have hshift : (cache <<< n) % 2 ^ 32 = (cache % 2 ^ (32 - n)) <<< n := by
    rw [Nat.shiftLeft_eq, Nat.shiftLeft_eq, show (2 : Nat) ^ 32 = 2 ^ (32 - n) * 2 ^ n by
      rw [← Nat.pow_add, Nat.sub_add_cancel hn], Nat.mul_mod_mul_right]
  rw [hshift, Nat.or_comm, ← Nat.shiftLeft_add_eq_or_of_lt hv, Nat.shiftLeft_eq, Nat.mul_comm]

theorem bitsOf_cache {n v count : Nat} (hn : n ≤ 16) (hv : v < 2 ^ n) (hcount : count < 16)
    (cache : Nat) : bitsOf (count + n) (v ||| (cache <<< n) % 2 ^ 32) =
      bitsOf count cache ++ bitsOf n v := by
  have hdiv : (2 ^ n * (cache % 2 ^ (32 - n)) + v) / 2 ^ n = cache % 2 ^ (32 - n) := by
    rw [Nat.mul_add_div (Nat.two_pow_pos n), Nat.div_eq_of_lt hv, Nat.add_zero]
  have hmod : bitsOf n (2 ^ n * (cache % 2 ^ (32 - n)) + v) = bitsOf n v := by
    rw [← bitsOf_mod (Nat.le_refl n), Nat.mul_add_mod, Nat.mod_eq_of_lt hv]
  rw [cache_eq (by omega) hv, bitsOf_add, hdiv, hmod, bitsOf_mod (by omega)]

/-- **A number is appended.** -/
theorem Writer.put_bits {w : Writer} (hw : w.count < 16) {v n : Nat} (hn : n ≤ 16)
    (hv : v < 2 ^ n) : (w.put v n).bits = w.bits ++ bitsOf n v ∧ (w.put v n).count < 16 := by
  have hcache := bitsOf_cache hn hv hw w.cache
  unfold Writer.put
  generalize v ||| (w.cache <<< n) % 2 ^ 32 = cache at hcache ⊢
  dsimp only
  split
  · rename_i hfull
    refine ⟨?_, by dsimp only; omega⟩
    -- the sixteen bits that are written, and those that stay
    have hsplit : bitsOf (w.count + n) cache =
        bitsOf 8 (cache >>> (w.count + n - 8)) ++ (bitsOf 8 (cache >>> (w.count + n - 8 - 8)) ++
          bitsOf (w.count + n - 8 - 8) cache) := by
      rw [Nat.shiftRight_eq_div_pow, Nat.shiftRight_eq_div_pow, ← bitsOf_add 8,
        show 8 + (w.count + n - 8 - 8) = w.count + n - 8 by omega, ← bitsOf_add 8,
        show 8 + (w.count + n - 8) = w.count + n by omega]
    show byteBits (w.out ++ [_, _]) ++ _ = _
    rw [← List.singleton_append, byteBits_append, byteBits_append, byteBits_ofNat, byteBits_ofNat]
    rw [Writer.bits, List.append_assoc, List.append_assoc, List.append_assoc, ← hcache, hsplit]
  · rename_i hroom
    refine ⟨?_, Nat.not_le.mp hroom⟩
    show byteBits w.out ++ _ = _
    rw [hcache, Writer.bits, List.append_assoc]

/-- Numbers, each with its number of bits in front. -/
def Writer.puts (w : Writer) (fields : List (Nat × Nat)) : Writer :=
  fields.foldl (fun w field => w.put field.2 field.1) w

/-- The bits of numbers. -/
def fieldBits (fields : List (Nat × Nat)) : List Bool :=
  fields.flatMap fun field => bitsOf field.1 field.2

theorem fieldBits_append (a b : List (Nat × Nat)) :
    fieldBits (a ++ b) = fieldBits a ++ fieldBits b := List.flatMap_append ..

theorem length_fieldBits (fields : List (Nat × Nat)) :
    (fieldBits fields).length = (fields.map Prod.fst).sum := by
  induction fields with
  | nil => rfl
  | cons field fields ih =>
    rw [← List.singleton_append, fieldBits_append, List.length_append, ih, List.map_append,
      List.sum_append]
    simp [fieldBits]

/-- **Numbers are appended.** -/
theorem Writer.puts_bits {w : Writer} (hw : w.count < 16) {fields : List (Nat × Nat)}
    (hfields : ∀ field ∈ fields, field.1 ≤ 16 ∧ field.2 < 2 ^ field.1) :
    (w.puts fields).bits = w.bits ++ fieldBits fields ∧ (w.puts fields).count < 16 := by
  induction fields generalizing w with
  | nil => exact ⟨(List.append_nil _).symm, hw⟩
  | cons field fields ih =>
    obtain ⟨⟨hn, hv⟩, hrest⟩ := List.forall_mem_cons.mp hfields
    obtain ⟨hbits, hcount⟩ := Writer.put_bits hw hn hv
    obtain ⟨hall, hlast⟩ := ih hcount hrest
    refine ⟨?_, hlast⟩
    rw [← List.singleton_append, fieldBits_append, ← List.append_assoc]
    have hone : fieldBits [field] = bitsOf field.1 field.2 := List.append_nil _
    rw [hone, ← hbits]
    exact hall

theorem bitsOf_zero (n : Nat) : bitsOf n 0 = List.replicate n false := by
  induction n with
  | zero => rfl
  | succ n ih =>
    rw [bitsOf, Nat.zero_div, ih, List.replicate_succ']
    rfl

/-- The whole bytes in the cache. -/
theorem byteBits_whole (cache count : Nat) {q : Nat} (hq : 8 * q ≤ count) :
    byteBits ((List.range q).map fun k => .ofNat (cache >>> (count - 8 * (k + 1)))) =
      bitsOf (8 * q) (cache / 2 ^ (count - 8 * q)) := by
  induction q with
  | zero => rfl
  | succ q ih =>
    have hpow : (2 : Nat) ^ (count - 8 * q) = 2 ^ (count - 8 * (q + 1)) * 2 ^ 8 := by
      rw [← Nat.pow_add]
      congr 1
      omega
    rw [List.range_succ, List.map_append, byteBits_append, ih (by omega), List.map_singleton,
      byteBits_ofNat, Nat.mul_succ, bitsOf_add, Nat.div_div_eq_div_mul, ← Nat.mul_succ, ← hpow,
      Nat.shiftRight_eq_div_pow]

/-- **In the end** the bits are followed by zeros up to the next byte. -/
theorem Writer.flush_bits (w : Writer) : byteBits w.flush =
    w.bits ++ List.replicate ((8 - w.count % 8) % 8) false := by
  have hwhole := byteBits_whole w.cache w.count (show 8 * (w.count / 8) ≤ w.count by omega)
  have hcount : 8 * (w.count / 8) + w.count % 8 = w.count := Nat.div_add_mod w.count 8
  have hbits : bitsOf w.count w.cache =
      bitsOf (8 * (w.count / 8)) (w.cache / 2 ^ (w.count % 8)) ++ bitsOf (w.count % 8) w.cache := by
    rw [← bitsOf_add, hcount]
  have hrest : w.count - 8 * (w.count / 8) = w.count % 8 := by omega
  rw [hrest] at hwhole
  unfold Writer.flush
  rw [byteBits_append, byteBits_append, hwhole, Writer.bits, hbits]
  by_cases hlast : 0 < w.count % 8
  · have hpad : bitsOf 8 (w.cache <<< (8 - w.count % 8)) =
        bitsOf (w.count % 8) w.cache ++ List.replicate (8 - w.count % 8) false := by
      have hadd := bitsOf_add (w.count % 8) (8 - w.count % 8) (w.cache <<< (8 - w.count % 8))
      rw [show w.count % 8 + (8 - w.count % 8) = 8 by omega, Nat.shiftLeft_eq,
        Nat.mul_div_cancel _ (Nat.two_pow_pos _)] at hadd
      rw [Nat.shiftLeft_eq, hadd, ← bitsOf_mod (Nat.le_refl _) (w.cache * _), Nat.mul_mod_left,
        bitsOf_zero]
    rw [if_pos hlast, byteBits_ofNat, hpad, show (8 - w.count % 8) % 8 = 8 - w.count % 8 by omega]
    simp only [List.append_assoc]
  · rw [if_neg hlast, show w.count % 8 = 0 by omega]
    simp [byteBits, bitsOf]

/-! ## Reading -/

/-- The bit at a position, counted from the highest of the first byte. -/
def bitAt (m : Mem UInt8) (p : Nat) : Bool := (m (p / 8)).toNat / 2 ^ (7 - p % 8) % 2 == 1

def bitsAt (m : Mem UInt8) (p n : Nat) : List Bool := (List.range n).map fun i => bitAt m (p + i)

@[simp] theorem length_bitsAt (m : Mem UInt8) (p n : Nat) : (bitsAt m p n).length = n := by
  simp [bitsAt]

theorem bitsAt_add (m : Mem UInt8) (p a b : Nat) :
    bitsAt m p (a + b) = bitsAt m p a ++ bitsAt m (p + a) b := by
  simp [bitsAt, List.range_add, Nat.add_assoc]

theorem bitsAt_succ (m : Mem UInt8) (p n : Nat) :
    bitsAt m p (n + 1) = bitAt m p :: bitsAt m (p + 1) n := by
  rw [Nat.add_comm, bitsAt_add]
  rfl

/-- The bits of one byte. -/
theorem bitsAt_byte (m : Mem UInt8) (i : Nat) : bitsAt m (8 * i) 8 = bitsOf 8 (m i).toNat := by
  have hbit (k : Nat) (hk : k < 8) :
      bitAt m (8 * i + k) = ((m i).toNat / 2 ^ (7 - k) % 2 == 1) := by
    rw [bitAt, show (8 * i + k) / 8 = i by omega, show (8 * i + k) % 8 = k by omega]
  have hall : bitsAt m (8 * i) 8 =
      (List.range 8).map fun k => ((m i).toNat / 2 ^ (7 - k) % 2 == 1) :=
    List.map_congr_left fun k hk => hbit k (List.mem_range.mp hk)
  rw [hall]
  simp [bitsOf, List.range_succ, Nat.div_div_eq_div_mul]

/-- **The bits of a memory** are those of its bytes. -/
theorem bitsAt_byteBits (m : Mem UInt8) (i n : Nat) :
    bitsAt m (8 * i) (8 * n) = byteBits (m.read i n) := by
  induction n generalizing i with
  | zero => rfl
  | succ n ih =>
    rw [Nat.mul_succ, Nat.add_comm (8 * n), bitsAt_add, ← Nat.mul_succ, ih, bitsAt_byte,
      Nat.add_comm n, Mem.read_add, byteBits_append]
    rfl

/-- Of what is known, the first bits. -/
theorem bitsAt_of_append {m : Mem UInt8} {p n : Nat} {a b : List Bool}
    (h : bitsAt m p n = a ++ b) (hn : n = a.length + b.length) :
    bitsAt m p a.length = a ∧ bitsAt m (p + a.length) b.length = b := by
  rw [hn, bitsAt_add] at h
  exact List.append_inj h (length_bitsAt ..)

/-- **Pieces of equal length** are found one behind the other. -/
theorem bitsAt_flatMap {m : Mem UInt8} {p w n : Nat} {g : Nat → List Bool}
    (hlen : ∀ k, k < n → (g k).length = w)
    (h : bitsAt m p (w * n) = (List.range n).flatMap g) {k : Nat} (hk : k < n) :
    bitsAt m (p + w * k) w = g k := by
  induction n with
  | zero => exact absurd hk (Nat.not_lt_zero k)
  | succ n ih =>
    have hlast := hlen n (Nat.lt_succ_self n)
    have hfirst : ((List.range n).flatMap g).length = w * n := by
      have hconst : (List.range n).map (fun k => (g k).length) = (List.range n).map fun _ => w :=
        List.map_congr_left fun k hk => hlen k (by have := List.mem_range.mp hk; omega)
      rw [List.length_flatMap, hconst]
      simp [Nat.mul_comm]
    rw [Nat.mul_succ, bitsAt_add, List.range_succ, List.flatMap_append] at h
    obtain ⟨hbefore, hpiece⟩ := List.append_inj h (by rw [length_bitsAt, hfirst])
    rcases Nat.lt_succ_iff_lt_or_eq.mp hk with hlt | rfl
    · exact ih (fun k hk => hlen k (by omega)) hbefore hlt
    · rw [hpiece]
      exact List.append_nil _

end BitPack

end Sloane.Lib
