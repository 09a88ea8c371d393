import Sloane.Lib.Reads

/-!
# Readers of bits

A reader that goes through a buffer bit by bit, up to a limit, and yields the position behind what
it has consumed, or gives up.

* `Consumes` — the reader consumes a number of bits that does not depend on what it reads.
* `Consumes.andThen` — readers in sequence.
-/

namespace Sloane.Lib

namespace Reads

variable {α γ : Type}

/-- One reader after the other, from where the first has got to. -/
def andThen (x : Reads UInt8 (Option (α × Nat)))
    (f : α → Nat → Reads UInt8 (Option (γ × Nat))) : Reads UInt8 (Option (γ × Nat)) := do
  match ← x with
  | none => return none
  | some (a, pos) => f a pos

/-- The reader consumes `n` bits from `pos`.  It gives up only if they go beyond the limit, and if
they do, it looks behind the limit. -/
structure Consumes (limit : Nat) (m : Mem UInt8) (x : Reads UInt8 (Option (α × Nat)))
    (pos n : Nat) : Prop where
  value : x.value m = none ∨ ∃ a, x.value m = some (a, pos + n)
  fits : pos + n ≤ limit → x.value m ≠ none
  inBounds : ∀ k, pos + n ≤ 8 * k → x.InBounds k m
  beyond : ∀ k, limit = 8 * k → pos ≤ limit → limit < pos + n → ¬ x.InBounds k m

variable {limit : Nat} {m : Mem UInt8} {x : Reads UInt8 (Option (α × Nat))}
  {f : α → Nat → Reads UInt8 (Option (γ × Nat))} {pos n k : Nat}

theorem Consumes.done (limit : Nat) (m : Mem UInt8) (a : α) (pos : Nat) :
    Consumes limit m (pure (some (a, pos))) pos 0 where
  value := .inr ⟨a, rfl⟩
  fits _ := nofun
  inBounds _ _ := inBounds_pure _ _ _
  beyond _ _ hle hlt := absurd hle (Nat.not_le.mpr hlt)

/-- What fits is read. -/
theorem Consumes.value_of_fits (h : Consumes limit m x pos n) (hfits : pos + n ≤ limit) :
    ∃ a, x.value m = some (a, pos + n) := h.value.resolve_left (h.fits hfits)

theorem value_andThen_none (h : x.value m = none) :
    (x.andThen f).value m = none := by
  unfold andThen
  rw [value_bind, h]
  rfl

theorem value_andThen_some {a : α} (h : x.value m = some (a, pos)) :
    (x.andThen f).value m = (f a pos).value m := by
  unfold andThen
  rw [value_bind, h]

theorem inBounds_andThen_none (h : x.value m = none) :
    (x.andThen f).InBounds k m ↔ x.InBounds k m := by
  unfold andThen
  simp only [inBounds_bind, h, inBounds_pure, and_true]

theorem inBounds_andThen_some {a : α}
    (h : x.value m = some (a, pos)) :
    (x.andThen f).InBounds k m ↔ x.InBounds k m ∧ (f a pos).InBounds k m := by
  unfold andThen
  simp only [inBounds_bind, h]

/-- **Readers in sequence** consume what they consume together. -/
theorem Consumes.andThen (hx : Consumes limit m x pos n)
    (hf : ∀ a, Consumes limit m (f a (pos + n)) (pos + n) k) :
    Consumes limit m (x.andThen f) pos (n + k) where
  value := by
    rcases hx.value with hnone | ⟨a, hsome⟩
    · exact .inl (value_andThen_none hnone)
    · rw [value_andThen_some hsome, ← Nat.add_assoc]
      exact (hf a).value
  fits hfits := by
    obtain ⟨a, hsome⟩ := hx.value_of_fits (by omega)
    rw [value_andThen_some hsome]
    exact (hf a).fits (by omega)
  inBounds j hj := by
    have hfirst := hx.inBounds j (by omega)
    rcases hx.value with hnone | ⟨a, hsome⟩
    · exact (inBounds_andThen_none hnone).mpr hfirst
    · exact (inBounds_andThen_some hsome).mpr ⟨hfirst, (hf a).inBounds j (by omega)⟩
  beyond j hlimit hle hlt hin := by
    by_cases hfits : pos + n ≤ limit
    · obtain ⟨a, hsome⟩ := hx.value_of_fits hfits
      have hrest := ((inBounds_andThen_some hsome).mp hin).2
      exact (hf a).beyond j hlimit hfits (by omega) hrest
    · have hfirst : x.InBounds j m := by
        rcases hx.value with hnone | ⟨a, hsome⟩
        · exact (inBounds_andThen_none hnone).mp hin
        · exact ((inBounds_andThen_some hsome).mp hin).1
      exact hx.beyond j hlimit hle (by omega) hfirst

/-- The result is computed from what was read. -/
theorem Consumes.map (hx : Consumes limit m x pos n) (g : α → γ) :
    Consumes limit m (x.andThen fun a pos => pure (some (g a, pos))) pos n :=
  hx.andThen (f := fun a pos => pure (some (g a, pos))) (k := 0) fun a => .done limit m (g a) _

end Reads

end Sloane.Lib
