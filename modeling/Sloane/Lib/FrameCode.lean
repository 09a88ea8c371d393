import Mathlib.Tactic.Common

/-!
# Codes whose words tell where they end

A word is parsed from the front of a stream, and what follows it does not matter.

* `parseAll_iff` — a stream is parsed to values exactly if it is their words in a row.
* `encodeAll_injective` — so a stream is the words of at most one list of values.
-/

namespace Sloane.Lib

/-- Words for values, and a parser that takes one word off the front. -/
structure FrameCode (α β : Type) where
  encode : α → List β
  parse : List β → Option (α × List β)
  parse_iff : ∀ bs a rest, parse bs = some (a, rest) ↔ bs = encode a ++ rest
  encode_ne_nil : ∀ a, encode a ≠ []

namespace FrameCode

variable {α β : Type} (C : FrameCode α β)

def encodeAll (as : List α) : List β := (as.map C.encode).flatten

@[simp] theorem encodeAll_nil : C.encodeAll [] = [] := rfl

@[simp] theorem encodeAll_cons (a : α) (as : List α) :
    C.encodeAll (a :: as) = C.encode a ++ C.encodeAll as := rfl

@[simp] theorem encodeAll_append (as bs : List α) :
    C.encodeAll (as ++ bs) = C.encodeAll as ++ C.encodeAll bs := by
  simp [encodeAll]

theorem encodeAll_eq_nil {as : List α} : C.encodeAll as = [] ↔ as = [] := by
  cases as with
  | nil => simp
  | cons a as => simp [C.encode_ne_nil a]

/-- At most some words. -/
def parseUpTo : Nat → List β → Option (List α)
  | _, [] => some []
  | 0, _ :: _ => none
  | fuel + 1, b :: bs =>
      match C.parse (b :: bs) with
      | none => none
      | some (a, rest) => (parseUpTo fuel rest).map (a :: ·)

/-- The whole stream: no word is empty. -/
def parseAll (bs : List β) : Option (List α) := C.parseUpTo bs.length bs

theorem parseUpTo_nil (fuel : Nat) : C.parseUpTo fuel [] = some [] := by
  cases fuel <;> rfl

theorem parseUpTo_nil_iff (fuel : Nat) (as : List α) :
    C.parseUpTo fuel [] = some as ↔ [] = C.encodeAll as := by
  rw [parseUpTo_nil, Option.some.injEq]
  constructor
  · rintro rfl
    rfl
  · intro h
    exact (C.encodeAll_eq_nil.mp h.symm).symm

theorem parseUpTo_iff {fuel : Nat} {bs : List β} (h : bs.length ≤ fuel) (as : List α) :
    C.parseUpTo fuel bs = some as ↔ bs = C.encodeAll as := by
  induction fuel generalizing bs as with
  | zero =>
    obtain rfl := List.eq_nil_of_length_eq_zero (Nat.le_zero.mp h)
    exact C.parseUpTo_nil_iff 0 as
  | succ fuel ih =>
    cases bs with
    | nil => exact C.parseUpTo_nil_iff _ as
    | cons b bs =>
      -- behind a word there is less left
      have hrest : ∀ {a rest}, b :: bs = C.encode a ++ rest → rest.length ≤ fuel := by
        intro a rest heq
        have hlen := congrArg List.length heq
        have hpos := List.length_pos_iff.mpr (C.encode_ne_nil a)
        rw [List.length_append] at hlen
        omega
      unfold parseUpTo
      constructor
      · intro hsome
        split at hsome
        · cases hsome
        · rename_i a rest hparse
          obtain ⟨as', has', rfl⟩ := Option.map_eq_some_iff.mp hsome
          have heq := (C.parse_iff _ _ _).mp hparse
          rw [heq, encodeAll_cons, ← (ih (hrest heq) as').mp has']
      · intro heq
        cases as with
        | nil => cases heq
        | cons a as =>
          rw [encodeAll_cons] at heq
          rw [(C.parse_iff _ _ _).mpr heq]
          simp [(ih (hrest heq) as).mpr rfl]

/-- **Parsing a stream.** -/
theorem parseAll_iff (bs : List β) (as : List α) : C.parseAll bs = some as ↔ bs = C.encodeAll as :=
  C.parseUpTo_iff (Nat.le_refl _) as

theorem encodeAll_injective {as bs : List α} (h : C.encodeAll as = C.encodeAll bs) : as = bs := by
  have has : C.parseAll (C.encodeAll as) = some as := (C.parseAll_iff _ _).mpr rfl
  have hbs : C.parseAll (C.encodeAll as) = some bs := (C.parseAll_iff _ _).mpr h
  exact Option.some.inj (has.symm.trans hbs)

end FrameCode

end Sloane.Lib
