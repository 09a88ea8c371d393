import Mathlib.Data.List.Induction
import Mathlib.Tactic.Common

/-!
# Histories

A history is the list of the events so far, oldest first.

* `Always P` — `P` holds of every event and what came before it.
* `always_snoc`, `always_append` — it is checked event by event.
* `Always.mem_of_mem` — what comes before an event is in every history with that event.
* `lastOf`, `since` — the last event of a kind, and what came after the last event of a kind.
-/

namespace Sloane.Lib

variable {E : Type}

/-- `P` holds of every event of a history and the events before it. -/
def Always (P : List E → E → Prop) (es : List E) : Prop :=
  ∀ pre e post, es = pre ++ e :: post → P pre e

/-- What the last event that gives a value gives. -/
def lastOf {α : Type} (f : E → Option α) (es : List E) : Option α := es.reverse.findSome? f

/-- The events after the last one that meets `p`. -/
def since (p : E → Bool) (es : List E) : List E :=
  (es.reverse.takeWhile fun e => !p e).reverse

theorem always_nil (P : List E → E → Prop) : Always P [] := by
  intro pre e post h
  cases pre <;> cases h

theorem always_snoc {P : List E → E → Prop} {es : List E} {e : E} :
    Always P (es ++ [e]) ↔ Always P es ∧ P es e := by
  constructor
  · intro h
    refine ⟨?_, h es e [] rfl⟩
    intro pre e' post heq
    exact h pre e' (post ++ [e]) (by rw [heq, List.append_assoc, List.cons_append])
  · rintro ⟨h, he⟩ pre e' post heq
    rcases List.eq_nil_or_concat post with rfl | ⟨post, e'', rfl⟩
    · obtain ⟨rfl, hlast⟩ := List.append_inj' heq rfl
      obtain rfl := List.singleton_inj.mp hlast
      exact he
    · rw [List.concat_eq_append, ← List.cons_append, ← List.append_assoc] at heq
      exact h pre e' post (List.append_inj' heq rfl).1

theorem always_append {P : List E → E → Prop} {es fs : List E} :
    Always P (es ++ fs) ↔ Always P es ∧ Always (fun pre e => P (es ++ pre) e) fs := by
  induction fs using List.reverseRecOn with
  | nil => simp [always_nil]
  | append_singleton fs f ih => rw [← List.append_assoc, always_snoc, ih, always_snoc, and_assoc]

theorem Always.mono {P Q : List E → E → Prop} {es : List E} (h : Always P es)
    (hPQ : ∀ pre e, P pre e → Q pre e) : Always Q es :=
  fun pre e post heq => hPQ pre e (h pre e post heq)

/-- If `e` comes only after `a`, then a history with `e` in it has `a` in it. -/
theorem Always.mem_of_mem {P : List E → E → Prop} {es : List E} {a e : E} (h : Always P es)
    (hP : ∀ pre, P pre e → a ∈ pre) (he : e ∈ es) : a ∈ es := by
  obtain ⟨pre, post, rfl⟩ := List.append_of_mem he
  exact List.mem_append_left _ (hP pre (h pre e post rfl))

section Last

variable {α : Type} {f : E → Option α} {es : List E} {e : E}

@[simp] theorem lastOf_snoc_some {a : α} (h : f e = some a) : lastOf f (es ++ [e]) = some a := by
  simp [lastOf, h]

@[simp] theorem lastOf_snoc_none (h : f e = none) : lastOf f (es ++ [e]) = lastOf f es := by
  simp [lastOf, h]

end Last

section Since

variable {p : E → Bool} {es : List E} {e : E}

theorem since_snoc_of_pos (h : p e = true) : since p (es ++ [e]) = [] := by
  simp [since, h]

theorem since_snoc_of_neg (h : p e = false) : since p (es ++ [e]) = since p es ++ [e] := by
  simp [since, h]

end Since

end Sloane.Lib
