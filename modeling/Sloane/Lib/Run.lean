import Mathlib.Data.List.Induction
import Mathlib.Tactic.Common

/-!
# Labelled transition systems, their reachable states and their runs

A `System` is given by its initial states and a step relation labelled by actions.  A run is
recorded as the list of its transitions, oldest first, so that a property of a history can be
stated over the list and proved by induction on the last step.

* `Reachable.invariant` — an invariant that starts and is preserved holds of every reachable
  state; the step may use that its source is reachable.
* `Run.transition` — every transition of a run leaves a reachable state.
* `System.restrict` — the same system with only the steps that meet a condition.
* `Run.preserved` — what holds after a transition is kept as long as the steps keep it.
* `Run.simulates` — where every step is a step of another system or none at all there, a run is a
  run of the other system.
* `run_of_execute` — for a system given by a step function, executing actions gives a run.
* `Run.all_iff_all` — if step by step a property of the transition is equivalent to a condition
  on its source, and the condition keeps the invariant under which this is so, then a run has
  the property everywhere iff it meets the condition everywhere.
-/

namespace Sloane.Lib

variable {σ α : Type}

/-- A labelled transition system. -/
structure System (σ α : Type) where
  init : σ → Prop
  step : σ → α → σ → Prop

/-- One transition of a run. -/
structure Transition (σ α : Type) where
  pre : σ
  act : α
  post : σ

/-- A transition as one of another system, if it is one there. -/
def Transition.seenAs {τ β : Type} (f : σ → τ) (g : Transition σ α → Option β)
    (x : Transition σ α) : Option (Transition τ β) :=
  (g x).map fun b => ⟨f x.pre, b, f x.post⟩

namespace System

inductive Reachable (M : System σ α) : σ → Prop
  | start {s} : M.init s → Reachable M s
  | step {s a t} : Reachable M s → M.step s a t → Reachable M t

/-- `M.Run tr s`: the transitions `tr`, in order, lead from an initial state to `s`. -/
inductive Run (M : System σ α) : List (Transition σ α) → σ → Prop
  | start {s} : M.init s → Run M [] s
  | step {tr s a t} : Run M tr s → M.step s a t → Run M (tr ++ [⟨s, a, t⟩]) t

/-- The system with only the steps that meet `C`. -/
def restrict (M : System σ α) (C : σ → α → Prop) : System σ α :=
  ⟨M.init, fun s a t => M.step s a t ∧ C s a⟩

variable {M : System σ α}

theorem Reachable.invariant {Inv : σ → Prop} (h0 : ∀ s, M.init s → Inv s)
    (hstep : ∀ s a t, M.Reachable s → Inv s → M.step s a t → Inv t) {s : σ}
    (h : M.Reachable s) : Inv s := by
  induction h with
  | start hi => exact h0 _ hi
  | step hr hs ih => exact hstep _ _ _ hr ih hs

theorem Run.reachable {tr : List (Transition σ α)} {s : σ} (h : M.Run tr s) : M.Reachable s := by
  induction h with
  | start hi => exact .start hi
  | step _ hs ih => exact .step ih hs

theorem Reachable.exists_run {s : σ} (h : M.Reachable s) : ∃ tr, M.Run tr s := by
  induction h with
  | start hi => exact ⟨[], .start hi⟩
  | step _ hs ih =>
    obtain ⟨tr, hr⟩ := ih
    exact ⟨_, hr.step hs⟩

theorem Reachable.of_restrict {C : σ → α → Prop} {s : σ} (h : (M.restrict C).Reachable s) :
    M.Reachable s := by
  induction h with
  | start hi => exact .start hi
  | step _ hs ih => exact .step ih hs.1

/-- Every transition of a run is a step from a reachable state. -/
theorem Run.transition {tr : List (Transition σ α)} {s : σ} (h : M.Run tr s) :
    ∀ x ∈ tr, M.Reachable x.pre ∧ M.step x.pre x.act x.post := by
  induction h with
  | start _ => intro x hx; cases hx
  | step hr hs ih =>
    intro x hx
    rcases List.mem_append.mp hx with hx | hx
    · exact ih x hx
    · rw [List.mem_singleton] at hx
      subst hx
      exact ⟨hr.reachable, hs⟩

/-- A run whose steps all meet a condition is a run of the restricted system. -/
theorem Run.restrict {C : σ → α → Prop} {tr : List (Transition σ α)} {s : σ} (h : M.Run tr s)
    (hC : ∀ x ∈ tr, C x.pre x.act) : (M.restrict C).Run tr s := by
  induction h with
  | start hi => exact .start hi
  | step _ hs ih =>
    rw [List.forall_mem_append] at hC
    exact (ih hC.1).step ⟨hs, hC.2 _ (List.mem_singleton.mpr rfl)⟩

theorem run_snoc {tr : List (Transition σ α)} {x : Transition σ α} {s : σ} :
    M.Run (tr ++ [x]) s ↔ M.Run tr x.pre ∧ M.step x.pre x.act x.post ∧ s = x.post := by
  constructor
  · intro h
    generalize htr : tr ++ [x] = tr' at h
    cases h with
    | start _ => exact absurd htr (by simp)
    | step hr hs =>
      obtain ⟨rfl, hx⟩ := List.append_inj' htr rfl
      obtain rfl := List.singleton_inj.mp hx
      exact ⟨hr, hs, rfl⟩
  · rintro ⟨hr, hs, rfl⟩
    exact .step hr hs

/-- What holds after some transition of a run and is kept by every later step of a kind holds as
long as only such steps are taken. -/
theorem Run.preserved {P : σ → Prop} {C : α → Prop}
    (hstep : ∀ s a t, M.step s a t → C a → P s → P t) {tr tr' : List (Transition σ α)}
    {x : Transition σ α} {t : σ} (h : M.Run (tr ++ [x] ++ tr') t) (hP : P x.post)
    (hC : ∀ y ∈ tr', C y.act) : P t := by
  induction tr' using List.reverseRecOn generalizing t with
  | nil =>
    rw [List.append_nil, run_snoc] at h
    exact h.2.2 ▸ hP
  | append_singleton tr' y ih =>
    rw [← List.append_assoc, run_snoc] at h
    obtain ⟨hr, hs, rfl⟩ := h
    rw [List.forall_mem_append] at hC
    exact hstep _ _ _ hs (hC.2 y (List.mem_singleton.mpr rfl)) (ih hr hC.1)

/-- **Simulation up to stuttering.** -/
theorem Run.simulates {τ β : Type} {N : System τ β} {f : σ → τ} {g : Transition σ α → Option β}
    (h0 : ∀ s, M.init s → N.init (f s))
    (hstep : ∀ x, M.step x.pre x.act x.post →
      (∃ b, g x = some b ∧ N.step (f x.pre) b (f x.post)) ∨ (g x = none ∧ f x.post = f x.pre))
    {tr : List (Transition σ α)} {s : σ} (h : M.Run tr s) :
    N.Run (tr.filterMap (Transition.seenAs f g)) (f s) := by
  induction h with
  | start hi => exact .start (h0 _ hi)
  | @step tr s a t _ hs ih =>
    rw [List.filterMap_append]
    rcases hstep ⟨s, a, t⟩ hs with ⟨b, hg, hb⟩ | ⟨hg, hf⟩
    · simpa [Transition.seenAs, hg] using ih.step hb
    · simpa [Transition.seenAs, hg, hf] using ih

/-- **Exactness lifts from steps to runs.** -/
theorem Run.all_iff_all (Inv : σ → Prop) (C : σ → α → Prop) {Good : Transition σ α → Prop}
    (h0 : ∀ s, M.init s → Inv s)
    (hiff : ∀ s a t, Inv s → M.step s a t → (Good ⟨s, a, t⟩ ↔ C s a))
    (hinv : ∀ s a t, Inv s → M.step s a t → C s a → Inv t)
    {tr : List (Transition σ α)} {s : σ} (h : M.Run tr s) :
    (∀ x ∈ tr, Good x) ↔ ∀ x ∈ tr, C x.pre x.act := by
  suffices hs : ((∀ x ∈ tr, Good x) ↔ ∀ x ∈ tr, C x.pre x.act) ∧
      ((∀ x ∈ tr, C x.pre x.act) → Inv s) from hs.1
  induction h with
  | start hi => exact ⟨by simp, fun _ => h0 _ hi⟩
  | @step tr s a t _ hs ih =>
    obtain ⟨ihiff, ihinv⟩ := ih
    -- the last step is judged in a state where the invariant holds, on either side
    have hlast : (∀ x ∈ tr, C x.pre x.act) → (Good ⟨s, a, t⟩ ↔ C s a) :=
      fun hc => hiff s a t (ihinv hc) hs
    simp only [List.forall_mem_append, List.forall_mem_singleton]
    refine ⟨⟨?_, ?_⟩, fun hc => hinv s a t (ihinv hc.1) hs hc.2⟩
    · intro hg
      have hpre := ihiff.mp hg.1
      exact ⟨hpre, (hlast hpre).mp hg.2⟩
    · intro hc
      exact ⟨ihiff.mpr hc.1, (hlast hc.1).mpr hc.2⟩

/-! ## Systems given by a step function -/

/-- The system of a partial step function, from one initial state. -/
def ofStep (s₀ : σ) (step : σ → α → Option σ) : System σ α :=
  ⟨fun s => s = s₀, fun s a t => step s a = some t⟩

/-- Take the given actions in order and record the transitions. -/
def execute (step : σ → α → Option σ) : σ → List α → Option (List (Transition σ α) × σ)
  | s, [] => some ([], s)
  | s, a :: as =>
      match step s a with
      | some t => (execute step t as).map fun r => (⟨s, a, t⟩ :: r.1, r.2)
      | none => none

theorem Run.execute {s₀ : σ} {step : σ → α → Option σ} {as : List α}
    {tr tr' : List (Transition σ α)} {s t : σ} (h : (ofStep s₀ step).Run tr s)
    (he : execute step s as = some (tr', t)) : (ofStep s₀ step).Run (tr ++ tr') t := by
  induction as generalizing tr tr' s with
  | nil =>
    obtain ⟨rfl, rfl⟩ := Prod.mk.inj (Option.some.inj he)
    rwa [List.append_nil]
  | cons a as ih =>
    unfold System.execute at he
    split at he
    · rename_i u hu
      obtain ⟨⟨tr'', v⟩, hrest, heq⟩ := Option.map_eq_some_iff.mp he
      obtain ⟨rfl, rfl⟩ := Prod.mk.inj heq
      have := ih (h.step hu) hrest
      rwa [List.append_assoc, List.singleton_append] at this
    · cases he

/-- An execution from the initial state is a run. -/
theorem run_of_execute {s₀ : σ} {step : σ → α → Option σ} {as : List α}
    {tr : List (Transition σ α)} {t : σ} (he : execute step s₀ as = some (tr, t)) :
    (ofStep s₀ step).Run tr t :=
  (Run.start (M := ofStep s₀ step) rfl).execute he

end System

end Sloane.Lib
