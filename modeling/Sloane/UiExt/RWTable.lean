import Mathlib.Logic.Function.Basic
import Sloane.Lib.History
import Sloane.Lib.KeyedVector
import Sloane.Lib.Run

/-!
# The read/write locked table

`operator[]` looks a key up under the read lock.  If the key is not there it creates an entry with
no lock held, and adds it under the write lock.

* `RWTable.Stable` — the calls since the last removal of a key agree with the table.
* `RWTable.step_stable_iff` — which sections keep it.
* `stable_iff` — a run is stable iff no write section replaces an entry.
-/

namespace Sloane.UiExt

open Sloane.Lib Sloane.Lib.System

variable {τ κ V : Type} [LinearOrder κ]

/-! ## The source -/

/-- What the calls did, in the order of their last sections. -/
inductive RWEvent (κ V : Type)
  /-- A call of `operator[]` returned the entry. -/
  | returned (key : κ) (value : V)
  | removed (key : κ) (found : Bool)
  deriving DecidableEq

/-- The table and the calls that are between their two sections. -/
structure RWTable (τ κ V : Type) [LinearOrder κ] where
  mMap : KeyedVector κ V
  /-- The key for which the call of a thread found nothing. -/
  missed : τ → Option κ
  log : List (RWEvent κ V)

inductive RWAct (τ κ V : Type)
  /-- The read section of `operator[]`. -/
  | lookup (thread : τ) (key : κ)
  /-- Its write section, for the entry that `createEntry` made. -/
  | addEntry (thread : τ) (value : V)
  | remove (key : κ)

namespace RWTable

def new : RWTable τ κ V := ⟨.empty, fun _ => none, []⟩

section

variable [DecidableEq τ]

def lookup (s : RWTable τ κ V) (thread : τ) (key : κ) : RWTable τ κ V :=
  match s.mMap.valueFor key with
  | some value => { s with log := s.log ++ [.returned key value] }
  | none => { s with missed := Function.update s.missed thread (some key) }

def addEntry (s : RWTable τ κ V) (thread : τ) (key : κ) (value : V) : RWTable τ κ V where
  mMap := s.mMap.add key value
  missed := Function.update s.missed thread none
  log := s.log ++ [.returned key value]

/-- `remove`, with what it returns in the log. -/
def remove (s : RWTable τ κ V) (key : κ) : RWTable τ κ V :=
  { s with
    mMap := s.mMap.removeItem key
    log := s.log ++ [.removed key (s.mMap.valueFor key).isSome] }

/-- A section of some thread; a thread makes one call at a time. -/
def step (s : RWTable τ κ V) : RWAct τ κ V → Option (RWTable τ κ V)
  | .lookup thread key => if (s.missed thread).isSome then none else some (s.lookup thread key)
  | .addEntry thread value => (s.missed thread).map fun key => s.addEntry thread key value
  | .remove key => some (s.remove key)

end

end RWTable

/-- Any number of threads in any order. -/
def rwTable (τ κ V : Type) [DecidableEq τ] [LinearOrder κ] : System (RWTable τ κ V) (RWAct τ κ V) :=
  .ofStep .new RWTable.step

/-! ## Stability -/

def RWEvent.removes (key : κ) : RWEvent κ V → Bool
  | .returned _ _ => false
  | .removed key' _ => decide (key' = key)

namespace RWTable

/-- A call returned the entry since the last removal of the key. -/
def Returned (s : RWTable τ κ V) (key : κ) (value : V) : Prop :=
  .returned key value ∈ since (RWEvent.removes key) s.log

instance [DecidableEq V] (s : RWTable τ κ V) (key : κ) (value : V) :
    Decidable (s.Returned key value) := inferInstanceAs (Decidable (_ ∈ _))

/-- **Stability**: the calls since the last removal of a key returned one entry, the stored one. -/
structure Stable (s : RWTable τ κ V) : Prop where
  same : ∀ key value value', s.Returned key value → s.Returned key value' → value = value'
  stored : ∀ key value, s.Returned key value → s.mMap.valueFor key = some value

theorem Stable.of_stored {s : RWTable τ κ V}
    (h : ∀ key value, s.Returned key value → s.mMap.valueFor key = some value) : s.Stable where
  same key value value' hv hv' := Option.some.inj ((h key value hv).symm.trans (h key value' hv'))
  stored := h

/-- The step does not replace an entry by another one. -/
def KeepsEntry (s : RWTable τ κ V) : RWAct τ κ V → Prop
  | .addEntry thread value =>
      ∀ key ∈ s.missed thread, s.mMap.valueFor key = none ∨ s.mMap.valueFor key = some value
  | _ => True

instance [DecidableEq V] (s : RWTable τ κ V) (a : RWAct τ κ V) : Decidable (s.KeepsEntry a) :=
  match a with
  | .addEntry thread value => inferInstanceAs (Decidable (∀ key ∈ s.missed thread,
      s.mMap.valueFor key = none ∨ s.mMap.valueFor key = some value))
  | .lookup _ _ => inferInstanceAs (Decidable True)
  | .remove _ => inferInstanceAs (Decidable True)

theorem returned_snoc {s t : RWTable τ κ V} {key' : κ} {value' : V}
    (hlog : t.log = s.log ++ [.returned key' value']) (key : κ) (value : V) :
    t.Returned key value ↔ s.Returned key value ∨ key = key' ∧ value = value' := by
  unfold Returned
  rw [hlog, since_snoc_of_neg rfl, List.mem_append, List.mem_singleton, RWEvent.returned.injEq]

theorem returned_removed {s t : RWTable τ κ V} {key' : κ} {found : Bool}
    (hlog : t.log = s.log ++ [.removed key' found]) (key : κ) (value : V) :
    t.Returned key value ↔ key ≠ key' ∧ s.Returned key value := by
  unfold Returned
  rw [hlog]
  by_cases hkey : key' = key
  · rw [since_snoc_of_pos (by simpa [RWEvent.removes] using hkey)]
    simp [hkey]
  · rw [since_snoc_of_neg (by simpa [RWEvent.removes] using hkey), List.mem_append,
      List.mem_singleton]
    simp [Ne.symm hkey]

/-- What the table stores was returned since the last removal. -/
def Backed (s : RWTable τ κ V) : Prop :=
  ∀ key value, s.mMap.valueFor key = some value → s.Returned key value

/-! ### What the sections preserve -/

variable {s : RWTable τ κ V}

theorem remove_keeps (hstable : s.Stable) (hbacked : s.Backed) (key : κ) :
    (s.remove key).Stable ∧ (s.remove key).Backed := by
  have hreturned (key' : κ) (value : V) : (s.remove key).Returned key' value ↔
      key' ≠ key ∧ s.Returned key' value := returned_removed rfl key' value
  have hvalue (key' : κ) : (s.remove key).mMap.valueFor key' =
      if key' = key then none else s.mMap.valueFor key' := KeyedVector.valueFor_removeItem _ _ _
  refine ⟨.of_stored fun key' value h => ?_, fun key' value h => ?_⟩
  · obtain ⟨hne, hret⟩ := (hreturned key' value).mp h
    rw [hvalue, if_neg hne]
    exact hstable.stored key' value hret
  · rw [hvalue] at h
    split at h
    · cases h
    · rename_i hne
      exact (hreturned key' value).mpr ⟨hne, hbacked key' value h⟩

variable [DecidableEq τ]

theorem lookup_keeps (hstable : s.Stable) (hbacked : s.Backed) (thread : τ) (key : κ) :
    (s.lookup thread key).Stable ∧ (s.lookup thread key).Backed := by
  unfold lookup
  split
  · rename_i value hfound
    -- the entry that is returned once more is the stored one
    refine ⟨.of_stored fun key' value' h => ?_, fun key' value' h => ?_⟩
    · rcases (returned_snoc rfl key' value').mp h with hold | ⟨rfl, rfl⟩
      · exact hstable.stored key' value' hold
      · exact hfound
    · exact (returned_snoc rfl key' value').mpr (Or.inl (hbacked key' value' h))
  · exact ⟨⟨hstable.same, hstable.stored⟩, hbacked⟩

theorem returned_addEntry (thread : τ) (key : κ) (value : V) (key' : κ) (value' : V) :
    (s.addEntry thread key value).Returned key' value' ↔
      s.Returned key' value' ∨ key' = key ∧ value' = value := returned_snoc rfl key' value'

theorem addEntry_keeps (hstable : s.Stable) (hbacked : s.Backed) (thread : τ) {key : κ} {value : V}
    (hentry : s.mMap.valueFor key = none ∨ s.mMap.valueFor key = some value) :
    (s.addEntry thread key value).Stable ∧ (s.addEntry thread key value).Backed := by
  have hreturned := returned_addEntry (s := s) thread key value
  have hvalue (key' : κ) : (s.addEntry thread key value).mMap.valueFor key' =
      if key' = key then some value else s.mMap.valueFor key' := KeyedVector.valueFor_add _ _ _ _
  refine ⟨.of_stored fun key' value' h => ?_, fun key' value' h => ?_⟩
  · rw [hvalue]
    rcases (hreturned key' value').mp h with hold | ⟨rfl, rfl⟩
    · have hstored := hstable.stored key' value' hold
      split
      · rename_i hkey
        rw [hkey] at hstored
        rcases hentry with hnone | hsome
        · rw [hstored] at hnone
          cases hnone
        · exact hsome.symm.trans hstored
      · exact hstored
    · exact if_pos rfl
  · rw [hvalue] at h
    apply (hreturned key' value').mpr
    split at h
    · rename_i hkey
      exact Or.inr ⟨hkey, (Option.some.inj h).symm⟩
    · exact Or.inl (hbacked key' value' h)

/-- An entry that was replaced had been returned. -/
theorem addEntry_replaces (hbacked : s.Backed) {thread : τ} {key : κ} {value : V}
    (h : (s.addEntry thread key value).Stable) :
    s.mMap.valueFor key = none ∨ s.mMap.valueFor key = some value := by
  have hreturned := returned_addEntry (s := s) thread key value
  cases hstored : s.mMap.valueFor key with
  | none => exact Or.inl rfl
  | some value' =>
    have hold := (hreturned key value').mpr (Or.inl (hbacked key value' hstored))
    have hnew := (hreturned key value).mpr (Or.inr ⟨rfl, rfl⟩)
    exact Or.inr (congrArg some (h.same key value' value hold hnew))

/-- **A step**: it keeps stability exactly if it replaces nothing. -/
theorem step_stable_iff {t : RWTable τ κ V} {a : RWAct τ κ V} (hstable : s.Stable)
    (hbacked : s.Backed) (h : s.step a = some t) :
    (t.Stable ↔ s.KeepsEntry a) ∧ (s.KeepsEntry a → t.Backed) := by
  cases a with
  | lookup thread key =>
    simp only [step] at h
    split at h
    · cases h
    · obtain rfl := Option.some.inj h
      have hkeeps := lookup_keeps hstable hbacked thread key
      exact ⟨iff_of_true hkeeps.1 trivial, fun _ => hkeeps.2⟩
  | addEntry thread value =>
    obtain ⟨key, hmissed, rfl⟩ := Option.map_eq_some_iff.mp h
    have hkeeps (hk : s.KeepsEntry (.addEntry thread value)) :=
      addEntry_keeps hstable hbacked thread (hk key hmissed)
    refine ⟨⟨fun hs key' hmissed' => ?_, fun hk => (hkeeps hk).1⟩, fun hk => (hkeeps hk).2⟩
    obtain rfl := Option.some.inj (hmissed'.symm.trans hmissed)
    exact addEntry_replaces hbacked hs
  | remove key =>
    obtain rfl := Option.some.inj h
    have hkeeps := remove_keeps hstable hbacked key
    exact ⟨iff_of_true hkeeps.1 trivial, fun _ => hkeeps.2⟩

end RWTable

/-- **Runs**: the table is stable in every state of a run iff no write section replaces an entry
by another one. -/
theorem stable_iff {τ κ V : Type} [DecidableEq τ] [LinearOrder κ]
    {tr : List (Transition (RWTable τ κ V) (RWAct τ κ V))} {s : RWTable τ κ V}
    (h : (rwTable τ κ V).Run tr s) :
    (∀ x ∈ tr, x.post.Stable) ↔ ∀ x ∈ tr, x.pre.KeepsEntry x.act := by
  refine h.all_iff_all (fun s => s.Stable ∧ s.Backed) RWTable.KeepsEntry ?_ ?_ ?_
  · rintro s rfl
    refine ⟨.of_stored fun key value h => ?_, fun key value h => ?_⟩
    · cases h
    · cases h
  · intro s a t hinv hstep
    exact (RWTable.step_stable_iff hinv.1 hinv.2 hstep).1
  · intro s a t hinv hstep hkeeps
    obtain ⟨hstable, hbacked⟩ := RWTable.step_stable_iff hinv.1 hinv.2 hstep
    exact ⟨hstable.mpr hkeeps, hbacked hkeeps⟩

/-- Two threads miss different keys; one of the entries is removed and added again. -/
theorem stable_iff_apart :
    ∃ tr s, (rwTable Nat Nat Nat).Run tr s ∧ s.Returned 5 51 ∧ ∀ x ∈ tr, x.post.Stable := by
  have he : (execute RWTable.step (.new : RWTable Nat Nat Nat) [.lookup 0 5, .lookup 1 6,
      .addEntry 1 60, .addEntry 0 50, .remove 5, .lookup 1 5, .addEntry 1 51, .lookup 0 5]).map
      (fun r => decide (r.2.Returned 5 51 ∧ ∀ x ∈ r.1, x.pre.KeepsEntry x.act)) =
      some true := by decide
  obtain ⟨⟨tr, s⟩, hrun, heq⟩ := Option.map_eq_some_iff.mp he
  obtain ⟨hreturned, hkeeps⟩ := of_decide_eq_true heq
  have hr : (rwTable Nat Nat Nat).Run tr s := run_of_execute hrun
  exact ⟨tr, s, hr, hreturned, (stable_iff hr).mpr hkeeps⟩

/-- Two threads miss the same key, and each adds its own entry. -/
theorem not_stable_race :
    ¬ ∀ tr s, (rwTable Nat Nat Nat).Run tr s → ∀ x ∈ tr, x.post.Stable := by
  intro hall
  have he : (execute RWTable.step (.new : RWTable Nat Nat Nat) [.lookup 0 5, .lookup 1 5,
      .addEntry 0 50, .addEntry 1 51]).map
      (fun r => decide (∃ x ∈ r.1, x.post.Returned 5 50 ∧ x.post.Returned 5 51)) =
      some true := by decide
  obtain ⟨⟨tr, s⟩, hrun, heq⟩ := Option.map_eq_some_iff.mp he
  obtain ⟨x, hx, hfirst, hsecond⟩ := of_decide_eq_true heq
  have hr : (rwTable Nat Nat Nat).Run tr s := run_of_execute hrun
  exact absurd ((hall tr s hr x hx).same 5 50 51 hfirst hsecond) (by decide)

end Sloane.UiExt
