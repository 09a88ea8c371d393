import Mathlib.Order.Lattice
import Mathlib.Data.List.Basic
import Mathlib.Tactic.Common

/-!
# Keyed vectors

A map kept as a vector of entries sorted by key, which can also be read by index.

* `mem_entries_iff` — the entries are the lookups that succeed.
* `valueFor_add`, `valueFor_removeItem`, `valueFor_modify` — what the operations do, as lookups.
* `valueFor_absent_bind`, `valueFor_absent_map` — what is done at an absent key.
* `mem_keys_iff`, `mem_values_iff` — keys and values, as lookups.
* `valueFor_foldl_add`, `valueFor_foldl_addAbsent` — loops that add entries.
* `removeItem_entries`, `modify_entries` — the removal and the change of the entry at an index.
* `sweepFrom_entries`, `valueFor_sweep` — a removal loop from the last index to the first.
-/

namespace Sloane.Lib

structure KeyedVector (κ α : Type) [LinearOrder κ] where
  entries : List (κ × α)
  sorted : entries.Pairwise fun a b => a.1 < b.1

namespace KeyedVector

variable {κ α : Type} [LinearOrder κ]

def empty : KeyedVector κ α := ⟨[], .nil⟩

def size (m : KeyedVector κ α) : Nat := m.entries.length

def values (m : KeyedVector κ α) : List α := m.entries.map Prod.snd

/-- The value for a key, if there is one. -/
def valueFor (m : KeyedVector κ α) (k : κ) : Option α :=
  (m.entries.find? fun e => e.1 = k).map Prod.snd

/-- The value at an index. -/
def valueAt (m : KeyedVector κ α) (i : Nat) : Option α := m.entries[i]?.map Prod.snd

/-- Put an entry where it belongs, in place of one with the same key. -/
def insertEntry (k : κ) (v : α) : List (κ × α) → List (κ × α)
  | [] => [(k, v)]
  | e :: es =>
      if k < e.1 then (k, v) :: e :: es
      else if k = e.1 then (k, v) :: es
      else e :: insertEntry k v es

theorem mem_insertEntry {k : κ} {v : α} {es : List (κ × α)} {e : κ × α}
    (h : e ∈ insertEntry k v es) : e = (k, v) ∨ e ∈ es := by
  induction es with
  | nil => exact .inl (List.mem_singleton.mp h)
  | cons d es ih =>
    unfold insertEntry at h
    split at h
    · simpa only [List.mem_cons] using h
    · split at h
      · rcases List.mem_cons.mp h with h | h
        · exact .inl h
        · exact .inr (List.mem_cons_of_mem _ h)
      · rcases List.mem_cons.mp h with h | h
        · exact .inr (h ▸ List.mem_cons_self)
        · exact (ih h).imp_right (List.mem_cons_of_mem _)

theorem insertEntry_sorted {es : List (κ × α)} (h : es.Pairwise fun a b => a.1 < b.1) (k : κ)
    (v : α) : (insertEntry k v es).Pairwise fun a b => a.1 < b.1 := by
  induction es with
  | nil => exact List.pairwise_singleton _ _
  | cons d es ih =>
    obtain ⟨hd, hes⟩ := List.pairwise_cons.mp h
    unfold insertEntry
    split
    · rename_i hlt
      refine List.pairwise_cons.mpr ⟨?_, h⟩
      intro e he
      rcases List.mem_cons.mp he with rfl | he
      · exact hlt
      · exact hlt.trans (hd e he)
    · split
      · rename_i heq
        exact List.pairwise_cons.mpr ⟨fun e he => heq ▸ hd e he, hes⟩
      · rename_i hnlt hne
        refine List.pairwise_cons.mpr ⟨?_, ih hes⟩
        intro e he
        rcases mem_insertEntry he with rfl | he
        · exact lt_of_le_of_ne (not_lt.mp hnlt) (Ne.symm hne)
        · exact hd e he

def add (m : KeyedVector κ α) (k : κ) (v : α) : KeyedVector κ α :=
  ⟨insertEntry k v m.entries, insertEntry_sorted m.sorted k v⟩

def removeItem (m : KeyedVector κ α) (k : κ) : KeyedVector κ α :=
  ⟨m.entries.filter fun e => e.1 ≠ k, m.sorted.filter _⟩

/-- Change the value of a key in place. -/
def modify (m : KeyedVector κ α) (k : κ) (f : α → α) : KeyedVector κ α :=
  ⟨m.entries.map fun e => if e.1 = k then (e.1, f e.2) else e, by
    refine List.pairwise_map.mpr (m.sorted.imp fun {a b} hab => ?_)
    have hkey : ∀ e : κ × α, (if e.1 = k then (e.1, f e.2) else e).1 = e.1 := by
      intro e
      split <;> rfl
    rw [hkey, hkey]
    exact hab⟩

/-! ## Lookups -/

theorem mem_entries_iff {m : KeyedVector κ α} {k : κ} {v : α} :
    (k, v) ∈ m.entries ↔ m.valueFor k = some v := by
  obtain ⟨es, hsorted⟩ := m
  show (k, v) ∈ es ↔ (es.find? fun e => e.1 = k).map Prod.snd = some v
  induction es with
  | nil => simp
  | cons d es ih =>
    obtain ⟨hd, hes⟩ := List.pairwise_cons.mp hsorted
    by_cases hk : d.1 = k
    · rw [List.find?_cons_of_pos (by simpa using hk), List.mem_cons]
      constructor
      · rintro (rfl | he)
        · rfl
        · exact absurd (hd _ he) (by rw [hk]; exact lt_irrefl k)
      · intro h
        obtain rfl := Option.some.inj h
        exact .inl (by rw [← hk])
    · rw [List.find?_cons_of_neg (by simpa using hk), List.mem_cons, ← ih hes]
      exact ⟨fun h => h.resolve_left fun heq => hk (heq ▸ rfl), .inr⟩

theorem valueFor_add (m : KeyedVector κ α) (k k' : κ) (v : α) :
    (m.add k v).valueFor k' = if k' = k then some v else m.valueFor k' := by
  unfold valueFor add
  simp only
  induction m.entries with
  | nil =>
    by_cases hk : k' = k
    · simp [insertEntry, hk]
    · simp [insertEntry, hk, Ne.symm hk]
  | cons d es ih =>
    unfold insertEntry
    by_cases hk : k' = k
    · subst hk
      split
      · simp
      · split
        · simp
        · rename_i hne
          rw [List.find?_cons_of_neg (by simpa using Ne.symm hne), ih]
          simp
    · rw [if_neg hk] at ih ⊢
      split
      · rw [List.find?_cons_of_neg (by simpa using Ne.symm hk)]
      · split
        · rename_i heq
          rw [List.find?_cons_of_neg (by simpa using Ne.symm hk),
            List.find?_cons_of_neg (by simpa using heq ▸ Ne.symm hk)]
        · by_cases hd : d.1 = k'
          · simp [hd]
          · rw [List.find?_cons_of_neg (by simpa using hd), ih,
              List.find?_cons_of_neg (by simpa using hd)]

theorem valueFor_removeItem (m : KeyedVector κ α) (k k' : κ) :
    (m.removeItem k).valueFor k' = if k' = k then none else m.valueFor k' := by
  apply Option.ext
  intro v
  rw [← mem_entries_iff, removeItem, List.mem_filter, mem_entries_iff]
  by_cases hk : k' = k
  · simp [hk]
  · simp [hk]

/-- What is done with the value of a key that is absent makes no difference. -/
theorem valueFor_absent_bind {m : KeyedVector κ α} {k : κ} (h : m.valueFor k = none) (k' : κ)
    (f : α → Option α) :
    m.valueFor k' = if k' = k then (m.valueFor k').bind f else m.valueFor k' := by
  split
  · rename_i hk
    rw [hk, h, Option.bind_none]
  · rfl

theorem valueFor_absent_map {m : KeyedVector κ α} {k : κ} (h : m.valueFor k = none) (k' : κ)
    (f : α → α) : m.valueFor k' = if k' = k then (m.valueFor k').map f else m.valueFor k' := by
  rw [Option.map_eq_bind]
  exact valueFor_absent_bind h k' _

theorem valueFor_modify (m : KeyedVector κ α) (k k' : κ) (f : α → α) :
    (m.modify k f).valueFor k' =
      if k' = k then (m.valueFor k').map f else m.valueFor k' := by
  unfold valueFor modify
  simp only
  induction m.entries with
  | nil => simp
  | cons d es ih =>
    rw [List.map_cons]
    by_cases hd : d.1 = k'
    · by_cases hk : k' = k
      · simp [hd, hk]
      · simp [hd, hk]
    · have hd' : ¬ (if d.1 = k then (d.1, f d.2) else d).1 = k' := by
        split <;> exact hd
      rw [List.find?_cons_of_neg (by simpa using hd'), ih,
        List.find?_cons_of_neg (by simpa using hd)]

theorem entries_nodup (m : KeyedVector κ α) : m.entries.Nodup :=
  m.sorted.imp fun {_ _} hlt heq => hlt.ne (congrArg Prod.fst heq)

theorem keys_nodup (m : KeyedVector κ α) : (m.entries.map Prod.fst).Nodup :=
  List.pairwise_map.mpr (m.sorted.imp fun {_ _} hlt => hlt.ne)

theorem mem_keys_iff {m : KeyedVector κ α} {k : κ} :
    k ∈ m.entries.map Prod.fst ↔ (m.valueFor k).isSome := by
  rw [List.mem_map, Option.isSome_iff_exists]
  constructor
  · rintro ⟨⟨k, v⟩, he, rfl⟩
    exact ⟨v, mem_entries_iff.mp he⟩
  · rintro ⟨v, hv⟩
    exact ⟨(k, v), mem_entries_iff.mpr hv, rfl⟩

theorem mem_values_iff {m : KeyedVector κ α} {v : α} :
    v ∈ m.values ↔ ∃ k, m.valueFor k = some v := by
  unfold values
  rw [List.mem_map]
  constructor
  · rintro ⟨⟨k, v⟩, he, rfl⟩
    exact ⟨k, mem_entries_iff.mp he⟩
  · rintro ⟨k, hk⟩
    exact ⟨(k, v), mem_entries_iff.mpr hk, rfl⟩

/-! ## Loops that add -/

/-- Entries added one after the other, those with the same key being the same. -/
theorem valueFor_foldl_add {β : Type} {key : β → κ} (val : β → α) {l : List β}
    (hkey : ∀ a ∈ l, ∀ b ∈ l, key a = key b → a = b) (m : KeyedVector κ α) (k : κ) :
    (l.foldl (fun m a => m.add (key a) (val a)) m).valueFor k =
      ((l.find? fun a => key a = k).map val).or (m.valueFor k) := by
  induction l generalizing m with
  | nil => rfl
  | cons a l ih =>
    rw [List.foldl_cons, ih fun b hb c hc => hkey b (.tail _ hb) c (.tail _ hc), valueFor_add]
    by_cases hk : k = key a
    · subst hk
      rw [if_pos rfl, List.find?_cons_of_pos (by simp)]
      cases hfind : l.find? fun b => key b = key a with
      | none => rfl
      | some b =>
        have hb := hkey b (.tail _ (List.mem_of_find?_eq_some hfind)) a List.mem_cons_self
          (by simpa using List.find?_some hfind)
        rw [hb]
        rfl
    · rw [if_neg hk, List.find?_cons_of_neg (by simpa using Ne.symm hk)]

/-- Add an entry unless the key is taken. -/
def addAbsent (m : KeyedVector κ α) (k : κ) (v : α) : KeyedVector κ α :=
  match m.valueFor k with
  | none => m.add k v
  | some _ => m

/-- Entries added one after the other, unless the key is taken. -/
theorem valueFor_foldl_addAbsent {β : Type} (key : β → κ) (val : β → α) (l : List β)
    (m : KeyedVector κ α) (k : κ) :
    (l.foldl (fun m a => m.addAbsent (key a) (val a)) m).valueFor k =
      (m.valueFor k).or ((l.find? fun a => key a = k).map val) := by
  induction l generalizing m with
  | nil => exact (Option.or_none).symm
  | cons a l ih =>
    rw [List.foldl_cons, ih]
    unfold addAbsent
    by_cases hk : key a = k
    · subst hk
      rw [List.find?_cons_of_pos (by simp)]
      cases hm : m.valueFor (key a) with
      | none => simp [valueFor_add]
      | some v => simp [hm]
    · rw [List.find?_cons_of_neg (by simpa using hk)]
      cases hm : m.valueFor (key a) with
      | none => rw [valueFor_add, if_neg (Ne.symm hk)]
      | some v => rfl

/-! ## Removal by index -/

/-- The entries before an index and behind it have other keys. -/
theorem split_entries {m : KeyedVector κ α} {i : Nat} {k : κ} {v : α}
    (h : m.entries[i]? = some (k, v)) :
    m.entries = m.entries.take i ++ (k, v) :: m.entries.drop (i + 1) ∧
      (∀ e ∈ m.entries.take i, e.1 ≠ k) ∧ ∀ e ∈ m.entries.drop (i + 1), e.1 ≠ k := by
  obtain ⟨hi, hget⟩ := List.getElem?_eq_some_iff.mp h
  have hsplit : m.entries = m.entries.take i ++ (k, v) :: m.entries.drop (i + 1) := by
    rw [← hget, List.getElem_cons_drop, List.take_append_drop]
  have hsorted := m.sorted
  rw [hsplit, List.pairwise_append, List.pairwise_cons] at hsorted
  obtain ⟨-, ⟨hafter, -⟩, hbefore⟩ := hsorted
  exact ⟨hsplit, fun e he => (hbefore e he (k, v) List.mem_cons_self).ne,
    fun e he => (hafter e he).ne'⟩

/-- Removing the entry at an index leaves those before it and those after it. -/
theorem removeItem_entries {m : KeyedVector κ α} {i : Nat} {k : κ} {v : α}
    (h : m.entries[i]? = some (k, v)) :
    (m.removeItem k).entries = m.entries.take i ++ m.entries.drop (i + 1) := by
  obtain ⟨hsplit, hbefore, hafter⟩ := split_entries h
  have htake : (m.entries.take i).filter (fun e => e.1 ≠ k) = m.entries.take i :=
    List.filter_eq_self.mpr fun e he => decide_eq_true (hbefore e he)
  have hdrop : (m.entries.drop (i + 1)).filter (fun e => e.1 ≠ k) = m.entries.drop (i + 1) :=
    List.filter_eq_self.mpr fun e he => decide_eq_true (hafter e he)
  show m.entries.filter (fun e => e.1 ≠ k) = _
  conv => lhs; rw [hsplit]
  rw [List.filter_append, List.filter_cons_of_neg (by simp), htake, hdrop]

/-- Changing it leaves them as well. -/
theorem modify_entries {m : KeyedVector κ α} {i : Nat} {k : κ} {v : α}
    (h : m.entries[i]? = some (k, v)) (f : α → α) :
    (m.modify k f).entries = m.entries.take i ++ (k, f v) :: m.entries.drop (i + 1) := by
  obtain ⟨hsplit, hbefore, hafter⟩ := split_entries h
  have hkeep {es : List (κ × α)} (hes : ∀ e ∈ es, e.1 ≠ k) :
      es.map (fun e => if e.1 = k then (e.1, f e.2) else e) = es :=
    (List.map_congr_left fun e he => if_neg (hes e he)).trans (List.map_id _)
  show m.entries.map (fun e => if e.1 = k then (e.1, f e.2) else e) = _
  conv => lhs; rw [hsplit]
  rw [List.map_append, List.map_cons, hkeep hbefore, hkeep hafter, if_pos rfl]

/-- Remove the entry at an index. -/
def removeItemsAt (m : KeyedVector κ α) (i : Nat) : KeyedVector κ α :=
  ⟨m.entries.eraseIdx i, m.sorted.sublist (List.eraseIdx_sublist _ _)⟩

/-- Remove, from index `i - 1` down to 0, the entries whose value does not meet `p`. -/
def sweepFrom (p : α → Bool) : Nat → KeyedVector κ α → KeyedVector κ α
  | 0, m => m
  | i + 1, m =>
      match m.valueAt i with
      | none => sweepFrom p i m
      | some v => sweepFrom p i (if p v then m else m.removeItemsAt i)

/-- The loop over the whole vector. -/
def sweep (p : α → Bool) (m : KeyedVector κ α) : KeyedVector κ α := sweepFrom p m.size m

/-- What a removal shifts has been looked at already. -/
theorem sweepFrom_entries (p : α → Bool) {i : Nat} {m : KeyedVector κ α} (hi : i ≤ m.size) :
    (sweepFrom p i m).entries = (m.entries.take i).filter (fun e => p e.2) ++ m.entries.drop i := by
  induction i generalizing m with
  | zero => simp [sweepFrom]
  | succ i ih =>
    have hlt : i < m.entries.length := hi
    have hget : m.valueAt i = some m.entries[i].2 := by simp [valueAt, hlt]
    have hdrop : m.entries.drop i = m.entries[i] :: m.entries.drop (i + 1) :=
      (List.getElem_cons_drop hlt).symm
    unfold sweepFrom
    rw [hget, List.take_succ_eq_append_getElem hlt, List.filter_append]
    show (sweepFrom p i (if p m.entries[i].2 then m else m.removeItemsAt i)).entries = _
    split
    · rename_i hp
      rw [ih (Nat.le_of_lt hlt), hdrop, List.filter_cons_of_pos (by simpa using hp),
        List.filter_nil, List.append_assoc, List.singleton_append]
    · rename_i hp
      have herase : m.entries.eraseIdx i = m.entries.take i ++ m.entries.drop (i + 1) :=
        List.eraseIdx_eq_take_drop_succ _ _
      have htake : (m.entries.take i).length = i := by simp; omega
      have hsize : i ≤ (m.removeItemsAt i).size := by
        show i ≤ (m.entries.eraseIdx i).length
        rw [herase, List.length_append, htake]
        omega
      rw [ih hsize, List.filter_cons_of_neg (by simpa using hp), List.filter_nil, List.append_nil]
      show ((m.entries.eraseIdx i).take i).filter _ ++ (m.entries.eraseIdx i).drop i = _
      rw [herase, List.take_left' htake, List.drop_left' htake]

theorem valueFor_sweep (p : α → Bool) (m : KeyedVector κ α) (k : κ) :
    (m.sweep p).valueFor k = (m.valueFor k).filter p := by
  apply Option.ext
  intro v
  have hentries : (m.sweep p).entries = m.entries.filter fun e => p e.2 := by
    rw [sweep, sweepFrom_entries p (Nat.le_refl _)]
    simp [size]
  rw [← mem_entries_iff, hentries, List.mem_filter, mem_entries_iff, Option.filter_eq_some_iff]

/-- A value changed before its removal makes no difference. -/
theorem removeItem_modify (m : KeyedVector κ α) (k : κ) (f : α → α) :
    (m.modify k f).removeItem k = m.removeItem k := by
  obtain ⟨es, hsorted⟩ := m
  simp only [removeItem, modify, KeyedVector.mk.injEq]
  clear hsorted
  induction es with
  | nil => rfl
  | cons d es ih =>
    rw [List.map_cons]
    by_cases hd : d.1 = k
    · rw [if_pos hd, List.filter_cons_of_neg (by simpa using hd),
        List.filter_cons_of_neg (by simpa using hd), ih]
    · rw [if_neg hd, List.filter_cons_of_pos (by simpa using hd),
        List.filter_cons_of_pos (by simpa using hd), ih]

end KeyedVector

end Sloane.Lib
