import Mathlib.Data.List.Nodup
import Mathlib.Tactic.Common

/-!
# Tables of bounded size with removal of the first match

A `BoundedTable` is an array with a fill count: entries are added at the end while there is
room and removed by closing the gap, so the order of the others is kept.

`eraseKeys key ks l` removes, for each key of `ks` in turn, the first entry of `l` with that
key.  Results:

* `mem_eraseKeys` — what is left, without reference to the order of removal;
* `eraseKeys_eq_filter_iff` — removal by key is removal by owner iff every first match of a
  removed key belongs to the owner;
* `eraseKeys_append_eq_iff` — removal by key undoes an append iff no key removed occurs earlier.
-/

namespace Sloane.Lib

/-- A table with room for `cap` entries. -/
structure BoundedTable (α : Type) (cap : Nat) where
  entries : List α
  size_le : entries.length ≤ cap
  deriving DecidableEq

namespace BoundedTable

variable {α : Type} {cap : Nat}

def empty : BoundedTable α cap := ⟨[], Nat.zero_le _⟩

/-- Append an entry; `none` when the table is full. -/
def add? (t : BoundedTable α cap) (a : α) : Option (BoundedTable α cap) :=
  if h : t.entries.length < cap then some ⟨t.entries ++ [a], by rwa [List.length_append]⟩ else none

/-- Remove the first entry that satisfies `p`. -/
def removeFirst (t : BoundedTable α cap) (p : α → Bool) : BoundedTable α cap :=
  ⟨t.entries.eraseP p, Nat.le_trans List.length_eraseP_le t.size_le⟩

@[simp] theorem removeFirst_entries (t : BoundedTable α cap) (p : α → Bool) :
    (t.removeFirst p).entries = t.entries.eraseP p := rfl

theorem add?_eq_some {t t' : BoundedTable α cap} {a : α} :
    t.add? a = some t' ↔ t.entries.length < cap ∧ t'.entries = t.entries ++ [a] := by
  unfold add?
  split
  · rename_i h
    obtain ⟨es, hes⟩ := t'
    simp [h, eq_comm]
  · rename_i h
    simp [h]

theorem add?_eq_none {t : BoundedTable α cap} {a : α} :
    t.add? a = none ↔ t.entries.length = cap := by
  have := t.size_le
  unfold add?
  split <;> simp <;> omega

theorem ext_entries {t t' : BoundedTable α cap} (h : t.entries = t'.entries) : t = t' := by
  cases t; cases t'; cases h; rfl

end BoundedTable

/-! ## Removing the first entry of each of several keys -/

section EraseKeys

variable {α κ : Type} [DecidableEq κ] (key : α → κ)

def eraseKeys (ks : List κ) (l : List α) : List α :=
  ks.foldl (fun l k => l.eraseP (key · == k)) l

@[simp] theorem eraseKeys_nil (l : List α) : eraseKeys key [] l = l := rfl

@[simp] theorem eraseKeys_cons (k : κ) (ks : List κ) (l : List α) :
    eraseKeys key (k :: ks) l = eraseKeys key ks (l.eraseP (key · == k)) := rfl

variable {key}

theorem eraseKeys_sublist (ks : List κ) (l : List α) : (eraseKeys key ks l).Sublist l := by
  induction ks generalizing l with
  | nil => exact List.Sublist.refl l
  | cons k ks ih => exact (ih _).trans List.eraseP_sublist

/-- Removing a key leaves the first match of every other key where it was. -/
theorem find?_eraseP_of_ne {k k' : κ} (hne : k' ≠ k) (l : List α) :
    (l.eraseP (key · == k)).find? (key · == k') = l.find? (key · == k') := by
  induction l with
  | nil => rfl
  | cons a l ih =>
    by_cases ha : key a = k
    · rw [List.eraseP_cons_of_pos (by simpa using ha),
        List.find?_cons_of_neg (by simp [ha, hne.symm])]
    · rw [List.eraseP_cons_of_neg (by simpa using ha), List.find?_cons, List.find?_cons, ih]

/-- Where the keys are distinct, looking up the key of an entry finds it. -/
theorem find?_key {l : List α} (hl : (l.map key).Nodup) {x : α} (hx : x ∈ l) :
    l.find? (key · == key x) = some x := by
  obtain ⟨y, hy⟩ := Option.isSome_iff_exists.mp
    (List.find?_isSome (p := (key · == key x)).mpr ⟨x, hx, by simp⟩)
  have hkey : key y = key x := by simpa using List.find?_some hy
  rw [hy, List.inj_on_of_nodup_map hl (List.mem_of_find?_eq_some hy) hx hkey]

/-- In a list without repetition, `eraseP` removes the first match and nothing else. -/
theorem mem_eraseP_of_nodup {p : α → Bool} {l : List α} (hl : l.Nodup) {x : α} :
    x ∈ l.eraseP p ↔ x ∈ l ∧ l.find? p ≠ some x := by
  induction l with
  | nil => simp
  | cons a l ih =>
    obtain ⟨ha, hl⟩ := List.nodup_cons.mp hl
    by_cases hp : p a = true
    · rw [List.eraseP_cons_of_pos hp, List.find?_cons_of_pos hp, List.mem_cons]
      constructor
      · exact fun hx => ⟨.inr hx, fun h => ha (Option.some.inj h ▸ hx)⟩
      · rintro ⟨rfl | hx, hne⟩
        · exact absurd rfl hne
        · exact hx
    · rw [List.eraseP_cons_of_neg hp, List.find?_cons_of_neg hp, List.mem_cons, List.mem_cons,
        ih hl]
      constructor
      · rintro (rfl | ⟨hx, hne⟩)
        · exact ⟨.inl rfl, fun h => hp (List.find?_some h)⟩
        · exact ⟨.inr hx, hne⟩
      · rintro ⟨rfl | hx, hne⟩
        · exact .inl rfl
        · exact .inr ⟨hx, hne⟩

/-- Where the keys are distinct, removing a key leaves no entry with it. -/
theorem mem_eraseP_key {l : List α} (hl : (l.map key).Nodup) {k : κ} {x : α} :
    x ∈ l.eraseP (key · == k) ↔ x ∈ l ∧ key x ≠ k := by
  rw [mem_eraseP_of_nodup (List.Nodup.of_map _ hl)]
  refine and_congr_right fun hx => not_congr ⟨?_, ?_⟩
  · intro h
    simpa using List.find?_some h
  · rintro rfl
    exact find?_key hl hx

/-- The entry that `eraseP` removes is the one that `find?` finds. -/
theorem perm_cons_eraseP {p : α → Bool} {l : List α} {x : α} (h : l.find? p = some x) :
    l.Perm (x :: l.eraseP p) := by
  induction l with
  | nil => cases h
  | cons a l ih =>
    by_cases hp : p a = true
    · rw [List.find?_cons_of_pos hp] at h
      obtain rfl := Option.some.inj h
      rw [List.eraseP_cons_of_pos hp]
    · rw [List.find?_cons_of_neg hp] at h
      rw [List.eraseP_cons_of_neg hp]
      exact ((ih h).cons a).trans (.swap x a _)

/-- **What removal by key leaves**: everything but the first match of each key. -/
theorem mem_eraseKeys {ks : List κ} {l : List α} (hks : ks.Nodup) (hl : l.Nodup) {x : α} :
    x ∈ eraseKeys key ks l ↔ x ∈ l ∧ ∀ k ∈ ks, l.find? (key · == k) ≠ some x := by
  induction ks generalizing l with
  | nil => simp
  | cons k ks ih =>
    obtain ⟨hk, hks⟩ := List.nodup_cons.mp hks
    have hrest : ∀ k' ∈ ks, (l.eraseP (key · == k)).find? (key · == k') = l.find? (key · == k') :=
      fun k' hk' => find?_eraseP_of_ne (fun (h : k' = k) => hk (h ▸ hk')) l
    rw [eraseKeys_cons, ih hks (hl.sublist List.eraseP_sublist), mem_eraseP_of_nodup hl,
      List.forall_mem_cons, and_assoc]
    refine and_congr_right fun _ => and_congr_right fun _ => forall₂_congr fun k' hk' => ?_
    rw [hrest k' hk']

/-- A sublist of a list without repetition is the filter by its own members. -/
theorem filter_mem_of_sublist [DecidableEq α] {l a : List α} (h : a.Sublist l) (hl : l.Nodup) :
    l.filter (fun x => decide (x ∈ a)) = a := by
  induction h with
  | slnil => rfl
  | @cons a l c hal ih =>
    obtain ⟨hc, hl⟩ := List.nodup_cons.mp hl
    rw [List.filter_cons_of_neg (by simpa using fun h => hc (hal.subset h)), ih hl]
  | @cons_cons a l c hal ih =>
    obtain ⟨hc, hl⟩ := List.nodup_cons.mp hl
    rw [List.filter_cons_of_pos (by simp)]
    congr 1
    -- the head is not among the later entries, so it does not matter to their filter
    rw [List.filter_congr fun x hx => ?_, ih hl]
    have hxc : x ≠ c := fun h => hc (h ▸ hx)
    simp [hxc]

theorem sublist_eq_iff [DecidableEq α] {l a b : List α} (hl : l.Nodup) (ha : a.Sublist l)
    (hb : b.Sublist l) : a = b ↔ ∀ x, x ∈ a ↔ x ∈ b := by
  refine ⟨fun h x => h ▸ Iff.rfl, ?_⟩
  intro h
  rw [← filter_mem_of_sublist ha hl, ← filter_mem_of_sublist hb hl]
  exact List.filter_congr fun x _ => by simp [h x]

/-- **Removal by key against removal by owner.**  When all entries of the owner carry one of the
keys, and no two of them the same key, the two agree iff each first match of a removed key is
the owner's. -/
theorem eraseKeys_eq_filter_iff [DecidableEq α] {own : α → Bool} {ks : List κ} {l : List α}
    (hks : ks.Nodup) (hl : l.Nodup) (hkey : ∀ x ∈ l, own x → key x ∈ ks)
    (huniq : ∀ x ∈ l, ∀ y ∈ l, own x → own y → key x = key y → x = y) :
    eraseKeys key ks l = l.filter (fun x => !own x) ↔
      ∀ k ∈ ks, ∀ x, l.find? (key · == k) = some x → own x := by
  rw [sublist_eq_iff hl (eraseKeys_sublist ks l) List.filter_sublist]
  simp only [mem_eraseKeys hks hl, List.mem_filter, Bool.not_eq_true', and_congr_right_iff]
  constructor
  · intro h k hk x hx
    by_contra hown
    exact (h x (List.mem_of_find?_eq_some hx)).mpr (by simpa using hown) k hk hx
  · intro h x hx
    constructor
    · -- the owner's entry is the first match of its key, so it goes
      intro hleft
      by_contra hown
      have hown : own x = true := by simpa using hown
      have hsome : (l.find? (key · == key x)).isSome := List.find?_isSome.mpr ⟨x, hx, by simp⟩
      obtain ⟨y, hy⟩ := Option.isSome_iff_exists.mp hsome
      have hyl := List.mem_of_find?_eq_some hy
      have hyk : key y = key x := by simpa using List.find?_some hy
      have hxy : y = x := huniq y hyl x hx (h _ (hkey x hx hown) y hy) hown hyk
      exact hleft _ (hkey x hx hown) (hxy ▸ hy)
    · intro hown k hk hf
      rw [h k hk x hf] at hown
      cases hown

theorem eraseKeys_append_of_forall_ne {ks : List κ} {l : List α} (h : ∀ x ∈ l, key x ∉ ks)
    (m : List α) : eraseKeys key ks (l ++ m) = l ++ eraseKeys key ks m := by
  induction ks generalizing m with
  | nil => rfl
  | cons k ks ih =>
    have hk : ∀ x ∈ l, ¬ (key x == k) = true := fun x hx hxk => h x hx (by simp [eq_of_beq hxk])
    rw [eraseKeys_cons, List.eraseP_append_right m hk,
      ih fun x hx hm => h x hx (List.mem_cons_of_mem _ hm), eraseKeys_cons]

/-- **Removal by key undoes an append** of entries with distinct keys among those removed iff no
earlier entry carries a removed key. -/
theorem eraseKeys_append_eq_iff {ks : List κ} {l m : List α} (hks : ks.Nodup)
    (hlm : (l ++ m).Nodup) (hm : ∀ x ∈ m, key x ∈ ks) (hinj : (m.map key).Nodup) :
    eraseKeys key ks (l ++ m) = l ↔ ∀ x ∈ l, key x ∉ ks := by
  constructor
  · intro h x hx hk
    -- the first entry with that key stands in `l`, and it is the one removed
    have hsome : (l.find? (key · == key x)).isSome := List.find?_isSome.mpr ⟨x, hx, by simp⟩
    obtain ⟨y, hy⟩ := Option.isSome_iff_exists.mp hsome
    have hyl : y ∈ eraseKeys key ks (l ++ m) := h.symm ▸ List.mem_of_find?_eq_some hy
    apply ((mem_eraseKeys hks hlm).mp hyl).2 _ hk
    rw [List.find?_append, hy, Option.some_or]
  · intro h
    have hgone : eraseKeys key ks m = [] := by
      have hmn : m.Nodup := (List.nodup_append.mp hlm).2.1
      apply List.eq_nil_iff_forall_not_mem.mpr
      intro x hx
      obtain ⟨hxm, hne⟩ := (mem_eraseKeys hks hmn).mp hx
      exact hne _ (hm x hxm) (find?_key hinj hxm)
    rw [eraseKeys_append_of_forall_ne h, hgone, List.append_nil]

end EraseKeys

end Sloane.Lib
