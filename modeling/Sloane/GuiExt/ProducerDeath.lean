import Sloane.GuiExt.Service

/-!
# The death of a producer

`ProducerDeathObserver::binderDied` as the source has it: an index goes down over the list of pools,
which shrinks in the body of the loop.

* `producerDiedPass_spec` — what the body does at an index.
* `binderDied_spec` — what the whole loop does, and that no index is outside of the list.
* `binderDied_eq` — it is the step that the runs of the service take.
-/

namespace Sloane.GuiExt

open Sloane.Lib

/-- Some consumer is connected. -/
def PoolItem.hasConsumer (item : PoolItem) : Bool :=
  (List.range GUI_EXT_USAGE_MAX).any fun i => !item.mIsDisconnected i

/-- What is left of an item after the death of a producer. -/
def PoolItem.afterProducer (who : Nat) (item : PoolItem) : Option PoolItem :=
  if item.mProducerToken = some who then
    if item.hasConsumer then some { item with mProducerToken := none } else none
  else some item

namespace GuiExtPool

/-- The body of the loop; `none` for an index outside of the list. -/
def producerDiedPass (who : Nat) (pool : GuiExtPool) (i : Nat) : Option GuiExtPool := do
  let (mId, item) ← pool.mPoolList.entries[i]?
  if item.mProducerToken = some who then
    let pool :=
      { pool with
        mPoolList := pool.mPoolList.modify mId fun item => { item with mProducerToken := none } }
    let (mId, _) ← pool.mPoolList.entries[i]?
    return pool.removePoolItemLocked mId
  else return pool

/-- The loop, from an index down to 0. -/
def producerDiedLoop (who : Nat) : Nat → GuiExtPool → Option GuiExtPool
  | 0, pool => producerDiedPass who pool 0
  | i + 1, pool => do producerDiedLoop who i (← producerDiedPass who pool (i + 1))

/-- `ProducerDeathObserver::binderDied` -/
def binderDied (pool : GuiExtPool) (who : Nat) : Option GuiExtPool :=
  if pool.mPoolList.size = 0 then some pool
  else producerDiedLoop who (pool.mPoolList.size - 1) pool

variable {who i k : Nat} {pool : GuiExtPool} {item : PoolItem}

/-- The index stays at the item whose token is cleared. -/
theorem getElem?_modify (h : pool.mPoolList.entries[i]? = some (k, item))
    (f : PoolItem → PoolItem) :
    (pool.mPoolList.modify k f).entries[i]? = some (k, f item) := by
  have hlen : (pool.mPoolList.entries.take i).length = i :=
    List.length_take_of_le (Nat.le_of_lt (List.getElem?_eq_some_iff.mp h).1)
  rw [KeyedVector.modify_entries h, List.getElem?_append_right (Nat.le_of_eq hlen), hlen,
    Nat.sub_self]
  rfl

/-- The body of the loop is a step of the service. -/
theorem producerDiedPass_eq (who : Nat) (h : pool.mPoolList.entries[i]? = some (k, item)) :
    producerDiedPass who pool i = some (producerDiedAt who pool k) := by
  have hitem : pool.mPoolList.valueFor k = some item :=
    KeyedVector.mem_entries_iff.mp (List.mem_of_getElem? h)
  unfold producerDiedPass producerDiedAt
  rw [h, hitem]
  dsimp only [Option.bind_eq_bind, Option.bind_some]
  split
  · rw [getElem?_modify h]
    unfold free
    rw [hitem]
    rfl
  · rfl

/-- **What the body does** at an index: what is before it and behind it stays. -/
theorem producerDiedPass_spec (who : Nat) (h : pool.mPoolList.entries[i]? = some (k, item)) :
    ∃ l : KeyedVector Nat PoolItem,
      producerDiedPass who pool i = some { pool with mPoolList := l } ∧
      l.entries = pool.mPoolList.entries.take i ++
        (((item.afterProducer who).map (k, ·)).toList ++ pool.mPoolList.entries.drop (i + 1)) := by
  have hitem : pool.mPoolList.valueFor k = some item :=
    KeyedVector.mem_entries_iff.mp (List.mem_of_getElem? h)
  rw [producerDiedPass_eq who h]
  unfold producerDiedAt PoolItem.afterProducer PoolItem.hasConsumer
  rw [hitem]
  dsimp only
  by_cases htoken : item.mProducerToken = some who
  · simp only [htoken, if_true, free, hitem, removePoolItemLocked, KeyedVector.valueFor_modify,
      Option.map_some]
    by_cases hconsumer : (List.range GUI_EXT_USAGE_MAX).any fun i => !item.mIsDisconnected i
    · rw [if_pos hconsumer, if_pos hconsumer]
      exact ⟨_, rfl, KeyedVector.modify_entries h _⟩
    · rw [if_neg hconsumer, if_neg hconsumer]
      refine ⟨_, rfl, ?_⟩
      rw [KeyedVector.removeItem_modify, KeyedVector.removeItem_entries h]
      rfl
  · rw [if_neg htoken, if_neg htoken]
    exact ⟨pool.mPoolList, rfl, (KeyedVector.split_entries h).1⟩

theorem filterMap_take_succ {α β : Type} {f : α → Option β} {l : List α} {a : α}
    (h : l[i]? = some a) :
    (l.take (i + 1)).filterMap f = (l.take i).filterMap f ++ (f a).toList := by
  rw [List.take_add_one, h, List.filterMap_append, Option.toList_some]
  cases hf : f a with
  | none => rw [List.filterMap_cons_none hf]; rfl
  | some b => rw [List.filterMap_cons_some hf]; rfl

/-- **The loop from an index down**: it does not leave the list, and treats each item up to there
once. -/
theorem producerDiedLoop_spec (who : Nat) (hi : i < pool.mPoolList.size) :
    ∃ l : KeyedVector Nat PoolItem,
      producerDiedLoop who i pool = some { pool with mPoolList := l } ∧
      l.entries = (pool.mPoolList.entries.take (i + 1)).filterMap
          (fun e => (e.2.afterProducer who).map (e.1, ·)) ++
        pool.mPoolList.entries.drop (i + 1) := by
  induction i generalizing pool with
  | zero =>
    obtain ⟨⟨k, item⟩, hget⟩ : ∃ e, pool.mPoolList.entries[0]? = some e :=
      ⟨_, List.getElem?_eq_getElem hi⟩
    obtain ⟨l, hpass, hl⟩ := producerDiedPass_spec who hget
    refine ⟨l, hpass, ?_⟩
    rw [hl, filterMap_take_succ hget, List.append_assoc]
    rfl
  | succ i ih =>
    obtain ⟨⟨k, item⟩, hget⟩ : ∃ e, pool.mPoolList.entries[i + 1]? = some e :=
      ⟨_, List.getElem?_eq_getElem hi⟩
    obtain ⟨l, hpass, hl⟩ := producerDiedPass_spec who hget
    have htake : (pool.mPoolList.entries.take (i + 1)).length = i + 1 :=
      List.length_take_of_le (Nat.le_of_lt hi)
    -- the removal shifts only what was treated already
    have hsize : i < ({ pool with mPoolList := l } : GuiExtPool).mPoolList.size := by
      show i < l.entries.length
      rw [hl, List.length_append, htake]
      omega
    obtain ⟨l', hloop, hl'⟩ := ih hsize
    refine ⟨l', ?_, ?_⟩
    · unfold producerDiedLoop
      rw [hpass]
      exact hloop
    · rw [hl']
      show (l.entries.take (i + 1)).filterMap _ ++ l.entries.drop (i + 1) = _
      rw [hl, List.take_left' htake, List.drop_left' htake, filterMap_take_succ hget,
        List.append_assoc]

/-- **The death of a producer**: the loop stays inside of the list; the items of the producer lose
their token, those of them without a consumer go, and the others stay as they are. -/
theorem binderDied_spec (pool : GuiExtPool) (who : Nat) :
    ∃ l : KeyedVector Nat PoolItem,
      pool.binderDied who = some { pool with mPoolList := l } ∧
      l.entries = pool.mPoolList.entries.filterMap
        fun e => (e.2.afterProducer who).map (e.1, ·) := by
  unfold binderDied
  split
  · rename_i hempty
    refine ⟨pool.mPoolList, rfl, ?_⟩
    rw [List.length_eq_zero_iff.mp hempty]
    rfl
  · rename_i hsize
    have hlast : pool.mPoolList.size - 1 < pool.mPoolList.size := Nat.sub_one_lt hsize
    obtain ⟨l, hloop, hl⟩ := producerDiedLoop_spec who hlast
    refine ⟨l, hloop, ?_⟩
    have hall : pool.mPoolList.entries.length ≤ pool.mPoolList.size - 1 + 1 := by
      show pool.mPoolList.size ≤ _
      omega
    rw [hl, List.take_of_length_le hall, List.drop_eq_nil_of_le hall, List.append_nil]

/-- The loop visits the ids from the last to the first. -/
theorem producerDiedLoop_eq (who : Nat) (hi : i < pool.mPoolList.size) :
    producerDiedLoop who i pool =
      some (((pool.mPoolList.entries.take (i + 1)).map Prod.fst).reverse.foldl
        (producerDiedAt who) pool) := by
  induction i generalizing pool with
  | zero =>
    obtain ⟨⟨k, item⟩, hget⟩ : ∃ e, pool.mPoolList.entries[0]? = some e :=
      ⟨_, List.getElem?_eq_getElem hi⟩
    unfold producerDiedLoop
    rw [producerDiedPass_eq who hget, List.take_add_one, hget]
    rfl
  | succ i ih =>
    obtain ⟨⟨k, item⟩, hget⟩ : ∃ e, pool.mPoolList.entries[i + 1]? = some e :=
      ⟨_, List.getElem?_eq_getElem hi⟩
    have htake : (pool.mPoolList.entries.take (i + 1)).length = i + 1 :=
      List.length_take_of_le (Nat.le_of_lt hi)
    obtain ⟨l, hpass, hl⟩ := producerDiedPass_spec who hget
    rw [producerDiedPass_eq who hget] at hpass
    have hafter := Option.some.inj hpass
    have hsize : i < ({ pool with mPoolList := l } : GuiExtPool).mPoolList.size := by
      show i < l.entries.length
      rw [hl, List.length_append, htake]
      omega
    unfold producerDiedLoop
    rw [producerDiedPass_eq who hget, hafter]
    show producerDiedLoop who i { pool with mPoolList := l } = _
    have hbefore : l.entries.take (i + 1) = pool.mPoolList.entries.take (i + 1) := by
      rw [hl, List.take_left' htake]
    have hkeys : ((pool.mPoolList.entries.take (i + 1 + 1)).map Prod.fst).reverse =
        k :: ((pool.mPoolList.entries.take (i + 1)).map Prod.fst).reverse := by
      rw [List.take_add_one, hget, List.map_append, List.reverse_append]
      rfl
    rw [ih hsize, hkeys, List.foldl_cons, hafter]
    show some (List.foldl _ _ ((l.entries.take (i + 1)).map Prod.fst).reverse) = _
    rw [hbefore]

/-- **It is the step that the runs of the service take.** -/
theorem binderDied_eq (pool : GuiExtPool) (who : Nat) :
    pool.binderDied who = some (pool.producerDied who) := by
  unfold binderDied producerDied
  split
  · rename_i hempty
    rw [List.length_eq_zero_iff.mp hempty]
    rfl
  · rename_i hsize
    have hall : pool.mPoolList.entries.length ≤ pool.mPoolList.size - 1 + 1 := by
      show pool.mPoolList.size ≤ _
      omega
    rw [producerDiedLoop_eq who (Nat.sub_one_lt hsize), List.take_of_length_le hall]

end GuiExtPool

end Sloane.GuiExt
