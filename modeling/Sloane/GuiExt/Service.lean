import Sloane.GuiExt.Pool
import Sloane.Lib.Run

/-!
# The pools of the service over its whole life

The calls of `GuiExtPool` together with the deaths of the binders of producers and consumers, any
of them in any order.  A binder keeps only weak references to its death observers: the observer of
a producer is kept by the pool item, that of a consumer by the slots it holds, and so a consumer
that has given back its buffers dies unnoticed.

* `valueFor_next` — every call but `alloc` acts on the items one by one, as `PoolItem.take` says.
-/

namespace Sloane.GuiExt

open Sloane.Lib System

/-! ## Deaths -/

namespace PoolItem

/-- A slot has the token, and with it the observer. -/
def heldBy (item : PoolItem) (who : Nat) : Bool :=
  item.mConsumerList.values.any fun slot => slot.token = some who

/-- Some consumer holds a buffer. -/
def isHeld (item : PoolItem) : Bool :=
  item.mConsumerList.values.any fun slot => slot.token.isSome

/-- One pass of the first loop of `ConsumerDeathObserver::binderDied`, at the slot with key `k`. -/
def releaseSlot (who : Nat) (item : PoolItem) (k : Nat) : PoolItem :=
  match item.mConsumerList.valueFor k with
  | none => item
  | some slot =>
      if slot.token = some who then
        let item := (item.release slot.usage slot.type slot.idx).2
        { item with
          mConsumerList := item.mConsumerList.modify k fun slot => { slot with token := none } }
      else item

/-- The other two loops: connected are the usages of the slots that still have a token. -/
def recomputeDisconnected (item : PoolItem) : PoolItem :=
  { item with
    mIsDisconnected := fun i =>
      if item.mConsumerList.values.any fun slot => slot.token.isSome && slot.usage = i then false
      else if i < GUI_EXT_USAGE_MAX then true
      else item.mIsDisconnected i }

/-- `ConsumerDeathObserver::binderDied` up to the call of the listener. -/
def consumerDied (item : PoolItem) (who : Nat) : PoolItem :=
  ((item.mConsumerList.entries.map Prod.fst).foldl (releaseSlot who) item).recomputeDisconnected

/-- What `removePoolItemLocked` removes. -/
def isRemovable (item : PoolItem) : Bool :=
  !((List.range GUI_EXT_USAGE_MAX).any fun i => !item.mIsDisconnected i) &&
    item.mProducerToken.isNone

/-- The item after `removePoolItemLocked`. -/
def checked (item : PoolItem) : Option PoolItem := if item.isRemovable then none else some item

end PoolItem

namespace GuiExtPool

/-- One pass of the loop of `ProducerDeathObserver::binderDied`: what it does to an item that has
the token is what `free` does. -/
def producerDiedAt (who : Nat) (pool : GuiExtPool) (poolId : Nat) : GuiExtPool :=
  match pool.mPoolList.valueFor poolId with
  | none => pool
  | some item => if item.mProducerToken = some who then (pool.free poolId).2 else pool

/-- `ProducerDeathObserver::binderDied`, from the last item to the first. -/
def producerDied (pool : GuiExtPool) (who : Nat) : GuiExtPool :=
  (pool.mPoolList.entries.map Prod.fst).reverse.foldl (producerDiedAt who) pool

/-- The death of a consumer as one pool learns of it: the observer in one of the slots is called,
and the listener if no slot is held any more. -/
def consumerDied (pool : GuiExtPool) (who poolId : Nat) : GuiExtPool :=
  match pool.mPoolList.valueFor poolId with
  | none => pool
  | some item =>
      if item.heldBy who then
        let item := item.consumerDied who
        let pool := { pool with mPoolList := pool.mPoolList.modify poolId fun _ => item }
        if item.isHeld then pool else pool.removePoolItemLocked poolId
      else pool

end GuiExtPool

/-! ## What the calls leave beside the pools -/

namespace GuiExtPool

/-- Nothing but the list of the pools differs. -/
def SameRest (pool pool' : GuiExtPool) : Prop :=
  pool'.mPoolId = pool.mPoolId ∧ pool'.mDisplayList = pool.mDisplayList

theorem SameRest.trans {p p' p'' : GuiExtPool} (h : SameRest p p') (h' : SameRest p' p'') :
    SameRest p p'' := ⟨h'.1.trans h.1, h'.2.trans h.2⟩

theorem removePoolItemLocked_rest (pool : GuiExtPool) (poolId : Nat) :
    SameRest pool (pool.removePoolItemLocked poolId) := by
  unfold removePoolItemLocked
  split
  · exact ⟨rfl, rfl⟩
  · split
    · exact ⟨rfl, rfl⟩
    · split <;> exact ⟨rfl, rfl⟩

theorem withItem_rest (pool : GuiExtPool) (poolId : Nat) (f : PoolItem → Int × PoolItem) :
    SameRest pool (pool.withItem poolId f).2 := by
  unfold withItem
  split <;> exact ⟨rfl, rfl⟩

theorem free_rest (pool : GuiExtPool) (poolId : Nat) : SameRest pool (pool.free poolId).2 := by
  unfold free
  split
  · exact ⟨rfl, rfl⟩
  · exact removePoolItemLocked_rest _ _

theorem disconnect_rest (pool : GuiExtPool) (poolId usage : Nat) :
    SameRest pool (pool.disconnect poolId usage).2 := by
  unfold disconnect
  split
  · exact ⟨rfl, rfl⟩
  · exact (withItem_rest pool poolId _).trans (removePoolItemLocked_rest _ _)

theorem producerDied_rest (pool : GuiExtPool) (who : Nat) :
    SameRest pool (pool.producerDied who) := by
  unfold producerDied
  generalize (pool.mPoolList.entries.map Prod.fst).reverse = ids
  induction ids generalizing pool with
  | nil => exact ⟨rfl, rfl⟩
  | cons id ids ih =>
    have hfirst : SameRest pool (producerDiedAt who pool id) := by
      unfold producerDiedAt
      split
      · exact ⟨rfl, rfl⟩
      · split
        · exact free_rest pool id
        · exact ⟨rfl, rfl⟩
    exact hfirst.trans (ih _)

theorem consumerDied_rest (pool : GuiExtPool) (who poolId : Nat) :
    SameRest pool (pool.consumerDied who poolId) := by
  unfold consumerDied
  split
  · exact ⟨rfl, rfl⟩
  · dsimp only
    split
    · split
      · exact ⟨rfl, rfl⟩
      · exact removePoolItemLocked_rest _ _
    · exact ⟨rfl, rfl⟩

end GuiExtPool

/-! ## Runs -/

/-- A consumer that acquired from a pool, and the queue it acquired from. -/
structure Connection where
  poolId : Nat
  token : Nat
  usage : Nat
  type : Nat
  deriving DecidableEq, Repr

/-- The pools, and the consumers that acquired and have not disconnected or died since; the
service has no record of the latter. -/
structure ServiceState where
  pool : GuiExtPool
  connected : List Connection

/-- `token` is the caller where the call has one, and for `disconnect`, where it has none. -/
inductive ServiceAct where
  | alloc (token grallocUsage w h : Nat)
  | free (poolId : Nat)
  | configDisplay (type : Nat) (enable : Bool) (w h bufNum : Nat)
  | acquire (token poolId usage type : Nat) (d : Dequeued)
  | release (poolId usage type buf : Nat)
  | disconnect (token poolId usage type : Nat)
  | producerDied (token : Nat)
  /-- as one pool learns of it -/
  | consumerDied (token poolId : Nat)
  deriving DecidableEq, Repr

namespace ServiceState

def next (s : ServiceState) : ServiceAct → ServiceState
  | .alloc token grallocUsage w h =>
      let (err, poolId, pool) := s.pool.alloc token grallocUsage w h
      ⟨pool, if err = NO_ERROR then s.connected.filter fun c => c.poolId ≠ poolId
        else s.connected⟩
  | .free poolId => ⟨(s.pool.free poolId).2, s.connected⟩
  | .configDisplay type enable w h bufNum =>
      ⟨s.pool.configDisplay type enable w h bufNum, s.connected⟩
  | .acquire token poolId usage type d =>
      let (r, pool) := s.pool.acquire token poolId usage type d
      ⟨pool, if r.err = NO_ERROR then ⟨poolId, token, usage, type⟩ :: s.connected
        else s.connected⟩
  | .release poolId usage type buf => ⟨(s.pool.release poolId usage type buf).2, s.connected⟩
  | .disconnect token poolId usage type =>
      ⟨(s.pool.disconnect poolId usage).2,
        s.connected.filter fun c => c ≠ ⟨poolId, token, usage, type⟩⟩
  | .producerDied token => ⟨s.pool.producerDied token, s.connected⟩
  | .consumerDied token poolId =>
      ⟨s.pool.consumerDied token poolId,
        s.connected.filter fun c => ¬ (c.poolId = poolId ∧ c.token = token)⟩

def start : ServiceState := ⟨.new, []⟩

end ServiceState

def service : System ServiceState ServiceAct := ofStep .start fun s a => some (s.next a)

/-! ## What the operations do to the item under an id -/

namespace PoolItem

/-- Held by someone, in terms of lookups. -/
theorem isHeld_iff {item : PoolItem} :
    item.isHeld = true ↔ ∃ k slot, item.mConsumerList.valueFor k = some slot ∧
      slot.token.isSome := by
  unfold isHeld
  rw [List.any_eq_true]
  constructor
  · rintro ⟨slot, hmem, htoken⟩
    obtain ⟨k, hk⟩ := KeyedVector.mem_values_iff.mp hmem
    exact ⟨k, slot, hk, htoken⟩
  · rintro ⟨k, slot, hk, htoken⟩
    exact ⟨slot, KeyedVector.mem_values_iff.mpr ⟨k, hk⟩, htoken⟩

theorem heldBy_iff {item : PoolItem} {who : Nat} :
    item.heldBy who = true ↔ ∃ k slot, item.mConsumerList.valueFor k = some slot ∧
      slot.token = some who := by
  unfold heldBy
  rw [List.any_eq_true]
  constructor
  · rintro ⟨slot, hmem, htoken⟩
    obtain ⟨k, hk⟩ := KeyedVector.mem_values_iff.mp hmem
    exact ⟨k, slot, hk, of_decide_eq_true htoken⟩
  · rintro ⟨k, slot, hk, htoken⟩
    exact ⟨slot, KeyedVector.mem_values_iff.mpr ⟨k, hk⟩, decide_eq_true htoken⟩

theorem isRemovable_iff {item : PoolItem} :
    item.isRemovable = true ↔
      (∀ i < GUI_EXT_USAGE_MAX, item.mIsDisconnected i = true) ∧ item.mProducerToken = none := by
  simp [isRemovable]

/-- What preparing the slots of a queue keeps is kept by `prepareBuffer`. -/
theorem prepareBuffer_preserved {P : PoolItem → Prop} {item : PoolItem}
    (hstep : ∀ (item : PoolItem) (type bufNum : Nat), P item →
      P (item.prepareSlots GUI_EXT_USAGE_HWC type bufNum)) (h : P item) :
    P item.prepareBuffer.2 := by
  unfold prepareBuffer
  split
  · dsimp only
    rename_i hneeded
    clear hneeded
    generalize item.mHwcUsedBqList.values = qs
    induction qs generalizing item with
    | nil => exact h
    | cons q qs ih => exact ih (hstep item q.type q.bufNum h)
  · exact h

end PoolItem

namespace GuiExtPool

theorem valueFor_removePoolItemLocked (pool : GuiExtPool) (poolId k : Nat) :
    (pool.removePoolItemLocked poolId).mPoolList.valueFor k =
      if k = poolId then (pool.mPoolList.valueFor k).bind PoolItem.checked
      else pool.mPoolList.valueFor k := by
  unfold removePoolItemLocked
  split
  · rename_i hnone
    exact KeyedVector.valueFor_absent_bind hnone k _
  · rename_i item hitem
    split
    · rename_i hany
      split
      · rename_i hk
        rw [hk, hitem, Option.bind_some, PoolItem.checked, PoolItem.isRemovable, hany]
        rfl
      · rfl
    · rename_i hany
      rw [Bool.not_eq_true] at hany
      split
      · rename_i htoken
        rw [KeyedVector.valueFor_removeItem]
        split
        · rename_i hk
          rw [hk, hitem, Option.bind_some, PoolItem.checked, PoolItem.isRemovable, hany, htoken]
          rfl
        · rfl
      · rename_i htoken
        split
        · rename_i hk
          rw [hk, hitem, Option.bind_some, PoolItem.checked, PoolItem.isRemovable, hany,
            Option.isNone_eq_false_iff.mpr (Option.isSome_iff_ne_none.mpr htoken)]
          rfl
        · rfl

theorem valueFor_withItem (pool : GuiExtPool) (poolId k : Nat) (f : PoolItem → Int × PoolItem) :
    (pool.withItem poolId f).2.mPoolList.valueFor k =
      if k = poolId then (pool.mPoolList.valueFor k).map fun item => (f item).2
      else pool.mPoolList.valueFor k := by
  unfold withItem
  split
  · rename_i hnone
    exact KeyedVector.valueFor_absent_map hnone k _
  · rename_i item hitem
    dsimp only
    rw [KeyedVector.valueFor_modify]
    split
    · rename_i hk
      rw [hk, hitem, Option.map_some, Option.map_some]
    · rfl

theorem valueFor_free (pool : GuiExtPool) (poolId k : Nat) :
    (pool.free poolId).2.mPoolList.valueFor k =
      if k = poolId then
        (pool.mPoolList.valueFor k).bind fun item => { item with mProducerToken := none }.checked
      else pool.mPoolList.valueFor k := by
  unfold free
  split
  · rename_i hnone
    exact KeyedVector.valueFor_absent_bind hnone k _
  · rw [valueFor_removePoolItemLocked]
    simp only [KeyedVector.valueFor_modify]
    split
    · rw [Option.bind_map]
      rfl
    · rfl

theorem valueFor_disconnect (pool : GuiExtPool) (poolId usage k : Nat) :
    (pool.disconnect poolId usage).2.mPoolList.valueFor k =
      if k = poolId then
        (pool.mPoolList.valueFor k).bind fun item => (item.disconnect usage).2.checked
      else pool.mPoolList.valueFor k := by
  unfold disconnect
  split
  · rename_i hnone
    exact KeyedVector.valueFor_absent_bind hnone k _
  · dsimp only
    rw [valueFor_removePoolItemLocked, valueFor_withItem]
    split
    · rw [Option.bind_map]
      rfl
    · rfl

theorem valueFor_consumerDied (pool : GuiExtPool) (who poolId k : Nat) :
    (pool.consumerDied who poolId).mPoolList.valueFor k =
      if k = poolId then
        (pool.mPoolList.valueFor k).bind fun item =>
          if item.heldBy who then
            if (item.consumerDied who).isHeld then some (item.consumerDied who)
            else (item.consumerDied who).checked
          else some item
      else pool.mPoolList.valueFor k := by
  unfold consumerDied
  split
  · rename_i hnone
    exact KeyedVector.valueFor_absent_bind hnone k _
  · rename_i item hitem
    have hk : ∀ {k}, k = poolId → pool.mPoolList.valueFor k = some item := fun h => h ▸ hitem
    by_cases hheld : item.heldBy who
    · dsimp only
      rw [if_pos hheld]
      by_cases hstill : (item.consumerDied who).isHeld
      · rw [if_pos hstill, KeyedVector.valueFor_modify]
        split
        · rename_i hid
          rw [hk hid, Option.map_some, Option.bind_some, if_pos hheld, if_pos hstill]
        · rfl
      · rw [if_neg hstill, valueFor_removePoolItemLocked]
        simp only [KeyedVector.valueFor_modify]
        split
        · rename_i hid
          rw [hk hid, Option.map_some, Option.bind_some, Option.bind_some, if_pos hheld,
            if_neg hstill]
        · rfl
    · dsimp only
      rw [if_neg hheld]
      split
      · rename_i hid
        rw [hk hid, Option.bind_some, if_neg hheld]
      · rfl

theorem valueFor_producerDiedAt (who : Nat) (pool : GuiExtPool) (poolId k : Nat) :
    (producerDiedAt who pool poolId).mPoolList.valueFor k =
      if k = poolId then
        (pool.mPoolList.valueFor k).bind fun item =>
          if item.mProducerToken = some who then { item with mProducerToken := none }.checked
          else some item
      else pool.mPoolList.valueFor k := by
  unfold producerDiedAt
  split
  · rename_i hnone
    exact KeyedVector.valueFor_absent_bind hnone k _
  · rename_i item hitem
    by_cases htoken : item.mProducerToken = some who
    · rw [if_pos htoken, valueFor_free]
      split
      · rename_i hk
        rw [hk, hitem, Option.bind_some, Option.bind_some, if_pos htoken]
      · rfl
    · rw [if_neg htoken]
      split
      · rename_i hk
        rw [hk, hitem, Option.bind_some, if_neg htoken]
      · rfl

/-- A fold that acts at one id after the other acts at each id once. -/
theorem valueFor_foldl {f : GuiExtPool → Nat → GuiExtPool} {g : PoolItem → Option PoolItem}
    (hf : ∀ pool id k, (f pool id).mPoolList.valueFor k =
      if k = id then (pool.mPoolList.valueFor k).bind g else pool.mPoolList.valueFor k)
    {ids : List Nat} (hids : ids.Nodup) (pool : GuiExtPool) (k : Nat) :
    (ids.foldl f pool).mPoolList.valueFor k =
      if k ∈ ids then (pool.mPoolList.valueFor k).bind g else pool.mPoolList.valueFor k := by
  induction ids generalizing pool with
  | nil => rfl
  | cons id ids ih =>
    obtain ⟨hid, hids⟩ := List.nodup_cons.mp hids
    rw [List.foldl_cons, ih hids, hf]
    by_cases hk : k = id
    · subst hk
      rw [if_neg hid, if_pos rfl, if_pos List.mem_cons_self]
    · rw [if_neg hk]
      simp [hk]

theorem valueFor_producerDied (pool : GuiExtPool) (who k : Nat) :
    (pool.producerDied who).mPoolList.valueFor k =
      (pool.mPoolList.valueFor k).bind fun item =>
        if item.mProducerToken = some who then { item with mProducerToken := none }.checked
        else some item := by
  unfold producerDied
  have hnodup := (List.reverse_perm _).nodup_iff.mpr pool.mPoolList.keys_nodup
  rw [valueFor_foldl (valueFor_producerDiedAt who) hnodup]
  split
  · rfl
  · rename_i hk
    cases hitem : pool.mPoolList.valueFor k with
    | none => rfl
    | some item =>
      have hkey := KeyedVector.mem_keys_iff.mpr (Option.isSome_iff_exists.mpr ⟨item, hitem⟩)
      exact absurd (List.mem_reverse.mpr hkey) hk

/-- The item of a new pool. -/
def newItem (pool : GuiExtPool) (token grallocUsage w h : Nat) : PoolItem :=
  ((PoolItem.make pool.generations token (grallocUsage &&& GRALLOC_USAGE_HW_COMPOSER ≠ 0)
    (pool.defaultDisplay w h)).prepareBuffer).2

theorem prepareBuffer_ok (item : PoolItem) : item.prepareBuffer.1 = NO_ERROR := by
  unfold PoolItem.prepareBuffer
  split <;> rfl

theorem alloc_full {pool : GuiExtPool} (hsize : MAX_ALLOC_SIZE ≤ pool.mPoolList.size)
    (token grallocUsage w h : Nat) :
    pool.alloc token grallocUsage w h = (NOT_ENOUGH_DATA, 0, pool) := if_pos hsize

/-- **What alloc does** when there is room. -/
theorem alloc_room {pool : GuiExtPool} (hsize : pool.mPoolList.size < MAX_ALLOC_SIZE)
    (token grallocUsage w h : Nat) :
    pool.alloc token grallocUsage w h = (NO_ERROR, pool.getPoolId,
      { mPoolId := pool.getPoolId
        mPoolList := pool.mPoolList.add pool.getPoolId (pool.newItem token grallocUsage w h)
        mDisplayList := pool.defaultDisplay w h
        generations := pool.generations + 1 }) := by
  unfold alloc
  rw [if_neg (Nat.not_le.mpr hsize)]
  dsimp only
  rw [prepareBuffer_ok, if_neg (not_not.mpr rfl)]
  rfl

end GuiExtPool

/-! ## One call, item by item -/

/-- What a call does to the item under an id; no item is left if it is removed. -/
def PoolItem.take (item : PoolItem) (id : Nat) : ServiceAct → Option PoolItem
  | .free poolId =>
      if id = poolId then { item with mProducerToken := none }.checked else some item
  | .acquire token poolId usage type d =>
      some (if id = poolId then (item.acquire token usage type d).2 else item)
  | .release poolId usage type buf =>
      some (if id = poolId then (item.release usage type buf).2 else item)
  | .disconnect _ poolId usage _ =>
      if id = poolId then (item.disconnect usage).2.checked else some item
  | .producerDied who =>
      if item.mProducerToken = some who then { item with mProducerToken := none }.checked
      else some item
  | .consumerDied who poolId =>
      if id = poolId ∧ item.heldBy who then
        if (item.consumerDied who).isHeld then some (item.consumerDied who)
        else (item.consumerDied who).checked
      else some item
  | .alloc _ _ _ _ | .configDisplay _ _ _ _ _ => some item

/-- **A call acts on the pools one by one.** -/
theorem valueFor_next {s : ServiceState} {k : Nat} {item : PoolItem}
    (hitem : s.pool.mPoolList.valueFor k = some item) (a : ServiceAct) :
    (s.next a).pool.mPoolList.valueFor k = item.take k a := by
  cases a with
  | alloc token grallocUsage w h =>
    simp only [ServiceState.next]
    by_cases hsize : s.pool.mPoolList.size < MAX_ALLOC_SIZE
    · rw [GuiExtPool.alloc_room hsize]
      dsimp only
      rw [KeyedVector.valueFor_add, if_neg, hitem]
      · rfl
      · intro hk
        have hfree := (GuiExtPool.getPoolId_spec hsize).1
        rw [← hk, hitem] at hfree
        cases hfree
    · rw [GuiExtPool.alloc_full (Nat.not_lt.mp hsize)]
      exact hitem
  | free poolId =>
    simp only [ServiceState.next, GuiExtPool.valueFor_free, hitem, Option.bind_some,
      PoolItem.take]
  | configDisplay type enable w h bufNum =>
    simp only [ServiceState.next, GuiExtPool.configDisplay_mPoolList]
    exact hitem
  | acquire token poolId usage type d =>
    simp only [ServiceState.next, GuiExtPool.acquire, GuiExtPool.valueFor_withItem, hitem,
      Option.map_some, PoolItem.take]
    split <;> rfl
  | release poolId usage type buf =>
    simp only [ServiceState.next, GuiExtPool.release, GuiExtPool.valueFor_withItem, hitem,
      Option.map_some, PoolItem.take]
    split <;> rfl
  | disconnect token poolId usage type =>
    simp only [ServiceState.next, GuiExtPool.valueFor_disconnect, hitem, Option.bind_some,
      PoolItem.take]
  | producerDied who =>
    simp only [ServiceState.next, GuiExtPool.valueFor_producerDied, hitem, Option.bind_some,
      PoolItem.take]
  | consumerDied who poolId =>
    simp only [ServiceState.next, GuiExtPool.valueFor_consumerDied, hitem, Option.bind_some,
      PoolItem.take]
    by_cases hk : k = poolId
    · simp [hk]
    · simp [hk]

/-- An item that was not there before is new. -/
theorem next_new {s : ServiceState} {k : Nat} {item : PoolItem} {a : ServiceAct}
    (hnone : s.pool.mPoolList.valueFor k = none)
    (hitem : (s.next a).pool.mPoolList.valueFor k = some item) :
    ∃ token grallocUsage w h, a = .alloc token grallocUsage w h ∧
      s.pool.mPoolList.size < MAX_ALLOC_SIZE ∧ k = s.pool.getPoolId ∧
      item = s.pool.newItem token grallocUsage w h := by
  cases a with
  | alloc token grallocUsage w h =>
    refine ⟨token, grallocUsage, w, h, rfl, ?_⟩
    simp only [ServiceState.next] at hitem
    by_cases hsize : s.pool.mPoolList.size < MAX_ALLOC_SIZE
    · rw [GuiExtPool.alloc_room hsize] at hitem
      dsimp only at hitem
      rw [KeyedVector.valueFor_add] at hitem
      split at hitem
      · rename_i hk
        exact ⟨hsize, hk, (Option.some.inj hitem).symm⟩
      · rw [hnone] at hitem
        cases hitem
    · rw [GuiExtPool.alloc_full (Nat.not_lt.mp hsize)] at hitem
      dsimp only at hitem
      rw [hnone] at hitem
      cases hitem
  | configDisplay type enable w h bufNum =>
    simp only [ServiceState.next, GuiExtPool.configDisplay_mPoolList, hnone] at hitem
    cases hitem
  | _ =>
    simp [ServiceState.next, GuiExtPool.valueFor_free, GuiExtPool.acquire, GuiExtPool.release,
      GuiExtPool.valueFor_withItem, GuiExtPool.valueFor_disconnect,
      GuiExtPool.valueFor_producerDied, GuiExtPool.valueFor_consumerDied, hnone] at hitem

end Sloane.GuiExt
