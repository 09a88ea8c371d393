import Mathlib.Data.List.Perm.Subperm
import Sloane.GuiExt.ClientConsumer

/-!
# The buffer pools of the GuiExt service

Model of `GuiExtPool` and `GuiExtPoolItem`.  The buffer queues are not modelled: what
`dequeueBuffer` returns is an argument, and a queue keeps one fixed buffer per slot.

* `getPoolId_spec` — as long as there are fewer pools than ids, the search ends at a free id.
* `Keeps` — the calls other than `alloc` keep the pools that remain.
-/

namespace Sloane.GuiExt

open Sloane.Lib

def NOT_ENOUGH_DATA : Int := -61
def INVALID_OPERATION : Int := -38
def BAD_INDEX : Int := -75
def WOULD_BLOCK : Int := -11

def MAX_ALLOC_SIZE : Nat := 10
def MAX_HWC_DEQUEUED_NUM : Nat := 3
def HWC_NUM_DISPLAY_TYPES : Nat := 3
def GRALLOC_USAGE_HW_COMPOSER : Nat := 0x800

structure DispInfo where
  type : Nat
  w : Nat
  h : Nat
  bufNum : Nat
  deriving DecidableEq, Repr

/-- A buffer queue for the hardware composer. -/
structure HwcBqSlot where
  type : Nat
  bufNum : Nat
  deriving DecidableEq, Repr

structure ConsumerSlot where
  usage : Nat
  type : Nat
  idx : Nat
  token : Option Nat
  deriving DecidableEq, Repr

/-- The buffer in a slot of a queue: the queue is told by the pool that it was made for. -/
structure BufferId where
  generation : Nat
  usage : Nat
  type : Nat
  idx : Nat
  deriving DecidableEq, Repr

/-- `GuiExtPoolItem`; `generation` tells it from the other items ever made. -/
structure PoolItem where
  generation : Nat
  mIsHwcNeeded : Bool
  mHwcUsedBqList : KeyedVector Nat HwcBqSlot
  mConsumerList : KeyedVector Nat ConsumerSlot
  mIsDisconnected : Nat → Bool
  mProducerToken : Option Nat

structure GuiExtPool where
  mPoolId : Nat
  mPoolList : KeyedVector Nat PoolItem
  mDisplayList : KeyedVector Nat DispInfo
  /-- how many items have been made -/
  generations : Nat

/-- What `dequeueBuffer` returns. -/
structure Dequeued where
  ret : Int
  buf : Int
  deriving DecidableEq, Repr

/-! ## Items -/

/-- `POOL_COMBINED_ID` of the service. -/
def CONSUMER_COMBINED_ID (usage type idx : Nat) : Nat :=
  (usage <<< 6 ||| type <<< 3 ||| idx) % 2 ^ 32

namespace PoolItem

/-- The queue asked for, if there is one; the queue for the GPU is never made. -/
def getIGraphicBufferProducer (item : PoolItem) (usage type : Nat) : Option HwcBqSlot :=
  if usage = GUI_EXT_USAGE_HWC then
    if HWC_NUM_DISPLAY_TYPES ≤ type then none else item.mHwcUsedBqList.valueFor type
  else none

/-- The consumer slots of one queue. -/
def prepareSlots (item : PoolItem) (usage type bufNum : Nat) : PoolItem :=
  { item with
    mConsumerList := (List.range bufNum).foldl (fun l i =>
      match l.valueFor (CONSUMER_COMBINED_ID usage type i) with
      | none => l.add (CONSUMER_COMBINED_ID usage type i) ⟨usage, type, i, none⟩
      | some _ => l) item.mConsumerList }

def prepareBuffer (item : PoolItem) : Int × PoolItem :=
  if item.mIsHwcNeeded then
    (NO_ERROR, item.mHwcUsedBqList.values.foldl
      (fun item slot => item.prepareSlots GUI_EXT_USAGE_HWC slot.type slot.bufNum) item)
  else (NO_ERROR, item)

/-- The constructor. -/
def make (generation : Nat) (token : Nat) (isHwcNeeded : Bool)
    (dispList : KeyedVector Nat DispInfo) : PoolItem where
  generation := generation
  mIsHwcNeeded := isHwcNeeded
  mHwcUsedBqList :=
    if isHwcNeeded then
      dispList.values.foldl (fun l d => l.add d.type ⟨d.type, d.bufNum⟩) .empty
    else .empty
  mConsumerList := .empty
  mIsDisconnected := fun _ => true
  mProducerToken := some token

def acquire (item : PoolItem) (token usage type : Nat) (d : Dequeued) : Int × PoolItem :=
  if item.mIsHwcNeeded = false ∧ usage = GUI_EXT_USAGE_HWC then (INVALID_OPERATION, item)
  else
    match item.getIGraphicBufferProducer usage type with
    | none => (BAD_INDEX, item)
    | some _ =>
        if d.ret = WOULD_BLOCK ∨ d.buf < 0 then (WOULD_BLOCK, item)
        else
          let combinedId := CONSUMER_COMBINED_ID usage type d.buf.toNat
          match item.mConsumerList.valueFor combinedId with
          | none => (BAD_INDEX, item)
          | some slot =>
              (NO_ERROR, { item with
                mConsumerList :=
                  if slot.token = none then
                    item.mConsumerList.add combinedId ⟨usage, type, d.buf.toNat, some token⟩
                  else item.mConsumerList
                mIsDisconnected := fun i =>
                  if i = usage then false else item.mIsDisconnected i })

def request (item : PoolItem) (usage type buf : Nat) : Int × Option BufferId :=
  if item.mIsHwcNeeded = false ∧ usage = GUI_EXT_USAGE_HWC then (INVALID_OPERATION, none)
  else
    match item.getIGraphicBufferProducer usage type with
    | none => (BAD_INDEX, none)
    | some _ => (NO_ERROR, some ⟨item.generation, usage, type, buf⟩)

def release (item : PoolItem) (usage type buf : Nat) : Int × PoolItem :=
  if item.mIsHwcNeeded = false ∧ usage = GUI_EXT_USAGE_HWC then (INVALID_OPERATION, item)
  else
    match item.getIGraphicBufferProducer usage type with
    | none => (BAD_INDEX, item)
    | some _ =>
        (NO_ERROR, { item with
          mConsumerList := item.mConsumerList.modify (CONSUMER_COMBINED_ID usage type buf)
            fun slot => { slot with token := none } })

def disconnect (item : PoolItem) (usage : Nat) : Int × PoolItem :=
  if item.mIsHwcNeeded = false ∧ usage = GUI_EXT_USAGE_HWC then (INVALID_OPERATION, item)
  else
    (NO_ERROR, { item with
      mIsDisconnected := fun i => if i = usage then true else item.mIsDisconnected i })

end PoolItem

/-! ## Pools -/

namespace GuiExtPool

def new : GuiExtPool := ⟨0, .empty, .empty, 0⟩

def idOf (mPoolId : Nat) : Nat := if mPoolId = 0 then MAX_ALLOC_SIZE else mPoolId

/-- The loop of `getPoolId`, with the number of passes left. -/
def getPoolIdLoop (mPoolList : KeyedVector Nat PoolItem) : Nat → Nat → Nat
  | 0, mPoolId => idOf mPoolId
  | n + 1, mPoolId =>
      if (mPoolList.valueFor (idOf mPoolId)).isSome then
        getPoolIdLoop mPoolList n ((mPoolId + 1) % MAX_ALLOC_SIZE)
      else idOf mPoolId

/-- The id, which is also the new `mPoolId`.  As many passes as there are ids are enough. -/
def getPoolId (pool : GuiExtPool) : Nat :=
  getPoolIdLoop pool.mPoolList MAX_ALLOC_SIZE ((pool.mPoolId + 1) % MAX_ALLOC_SIZE)

/-- `w` and `h` are those of the default display, looked up when there is no pool. -/
def defaultDisplay (pool : GuiExtPool) (w h : Nat) : KeyedVector Nat DispInfo :=
  if pool.mPoolList.size = 0 then
    pool.mDisplayList.add HWC_DISPLAY_PRIMARY ⟨0, w, h, MAX_HWC_DEQUEUED_NUM⟩
  else pool.mDisplayList

/-- A status and the id of the pool. -/
def alloc (pool : GuiExtPool) (token grallocUsage w h : Nat) : Int × Nat × GuiExtPool :=
  if MAX_ALLOC_SIZE ≤ pool.mPoolList.size then (NOT_ENOUGH_DATA, 0, pool)
  else
    let displays := pool.defaultDisplay w h
    let poolId := pool.getPoolId
    let isHwcNeeded := grallocUsage &&& GRALLOC_USAGE_HW_COMPOSER ≠ 0
    let (err, item) := (PoolItem.make pool.generations token isHwcNeeded displays).prepareBuffer
    let pool := { pool with mPoolId := poolId, mDisplayList := displays,
                            generations := pool.generations + 1 }
    if err ≠ NO_ERROR then (err, 0, pool)
    else (err, poolId, { pool with mPoolList := pool.mPoolList.add poolId item })

def removePoolItemLocked (pool : GuiExtPool) (poolId : Nat) : GuiExtPool :=
  match pool.mPoolList.valueFor poolId with
  | none => pool
  | some item =>
      if (List.range GUI_EXT_USAGE_MAX).any fun i => !item.mIsDisconnected i then pool
      else if item.mProducerToken = none then
        { pool with mPoolList := pool.mPoolList.removeItem poolId }
      else pool

def free (pool : GuiExtPool) (poolId : Nat) : Int × GuiExtPool :=
  match pool.mPoolList.valueFor poolId with
  | none => (BAD_INDEX, pool)
  | some _ =>
      (NO_ERROR, removePoolItemLocked { pool with
        mPoolList := pool.mPoolList.modify poolId fun item => { item with mProducerToken := none } }
        poolId)

/-- Let the item of a pool take a call. -/
def withItem (pool : GuiExtPool) (poolId : Nat) (f : PoolItem → Int × PoolItem) :
    Int × GuiExtPool :=
  match pool.mPoolList.valueFor poolId with
  | none => (BAD_INDEX, pool)
  | some item =>
      ((f item).1, { pool with mPoolList := pool.mPoolList.modify poolId fun _ => (f item).2 })

def acquire (pool : GuiExtPool) (token poolId usage type : Nat) (d : Dequeued) :
    AcquireReply × GuiExtPool :=
  let (err, pool) := pool.withItem poolId fun item => item.acquire token usage type d
  (⟨err, d.buf.toNat⟩, pool)

def request (pool : GuiExtPool) (poolId usage type buf : Nat) : Int × Option BufferId :=
  match pool.mPoolList.valueFor poolId with
  | none => (BAD_INDEX, none)
  | some item => item.request usage type buf

def release (pool : GuiExtPool) (poolId usage type buf : Nat) : Int × GuiExtPool :=
  pool.withItem poolId fun item => item.release usage type buf

def disconnect (pool : GuiExtPool) (poolId usage : Nat) : Int × GuiExtPool :=
  match pool.mPoolList.valueFor poolId with
  | none => (BAD_INDEX, pool)
  | some _ =>
      let (err, pool) := pool.withItem poolId fun item => item.disconnect usage
      (err, pool.removePoolItemLocked poolId)

/-- Displays other than the primary are removed twice, which makes no difference. -/
def configDisplay (pool : GuiExtPool) (type : Nat) (enable : Bool) (w h bufNum : Nat) :
    GuiExtPool :=
  if enable = false ∨ w = 0 ∨ h = 0 ∨ bufNum = 0 then
    { pool with mDisplayList := pool.mDisplayList.removeItem type }
  else { pool with mDisplayList := pool.mDisplayList.add type ⟨type, w, h, bufNum⟩ }

/-- The buffer that the pool stored under an id holds at a slot. -/
def bufferAt (pool : GuiExtPool) (poolId usage type idx : Nat) : Option BufferId :=
  (pool.mPoolList.valueFor poolId).bind fun item =>
    (item.getIGraphicBufferProducer usage type).map fun _ => ⟨item.generation, usage, type, idx⟩

/-! ## The id of a new pool -/

theorem getPoolIdLoop_free (l : KeyedVector Nat PoolItem) (n m : Nat) (hm : m < MAX_ALLOC_SIZE) :
    l.valueFor (getPoolIdLoop l n m) = none ∨
      ∀ j < n, (l.valueFor (idOf ((m + j) % MAX_ALLOC_SIZE))).isSome := by
  induction n generalizing m with
  | zero => exact .inr fun j hj => absurd hj (Nat.not_lt_zero j)
  | succ n ih =>
    unfold getPoolIdLoop
    split
    · rename_i htaken
      refine (ih _ (Nat.mod_lt _ (by decide))).imp_right fun hall j hj => ?_
      cases j with
      | zero => rwa [Nat.add_zero, Nat.mod_eq_of_lt hm]
      | succ j =>
        have := hall j (by omega)
        rwa [Nat.mod_add_mod, Nat.add_assoc, Nat.add_comm 1 j] at this
    · rename_i hfree
      exact .inl (by simpa using hfree)

theorem getPoolIdLoop_range (l : KeyedVector Nat PoolItem) (n m : Nat) (hm : m < MAX_ALLOC_SIZE) :
    1 ≤ getPoolIdLoop l n m ∧ getPoolIdLoop l n m ≤ MAX_ALLOC_SIZE := by
  have hid : 1 ≤ idOf m ∧ idOf m ≤ MAX_ALLOC_SIZE := by
    unfold idOf
    split
    · decide
    · omega
  induction n generalizing m with
  | zero => exact hid
  | succ n ih =>
    unfold getPoolIdLoop
    split
    · have hlt : (m + 1) % MAX_ALLOC_SIZE < MAX_ALLOC_SIZE := Nat.mod_lt _ (by decide)
      apply ih _ hlt
      unfold idOf
      split
      · decide
      · omega
    · exact hid

/-- **The search for an id ends at a free one**, from 1 to 10. -/
theorem getPoolId_spec {pool : GuiExtPool} (h : pool.mPoolList.size < MAX_ALLOC_SIZE) :
    pool.mPoolList.valueFor pool.getPoolId = none ∧
      1 ≤ pool.getPoolId ∧ pool.getPoolId ≤ MAX_ALLOC_SIZE := by
  have hm : (pool.mPoolId + 1) % MAX_ALLOC_SIZE < MAX_ALLOC_SIZE := Nat.mod_lt _ (by decide)
  refine ⟨(getPoolIdLoop_free pool.mPoolList MAX_ALLOC_SIZE _ hm).resolve_right fun hall => ?_,
    getPoolIdLoop_range _ _ _ hm⟩
  generalize (pool.mPoolId + 1) % MAX_ALLOC_SIZE = m at hm hall
  -- otherwise every id is a key, and there are as many pools as ids
  have hsub : List.range' 1 MAX_ALLOC_SIZE ⊆ pool.mPoolList.entries.map Prod.fst := by
    intro id hid
    obtain ⟨hlo, hhi⟩ := List.mem_range'_1.mp hid
    simp only [MAX_ALLOC_SIZE] at hm hhi hall
    have hkey := hall ((id + 10 - m) % 10) (Nat.mod_lt _ (by decide))
    have hidOf : idOf ((m + (id + 10 - m) % 10) % 10) = id := by
      have hsum : (m + (id + 10 - m) % 10) % 10 = id % 10 := by omega
      rw [hsum]
      unfold idOf MAX_ALLOC_SIZE
      split <;> omega
    rw [hidOf] at hkey
    obtain ⟨item, hitem⟩ := Option.isSome_iff_exists.mp hkey
    exact List.mem_map.mpr ⟨(id, item), KeyedVector.mem_entries_iff.mpr hitem, rfl⟩
  have hlen := (List.subperm_of_subset List.nodup_range' hsub).length_le
  rw [List.length_range', List.length_map] at hlen
  exact absurd h (Nat.not_lt.mpr hlen)

/-! ## What the other calls keep -/

/-- The pools of `pool'` are pools of `pool`, with the same queues. -/
def Keeps (pool pool' : GuiExtPool) : Prop :=
  ∀ id item', pool'.mPoolList.valueFor id = some item' → ∃ item,
    pool.mPoolList.valueFor id = some item ∧ item'.generation = item.generation ∧
      item'.mHwcUsedBqList = item.mHwcUsedBqList

theorem Keeps.refl (pool : GuiExtPool) : Keeps pool pool := fun _ item h => ⟨item, h, rfl, rfl⟩

theorem Keeps.trans {p p' p'' : GuiExtPool} (h : Keeps p p') (h' : Keeps p' p'') : Keeps p p'' := by
  intro id item'' h''
  obtain ⟨item', hitem', hgen', hq'⟩ := h' id item'' h''
  obtain ⟨item, hitem, hgen, hq⟩ := h id item' hitem'
  exact ⟨item, hitem, hgen'.trans hgen, hq'.trans hq⟩

theorem Keeps.modify (pool : GuiExtPool) (poolId : Nat) {f : PoolItem → PoolItem}
    (hf : ∀ item, (f item).generation = item.generation ∧
      (f item).mHwcUsedBqList = item.mHwcUsedBqList) :
    Keeps pool { pool with mPoolList := pool.mPoolList.modify poolId f } := by
  intro id item' h
  rw [KeyedVector.valueFor_modify] at h
  split at h
  · obtain ⟨item, hitem, rfl⟩ := Option.map_eq_some_iff.mp h
    exact ⟨item, hitem, hf item⟩
  · exact ⟨item', h, rfl, rfl⟩

theorem withItem_keeps (pool : GuiExtPool) (poolId : Nat) {f : PoolItem → Int × PoolItem}
    (hf : ∀ item, (f item).2.generation = item.generation ∧
      (f item).2.mHwcUsedBqList = item.mHwcUsedBqList) : Keeps pool (pool.withItem poolId f).2 := by
  unfold withItem
  split
  · exact .refl pool
  · rename_i item hitem
    intro id item' h
    simp only [KeyedVector.valueFor_modify] at h
    split at h
    · rename_i hid
      obtain ⟨_, -, rfl⟩ := Option.map_eq_some_iff.mp h
      exact ⟨item, hid ▸ hitem, hf item⟩
    · exact ⟨item', h, rfl, rfl⟩

theorem removePoolItemLocked_keeps (pool : GuiExtPool) (poolId : Nat) :
    Keeps pool (pool.removePoolItemLocked poolId) := by
  unfold removePoolItemLocked
  split
  · exact .refl pool
  · split
    · exact .refl pool
    · split
      · intro id item h
        simp only [KeyedVector.valueFor_removeItem] at h
        split at h
        · cases h
        · exact ⟨item, h, rfl, rfl⟩
      · exact .refl pool

theorem free_keeps (pool : GuiExtPool) (poolId : Nat) : Keeps pool (pool.free poolId).2 := by
  unfold free
  split
  · exact .refl pool
  · exact .trans (Keeps.modify pool poolId (f := fun item => { item with mProducerToken := none })
      fun _ => ⟨rfl, rfl⟩) (removePoolItemLocked_keeps _ _)

theorem item_acquire_keeps (item : PoolItem) (token usage type : Nat) (d : Dequeued) :
    (item.acquire token usage type d).2.generation = item.generation ∧
      (item.acquire token usage type d).2.mHwcUsedBqList = item.mHwcUsedBqList := by
  unfold PoolItem.acquire
  split
  · exact ⟨rfl, rfl⟩
  · split
    · exact ⟨rfl, rfl⟩
    · split
      · exact ⟨rfl, rfl⟩
      · dsimp only
        split <;> exact ⟨rfl, rfl⟩

theorem acquire_keeps (pool : GuiExtPool) (token poolId usage type : Nat) (d : Dequeued) :
    Keeps pool (pool.acquire token poolId usage type d).2 :=
  withItem_keeps pool poolId fun item => item_acquire_keeps item token usage type d

theorem release_keeps (pool : GuiExtPool) (poolId usage type buf : Nat) :
    Keeps pool (pool.release poolId usage type buf).2 := by
  apply withItem_keeps pool poolId
  intro item
  unfold PoolItem.release
  split
  · exact ⟨rfl, rfl⟩
  · split <;> exact ⟨rfl, rfl⟩

theorem disconnect_keeps (pool : GuiExtPool) (poolId usage : Nat) :
    Keeps pool (pool.disconnect poolId usage).2 := by
  unfold disconnect
  split
  · exact .refl pool
  · refine (withItem_keeps pool poolId fun item => ?_).trans (removePoolItemLocked_keeps _ _)
    unfold PoolItem.disconnect
    split <;> exact ⟨rfl, rfl⟩

theorem configDisplay_mPoolList (pool : GuiExtPool) (type : Nat) (enable : Bool)
    (w h bufNum : Nat) :
    (pool.configDisplay type enable w h bufNum).mPoolList = pool.mPoolList := by
  unfold configDisplay
  split <;> rfl

/-- **What alloc does** to the pools: nothing, or it adds one under the id it found. -/
theorem alloc_cases (pool : GuiExtPool) (token grallocUsage w h : Nat) :
    (pool.alloc token grallocUsage w h).2.2.mPoolList = pool.mPoolList ∨
    pool.mPoolList.size < MAX_ALLOC_SIZE ∧ ∃ item,
      (pool.alloc token grallocUsage w h).2.2.mPoolList =
        pool.mPoolList.add pool.getPoolId item := by
  unfold alloc
  split
  · exact .inl rfl
  · rename_i hsize
    dsimp only
    split
    · exact .inl rfl
    · exact .inr ⟨Nat.not_le.mp hsize, _, rfl⟩

theorem item_acquire_queue {item : PoolItem} {token usage type : Nat} {d : Dequeued}
    (h : 0 ≤ (item.acquire token usage type d).1) :
    (item.getIGraphicBufferProducer usage type).isSome := by
  unfold PoolItem.acquire at h
  split at h
  · exact absurd h (show ¬ 0 ≤ INVALID_OPERATION by decide)
  · split at h
    · exact absurd h (show ¬ 0 ≤ BAD_INDEX by decide)
    · rename_i hq
      rw [hq]
      rfl

/-- **What a successful acquire says**: the pool is there and has the queue. -/
theorem acquire_bufferAt {pool : GuiExtPool} {token poolId usage type : Nat} {d : Dequeued}
    (h : 0 ≤ (pool.acquire token poolId usage type d).1.err) :
    ∃ item, pool.mPoolList.valueFor poolId = some item ∧
      ∀ idx, (pool.acquire token poolId usage type d).2.bufferAt poolId usage type idx =
        some ⟨item.generation, usage, type, idx⟩ := by
  unfold acquire withItem at h ⊢
  cases hitem : pool.mPoolList.valueFor poolId with
  | none =>
    simp only [hitem] at h
    exact absurd h (by decide)
  | some item =>
    simp only [hitem] at h ⊢
    refine ⟨item, rfl, ?_⟩
    intro idx
    obtain ⟨hgen, hqueues⟩ := item_acquire_keeps item token usage type d
    obtain ⟨q, hq⟩ := Option.isSome_iff_exists.mp (item_acquire_queue h)
    have hq' :
        (item.acquire token usage type d).2.getIGraphicBufferProducer usage type = some q := by
      rw [← hq]
      unfold PoolItem.getIGraphicBufferProducer
      rw [hqueues]
    unfold bufferAt
    rw [KeyedVector.valueFor_modify, if_pos rfl, hitem, Option.map_some, Option.bind_some, hq',
      hgen]
    rfl

/-- What a successful request returns is what the pool holds. -/
theorem request_bufferAt {pool : GuiExtPool} {poolId usage type buf : Nat} {b : BufferId}
    (h : (pool.request poolId usage type buf).2 = some b) :
    pool.bufferAt poolId usage type buf = some b := by
  unfold request at h
  split at h
  · cases h
  · rename_i item hitem
    unfold PoolItem.request at h
    split at h
    · cases h
    · split at h
      · cases h
      · rename_i hq
        rw [bufferAt, hitem, Option.bind_some, hq]
        exact h

end GuiExtPool

end Sloane.GuiExt
