import Sloane.GuiExt.Service

/-!
# The table of pools

* `PoolIdSearch` — the loop of `getPoolId` without a bound on its passes.
* `pool_table` — in every reachable state there are at most ten pools, under distinct ids from 1 to
  10; with fewer than ten the loop ends at an id not in use and `alloc` adds a pool under it, with
  ten `alloc` fails and changes nothing.
-/

namespace Sloane.GuiExt

open Sloane.Lib System

/-- From a value of `mPoolId`, the loop of `getPoolId` ends with an id. -/
inductive PoolIdSearch (mPoolList : KeyedVector Nat PoolItem) : Nat → Nat → Prop
  | found {mPoolId} : mPoolList.valueFor (GuiExtPool.idOf mPoolId) = none →
      PoolIdSearch mPoolList mPoolId (GuiExtPool.idOf mPoolId)
  | next {mPoolId id} : (mPoolList.valueFor (GuiExtPool.idOf mPoolId)).isSome →
      PoolIdSearch mPoolList ((mPoolId + 1) % MAX_ALLOC_SIZE) id →
      PoolIdSearch mPoolList mPoolId id

/-- `alloc` adds one pool, under an id found by the search that was not in use. -/
def AddsOne (pool : GuiExtPool) (token grallocUsage w h : Nat) : Prop :=
  ∃ id item pool', PoolIdSearch pool.mPoolList ((pool.mPoolId + 1) % MAX_ALLOC_SIZE) id ∧
    pool.mPoolList.valueFor id = none ∧
    pool.alloc token grallocUsage w h = (NO_ERROR, id, pool') ∧ pool'.mPoolId = id ∧
    ∀ k, pool'.mPoolList.valueFor k = if k = id then some item else pool.mPoolList.valueFor k

/-- `alloc` fails with pool id 0. -/
def Refuses (pool : GuiExtPool) (token grallocUsage w h : Nat) : Prop :=
  ∃ err < 0, pool.alloc token grallocUsage w h = (err, 0, pool)

/-! ## The search -/

theorem getPoolIdLoop_search {l : KeyedVector Nat PoolItem} {n m : Nat}
    (h : l.valueFor (GuiExtPool.getPoolIdLoop l n m) = none) :
    PoolIdSearch l m (GuiExtPool.getPoolIdLoop l n m) := by
  induction n generalizing m with
  | zero => exact .found h
  | succ n ih =>
    unfold GuiExtPool.getPoolIdLoop at h ⊢
    split
    · rename_i htaken
      rw [if_pos htaken] at h
      exact .next htaken (ih h)
    · rename_i hfree
      exact .found (by simpa using hfree)

theorem alloc_addsOne {pool : GuiExtPool} (hsize : pool.mPoolList.size < MAX_ALLOC_SIZE)
    (token grallocUsage w h : Nat) : AddsOne pool token grallocUsage w h := by
  have hfree := (GuiExtPool.getPoolId_spec hsize).1
  refine ⟨pool.getPoolId, pool.newItem token grallocUsage w h, _, getPoolIdLoop_search hfree, hfree,
    GuiExtPool.alloc_room hsize token grallocUsage w h, rfl, ?_⟩
  intro k
  exact KeyedVector.valueFor_add _ _ _ _

theorem alloc_refuses {pool : GuiExtPool} (hsize : MAX_ALLOC_SIZE ≤ pool.mPoolList.size)
    (token grallocUsage w h : Nat) : Refuses pool token grallocUsage w h :=
  ⟨NOT_ENOUGH_DATA, by decide, GuiExtPool.alloc_full hsize token grallocUsage w h⟩

namespace GuiExtPool

theorem configDisplay_mPoolId (pool : GuiExtPool) (type : Nat) (enable : Bool)
    (w h bufNum : Nat) : (pool.configDisplay type enable w h bufNum).mPoolId = pool.mPoolId := by
  unfold configDisplay
  split <;> rfl

end GuiExtPool

/-! ## Reachable states -/

/-- Ids are from 1 to 10, and so is `mPoolId` once it has been used. -/
structure TableInv (pool : GuiExtPool) : Prop where
  ids : ∀ id item, pool.mPoolList.valueFor id = some item → 1 ≤ id ∧ id ≤ MAX_ALLOC_SIZE
  mPoolId_le : pool.mPoolId ≤ MAX_ALLOC_SIZE

theorem TableInv.size_le {pool : GuiExtPool} (hinv : TableInv pool) :
    pool.mPoolList.size ≤ MAX_ALLOC_SIZE := by
  have hsub : pool.mPoolList.entries.map Prod.fst ⊆ List.range' 1 MAX_ALLOC_SIZE := by
    intro id hid
    obtain ⟨item, hitem⟩ := Option.isSome_iff_exists.mp (KeyedVector.mem_keys_iff.mp hid)
    have := hinv.ids id item hitem
    exact List.mem_range'_1.mpr (by omega)
  have hlen := (List.subperm_of_subset (KeyedVector.keys_nodup _) hsub).length_le
  rwa [List.length_range', List.length_map] at hlen

theorem next_mPoolId_le {s : ServiceState} (hs : s.pool.mPoolId ≤ MAX_ALLOC_SIZE)
    (a : ServiceAct) : (s.next a).pool.mPoolId ≤ MAX_ALLOC_SIZE := by
  cases a with
  | alloc token grallocUsage w h =>
    simp only [ServiceState.next]
    by_cases hsize : s.pool.mPoolList.size < MAX_ALLOC_SIZE
    · rw [GuiExtPool.alloc_room hsize]
      exact (GuiExtPool.getPoolId_spec hsize).2.2
    · rw [GuiExtPool.alloc_full (Nat.not_lt.mp hsize)]
      exact hs
  | free poolId => exact (GuiExtPool.free_rest _ _).1.trans_le hs
  | configDisplay type enable w h bufNum => exact (GuiExtPool.configDisplay_mPoolId ..).trans_le hs
  | acquire token poolId usage type d => exact (GuiExtPool.withItem_rest _ _ _).1.trans_le hs
  | release poolId usage type buf => exact (GuiExtPool.withItem_rest _ _ _).1.trans_le hs
  | disconnect token poolId usage type => exact (GuiExtPool.disconnect_rest _ _ _).1.trans_le hs
  | producerDied who => exact (GuiExtPool.producerDied_rest _ _).1.trans_le hs
  | consumerDied who poolId => exact (GuiExtPool.consumerDied_rest _ _ _).1.trans_le hs

theorem TableInv.next {s : ServiceState} (hs : TableInv s.pool) (a : ServiceAct) :
    TableInv (s.next a).pool := by
  refine ⟨?_, next_mPoolId_le hs.mPoolId_le a⟩
  intro id item hitem
  cases hold : s.pool.mPoolList.valueFor id with
  | some old => exact hs.ids id old hold
  | none =>
    obtain ⟨_, _, _, _, -, hsize, rfl, -⟩ := next_new hold hitem
    exact (GuiExtPool.getPoolId_spec hsize).2

theorem TableInv.of_reachable {s : ServiceState} (h : service.Reachable s) : TableInv s.pool := by
  induction h with
  | start hi =>
    obtain rfl := hi
    exact ⟨fun _ _ h => (Option.some_ne_none _ h.symm).elim, by decide⟩
  | @step s a t _ hstep ih =>
    obtain rfl := Option.some.inj hstep
    exact ih.next a

/-- **The pool table**, in every state of every run. -/
theorem pool_table {s : ServiceState} (h : service.Reachable s) :
    s.pool.mPoolList.size ≤ MAX_ALLOC_SIZE ∧
    (s.pool.mPoolList.entries.map Prod.fst).Nodup ∧
    (∀ id ∈ s.pool.mPoolList.entries.map Prod.fst, 1 ≤ id ∧ id ≤ MAX_ALLOC_SIZE) ∧
    s.pool.mPoolId ≤ MAX_ALLOC_SIZE ∧
    ∀ token grallocUsage w h,
      (s.pool.mPoolList.size < MAX_ALLOC_SIZE → AddsOne s.pool token grallocUsage w h) ∧
      (s.pool.mPoolList.size = MAX_ALLOC_SIZE → Refuses s.pool token grallocUsage w h) := by
  have hinv := TableInv.of_reachable h
  refine ⟨hinv.size_le, KeyedVector.keys_nodup _, ?_, hinv.mPoolId_le, ?_⟩
  · intro id hid
    obtain ⟨item, hitem⟩ := Option.isSome_iff_exists.mp (KeyedVector.mem_keys_iff.mp hid)
    exact hinv.ids id item hitem
  · intro token grallocUsage w h
    exact ⟨fun hsize => alloc_addsOne hsize token grallocUsage w h,
      fun hsize => alloc_refuses hsize.ge token grallocUsage w h⟩

/-- Ten pools are allocated, the third is freed and another one takes its id. -/
def tenPools : List ServiceAct :=
  ((List.range 10).map fun i => .alloc (100 + i) 0 64 64) ++ [.free 3, .alloc 110 0 64 64]

theorem pool_table_tenPools :
    ∃ s, service.Reachable s ∧ s.pool.mPoolList.size = MAX_ALLOC_SIZE ∧ s.pool.mPoolId = 3 ∧
      Refuses s.pool 111 0 64 64 := by
  have he : (execute (fun s a => some (ServiceState.next s a)) .start tenPools).map
      (fun r => (r.2.pool.mPoolList.size, r.2.pool.mPoolId)) = some (10, 3) := by decide +kernel
  obtain ⟨⟨tr, s⟩, hrun, heq⟩ := Option.map_eq_some_iff.mp he
  obtain ⟨hsize, hid⟩ := Prod.mk.inj heq
  have hreach : service.Reachable s := (run_of_execute hrun).reachable
  exact ⟨s, hreach, hsize, hid, ((pool_table hreach).2.2.2.2 111 0 64 64).2 hsize⟩

end Sloane.GuiExt
