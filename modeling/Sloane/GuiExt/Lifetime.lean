import Sloane.GuiExt.Consumers

/-!
# How long a pool lives

* `pool_lifetime` — a pool stays while its producer or a consumer that holds a buffer is there, and
  goes with the last of its producer and its consumers, as long as no consumer disconnects a usage
  in which someone holds a buffer, or dies while it is connected and holds none.
* `not_lifetime_twoConsumers` — a consumer that disconnects takes the pool from another one.
-/

namespace Sloane.GuiExt

open Sloane.Lib System

/-- A pool that is removed in the step has lost its producer, and no one holds a buffer of it. -/
def StaysWhileHeld (x : Transition ServiceState ServiceAct) : Prop :=
  ∀ id item, x.pre.pool.mPoolList.valueFor id = some item →
    (∀ item', x.post.pool.mPoolList.valueFor id = some item' →
      item'.generation ≠ item.generation) →
    (item.mProducerToken = none ∨ x.act = .free id ∨
      ∃ who, x.act = .producerDied who ∧ item.mProducerToken = some who) ∧
    ∀ slot ∈ item.mConsumerList.values, slot.token = none ∨
      ∃ who, x.act = .consumerDied who id ∧ slot.token = some who

/-- A pool without a producer has a consumer that acquired from it and is still there. -/
def RemovedWhenGone (s : ServiceState) : Prop :=
  ∀ id item, s.pool.mPoolList.valueFor id = some item → item.mProducerToken = none →
    ∃ c ∈ s.connected, c.poolId = id

/-- The condition: no slot of a usage is held when the usage is disconnected, and a consumer that
dies while it is connected holds a slot. -/
def Orderly (s : ServiceState) : ServiceAct → Prop
  | .disconnect _ poolId usage _ =>
      ∀ item, s.pool.mPoolList.valueFor poolId = some item →
        ∀ slot ∈ item.mConsumerList.values, slot.usage = usage → slot.token = none
  | .consumerDied token poolId =>
      ∀ item, s.pool.mPoolList.valueFor poolId = some item →
        (∃ c ∈ s.connected, c.poolId = poolId ∧ c.token = token) → item.heldBy token = true
  | _ => True

/-! ## The invariant -/

structure ServiceState.Inv (s : ServiceState) : Prop where
  items : ∀ id item, s.pool.mPoolList.valueFor id = some item → ItemInv s.connected id item
  kept : ∀ id item, s.pool.mPoolList.valueFor id = some item → item.isRemovable = false

namespace ServiceState.Inv

variable {s : ServiceState}

/-- A new pool takes the place of the consumers of no other. -/
theorem connected_alloc {id : Nat} {item : PoolItem}
    (hitem : s.pool.mPoolList.valueFor id = some item) (token grallocUsage w h : Nat)
    {c : Connection} (hc : c ∈ s.connected) (hid : c.poolId = id) :
    c ∈ (s.next (.alloc token grallocUsage w h)).connected := by
  simp only [ServiceState.next]
  split
  · rename_i hok
    by_cases hsize : s.pool.mPoolList.size < MAX_ALLOC_SIZE
    · rw [GuiExtPool.alloc_room hsize]
      refine List.mem_filter.mpr ⟨hc, decide_eq_true ?_⟩
      intro (heq : c.poolId = s.pool.getPoolId)
      have hfree := (GuiExtPool.getPoolId_spec hsize).1
      rw [← heq, hid, hitem] at hfree
      cases hfree
    · rw [GuiExtPool.alloc_full (Nat.not_lt.mp hsize)] at hok
      exact absurd hok (show NOT_ENOUGH_DATA ≠ NO_ERROR by decide)
  · exact hc

/-- A buffer that is handed out connects its consumer, and the item is kept for it. -/
theorem take_acquire (hs : s.Inv) {id : Nat} {item item' : PoolItem}
    (hitem : s.pool.mPoolList.valueFor id = some item) {token poolId usage type : Nat}
    {d : Dequeued} (htake : item.take id (.acquire token poolId usage type d) = some item') :
    ItemInv (s.next (.acquire token poolId usage type d)).connected id item' ∧
      item'.isRemovable = false := by
  have hold := hs.items id item hitem
  have hkept := hs.kept id item hitem
  obtain rfl := Option.some.inj htake
  simp only [ServiceState.next]
  by_cases hid : id = poolId
  · subst hid
    simp only [GuiExtPool.acquire, GuiExtPool.withItem, hitem, if_pos]
    rcases item.acquire_cases token usage type d with ⟨herr, heq⟩ | ⟨hok, husage, -, heq, -⟩
    · rw [if_neg herr, heq]
      exact ⟨hold, hkept⟩
    · rw [if_pos hok]
      refine ⟨hold.acquire hok, PoolItem.not_isRemovable (i := GUI_EXT_USAGE_HWC) (by decide) ?_⟩
      rw [heq]
      exact if_pos husage.symm
  · simp only [if_neg hid]
    refine ⟨hold.mono ?_, hkept⟩
    intro c hc _
    split
    · exact List.mem_cons_of_mem _ hc
    · exact hc

/-- A consumer that dies with a buffer is connected no more; one that the item does not know has not
been connected to it. -/
theorem take_consumerDied (hs : s.Inv) {who poolId : Nat}
    (hcond : Orderly s (.consumerDied who poolId)) {id : Nat} {item item' : PoolItem}
    (hitem : s.pool.mPoolList.valueFor id = some item)
    (htake : item.take id (.consumerDied who poolId) = some item') :
    ItemInv (s.next (.consumerDied who poolId)).connected id item' ∧
      item'.isRemovable = false := by
  have hold := hs.items id item hitem
  simp only [PoolItem.take] at htake
  split at htake
  · rename_i hboth
    obtain ⟨rfl, hheld⟩ := hboth
    have hnew := hold.consumerDied hheld
    split at htake
    · rename_i hstill
      obtain rfl := Option.some.inj htake
      refine ⟨hnew, ?_⟩
      obtain ⟨k, slot, hslot, htoken⟩ := PoolItem.isHeld_iff.mp hstill
      refine PoolItem.not_isRemovable (i := slot.usage) ?_ (hnew.held k slot hslot htoken)
      rw [hnew.usage k slot hslot]
      decide
    · obtain ⟨hremovable, rfl⟩ := PoolItem.checked_eq_some.mp htake
      exact ⟨hnew, hremovable⟩
  · rename_i hboth
    obtain rfl := Option.some.inj htake
    refine ⟨hold.mono ?_, hs.kept id item hitem⟩
    intro c hc hcid
    refine List.mem_filter.mpr ⟨hc, decide_eq_true ?_⟩
    rintro ⟨hpool, htoken⟩
    have hid : id = poolId := hcid.symm.trans hpool
    exact hboth ⟨hid, hcond item (hid ▸ hitem) ⟨c, hc, hpool, htoken⟩⟩

/-- **What becomes of an item in one call**: it keeps the invariant, or there is nothing left that
would keep it. -/
theorem take (hs : s.Inv) {a : ServiceAct} (hcond : Orderly s a) {id : Nat} {item item' : PoolItem}
    (hitem : s.pool.mPoolList.valueFor id = some item) (htake : item.take id a = some item') :
    ItemInv (s.next a).connected id item' ∧ item'.isRemovable = false := by
  have hold := hs.items id item hitem
  have hkept := hs.kept id item hitem
  have hsame : ∀ {connected}, item = item' →
      (∀ c ∈ s.connected, c.poolId = id → c ∈ connected) →
      ItemInv connected id item' ∧ item'.isRemovable = false := by
    rintro connected rfl hsub
    exact ⟨hold.mono hsub, hkept⟩
  have hchecked : ∀ {new : PoolItem} {connected}, ItemInv connected id new →
      new.checked = some item' → ItemInv connected id item' ∧ item'.isRemovable = false := by
    intro new connected hnew hcheck
    obtain ⟨hremovable, rfl⟩ := PoolItem.checked_eq_some.mp hcheck
    exact ⟨hnew, hremovable⟩
  cases a with
  | alloc token grallocUsage w h =>
    apply hsame (Option.some.inj htake)
    intro c hc hid
    exact connected_alloc hitem token grallocUsage w h hc hid
  | free poolId =>
    simp only [PoolItem.take] at htake
    split at htake
    · exact hchecked (hold.producer none) htake
    · exact hsame (Option.some.inj htake) fun c hc _ => hc
  | configDisplay type enable w h bufNum =>
    exact hsame (Option.some.inj htake) fun c hc _ => hc
  | acquire token poolId usage type d => exact hs.take_acquire hitem htake
  | release poolId usage type buf =>
    obtain rfl := Option.some.inj htake
    by_cases hid : id = poolId
    · simp only [if_pos hid]
      refine ⟨hold.release usage type buf, ?_⟩
      obtain ⟨hproducer, -, hflags, -⟩ := item.release_keeps usage type buf
      unfold PoolItem.isRemovable
      rw [hproducer, hflags]
      exact hkept
    · simp only [if_neg hid]
      exact ⟨hold, hkept⟩
  | disconnect token poolId usage type =>
    simp only [PoolItem.take] at htake
    split at htake
    · rename_i hid
      subst hid
      exact hchecked (hold.disconnect token type (hcond item hitem)) htake
    · rename_i hid
      apply hsame (Option.some.inj htake)
      intro c hc hcid
      exact List.mem_filter.mpr ⟨hc, decide_eq_true fun heq => hid (by rw [← hcid, heq])⟩
  | producerDied who =>
    simp only [PoolItem.take] at htake
    split at htake
    · exact hchecked (hold.producer none) htake
    · exact hsame (Option.some.inj htake) fun c hc _ => hc
  | consumerDied who poolId => exact hs.take_consumerDied hcond hitem htake

theorem next (hs : s.Inv) {a : ServiceAct} (hcond : Orderly s a) : (s.next a).Inv := by
  have hall : ∀ id item', (s.next a).pool.mPoolList.valueFor id = some item' →
      ItemInv (s.next a).connected id item' ∧ item'.isRemovable = false := by
    intro id item' hitem'
    cases hitem : s.pool.mPoolList.valueFor id with
    | some item =>
      rw [valueFor_next hitem] at hitem'
      exact hs.take hcond hitem hitem'
    | none =>
      obtain ⟨token, grallocUsage, w, h, -, -, -, rfl⟩ := next_new hitem hitem'
      obtain ⟨hproducer, hflags, hfresh⟩ := newItem_fresh s.pool token grallocUsage w h
      refine ⟨⟨fun k slot h => (hfresh k slot h).1, fun k slot h => (hfresh k slot h).2.1, ?_, ?_,
        ?_, ?_⟩, ?_⟩
      · intro k slot hslot htoken
        rw [(hfresh k slot hslot).2.2] at htoken
        cases htoken
      · intro k slot token hslot htoken
        rw [(hfresh k slot hslot).2.2] at htoken
        cases htoken
      · intro i _ hflag
        rw [hflags] at hflag
        cases hflag
      · intro hflag
        rw [hflags] at hflag
        cases hflag
      · rw [Bool.eq_false_iff]
        intro hremovable
        rw [(PoolItem.isRemovable_iff.mp hremovable).2] at hproducer
        cases hproducer
  exact ⟨fun id item h => (hall id item h).1, fun id item h => (hall id item h).2⟩

end ServiceState.Inv

/-! ## Runs -/

namespace PoolItem

theorem checked_generation {item item' : PoolItem} (h : item.checked = some item') :
    item'.generation = item.generation := by
  obtain ⟨-, rfl⟩ := checked_eq_some.mp h
  rfl

theorem take_generation {item item' : PoolItem} {id : Nat} {a : ServiceAct}
    (h : item.take id a = some item') : item'.generation = item.generation := by
  cases a with
  | alloc token grallocUsage w h' => exact Option.some.inj h ▸ rfl
  | configDisplay type enable w h' bufNum => exact Option.some.inj h ▸ rfl
  | free poolId =>
    simp only [take] at h
    split at h
    · have := checked_generation h
      exact this
    · exact Option.some.inj h ▸ rfl
  | acquire token poolId usage type d =>
    obtain rfl := Option.some.inj h
    split
    · exact (GuiExtPool.item_acquire_keeps item token usage type d).1
    · rfl
  | release poolId usage type buf =>
    obtain rfl := Option.some.inj h
    split
    · exact (item.release_keeps usage type buf).2.1
    · rfl
  | disconnect token poolId usage type =>
    simp only [take] at h
    split at h
    · rw [checked_generation h]
      unfold disconnect
      split <;> rfl
    · exact Option.some.inj h ▸ rfl
  | producerDied who =>
    simp only [take] at h
    split at h
    · have := checked_generation h
      exact this
    · exact Option.some.inj h ▸ rfl
  | consumerDied who poolId =>
    have hkeeps := (item.consumerDied_keeps who).2.1
    simp only [take] at h
    split at h
    · split at h
      · obtain rfl := Option.some.inj h
        exact hkeeps
      · rw [checked_generation h, hkeeps]
    · exact Option.some.inj h ▸ rfl

end PoolItem

/-- **What is removed** has lost its producer and is not held. -/
theorem take_eq_none {s : ServiceState} (hs : s.Inv) {a : ServiceAct} (hcond : Orderly s a)
    {id : Nat} {item : PoolItem} (hitem : s.pool.mPoolList.valueFor id = some item)
    (htake : item.take id a = none) :
    (item.mProducerToken = none ∨ a = .free id ∨
      ∃ who, a = .producerDied who ∧ item.mProducerToken = some who) ∧
    ∀ slot ∈ item.mConsumerList.values, slot.token = none ∨
      ∃ who, a = .consumerDied who id ∧ slot.token = some who := by
  have hold := hs.items id item hitem
  cases a with
  | free poolId =>
    simp only [PoolItem.take] at htake
    split at htake
    · rename_i hid
      subst hid
      have hgone := PoolItem.checked_eq_none.mp htake
      exact ⟨.inr (.inl rfl),
        fun slot hslot => .inl ((hold.producer none).removable hgone slot hslot)⟩
    · cases htake
  | producerDied who =>
    simp only [PoolItem.take] at htake
    split at htake
    · rename_i htoken
      have hgone := PoolItem.checked_eq_none.mp htake
      exact ⟨.inr (.inr ⟨who, rfl, htoken⟩),
        fun slot hslot => .inl ((hold.producer none).removable hgone slot hslot)⟩
    · cases htake
  | disconnect token poolId usage type =>
    simp only [PoolItem.take] at htake
    split at htake
    · rename_i hid
      subst hid
      have hgone := PoolItem.checked_eq_none.mp htake
      obtain ⟨hlist, -, -⟩ := item.disconnect_spec usage
      have hfree := (hold.disconnect token type (hcond item hitem)).removable hgone
      rw [hlist] at hfree
      refine ⟨.inl ?_, fun slot hslot => .inl (hfree slot hslot)⟩
      have hproducer := (PoolItem.isRemovable_iff.mp hgone).2
      unfold PoolItem.disconnect at hproducer
      split at hproducer <;> exact hproducer
    · cases htake
  | consumerDied who poolId =>
    simp only [PoolItem.take] at htake
    split at htake
    · rename_i hboth
      obtain ⟨rfl, hheld⟩ := hboth
      split at htake
      · cases htake
      · rename_i hstill
        have hgone := PoolItem.checked_eq_none.mp htake
        obtain ⟨hproducer, -, -⟩ := item.consumerDied_keeps who
        refine ⟨.inl (hproducer ▸ (PoolItem.isRemovable_iff.mp hgone).2), ?_⟩
        intro slot hslot
        obtain ⟨k, hk⟩ := KeyedVector.mem_values_iff.mp hslot
        cases htoken : slot.token with
        | none => exact .inl rfl
        | some token =>
          -- a token of someone else would still be there
          refine .inr ⟨who, rfl, ?_⟩
          by_contra hne
          refine hstill (PoolItem.isHeld_iff.mpr ⟨k, slot.clear who, ?_, ?_⟩)
          · rw [PoolItem.valueFor_consumerDied hold.keys, hk, Option.map_some]
          · rw [(slot.clear_token who token).mpr ⟨htoken, fun heq => hne (heq ▸ rfl)⟩]
            rfl
    · cases htake
  | _ => cases htake

theorem ServiceState.Inv.start : ServiceState.start.Inv :=
  ⟨fun _ _ h => (Option.some_ne_none _ h.symm).elim,
    fun _ _ h => (Option.some_ne_none _ h.symm).elim⟩

/-- **How long a pool lives.** -/
theorem pool_lifetime {tr : List (Transition ServiceState ServiceAct)} {s : ServiceState}
    (h : service.Run tr s) (hcond : ∀ x ∈ tr, Orderly x.pre x.act) :
    ∀ x ∈ tr, StaysWhileHeld x ∧ RemovedWhenGone x.post := by
  intro x hx
  have hinv : x.pre.Inv := by
    refine ((h.restrict hcond).transition x hx).1.invariant ?_ ?_
    · rintro _ rfl
      exact .start
    · rintro s a t - hs ⟨hstep, ha⟩
      obtain rfl := Option.some.inj hstep
      exact hs.next ha
  have hpost : x.post = x.pre.next x.act := (Option.some.inj (h.transition x hx).2).symm
  constructor
  · intro id item hitem hgone
    rw [hpost, valueFor_next hitem] at hgone
    cases htake : item.take id x.act with
    | none => exact take_eq_none hinv (hcond x hx) hitem htake
    | some item' => exact absurd (PoolItem.take_generation htake) (hgone item' htake)
  · intro id item hitem hproducer
    have hnext : x.post.Inv := hpost ▸ hinv.next (hcond x hx)
    have hkept := hnext.kept id item hitem
    -- without a producer it is a connected usage that keeps the pool
    by_contra hnone
    rw [Bool.eq_false_iff] at hkept
    refine hkept (PoolItem.isRemovable_iff.mpr ⟨?_, hproducer⟩)
    intro i hi
    by_contra hflag
    obtain ⟨c, hc, hid, -⟩ := (hnext.items id item hitem).connected i hi
      (Bool.eq_false_of_not_eq_true hflag)
    exact hnone ⟨c, hc, hid⟩

instance (s : ServiceState) : (a : ServiceAct) → Decidable (Orderly s a)
  | .disconnect _ poolId usage _ =>
      inferInstanceAs (Decidable (∀ item ∈ s.pool.mPoolList.valueFor poolId,
        ∀ slot ∈ item.mConsumerList.values, slot.usage = usage → slot.token = none))
  | .consumerDied token poolId =>
      inferInstanceAs (Decidable (∀ item ∈ s.pool.mPoolList.valueFor poolId,
        (∃ c ∈ s.connected, c.poolId = poolId ∧ c.token = token) → item.heldBy token = true))
  | .alloc _ _ _ _ | .free _ | .configDisplay _ _ _ _ _ | .acquire _ _ _ _ _ | .release _ _ _ _
  | .producerDied _ => isTrue trivial

/-- Consumer `token` acquires slot `buf` of pool 1, or disconnects from it. -/
def acquireFrom (token : Nat) (buf : Int) : ServiceAct :=
  .acquire token 1 GUI_EXT_USAGE_HWC HWC_DISPLAY_PRIMARY ⟨0, buf⟩

def disconnectFrom (token : Nat) : ServiceAct :=
  .disconnect token 1 GUI_EXT_USAGE_HWC HWC_DISPLAY_PRIMARY

/-- Two consumers, one of which dies with its buffer. -/
def orderlyRun : List ServiceAct :=
  [.alloc 100 GRALLOC_USAGE_HW_COMPOSER 64 64, acquireFrom 1 0, acquireFrom 2 1,
    .release 1 GUI_EXT_USAGE_HWC HWC_DISPLAY_PRIMARY 0, .free 1, .consumerDied 2 1]

theorem pool_lifetime_orderlyRun :
    ∃ tr s, service.Run tr s ∧ tr.map Transition.act = orderlyRun ∧ s.pool.mPoolList.size = 0 ∧
      ∀ x ∈ tr, StaysWhileHeld x ∧ RemovedWhenGone x.post := by
  have he : (execute (fun s a => some (ServiceState.next s a)) .start orderlyRun).map
      (fun r => decide (r.1.map Transition.act = orderlyRun ∧ r.2.pool.mPoolList.size = 0 ∧
        ∀ x ∈ r.1, Orderly x.pre x.act)) = some true := by decide +kernel
  obtain ⟨⟨tr, s⟩, hrun, heq⟩ := Option.map_eq_some_iff.mp he
  obtain ⟨hacts, hsize, hcond⟩ := of_decide_eq_true heq
  exact ⟨tr, s, run_of_execute hrun, hacts, hsize, pool_lifetime (run_of_execute hrun) hcond⟩

/-- The second consumer gives back its buffer and disconnects, and then the pool is freed. -/
def twoConsumers : List ServiceAct :=
  [.alloc 100 GRALLOC_USAGE_HW_COMPOSER 64 64, acquireFrom 1 0, acquireFrom 2 1,
    .release 1 GUI_EXT_USAGE_HWC HWC_DISPLAY_PRIMARY 1, disconnectFrom 2, .free 1]

/-- Pool 1 is freed and removed while consumer 1 holds a buffer of it. -/
def TakenFrom (x : Transition ServiceState ServiceAct) : Prop :=
  x.act = .free 1 ∧ (x.post.pool.mPoolList.valueFor 1).isNone ∧
    ∃ item ∈ x.pre.pool.mPoolList.valueFor 1, ∃ slot ∈ item.mConsumerList.values,
      slot.token = some 1

instance (x : Transition ServiceState ServiceAct) : Decidable (TakenFrom x) :=
  inferInstanceAs (Decidable (_ ∧ _ ∧ _))

/-- Consumer 1 loses the pool of its buffer. -/
theorem not_lifetime_twoConsumers :
    ¬ ∀ tr s, service.Run tr s → ∀ x ∈ tr, StaysWhileHeld x ∧ RemovedWhenGone x.post := by
  intro hall
  have he : (execute (fun s a => some (ServiceState.next s a)) .start twoConsumers).map
      (fun r => decide (∃ x ∈ r.1, TakenFrom x)) = some true := by decide +kernel
  obtain ⟨⟨tr, s⟩, hrun, heq⟩ := Option.map_eq_some_iff.mp he
  obtain ⟨x, hx, hact, hgone, item, hitem, slot, hslot, htoken⟩ := of_decide_eq_true heq
  have hstays := (hall tr s (run_of_execute hrun) x hx).1 1 item hitem
  rw [Option.isNone_iff_eq_none.mp hgone] at hstays
  rcases (hstays fun _ h => by cases h).2 slot hslot with hnone | ⟨who, hdied, -⟩
  · rw [htoken] at hnone
    cases hnone
  · rw [hact] at hdied
    cases hdied

end Sloane.GuiExt
