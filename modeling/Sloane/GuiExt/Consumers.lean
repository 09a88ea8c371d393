import Sloane.GuiExt.Service

/-!
# The consumers of a pool

What each call makes of the slots of an item, and of the flags that say which usages have a
consumer.

* `valueFor_consumerDied` — the death of a consumer clears its own slots.
* `ItemInv` — a held slot belongs to a connected consumer and its usage counts as connected, and a
  usage counts as connected only if it has a consumer.
-/

namespace Sloane.GuiExt

open Sloane.Lib

/-! ## The death of a consumer -/

/-- Every slot is under its own combined id. -/
def KeysOk (l : KeyedVector Nat ConsumerSlot) : Prop :=
  ∀ k slot, l.valueFor k = some slot → k = CONSUMER_COMBINED_ID slot.usage slot.type slot.idx

def ConsumerSlot.clear (who : Nat) (slot : ConsumerSlot) : ConsumerSlot :=
  if slot.token = some who then { slot with token := none } else slot

@[simp] theorem ConsumerSlot.clear_usage (who : Nat) (slot : ConsumerSlot) :
    (slot.clear who).usage = slot.usage := by unfold clear; split <;> rfl

@[simp] theorem ConsumerSlot.clear_type (who : Nat) (slot : ConsumerSlot) :
    (slot.clear who).type = slot.type := by unfold clear; split <;> rfl

@[simp] theorem ConsumerSlot.clear_idx (who : Nat) (slot : ConsumerSlot) :
    (slot.clear who).idx = slot.idx := by unfold clear; split <;> rfl

/-- A token is left if it is another consumer's. -/
theorem ConsumerSlot.clear_token (who token : Nat) (slot : ConsumerSlot) :
    (slot.clear who).token = some token ↔ slot.token = some token ∧ token ≠ who := by
  unfold clear
  split
  · rename_i hwho
    simp [hwho]
    intro h
    exact h.symm
  · rename_i hwho
    constructor
    · intro h
      exact ⟨h, fun heq => hwho (heq ▸ h)⟩
    · exact And.left

namespace PoolItem

theorem release_mConsumerList (item : PoolItem) (usage type buf : Nat) :
    (item.release usage type buf).2.mConsumerList = item.mConsumerList ∨
    (item.release usage type buf).2.mConsumerList =
      item.mConsumerList.modify (CONSUMER_COMBINED_ID usage type buf)
        fun slot => { slot with token := none } := by
  unfold release
  split
  · exact .inl rfl
  · split
    · exact .inl rfl
    · exact .inr rfl

theorem release_keeps (item : PoolItem) (usage type buf : Nat) :
    (item.release usage type buf).2.mProducerToken = item.mProducerToken ∧
    (item.release usage type buf).2.generation = item.generation ∧
    (item.release usage type buf).2.mIsDisconnected = item.mIsDisconnected ∧
    (item.release usage type buf).2.mIsHwcNeeded = item.mIsHwcNeeded := by
  unfold release
  split
  · exact ⟨rfl, rfl, rfl, rfl⟩
  · split <;> exact ⟨rfl, rfl, rfl, rfl⟩

theorem valueFor_releaseSlot {item : PoolItem} (hkeys : KeysOk item.mConsumerList)
    (who k k' : Nat) :
    (releaseSlot who item k).mConsumerList.valueFor k' =
      if k' = k then (item.mConsumerList.valueFor k').map (ConsumerSlot.clear who)
      else item.mConsumerList.valueFor k' := by
  unfold releaseSlot
  split
  · rename_i hnone
    exact KeyedVector.valueFor_absent_map hnone k' _
  · rename_i slot hslot
    by_cases htoken : slot.token = some who
    · have hkey := hkeys k slot hslot
      rw [if_pos htoken]
      simp only [KeyedVector.valueFor_modify]
      -- the item's own release is for the same slot, if it is not refused
      rcases item.release_mConsumerList slot.usage slot.type slot.idx with heq | heq
      · rw [heq]
        split
        · rename_i hk
          rw [hk, hslot, Option.map_some, Option.map_some, ConsumerSlot.clear, if_pos htoken]
        · rfl
      · rw [heq, ← hkey, KeyedVector.valueFor_modify]
        split
        · rename_i hk
          rw [hk, hslot, Option.map_some, Option.map_some, Option.map_some, ConsumerSlot.clear,
            if_pos htoken]
        · rfl
    · rw [if_neg htoken]
      split
      · rename_i hk
        rw [hk, hslot, Option.map_some, ConsumerSlot.clear, if_neg htoken]
      · rfl

theorem releaseSlot_keeps (item : PoolItem) (who k : Nat) :
    (releaseSlot who item k).mProducerToken = item.mProducerToken ∧
    (releaseSlot who item k).generation = item.generation ∧
    (releaseSlot who item k).mIsHwcNeeded = item.mIsHwcNeeded := by
  unfold releaseSlot
  split
  · exact ⟨rfl, rfl, rfl⟩
  · split
    · obtain ⟨hproducer, hgeneration, -, hneeded⟩ := item.release_keeps _ _ _
      exact ⟨hproducer, hgeneration, hneeded⟩
    · exact ⟨rfl, rfl, rfl⟩

theorem releaseSlot_keysOk {item : PoolItem} (hkeys : KeysOk item.mConsumerList) (who k : Nat) :
    KeysOk (releaseSlot who item k).mConsumerList := by
  intro k' slot' h
  rw [valueFor_releaseSlot hkeys] at h
  split at h
  · obtain ⟨slot, hslot, rfl⟩ := Option.map_eq_some_iff.mp h
    simpa using hkeys k' slot hslot
  · exact hkeys k' slot' h

/-- The whole loop, over slots that are each visited once. -/
theorem valueFor_releaseSlots {item : PoolItem} (hkeys : KeysOk item.mConsumerList) (who : Nat)
    {ks : List Nat} (hks : ks.Nodup) (k : Nat) :
    (ks.foldl (releaseSlot who) item).mConsumerList.valueFor k =
      if k ∈ ks then (item.mConsumerList.valueFor k).map (ConsumerSlot.clear who)
      else item.mConsumerList.valueFor k := by
  induction ks generalizing item with
  | nil => rfl
  | cons k' ks ih =>
    obtain ⟨hk', hks⟩ := List.nodup_cons.mp hks
    rw [List.foldl_cons, ih (releaseSlot_keysOk hkeys who k') hks, valueFor_releaseSlot hkeys]
    by_cases hk : k = k'
    · subst hk
      rw [if_neg hk', if_pos rfl, if_pos List.mem_cons_self]
    · rw [if_neg hk]
      simp [hk]

theorem releaseSlots_keeps (item : PoolItem) (who : Nat) (ks : List Nat) :
    (ks.foldl (releaseSlot who) item).mProducerToken = item.mProducerToken ∧
    (ks.foldl (releaseSlot who) item).generation = item.generation ∧
    (ks.foldl (releaseSlot who) item).mIsHwcNeeded = item.mIsHwcNeeded := by
  induction ks generalizing item with
  | nil => exact ⟨rfl, rfl, rfl⟩
  | cons k ks ih =>
    obtain ⟨hproducer, hgeneration, hneeded⟩ := item.releaseSlot_keeps who k
    obtain ⟨hproducer', hgeneration', hneeded'⟩ := ih (releaseSlot who item k)
    exact ⟨hproducer'.trans hproducer, hgeneration'.trans hgeneration, hneeded'.trans hneeded⟩

/-- **What the death of a consumer leaves**: the slots of the others. -/
theorem valueFor_consumerDied {item : PoolItem} (hkeys : KeysOk item.mConsumerList)
    (who k : Nat) :
    (item.consumerDied who).mConsumerList.valueFor k =
      (item.mConsumerList.valueFor k).map (ConsumerSlot.clear who) := by
  show ((item.mConsumerList.entries.map Prod.fst).foldl (releaseSlot who)
    item).mConsumerList.valueFor k = _
  rw [valueFor_releaseSlots hkeys who (KeyedVector.keys_nodup _)]
  split
  · rfl
  · rename_i hk
    rw [KeyedVector.mem_keys_iff, Option.not_isSome_iff_eq_none] at hk
    rw [hk, Option.map_none]

theorem consumerDied_keeps (item : PoolItem) (who : Nat) :
    (item.consumerDied who).mProducerToken = item.mProducerToken ∧
    (item.consumerDied who).generation = item.generation ∧
    (item.consumerDied who).mIsHwcNeeded = item.mIsHwcNeeded :=
  item.releaseSlots_keeps who _

/-- Connected are the usages of slots that are held. -/
theorem recomputeDisconnected_eq_false {item : PoolItem} {i : Nat} (hi : i < GUI_EXT_USAGE_MAX) :
    item.recomputeDisconnected.mIsDisconnected i = false ↔
      ∃ k slot, item.mConsumerList.valueFor k = some slot ∧ slot.token.isSome ∧
        slot.usage = i := by
  have hany : (item.mConsumerList.values.any fun slot => slot.token.isSome && slot.usage = i) =
      true ↔ ∃ k slot, item.mConsumerList.valueFor k = some slot ∧ slot.token.isSome ∧
        slot.usage = i := by
    rw [List.any_eq_true]
    constructor
    · rintro ⟨slot, hmem, h⟩
      obtain ⟨k, hk⟩ := KeyedVector.mem_values_iff.mp hmem
      exact ⟨k, slot, hk, by simpa using h⟩
    · rintro ⟨k, slot, hk, h⟩
      exact ⟨slot, KeyedVector.mem_values_iff.mpr ⟨k, hk⟩, by simpa using h⟩
  rw [← hany]
  unfold recomputeDisconnected
  dsimp only
  split
  · rename_i h
    simp [h]
  · rename_i h
    simp [h]

/-- **What acquire does**: it fails, or the slot is held and the usage connected. -/
theorem acquire_cases (item : PoolItem) (token usage type : Nat) (d : Dequeued) :
    (item.acquire token usage type d).1 ≠ NO_ERROR ∧
      (item.acquire token usage type d).2 = item ∨
    (item.acquire token usage type d).1 = NO_ERROR ∧ usage = GUI_EXT_USAGE_HWC ∧
      item.mIsHwcNeeded = true ∧
      (item.acquire token usage type d).2 = { item with
        mConsumerList :=
          (item.acquire token usage type d).2.mConsumerList
        mIsDisconnected := fun i => if i = usage then false else item.mIsDisconnected i } ∧
      ((item.acquire token usage type d).2.mConsumerList = item.mConsumerList ∨
        (item.acquire token usage type d).2.mConsumerList =
          item.mConsumerList.add (CONSUMER_COMBINED_ID usage type d.buf.toNat)
            ⟨usage, type, d.buf.toNat, some token⟩) := by
  unfold acquire
  split
  · exact .inl ⟨show INVALID_OPERATION ≠ NO_ERROR by decide, rfl⟩
  · rename_i hneeded
    split
    · exact .inl ⟨show BAD_INDEX ≠ NO_ERROR by decide, rfl⟩
    · rename_i q hq
      have husage : usage = GUI_EXT_USAGE_HWC := by
        unfold getIGraphicBufferProducer at hq
        split at hq
        · assumption
        · cases hq
      split
      · exact .inl ⟨show WOULD_BLOCK ≠ NO_ERROR by decide, rfl⟩
      · dsimp only
        split
        · exact .inl ⟨show BAD_INDEX ≠ NO_ERROR by decide, rfl⟩
        · refine .inr ⟨rfl, husage, by simpa [husage] using hneeded, rfl, ?_⟩
          dsimp only
          split
          · exact .inr rfl
          · exact .inl rfl

/-- What `disconnect` does: it sets one flag, or refuses. -/
theorem disconnect_spec (item : PoolItem) (usage : Nat) :
    (item.disconnect usage).2.mConsumerList = item.mConsumerList ∧
    (item.disconnect usage).2.mIsHwcNeeded = item.mIsHwcNeeded ∧
    ∀ i, (i = usage → (item.disconnect usage).2.mIsDisconnected i = true ∨
        item.mIsHwcNeeded = false ∧ usage = GUI_EXT_USAGE_HWC ∧
          (item.disconnect usage).2.mIsDisconnected i = item.mIsDisconnected i) ∧
      (i ≠ usage → (item.disconnect usage).2.mIsDisconnected i = item.mIsDisconnected i) := by
  unfold disconnect
  split
  · rename_i hrefused
    exact ⟨rfl, rfl, fun i => ⟨fun _ => .inr ⟨hrefused.1, hrefused.2, rfl⟩, fun _ => rfl⟩⟩
  · exact ⟨rfl, rfl, fun i => ⟨fun hi => .inl (if_pos hi), fun hi => if_neg hi⟩⟩

/-! ## New items -/

/-- The slots of an item that no one has acquired from. -/
def FreshSlots (l : KeyedVector Nat ConsumerSlot) : Prop :=
  ∀ k slot, l.valueFor k = some slot →
    k = CONSUMER_COMBINED_ID slot.usage slot.type slot.idx ∧ slot.usage = GUI_EXT_USAGE_HWC ∧
      slot.token = none

theorem prepareSlots_fresh {item : PoolItem} (h : FreshSlots item.mConsumerList)
    (type bufNum : Nat) :
    FreshSlots (item.prepareSlots GUI_EXT_USAGE_HWC type bufNum).mConsumerList := by
  unfold prepareSlots
  dsimp only
  generalize List.range bufNum = is
  generalize item.mConsumerList = l at h
  induction is generalizing l with
  | nil => exact h
  | cons i is ih =>
    rw [List.foldl_cons]
    apply ih
    split
    · intro k slot hslot
      rw [KeyedVector.valueFor_add] at hslot
      split at hslot
      · rename_i hk
        obtain rfl := Option.some.inj hslot
        exact ⟨hk, rfl, rfl⟩
      · exact h k slot hslot
    · exact h

theorem prepareBuffer_fresh {item : PoolItem} (h : FreshSlots item.mConsumerList) :
    FreshSlots item.prepareBuffer.2.mConsumerList := by
  apply prepareBuffer_preserved (P := fun i => FreshSlots i.mConsumerList) ?_ h
  intro i type bufNum hi
  exact prepareSlots_fresh hi type bufNum

/-- `prepareBuffer` is about the slots only. -/
theorem prepareBuffer_keeps (item : PoolItem) :
    item.prepareBuffer.2.mProducerToken = item.mProducerToken ∧
    item.prepareBuffer.2.mIsDisconnected = item.mIsDisconnected := by
  apply prepareBuffer_preserved (P := fun i => i.mProducerToken = item.mProducerToken ∧
    i.mIsDisconnected = item.mIsDisconnected) ?_ ⟨rfl, rfl⟩
  intro i type bufNum hi
  exact hi

end PoolItem

theorem newItem_fresh (pool : GuiExtPool) (token grallocUsage w h : Nat) :
    (pool.newItem token grallocUsage w h).mProducerToken = some token ∧
    (∀ i, (pool.newItem token grallocUsage w h).mIsDisconnected i = true) ∧
    PoolItem.FreshSlots (pool.newItem token grallocUsage w h).mConsumerList := by
  unfold GuiExtPool.newItem
  obtain ⟨htoken, hdisconnected⟩ := PoolItem.prepareBuffer_keeps
    (PoolItem.make pool.generations token (grallocUsage &&& GRALLOC_USAGE_HW_COMPOSER ≠ 0)
      (pool.defaultDisplay w h))
  refine ⟨htoken, fun i => by rw [hdisconnected]; rfl, PoolItem.prepareBuffer_fresh ?_⟩
  intro k slot hslot
  cases hslot

/-! ## Consumers and flags -/

/-- `connected` are the consumers, `id` the id of the item. -/
structure ItemInv (connected : List Connection) (id : Nat) (item : PoolItem) : Prop where
  keys : KeysOk item.mConsumerList
  usage : ∀ k slot, item.mConsumerList.valueFor k = some slot → slot.usage = GUI_EXT_USAGE_HWC
  held : ∀ k slot, item.mConsumerList.valueFor k = some slot → slot.token.isSome →
    item.mIsDisconnected slot.usage = false
  holder : ∀ k slot token, item.mConsumerList.valueFor k = some slot → slot.token = some token →
    ⟨id, token, slot.usage, slot.type⟩ ∈ connected
  connected : ∀ i < GUI_EXT_USAGE_MAX, item.mIsDisconnected i = false →
    ∃ c ∈ connected, c.poolId = id ∧ c.usage = i
  needed : item.mIsDisconnected GUI_EXT_USAGE_HWC = false → item.mIsHwcNeeded = true

namespace ItemInv

variable {connected connected' : List Connection} {id : Nat} {item : PoolItem}

/-- Other connections may change. -/
theorem mono (h : ItemInv connected id item)
    (hsub : ∀ c ∈ connected, c.poolId = id → c ∈ connected') : ItemInv connected' id item where
  keys := h.keys
  usage := h.usage
  held := h.held
  holder k slot token hslot htoken := hsub _ (h.holder k slot token hslot htoken) rfl
  connected i hi hflag := by
    obtain ⟨c, hc, hid, husage⟩ := h.connected i hi hflag
    exact ⟨c, hsub c hc hid, hid, husage⟩
  needed := h.needed

theorem producer (h : ItemInv connected id item) (token : Option Nat) :
    ItemInv connected id { item with mProducerToken := token } where
  keys := h.keys
  usage := h.usage
  held := h.held
  holder := h.holder
  connected := h.connected
  needed := h.needed

theorem release (h : ItemInv connected id item) (usage type buf : Nat) :
    ItemInv connected id (item.release usage type buf).2 := by
  obtain ⟨-, -, hflags, hneeded⟩ := item.release_keeps usage type buf
  have hsub : ∀ k slot, (item.release usage type buf).2.mConsumerList.valueFor k = some slot →
      ∃ old, item.mConsumerList.valueFor k = some old ∧ slot.usage = old.usage ∧
        slot.type = old.type ∧ slot.idx = old.idx ∧
        (slot.token.isSome → slot.token = old.token) := by
    intro k slot hslot
    rcases item.release_mConsumerList usage type buf with heq | heq
    · rw [heq] at hslot
      exact ⟨slot, hslot, rfl, rfl, rfl, fun _ => rfl⟩
    · rw [heq, KeyedVector.valueFor_modify] at hslot
      split at hslot
      · obtain ⟨old, hold, rfl⟩ := Option.map_eq_some_iff.mp hslot
        exact ⟨old, hold, rfl, rfl, rfl, fun h => by cases h⟩
      · exact ⟨slot, hslot, rfl, rfl, rfl, fun _ => rfl⟩
  constructor
  · intro k slot hslot
    obtain ⟨old, hold, husage, htype, hidx, -⟩ := hsub k slot hslot
    rw [husage, htype, hidx]
    exact h.keys k old hold
  · intro k slot hslot
    obtain ⟨old, hold, husage, -⟩ := hsub k slot hslot
    rw [husage]
    exact h.usage k old hold
  · intro k slot hslot htoken
    obtain ⟨old, hold, husage, -, -, heq⟩ := hsub k slot hslot
    rw [hflags, husage]
    rw [heq htoken] at htoken
    exact h.held k old hold htoken
  · intro k slot token hslot htoken
    obtain ⟨old, hold, husage, htype, -, heq⟩ := hsub k slot hslot
    rw [heq (htoken ▸ rfl)] at htoken
    rw [husage, htype]
    exact h.holder k old token hold htoken
  · rw [hflags]
    exact h.connected
  · rw [hflags, hneeded]
    exact h.needed

/-- A new connection, and perhaps a slot that it holds. -/
theorem acquire (h : ItemInv connected id item) {token usage type : Nat} {d : Dequeued}
    (hok : (item.acquire token usage type d).1 = NO_ERROR) :
    ItemInv (⟨id, token, usage, type⟩ :: connected) id (item.acquire token usage type d).2 := by
  rcases item.acquire_cases token usage type d with ⟨herr, -⟩ | ⟨-, husage, hneeded, heq, hlist⟩
  · exact absurd hok herr
  have hslots : ∀ k slot,
      (item.acquire token usage type d).2.mConsumerList.valueFor k = some slot →
      item.mConsumerList.valueFor k = some slot ∨
        k = CONSUMER_COMBINED_ID usage type d.buf.toNat ∧
          slot = ⟨usage, type, d.buf.toNat, some token⟩ := by
    intro k slot hslot
    rcases hlist with hlist | hlist
    · rw [hlist] at hslot
      exact .inl hslot
    · rw [hlist, KeyedVector.valueFor_add] at hslot
      split at hslot
      · rename_i hk
        exact .inr ⟨hk, (Option.some.inj hslot).symm⟩
      · exact .inl hslot
  have hflags : ∀ i, (item.acquire token usage type d).2.mIsDisconnected i =
      if i = usage then false else item.mIsDisconnected i := by
    intro i
    rw [heq]
  constructor
  · intro k slot hslot
    rcases hslots k slot hslot with hold | ⟨hk, rfl⟩
    · exact h.keys k slot hold
    · exact hk
  · intro k slot hslot
    rcases hslots k slot hslot with hold | ⟨-, rfl⟩
    · exact h.usage k slot hold
    · exact husage
  · intro k slot hslot htoken
    rw [hflags]
    split
    · rfl
    · rename_i hne
      rcases hslots k slot hslot with hold | ⟨-, rfl⟩
      · exact h.held k slot hold htoken
      · exact absurd rfl hne
  · intro k slot token' hslot htoken
    rcases hslots k slot hslot with hold | ⟨-, rfl⟩
    · exact List.mem_cons_of_mem _ (h.holder k slot token' hold htoken)
    · obtain rfl := Option.some.inj htoken
      exact List.mem_cons_self
  · intro i hi hflag
    rw [hflags] at hflag
    split at hflag
    · rename_i heq
      exact ⟨_, List.mem_cons_self, rfl, heq.symm⟩
    · obtain ⟨c, hc, hcid⟩ := h.connected i hi hflag
      exact ⟨c, List.mem_cons_of_mem _ hc, hcid⟩
  · intro _
    rw [heq]
    exact hneeded

/-- No slot of the usage is held, so that only connections that are not needed end. -/
theorem disconnect (h : ItemInv connected id item) (token : Nat) {usage : Nat} (type : Nat)
    (hfree : ∀ slot ∈ item.mConsumerList.values, slot.usage = usage → slot.token = none) :
    ItemInv (connected.filter fun c => c ≠ ⟨id, token, usage, type⟩) id
      (item.disconnect usage).2 := by
  have hne : ∀ k slot token', item.mConsumerList.valueFor k = some slot →
      slot.token = some token' → slot.usage ≠ usage := by
    intro k slot token' hslot htoken heq
    rw [hfree slot (KeyedVector.mem_values_iff.mpr ⟨k, hslot⟩) heq] at htoken
    cases htoken
  have hkeep : ∀ c ∈ connected, c.usage ≠ usage →
      c ∈ connected.filter fun c => c ≠ ⟨id, token, usage, type⟩ := by
    intro c hc husage
    exact List.mem_filter.mpr ⟨hc, decide_eq_true fun heq => husage (heq ▸ rfl)⟩
  obtain ⟨hlist, hneeded, hflags⟩ := item.disconnect_spec usage
  constructor
  · exact hlist ▸ h.keys
  · exact hlist ▸ h.usage
  · rw [hlist]
    intro k slot hslot htoken
    obtain ⟨token', htoken'⟩ := Option.isSome_iff_exists.mp htoken
    rw [(hflags _).2 (hne k slot token' hslot htoken')]
    exact h.held k slot hslot htoken
  · rw [hlist]
    intro k slot token' hslot htoken
    exact hkeep _ (h.holder k slot token' hslot htoken) (hne k slot token' hslot htoken)
  · intro i hi hflag
    by_cases hiusage : i = usage
    · -- a pool without queues for the composer is the only one to refuse
      rcases (hflags i).1 hiusage with htrue | ⟨hrefused, husage, heq⟩
      · rw [htrue] at hflag
        cases hflag
      · rw [heq, hiusage, husage] at hflag
        rw [h.needed hflag] at hrefused
        cases hrefused
    · rw [(hflags i).2 hiusage] at hflag
      obtain ⟨c, hc, hid, husage⟩ := h.connected i hi hflag
      exact ⟨c, hkeep c hc (husage ▸ hiusage), hid, husage⟩
  · intro hflag
    rw [hneeded]
    by_cases hiusage : GUI_EXT_USAGE_HWC = usage
    · rcases (hflags GUI_EXT_USAGE_HWC).1 hiusage with htrue | ⟨-, -, heq⟩
      · rw [htrue] at hflag
        cases hflag
      · exact h.needed (heq ▸ hflag)
    · exact h.needed ((hflags _).2 hiusage ▸ hflag)

/-- The consumer holds a slot, so that the flags are those of the slots that are left. -/
theorem consumerDied (h : ItemInv connected id item) {who : Nat} (hwho : item.heldBy who = true) :
    ItemInv (connected.filter fun c => ¬ (c.poolId = id ∧ c.token = who)) id
      (item.consumerDied who) := by
  obtain ⟨-, -, hneeded⟩ := item.consumerDied_keeps who
  have hslots : ∀ k slot, (item.consumerDied who).mConsumerList.valueFor k = some slot →
      ∃ old, item.mConsumerList.valueFor k = some old ∧ slot = old.clear who := by
    intro k slot hslot
    rw [PoolItem.valueFor_consumerDied h.keys] at hslot
    obtain ⟨old, hold, rfl⟩ := Option.map_eq_some_iff.mp hslot
    exact ⟨old, hold, rfl⟩
  have hkeep : ∀ k old token, item.mConsumerList.valueFor k = some old →
      (old.clear who).token = some token →
      ⟨id, token, old.usage, old.type⟩ ∈
        connected.filter fun c => ¬ (c.poolId = id ∧ c.token = who) := by
    intro k old token hold htoken
    obtain ⟨htoken, hne⟩ := (old.clear_token who token).mp htoken
    exact List.mem_filter.mpr ⟨h.holder k old token hold htoken,
      decide_eq_true fun heq => hne heq.2⟩
  have hflag : ∀ i < GUI_EXT_USAGE_MAX, (item.consumerDied who).mIsDisconnected i = false ↔
      ∃ k slot, (item.consumerDied who).mConsumerList.valueFor k = some slot ∧
        slot.token.isSome ∧ slot.usage = i :=
    fun i hi => PoolItem.recomputeDisconnected_eq_false hi
  constructor
  · intro k slot hslot
    obtain ⟨old, hold, rfl⟩ := hslots k slot hslot
    simpa using h.keys k old hold
  · intro k slot hslot
    obtain ⟨old, hold, rfl⟩ := hslots k slot hslot
    simpa using h.usage k old hold
  · intro k slot hslot htoken
    obtain ⟨old, hold, rfl⟩ := hslots k slot hslot
    have husage : (old.clear who).usage < GUI_EXT_USAGE_MAX := by
      rw [old.clear_usage, h.usage k old hold]
      decide
    exact (hflag _ husage).mpr ⟨k, _, hslot, htoken, rfl⟩
  · intro k slot token hslot htoken
    obtain ⟨old, hold, rfl⟩ := hslots k slot hslot
    simpa using hkeep k old token hold htoken
  · intro i hi hfalse
    obtain ⟨k, slot, hslot, htoken, husage⟩ := (hflag i hi).mp hfalse
    obtain ⟨old, hold, rfl⟩ := hslots k slot hslot
    obtain ⟨token, htoken⟩ := Option.isSome_iff_exists.mp htoken
    exact ⟨_, hkeep k old token hold htoken, rfl, by simpa using husage⟩
  · intro _
    rw [hneeded]
    -- someone holds a slot of this usage, and so it was connected before
    obtain ⟨k, slot, hslot, htoken⟩ := PoolItem.heldBy_iff.mp hwho
    exact h.needed (h.usage k slot hslot ▸ h.held k slot hslot (htoken ▸ rfl))

end ItemInv

namespace PoolItem

theorem checked_eq_some {item item' : PoolItem} :
    item.checked = some item' ↔ item.isRemovable = false ∧ item = item' := by
  unfold checked
  split
  · rename_i h
    simp [h]
  · rename_i h
    simp [h]

theorem checked_eq_none {item : PoolItem} : item.checked = none ↔ item.isRemovable = true := by
  unfold checked
  split
  · rename_i h
    simp [h]
  · rename_i h
    simp [h]

/-- A usage that is connected keeps the item. -/
theorem not_isRemovable {item : PoolItem} {i : Nat} (hi : i < GUI_EXT_USAGE_MAX)
    (hflag : item.mIsDisconnected i = false) : item.isRemovable = false := by
  rw [Bool.eq_false_iff]
  intro h
  rw [(isRemovable_iff.mp h).1 i hi] at hflag
  cases hflag

end PoolItem

/-- An item that is not held has only slots without a token. -/
theorem ItemInv.removable {connected : List Connection} {id : Nat} {item : PoolItem}
    (h : ItemInv connected id item) (hgone : item.isRemovable = true) :
    ∀ slot ∈ item.mConsumerList.values, slot.token = none := by
  intro slot hmem
  obtain ⟨k, hk⟩ := KeyedVector.mem_values_iff.mp hmem
  by_contra htoken
  have husage : slot.usage < GUI_EXT_USAGE_MAX := by
    rw [h.usage k slot hk]
    decide
  have hflag := h.held k slot hk (Option.isSome_iff_ne_none.mpr htoken)
  rw [PoolItem.not_isRemovable husage hflag] at hgone
  cases hgone

end Sloane.GuiExt
