import Mathlib.Data.List.Find
import Sloane.GuiExt.Service

/-!
# The keys of the consumer slots

A slot is stored under `POOL_COMBINED_ID`, which packs the index of the buffer into the bits below
the type of the display.

* `combinedId_add`, `combinedId_room` — for how many indices the id of a display is injective.
* `valueFor_newItem` — the slots of a new item.
* `noAlias_iff` — when no two buffers of a new pool share a slot.
-/

namespace Sloane.GuiExt

open Sloane.Lib

/-! ## The packed id -/

/-- `POOL_COMBINED_ID` for the hardware composer. -/
def hwcId (type idx : Nat) : Nat := CONSUMER_COMBINED_ID GUI_EXT_USAGE_HWC type idx

/-- The indices that fit below the lowest bit that the usage and the type set. -/
def room (type : Nat) : Nat :=
  if type % 2 = 1 then 8 else if type % 4 = 2 then 16 else if type % 8 = 4 then 32 else 64

/-- The bit of which `room` is the value. -/
def roomBit (type : Nat) : Nat :=
  if type % 2 = 1 then 3 else if type % 4 = 2 then 4 else if type % 8 = 4 then 5 else 6

theorem room_eq (type : Nat) : room type = 2 ^ roomBit type := by
  unfold room roomBit
  split_ifs <;> rfl

theorem base_mod (type : Nat) : (GUI_EXT_USAGE_HWC <<< 6 ||| type <<< 3) % room type = 0 := by
  rw [room_eq, Nat.or_mod_two_pow, Nat.shiftLeft_eq, Nat.shiftLeft_eq]
  unfold roomBit
  split_ifs
  · rw [show type * 2 ^ 3 % 2 ^ 3 = 0 by omega]
    rfl
  · rw [show type * 2 ^ 3 % 2 ^ 4 = 0 by omega]
    rfl
  · rw [show type * 2 ^ 3 % 2 ^ 5 = 0 by omega]
    rfl
  · rw [show type * 2 ^ 3 % 2 ^ 6 = 0 by omega]
    rfl

/-- **Where there is room**, the index is added to the id of the display. -/
theorem combinedId_add {type idx : Nat} (h : idx < room type) :
    hwcId type idx = hwcId type 0 + idx := by
  have hbase := base_mod type
  unfold hwcId CONSUMER_COMBINED_ID
  rw [Nat.or_zero]
  generalize GUI_EXT_USAGE_HWC <<< 6 ||| type <<< 3 = base at hbase ⊢
  have hor : base ||| idx = base + idx := by
    have hmul : base = 2 ^ roomBit type * (base / room type) := by
      rw [← room_eq]
      have hdiv := Nat.div_add_mod base (room type)
      omega
    rw [hmul]
    exact (Nat.two_pow_add_eq_or_of_lt (room_eq type ▸ h) _).symm
  rw [hor]
  unfold room at h hbase
  split_ifs at h hbase <;> omega

/-- The first index for which there is no room has the id of index 0. -/
theorem combinedId_room (type : Nat) : hwcId type (room type) = hwcId type 0 := by
  have hbit : (GUI_EXT_USAGE_HWC <<< 6 ||| type <<< 3).testBit (roomBit type) = true := by
    rw [Nat.testBit_or, Nat.testBit_eq_decide_div_mod_eq, Nat.testBit_eq_decide_div_mod_eq,
      Nat.shiftLeft_eq, Nat.shiftLeft_eq]
    unfold roomBit
    split_ifs
    · rw [show type * 2 ^ 3 / 2 ^ 3 % 2 = 1 by omega]
      rfl
    · rw [show type * 2 ^ 3 / 2 ^ 4 % 2 = 1 by omega]
      rfl
    · rw [show type * 2 ^ 3 / 2 ^ 5 % 2 = 1 by omega]
      rfl
    · rfl
  have hor : (GUI_EXT_USAGE_HWC <<< 6 ||| type <<< 3) ||| 2 ^ roomBit type =
      GUI_EXT_USAGE_HWC <<< 6 ||| type <<< 3 := by
    apply Nat.eq_of_testBit_eq
    intro j
    rw [Nat.testBit_or, Nat.testBit_two_pow]
    by_cases hj : roomBit type = j
    · rw [← hj, hbit, Bool.true_or]
    · rw [decide_eq_false hj, Bool.or_false]
  unfold hwcId CONSUMER_COMBINED_ID
  rw [Nat.or_zero, room_eq, hor]

/-! ## The displays -/

/-- The displays are stored by type, and none is without buffers. -/
def DisplaysOk (displays : KeyedVector Nat DispInfo) : Prop :=
  ∀ type d, displays.valueFor type = some d → d.type = type ∧ 0 < d.bufNum

theorem DisplaysOk.add {displays : KeyedVector Nat DispInfo} (h : DisplaysOk displays)
    {d : DispInfo} (hpos : 0 < d.bufNum) : DisplaysOk (displays.add d.type d) := by
  intro type d' hd'
  rw [KeyedVector.valueFor_add] at hd'
  split at hd'
  · rename_i heq
    obtain rfl := Option.some.inj hd'
    exact ⟨heq.symm, hpos⟩
  · exact h type d' hd'

theorem DisplaysOk.configDisplay {pool : GuiExtPool} (h : DisplaysOk pool.mDisplayList)
    (type : Nat) (enable : Bool) (w h' bufNum : Nat) :
    DisplaysOk (pool.configDisplay type enable w h' bufNum).mDisplayList := by
  unfold GuiExtPool.configDisplay
  split
  · intro t d hd
    simp only [KeyedVector.valueFor_removeItem] at hd
    split at hd
    · cases hd
    · exact h t d hd
  · rename_i hgood
    simp only [not_or] at hgood
    exact DisplaysOk.add h (d := ⟨type, w, h', bufNum⟩) (by show 0 < bufNum; omega)

theorem DisplaysOk.defaultDisplay {pool : GuiExtPool} (h : DisplaysOk pool.mDisplayList)
    (w h' : Nat) : DisplaysOk (pool.defaultDisplay w h') := by
  unfold GuiExtPool.defaultDisplay
  split
  · exact DisplaysOk.add h (d := ⟨0, w, h', MAX_HWC_DEQUEUED_NUM⟩)
      (show 0 < MAX_HWC_DEQUEUED_NUM by decide)
  · exact h

theorem DisplaysOk.next {s : ServiceState} (h : DisplaysOk s.pool.mDisplayList) (a : ServiceAct) :
    DisplaysOk (s.next a).pool.mDisplayList := by
  cases a with
  | alloc token grallocUsage w h' =>
    simp only [ServiceState.next]
    by_cases hsize : s.pool.mPoolList.size < MAX_ALLOC_SIZE
    · rw [GuiExtPool.alloc_room hsize]
      exact h.defaultDisplay w h'
    · rw [GuiExtPool.alloc_full (Nat.not_lt.mp hsize)]
      exact h
  | free poolId => exact (GuiExtPool.free_rest _ _).2.symm ▸ h
  | configDisplay type enable w h' bufNum => exact h.configDisplay type enable w h' bufNum
  | acquire token poolId usage type d => exact (GuiExtPool.withItem_rest _ _ _).2.symm ▸ h
  | release poolId usage type buf => exact (GuiExtPool.withItem_rest _ _ _).2.symm ▸ h
  | disconnect token poolId usage type =>
    exact (GuiExtPool.disconnect_rest _ _ _).2.symm ▸ h
  | producerDied who => exact (GuiExtPool.producerDied_rest _ _).2.symm ▸ h
  | consumerDied who poolId => exact (GuiExtPool.consumerDied_rest _ _ _).2.symm ▸ h

/-- **The displays**, in every state of every run. -/
theorem DisplaysOk.of_reachable {s : ServiceState} (h : service.Reachable s) :
    DisplaysOk s.pool.mDisplayList := by
  apply h.invariant
  · rintro s rfl
    exact fun _ _ h => (Option.some_ne_none _ h.symm).elim
  · intro s a t _ hs hstep
    obtain rfl := Option.some.inj hstep
    exact hs.next a

/-! ## The slots of a new item -/

/-- The buffer is one of those that a queue of the item was prepared with. -/
def InUse (item : PoolItem) (type idx : Nat) : Prop :=
  ∃ q, item.mHwcUsedBqList.valueFor type = some q ∧ idx < q.bufNum

/-- The buffers of the queues. -/
def preparedBuffers (item : PoolItem) : List (Nat × Nat) :=
  item.mHwcUsedBqList.values.flatMap fun q => (List.range q.bufNum).map (q.type, ·)

section NewItem

variable {displays : KeyedVector Nat DispInfo} (h : DisplaysOk displays)
include h

theorem valueFor_make (generation token type : Nat) :
    (PoolItem.make generation token true displays).mHwcUsedBqList.valueFor type =
      (displays.valueFor type).map fun d => ⟨type, d.bufNum⟩ := by
  have hkey : ∀ d ∈ displays.values, ∀ d' ∈ displays.values, d.type = d'.type → d = d' := by
    intro d hd d' hd' heq
    obtain ⟨t, ht⟩ := KeyedVector.mem_values_iff.mp hd
    obtain ⟨t', ht'⟩ := KeyedVector.mem_values_iff.mp hd'
    have htype : t = t' := by rw [← (h t d ht).1, heq, (h t' d' ht').1]
    exact Option.some.inj (ht.symm.trans (htype ▸ ht'))
  have hfind : displays.values.find? (fun d => d.type = type) = displays.valueFor type := by
    unfold KeyedVector.values KeyedVector.valueFor
    rw [List.find?_map]
    congr 1
    refine List.find?_congr fun e he => ?_
    rw [Function.comp_apply, (h e.1 e.2 (KeyedVector.mem_entries_iff.mp he)).1]
  unfold PoolItem.make
  simp only [if_true]
  rw [KeyedVector.valueFor_foldl_add (fun d : DispInfo => (⟨d.type, d.bufNum⟩ : HwcBqSlot)) hkey,
    hfind]
  refine (Option.or_none).trans ?_
  cases hd : displays.valueFor type with
  | none => rfl
  | some d => rw [Option.map_some, Option.map_some, (h type d hd).1]

end NewItem

/-- A slot that nobody holds. -/
def freeSlot (buffer : Nat × Nat) : ConsumerSlot := ⟨GUI_EXT_USAGE_HWC, buffer.1, buffer.2, none⟩

theorem prepareSlots_eq (item : PoolItem) (type bufNum : Nat) :
    (item.prepareSlots GUI_EXT_USAGE_HWC type bufNum).mConsumerList =
      (List.range bufNum).foldl (fun l i => l.addAbsent (hwcId type i) (freeSlot (type, i)))
        item.mConsumerList := by
  refine congrArg (fun f => (List.range bufNum).foldl f item.mConsumerList) ?_
  funext l i
  unfold KeyedVector.addAbsent hwcId
  cases l.valueFor (CONSUMER_COMBINED_ID GUI_EXT_USAGE_HWC type i) with
  | none => rfl
  | some slot => rfl

theorem prepareSlots_foldl (qs : List HwcBqSlot) (item : PoolItem) :
    (qs.foldl (fun item q => item.prepareSlots GUI_EXT_USAGE_HWC q.type q.bufNum)
      item).mConsumerList =
      (qs.flatMap fun q => (List.range q.bufNum).map (q.type, ·)).foldl (fun l buffer =>
        l.addAbsent (hwcId buffer.1 buffer.2) (freeSlot buffer)) item.mConsumerList := by
  induction qs generalizing item with
  | nil => rfl
  | cons q qs ih =>
    rw [List.foldl_cons, ih, List.flatMap_cons, List.foldl_append, List.foldl_map, prepareSlots_eq]

/-- **The slots of a prepared item**: under an id, that of the first buffer with it. -/
theorem valueFor_prepareBuffer {item : PoolItem} (hneeded : item.mIsHwcNeeded = true)
    (hempty : item.mConsumerList = .empty) (k : Nat) :
    item.prepareBuffer.2.mConsumerList.valueFor k =
      ((preparedBuffers item).find? fun buffer => hwcId buffer.1 buffer.2 = k).map freeSlot := by
  unfold PoolItem.prepareBuffer
  rw [if_pos hneeded]
  dsimp only
  rw [prepareSlots_foldl, hempty]
  exact (KeyedVector.valueFor_foldl_addAbsent (fun buffer : Nat × Nat => hwcId buffer.1 buffer.2)
    freeSlot (preparedBuffers item) .empty k).trans (Option.none_or)

/-- Preparing the slots leaves the queues. -/
theorem prepareBuffer_queues (item : PoolItem) :
    item.prepareBuffer.2.mHwcUsedBqList = item.mHwcUsedBqList := by
  apply PoolItem.prepareBuffer_preserved (P := fun i => i.mHwcUsedBqList = item.mHwcUsedBqList) ?_
    rfl
  intro i type bufNum hi
  exact hi

/-- What is known of an item that was made with queues for the hardware composer. -/
structure Prepared (displays : KeyedVector Nat DispInfo) (item : PoolItem) : Prop where
  queue : ∀ type, item.mHwcUsedBqList.valueFor type =
    (displays.valueFor type).map fun d => ⟨type, d.bufNum⟩
  slot : ∀ k, item.mConsumerList.valueFor k =
    ((preparedBuffers item).find? fun buffer => hwcId buffer.1 buffer.2 = k).map freeSlot

theorem newItem_prepared {pool : GuiExtPool} (h : DisplaysOk pool.mDisplayList)
    {grallocUsage : Nat} (hhwc : grallocUsage &&& GRALLOC_USAGE_HW_COMPOSER ≠ 0)
    (token w h' : Nat) :
    Prepared (pool.defaultDisplay w h') (pool.newItem token grallocUsage w h') := by
  have hitem : pool.newItem token grallocUsage w h' =
      (PoolItem.make pool.generations token true (pool.defaultDisplay w h')).prepareBuffer.2 := by
    unfold GuiExtPool.newItem
    rw [decide_eq_true hhwc]
  rw [hitem]
  constructor
  · intro type
    rw [prepareBuffer_queues]
    exact valueFor_make (h.defaultDisplay w h') _ _ _
  · intro k
    have hsame : preparedBuffers (PoolItem.make pool.generations token true
        (pool.defaultDisplay w h')).prepareBuffer.2 =
        preparedBuffers (PoolItem.make pool.generations token true (pool.defaultDisplay w h')) := by
      unfold preparedBuffers
      rw [prepareBuffer_queues]
    rw [hsame]
    exact valueFor_prepareBuffer rfl rfl k

/-! ## No two buffers share a slot -/

/-- Who holds a buffer. -/
def owner (item : PoolItem) (type idx : Nat) : Option Nat :=
  (item.mConsumerList.valueFor (hwcId type idx)).bind ConsumerSlot.token

/-- Each buffer of the queues has one slot and there are no others; as long as the item has these
queues, whoever acquires or releases one buffer leaves the owners of the others. -/
structure NoAlias (item : PoolItem) : Prop where
  oneSlot : ∀ type idx, InUse item type idx → ∃! k, ∃ slot,
    item.mConsumerList.valueFor k = some slot ∧ slot.type = type ∧ slot.idx = idx
  onlySlots : ∀ k slot, item.mConsumerList.valueFor k = some slot →
    slot.usage = GUI_EXT_USAGE_HWC ∧ InUse item slot.type slot.idx
  injective : ∀ type idx type' idx', InUse item type idx → InUse item type' idx' →
    hwcId type idx = hwcId type' idx' → type = type' ∧ idx = idx'
  acquire : ∀ later : PoolItem, later.mHwcUsedBqList = item.mHwcUsedBqList →
    ∀ token type d type' idx', InUse item type d.buf.toNat → InUse item type' idx' →
      ¬ (type = type' ∧ d.buf.toNat = idx') →
      owner (later.acquire token GUI_EXT_USAGE_HWC type d).2 type' idx' = owner later type' idx'
  release : ∀ later : PoolItem, later.mHwcUsedBqList = item.mHwcUsedBqList →
    ∀ type idx type' idx', InUse item type idx → InUse item type' idx' →
      ¬ (type = type' ∧ idx = idx') →
      owner (later.release GUI_EXT_USAGE_HWC type idx).2 type' idx' = owner later type' idx'

/-- The condition on the displays: the buffers of each fit below its bits, and the ids of two of
them do not meet. -/
def Apart (displays : KeyedVector Nat DispInfo) : Prop :=
  (∀ type d, displays.valueFor type = some d → d.bufNum ≤ room type) ∧
  ∀ type d type' d', displays.valueFor type = some d → displays.valueFor type' = some d' →
    type ≠ type' → hwcId type 0 + d.bufNum ≤ hwcId type' 0 ∨
      hwcId type' 0 + d'.bufNum ≤ hwcId type 0

variable {displays : KeyedVector Nat DispInfo} {item : PoolItem}

theorem Prepared.inUse_iff (h : Prepared displays item) {type idx : Nat} :
    InUse item type idx ↔ ∃ d, displays.valueFor type = some d ∧ idx < d.bufNum := by
  unfold InUse
  rw [h.queue]
  constructor
  · rintro ⟨q, hq, hidx⟩
    obtain ⟨d, hd, rfl⟩ := Option.map_eq_some_iff.mp hq
    exact ⟨d, hd, hidx⟩
  · rintro ⟨d, hd, hidx⟩
    exact ⟨_, by rw [hd]; rfl, hidx⟩

theorem Prepared.mem_preparedBuffers (h : Prepared displays item) {type idx : Nat} :
    (type, idx) ∈ preparedBuffers item ↔ InUse item type idx := by
  have htype {t : Nat} {q : HwcBqSlot} (hq : item.mHwcUsedBqList.valueFor t = some q) :
      q.type = t := by
    rw [h.queue] at hq
    obtain ⟨d, -, rfl⟩ := Option.map_eq_some_iff.mp hq
    rfl
  unfold preparedBuffers InUse
  simp only [List.mem_flatMap, List.mem_map, List.mem_range, Prod.mk.injEq]
  constructor
  · rintro ⟨q, hq, i, hi, rfl, rfl⟩
    obtain ⟨t, ht⟩ := KeyedVector.mem_values_iff.mp hq
    exact ⟨q, (htype ht).symm ▸ ht, hi⟩
  · rintro ⟨q, hq, hidx⟩
    exact ⟨q, KeyedVector.mem_values_iff.mpr ⟨type, hq⟩, idx, hidx, htype hq, rfl⟩

/-- **When the ids are injective.** -/
theorem Prepared.injective_iff (h : Prepared displays item) (hok : DisplaysOk displays) :
    (∀ type idx type' idx', InUse item type idx → InUse item type' idx' →
      hwcId type idx = hwcId type' idx' → type = type' ∧ idx = idx') ↔ Apart displays := by
  simp only [h.inUse_iff]
  constructor
  · intro hinj
    have hfits (type : Nat) (d : DispInfo) (hd : displays.valueFor type = some d) :
        d.bufNum ≤ room type := by
      by_contra hmore
      have hzero := (hinj type (room type) type 0 ⟨d, hd, Nat.not_le.mp hmore⟩
        ⟨d, hd, (hok type d hd).2⟩ (combinedId_room type)).2
      unfold room at hzero
      split_ifs at hzero
    refine ⟨hfits, ?_⟩
    -- an id in both ranges is that of index 0 of one of the displays
    have hmeet {type type' : Nat} {d d' : DispInfo} (hd : displays.valueFor type = some d)
        (hd' : displays.valueFor type' = some d') (hle : hwcId type 0 ≤ hwcId type' 0)
        (hlt : hwcId type' 0 < hwcId type 0 + d.bufNum) : type = type' := by
      have hroom := hfits type d hd
      refine (hinj type (hwcId type' 0 - hwcId type 0) type' 0 ⟨d, hd, by omega⟩
        ⟨d', hd', (hok type' d' hd').2⟩ ?_).1
      rw [combinedId_add (by omega)]
      omega
    intro type d type' d' hd hd' hne
    by_contra hboth
    obtain ⟨hlt, hlt'⟩ := not_or.mp hboth
    rcases Nat.le_total (hwcId type 0) (hwcId type' 0) with hle | hle
    · exact hne (hmeet hd hd' hle (Nat.not_le.mp hlt))
    · exact hne (hmeet hd' hd hle (Nat.not_le.mp hlt')).symm
  · rintro ⟨hfits, hapart⟩ type idx type' idx' ⟨d, hd, hidx⟩ ⟨d', hd', hidx'⟩ heq
    have hroom := hfits type d hd
    have hroom' := hfits type' d' hd'
    have hid := combinedId_add (show idx < room type by omega)
    have hid' := combinedId_add (show idx' < room type' by omega)
    by_cases htype : type = type'
    · subst htype
      exact ⟨rfl, by omega⟩
    · have hranges := hapart type d type' d' hd hd' htype
      omega

/-- With injective ids, each buffer has its own slot. -/
theorem Prepared.valueFor_hwcId (h : Prepared displays item) (happart : Apart displays)
    (hok : DisplaysOk displays) {type idx : Nat} (huse : InUse item type idx) :
    item.mConsumerList.valueFor (hwcId type idx) = some (freeSlot (type, idx)) := by
  rw [h.slot]
  have hmem := h.mem_preparedBuffers.mpr huse
  cases hfind : (preparedBuffers item).find? fun b => hwcId b.1 b.2 = hwcId type idx with
  | none =>
    have hnone := List.find?_eq_none.mp hfind (type, idx) hmem
    exact absurd (decide_eq_true rfl) hnone
  | some b =>
    have hb : hwcId b.1 b.2 = hwcId type idx := by simpa using List.find?_some hfind
    have hbUse := h.mem_preparedBuffers.mp (List.mem_of_find?_eq_some hfind)
    obtain ⟨rfl, rfl⟩ := (h.injective_iff hok).mpr happart _ _ _ _ hbUse huse hb
    rfl

/-- What the slot under an id says. -/
theorem Prepared.of_valueFor (h : Prepared displays item) {k : Nat} {slot : ConsumerSlot}
    (hslot : item.mConsumerList.valueFor k = some slot) :
    slot.usage = GUI_EXT_USAGE_HWC ∧ InUse item slot.type slot.idx ∧
      k = hwcId slot.type slot.idx := by
  rw [h.slot] at hslot
  obtain ⟨b, hfind, rfl⟩ := Option.map_eq_some_iff.mp hslot
  have hb : hwcId b.1 b.2 = k := by simpa using List.find?_some hfind
  exact ⟨rfl, h.mem_preparedBuffers.mp (List.mem_of_find?_eq_some hfind), hb.symm⟩

/-- `acquire` touches the slot under one id. -/
theorem valueFor_acquire_other (item : PoolItem) (token type : Nat) (d : Dequeued) {k : Nat}
    (hk : k ≠ hwcId type d.buf.toNat) :
    (item.acquire token GUI_EXT_USAGE_HWC type d).2.mConsumerList.valueFor k =
      item.mConsumerList.valueFor k := by
  unfold PoolItem.acquire
  split
  · rfl
  · split
    · rfl
    · split
      · rfl
      · dsimp only
        split
        · rfl
        · dsimp only
          split
          · exact (KeyedVector.valueFor_add _ _ _ _).trans (if_neg hk)
          · rfl

/-- So does `release`. -/
theorem valueFor_release_other (item : PoolItem) (type idx : Nat) {k : Nat}
    (hk : k ≠ hwcId type idx) :
    (item.release GUI_EXT_USAGE_HWC type idx).2.mConsumerList.valueFor k =
      item.mConsumerList.valueFor k := by
  unfold PoolItem.release
  split
  · rfl
  · split
    · rfl
    · exact (KeyedVector.valueFor_modify _ _ _ _).trans (if_neg hk)

theorem Prepared.noAlias (h : Prepared displays item) (hok : DisplaysOk displays) :
    NoAlias item ↔ Apart displays := by
  constructor
  · intro hno
    exact (h.injective_iff hok).mp hno.injective
  · intro happart
    have hinj := (h.injective_iff hok).mpr happart
    constructor
    · intro type idx huse
      refine ⟨hwcId type idx, ⟨_, h.valueFor_hwcId happart hok huse, rfl, rfl⟩, ?_⟩
      rintro k ⟨slot, hslot, rfl, rfl⟩
      exact (h.of_valueFor hslot).2.2
    · intro k slot hslot
      exact ⟨(h.of_valueFor hslot).1, (h.of_valueFor hslot).2.1⟩
    · exact hinj
    · intro later _ token type d type' idx' huse huse' hne
      unfold owner
      rw [valueFor_acquire_other]
      intro heq
      obtain ⟨rfl, rfl⟩ := hinj _ _ _ _ huse' huse heq
      exact hne ⟨rfl, rfl⟩
    · intro later _ type idx type' idx' huse huse' hne
      unfold owner
      rw [valueFor_release_other]
      intro heq
      obtain ⟨rfl, rfl⟩ := hinj _ _ _ _ huse' huse heq
      exact hne ⟨rfl, rfl⟩

/-- **When no two buffers of a new pool share a slot.** -/
theorem noAlias_iff {s : ServiceState} (hs : service.Reachable s)
    (hsize : s.pool.mPoolList.size < MAX_ALLOC_SIZE) (token : Nat) {grallocUsage : Nat}
    (hhwc : grallocUsage &&& GRALLOC_USAGE_HW_COMPOSER ≠ 0) (w h : Nat) :
    ∃ poolId item pool', s.pool.alloc token grallocUsage w h = (NO_ERROR, poolId, pool') ∧
      pool'.mPoolList.valueFor poolId = some item ∧
      (NoAlias item ↔ Apart (s.pool.defaultDisplay w h)) := by
  have hok := DisplaysOk.of_reachable hs
  refine ⟨_, s.pool.newItem token grallocUsage w h, _, GuiExtPool.alloc_room hsize _ _ _ _, ?_,
    (newItem_prepared hok hhwc token w h).noAlias (hok.defaultDisplay w h)⟩
  rw [KeyedVector.valueFor_add, if_pos rfl]

/-- The first pool, for the primary display alone. -/
theorem noAlias_first :
    ∃ poolId item pool', ServiceState.start.pool.alloc 7 GRALLOC_USAGE_HW_COMPOSER 1280 800 =
      (NO_ERROR, poolId, pool') ∧ pool'.mPoolList.valueFor poolId = some item ∧ NoAlias item := by
  have hhwc : GRALLOC_USAGE_HW_COMPOSER &&& GRALLOC_USAGE_HW_COMPOSER ≠ 0 := by decide
  have hstart : service.Reachable .start := .start rfl
  obtain ⟨poolId, item, pool', halloc, hitem, hiff⟩ :=
    noAlias_iff hstart (by decide) 7 hhwc 1280 800
  refine ⟨poolId, item, pool', halloc, hitem, hiff.mpr ?_⟩
  have honly (type : Nat) (d : DispInfo)
      (hd : (ServiceState.start.pool.defaultDisplay 1280 800).valueFor type = some d) :
      type = 0 ∧ d = ⟨0, 1280, 800, MAX_HWC_DEQUEUED_NUM⟩ := by
    have hvalue := KeyedVector.valueFor_add (.empty : KeyedVector Nat DispInfo)
      HWC_DISPLAY_PRIMARY type (⟨0, 1280, 800, MAX_HWC_DEQUEUED_NUM⟩ : DispInfo)
    rw [show (ServiceState.start.pool.defaultDisplay 1280 800).valueFor type = _ from hvalue] at hd
    split at hd
    · rename_i htype
      exact ⟨htype, (Option.some.inj hd).symm⟩
    · cases hd
  constructor
  · intro type d hd
    obtain ⟨rfl, rfl⟩ := honly type d hd
    decide
  · intro type d type' d' hd hd' hne
    exact absurd ((honly type d hd).1.trans (honly type' d' hd').1.symm) hne

/-- With a pool in place, nine buffers are configured for display 0, and display 1. -/
def crowded : ServiceState :=
  ((ServiceState.start.next (.alloc 1 GRALLOC_USAGE_HW_COMPOSER 64 64)).next
    (.configDisplay 0 true 64 64 9)).next (.configDisplay 1 true 64 64 3)

/-- Then buffer 8 of display 0 and buffer 0 of display 1 of the next pool share a slot. -/
theorem not_noAlias :
    service.Reachable crowded ∧
      ∃ poolId item pool', crowded.pool.alloc 2 GRALLOC_USAGE_HW_COMPOSER 64 64 =
        (NO_ERROR, poolId, pool') ∧ pool'.mPoolList.valueFor poolId = some item ∧
        ¬ NoAlias item := by
  refine ⟨.step (.step (.step (.start rfl) rfl) rfl) rfl, 2,
    crowded.pool.newItem 2 GRALLOC_USAGE_HW_COMPOSER 64 64, _,
    GuiExtPool.alloc_room (by decide +kernel) _ _ _ _, ?_, ?_⟩
  · rw [KeyedVector.valueFor_add, if_pos (by decide +kernel)]
  · intro hno
    have hlast : InUse (crowded.pool.newItem 2 GRALLOC_USAGE_HW_COMPOSER 64 64) 0 8 :=
      ⟨⟨0, 9⟩, by decide +kernel, by decide⟩
    have hfirst : InUse (crowded.pool.newItem 2 GRALLOC_USAGE_HW_COMPOSER 64 64) 1 0 :=
      ⟨⟨1, 3⟩, by decide +kernel, by decide⟩
    exact absurd (hno.injective 0 8 1 0 hlast hfirst (by decide)).1 (by decide)

end Sloane.GuiExt
