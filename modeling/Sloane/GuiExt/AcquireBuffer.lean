import Sloane.GuiExt.Pool

/-!
# Acquiring a buffer

`GuiExtPoolItem::acquire` with what it leaves behind: the buffers that are dequeued and the listener
for the deaths of the consumers.  The binder of a consumer keeps only a weak reference to its
observer, so that one that no slot keeps is gone.

* `acquireBuffer_eq` — status and item are those of `PoolItem.acquire`.
* `allOrNothing_iff` — when the call does all of its work or nothing.
-/

namespace Sloane.GuiExt

open Sloane.Lib

/-- A pool item, its dequeued buffers by type and index, and `mConsumerDeathListener`. -/
structure AcquireState where
  item : PoolItem
  dequeued : List (Nat × Int)
  mConsumerDeathListener : Option Nat

/-- What `dequeueBuffer` does: its status and, unless `*buf` is left alone, what it writes. -/
structure DequeueResult where
  ret : Int
  written : Option Int
  deriving DecidableEq, Repr

namespace AcquireState

variable {s : AcquireState} {token usage type listener : Nat} {r : DequeueResult} {buf : Int}

/-- The status, `*buf` and the state.  From 0 on, the status of `dequeueBuffer` is a set of flags
and a buffer is dequeued. -/
def dequeueBuffer (s : AcquireState) (type : Nat) (r : DequeueResult) (buf : Int) :
    Int × Int × AcquireState :=
  let buf := r.written.getD buf
  (r.ret, buf, if 0 ≤ r.ret then { s with dequeued := (type, buf) :: s.dequeued } else s)

/-- `buf` is `*buf` as the caller left it. -/
def acquire (s : AcquireState) (token usage type listener : Nat) (r : DequeueResult) (buf : Int) :
    Int × Int × AcquireState :=
  if s.item.mIsHwcNeeded = false ∧ usage = GUI_EXT_USAGE_HWC then (INVALID_OPERATION, buf, s)
  else
    match s.item.getIGraphicBufferProducer usage type with
    | none => (BAD_INDEX, buf, s)
    | some _ =>
        let (ret, buf, s) := s.dequeueBuffer type r buf
        if ret = WOULD_BLOCK ∨ buf < 0 then (WOULD_BLOCK, buf, s)
        else
          let combineId := CONSUMER_COMBINED_ID usage type buf.toNat
          match s.item.mConsumerList.valueFor combineId with
          | none => (BAD_INDEX, buf, s)
          | some consumerSlot =>
              let item :=
                { s.item with
                  mConsumerList :=
                    if consumerSlot.token = none then
                      s.item.mConsumerList.add combineId ⟨usage, type, buf.toNat, some token⟩
                    else s.item.mConsumerList
                  mIsDisconnected := fun i =>
                    if i = usage then false else s.item.mIsDisconnected i }
              (NO_ERROR, buf, { s with item := item, mConsumerDeathListener := some listener })

/-- The call ends before `dequeueBuffer`. -/
def Refuses (s : AcquireState) (usage type : Nat) : Prop :=
  s.item.mIsHwcNeeded = false ∧ usage = GUI_EXT_USAGE_HWC ∨
    s.item.getIGraphicBufferProducer usage type = none

instance : Decidable (Refuses s usage type) := inferInstanceAs (Decidable (_ ∨ _))

/-- The slot of the index that `dequeueBuffer` leaves. -/
def slotOf (s : AcquireState) (usage type : Nat) (r : DequeueResult) (buf : Int) :
    Option ConsumerSlot :=
  s.item.mConsumerList.valueFor (CONSUMER_COMBINED_ID usage type (r.written.getD buf).toNat)

/-- The state behind `dequeueBuffer`. -/
def dequeuedState (s : AcquireState) (type : Nat) (r : DequeueResult) (buf : Int) : AcquireState :=
  (s.dequeueBuffer type r buf).2.2

/-! ## The exits -/

theorem dequeuedState_other (s : AcquireState) (type : Nat) (r : DequeueResult) (buf : Int) :
    (s.dequeuedState type r buf).item = s.item ∧
      (s.dequeuedState type r buf).mConsumerDeathListener = s.mConsumerDeathListener := by
  unfold dequeuedState dequeueBuffer
  dsimp only
  split <;> exact ⟨rfl, rfl⟩

theorem acquire_refused (h : Refuses s usage type) (token listener : Nat) (r : DequeueResult)
    (buf : Int) : ∃ err, err ≠ NO_ERROR ∧
      s.acquire token usage type listener r buf = (err, buf, s) ∧
      ∀ d, s.item.acquire token usage type d = (err, s.item) := by
  by_cases hneeded : s.item.mIsHwcNeeded = false ∧ usage = GUI_EXT_USAGE_HWC
  · exact ⟨INVALID_OPERATION, by decide, if_pos hneeded, fun _ => if_pos hneeded⟩
  · have hnone := h.resolve_left hneeded
    refine ⟨BAD_INDEX, by decide, ?_, fun d => ?_⟩
    · unfold acquire
      rw [if_neg hneeded, hnone]
    · unfold PoolItem.acquire
      rw [if_neg hneeded, hnone]

/-- The item with the slot given to the caller. -/
def acquiredItem (item : PoolItem) (token usage type buf : Nat) (slot : ConsumerSlot) : PoolItem :=
  { item with
    mConsumerList :=
      if slot.token = none then
        item.mConsumerList.add (CONSUMER_COMBINED_ID usage type buf) ⟨usage, type, buf, some token⟩
      else item.mConsumerList
    mIsDisconnected := fun i => if i = usage then false else item.mIsDisconnected i }

/-- From `dequeueBuffer` on. -/
theorem acquire_dequeues (h : ¬ Refuses s usage type) (token listener : Nat) (r : DequeueResult)
    (buf : Int) :
    s.acquire token usage type listener r buf =
      if r.ret = WOULD_BLOCK ∨ r.written.getD buf < 0 then
        (WOULD_BLOCK, r.written.getD buf, s.dequeuedState type r buf)
      else
        match s.slotOf usage type r buf with
        | none => (BAD_INDEX, r.written.getD buf, s.dequeuedState type r buf)
        | some slot =>
            (NO_ERROR, r.written.getD buf,
              { s.dequeuedState type r buf with
                item := acquiredItem s.item token usage type (r.written.getD buf).toNat slot
                mConsumerDeathListener := some listener }) := by
  obtain ⟨hneeded, hqueue⟩ := not_or.mp h
  obtain ⟨q, hq⟩ := Option.ne_none_iff_exists'.mp hqueue
  unfold acquire
  rw [if_neg hneeded, hq]
  unfold dequeuedState dequeueBuffer
  by_cases hret : 0 ≤ r.ret
  · simp only [if_pos hret]
    rfl
  · simp only [if_neg hret]
    rfl

/-- **Status and item** are those of `PoolItem.acquire`. -/
theorem acquireBuffer_eq (s : AcquireState) (token usage type listener : Nat) (r : DequeueResult)
    (buf : Int) :
    s.item.acquire token usage type ⟨r.ret, r.written.getD buf⟩ =
      ((s.acquire token usage type listener r buf).1,
        (s.acquire token usage type listener r buf).2.2.item) := by
  by_cases h : Refuses s usage type
  · obtain ⟨err, -, hacquire, hitem⟩ := acquire_refused h token listener r buf
    rw [hacquire, hitem]
  · rw [acquire_dequeues h]
    obtain ⟨hneeded, hqueue⟩ := not_or.mp h
    obtain ⟨q, hq⟩ := Option.ne_none_iff_exists'.mp hqueue
    unfold PoolItem.acquire
    rw [if_neg hneeded, hq]
    dsimp only
    split
    · rw [(dequeuedState_other s type r buf).1]
    · unfold slotOf
      cases hslot : s.item.mConsumerList.valueFor
          (CONSUMER_COMBINED_ID usage type (r.written.getD buf).toNat) with
      | none => simp only [(dequeuedState_other s type r buf).1]
      | some slot => rfl

/-! ## All or nothing -/

/-- The call succeeds with a dequeued buffer in a slot of the caller, or it fails and leaves
nothing behind. -/
structure AllOrNothing (s : AcquireState) (token usage type listener : Nat) (r : DequeueResult)
    (buf : Int) : Prop where
  all : ∀ buf' s', s.acquire token usage type listener r buf = (NO_ERROR, buf', s') →
    0 ≤ r.ret ∧ ∃ slot, s'.item.mConsumerList.valueFor
      (CONSUMER_COMBINED_ID usage type buf'.toNat) = some slot ∧ slot.token = some token
  nothing : ∀ err buf' s', s.acquire token usage type listener r buf = (err, buf', s') →
    err ≠ NO_ERROR → s'.dequeued = s.dequeued ∧ s'.item.mConsumerList = s.item.mConsumerList ∧
      s'.item.mIsDisconnected = s.item.mIsDisconnected ∧
      s'.mConsumerDeathListener = s.mConsumerDeathListener

/-- The condition: the call is refused, or `dequeueBuffer` fails and that is noticed, or it succeeds
with an index whose slot is free or the caller's. -/
def Clean (s : AcquireState) (token usage type : Nat) (r : DequeueResult) (buf : Int) : Prop :=
  Refuses s usage type ∨
    r.ret < 0 ∧ (r.ret = WOULD_BLOCK ∨ r.written.getD buf < 0 ∨ s.slotOf usage type r buf = none) ∨
    0 ≤ r.ret ∧ 0 ≤ r.written.getD buf ∧ ∃ slot, s.slotOf usage type r buf = some slot ∧
      (slot.token = none ∨ slot.token = some token)

/-- A call that fails has to leave everything as it was. -/
theorem allOrNothing_failed {err buf' : Int} {s' : AcquireState} (herr : err ≠ NO_ERROR)
    {token listener : Nat}
    (hacquire : s.acquire token usage type listener r buf = (err, buf', s')) :
    AllOrNothing s token usage type listener r buf ↔
      s'.dequeued = s.dequeued ∧ s'.item.mConsumerList = s.item.mConsumerList ∧
        s'.item.mIsDisconnected = s.item.mIsDisconnected ∧
        s'.mConsumerDeathListener = s.mConsumerDeathListener := by
  constructor
  · intro hall
    exact hall.nothing _ _ _ hacquire herr
  · intro hsame
    constructor
    · intro buf'' s'' hdone
      rw [hacquire] at hdone
      exact absurd (Prod.mk.inj hdone).1 herr
    · intro err' buf'' s'' hdone _
      rw [hacquire] at hdone
      obtain ⟨-, -, rfl⟩ := hdone
      exact hsame

theorem allOrNothing_refused (h : Refuses s usage type) (token listener : Nat)
    (r : DequeueResult) (buf : Int) : AllOrNothing s token usage type listener r buf := by
  obtain ⟨err, herr, hacquire, -⟩ := acquire_refused h token listener r buf
  exact (allOrNothing_failed herr hacquire).mpr ⟨rfl, rfl, rfl, rfl⟩

/-- Nothing is dequeued if and only if the status of `dequeueBuffer` is negative. -/
theorem dequeuedState_dequeued :
    (s.dequeuedState type r buf).dequeued = s.dequeued ↔ r.ret < 0 := by
  unfold dequeuedState dequeueBuffer
  dsimp only
  split
  · rename_i hret
    exact iff_of_false (List.cons_ne_self _ _) (Int.not_lt.mpr hret)
  · rename_i hret
    exact iff_of_true rfl (Int.not_le.mp hret)

/-- An exit with an error behind `dequeueBuffer`. -/
theorem allOrNothing_error {err : Int} (herr : err ≠ NO_ERROR) {token listener : Nat}
    (hacquire : s.acquire token usage type listener r buf =
      (err, r.written.getD buf, s.dequeuedState type r buf)) :
    AllOrNothing s token usage type listener r buf ↔ r.ret < 0 := by
  obtain ⟨hitem, hlistener⟩ := dequeuedState_other s type r buf
  rw [allOrNothing_failed herr hacquire, dequeuedState_dequeued, hitem, hlistener]
  exact and_iff_left ⟨rfl, rfl, rfl⟩

/-- The slot after the call is the caller's if it was, or if it was free. -/
theorem valueFor_acquiredItem {item : PoolItem} {token usage type buf : Nat} {slot : ConsumerSlot}
    (hslot : item.mConsumerList.valueFor (CONSUMER_COMBINED_ID usage type buf) = some slot) :
    (∃ slot', (acquiredItem item token usage type buf slot).mConsumerList.valueFor
        (CONSUMER_COMBINED_ID usage type buf) = some slot' ∧ slot'.token = some token) ↔
      slot.token = none ∨ slot.token = some token := by
  unfold acquiredItem
  by_cases hfree : slot.token = none
  · simp only [if_pos hfree, KeyedVector.valueFor_add, if_true]
    exact iff_of_true ⟨_, rfl, rfl⟩ (.inl hfree)
  · simp only [hfree, if_false, hslot, Option.some.injEq, exists_eq_left', false_or]

/-- The last exit. -/
theorem allOrNothing_slot (h : ¬ Refuses s usage type) {token listener : Nat}
    (hblocked : ¬ (r.ret = WOULD_BLOCK ∨ r.written.getD buf < 0)) {slot : ConsumerSlot}
    (hslot : s.slotOf usage type r buf = some slot) :
    AllOrNothing s token usage type listener r buf ↔
      0 ≤ r.ret ∧ (slot.token = none ∨ slot.token = some token) := by
  have hacquire := acquire_dequeues h token listener r buf
  rw [if_neg hblocked, hslot] at hacquire
  rw [← valueFor_acquiredItem hslot]
  constructor
  · intro hall
    exact hall.all _ _ hacquire
  · intro hgood
    constructor
    · intro buf' s' hdone
      rw [hacquire] at hdone
      obtain ⟨-, rfl, rfl⟩ := hdone
      exact hgood
    · intro err buf' s' hdone herr
      rw [hacquire] at hdone
      exact absurd (Prod.mk.inj hdone).1.symm herr

/-- **When the call does all of its work or nothing.** -/
theorem allOrNothing_iff (s : AcquireState) (token usage type listener : Nat) (r : DequeueResult)
    (buf : Int) :
    AllOrNothing s token usage type listener r buf ↔ Clean s token usage type r buf := by
  unfold Clean
  by_cases h : Refuses s usage type
  · exact iff_of_true (allOrNothing_refused h token listener r buf) (.inl h)
  · have hacquire := acquire_dequeues h token listener r buf
    rw [or_iff_right h]
    by_cases hblocked : r.ret = WOULD_BLOCK ∨ r.written.getD buf < 0
    · rw [if_pos hblocked] at hacquire
      rw [allOrNothing_error (by decide) hacquire]
      have hwould : r.ret = WOULD_BLOCK → r.ret < 0 := fun heq => by rw [heq]; decide
      constructor
      · intro hret
        exact .inl ⟨hret, hblocked.imp_right .inl⟩
      · rintro (⟨hret, -⟩ | ⟨hret, hbuf, -⟩)
        · exact hret
        · exact hwould (hblocked.resolve_right (Int.not_lt.mpr hbuf))
    · obtain ⟨hne, hbuf⟩ := not_or.mp hblocked
      cases hslot : s.slotOf usage type r buf with
      | none =>
        rw [if_neg hblocked, hslot] at hacquire
        rw [allOrNothing_error (by decide) hacquire]
        simp
      | some slot =>
        rw [allOrNothing_slot h hblocked hslot]
        have hbuf' := Int.not_lt.mp hbuf
        simp [hne, hbuf, hbuf']

def NO_INIT : Int := -19

/-- The item of a new pool for the primary display, with nothing dequeued. -/
def newState : AcquireState where
  item := (PoolItem.make 0 1 true (GuiExtPool.new.defaultDisplay 1280 800)).prepareBuffer.2
  dequeued := []
  mConsumerDeathListener := none

/-- The queue is abandoned and the caller did not initialise its index: the call succeeds. -/
theorem not_allOrNothing :
    ¬ AllOrNothing newState 7 GUI_EXT_USAGE_HWC HWC_DISPLAY_PRIMARY 9 ⟨NO_INIT, none⟩ 0 := by
  intro hall
  have hacquire : newState.acquire 7 GUI_EXT_USAGE_HWC HWC_DISPLAY_PRIMARY 9 ⟨NO_INIT, none⟩ 0 =
      (NO_ERROR, 0, (newState.acquire 7 GUI_EXT_USAGE_HWC HWC_DISPLAY_PRIMARY 9
        ⟨NO_INIT, none⟩ 0).2.2) := rfl
  exact absurd (hall.all _ _ hacquire).1 (by decide)

end AcquireState

end Sloane.GuiExt
