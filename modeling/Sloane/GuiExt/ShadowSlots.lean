import Sloane.GuiExt.ClientConsumer

/-!
# The shadow slots

`WellFormed` says that each slot is stored under the id of its own fields and that no two slots
share a handle.

* `getSlotFromBufferLocked_eq` — a buffer is then found in its own slot.
* `disconnectLoop_spec` — the loop of `disconnect` removes the slots of the pool and releases
  those of them that are acquired.
-/

namespace Sloane.GuiExt

open Sloane.Lib

variable {B : Type}

def BufferSlot.combinedId (s : BufferSlot B) : Nat :=
  POOL_COMBINED_ID s.poolId s.usage s.type s.idx

/-- `m'` has no slots but those of `m`, apart from their flags. -/
def SubSlots (m' m : Slots B) : Prop :=
  ∀ k s', m'.valueFor k = some s' → ∃ s, m.valueFor k = some s ∧
    { s' with isAcquired := s.isAcquired } = s

namespace SubSlots

variable {m m' m'' : Slots B}

theorem refl (m : Slots B) : SubSlots m m := fun _ s h => ⟨s, h, rfl⟩

theorem trans (h' : SubSlots m'' m') (h : SubSlots m' m) : SubSlots m'' m := by
  intro k s'' hs''
  obtain ⟨s', hs', heq'⟩ := h' k s'' hs''
  obtain ⟨s, hs, heq⟩ := h k s' hs'
  refine ⟨s, hs, ?_⟩
  rw [← heq, ← heq']

theorem modify (m : Slots B) (k : Nat) (b : Bool) :
    SubSlots (m.modify k fun s => { s with isAcquired := b }) m := by
  intro k' s' hs'
  rw [KeyedVector.valueFor_modify] at hs'
  split at hs'
  · obtain ⟨s, hs, rfl⟩ := Option.map_eq_some_iff.mp hs'
    exact ⟨s, hs, rfl⟩
  · exact ⟨s', hs', rfl⟩

theorem removeItem (m : Slots B) (k : Nat) : SubSlots (m.removeItem k) m := by
  intro k' s' hs'
  rw [KeyedVector.valueFor_removeItem] at hs'
  split at hs'
  · cases hs'
  · exact ⟨s', hs', rfl⟩

end SubSlots

structure WellFormed (m : Slots B) : Prop where
  key_eq : ∀ {k s}, m.valueFor k = some s → k = s.combinedId
  handle_inj : ∀ {k k' s s'}, m.valueFor k = some s → m.valueFor k' = some s' →
    s.buffer.handle = s'.buffer.handle → k = k'

namespace WellFormed

variable {m m' : Slots B}

theorem empty : WellFormed (KeyedVector.empty : Slots B) where
  key_eq h := by cases h
  handle_inj h := by cases h

theorem mono (h : WellFormed m) (hsub : SubSlots m' m) : WellFormed m' where
  key_eq hs' := by
    obtain ⟨s, hs, heq⟩ := hsub _ _ hs'
    have hkey := h.key_eq hs
    rw [← heq] at hkey
    exact hkey
  handle_inj hs' ht' heq := by
    obtain ⟨s, hs, hs_eq⟩ := hsub _ _ hs'
    obtain ⟨t, ht, ht_eq⟩ := hsub _ _ ht'
    apply h.handle_inj hs ht
    rw [← hs_eq, ← ht_eq]
    exact heq

theorem modify (h : WellFormed m) (k : Nat) (b : Bool) :
    WellFormed (m.modify k fun s => { s with isAcquired := b }) :=
  h.mono (.modify m k b)

theorem removeItem (h : WellFormed m) (k : Nat) : WellFormed (m.removeItem k) :=
  h.mono (.removeItem m k)

theorem add (h : WellFormed m) {k : Nat} {s : BufferSlot B} (hk : k = s.combinedId)
    (hfresh : ∀ {k t}, m.valueFor k = some t → t.buffer.handle ≠ s.buffer.handle) :
    WellFormed (m.add k s) where
  key_eq {k' t} ht := by
    rw [KeyedVector.valueFor_add] at ht
    split at ht
    · rename_i hk'
      obtain rfl := Option.some.inj ht
      exact hk'.trans hk
    · exact h.key_eq ht
  handle_inj {k₁ k₂ t t'} ht ht' heq := by
    rw [KeyedVector.valueFor_add] at ht ht'
    split at ht <;> split at ht'
    · rename_i hk₁ hk₂
      exact hk₁.trans hk₂.symm
    · obtain rfl := Option.some.inj ht
      exact absurd heq.symm (hfresh ht')
    · obtain rfl := Option.some.inj ht'
      exact absurd heq (hfresh ht)
    · exact h.handle_inj ht ht' heq

end WellFormed

/-! ## The outcomes of acquire -/

/-- **What acquire does**: it fails, it takes a backup slot, it makes a new slot, or it hands out
the buffer of a slot that it has and leaves the slot as it is. -/
theorem acquire_cases (m : Slots B) (poolId usage type : Nat) (assertState : Int)
    (r : AcquireReply) (request : RequestReply B) :
    (∃ err, acquire m poolId usage type assertState r request = ⟨err, none, m⟩) ∨
    (∃ k slot, m.valueFor k = some slot ∧ slot.OfPool poolId usage type ∧
      slot.isAcquired = false ∧ acquire m poolId usage type assertState r request =
        ⟨NO_ERROR, some slot.buffer, m.modify k fun s => { s with isAcquired := true }⟩) ∨
    (checkCall usage type assertState = NO_ERROR ∧ 0 ≤ r.err ∧
      ((m.valueFor (POOL_COMBINED_ID poolId usage type r.buf) = none ∧
        acquire m poolId usage type assertState r request =
          ⟨NO_ERROR, some request.buffer, m.add (POOL_COMBINED_ID poolId usage type r.buf)
            (newSlot poolId usage type r.buf request.buffer)⟩) ∨
      ∃ slot, m.valueFor (POOL_COMBINED_ID poolId usage type r.buf) = some slot ∧
        acquire m poolId usage type assertState r request =
          ⟨NO_ERROR, some slot.buffer, m⟩)) := by
  unfold acquire acquireReplied acquireBackup acquireNew
  by_cases hcheck : checkCall usage type assertState = NO_ERROR
  · rw [if_neg (not_not.mpr hcheck)]
    by_cases herr : r.err < 0
    · rw [if_pos herr]
      cases hfind : m.entries.find? fun e =>
          e.2.OfPool poolId usage type ∧ e.2.isAcquired = false with
      | none => exact .inl ⟨_, rfl⟩
      | some e =>
        obtain ⟨k, slot⟩ := e
        have hslot := List.find?_some hfind
        obtain ⟨hpool, hfree⟩ := of_decide_eq_true hslot
        exact .inr (.inl ⟨k, slot,
          KeyedVector.mem_entries_iff.mp (List.mem_of_find?_eq_some hfind), hpool, hfree, rfl⟩)
    · rw [if_neg herr]
      cases hval : m.valueFor (POOL_COMBINED_ID poolId usage type r.buf) with
      | none =>
        by_cases hreq : request.err = NO_ERROR
        · exact .inr (.inr ⟨hcheck, not_lt.mp herr, .inl ⟨rfl, if_neg (not_not.mpr hreq)⟩⟩)
        · exact .inl ⟨_, if_pos hreq⟩
      | some slot => exact .inr (.inr ⟨hcheck, not_lt.mp herr, .inr ⟨slot, rfl, rfl⟩⟩)
  · exact .inl ⟨_, if_pos hcheck⟩

/-! ## Finding a buffer -/

theorem getSlotFromBufferLocked_some {m : Slots B} {b : GraphicBuffer B} {idx : Nat}
    (h : getSlotFromBufferLocked m b = some idx) :
    ∃ k s, m.valueFor k = some s ∧ s.buffer.handle = b.handle ∧ s.idx = idx := by
  obtain ⟨⟨k, s⟩, hfind, rfl⟩ := Option.map_eq_some_iff.mp h
  exact ⟨k, s, KeyedVector.mem_entries_iff.mp (List.mem_of_find?_eq_some hfind),
    by simpa using List.find?_some hfind, rfl⟩

/-- A buffer is found in its own slot. -/
theorem getSlotFromBufferLocked_eq {m : Slots B} (hm : WellFormed m) {b : GraphicBuffer B}
    {k : Nat} {s : BufferSlot B} (hs : m.valueFor k = some s) (hb : s.buffer.handle = b.handle) :
    getSlotFromBufferLocked m b = some s.idx := by
  have hsome : (getSlotFromBufferLocked m b).isSome = true := by
    unfold getSlotFromBufferLocked
    rw [Option.isSome_map, List.find?_isSome]
    exact ⟨(k, s), KeyedVector.mem_entries_iff.mpr hs, by simpa using hb⟩
  obtain ⟨idx, hidx⟩ := Option.isSome_iff_exists.mp hsome
  obtain ⟨k', s', hs', hb', rfl⟩ := getSlotFromBufferLocked_some hidx
  obtain rfl := hm.handle_inj hs hs' (hb.trans hb'.symm)
  obtain rfl := Option.some.inj (hs.symm.trans hs')
  exact hidx

/-! ## The loop of disconnect -/

/-- The release that `disconnect` sends for a slot. -/
def releaseOf (poolId usage type : Nat) (e : Nat × BufferSlot B) : ServiceCall :=
  .release poolId usage type e.2.idx

/-- One pass: a slot of the pool goes, with a release if it is acquired. -/
theorem disconnectSlot_spec {m : Slots B} (hm : WellFormed m) {poolId usage type i : Nat}
    (reply : ServiceCall → Int) {e : Nat × BufferSlot B} (he : m.entries[i]? = some e) :
    disconnectSlot m poolId usage type i reply =
      if e.2.OfPool poolId usage type then
        (m.removeItem e.1, if e.2.isAcquired then [releaseOf poolId usage type e] else [])
      else (m, []) := by
  obtain ⟨k, s⟩ := e
  have hs : m.valueFor k = some s :=
    KeyedVector.mem_entries_iff.mp (List.mem_of_getElem? he)
  unfold disconnectSlot KeyedVector.valueAt
  simp only [he, Option.map_some]
  by_cases hpool : s.OfPool poolId usage type
  · have hkey : POOL_COMBINED_ID poolId usage type s.idx = k := by
      obtain ⟨rfl, rfl, rfl⟩ := hpool
      exact (hm.key_eq hs).symm
    simp only [if_pos hpool, hkey]
    by_cases hacq : s.isAcquired = true
    · simp only [hacq, if_true, releaseLocked, getSlotFromBufferLocked_eq hm hs rfl, hkey,
        KeyedVector.removeItem_modify]
      rfl
    · simp only [hacq]
      rfl
  · simp only [if_neg hpool]

/-- **The loop**: below the index the slots of the pool are removed, and those that are acquired
are released, from the highest. -/
theorem disconnectLoop_spec (poolId usage type : Nat) (reply : ServiceCall → Int) {i : Nat}
    {m : Slots B} (hm : WellFormed m) (hi : i ≤ m.entries.length) :
    (disconnectLoop poolId usage type reply i m).1.entries =
      (m.entries.take i).filter (fun e => ¬ e.2.OfPool poolId usage type) ++ m.entries.drop i ∧
    (disconnectLoop poolId usage type reply i m).2 =
      ((m.entries.take i).filter fun e =>
        e.2.OfPool poolId usage type ∧ e.2.isAcquired).reverse.map
          (releaseOf poolId usage type) := by
  induction i generalizing m with
  | zero => exact ⟨rfl, rfl⟩
  | succ i ih =>
    obtain ⟨e, he⟩ : ∃ e, m.entries[i]? = some e := ⟨_, List.getElem?_eq_getElem hi⟩
    have htake : m.entries.take (i + 1) = m.entries.take i ++ [e] := by
      rw [List.take_add_one, he]
      rfl
    simp only [disconnectLoop, disconnectSlot_spec hm reply he, htake, List.filter_append,
      List.reverse_append]
    by_cases hpool : e.2.OfPool poolId usage type
    · have hrem := KeyedVector.removeItem_entries (k := e.1) (v := e.2) he
      have hlen : (m.entries.take i).length = i := List.length_take_of_le (by omega)
      have hi' : i ≤ (m.removeItem e.1).entries.length := by
        rw [hrem, List.length_append, hlen]
        omega
      obtain ⟨hent, hcalls⟩ := ih (hm.removeItem e.1) hi'
      rw [hrem, List.take_left' hlen] at hent hcalls
      rw [List.drop_left' hlen] at hent
      simp only [if_pos hpool, hent, hcalls]
      refine ⟨by simp [hpool], ?_⟩
      by_cases hacq : e.2.isAcquired = true
      · simp [hpool, hacq]
      · simp [hpool, hacq]
    · obtain ⟨hent, hcalls⟩ := ih hm (by omega)
      have hdrop : m.entries.drop i = e :: m.entries.drop (i + 1) := by
        obtain ⟨hlt, rfl⟩ := List.getElem?_eq_some_iff.mp he
        exact (List.getElem_cons_drop hlt).symm
      simp only [if_neg hpool, hent, hcalls, hdrop]
      exact ⟨by simp [hpool], by simp [hpool]⟩

/-- The loop of `disconnect` over all slots leaves those of the other pools. -/
theorem disconnectLoop_valueFor {m : Slots B} (hm : WellFormed m) (poolId usage type : Nat)
    (reply : ServiceCall → Int) {k : Nat} {s : BufferSlot B} :
    (disconnectLoop poolId usage type reply m.size m).1.valueFor k = some s ↔
      m.valueFor k = some s ∧ ¬ s.OfPool poolId usage type := by
  have hent := (disconnectLoop_spec poolId usage type reply hm (Nat.le_refl _)).1
  rw [List.take_length, List.drop_length, List.append_nil] at hent
  rw [← KeyedVector.mem_entries_iff, ← KeyedVector.mem_entries_iff, KeyedVector.size, hent,
    List.mem_filter]
  simp

/-! ## What the calls leave of the slots -/

theorem acquireBackup_sub (m : Slots B) (poolId usage type : Nat) (err : Int) :
    SubSlots (acquireBackup m poolId usage type err).slots m := by
  unfold acquireBackup
  split
  · exact .modify m _ true
  · exact .refl m

theorem releaseLocked_sub (m : Slots B) (b : GraphicBuffer B) (poolId usage type : Nat)
    (reply : ServiceCall → Int) :
    SubSlots (releaseLocked m b poolId usage type reply).slots m := by
  unfold releaseLocked
  split
  · exact .refl m
  · exact .modify m _ false

theorem release_sub (m : Slots B) (b : Option (GraphicBuffer B)) (poolId usage type : Nat)
    (assertState : Int) (reply : ServiceCall → Int) :
    SubSlots (release m b poolId usage type assertState reply).slots m := by
  unfold release
  split
  · exact .refl m
  · split
    · exact .refl m
    · exact releaseLocked_sub m _ poolId usage type reply

theorem disconnectSlot_sub (m : Slots B) (poolId usage type i : Nat)
    (reply : ServiceCall → Int) :
    SubSlots (disconnectSlot m poolId usage type i reply).1 m := by
  unfold disconnectSlot
  split
  · split
    · refine (SubSlots.removeItem _ _).trans ?_
      split
      · exact releaseLocked_sub m _ poolId usage type reply
      · exact .refl m
    · exact .refl m
  · exact .refl m

theorem disconnectLoop_sub (poolId usage type : Nat) (reply : ServiceCall → Int) (i : Nat)
    (m : Slots B) : SubSlots (disconnectLoop poolId usage type reply i m).1 m := by
  induction i generalizing m with
  | zero => exact .refl m
  | succ i ih => exact (ih _).trans (disconnectSlot_sub m poolId usage type i reply)

theorem disconnect_sub (m : Slots B) (poolId usage type : Nat) (assertState : Int)
    (reply : ServiceCall → Int) :
    SubSlots (disconnect m poolId usage type assertState reply).slots m := by
  unfold disconnect
  split
  · exact .refl m
  · split
    · exact .refl m
    · exact disconnectLoop_sub poolId usage type reply _ m

/-! ## The combined id -/

/-- As long as the fields stay in their places the id is a sum. -/
theorem POOL_COMBINED_ID_eq {id usage type idx : Nat} (hid : id < 2 ^ 22) (husage : usage < 2 ^ 4)
    (htype : type < 2 ^ 3) (hidx : idx < 2 ^ 3) :
    POOL_COMBINED_ID id usage type idx = id * 1024 + usage * 64 + type * 8 + idx := by
  unfold POOL_COMBINED_ID
  have husage' : usage <<< 6 < 2 ^ 10 := by rw [Nat.shiftLeft_eq]; omega
  have htype' : type <<< 3 < 2 ^ 6 := by rw [Nat.shiftLeft_eq]; omega
  have h₁ : id <<< 10 ||| usage <<< 6 = (id * 16 + usage) <<< 6 := by
    rw [← Nat.shiftLeft_add_eq_or_of_lt husage']
    simp only [Nat.shiftLeft_eq]
    omega
  have h₂ : (id * 16 + usage) <<< 6 ||| type <<< 3 = ((id * 16 + usage) * 8 + type) <<< 3 := by
    rw [← Nat.shiftLeft_add_eq_or_of_lt htype']
    simp only [Nat.shiftLeft_eq]
    omega
  rw [h₁, h₂, ← Nat.shiftLeft_add_eq_or_of_lt hidx, Nat.shiftLeft_eq, Nat.mod_eq_of_lt (by omega)]
  omega

/-- The id then tells the fields. -/
theorem POOL_COMBINED_ID_inj {id usage type idx id' usage' type' idx' : Nat}
    (hid : id < 2 ^ 22) (husage : usage < 2 ^ 4) (htype : type < 2 ^ 3) (hidx : idx < 2 ^ 3)
    (hid' : id' < 2 ^ 22) (husage' : usage' < 2 ^ 4) (htype' : type' < 2 ^ 3)
    (hidx' : idx' < 2 ^ 3)
    (h : POOL_COMBINED_ID id usage type idx = POOL_COMBINED_ID id' usage' type' idx') :
    id = id' ∧ usage = usage' ∧ type = type' ∧ idx = idx' := by
  rw [POOL_COMBINED_ID_eq hid husage htype hidx, POOL_COMBINED_ID_eq hid' husage' htype' hidx'] at h
  omega

end Sloane.GuiExt
