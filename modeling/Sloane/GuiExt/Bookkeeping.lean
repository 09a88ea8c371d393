import Mathlib.Data.List.Nodup
import Sloane.GuiExt.ShadowSlots
import Sloane.Lib.Run

/-!
# The bookkeeping of the consumer client

`held` records the buffers that the caller has been handed and has not given back; a step is
`Faithful` when the flags agree with it, no buffer is handed out twice and `disconnect` releases
what is held.

* `faithful_iff` — a run is faithful iff no successful service call leads `acquire` to a slot that
  exists already (it hands out the buffer of such a slot without setting its flag) and no `release`
  names the slot of another buffer that is held.
* `not_faithful_reacquired` — acquire, release and acquire again.
-/

namespace Sloane.GuiExt

open Sloane.Lib System

variable {B : Type}

/-- A buffer that the caller holds, and what it was acquired for. -/
structure Holding (B : Type) where
  buffer : GraphicBuffer B
  poolId : Nat
  usage : Nat
  type : Nat
  deriving DecidableEq, Repr

def BufferSlot.holding (s : BufferSlot B) : Holding B := ⟨s.buffer, s.poolId, s.usage, s.type⟩

def Holding.OfPool (poolId usage type : Nat) (h : Holding B) : Prop :=
  h.poolId = poolId ∧ h.usage = usage ∧ h.type = type

instance (poolId usage type : Nat) (h : Holding B) : Decidable (h.OfPool poolId usage type) :=
  inferInstanceAs (Decidable (_ ∧ _))

/-- The caller gives the buffer back if it names what it was acquired for. -/
def Holding.GivenBack (b : GraphicBuffer B) (poolId usage type : Nat) (h : Holding B) : Prop :=
  h.buffer.handle = b.handle ∧ h.OfPool poolId usage type

instance (b : GraphicBuffer B) (poolId usage type : Nat) (h : Holding B) :
    Decidable (h.GivenBack b poolId usage type) :=
  inferInstanceAs (Decidable (_ ∧ _))

structure ConsumerState (B : Type) where
  mSlots : Slots B
  held : List (Holding B)

/-- A call of the client, with the replies of the service. -/
inductive ConsumerCall (B : Type) where
  | acquire (poolId usage type : Nat) (assertState : Int) (r : AcquireReply)
      (request : RequestReply B)
  | release (buffer : Option (GraphicBuffer B)) (poolId usage type : Nat) (assertState : Int)
      (reply : ServiceCall → Int)
  | disconnect (poolId usage type : Nat) (assertState : Int) (reply : ServiceCall → Int)

/-! ## The calls -/

def heldAfterAcquire (held : List (Holding B)) (poolId usage type : Nat) (res : Acquired B) :
    List (Holding B) :=
  match res.buffer with
  | some b => ⟨b, poolId, usage, type⟩ :: held
  | none => held

def heldAfterRelease (held : List (Holding B)) (buffer : Option (GraphicBuffer B))
    (poolId usage type : Nat) (assertState : Int) : List (Holding B) :=
  match buffer with
  | some b =>
      if checkCall usage type assertState = NO_ERROR then
        held.filter fun h => ¬ h.GivenBack b poolId usage type
      else held
  | none => held

def heldAfterDisconnect (held : List (Holding B)) (poolId usage type : Nat) (assertState : Int) :
    List (Holding B) :=
  if checkCall usage type assertState = NO_ERROR then
    held.filter fun h => ¬ h.OfPool poolId usage type
  else held

def ConsumerState.next (s : ConsumerState B) : ConsumerCall B → ConsumerState B
  | .acquire poolId usage type assertState r request =>
      let res := acquire s.mSlots poolId usage type assertState r request
      ⟨res.slots, heldAfterAcquire s.held poolId usage type res⟩
  | .release buffer poolId usage type assertState reply =>
      ⟨(release s.mSlots buffer poolId usage type assertState reply).slots,
        heldAfterRelease s.held buffer poolId usage type assertState⟩
  | .disconnect poolId usage type assertState reply =>
      ⟨(disconnect s.mSlots poolId usage type assertState reply).slots,
        heldAfterDisconnect s.held poolId usage type assertState⟩

/-- Each buffer that `request` returns is a new one, with a handle of its own. -/
def FreshReply (m : Slots B) : ConsumerCall B → Prop
  | .acquire _ _ _ _ _ request =>
      ∀ e ∈ m.entries, e.2.buffer.handle ≠ request.buffer.handle
  | .release _ _ _ _ _ _ | .disconnect _ _ _ _ _ => True

def consumer (B : Type) : System (ConsumerState B) (ConsumerCall B) where
  init s := s = ⟨.empty, []⟩
  step s c t := FreshReply s.mSlots c ∧ t = s.next c

/-! ## What the books should say -/

def releases (calls : List ServiceCall) : List ServiceCall :=
  calls.filter fun
    | .release _ _ _ _ => true
    | .disconnect _ _ _ => false

/-- The buffer that the call hands out. -/
def ConsumerState.handsOut (s : ConsumerState B) : ConsumerCall B → Option (GraphicBuffer B)
  | .acquire poolId usage type assertState r request =>
      (acquire s.mSlots poolId usage type assertState r request).buffer
  | .release _ _ _ _ _ _ | .disconnect _ _ _ _ _ => none

/-- `disconnect` releases each buffer of the pool that is held, by the slot where it is found. -/
def ConsumerState.ReleasesHeld (s : ConsumerState B) : ConsumerCall B → Prop
  | .disconnect poolId usage type assertState reply =>
      checkCall usage type assertState = NO_ERROR →
        ((releases (disconnect s.mSlots poolId usage type assertState reply).calls).map some).Perm
          ((s.held.filter fun h => h.OfPool poolId usage type).map fun h =>
            (getSlotFromBufferLocked s.mSlots h.buffer).map (.release poolId usage type))
  | .acquire _ _ _ _ _ _ | .release _ _ _ _ _ _ => True

structure Faithful (x : Transition (ConsumerState B) (ConsumerCall B)) : Prop where
  /-- a slot is flagged exactly when its buffer is held -/
  flags : ∀ k s, x.post.mSlots.valueFor k = some s →
    (s.isAcquired = true ↔ ∃ h ∈ x.post.held, h.buffer = s.buffer)
  /-- a buffer that is handed out was not held -/
  handsOut : ∀ b, x.pre.handsOut x.act = some b → ∀ h ∈ x.pre.held, h.buffer ≠ b
  releasesHeld : x.pre.ReleasesHeld x.act

/-- The condition on a call: a successful service call gives a slot that the client does not have
yet, and a release names the slot of its own buffer, or of one that is not held. -/
def KeepsBooks (s : ConsumerState B) : ConsumerCall B → Prop
  | .acquire poolId usage type assertState r _ =>
      checkCall usage type assertState = NO_ERROR → 0 ≤ r.err →
        s.mSlots.valueFor (POOL_COMBINED_ID poolId usage type r.buf) = none
  | .release buffer poolId usage type assertState _ =>
      checkCall usage type assertState = NO_ERROR → ∀ b ∈ buffer,
        ∀ idx ∈ getSlotFromBufferLocked s.mSlots b,
          ∀ slot ∈ s.mSlots.valueFor (POOL_COMBINED_ID poolId usage type idx),
            slot.holding.GivenBack b poolId usage type ∨ slot.holding ∉ s.held
  | .disconnect _ _ _ _ _ => True

structure ConsumerState.Inv (s : ConsumerState B) : Prop where
  wf : WellFormed s.mSlots
  flags : ∀ k slot, s.mSlots.valueFor k = some slot →
    (slot.isAcquired = true ↔ slot.holding ∈ s.held)
  held_slot : ∀ h ∈ s.held, ∃ k slot, s.mSlots.valueFor k = some slot ∧ slot.holding = h
  nodup : s.held.Nodup

namespace ConsumerState.Inv

variable {s : ConsumerState B}

/-- The buffer of a slot is held only as what the slot says. -/
theorem buffer_held (hs : s.Inv) {k : Nat} {slot : BufferSlot B}
    (hk : s.mSlots.valueFor k = some slot) :
    slot.holding ∈ s.held ↔ ∃ h ∈ s.held, h.buffer = slot.buffer := by
  constructor
  · intro h
    exact ⟨_, h, rfl⟩
  · rintro ⟨h, hmem, hbuf⟩
    obtain ⟨k', slot', hk', rfl⟩ := hs.held_slot h hmem
    have hhandle : slot'.buffer.handle = slot.buffer.handle := congrArg GraphicBuffer.handle hbuf
    obtain rfl := hs.wf.handle_inj hk' hk hhandle
    obtain rfl := Option.some.inj (hk'.symm.trans hk)
    exact hmem

theorem faithful_flags (hs : s.Inv) : ∀ k slot, s.mSlots.valueFor k = some slot →
    (slot.isAcquired = true ↔ ∃ h ∈ s.held, h.buffer = slot.buffer) :=
  fun k slot hk => (hs.flags k slot hk).trans (hs.buffer_held hk)

/-- A buffer that was not held is handed out with a flagged slot. -/
theorem take (hs : s.Inv) {m : Slots B} (k : Nat) (slot : BufferSlot B) (hwf : WellFormed m)
    (hval : ∀ k', m.valueFor k' = if k' = k then some slot else s.mSlots.valueFor k')
    (hold : ∀ old, s.mSlots.valueFor k = some old → old.holding = slot.holding)
    (hflag : slot.isAcquired = true) (hfree : slot.holding ∉ s.held) :
    Inv ⟨m, slot.holding :: s.held⟩ where
  wf := hwf
  flags k' slot' hk' := by
    have hk := hk'
    rw [hval] at hk
    split at hk
    · obtain rfl := Option.some.inj hk
      simp [hflag]
    · rename_i hne
      rw [hs.flags k' slot' hk, List.mem_cons]
      refine ⟨.inr, fun h => h.resolve_left fun heq => ?_⟩
      -- the two slots would share a handle
      have hslot : m.valueFor k = some slot := by rw [hval, if_pos rfl]
      exact hne (hwf.handle_inj hk' hslot (congrArg (fun h => h.buffer.handle) heq))
  held_slot h hmem := by
    rcases List.mem_cons.mp hmem with rfl | hmem
    · exact ⟨k, slot, by rw [hval, if_pos rfl], rfl⟩
    · obtain ⟨k', slot', hk', rfl⟩ := hs.held_slot h hmem
      refine ⟨k', slot', ?_, rfl⟩
      rw [hval, if_neg, hk']
      rintro rfl
      exact hfree (hold slot' hk' ▸ hmem)
  nodup := List.nodup_cons.mpr ⟨hfree, hs.nodup⟩

end ConsumerState.Inv

/-! ## acquire -/

section Acquire

variable {s : ConsumerState B} (hs : s.Inv) {poolId usage type : Nat} {assertState : Int}
  {r : AcquireReply} {request : RequestReply B}
include hs

theorem acquire_inv
    (hfresh : FreshReply s.mSlots (.acquire poolId usage type assertState r request))
    (hc : KeepsBooks s (.acquire poolId usage type assertState r request)) :
    (s.next (.acquire poolId usage type assertState r request)).Inv ∧
    ∀ b, s.handsOut (.acquire poolId usage type assertState r request) = some b →
      ∀ h ∈ s.held, h.buffer ≠ b := by
  simp only [ConsumerState.next, ConsumerState.handsOut]
  rcases acquire_cases s.mSlots poolId usage type assertState r request with
    ⟨err, heq⟩ | ⟨k, slot, hk, hpool, hfree, heq⟩ |
      ⟨hcheck, herr, ⟨hnone, heq⟩ | ⟨slot, hsome, -⟩⟩
  · rw [heq]
    exact ⟨hs, by simp⟩
  · have hnot : slot.holding ∉ s.held := fun hmem => by
      simpa [hfree] using (hs.flags k slot hk).mpr hmem
    obtain ⟨rfl, rfl, rfl⟩ := hpool
    rw [heq]
    refine ⟨hs.take k { slot with isAcquired := true } (hs.wf.modify k true) ?_ ?_
      rfl hnot, ?_⟩
    · intro k'
      rw [KeyedVector.valueFor_modify]
      split
      · rename_i hk'
        rw [hk', hk]
        rfl
      · rfl
    · intro old hold
      obtain rfl := Option.some.inj (hk.symm.trans hold)
      rfl
    · rintro b ⟨⟩ h hmem heq'
      exact hnot ((hs.buffer_held hk).mpr ⟨h, hmem, heq'⟩)
  · -- the new buffer is none of those that the client knows
    have hnew : ∀ h ∈ s.held, h.buffer ≠ request.buffer := by
      rintro h hmem heq'
      obtain ⟨k, slot, hk, rfl⟩ := hs.held_slot h hmem
      exact hfresh (k, slot) (KeyedVector.mem_entries_iff.mpr hk)
        (congrArg GraphicBuffer.handle heq')
    rw [heq]
    refine ⟨hs.take _ (newSlot poolId usage type r.buf request.buffer)
      (hs.wf.add rfl fun hk => hfresh _ (KeyedVector.mem_entries_iff.mpr hk))
      (fun k' => KeyedVector.valueFor_add _ _ _ _) ?_ rfl
      (fun hmem => hnew _ hmem rfl), ?_⟩
    · intro old hold
      rw [hnone] at hold
      cases hold
    · rintro b ⟨⟩
      exact hnew
  · rw [hc hcheck herr] at hsome
    cases hsome

/-- A successful service call for a slot that exists is not recorded. -/
theorem acquire_not_faithful
    (hc : ¬ KeepsBooks s (.acquire poolId usage type assertState r request)) :
    ¬ Faithful ⟨s, .acquire poolId usage type assertState r request,
      s.next (.acquire poolId usage type assertState r request)⟩ := by
  simp only [KeepsBooks, not_forall] at hc
  obtain ⟨hcheck, herr, hne⟩ := hc
  obtain ⟨slot, hslot⟩ := Option.ne_none_iff_exists'.mp hne
  have heq : acquire s.mSlots poolId usage type assertState r request =
      ⟨NO_ERROR, some slot.buffer, s.mSlots⟩ := by
    unfold acquire acquireReplied
    rw [if_neg (not_not.mpr hcheck), if_neg (not_lt.mpr herr)]
    simp only [hslot]
  intro hf
  have hhands := hf.handsOut slot.buffer (by simp only [ConsumerState.handsOut, heq])
  have hflag := hf.flags _ slot (by simpa only [ConsumerState.next, heq] using hslot)
  have hheld : slot.isAcquired = true := by
    refine hflag.mpr ⟨⟨slot.buffer, poolId, usage, type⟩, ?_, rfl⟩
    simp only [ConsumerState.next, heq, heldAfterAcquire]
    exact List.mem_cons_self
  exact hhands _ ((hs.flags _ slot hslot).mp hheld) rfl

end Acquire

/-! ## release -/

section Release

variable {s : ConsumerState B} (hs : s.Inv) {buffer : Option (GraphicBuffer B)}
  {poolId usage type : Nat} {assertState : Int} {reply : ServiceCall → Int}
include hs

/-- A buffer that is given back has its slot where the release looks for it. -/
theorem givenBack_key {b : GraphicBuffer B} {k idx : Nat} {slot : BufferSlot B}
    (hk : s.mSlots.valueFor k = some slot) (hidx : getSlotFromBufferLocked s.mSlots b = some idx)
    (hback : slot.holding.GivenBack b poolId usage type) :
    k = POOL_COMBINED_ID poolId usage type idx := by
  obtain ⟨hhandle, rfl, rfl, rfl⟩ := hback
  rw [getSlotFromBufferLocked_eq hs.wf hk hhandle] at hidx
  obtain rfl := Option.some.inj hidx
  exact hs.wf.key_eq hk

/-- Nothing is given back with a buffer that the client does not know. -/
theorem held_unknown {b : GraphicBuffer B} (hnone : getSlotFromBufferLocked s.mSlots b = none) :
    (s.held.filter fun h => ¬ h.GivenBack b poolId usage type) = s.held := by
  refine List.filter_eq_self.mpr fun h hmem => decide_eq_true ?_
  rintro ⟨hhandle, -⟩
  obtain ⟨k, slot, hk, rfl⟩ := hs.held_slot h hmem
  rw [getSlotFromBufferLocked_eq hs.wf hk hhandle] at hnone
  cases hnone

theorem release_inv (hc : KeepsBooks s (.release buffer poolId usage type assertState reply)) :
    (s.next (.release buffer poolId usage type assertState reply)).Inv := by
  simp only [ConsumerState.next, release, heldAfterRelease]
  by_cases hcheck : checkCall usage type assertState = NO_ERROR
  · cases buffer with
    | none => simpa only [if_neg (not_not.mpr hcheck)] using hs
    | some b =>
      simp only [if_pos hcheck, if_neg (not_not.mpr hcheck), releaseLocked]
      cases hidx : getSlotFromBufferLocked s.mSlots b with
      | none =>
        rw [held_unknown hs hidx]
        exact hs
      | some idx =>
        have hown := hc hcheck b rfl idx hidx
        refine ⟨hs.wf.modify _ false, ?_, ?_, hs.nodup.filter _⟩
        · intro k slot hk
          rw [KeyedVector.valueFor_modify] at hk
          rw [List.mem_filter, decide_eq_true_eq]
          split at hk
          · rename_i hkey
            obtain ⟨old, hold, rfl⟩ := Option.map_eq_some_iff.mp hk
            refine ⟨fun hflag => (Bool.false_ne_true hflag).elim, ?_⟩
            intro hheld
            rcases hown old (hkey ▸ hold) with hback | hnot
            · exact absurd hback hheld.2
            · exact absurd hheld.1 hnot
          · rename_i hne
            rw [hs.flags k slot hk]
            exact ⟨fun h => ⟨h, fun hback => hne (givenBack_key hs hk hidx hback)⟩, And.left⟩
        · intro h hmem
          obtain ⟨k, slot, hk, rfl⟩ := hs.held_slot h (List.mem_filter.mp hmem).1
          by_cases hkey : k = POOL_COMBINED_ID poolId usage type idx
          · exact ⟨k, { slot with isAcquired := false },
              by rw [KeyedVector.valueFor_modify, if_pos hkey, hk]; rfl, rfl⟩
          · exact ⟨k, slot, by rw [KeyedVector.valueFor_modify, if_neg hkey, hk], rfl⟩
  · cases buffer with
    | none => simpa only [if_pos hcheck] using hs
    | some b => simpa only [if_pos hcheck, if_neg hcheck] using hs

omit hs in
/-- A release that names the slot of another buffer clears its flag. -/
theorem release_not_faithful
    (hc : ¬ KeepsBooks s (.release buffer poolId usage type assertState reply)) :
    ¬ Faithful ⟨s, .release buffer poolId usage type assertState reply,
      s.next (.release buffer poolId usage type assertState reply)⟩ := by
  simp only [KeepsBooks, not_forall, not_or, not_not] at hc
  obtain ⟨hcheck, b, hb, idx, hidx, slot, hslot, hother, hheld⟩ := hc
  obtain rfl := Option.mem_def.mp hb
  intro hf
  have hflag := hf.flags (POOL_COMBINED_ID poolId usage type idx) { slot with isAcquired := false }
  simp only [ConsumerState.next, release, heldAfterRelease, if_pos hcheck,
    if_neg (not_not.mpr hcheck), releaseLocked, Option.mem_def.mp hidx,
    KeyedVector.valueFor_modify, if_true, Option.mem_def.mp hslot] at hflag
  refine Bool.false_ne_true ((hflag rfl).mpr ⟨slot.holding, ?_, rfl⟩)
  exact List.mem_filter.mpr ⟨hheld, decide_eq_true hother⟩

end Release

/-! ## disconnect -/

section Disconnect

variable {s : ConsumerState B} (hs : s.Inv) {poolId usage type : Nat} {assertState : Int}
  {reply : ServiceCall → Int}
include hs

theorem held_of_empty (hsize : s.mSlots.size = 0) : s.held = [] := by
  apply List.eq_nil_iff_forall_not_mem.mpr
  intro h hmem
  obtain ⟨k, slot, hk, -⟩ := hs.held_slot h hmem
  have hentry := KeyedVector.mem_entries_iff.mpr hk
  rw [List.length_eq_zero_iff.mp hsize] at hentry
  cases hentry

theorem disconnect_inv : (s.next (.disconnect poolId usage type assertState reply)).Inv := by
  simp only [ConsumerState.next, disconnect, heldAfterDisconnect]
  by_cases hcheck : checkCall usage type assertState = NO_ERROR
  · rw [if_neg (not_not.mpr hcheck), if_pos hcheck]
    by_cases hsize : s.mSlots.size = 0
    · have hempty := held_of_empty hs hsize
      rw [if_pos hsize, hempty]
      show ConsumerState.Inv ⟨s.mSlots, []⟩
      rw [← hempty]
      exact hs
    · rw [if_neg hsize]
      have hval := @disconnectLoop_valueFor B s.mSlots hs.wf poolId usage type reply
      refine ⟨hs.wf.mono fun k slot hk => ⟨slot, (hval.mp hk).1, rfl⟩, ?_,
        ?_, hs.nodup.filter _⟩
      · intro k slot hk
        obtain ⟨hk, hpool⟩ := hval.mp hk
        rw [hs.flags k slot hk, List.mem_filter, decide_eq_true_eq]
        exact ⟨fun h => ⟨h, hpool⟩, And.left⟩
      · intro h hmem
        obtain ⟨hheld, hpool⟩ := List.mem_filter.mp hmem
        obtain ⟨k, slot, hk, rfl⟩ := hs.held_slot h hheld
        exact ⟨k, slot, hval.mpr ⟨hk, of_decide_eq_true hpool⟩, rfl⟩
  · rw [if_pos hcheck, if_neg hcheck]
    exact hs

/-- The slots that `disconnect` releases are those of the buffers held. -/
theorem held_perm : ((s.mSlots.entries.filter fun e =>
      e.2.OfPool poolId usage type ∧ e.2.isAcquired).map fun e => e.2.holding).Perm
    (s.held.filter fun h => h.OfPool poolId usage type) := by
  refine (List.perm_ext_iff_of_nodup ?_ (hs.nodup.filter _)).mpr ?_
  · refine List.Nodup.map_on ?_ (s.mSlots.entries_nodup.filter _)
    intro e he e' he' heq
    have hk := KeyedVector.mem_entries_iff.mp (List.mem_filter.mp he).1
    have hk' := KeyedVector.mem_entries_iff.mp (List.mem_filter.mp he').1
    have hkey := hs.wf.handle_inj hk hk' (congrArg (fun h => h.buffer.handle) heq)
    rw [← hkey, hk] at hk'
    exact Prod.ext hkey (Option.some.inj hk')
  · intro h
    simp only [List.mem_map, List.mem_filter, decide_eq_true_eq]
    constructor
    · rintro ⟨⟨k, slot⟩, ⟨he, hpool, hacq⟩, rfl⟩
      exact ⟨(hs.flags k slot (KeyedVector.mem_entries_iff.mp he)).mp hacq, hpool⟩
    · rintro ⟨hheld, hpool⟩
      obtain ⟨k, slot, hk, rfl⟩ := hs.held_slot h hheld
      exact ⟨(k, slot), ⟨KeyedVector.mem_entries_iff.mpr hk, hpool, (hs.flags k slot hk).mpr hheld⟩,
        rfl⟩

theorem disconnect_releasesHeld :
    s.ReleasesHeld (.disconnect poolId usage type assertState reply) := by
  intro hcheck
  unfold disconnect
  rw [if_neg (not_not.mpr hcheck)]
  by_cases hsize : s.mSlots.size = 0
  · rw [if_pos hsize, held_of_empty hs hsize]
    exact .refl _
  · rw [if_neg hsize]
    have hcalls := (disconnectLoop_spec poolId usage type reply hs.wf
      (Nat.le_refl s.mSlots.entries.length)).2
    rw [List.take_length] at hcalls
    have hreleases : releases ((disconnectLoop poolId usage type reply s.mSlots.size s.mSlots).2 ++
        [.disconnect poolId usage type]) =
        ((s.mSlots.entries.filter fun e => e.2.OfPool poolId usage type ∧ e.2.isAcquired).map
          (releaseOf poolId usage type)).reverse := by
      rw [KeyedVector.size, hcalls, releases, List.filter_append, ← List.map_reverse]
      simp [releaseOf, List.filter_map, Function.comp_def]
    show (List.map some (releases ((disconnectLoop poolId usage type reply s.mSlots.size
      s.mSlots).2 ++ [.disconnect poolId usage type]))).Perm _
    rw [hreleases]
    refine ((List.reverse_perm _).map some).trans ?_
    refine .trans (.of_eq ?_) (held_perm hs |>.map _)
    rw [List.map_map, List.map_map]
    apply List.map_congr_left
    intro e he
    have hk := KeyedVector.mem_entries_iff.mp (List.mem_filter.mp he).1
    simp only [Function.comp_apply, BufferSlot.holding,
      getSlotFromBufferLocked_eq hs.wf hk rfl, Option.map_some, releaseOf]

end Disconnect

/-! ## Runs -/

/-- One call: it is faithful iff it meets the condition. -/
theorem step_faithful_iff {s : ConsumerState B} (hs : s.Inv) {c : ConsumerCall B}
    (hfresh : FreshReply s.mSlots c) :
    (Faithful ⟨s, c, s.next c⟩ ↔ KeepsBooks s c) ∧ (KeepsBooks s c → (s.next c).Inv) := by
  cases c with
  | acquire poolId usage type assertState r request =>
    refine ⟨⟨?_, ?_⟩, fun hc => (acquire_inv hs hfresh hc).1⟩
    · intro hf
      by_contra hc
      exact acquire_not_faithful hs hc hf
    · intro hc
      obtain ⟨hinv, hnew⟩ := acquire_inv hs hfresh hc
      exact ⟨hinv.faithful_flags, hnew, trivial⟩
  | release buffer poolId usage type assertState reply =>
    refine ⟨⟨?_, ?_⟩, release_inv hs⟩
    · intro hf
      by_contra hc
      exact release_not_faithful hc hf
    · intro hc
      exact ⟨(release_inv hs hc).faithful_flags, fun b hb => (Option.some_ne_none b hb.symm).elim,
        trivial⟩
  | disconnect poolId usage type assertState reply =>
    have hinv : (s.next (.disconnect poolId usage type assertState reply)).Inv := disconnect_inv hs
    exact ⟨⟨fun _ => trivial, fun _ => ⟨hinv.faithful_flags,
      fun b hb => (Option.some_ne_none b hb.symm).elim, disconnect_releasesHeld hs⟩⟩,
      fun _ => hinv⟩

/-- **When the books are right**: after every call of a run the flags agree with what the caller
holds, with no buffer handed out twice and all releases sent, iff every call of the run meets the
condition. -/
theorem faithful_iff {tr : List (Transition (ConsumerState B) (ConsumerCall B))}
    {s : ConsumerState B} (h : (consumer B).Run tr s) :
    (∀ x ∈ tr, Faithful x) ↔ ∀ x ∈ tr, KeepsBooks x.pre x.act := by
  refine h.all_iff_all ConsumerState.Inv KeepsBooks ?_ ?_ ?_
  · rintro _ rfl
    exact ⟨.empty, fun k slot hk => (Option.some_ne_none slot hk.symm).elim,
      fun h hmem => (List.not_mem_nil hmem).elim, List.nodup_nil⟩
  · rintro s c _ hs ⟨hfresh, rfl⟩
    exact (step_faithful_iff hs hfresh).1
  · rintro s c _ hs ⟨hfresh, rfl⟩ hc
    exact (step_faithful_iff hs hfresh).2 hc

/-! ## A buffer acquired once, and once more -/

def bufferOf (handle : Nat) : GraphicBuffer Unit := ⟨handle, ()⟩

/-- The service gives slot 0 of pool 1, as the buffer with this handle if it is requested. -/
def acquireZero (handle : Nat) : ConsumerCall Unit :=
  .acquire 1 GUI_EXT_USAGE_HWC 0 NO_ERROR ⟨0, 0⟩ ⟨NO_ERROR, bufferOf handle⟩

def releaseZero : ConsumerCall Unit :=
  .release (some (bufferOf 100)) 1 GUI_EXT_USAGE_HWC 0 NO_ERROR fun _ => NO_ERROR

def noSlots : ConsumerState Unit := ⟨.empty, []⟩

instance (m : Slots Unit) (handle : Nat) : Decidable (FreshReply m (acquireZero handle)) :=
  inferInstanceAs (Decidable (∀ e ∈ m.entries, e.2.buffer.handle ≠ handle))

theorem faithful_released :
    ∃ tr s, (consumer Unit).Run tr s ∧ tr.map Transition.act = [acquireZero 100, releaseZero] ∧
      ∀ x ∈ tr, Faithful x := by
  have h₀ : (consumer Unit).Run [] noSlots := .start rfl
  have h₂ := (h₀.step (a := acquireZero 100) ⟨by decide, rfl⟩).step (a := releaseZero)
    ⟨trivial, rfl⟩
  refine ⟨_, _, h₂, rfl, (faithful_iff h₂).mpr ?_⟩
  simp only [List.nil_append, List.cons_append, List.forall_mem_cons]
  refine ⟨fun _ _ => rfl, fun _ b hb idx hidx slot hslot => .inl ?_, by simp⟩
  obtain rfl := Option.mem_some.mp hb
  obtain rfl := Option.mem_some.mp hidx
  obtain rfl := Option.mem_some.mp hslot
  exact ⟨rfl, rfl, rfl, rfl⟩

/-- Acquired again, the buffer is held and its slot is not flagged. -/
theorem not_faithful_reacquired :
    ¬ ∀ tr s, (consumer Unit).Run tr s → ∀ x ∈ tr, Faithful x := by
  intro hall
  have h₀ : (consumer Unit).Run [] noSlots := .start rfl
  have h₃ := ((h₀.step (a := acquireZero 100) ⟨by decide, rfl⟩).step (a := releaseZero)
    ⟨trivial, rfl⟩).step (a := acquireZero 200) ⟨by decide, rfl⟩
  have hf := hall _ _ h₃ _ (List.mem_append_right _ (List.mem_singleton.mpr rfl))
  have hflag := hf.flags (POOL_COMBINED_ID 1 GUI_EXT_USAGE_HWC 0 0)
    { newSlot 1 GUI_EXT_USAGE_HWC 0 0 (bufferOf 100) with isAcquired := false } rfl
  exact Bool.false_ne_true (hflag.mpr ⟨_, List.mem_cons_self, rfl⟩)

end Sloane.GuiExt
