import Sloane.GuiExt.Pool
import Sloane.GuiExt.ShadowSlots
import Sloane.Lib.Run

/-!
# Consumer clients and the service

Any number of clients, each with its own `mSlots`, and the producers that allocate and free pools.
A client is in one call at a time; its calls of the service are steps of their own, so that those
of others come in between.

* `cache_agrees` — what `acquire` returns after a successful service call is the buffer that the
  pool holds at the slot, as long as no pool is given an id for which a client still has slots and
  the slots fit the three bits of the combined id.
* `not_agrees_recycledId` — a client that keeps its slots gets a buffer of the pool before.
-/

namespace Sloane.GuiExt

open Sloane.Lib System

/-- Where a client stands. -/
inductive ClientPc where
  | idle
  /-- in `acquire`, to call `request` -/
  | requesting (poolId usage type buf : Nat)
  /-- in `release` or `disconnect`, with these calls of the service ahead -/
  | calling (calls : List ServiceCall)
  deriving DecidableEq, Repr

structure Client where
  mSlots : Slots BufferId
  pc : ClientPc

structure GuiExtState where
  pool : GuiExtPool
  clients : Nat → Client

/-- `c` is the client. -/
inductive GuiExtAct where
  | alloc (token grallocUsage w h : Nat)
  | free (poolId : Nat)
  | configDisplay (type : Nat) (enable : Bool) (w h bufNum : Nat)
  | acquire (c poolId usage type : Nat) (assertState : Int) (d : Dequeued)
  | request (c handle : Nat)
  | release (c : Nat) (buffer : Option (GraphicBuffer BufferId)) (poolId usage type : Nat)
      (assertState : Int)
  | disconnect (c poolId usage type : Nat) (assertState : Int)
  | serve (c : Nat)

/-- A buffer returned by `acquire` with `NO_ERROR`, and what the service's `acquire` gave. -/
structure Returned where
  poolId : Nat
  usage : Nat
  type : Nat
  idx : Nat
  buffer : GraphicBuffer BufferId
  deriving DecidableEq, Repr

/-! ## Steps -/

def ClientPc.ofCalls : List ServiceCall → ClientPc
  | [] => .idle
  | call :: calls => .calling (call :: calls)

def GuiExtPool.serve (pool : GuiExtPool) : ServiceCall → GuiExtPool
  | .release poolId usage type idx => (pool.release poolId usage type idx).2
  | .disconnect poolId usage _ => (pool.disconnect poolId usage).2

namespace GuiExtState

def update (s : GuiExtState) (pool : GuiExtPool) (c : Nat) (client : Client) : GuiExtState where
  pool := pool
  clients := fun i => if i = c then client else s.clients i

/-- `acquire` up to the service's reply and, if it has the slot, to its end. -/
def acquire (s : GuiExtState) (c poolId usage type : Nat) (assertState : Int) (d : Dequeued) :
    GuiExtState × Option Returned :=
  if checkCall usage type assertState ≠ NO_ERROR then (s, none)
  else
    let (r, pool) := s.pool.acquire c poolId usage type d
    match acquireReplied (s.clients c).mSlots poolId usage type r with
    | some res =>
        (s.update pool c ⟨res.slots, .idle⟩,
          if r.err < 0 then none else res.buffer.map fun b => ⟨poolId, usage, type, r.buf, b⟩)
    | none => (s.update pool c ⟨(s.clients c).mSlots, .requesting poolId usage type r.buf⟩, none)

/-- The rest of `acquire`; the buffer gets the given handle. -/
def request (s : GuiExtState) (c poolId usage type buf handle : Nat) :
    GuiExtState × Option Returned :=
  match s.pool.request poolId usage type buf with
  | (_, none) => (s.update s.pool c ⟨(s.clients c).mSlots, .idle⟩, none)
  | (err, some b) =>
      let res := acquireNew (s.clients c).mSlots poolId usage type buf ⟨err, ⟨handle, b⟩⟩
      (s.update s.pool c ⟨res.slots, .idle⟩,
        res.buffer.map fun b => ⟨poolId, usage, type, buf, b⟩)

/-- Begin a call that does not depend on the replies of the service. -/
def send (s : GuiExtState) (c : Nat) (r : Released BufferId) : GuiExtState :=
  s.update s.pool c ⟨r.slots, .ofCalls r.calls⟩

/-- A step, and what is returned by it. -/
def next (s : GuiExtState) : GuiExtAct → Option (GuiExtState × Option Returned)
  | .alloc token grallocUsage w h =>
      some ({ s with pool := (s.pool.alloc token grallocUsage w h).2.2 }, none)
  | .free poolId => some ({ s with pool := (s.pool.free poolId).2 }, none)
  | .configDisplay type enable w h bufNum =>
      some ({ s with pool := s.pool.configDisplay type enable w h bufNum }, none)
  | .acquire c poolId usage type assertState d =>
      match (s.clients c).pc with
      | .idle => some (s.acquire c poolId usage type assertState d)
      | _ => none
  | .request c handle =>
      match (s.clients c).pc with
      | .requesting poolId usage type buf => some (s.request c poolId usage type buf handle)
      | _ => none
  | .release c buffer poolId usage type assertState =>
      match (s.clients c).pc with
      | .idle =>
          some (s.send c (GuiExt.release (s.clients c).mSlots buffer poolId usage type assertState
            fun _ => NO_ERROR), none)
      | _ => none
  | .disconnect c poolId usage type assertState =>
      match (s.clients c).pc with
      | .idle =>
          some (s.send c (GuiExt.disconnect (s.clients c).mSlots poolId usage type assertState
            fun _ => NO_ERROR), none)
      | _ => none
  | .serve c =>
      match (s.clients c).pc with
      | .calling (call :: calls) =>
          some (s.update (s.pool.serve call) c ⟨(s.clients c).mSlots, .ofCalls calls⟩, none)
      | _ => none

def step (s : GuiExtState) (a : GuiExtAct) : Option GuiExtState := (s.next a).map Prod.fst

def start : GuiExtState := ⟨.new, fun _ => ⟨.empty, .idle⟩⟩

end GuiExtState

def guiExt : System GuiExtState GuiExtAct := ofStep .start GuiExtState.step

/-- What the step returns is what the pool holds at the slot. -/
def Agrees (x : Transition GuiExtState GuiExtAct) : Prop :=
  ∀ t r, x.pre.next x.act = some (t, some r) →
    t.pool.bufferAt r.poolId r.usage r.type r.idx = some r.buffer.memory

/-- The condition: a new pool does not get an id for which a client has slots, and a slot fits the
three bits that the combined id has for it. -/
def FreshIds (s : GuiExtState) : GuiExtAct → Prop
  | .alloc _ _ _ _ => s.pool.mPoolList.size < MAX_ALLOC_SIZE →
      ∀ c, ∀ e ∈ (s.clients c).mSlots.entries, e.2.poolId ≠ s.pool.getPoolId
  | .acquire _ _ _ _ _ d => d.buf < 8
  | _ => True

/-! ## The invariant -/

/-- The slot is as `acquire` makes them, and if its pool is there it has the buffer of the pool. -/
structure Cached (pool : GuiExtPool) (slot : BufferSlot BufferId) : Prop where
  poolId_le : slot.poolId ≤ MAX_ALLOC_SIZE
  usage_lt : slot.usage < GUI_EXT_USAGE_MAX
  type_le : slot.type ≤ HWC_DISPLAY_VIRTUAL
  idx_lt : slot.idx < 8
  memory : ∀ item, pool.mPoolList.valueFor slot.poolId = some item →
    slot.buffer.memory = ⟨item.generation, slot.usage, slot.type, slot.idx⟩

structure GuiExtState.Inv (s : GuiExtState) : Prop where
  ids : ∀ id item, s.pool.mPoolList.valueFor id = some item → id ≤ MAX_ALLOC_SIZE
  cached : ∀ c k slot, (s.clients c).mSlots.valueFor k = some slot →
    k = slot.combinedId ∧ Cached s.pool slot
  pending : ∀ c poolId usage type buf, (s.clients c).pc = .requesting poolId usage type buf →
    usage < GUI_EXT_USAGE_MAX ∧ type ≤ HWC_DISPLAY_VIRTUAL ∧ buf < 8

theorem Cached.keeps {pool pool' : GuiExtPool} (hk : pool.Keeps pool') {slot : BufferSlot BufferId}
    (h : Cached pool slot) : Cached pool' slot where
  poolId_le := h.poolId_le
  usage_lt := h.usage_lt
  type_le := h.type_le
  idx_lt := h.idx_lt
  memory item' hitem' := by
    obtain ⟨item, hitem, hgen, -⟩ := hk _ item' hitem'
    rw [h.memory item hitem, hgen]

theorem checkCall_ok {usage type : Nat} {assertState : Int}
    (h : checkCall usage type assertState = NO_ERROR) :
    usage < GUI_EXT_USAGE_MAX ∧ type ≤ HWC_DISPLAY_VIRTUAL := by
  unfold checkCall at h
  split at h
  · exact absurd h (by decide)
  · split at h
    · exact absurd h (by decide)
    · omega

namespace GuiExtState.Inv

variable {s : GuiExtState}

/-- The service takes a call that makes no new pool. -/
theorem keeps (hs : s.Inv) {pool : GuiExtPool} (hk : s.pool.Keeps pool) :
    Inv { s with pool := pool } where
  ids id item' h := by
    obtain ⟨item, hitem, -⟩ := hk id item' h
    exact hs.ids id item hitem
  cached c k slot h := (hs.cached c k slot h).imp_right (Cached.keeps hk)
  pending := hs.pending

/-- A client changes, with slots that it had. -/
theorem client (hs : s.Inv) {c : Nat} {client : Client}
    (hsub : SubSlots client.mSlots (s.clients c).mSlots)
    (hpc : ∀ poolId usage type buf, client.pc = .requesting poolId usage type buf →
      usage < GUI_EXT_USAGE_MAX ∧ type ≤ HWC_DISPLAY_VIRTUAL ∧ buf < 8) :
    (s.update s.pool c client).Inv where
  ids := hs.ids
  cached i k slot h := by
    simp only [update] at h
    split at h
    · obtain ⟨old, hold, heq⟩ := hsub k slot h
      obtain ⟨hkey, hc⟩ := hs.cached c k old hold
      rw [← heq] at hkey hc
      exact ⟨hkey, hc.poolId_le, hc.usage_lt, hc.type_le, hc.idx_lt, hc.memory⟩
    · exact hs.cached i k slot h
  pending i := by
    simp only [update]
    split
    · exact hpc
    · exact hs.pending i

end GuiExtState.Inv

/-! ## The steps -/

theorem ofCalls_ne_requesting (calls : List ServiceCall) :
    ∀ poolId usage type buf, ClientPc.ofCalls calls = .requesting poolId usage type buf →
      usage < GUI_EXT_USAGE_MAX ∧ type ≤ HWC_DISPLAY_VIRTUAL ∧ buf < 8 := by
  intro _ _ _ _ h
  cases calls <;> cases h

theorem serve_keeps (pool : GuiExtPool) (call : ServiceCall) : pool.Keeps (pool.serve call) := by
  cases call with
  | release poolId usage type idx => exact pool.release_keeps poolId usage type idx
  | disconnect poolId usage type => exact pool.disconnect_keeps poolId usage

section Steps

variable {s : GuiExtState} (hs : s.Inv)
include hs

/-- A pool under an id for which no client has slots. -/
theorem alloc_inv {token grallocUsage w h : Nat}
    (hfresh : FreshIds s (.alloc token grallocUsage w h)) :
    GuiExtState.Inv { s with pool := (s.pool.alloc token grallocUsage w h).2.2 } := by
  rcases s.pool.alloc_cases token grallocUsage w h with heq | ⟨hsize, item, heq⟩
  · apply hs.keeps
    intro id item h
    rw [heq] at h
    exact ⟨item, h, rfl, rfl⟩
  · refine ⟨?_, ?_, hs.pending⟩
    · intro id item' h
      rw [heq, KeyedVector.valueFor_add] at h
      split at h
      · rename_i hid
        exact hid ▸ (GuiExtPool.getPoolId_spec hsize).2.2
      · exact hs.ids id item' h
    · intro c k slot hk
      obtain ⟨hkey, hc⟩ := hs.cached c k slot hk
      refine ⟨hkey, hc.poolId_le, hc.usage_lt, hc.type_le, hc.idx_lt, ?_⟩
      intro item' h
      have hne := hfresh hsize c (k, slot) (KeyedVector.mem_entries_iff.mpr hk)
      rw [heq, KeyedVector.valueFor_add, if_neg hne] at h
      exact hc.memory item' h

/-- **The cache is right**: a slot found under the id that a successful service call gives has the
buffer of the pool. -/
theorem cached_buffer {c poolId usage type : Nat} {d : Dequeued}
    (hcheck : usage < GUI_EXT_USAGE_MAX ∧ type ≤ HWC_DISPLAY_VIRTUAL) (hidx : d.buf < 8)
    {slot : BufferSlot BufferId}
    (hslot : (s.clients c).mSlots.valueFor
      (POOL_COMBINED_ID poolId usage type (s.pool.acquire c poolId usage type d).1.buf) = some slot)
    (herr : 0 ≤ (s.pool.acquire c poolId usage type d).1.err) :
    (s.pool.acquire c poolId usage type d).2.bufferAt poolId usage type
      (s.pool.acquire c poolId usage type d).1.buf = some slot.buffer.memory := by
  obtain ⟨item, hitem, hbuffer⟩ := GuiExtPool.acquire_bufferAt herr
  obtain ⟨hkey, hc⟩ := hs.cached c _ slot hslot
  have hbuf : (s.pool.acquire c poolId usage type d).1.buf < 8 := by
    show d.buf.toNat < 8
    omega
  have hpool := hs.ids poolId item hitem
  have hslot_pool := hc.poolId_le
  have hslot_usage := hc.usage_lt
  have hslot_type := hc.type_le
  simp only [MAX_ALLOC_SIZE, GUI_EXT_USAGE_MAX, HWC_DISPLAY_VIRTUAL] at *
  obtain ⟨rfl, rfl, rfl, hidx_eq⟩ := POOL_COMBINED_ID_inj (by omega) (by omega) (by omega) hbuf
    (by omega) (by omega) (by omega) hc.idx_lt hkey
  rw [hbuffer, hc.memory item hitem, hidx_eq]

theorem acquire_step_inv {c poolId usage type : Nat} {assertState : Int} {d : Dequeued}
    (hidx : d.buf < 8) : (s.acquire c poolId usage type assertState d).1.Inv := by
  unfold GuiExtState.acquire
  split
  · exact hs
  · rename_i hcheck
    have hpool := hs.keeps (s.pool.acquire_keeps c poolId usage type d)
    dsimp only
    split
    · rename_i res hres
      refine hpool.client ?_ fun _ _ _ _ hpc => by cases hpc
      unfold acquireReplied at hres
      split at hres
      · obtain rfl := Option.some.inj hres
        exact acquireBackup_sub _ poolId usage type _
      · split at hres
        · obtain rfl := Option.some.inj hres
          exact .refl _
        · cases hres
    · refine hpool.client (.refl _) ?_
      intro _ _ _ _ hpc
      cases hpc
      obtain ⟨husage, htype⟩ := checkCall_ok (not_not.mp hcheck)
      refine ⟨husage, htype, ?_⟩
      show d.buf.toNat < 8
      omega

theorem acquire_step_agrees {c poolId usage type : Nat} {assertState : Int} {d : Dequeued}
    (hidx : d.buf < 8) {r : Returned}
    (hr : (s.acquire c poolId usage type assertState d).2 = some r) :
    (s.acquire c poolId usage type assertState d).1.pool.bufferAt r.poolId r.usage r.type r.idx =
      some r.buffer.memory := by
  unfold GuiExtState.acquire at hr ⊢
  split at hr
  · cases hr
  · rename_i hcheck
    rw [if_neg hcheck]
    dsimp only at hr ⊢
    split at hr
    · rename_i res hres
      simp only at hr ⊢
      split at hr
      · cases hr
      · rename_i herr
        unfold acquireReplied at hres
        rw [if_neg herr] at hres
        split at hres
        · rename_i slot hslot
          obtain rfl := Option.some.inj hres
          obtain rfl := Option.some.inj hr
          exact cached_buffer hs (checkCall_ok (not_not.mp hcheck)) hidx hslot (not_lt.mp herr)
        · cases hres
    · cases hr

/-- The slot that `request` fills has the buffer of the pool. -/
theorem newSlot_cached {c poolId usage type buf handle : Nat} {b : BufferId}
    (hpc : (s.clients c).pc = .requesting poolId usage type buf)
    (hb : s.pool.bufferAt poolId usage type buf = some b) :
    Cached s.pool (newSlot poolId usage type buf ⟨handle, b⟩) := by
  obtain ⟨husage, htype, hbuf⟩ := hs.pending c _ _ _ _ hpc
  obtain ⟨item, hitem, hq⟩ := Option.bind_eq_some_iff.mp hb
  obtain ⟨-, -, rfl⟩ := Option.map_eq_some_iff.mp hq
  refine ⟨hs.ids poolId item hitem, husage, htype, hbuf, ?_⟩
  intro item' hitem'
  obtain rfl := Option.some.inj (hitem.symm.trans hitem')
  rfl

theorem request_step (handle : Nat) {c poolId usage type buf : Nat}
    (hpc : (s.clients c).pc = .requesting poolId usage type buf) :
    (s.request c poolId usage type buf handle).1.Inv ∧
    ∀ r, (s.request c poolId usage type buf handle).2 = some r →
      (s.request c poolId usage type buf handle).1.pool.bufferAt r.poolId r.usage r.type r.idx =
        some r.buffer.memory := by
  have hsame : (s.update s.pool c ⟨(s.clients c).mSlots, .idle⟩).Inv :=
    hs.client (.refl _) fun _ _ _ _ h => by cases h
  unfold GuiExtState.request
  split
  · exact ⟨hsame, fun r hr => (Option.some_ne_none r hr.symm).elim⟩
  · rename_i err b heq
    have hb := GuiExtPool.request_bufferAt (congrArg Prod.snd heq)
    unfold acquireNew
    dsimp only
    split
    · exact ⟨hsame, fun r hr => (Option.some_ne_none r hr.symm).elim⟩
    · refine ⟨⟨hs.ids, ?_, ?_⟩, ?_⟩
      · intro i k slot hk
        simp only [GuiExtState.update] at hk
        split at hk
        · rw [KeyedVector.valueFor_add] at hk
          split at hk
          · rename_i hkey
            obtain rfl := Option.some.inj hk
            exact ⟨hkey, newSlot_cached hs hpc hb⟩
          · exact hs.cached c k slot hk
        · exact hs.cached i k slot hk
      · intro i
        simp only [GuiExtState.update]
        split
        · intro _ _ _ _ h
          cases h
        · exact hs.pending i
      · intro r hr
        obtain rfl := Option.some.inj hr
        exact hb

/-- **Every step** keeps the invariant and returns what the pool holds. -/
theorem next_inv {a : GuiExtAct} {t : GuiExtState} {ret : Option Returned}
    (hnext : s.next a = some (t, ret)) (hfresh : FreshIds s a) :
    t.Inv ∧ ∀ r, ret = some r →
      t.pool.bufferAt r.poolId r.usage r.type r.idx = some r.buffer.memory := by
  cases a with
  | alloc token grallocUsage w h =>
    obtain ⟨rfl, rfl⟩ := Prod.mk.inj (Option.some.inj hnext)
    exact ⟨alloc_inv hs hfresh, fun r hr => by cases hr⟩
  | free poolId =>
    obtain ⟨rfl, rfl⟩ := Prod.mk.inj (Option.some.inj hnext)
    exact ⟨hs.keeps (s.pool.free_keeps poolId), fun r hr => by cases hr⟩
  | configDisplay type enable w h bufNum =>
    obtain ⟨rfl, rfl⟩ := Prod.mk.inj (Option.some.inj hnext)
    refine ⟨hs.keeps ?_, fun r hr => by cases hr⟩
    intro id item h
    rw [GuiExtPool.configDisplay_mPoolList] at h
    exact ⟨item, h, rfl, rfl⟩
  | acquire c poolId usage type assertState d =>
    simp only [GuiExtState.next] at hnext
    split at hnext
    · have heq := Option.some.inj hnext
      have hinv := @acquire_step_inv s hs c poolId usage type assertState d hfresh
      have hagrees := @acquire_step_agrees s hs c poolId usage type assertState d hfresh
      rw [heq] at hinv hagrees
      exact ⟨hinv, fun r => hagrees⟩
    · cases hnext
  | request c handle =>
    simp only [GuiExtState.next] at hnext
    split at hnext
    · rename_i hpc
      have hreq := request_step hs handle hpc
      rw [Option.some.inj hnext] at hreq
      exact hreq
    · cases hnext
  | release c buffer poolId usage type assertState =>
    simp only [GuiExtState.next] at hnext
    split at hnext
    · obtain ⟨rfl, rfl⟩ := Prod.mk.inj (Option.some.inj hnext)
      exact ⟨hs.client (release_sub _ _ _ _ _ _ _) (ofCalls_ne_requesting _),
        fun r hr => by cases hr⟩
    · cases hnext
  | disconnect c poolId usage type assertState =>
    simp only [GuiExtState.next] at hnext
    split at hnext
    · obtain ⟨rfl, rfl⟩ := Prod.mk.inj (Option.some.inj hnext)
      exact ⟨hs.client (disconnect_sub _ _ _ _ _ _) (ofCalls_ne_requesting _),
        fun r hr => by cases hr⟩
    · cases hnext
  | serve c =>
    simp only [GuiExtState.next] at hnext
    split at hnext
    · rename_i call calls hpc
      obtain ⟨rfl, rfl⟩ := Prod.mk.inj (Option.some.inj hnext)
      exact ⟨(hs.keeps (serve_keeps s.pool call)).client (.refl _) (ofCalls_ne_requesting _),
        fun r hr => by cases hr⟩
    · cases hnext

end Steps

/-! ## Runs -/

/-- **Clients agree with the service** as long as no pool gets an id for which a client has slots
and no slot is beyond the three bits of the combined id. -/
theorem cache_agrees {tr : List (Transition GuiExtState GuiExtAct)} {s : GuiExtState}
    (h : guiExt.Run tr s) (hfresh : ∀ x ∈ tr, FreshIds x.pre x.act) : ∀ x ∈ tr, Agrees x := by
  intro x hx t r hnext
  have hinv : x.pre.Inv := by
    have hreach := ((h.restrict hfresh).transition x hx).1
    refine hreach.invariant ?_ ?_
    · rintro _ rfl
      exact ⟨fun _ _ h => (Option.some_ne_none _ h.symm).elim,
        fun _ _ _ h => (Option.some_ne_none _ h.symm).elim, fun _ _ _ _ _ h => by cases h⟩
    · rintro s a t - hs ⟨hstep, ha⟩
      obtain ⟨⟨t, ret⟩, hnext, rfl⟩ := Option.map_eq_some_iff.mp hstep
      exact (next_inv hs hnext ha).1
  exact (next_inv hinv hnext (hfresh x hx)).2 r rfl

/-! ## One pool, and another under its id -/

/-- A pool with a queue for the hardware composer, and one without. -/
def allocHwc : GuiExtAct := .alloc 100 GRALLOC_USAGE_HW_COMPOSER 64 64

def allocPlain : GuiExtAct := .alloc 101 0 64 64

/-- Client `c` acquires slot `buf` of pool 1. -/
def acquireSlot (c : Nat) (buf : Int) : GuiExtAct :=
  .acquire c 1 GUI_EXT_USAGE_HWC HWC_DISPLAY_PRIMARY NO_ERROR ⟨0, buf⟩

def allocated : GuiExtState :=
  { GuiExtState.start with
    pool := (GuiExtPool.new.alloc 100 GRALLOC_USAGE_HW_COMPOSER 64 64).2.2 }

def acquiring : GuiExtState :=
  (allocated.acquire 0 1 GUI_EXT_USAGE_HWC HWC_DISPLAY_PRIMARY NO_ERROR ⟨0, 0⟩).1

def acquired : GuiExtState :=
  (acquiring.request 0 1 GUI_EXT_USAGE_HWC HWC_DISPLAY_PRIMARY 0 500).1

theorem cache_agrees_onePool :
    ∃ tr, guiExt.Run tr acquired ∧
      tr.map Transition.act = [allocHwc, acquireSlot 0 0, .request 0 500] ∧
      (acquired.clients 0).mSlots.size = 1 ∧ ∀ x ∈ tr, Agrees x := by
  have hpc : (acquiring.clients 0).pc =
      .requesting 1 GUI_EXT_USAGE_HWC HWC_DISPLAY_PRIMARY 0 := by decide +kernel
  have h₀ : guiExt.Run [] .start := .start rfl
  have h₁ := h₀.step (a := allocHwc) (t := allocated) rfl
  have h₂ := h₁.step (a := acquireSlot 0 0) (t := acquiring) rfl
  have h₃ := h₂.step (a := .request 0 500) (t := acquired) (by
    show (acquiring.next (.request 0 500)).map Prod.fst = some acquired
    simp only [GuiExtState.next, hpc]
    rfl)
  refine ⟨_, h₃, rfl, by decide +kernel, cache_agrees h₃ ?_⟩
  simp only [List.nil_append, List.cons_append, List.forall_mem_cons]
  exact ⟨fun _ _ _ he => (List.not_mem_nil he).elim, show (0 : Int) < 8 by decide, trivial, by simp⟩

/-- Client 0 acquires and releases slot 0 of pool 1.  Client 1 acquires slot 1 and disconnects, the
pool is freed and so removed, and ten more are allocated.  The last gets id 1, and client 0
acquires its slot 0. -/
def recycledId : List GuiExtAct :=
  [allocHwc, acquireSlot 0 0, .request 0 500,
    .release 0 (some ⟨500, ⟨0, GUI_EXT_USAGE_HWC, HWC_DISPLAY_PRIMARY, 0⟩⟩) 1 GUI_EXT_USAGE_HWC
      HWC_DISPLAY_PRIMARY NO_ERROR, .serve 0,
    acquireSlot 1 1, .request 1 600,
    .disconnect 1 1 GUI_EXT_USAGE_HWC HWC_DISPLAY_PRIMARY NO_ERROR, .serve 1, .serve 1, .free 1] ++
  List.replicate 9 allocPlain ++ [allocHwc, acquireSlot 0 0]

instance (x : Transition GuiExtState GuiExtAct) : Decidable (Agrees x) :=
  match h : x.pre.next x.act with
  | some (t, some r) =>
      decidable_of_iff (t.pool.bufferAt r.poolId r.usage r.type r.idx = some r.buffer.memory) <| by
        simp only [Agrees, h, Option.some.injEq, Prod.mk.injEq]
        exact ⟨by rintro hb _ _ ⟨rfl, rfl⟩; exact hb, fun hall => hall t r ⟨rfl, rfl⟩⟩
  | some (_, none) => isTrue fun _ _ hnext => by simp [h] at hnext
  | none => isTrue fun _ _ hnext => by simp [h] at hnext

/-- Client 0 gets the buffer of the first pool. -/
theorem not_agrees_recycledId :
    ¬ ∀ tr s, guiExt.Run tr s → ∀ x ∈ tr, Agrees x := by
  intro hall
  have he : (execute GuiExtState.step .start recycledId).map
      (fun r => decide (∀ x ∈ r.1, Agrees x)) = some false := by decide +kernel
  obtain ⟨⟨tr, s⟩, hrun, hfalse⟩ := Option.map_eq_some_iff.mp he
  exact of_decide_eq_false hfalse (hall tr s (run_of_execute hrun))

end Sloane.GuiExt
