import Mathlib.Algebra.Group.Nat.Defs
import Sloane.Lib.KeyedVector

/-!
# The consumer client of GuiExt

Model of `GuiExtClientConsumer`: the shadow buffers in `mSlots` and the three calls that use them.
What the service replies is an argument, and the calls sent to it are part of the result.

A `GraphicBuffer` has the handle by which the client finds it again, and the memory it shares with
the service.
-/

namespace Sloane.GuiExt

open Sloane.Lib

variable {B : Type}

def NO_ERROR : Int := 0
def BAD_VALUE : Int := -22

def GUI_EXT_USAGE_HWC : Nat := 1
def GUI_EXT_USAGE_MAX : Nat := 2

def HWC_DISPLAY_PRIMARY : Nat := 0
def HWC_DISPLAY_VIRTUAL : Nat := 2

structure GraphicBuffer (B : Type) where
  handle : Nat
  memory : B
  deriving DecidableEq, Repr

structure BufferSlot (B : Type) where
  buffer : GraphicBuffer B
  poolId : Nat
  usage : Nat
  type : Nat
  idx : Nat
  isAcquired : Bool
  deriving DecidableEq, Repr

def BufferSlot.OfPool (poolId usage type : Nat) (s : BufferSlot B) : Prop :=
  s.poolId = poolId ∧ s.usage = usage ∧ s.type = type

instance (poolId usage type : Nat) (s : BufferSlot B) : Decidable (s.OfPool poolId usage type) :=
  inferInstanceAs (Decidable (_ ∧ _))

/-- An `uint32_t`. -/
def POOL_COMBINED_ID (id usage type idx : Nat) : Nat :=
  (id <<< 10 ||| usage <<< 6 ||| type <<< 3 ||| idx) % 2 ^ 32

/-- `mSlots`. -/
abbrev Slots (B : Type) := KeyedVector Nat (BufferSlot B)

inductive ServiceCall where
  | release (poolId usage type idx : Nat)
  | disconnect (poolId usage type : Nat)
  deriving DecidableEq, Repr

/-- What the service replies to `acquire`: a status, and a slot unless that is negative. -/
structure AcquireReply where
  err : Int
  buf : Nat
  deriving DecidableEq, Repr

/-- What the service replies to `request`. -/
structure RequestReply (B : Type) where
  err : Int
  buffer : GraphicBuffer B
  deriving DecidableEq, Repr

/-- The checks made first by each call; `assertState` is what `assertStateLocked` returns. -/
def checkCall (usage type : Nat) (assertState : Int) : Int :=
  if GUI_EXT_USAGE_MAX ≤ usage then BAD_VALUE
  else if HWC_DISPLAY_VIRTUAL < type then BAD_VALUE
  else assertState

/-! ## acquire -/

/-- A status and, with `NO_ERROR`, the buffer. -/
structure Acquired (B : Type) where
  err : Int
  buffer : Option (GraphicBuffer B)
  slots : Slots B

/-- After a failed service call: the first buffer of the pool that is not acquired. -/
def acquireBackup (mSlots : Slots B) (poolId usage type : Nat) (err : Int) : Acquired B :=
  match mSlots.entries.find? fun e => e.2.OfPool poolId usage type ∧ e.2.isAcquired = false with
  | some (k, slot) =>
      ⟨NO_ERROR, some slot.buffer, mSlots.modify k fun s => { s with isAcquired := true }⟩
  | none => ⟨err, none, mSlots⟩

def newSlot (poolId usage type buf : Nat) (buffer : GraphicBuffer B) : BufferSlot B where
  buffer := buffer
  poolId := poolId
  usage := usage
  type := type
  idx := buf
  isAcquired := true

/-- A new slot, once the service has replied to `request`. -/
def acquireNew (mSlots : Slots B) (poolId usage type buf : Nat) (r : RequestReply B) :
    Acquired B :=
  if r.err ≠ NO_ERROR then ⟨r.err, none, mSlots⟩
  else
    ⟨NO_ERROR, some r.buffer, mSlots.add (POOL_COMBINED_ID poolId usage type buf)
      (newSlot poolId usage type buf r.buffer)⟩

/-- What follows the service's reply to `acquire`: `none` if `request` is to be called. -/
def acquireReplied (mSlots : Slots B) (poolId usage type : Nat) (r : AcquireReply) :
    Option (Acquired B) :=
  if r.err < 0 then some (acquireBackup mSlots poolId usage type r.err)
  else
    match mSlots.valueFor (POOL_COMBINED_ID poolId usage type r.buf) with
    | some slot => some ⟨NO_ERROR, some slot.buffer, mSlots⟩
    | none => none

def acquire (mSlots : Slots B) (poolId usage type : Nat) (assertState : Int) (r : AcquireReply)
    (request : RequestReply B) : Acquired B :=
  if checkCall usage type assertState ≠ NO_ERROR then
    ⟨checkCall usage type assertState, none, mSlots⟩
  else
    match acquireReplied mSlots poolId usage type r with
    | some res => res
    | none => acquireNew mSlots poolId usage type r.buf request

/-! ## release -/

/-- A status, the slots and the calls of the service. -/
structure Released (B : Type) where
  err : Int
  slots : Slots B
  calls : List ServiceCall

/-- The index of the first slot with the buffer's handle; `none` is `BAD_VALUE`. -/
def getSlotFromBufferLocked (mSlots : Slots B) (buffer : GraphicBuffer B) : Option Nat :=
  (mSlots.entries.find? fun e => e.2.buffer.handle = buffer.handle).map fun e => e.2.idx

def releaseLocked (mSlots : Slots B) (buffer : GraphicBuffer B) (poolId usage type : Nat)
    (reply : ServiceCall → Int) : Released B :=
  match getSlotFromBufferLocked mSlots buffer with
  | none => ⟨BAD_VALUE, mSlots, []⟩
  | some idx =>
      ⟨reply (.release poolId usage type idx),
        mSlots.modify (POOL_COMBINED_ID poolId usage type idx)
          fun s => { s with isAcquired := false },
        [.release poolId usage type idx]⟩

def release (mSlots : Slots B) (buffer : Option (GraphicBuffer B)) (poolId usage type : Nat)
    (assertState : Int) (reply : ServiceCall → Int) : Released B :=
  if checkCall usage type assertState ≠ NO_ERROR then
    ⟨checkCall usage type assertState, mSlots, []⟩
  else
    match buffer with
    | none => ⟨BAD_VALUE, mSlots, []⟩
    | some buffer => releaseLocked mSlots buffer poolId usage type reply

/-! ## disconnect -/

/-- One pass of the loop, at index `i`. -/
def disconnectSlot (mSlots : Slots B) (poolId usage type i : Nat) (reply : ServiceCall → Int) :
    Slots B × List ServiceCall :=
  match mSlots.valueAt i with
  | some slot =>
      if slot.OfPool poolId usage type then
        let (mSlots, calls) :=
          if slot.isAcquired then
            let r := releaseLocked mSlots slot.buffer poolId usage type reply
            (r.slots, r.calls)
          else (mSlots, [])
        (mSlots.removeItem (POOL_COMBINED_ID poolId usage type slot.idx), calls)
      else (mSlots, [])
  | none => (mSlots, [])

/-- The loop over the indices below the given one, from the highest. -/
def disconnectLoop (poolId usage type : Nat) (reply : ServiceCall → Int) :
    Nat → Slots B → Slots B × List ServiceCall
  | 0, mSlots => (mSlots, [])
  | i + 1, mSlots =>
      let (mSlots, calls) := disconnectSlot mSlots poolId usage type i reply
      let (mSlots, calls') := disconnectLoop poolId usage type reply i mSlots
      (mSlots, calls ++ calls')

def disconnect (mSlots : Slots B) (poolId usage type : Nat) (assertState : Int)
    (reply : ServiceCall → Int) : Released B :=
  if checkCall usage type assertState ≠ NO_ERROR then
    ⟨checkCall usage type assertState, mSlots, []⟩
  else if mSlots.size = 0 then ⟨BAD_VALUE, mSlots, []⟩
  else
    let (mSlots, calls) := disconnectLoop poolId usage type reply mSlots.size mSlots
    ⟨reply (.disconnect poolId usage type), mSlots, calls ++ [.disconnect poolId usage type]⟩

end Sloane.GuiExt
