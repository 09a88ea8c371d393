import Mathlib.Tactic.Common

/-!
# The calls of the service across processes

`BpGuiExtService` and `BnGuiExtService::onTransact` around any implementation of the interface.  A
parcel is a queue of typed values, and a method gives its status, what it stores through its output
pointer, if anything, and the next state of the service.

* `onTransact_alloc`, … — what the service side replies to each of the nine calls.
* `marshalling_transparent` — the proxy gives the status and the outputs of the implementation; a
  `GraphicBuffer` pointer that the implementation sets to null is not set for the caller.
* `not_marshalling_exact` — so a caller whose pointer is not null keeps the old buffer.
-/

namespace Sloane.GuiExt.Marshalling

/-! ## Parcels -/

-- `β` binders, `γ` graphic buffers, `κ` strings, `δ` dump tunnels, `σ` states of the service
variable {β γ κ δ σ : Type}

inductive Value (β γ κ : Type) where
  | interfaceToken (descriptor : String)
  | int32 (v : Int32)
  | strongBinder (v : Option β)
  | string8 (v : κ)
  | flattenable (v : γ)
  deriving DecidableEq

abbrev Parcel (β γ κ : Type) := List (Value β γ κ)

def NO_ERROR : Int32 := 0
def PERMISSION_DENIED : Int32 := -1
def BAD_VALUE : Int32 := -22
def UNKNOWN_TRANSACTION : Int32 := -2147483646

namespace Parcel

def writeInterfaceToken (p : Parcel β γ κ) (descriptor : String) : Parcel β γ κ :=
  p ++ [.interfaceToken descriptor]

def writeInt32 (p : Parcel β γ κ) (v : Int32) : Parcel β γ κ := p ++ [.int32 v]

def writeStrongBinder (p : Parcel β γ κ) (v : Option β) : Parcel β γ κ := p ++ [.strongBinder v]

def writeString8 (p : Parcel β γ κ) (v : κ) : Parcel β γ κ := p ++ [.string8 v]

def write (p : Parcel β γ κ) (v : γ) : Parcel β γ κ := p ++ [.flattenable v]

/-- Whether the next value is the token of the interface. -/
def checkInterface (descriptor : String) : Parcel β γ κ → Bool × Parcel β γ κ
  | .interfaceToken d :: p => (d == descriptor, p)
  | p => (false, p)

/-- A read of something else gives 0. -/
def readInt32 : Parcel β γ κ → Int32 × Parcel β γ κ
  | .int32 v :: p => (v, p)
  | p => (0, p)

def readStrongBinder : Parcel β γ κ → Option β × Parcel β γ κ
  | .strongBinder v :: p => (v, p)
  | p => (none, p)

/-- A read of something else gives the empty string. -/
def readString8 (empty : κ) : Parcel β γ κ → κ × Parcel β γ κ
  | .string8 v :: p => (v, p)
  | p => (empty, p)

/-- A status and, with `NO_ERROR`, the buffer. -/
def read : Parcel β γ κ → Int32 × Option γ × Parcel β γ κ
  | .flattenable v :: p => (NO_ERROR, some v, p)
  | p => (BAD_VALUE, none, p)

section Lemmas

variable (p : Parcel β γ κ)

@[simp] theorem writeInterfaceToken_eq (d : String) :
    p.writeInterfaceToken d = p ++ [.interfaceToken d] := rfl

@[simp] theorem writeInt32_eq (v : Int32) : p.writeInt32 v = p ++ [.int32 v] := rfl

@[simp] theorem writeStrongBinder_eq (v : Option β) :
    p.writeStrongBinder v = p ++ [.strongBinder v] := rfl

@[simp] theorem writeString8_eq (v : κ) : p.writeString8 v = p ++ [.string8 v] := rfl

@[simp] theorem write_eq (v : γ) : p.write v = p ++ [.flattenable v] := rfl

@[simp] theorem readInt32_cons (v : Int32) : readInt32 (.int32 v :: p) = (v, p) := rfl

@[simp] theorem read_cons (v : γ) : read (.flattenable v :: p) = (NO_ERROR, some v, p) := rfl

end Lemmas

end Parcel

/-! ## The interface -/

/-- What a method with an output pointer does: `out` is what it stores there. -/
structure Outcome (α σ : Type) where
  status : Int32
  out : Option α
  state : σ
  deriving DecidableEq

/-- The nine methods.  A binder, a tunnel and the buffer that `request` stores may be null. -/
structure IGuiExtService (β γ κ δ σ : Type) where
  alloc (token : Option β) (gralloc_usage w h : UInt32) : σ → Outcome UInt32 σ
  free (id : UInt32) : σ → Int32 × σ
  acquire (token : Option β) (poolId usage type : UInt32) : σ → Outcome Int32 σ
  request (poolId usage type : UInt32) (buf : Int32) : σ → Outcome (Option γ) σ
  release (poolId usage type : UInt32) (buf : Int32) : σ → Int32 × σ
  disconnect (poolId usage type : UInt32) : σ → Int32 × σ
  configDisplay (type : UInt32) (enable : Bool) (w h bufNum : UInt32) : σ → Int32 × σ
  regDump (tunnel : Option δ) (key : κ) : σ → Int32 × σ
  unregDump (key : κ) : σ → Int32 × σ

def FIRST_CALL_TRANSACTION : UInt32 := 1
def GUI_EXT_ALLOC : UInt32 := FIRST_CALL_TRANSACTION
def GUI_EXT_FREE : UInt32 := GUI_EXT_ALLOC + 1
def GUI_EXT_ACQUIRE : UInt32 := GUI_EXT_FREE + 1
def GUI_EXT_REQUEST : UInt32 := GUI_EXT_ACQUIRE + 1
def GUI_EXT_RELEASE : UInt32 := GUI_EXT_REQUEST + 1
def GUI_EXT_DISCONNECT : UInt32 := GUI_EXT_RELEASE + 1
def GUI_EXT_CONFIGDISPLAY : UInt32 := GUI_EXT_DISCONNECT + 1
def GUI_EXT_REGDUMP : UInt32 := GUI_EXT_CONFIGDISPLAY + 1
def GUI_EXT_UNREGDUMP : UInt32 := GUI_EXT_REGDUMP + 1

def getInterfaceDescriptor : String := "GuiExtService"

/-- The binder library: what it makes of tunnels, and what `BBinder::onTransact` does. -/
structure BinderLib (β γ κ δ σ : Type) where
  asBinder : Option δ → Option β
  interfaceCast : Option β → Option δ
  /-- `interface_cast` finds the tunnel of a binder again. -/
  interfaceCast_asBinder : ∀ t, interfaceCast (asBinder t) = t
  emptyString8 : κ
  onTransact : UInt32 → Parcel β γ κ → σ → Int32 × Parcel β γ κ × σ

/-- `transact` of a remote: the status, the reply and the next state of the service. -/
abbrev Transact (β γ κ σ : Type) := UInt32 → Parcel β γ κ → σ → Int32 × Parcel β γ κ × σ

/-! ## The proxy -/

namespace BpGuiExtService

open Parcel

variable (lib : BinderLib β γ κ δ σ) (remote : Transact β γ κ σ)

def alloc (token : Option β) (gralloc_usage w h : UInt32) (s : σ) : Outcome UInt32 σ :=
  let data := writeInterfaceToken [] getInterfaceDescriptor
  let data := data.writeStrongBinder token
  let data := data.writeInt32 gralloc_usage.toInt32
  let data := data.writeInt32 w.toInt32
  let data := data.writeInt32 h.toInt32
  let (result, reply, s) := remote GUI_EXT_ALLOC data s
  if result ≠ NO_ERROR then ⟨result, none, s⟩
  else
    let (id, reply) := reply.readInt32
    let (result, _) := reply.readInt32
    ⟨result, some id.toUInt32, s⟩

def free (id : UInt32) (s : σ) : Int32 × σ :=
  let data := writeInterfaceToken [] getInterfaceDescriptor
  let data := data.writeInt32 id.toInt32
  let (result, reply, s) := remote GUI_EXT_FREE data s
  if result ≠ NO_ERROR then (-1, s)
  else
    let (result, _) := reply.readInt32
    (result, s)

def acquire (token : Option β) (poolId usage type : UInt32) (s : σ) : Outcome Int32 σ :=
  let data := writeInterfaceToken [] getInterfaceDescriptor
  let data := data.writeStrongBinder token
  let data := data.writeInt32 poolId.toInt32
  let data := data.writeInt32 usage.toInt32
  let data := data.writeInt32 type.toInt32
  let (result, reply, s) := remote GUI_EXT_ACQUIRE data s
  if result ≠ NO_ERROR then ⟨result, none, s⟩
  else
    let (buf, reply) := reply.readInt32
    let (result, _) := reply.readInt32
    ⟨result, some buf, s⟩

def request (poolId usage type : UInt32) (buf : Int32) (s : σ) : Outcome (Option γ) σ :=
  let data := writeInterfaceToken [] getInterfaceDescriptor
  let data := data.writeInt32 poolId.toInt32
  let data := data.writeInt32 usage.toInt32
  let data := data.writeInt32 type.toInt32
  let data := data.writeInt32 buf
  let (result, reply, s) := remote GUI_EXT_REQUEST data s
  if result ≠ NO_ERROR then ⟨result, none, s⟩
  else
    let (nonNull, reply) := reply.readInt32
    if nonNull ≠ 0 then
      let (result, buffer, reply) := reply.read
      if result ≠ NO_ERROR then ⟨result, some none, s⟩
      else
        let (result, _) := reply.readInt32
        ⟨result, some buffer, s⟩
    else
      -- the pointer of the caller is left alone
      let (result, _) := reply.readInt32
      ⟨result, none, s⟩

def release (poolId usage type : UInt32) (buf : Int32) (s : σ) : Int32 × σ :=
  let data := writeInterfaceToken [] getInterfaceDescriptor
  let data := data.writeInt32 poolId.toInt32
  let data := data.writeInt32 usage.toInt32
  let data := data.writeInt32 type.toInt32
  let data := data.writeInt32 buf
  let (result, reply, s) := remote GUI_EXT_RELEASE data s
  if result ≠ NO_ERROR then (result, s)
  else
    let (result, _) := reply.readInt32
    (result, s)

def disconnect (poolId usage type : UInt32) (s : σ) : Int32 × σ :=
  let data := writeInterfaceToken [] getInterfaceDescriptor
  let data := data.writeInt32 poolId.toInt32
  let data := data.writeInt32 usage.toInt32
  let data := data.writeInt32 type.toInt32
  let (result, reply, s) := remote GUI_EXT_DISCONNECT data s
  if result ≠ NO_ERROR then (result, s)
  else
    let (result, _) := reply.readInt32
    (result, s)

def configDisplay (type : UInt32) (enable : Bool) (w h bufNum : UInt32) (s : σ) : Int32 × σ :=
  let data := writeInterfaceToken [] getInterfaceDescriptor
  let data := data.writeInt32 type.toInt32
  let data := data.writeInt32 (if enable then 1 else 0)
  let data := data.writeInt32 w.toInt32
  let data := data.writeInt32 h.toInt32
  let data := data.writeInt32 bufNum.toInt32
  let (result, reply, s) := remote GUI_EXT_CONFIGDISPLAY data s
  if result ≠ NO_ERROR then (result, s)
  else
    let (result, _) := reply.readInt32
    (result, s)

/-- Here and in `unregDump` the status of `transact` is not looked at. -/
def regDump (tunnel : Option δ) (key : κ) (s : σ) : Int32 × σ :=
  let data := writeInterfaceToken [] getInterfaceDescriptor
  let data := data.writeStrongBinder (lib.asBinder tunnel)
  let data := data.writeString8 key
  let (_, reply, s) := remote GUI_EXT_REGDUMP data s
  let (result, _) := reply.readInt32
  (result, s)

def unregDump (key : κ) (s : σ) : Int32 × σ :=
  let data := writeInterfaceToken [] getInterfaceDescriptor
  let data := data.writeString8 key
  let (_, reply, s) := remote GUI_EXT_UNREGDUMP data s
  let (result, _) := reply.readInt32
  (result, s)

end BpGuiExtService

/-- The proxy as an implementation of the interface. -/
def BpGuiExtService (lib : BinderLib β γ κ δ σ) (remote : Transact β γ κ σ) :
    IGuiExtService β γ κ δ σ where
  alloc := BpGuiExtService.alloc remote
  free := BpGuiExtService.free remote
  acquire := BpGuiExtService.acquire remote
  request := BpGuiExtService.request remote
  release := BpGuiExtService.release remote
  disconnect := BpGuiExtService.disconnect remote
  configDisplay := BpGuiExtService.configDisplay remote
  regDump := BpGuiExtService.regDump lib remote
  unregDump := BpGuiExtService.unregDump remote

/-! ## The service side -/

/-- What the variables `id` and `buf` of `onTransact` hold before they are assigned. -/
structure Uninit where
  id : UInt32
  buf : Int32

namespace BnGuiExtService

open Parcel

variable (lib : BinderLib β γ κ δ σ) (impl : IGuiExtService β γ κ δ σ) (uninit : Uninit)

/-- What the reply to `request` says of the buffer, which is null at first. -/
def bufferReply (out : Option (Option γ)) : Parcel β γ κ :=
  match out.getD none with
  | some buffer => (writeInt32 [] 1).write buffer
  | none => writeInt32 [] 0

/-- `BnGuiExtService::onTransact`, with an empty reply. -/
def onTransact (code : UInt32) (data : Parcel β γ κ) (s : σ) : Int32 × Parcel β γ κ × σ :=
  let (ok, args) := checkInterface getInterfaceDescriptor data
  if code = GUI_EXT_ALLOC then
    if !ok then (PERMISSION_DENIED, [], s)
    else
      let (token, data) := args.readStrongBinder
      let (gralloc_usage, data) := data.readInt32
      let (w, data) := data.readInt32
      let (h, _) := data.readInt32
      let r := impl.alloc token gralloc_usage.toUInt32 w.toUInt32 h.toUInt32 s
      let reply := writeInt32 [] (r.out.getD uninit.id).toInt32
      (NO_ERROR, reply.writeInt32 r.status, r.state)
  else if code = GUI_EXT_FREE then
    if !ok then (PERMISSION_DENIED, [], s)
    else
      let (id, _) := args.readInt32
      let (ret, s) := impl.free id.toUInt32 s
      (NO_ERROR, writeInt32 [] ret, s)
  else if code = GUI_EXT_ACQUIRE then
    if !ok then (PERMISSION_DENIED, [], s)
    else
      let (token, data) := args.readStrongBinder
      let (poolId, data) := data.readInt32
      let (usage, data) := data.readInt32
      let (type, _) := data.readInt32
      let r := impl.acquire token poolId.toUInt32 usage.toUInt32 type.toUInt32 s
      let reply := writeInt32 [] (r.out.getD uninit.buf)
      (NO_ERROR, reply.writeInt32 r.status, r.state)
  else if code = GUI_EXT_REQUEST then
    if !ok then (PERMISSION_DENIED, [], s)
    else
      let (poolId, data) := args.readInt32
      let (usage, data) := data.readInt32
      let (type, data) := data.readInt32
      let (buf, _) := data.readInt32
      let r := impl.request poolId.toUInt32 usage.toUInt32 type.toUInt32 buf.toUInt32.toInt32 s
      (NO_ERROR, (bufferReply r.out).writeInt32 r.status, r.state)
  else if code = GUI_EXT_RELEASE then
    if !ok then (PERMISSION_DENIED, [], s)
    else
      let (poolId, data) := args.readInt32
      let (usage, data) := data.readInt32
      let (type, data) := data.readInt32
      let (buf, _) := data.readInt32
      let (result, s) :=
        impl.release poolId.toUInt32 usage.toUInt32 type.toUInt32 buf.toUInt32.toInt32 s
      (NO_ERROR, writeInt32 [] result, s)
  else if code = GUI_EXT_DISCONNECT then
    if !ok then (PERMISSION_DENIED, [], s)
    else
      let (poolId, data) := args.readInt32
      let (usage, data) := data.readInt32
      let (type, _) := data.readInt32
      let (result, s) := impl.disconnect poolId.toUInt32 usage.toUInt32 type.toUInt32 s
      (NO_ERROR, writeInt32 [] result, s)
  else if code = GUI_EXT_CONFIGDISPLAY then
    if !ok then (PERMISSION_DENIED, [], s)
    else
      let (type, data) := args.readInt32
      let (enable, data) := data.readInt32
      let (w, data) := data.readInt32
      let (h, data) := data.readInt32
      let (bufNum, _) := data.readInt32
      let (result, s) := impl.configDisplay type.toUInt32 (enable ≠ 0) w.toUInt32 h.toUInt32
        bufNum.toUInt32 s
      (NO_ERROR, writeInt32 [] result, s)
  else if code = GUI_EXT_REGDUMP then
    if !ok then (PERMISSION_DENIED, [], s)
    else
      let (binder, data) := args.readStrongBinder
      let (key, _) := data.readString8 lib.emptyString8
      let (result, s) := impl.regDump (lib.interfaceCast binder) key s
      (NO_ERROR, writeInt32 [] result, s)
  else if code = GUI_EXT_UNREGDUMP then
    if !ok then (PERMISSION_DENIED, [], s)
    else
      let (key, _) := args.readString8 lib.emptyString8
      let (result, s) := impl.unregDump key s
      (NO_ERROR, writeInt32 [] result, s)
  else lib.onTransact code data s

/-! ## What the service side replies -/

variable {lib impl uninit}

/-- A call as the proxy writes it: the token of the interface and the arguments. -/
abbrev call (args : Parcel β γ κ) : Parcel β γ κ :=
  .interfaceToken getInterfaceDescriptor :: args

theorem checkInterface_call (args : Parcel β γ κ) :
    checkInterface getInterfaceDescriptor (call args) = (true, args) := by
  simp [checkInterface]

theorem onTransact_alloc (token : Option β) (u w h : Int32) (s : σ) :
    onTransact lib impl uninit GUI_EXT_ALLOC
        (call [.strongBinder token, .int32 u, .int32 w, .int32 h]) s =
      let r := impl.alloc token u.toUInt32 w.toUInt32 h.toUInt32 s
      (NO_ERROR, [.int32 (r.out.getD uninit.id).toInt32, .int32 r.status], r.state) := by
  unfold onTransact
  rw [checkInterface_call]
  rfl

theorem onTransact_free (id : Int32) (s : σ) :
    onTransact lib impl uninit GUI_EXT_FREE (call [.int32 id]) s =
      (NO_ERROR, [.int32 (impl.free id.toUInt32 s).1], (impl.free id.toUInt32 s).2) := by
  unfold onTransact
  rw [checkInterface_call]
  rfl

theorem onTransact_acquire (token : Option β) (poolId usage type : Int32) (s : σ) :
    onTransact lib impl uninit GUI_EXT_ACQUIRE
        (call [.strongBinder token, .int32 poolId, .int32 usage, .int32 type]) s =
      let r := impl.acquire token poolId.toUInt32 usage.toUInt32 type.toUInt32 s
      (NO_ERROR, [.int32 (r.out.getD uninit.buf), .int32 r.status], r.state) := by
  unfold onTransact
  rw [checkInterface_call]
  rfl

theorem onTransact_request (poolId usage type buf : Int32) (s : σ) :
    onTransact lib impl uninit GUI_EXT_REQUEST
        (call [.int32 poolId, .int32 usage, .int32 type, .int32 buf]) s =
      let r := impl.request poolId.toUInt32 usage.toUInt32 type.toUInt32 buf s
      (NO_ERROR, bufferReply r.out ++ [.int32 r.status], r.state) := by
  unfold onTransact
  rw [checkInterface_call]
  rfl

theorem onTransact_release (poolId usage type buf : Int32) (s : σ) :
    onTransact lib impl uninit GUI_EXT_RELEASE
        (call [.int32 poolId, .int32 usage, .int32 type, .int32 buf]) s =
      let r := impl.release poolId.toUInt32 usage.toUInt32 type.toUInt32 buf s
      (NO_ERROR, [.int32 r.1], r.2) := by
  unfold onTransact
  rw [checkInterface_call]
  rfl

theorem onTransact_disconnect (poolId usage type : Int32) (s : σ) :
    onTransact lib impl uninit GUI_EXT_DISCONNECT
        (call [.int32 poolId, .int32 usage, .int32 type]) s =
      let r := impl.disconnect poolId.toUInt32 usage.toUInt32 type.toUInt32 s
      (NO_ERROR, [.int32 r.1], r.2) := by
  unfold onTransact
  rw [checkInterface_call]
  rfl

theorem onTransact_configDisplay (type enable w h bufNum : Int32) (s : σ) :
    onTransact lib impl uninit GUI_EXT_CONFIGDISPLAY
        (call [.int32 type, .int32 enable, .int32 w, .int32 h, .int32 bufNum]) s =
      let r := impl.configDisplay type.toUInt32 (enable ≠ 0) w.toUInt32 h.toUInt32
        bufNum.toUInt32 s
      (NO_ERROR, [.int32 r.1], r.2) := by
  unfold onTransact
  rw [checkInterface_call]
  rfl

theorem onTransact_regDump (binder : Option β) (key : κ) (s : σ) :
    onTransact lib impl uninit GUI_EXT_REGDUMP (call [.strongBinder binder, .string8 key]) s =
      let r := impl.regDump (lib.interfaceCast binder) key s
      (NO_ERROR, [.int32 r.1], r.2) := by
  unfold onTransact
  rw [checkInterface_call]
  rfl

theorem onTransact_unregDump (key : κ) (s : σ) :
    onTransact lib impl uninit GUI_EXT_UNREGDUMP (call [.string8 key]) s =
      let r := impl.unregDump key s
      (NO_ERROR, [.int32 r.1], r.2) := by
  unfold onTransact
  rw [checkInterface_call]
  rfl

end BnGuiExtService

/-! ## Both sides together -/

/-- A call that arrives at the service and comes back. -/
def transact (lib : BinderLib β γ κ δ σ) (impl : IGuiExtService β γ κ δ σ) (uninit : Uninit) :
    Transact β γ κ σ := BnGuiExtService.onTransact lib impl uninit

namespace Outcome

variable {α : Type}

/-- What the caller's variable holds after the call. -/
def stored (r : Outcome α σ) (before : α) : α := r.out.getD before

/-- The same status and service, and the same output where the direct call stores one. -/
def SameAs (r direct : Outcome α σ) (before : α) : Prop :=
  r.status = direct.status ∧ r.state = direct.state ∧
    (direct.out.isSome → r.stored before = direct.stored before)

end Outcome

/-- The proxy cannot be told from the implementation, but for a buffer that is set to null over
another one. -/
structure Transparent (proxy impl : IGuiExtService β γ κ δ σ) : Prop where
  alloc : ∀ token u w h s before,
    (proxy.alloc token u w h s).SameAs (impl.alloc token u w h s) before
  free : ∀ id s, proxy.free id s = impl.free id s
  acquire : ∀ token poolId usage type s before,
    (proxy.acquire token poolId usage type s).SameAs (impl.acquire token poolId usage type s)
      before
  request : ∀ poolId usage type buf s before,
    (proxy.request poolId usage type buf s).status =
        (impl.request poolId usage type buf s).status ∧
      (proxy.request poolId usage type buf s).state =
        (impl.request poolId usage type buf s).state ∧
      ((proxy.request poolId usage type buf s).SameAs (impl.request poolId usage type buf s)
          before ↔ ((impl.request poolId usage type buf s).out = some none → before = none))
  release : ∀ poolId usage type buf s,
    proxy.release poolId usage type buf s = impl.release poolId usage type buf s
  disconnect : ∀ poolId usage type s,
    proxy.disconnect poolId usage type s = impl.disconnect poolId usage type s
  configDisplay : ∀ type enable w h bufNum s,
    proxy.configDisplay type enable w h bufNum s = impl.configDisplay type enable w h bufNum s
  regDump : ∀ tunnel key s, proxy.regDump tunnel key s = impl.regDump tunnel key s
  unregDump : ∀ key s, proxy.unregDump key s = impl.unregDump key s

section Transparent

variable {lib : BinderLib β γ κ δ σ} {impl : IGuiExtService β γ κ δ σ} {uninit : Uninit}

theorem alloc_eq (token : Option β) (u w h : UInt32) (s : σ) :
    BpGuiExtService.alloc (transact lib impl uninit) token u w h s =
      let r := impl.alloc token u w h s
      ⟨r.status, some (r.out.getD uninit.id), r.state⟩ := by
  unfold BpGuiExtService.alloc transact
  simp [BnGuiExtService.onTransact_alloc]

theorem free_eq (id : UInt32) (s : σ) :
    BpGuiExtService.free (transact lib impl uninit) id s = impl.free id s := by
  unfold BpGuiExtService.free transact
  simp [BnGuiExtService.onTransact_free]

theorem acquire_eq (token : Option β) (poolId usage type : UInt32) (s : σ) :
    BpGuiExtService.acquire (transact lib impl uninit) token poolId usage type s =
      let r := impl.acquire token poolId usage type s
      ⟨r.status, some (r.out.getD uninit.buf), r.state⟩ := by
  unfold BpGuiExtService.acquire transact
  simp [BnGuiExtService.onTransact_acquire]

/-- A buffer comes back if the implementation stores one that is not null. -/
theorem request_eq (poolId usage type : UInt32) (buf : Int32) (s : σ) :
    BpGuiExtService.request (transact lib impl uninit) poolId usage type buf s =
      let r := impl.request poolId usage type buf s
      ⟨r.status, (r.out.getD none).map some, r.state⟩ := by
  unfold BpGuiExtService.request transact
  simp only [Parcel.writeInterfaceToken_eq, Parcel.writeInt32_eq, List.nil_append,
    List.cons_append, BnGuiExtService.onTransact_request, UInt32.toUInt32_toInt32]
  unfold BnGuiExtService.bufferReply
  cases (impl.request poolId usage type buf s).out.getD none with
  | none => simp
  | some buffer => simp

theorem release_eq (poolId usage type : UInt32) (buf : Int32) (s : σ) :
    BpGuiExtService.release (transact lib impl uninit) poolId usage type buf s =
      impl.release poolId usage type buf s := by
  unfold BpGuiExtService.release transact
  simp [BnGuiExtService.onTransact_release]

theorem disconnect_eq (poolId usage type : UInt32) (s : σ) :
    BpGuiExtService.disconnect (transact lib impl uninit) poolId usage type s =
      impl.disconnect poolId usage type s := by
  unfold BpGuiExtService.disconnect transact
  simp [BnGuiExtService.onTransact_disconnect]

theorem configDisplay_eq (type : UInt32) (enable : Bool) (w h bufNum : UInt32) (s : σ) :
    BpGuiExtService.configDisplay (transact lib impl uninit) type enable w h bufNum s =
      impl.configDisplay type enable w h bufNum s := by
  unfold BpGuiExtService.configDisplay transact
  cases enable with
  | false => simp [BnGuiExtService.onTransact_configDisplay]
  | true => simp [BnGuiExtService.onTransact_configDisplay]

theorem regDump_eq (tunnel : Option δ) (key : κ) (s : σ) :
    BpGuiExtService.regDump lib (transact lib impl uninit) tunnel key s =
      impl.regDump tunnel key s := by
  unfold BpGuiExtService.regDump transact
  simp [BnGuiExtService.onTransact_regDump, lib.interfaceCast_asBinder]

theorem unregDump_eq (key : κ) (s : σ) :
    BpGuiExtService.unregDump (transact lib impl uninit) key s = impl.unregDump key s := by
  unfold BpGuiExtService.unregDump transact
  simp [BnGuiExtService.onTransact_unregDump]

/-- An output that is always stored is the one of the direct call where that stores one. -/
theorem Outcome.sameAs_getD {α : Type} (r : Outcome α σ) (junk before : α) :
    (⟨r.status, some (r.out.getD junk), r.state⟩ : Outcome α σ).SameAs r before := by
  refine ⟨rfl, rfl, ?_⟩
  intro hout
  obtain ⟨v, hv⟩ := Option.isSome_iff_exists.mp hout
  simp [stored, hv]

/-- A null buffer is the one output that can get lost. -/
theorem Outcome.sameAs_buffer (r : Outcome (Option γ) σ) (before : Option γ) :
    (⟨r.status, (r.out.getD none).map some, r.state⟩ : Outcome (Option γ) σ).SameAs r before ↔
      (r.out = some none → before = none) := by
  unfold SameAs stored
  rcases hout : r.out with _ | _ | buffer
  · simp
  · simp
  · simp

/-- **The proxy is transparent but for null buffers.** -/
theorem marshalling_transparent (lib : BinderLib β γ κ δ σ) (impl : IGuiExtService β γ κ δ σ)
    (uninit : Uninit) : Transparent (BpGuiExtService lib (transact lib impl uninit)) impl where
  alloc token u w h s before := by
    show (BpGuiExtService.alloc _ token u w h s).SameAs _ before
    rw [alloc_eq]
    exact Outcome.sameAs_getD _ _ before
  free := free_eq
  acquire token poolId usage type s before := by
    show (BpGuiExtService.acquire _ token poolId usage type s).SameAs _ before
    rw [acquire_eq]
    exact Outcome.sameAs_getD _ _ before
  request poolId usage type buf s before := by
    have heq : (BpGuiExtService lib (transact lib impl uninit)).request poolId usage type buf s =
        _ := request_eq poolId usage type buf s
    rw [heq]
    exact ⟨rfl, rfl, Outcome.sameAs_buffer _ before⟩
  release := release_eq
  disconnect := disconnect_eq
  configDisplay := configDisplay_eq
  regDump := regDump_eq
  unregDump := unregDump_eq

end Transparent

/-! ## A null buffer over another one -/

/-- A service that has no buffer to give. -/
def noBuffer : IGuiExtService Unit Unit Unit Unit Unit where
  alloc _ _ _ _ s := ⟨NO_ERROR, some 0, s⟩
  free _ s := (NO_ERROR, s)
  acquire _ _ _ _ s := ⟨NO_ERROR, some 0, s⟩
  request _ _ _ _ s := ⟨NO_ERROR, some none, s⟩
  release _ _ _ _ s := (NO_ERROR, s)
  disconnect _ _ _ s := (NO_ERROR, s)
  configDisplay _ _ _ _ _ s := (NO_ERROR, s)
  regDump _ _ s := (NO_ERROR, s)
  unregDump _ s := (NO_ERROR, s)

def plainLib : BinderLib Unit Unit Unit Unit Unit where
  asBinder t := t
  interfaceCast b := b
  interfaceCast_asBinder _ := rfl
  emptyString8 := ()
  onTransact _ _ s := (UNKNOWN_TRANSACTION, [], s)

/-- The direct call takes the buffer of the caller away, the call through the proxy does not. -/
theorem not_marshalling_exact :
    ¬ ∀ (impl : IGuiExtService Unit Unit Unit Unit Unit) (uninit : Uninit)
        (poolId usage type : UInt32) (buf : Int32) (before : Option Unit),
      ((BpGuiExtService plainLib (transact plainLib impl uninit)).request poolId usage type buf
        ()).SameAs (impl.request poolId usage type buf ()) before := by
  intro hall
  have hsame := (hall noBuffer ⟨0, 0⟩ 1 0 0 0 (some ())).2.2 rfl
  exact absurd hsame (by decide)

end Sloane.GuiExt.Marshalling
