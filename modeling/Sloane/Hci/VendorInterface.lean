import Sloane.Lib.Run

/-!
# Opening and closing the vendor interface

Model of `VendorInterface::Initialize`, `Open`, `Shutdown` and `Close`, and of `BluetoothHci` around
them.  What the system and the vendor library answer while `Open` runs is an `OpenEnv`; of the
library the model keeps what has been asked of it and not been taken back.

* `openVendor_iff` — when `Open` succeeds.
* `vendorInitialize_leavesNoTrace_iff` — a failed `Open` always leaves its trace: the
  `VendorInterface` stays, and the next `Initialize` fails as well.
* `refused_until_close` — after it, every `initialize` of a client is refused until a `close`.
* `shutdown_vendorInitialize` — a `Shutdown` takes back what the failed `Initialize` had done.
-/

namespace Sloane.Hci

open Sloane.Lib System

def CH_EVT : Nat := 1
def CH_ACL_IN : Nat := 3
def CH_MAX : Int := 4
def INVALID_FD : Int := -1

/-- The answers to `dlopen`, `dlsym`, `init` and `BT_VND_OP_USERIAL_OPEN`; the last fills the
beginning of `fd_list`, which is all 0 before. -/
structure OpenEnv where
  dlopen : Bool
  dlsym : Bool
  init : Int
  fdCount : Int
  fdList : List Int
  deriving DecidableEq, Repr

def OpenEnv.fd (env : OpenEnv) (i : Nat) : Int := env.fdList.getD i 0

/-- The vendor library: open handles, and what was done last with `init` and `cleanup`, with
`BT_VND_OP_POWER_CTRL`, with `BT_VND_OP_USERIAL_OPEN` and `_CLOSE`, and with `BT_VND_OP_FW_CFG`. -/
structure VendorLib where
  handles : Nat
  initialized : Bool
  powerOn : Bool
  userialOpen : Bool
  fwCfg : Bool
  deriving DecidableEq, Repr

inductive HciKind where
  | h4
  | mct
  deriving DecidableEq, Repr

/-- A callback is named by the client it belongs to. -/
structure VendorInterface where
  libHandle : Bool
  libInterface : Bool
  watchedFds : List Int
  initializeCompleteCb : Option Nat
  hci : Option HciKind
  eventCb : Option Nat
  firmwareStartupTimer : Bool
  deriving DecidableEq, Repr

def VendorInterface.new : VendorInterface := ⟨false, false, [], none, none, none, false⟩

/-- The global state of the process. -/
structure Process where
  gVendorInterface : Option VendorInterface
  lpmWakeDeasserted : Bool
  lib : VendorLib
  deriving DecidableEq, Repr

/-- Nothing has been asked of the library that was not taken back. -/
def VendorLib.idle (handles : Nat) : VendorLib := ⟨handles, false, false, false, false⟩

/-- `VendorInterface::Open`: whether it succeeds, and what it leaves either way. -/
def VendorInterface.openVendor (i : VendorInterface) (client : Nat) (env : OpenEnv) (s : Process) :
    Bool × VendorInterface × Process :=
  let i := { i with initializeCompleteCb := some client }
  if !env.dlopen then (false, i, s)
  else
    let i := { i with libHandle := true }
    let s := { s with lib := { s.lib with handles := s.lib.handles + 1 } }
    if !env.dlsym then (false, i, s)
    else
      let i := { i with libInterface := true }
      if env.init ≠ 0 then (false, i, s)
      else
        let s := { s with
          lib := { s.lib with initialized := true, powerOn := true, userialOpen := true } }
        if env.fdCount < 1 ∨ env.fdCount > CH_MAX - 1 then (false, i, s)
        else if ∃ j < env.fdCount.toNat, env.fd j = INVALID_FD then (false, i, s)
        else
          let i := { i with eventCb := some client }
          let i :=
            if env.fdCount = 1 then { i with watchedFds := [env.fd 0], hci := some .h4 }
            else { i with watchedFds := [env.fd CH_EVT, env.fd CH_ACL_IN], hci := some .mct }
          (true, { i with firmwareStartupTimer := true },
            { s with lpmWakeDeasserted := true, lib := { s.lib with fwCfg := true } })

/-- `VendorInterface::Close`, as far as the library goes: the object is deleted after it. -/
def VendorInterface.close (i : VendorInterface) (lib : VendorLib) : VendorLib :=
  let lib := if i.libInterface then .idle lib.handles else lib
  if i.libHandle then { lib with handles := lib.handles - 1 } else lib

namespace Process

/-- `VendorInterface::Initialize`. -/
def vendorInitialize (s : Process) (client : Nat) (env : OpenEnv) : Bool × Process :=
  match s.gVendorInterface with
  | some _ => (false, s)
  | none =>
      let (ok, i, s) := VendorInterface.new.openVendor client env s
      (ok, { s with gVendorInterface := some i })

/-- `VendorInterface::Shutdown`; `none` is `LOG_ALWAYS_FATAL`. -/
def shutdown (s : Process) : Option Process :=
  s.gVendorInterface.map fun i => { s with gVendorInterface := none, lib := i.close s.lib }

end Process

/-! ## When it opens -/

/-- The answers with which `Open` gets to its end. -/
structure Opens (env : OpenEnv) : Prop where
  dlopen : env.dlopen = true
  dlsym : env.dlsym = true
  init : env.init = 0
  fdCount : 1 ≤ env.fdCount ∧ env.fdCount ≤ CH_MAX - 1
  fds : ∀ j < env.fdCount.toNat, env.fd j ≠ INVALID_FD

variable {s : Process} {client : Nat} {env : OpenEnv}

/-- **When `Open` succeeds.** -/
theorem openVendor_iff (i : VendorInterface) :
    (i.openVendor client env s).1 = true ↔ Opens env := by
  unfold VendorInterface.openVendor
  simp only
  split
  · rename_i h
    exact iff_of_false Bool.false_ne_true fun ho => by simp [ho.dlopen] at h
  split
  · rename_i h
    exact iff_of_false Bool.false_ne_true fun ho => by simp [ho.dlsym] at h
  split
  · rename_i h
    exact iff_of_false Bool.false_ne_true fun ho => h ho.init
  split
  · rename_i h
    refine iff_of_false Bool.false_ne_true fun ho => ?_
    have := ho.fdCount
    omega
  split
  · rename_i h
    obtain ⟨j, hj, hfd⟩ := h
    exact iff_of_false Bool.false_ne_true fun ho => ho.fds j hj hfd
  · rename_i hopen hsym hinit hcount hfds
    refine iff_of_true rfl ⟨?_, ?_, ?_, ?_, ?_⟩
    · simpa using hopen
    · simpa using hsym
    · simpa using hinit
    · omega
    · intro j hj hfd
      exact hfds ⟨j, hj, hfd⟩

theorem vendorInitialize_of_some (h : s.gVendorInterface.isSome) :
    s.vendorInitialize client env = (false, s) := by
  obtain ⟨i, hi⟩ := Option.isSome_iff_exists.mp h
  rw [Process.vendorInitialize, hi]

theorem vendorInitialize_of_none (h : s.gVendorInterface = none) :
    s.vendorInitialize client env =
      let r := VendorInterface.new.openVendor client env s
      (r.1, { r.2.2 with gVendorInterface := some r.2.1 }) := by
  rw [Process.vendorInitialize, h]

/-- After `Initialize`, successful or not, there is a `VendorInterface`. -/
theorem vendorInitialize_isSome (s : Process) (client : Nat) (env : OpenEnv) :
    (s.vendorInitialize client env).2.gVendorInterface.isSome := by
  unfold Process.vendorInitialize
  split
  · rename_i hi
    simp [hi]
  · rfl

/-! ## A failed `Initialize` -/

/-- What is to hold of an `Initialize` that returns false: nothing has changed, and the next one
whose `Open` succeeds returns true. -/
def LeavesNoTrace (s : Process) (client : Nat) (env : OpenEnv) : Prop :=
  (s.vendorInitialize client env).1 = false →
    (s.vendorInitialize client env).2 = s ∧ ∀ client' env', Opens env' →
      ((s.vendorInitialize client env).2.vendorInitialize client' env').1 = true

/-- **Only an `Open` that succeeds leaves no trace.**  Where it fails, at whatever point, the
global state has changed and the next `Initialize` returns false. -/
theorem vendorInitialize_leavesNoTrace_iff (h : s.gVendorInterface = none) :
    LeavesNoTrace s client env ↔ Opens env := by
  constructor
  · intro hclean
    by_contra hopen
    have hfalse : (s.vendorInitialize client env).1 = false := by
      rw [vendorInitialize_of_none h]
      exact Bool.eq_false_iff.mpr fun hok => hopen ((openVendor_iff _).mp hok)
    have hsome := vendorInitialize_isSome s client env
    rw [(hclean hfalse).1, h] at hsome
    cases hsome
  · intro hopen hfalse
    rw [vendorInitialize_of_none h] at hfalse
    have hok : (VendorInterface.new.openVendor client env s).1 = true :=
      (openVendor_iff _).mpr hopen
    exact absurd (hok.symm.trans hfalse) (by decide)

/-- Answers with which `Open` fails at once, and others with which it succeeds. -/
def noLibrary : OpenEnv := ⟨false, true, 0, 1, [7]⟩

def oneFd : OpenEnv := ⟨true, true, 0, 1, [7]⟩

theorem oneFd_opens : Opens oneFd where
  dlopen := rfl
  dlsym := rfl
  init := rfl
  fdCount := by decide
  fds := by decide

/-- The process as it starts. -/
def Process.start : Process := ⟨none, false, .idle 0⟩

theorem vendorInitialize_oneFd : LeavesNoTrace .start 1 oneFd :=
  (vendorInitialize_leavesNoTrace_iff rfl).mpr oneFd_opens

theorem not_leavesNoTrace :
    ¬ ∀ s client env, s.gVendorInterface = none → LeavesNoTrace s client env := by
  intro hall
  have hnext := (hall .start 1 noLibrary rfl rfl).2 1 oneFd oneFd_opens
  exact absurd hnext (by decide)

/-! ## What a `Shutdown` takes back -/

/-- **A `Shutdown` undoes a failed `Initialize`.** -/
theorem shutdown_vendorInitialize {handles : Nat} (h : s.gVendorInterface = none)
    (hlib : s.lib = .idle handles) (hfail : ¬ Opens env) :
    (s.vendorInitialize client env).2.shutdown = some s := by
  have hfalse : (VendorInterface.new.openVendor client env s).1 ≠ true :=
    fun hok => hfail ((openVendor_iff _).mp hok)
  obtain ⟨g, lpm, lib⟩ := s
  obtain rfl : g = none := h
  obtain rfl : lib = .idle handles := hlib
  rw [vendorInitialize_of_none rfl]
  unfold VendorInterface.openVendor at hfalse ⊢
  simp only at hfalse ⊢
  split at hfalse
  · rename_i hopen
    rw [if_pos hopen]
    rfl
  rename_i hopen
  rw [if_neg hopen]
  split at hfalse
  · rename_i hsym
    rw [if_pos hsym]
    rfl
  rename_i hsym
  rw [if_neg hsym]
  split at hfalse
  · rename_i hinit
    rw [if_pos hinit]
    rfl
  rename_i hinit
  rw [if_neg hinit]
  split at hfalse
  · rename_i hcount
    rw [if_pos hcount]
    rfl
  rename_i hcount
  rw [if_neg hcount]
  split at hfalse
  · rename_i hfds
    rw [if_pos hfds]
    rfl
  · exact absurd rfl hfalse

/-! ## The clients -/

inductive Status where
  | success
  | initializationError
  deriving DecidableEq, Repr

/-- `BluetoothHci`, and the calls of `initializationComplete` so far.  A client is its callback. -/
structure BluetoothHci where
  process : Process
  hasDied : Bool
  unlinkCb : Option Nat
  completed : List (Nat × Status)
  deriving DecidableEq, Repr

inductive HciCall where
  /-- `BluetoothHci::initialize`, with what `Open` would be answered -/
  | init (cb : Option Nat) (env : OpenEnv)
  | close
  | serviceDied
  /-- `firmware_config_cb` -/
  | firmwareConfigured (result : Nat)
  deriving DecidableEq, Repr

namespace BluetoothHci

def start : BluetoothHci := ⟨.start, false, none, []⟩

def complete (h : BluetoothHci) (cb : Nat) (status : Status) : BluetoothHci :=
  { h with completed := h.completed ++ [(cb, status)] }

def hciInitialize (h : BluetoothHci) (cb : Nat) (env : OpenEnv) : BluetoothHci :=
  let h := { h with hasDied := false }
  let (rc, process) := h.process.vendorInitialize cb env
  let h := { h with process := process }
  let h := if !rc then h.complete cb .initializationError else h
  { h with unlinkCb := some cb }

/-- `close`; `none` is a call of an empty `unlink_cb_`, or `LOG_ALWAYS_FATAL` in `Shutdown`. -/
def close (h : BluetoothHci) : Option BluetoothHci :=
  match h.unlinkCb with
  | none => none
  | some _ => h.process.shutdown.map fun process => { h with process := process }

/-- `VendorInterface::OnFirmwareConfigured`. -/
def onFirmwareConfigured (h : BluetoothHci) (i : VendorInterface) (result : Nat) : BluetoothHci :=
  let i := { i with firmwareStartupTimer := false }
  let h := match i.initializeCompleteCb with
    | some cb => h.complete cb (if result = 0 then .success else .initializationError)
    | none => h
  { h with process := { h.process with
      gVendorInterface := some { i with initializeCompleteCb := none } } }

/-- The library calls back only once it has been asked to configure the firmware. -/
def step (h : BluetoothHci) : HciCall → Option BluetoothHci
  | .init none _ => some h
  | .init (some cb) env => some (h.hciInitialize cb env)
  | .close => h.close
  | .serviceDied => { h with hasDied := true }.close
  | .firmwareConfigured result =>
      match h.process.gVendorInterface with
      | none => none
      | some i => if h.process.lib.fwCfg then some (h.onFirmwareConfigured i result) else none

end BluetoothHci

def bluetoothHci : System BluetoothHci HciCall := ofStep .start BluetoothHci.step

/-- A call that does not close. -/
def HciCall.stays : HciCall → Prop
  | .close | .serviceDied => False
  | .init .. | .firmwareConfigured _ => True

namespace BluetoothHci

variable {h h' : BluetoothHci}

theorem hciInitialize_isSome (h : BluetoothHci) (cb : Nat) (env : OpenEnv) :
    (h.hciInitialize cb env).process.gVendorInterface.isSome := by
  have hsome := vendorInitialize_isSome h.process cb env
  unfold hciInitialize
  simp only
  split <;> exact hsome

/-- With a `VendorInterface` there, `initialize` is refused. -/
theorem hciInitialize_refused (hsome : h.process.gVendorInterface.isSome) (cb : Nat)
    (env : OpenEnv) : (h.hciInitialize cb env).process = h.process ∧
      (h.hciInitialize cb env).completed = h.completed ++ [(cb, .initializationError)] := by
  simp [hciInitialize, vendorInitialize_of_some hsome, complete]

/-- Only a close takes the `VendorInterface` away. -/
theorem step_isSome {a : HciCall} (hstep : h.step a = some h') (ha : a.stays)
    (hsome : h.process.gVendorInterface.isSome) : h'.process.gVendorInterface.isSome := by
  cases a with
  | init cb env =>
    cases cb with
    | none =>
      obtain rfl := Option.some.inj hstep
      exact hsome
    | some cb =>
      obtain rfl := Option.some.inj hstep
      rw [(hciInitialize_refused hsome cb env).1]
      exact hsome
  | close => exact ha.elim
  | serviceDied => exact ha.elim
  | firmwareConfigured result =>
    simp only [step] at hstep
    split at hstep
    · cases hstep
    · split at hstep
      · obtain rfl := Option.some.inj hstep
        rfl
      · cases hstep

end BluetoothHci

/-- **After a call of `initialize`, failed or not, every other one is refused until a close.** -/
theorem refused_until_close {tr tr' : List (Transition BluetoothHci HciCall)}
    {x y : Transition BluetoothHci HciCall} {t : BluetoothHci}
    (h : bluetoothHci.Run (tr ++ [x] ++ tr' ++ [y]) t) {cb cb' : Nat} {env env' : OpenEnv}
    (hx : x.act = .init (some cb) env) (hstay : ∀ z ∈ tr', z.act.stays)
    (hy : y.act = .init (some cb') env') :
    y.post.process = y.pre.process ∧
      y.post.completed = y.pre.completed ++ [(cb', .initializationError)] := by
  obtain ⟨hrun, hlast, -⟩ := run_snoc.mp h
  have hpost : x.post.process.gVendorInterface.isSome := by
    have hstep := (hrun.transition x (by simp)).2
    rw [hx] at hstep
    obtain heq := Option.some.inj hstep
    rw [← heq]
    exact BluetoothHci.hciInitialize_isSome _ _ _
  have hsome : y.pre.process.gVendorInterface.isSome := by
    apply Run.preserved (P := fun h => h.process.gVendorInterface.isSome) ?_ hrun hpost hstay
    intro _ _ _ hs ha
    exact BluetoothHci.step_isSome hs ha
  rw [hy] at hlast
  obtain heq := Option.some.inj hlast
  rw [← heq]
  exact BluetoothHci.hciInitialize_refused hsome cb' env'

/-- A client without a library, and another one that would have had it. -/
theorem refused_until_close_noLibrary :
    let failed := BluetoothHci.start.hciInitialize 1 ⟨false, false, 0, 0, []⟩
    let second := failed.hciInitialize 2 ⟨true, true, 0, 1, [7]⟩
    second.process = failed.process ∧
      second.completed = failed.completed ++ [(2, .initializationError)] := by
  intro failed second
  let x : Transition BluetoothHci HciCall :=
    ⟨.start, .init (some 1) ⟨false, false, 0, 0, []⟩, failed⟩
  let y : Transition BluetoothHci HciCall :=
    ⟨failed, .init (some 2) ⟨true, true, 0, 1, [7]⟩, second⟩
  have hrun : bluetoothHci.Run ([] ++ [x] ++ [] ++ [y]) second :=
    System.Run.step (System.Run.step (.start rfl) rfl) rfl
  exact refused_until_close hrun rfl (fun z hz => nomatch hz) rfl

end Sloane.Hci
