import Sloane.Lib.Run

/-!
# The firmware-init thread of the Bluetooth vendor library

Model of `libbt-vendor/radiomod.c` and `radiomgr.c`: the worker thread `GORM_FW_Init_Thread`, the
callbacks that end a command, `BT_InitDevice` and `BT_Cleanup`, and of the slot for the pending
callback in `interface/vendor_interface.cc`.

A step is one section under `btinit_ctrl.mutex`, or one stretch of code between two of them.  The
return values of the mutex calls are ignored by the source, so each section runs.
-/

namespace Sloane.BtVendor

open Sloane.Lib

/-! ## Init scripts -/

/-- The functions `GORMcmd_HCC_…`. -/
inductive HciCommand where
  | getLocalBDAddr | setLocalBDAddr | setLinkKeyType | setUnitKey | setEncryption
  | setPinCodeType | setVoice | setPCM | setRadio | setTXPowerOffset | setSleepTimeout
  | coexPerformanceAdjust | setBTFTR | setOSCInfo | setLPOInfo | setPTA | setBLEPTA
  | setInternalPTA1 | setInternalPTA2 | setRFReg100 | reset | setFWSysLog | setSSPDebugMode
  deriving DecidableEq, Repr

def btInitPreloadScript6628 : List HciCommand :=
  [.getLocalBDAddr, .setLocalBDAddr, .setLinkKeyType, .setUnitKey, .setEncryption,
    .setPinCodeType, .setVoice, .setPCM, .setRadio, .setTXPowerOffset, .setSleepTimeout,
    .setBTFTR, .setOSCInfo, .setLPOInfo, .setPTA, .setBLEPTA, .reset, .setInternalPTA1,
    .setInternalPTA2, .setRFReg100, .setFWSysLog]

def btInitPreloadScript6630 : List HciCommand :=
  [.getLocalBDAddr, .setLocalBDAddr, .setPCM, .setRadio, .setTXPowerOffset, .setSleepTimeout,
    .coexPerformanceAdjust, .setFWSysLog, .setSSPDebugMode]

def btInitPreloadScript6632 : List HciCommand :=
  [.getLocalBDAddr, .setLocalBDAddr, .setPCM, .setRadio, .setTXPowerOffset, .setSleepTimeout,
    .reset, .setFWSysLog, .setSSPDebugMode]

def btInitPreloadScriptConsys : List HciCommand :=
  [.setLocalBDAddr, .setRadio, .setTXPowerOffset, .setSleepTimeout, .reset, .setFWSysLog,
    .setSSPDebugMode]

def btInitPostloadScript7662 : List HciCommand :=
  [.setLocalBDAddr, .setRadio, .setTXPowerOffset, .setSleepTimeout, .setFWSysLog]

def consysChips : List Nat :=
  [0x8163, 0x8127, 0x8167, 0x6582, 0x6592, 0x6752, 0x0321, 0x0335, 0x0337, 0x6580, 0x6570, 0x6755,
    0x6797, 0x6757, 0x6759, 0x6763, 0x6758, 0x6739, 0x6771, 0x6775]

/-- The `switch` on the chip id; for 7662 the second assignment of the source wins. -/
def curScript (chipId : Nat) : Option (List HciCommand) :=
  if chipId = 0x6628 then some btInitPreloadScript6628
  else if chipId = 0x6630 then some btInitPreloadScript6630
  else if chipId = 0x6632 then some btInitPreloadScript6632
  else if chipId = 0x7662 then some btInitPostloadScript7662
  else if chipId ∈ consysChips then some btInitPreloadScriptConsys
  else none

/-! ## State -/

/-- `HCI_CMD_STATUS_T`. -/
inductive CmdStatus where
  | success
  | fail
  | pending
  | terminate
  deriving DecidableEq, Repr

/-- Where the worker thread is; the argument is the index `i` into the script. -/
inductive Worker where
  | none
  | start
  /-- before the test of the `while` loop -/
  | loop (i : Nat)
  /-- before the section that marks the command pending -/
  | check (i : Nat)
  /-- before the call of the command function -/
  | send (i : Nat)
  /-- before or in the section that waits for the event -/
  | wait (i : Nat)
  /-- after the loop, with the result for `fwcfg_cb` -/
  | exit (ret : Bool)
  | ended
  deriving DecidableEq, Repr

/-- Where the thread is that enables and disables Bluetooth. -/
inductive Control where
  | idle
  /-- `pthread_create` succeeded, `worker_thread_running` is still to be set -/
  | created
  | enabled
  /-- in `BT_Cleanup`, before `notify_thread_exit` -/
  | notifying
  /-- in `BT_Cleanup`, before `pthread_join` -/
  | joining
  deriving DecidableEq, Repr

structure InitState where
  /-- `cmd_status` -/
  status : CmdStatus
  /-- `worker_thread_running` -/
  running : Bool
  chipId : Nat
  /-- `cur_script` -/
  script : Option (List HciCommand)
  /-- `fgGetEFUSE` -/
  getEFUSE : Bool
  worker : Worker
  control : Control
  /-- `internal_command.cb` is set -/
  internalCb : Bool
  /-- an event callback has begun, with this value of `success` -/
  callback : Option Bool
  deriving DecidableEq, Repr

def InitState.init : InitState :=
  ⟨.success, false, 0, none, false, .none, .idle, false, none⟩

/-- What the loop body asks from its surroundings: the two debug properties and whether the
command buffer is allocated. -/
structure LoopEnv where
  syslogEnabled : Bool
  sspdebugEnabled : Bool
  allocated : Bool
  deriving DecidableEq, Repr

inductive InitAction where
  /-- `BT_InitDevice` up to `pthread_create` and its result -/
  | initDevice (chipId : Nat) (created : Bool)
  /-- the tail of `BT_InitDevice` -/
  | initTail
  /-- `BT_Cleanup` up to the test of `worker_thread_running` -/
  | cleanup
  | notifyThreadExit
  | join
  /-- `dlclose` and `dlopen` of the library -/
  | reload
  /-- the thread up to its loop, with the result of comparing the address with the default -/
  | threadStart (addrDefault : Bool)
  /-- one test of the loop and its body up to the first locked section -/
  | loop (env : LoopEnv)
  | check
  /-- the command function and its result -/
  | send (ret : Bool)
  | wait
  | finish
  /-- `HandleIncomingEvent` matches the pending command and calls its callback -/
  | event (success : Bool)
  /-- the locked section of the callback -/
  | eventLocked
  deriving DecidableEq, Repr

/-! ## Steps -/

/-- `btinit->cur_script[i].command_func`, `none` at the terminator. -/
def InitState.commandFunc (s : InitState) (i : Nat) : Option HciCommand :=
  (s.script.getD [])[i]?

/-- The condition of the `while` loop. -/
def InitState.loopTest (s : InitState) (i : Nat) : Bool :=
  (s.commandFunc i).isSome && decide (s.status ≠ .terminate)

/-- Commands that are only sent when a property asks for them. -/
def LoopEnv.skips (env : LoopEnv) : HciCommand → Bool
  | .setFWSysLog => !env.syslogEnabled
  | .setSSPDebugMode => !env.sspdebugEnabled
  | _ => false

/-- The result computed after the loop. -/
def InitState.exitAt (s : InitState) (i : Nat) : Worker := .exit (s.commandFunc i).isNone

def InitState.startWorker (s : InitState) (addrDefault : Bool) : InitState :=
  let consys := decide (s.chipId ∈ consysChips)
  let getEFUSE := s.getEFUSE || (!consys && addrDefault && (curScript s.chipId).isSome)
  { s with
    script := curScript s.chipId
    getEFUSE := getEFUSE
    worker :=
      if (curScript s.chipId).isNone then .exit false
      else .loop (if consys || getEFUSE then 0 else 1) }

def InitState.loopStep (s : InitState) (i : Nat) (env : LoopEnv) : InitState :=
  match s.commandFunc i with
  | none => { s with worker := s.exitAt i }
  | some c =>
      { s with
        worker :=
          if !s.loopTest i then s.exitAt i
          else if env.skips c then .loop (i + 1)
          else if env.allocated then .check i
          else s.exitAt i }

/-- The section after the event; the thread is blocked while the command is pending. -/
def InitState.waitStep (s : InitState) (i : Nat) : Option InitState :=
  match s.status with
  | .pending => none
  | .success => some { s with worker := .loop (i + 1) }
  | .fail => some { s with worker := s.exitAt i }
  | .terminate => some { s with status := .success, worker := s.exitAt i }

def InitState.step (s : InitState) : InitAction → Option InitState
  | .initDevice chipId created =>
      if s.control = .idle then
        some { s with
          running := false
          chipId := chipId
          script := none
          worker := if created then .start else s.worker
          control := if created then .created else .idle }
      else none
  | .initTail =>
      if s.control = .created then some { s with running := true, control := .enabled } else none
  | .cleanup =>
      if s.control = .idle ∨ s.control = .enabled then
        some { s with control := if s.running then .notifying else .joining }
      else none
  | .notifyThreadExit =>
      if s.control = .notifying then some { s with status := .terminate, control := .joining }
      else none
  | .join =>
      -- without a thread `pthread_join` returns an error at once
      if s.control = .joining ∧ (s.worker = .ended ∨ s.worker = .none) then
        some { s with worker := .none, control := .idle }
      else none
  | .reload =>
      if s.control = .idle ∧ s.callback = none then
        some { s with
          status := .success, running := false, chipId := 0, script := none, getEFUSE := false }
      else none
  | .threadStart addrDefault =>
      if s.worker = .start then some (s.startWorker addrDefault) else none
  | .loop env =>
      match s.worker with
      | .loop i => some (s.loopStep i env)
      | _ => none
  | .check =>
      match s.worker with
      | .check i =>
          if s.status ≠ .terminate then some { s with status := .pending, worker := .send i }
          else some { s with worker := s.exitAt i }
      | _ => none
  | .send ret =>
      match s.worker with
      | .send i =>
          if ret then some { s with internalCb := true, worker := .wait i }
          else some { s with worker := s.exitAt i }
      | _ => none
  | .wait =>
      match s.worker with
      | .wait i => s.waitStep i
      | _ => none
  | .finish =>
      match s.worker with
      | .exit _ => some { s with running := false, worker := .ended }
      | _ => none
  | .event success =>
      if s.internalCb ∧ s.callback = none then
        some { s with internalCb := false, callback := some success }
      else none
  | .eventLocked =>
      match s.callback with
      | some success =>
          some { s with status := if success then .success else .fail, callback := none }
      | none => none

def initSystem : System InitState InitAction := .ofStep .init InitState.step

end Sloane.BtVendor
