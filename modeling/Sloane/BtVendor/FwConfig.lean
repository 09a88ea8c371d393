import Mathlib.Algebra.Group.Nat.Defs
import Sloane.BtVendor.InitThread

/-!
# Firmware configuration, from the HAL to the controller and back

Model of one `BT_VND_OP_FW_CFG` call: `mtk_fw_cfg` and `BT_InitDevice`, the thread
`GORM_FW_Init_Thread` with its command functions, `transmit_cb` and `HandleIncomingEvent` of
`VendorInterface`, and the callbacks that end a command.  The three parties are the thread, the
watcher thread that handles the controller's events, and the one that may call
`notify_thread_exit`; a step is one access to what they share (`wOpCode`, `cmd_status`,
`internal_command`).

The vendor callbacks are registered from `init` until the thread has been joined, so the tests of
`bt_vnd_cbacks` always succeed here.  Of a command only its opcode is kept, of the NVRAM record
only what decides the course of the thread.

* `mtkFwCfg` — the values that `BT_InitDevice` is called with, if it is.
* `FwState.step` — one step of the system; `history` records what reaches the controller and the
  stack.
* `event_case`, `worker_case` — all that a step of either thread can do.
-/

namespace Sloane.BtVendor

open Sloane.Lib

/-! ## Before the thread -/

def ULONG_MAX : Nat := 2 ^ 64 - 1

/-- The value of a hexadecimal digit. -/
def hexDigit (c : Char) : Option Nat :=
  if '0' ≤ c ∧ c ≤ '9' then some (c.toNat - '0'.toNat)
  else if 'a' ≤ c ∧ c ≤ 'f' then some (c.toNat - 'a'.toNat + 10)
  else if 'A' ≤ c ∧ c ≤ 'F' then some (c.toNat - 'A'.toNat + 10)
  else none

/-- Read digits until one is not hexadecimal. -/
def readHex (n : Nat) : List Char → Nat
  | [] => n
  | c :: cs =>
      match hexDigit c with
      | some d => readHex (16 * n + d) cs
      | none => n

/-- Skip a `0x` that a digit follows. -/
def skipHexMark : List Char → List Char
  | '0' :: x :: c :: cs =>
      if (x = 'x' ∨ x = 'X') ∧ (hexDigit c).isSome then c :: cs else '0' :: x :: c :: cs
  | cs => cs

/-- `strtoul(val, NULL, 16)`. -/
def strtoul16 (val : String) : Nat :=
  let cs := val.toList.dropWhile Char.isWhitespace
  let negative := cs.head? = some '-'
  let digits := if negative ∨ cs.head? = some '+' then cs.tail else cs
  let n := readHex 0 (skipHexMark digits)
  if ULONG_MAX < n then ULONG_MAX
  else if negative then (ULONG_MAX + 1 - n) % (ULONG_MAX + 1) else n

/-- Read a property up to ten times, until it is as wanted; an unset property reads as empty. -/
def pollProperty (ok : String → Bool) (reads : Nat → String) : Option String :=
  ((List.range 10).map reads).find? ok

/-- `bt_get_combo_id`, given what `persist.mtk.wcn.combo.chipid` reads as each time. -/
def btGetComboId (reads : Nat → String) : Option Nat :=
  (pollProperty (fun val => decide (val ≠ "" ∧ val ≠ "-1")) reads).map
    fun val => strtoul16 val % 2 ^ 32

/-- `ap_nvram_btradio_struct` as bytes. -/
structure NvRamData where
  raw : List UInt8
  size : raw.length = 64
  deriving DecidableEq, Repr

/-- The first field of the record. -/
def NvRamData.addr (d : NvRamData) : List UInt8 := d.raw.take 6

def isMemzero (buf : List UInt8) : Bool := buf.all (· = 0)

/-- What `bt_read_nvram` meets: `service.nvram_init` each time it is read, what `NVM_GetFileDesc`
and `read` return, and the record. -/
structure NvramEnv where
  initReads : Nat → String
  iFileDesc : Int
  recNum : Int
  recSize : Int
  readRet : Int
  record : NvRamData

def btReadNvram (env : NvramEnv) : Option NvRamData :=
  if (pollProperty (· = "Ready") env.initReads).isNone then none
  else if env.iFileDesc < 0 then none
  else if env.recNum ≠ 1 then none
  else if env.recSize ≠ 64 then none
  else if env.readRet < 0 then none
  else some env.record

/-- The address in the default record of a chip. -/
def stBtDefaultAddr (chipId : Nat) : Option (List UInt8) :=
  if chipId = 0x6628 then some [0x00, 0x00, 0x46, 0x66, 0x28, 0x01]
  else if chipId = 0x6630 then some [0x00, 0x00, 0x46, 0x66, 0x30, 0x01]
  else if chipId = 0x6632 then some [0x00, 0x00, 0x46, 0x66, 0x32, 0x01]
  else if chipId = 0x7662 then some [0x00, 0x00, 0x46, 0x66, 0x28, 0x01]
  else if chipId ∈ consysChips then some [0x00, 0x00, 0x46, 0x00, 0x00, 0x01]
  else none

/-- All that one call meets: properties, NVRAM, and the result of `pthread_create`. -/
structure FwCfgEnv where
  chipidReads : Nat → String
  nvram : NvramEnv
  created : Bool
  /-- `persist.bt.syslog.enable` -/
  syslogVal : String
  /-- `persist.bt.sspdebug.enable` -/
  sspdebugVal : String

/-- `mtk_fw_cfg`: the chip id and the address that `BT_InitDevice` is called with; `none` where it
returns early. -/
def mtkFwCfg (env : FwCfgEnv) : Option (Nat × List UInt8) :=
  match btGetComboId env.chipidReads with
  | none => none
  | some chipId =>
      match (btReadNvram env.nvram).filter fun d => !isMemzero d.raw with
      | some d => some (chipId, d.addr)
      | none => (stBtDefaultAddr chipId).map fun addr => (chipId, addr)

/-! ## Commands and events -/

/-- The value that each command function gives `wOpCode`. -/
def HciCommand.wOpCode : HciCommand → Nat
  | .getLocalBDAddr => 0x1009
  | .setLocalBDAddr => 0xFC1A
  | .setLinkKeyType => 0xFC1B
  | .setUnitKey => 0xFC75
  | .setEncryption => 0xFC76
  | .setPinCodeType => 0x0C0A
  | .setVoice => 0x0C26
  | .setPCM => 0xFC72
  | .setRadio => 0xFC79
  | .setTXPowerOffset => 0xFC93
  | .setSleepTimeout => 0xFC7A
  | .coexPerformanceAdjust => 0xFC22
  | .setBTFTR => 0xFC7D
  | .setOSCInfo => 0xFC7B
  | .setLPOInfo => 0xFC7C
  | .setPTA => 0xFC74
  | .setBLEPTA => 0xFCFC
  | .setInternalPTA1 => 0xFCFB
  | .setInternalPTA2 => 0xFCFB
  | .setRFReg100 => 0xFCB0
  | .reset => 0x0C03
  | .setFWSysLog => 0xFCBE
  | .setSSPDebugMode => 0x1804

def HCI_COMMAND_COMPLETE_EVENT : UInt8 := 0x0E

/-- An event packet; a Command Complete event reaches up to its status. -/
structure HciEvent where
  packet : List UInt8
  nonempty : packet ≠ []
  complete : packet.head? = some HCI_COMMAND_COMPLETE_EVENT → 6 ≤ packet.length
  deriving DecidableEq, Repr

def HciEvent.eventCode (ev : HciEvent) : UInt8 := ev.packet.getD 0 0

def HciEvent.opcode (ev : HciEvent) : Nat :=
  (ev.packet.getD 3 0).toNat + (ev.packet.getD 4 0).toNat * 2 ^ 8

def HciEvent.status (ev : HciEvent) : UInt8 := ev.packet.getD 5 0

/-- What `internal_command.cb` may point to. -/
inductive TIntCmdCback where
  | getLocalBDAddr
  | commonComplete
  /-- a function of the library as it was loaded by an earlier `Open` -/
  | unloaded
  deriving DecidableEq, Repr

/-- The callback that each command function gives `xmit_cb`. -/
def HciCommand.callback : HciCommand → TIntCmdCback
  | .getLocalBDAddr => .getLocalBDAddr
  | _ => .commonComplete

/-! ## State -/

/-- Where `GORM_FW_Init_Thread` is; the argument is the index `i` into the script. -/
inductive FwWorker where
  /-- there is no thread -/
  | absent
  | start
  /-- before the test of the `while` loop -/
  | loop (i : Nat)
  /-- before the section that marks the command pending -/
  | check (i : Nat)
  /-- in the command function, before it sets `wOpCode` -/
  | setOpCode (i : Nat)
  /-- in `transmit_cb`, before each of its two assignments and before `Send` -/
  | setCb (i : Nat)
  | setOpcode (i : Nat)
  | send (i : Nat)
  /-- before or in the section that waits for the event -/
  | wait (i : Nat)
  /-- after the loop, with the result for `fwcfg_cb` -/
  | exit (ret : Bool)
  | ended
  deriving DecidableEq, Repr

/-- Where the thread is that handles events. -/
inductive Dispatch where
  | idle
  /-- `internal_command.cb` is set -/
  | checking (ev : HciEvent)
  /-- the event matches -/
  | matched (ev : HciEvent)
  /-- in the callback, before it reads `wOpCode` -/
  | callback (cb : TIntCmdCback) (ev : HciEvent)
  /-- in the callback, before its locked section -/
  | locking (success : Bool)
  /-- the process has died in a callback that is no longer there -/
  | crashed (ev : HciEvent)
  deriving DecidableEq, Repr

inductive FwEvent where
  /-- `hci_->Send` -/
  | sent (c : HciCommand)
  /-- an event is taken for the pending command -/
  | answered (ev : HciEvent)
  /-- an event is passed to `event_cb_` -/
  | passed (ev : HciEvent)
  | fwcfgCb (success : Bool)
  | initializeComplete (success : Bool)
  deriving DecidableEq, Repr

structure FwState where
  chipId : Nat
  /-- `bt_nvram.fields.addr` when the thread starts -/
  addr : List UInt8
  /-- `cur_script` -/
  script : Option (List HciCommand)
  /-- `cmd_status` -/
  status : CmdStatus
  wOpCode : Nat
  /-- `fgGetEFUSE` -/
  getEFUSE : Bool
  worker : FwWorker
  internalCb : Option TIntCmdCback
  internalOpcode : Nat
  dispatch : Dispatch
  /-- `initialize_complete_cb_` is set -/
  initializeCompleteCb : Bool
  history : List FwEvent

/-- What the variables hold from before the call: those of the library and `internal_command`. -/
structure Leftover where
  status : CmdStatus
  wOpCode : Nat
  getEFUSE : Bool
  /-- an earlier command was never answered -/
  unanswered : Bool
  internalOpcode : Nat
  deriving DecidableEq, Repr

/-- `Open` after the call; `BT_InitDevice` ends with `pthread_create`. -/
def FwState.open (env : FwCfgEnv) (left : Leftover) : FwState :=
  let s : FwState :=
    { chipId := 0
      addr := []
      script := none
      status := left.status
      wOpCode := left.wOpCode
      getEFUSE := left.getEFUSE
      worker := .absent
      internalCb := if left.unanswered then some .unloaded else none
      internalOpcode := left.internalOpcode
      dispatch := .idle
      initializeCompleteCb := true
      history := [] }
  match mtkFwCfg env with
  | some (chipId, addr) =>
      { s with chipId := chipId, addr := addr, worker := if env.created then .start else .absent }
  | none => s

inductive FwAct where
  /-- the thread up to its loop -/
  | threadStart
  /-- one test of the loop and its body up to the first locked section -/
  | loop (allocated : Bool)
  | check
  /-- the next access of the command function -/
  | command
  | wait
  | finish
  | notifyThreadExit
  /-- `HandleIncomingEvent` is called -/
  | incoming (ev : HciEvent)
  /-- the next access of `HandleIncomingEvent` or of the callback -/
  | dispatch
  deriving DecidableEq, Repr

/-! ## Steps -/

/-- `btinit->cur_script[i].command_func`, `none` at the terminator. -/
def FwState.commandFunc (s : FwState) (i : Nat) : Option HciCommand := (s.script.getD [])[i]?

def FwState.exitAt (s : FwState) (i : Nat) : FwWorker := .exit (s.commandFunc i).isNone

/-- Commands that are only sent when a property asks for them. -/
def FwCfgEnv.skips (env : FwCfgEnv) : HciCommand → Bool :=
  LoopEnv.skips ⟨env.syslogVal = "1", env.sspdebugVal = "1", true⟩

/-- The address is the default one or zero. -/
def addrUnset (chipId : Nat) (addr : List UInt8) : Bool :=
  stBtDefaultAddr chipId = some addr || isMemzero addr

/-- The first index of the loop. -/
def startIndex (chipId : Nat) (addr : List UInt8) (getEFUSE : Bool) : Nat :=
  if chipId ∈ consysChips ∨ getEFUSE ∨ addrUnset chipId addr then 0 else 1

def FwState.threadStart (s : FwState) : FwState :=
  match curScript s.chipId with
  | none => { s with script := none, worker := .exit false }
  | some script =>
      { s with
        script := some script
        getEFUSE := s.getEFUSE || (s.chipId ∉ consysChips && addrUnset s.chipId s.addr)
        worker := .loop (startIndex s.chipId s.addr s.getEFUSE) }

def FwState.loopStep (s : FwState) (env : FwCfgEnv) (i : Nat) (allocated : Bool) : FwState :=
  match s.commandFunc i with
  | none => { s with worker := s.exitAt i }
  | some c =>
      { s with
        worker :=
          if s.status = .terminate then s.exitAt i
          else if env.skips c then .loop (i + 1)
          else if allocated then .check i
          else s.exitAt i }

/-- The command function and `transmit_cb`, one access after the other. -/
def FwState.commandStep (s : FwState) : Option FwState :=
  match s.worker with
  | .setOpCode i => (s.commandFunc i).map fun c =>
      { s with
        wOpCode := c.wOpCode
        getEFUSE := if c = .setLocalBDAddr then false else s.getEFUSE
        worker := .setCb i }
  | .setCb i => (s.commandFunc i).map fun c =>
      { s with internalCb := some c.callback, worker := .setOpcode i }
  | .setOpcode i => some { s with internalOpcode := s.wOpCode, worker := .send i }
  | .send i => (s.commandFunc i).map fun c =>
      { s with worker := .wait i, history := s.history ++ [.sent c] }
  | _ => none

/-- The section after the event; the thread is blocked while the command is pending. -/
def FwState.waitStep (s : FwState) (i : Nat) : Option FwState :=
  match s.status with
  | .pending => none
  | .success => some { s with worker := .loop (i + 1) }
  | .fail => some { s with worker := s.exitAt i }
  | .terminate => some { s with status := .success, worker := s.exitAt i }

/-- `OnFirmwareConfigured`, called by `fwcfg_cb`. -/
def FwState.onFirmwareConfigured (s : FwState) (success : Bool) : FwState :=
  if s.initializeCompleteCb then
    { s with
      initializeCompleteCb := false
      history := s.history ++ [.fwcfgCb success, .initializeComplete success] }
  else { s with history := s.history ++ [.fwcfgCb success] }

def FwState.internalCommandEventMatch (s : FwState) (ev : HciEvent) : Bool :=
  ev.eventCode = HCI_COMMAND_COMPLETE_EVENT && ev.opcode = s.internalOpcode

/-- `success` in the callbacks; one of them compares with a constant. -/
def FwState.callbackSuccess (s : FwState) (cb : TIntCmdCback) (ev : HciEvent) : Bool :=
  ev.eventCode = 0x0E && ev.opcode = (if cb = .getLocalBDAddr then 0x1009 else s.wOpCode) &&
    ev.status = 0

/-- `HandleIncomingEvent` and the callback, one access after the other. -/
def FwState.dispatchStep (s : FwState) : Option FwState :=
  match s.dispatch with
  | .checking ev =>
      if s.internalCommandEventMatch ev then some { s with dispatch := .matched ev }
      else some { s with dispatch := .idle, history := s.history ++ [.passed ev] }
  | .matched ev =>
      match s.internalCb with
      | some .unloaded | none => some { s with internalCb := none, dispatch := .crashed ev }
      | some cb =>
          some { s with
            internalCb := none
            dispatch := .callback cb ev
            history := s.history ++ [.answered ev] }
  | .callback cb ev => some { s with dispatch := .locking (s.callbackSuccess cb ev) }
  | .locking success =>
      some { s with status := if success then .success else .fail, dispatch := .idle }
  | .idle | .crashed _ => none

def Dispatch.alive : Dispatch → Bool
  | .crashed _ => false
  | _ => true

def FwState.next (s : FwState) (env : FwCfgEnv) : FwAct → Option FwState
  | .threadStart => if s.worker = .start then some s.threadStart else none
  | .loop allocated =>
      match s.worker with
      | .loop i => some (s.loopStep env i allocated)
      | _ => none
  | .check =>
      match s.worker with
      | .check i =>
          if s.status ≠ .terminate then some { s with status := .pending, worker := .setOpCode i }
          else some { s with worker := s.exitAt i }
      | _ => none
  | .command => s.commandStep
  | .wait =>
      match s.worker with
      | .wait i => s.waitStep i
      | _ => none
  | .finish =>
      match s.worker with
      | .exit ret => some { s.onFirmwareConfigured ret with worker := .ended }
      | _ => none
  | .notifyThreadExit => some { s with status := .terminate }
  | .incoming ev =>
      if s.dispatch = .idle then
        match s.internalCb with
        | some _ => some { s with dispatch := .checking ev }
        | none => some { s with history := s.history ++ [.passed ev] }
      else none
  | .dispatch => s.dispatchStep

def FwState.step (env : FwCfgEnv) (s : FwState) (a : FwAct) : Option FwState :=
  if s.dispatch.alive then s.next env a else none

/-- The system of one call. -/
def fwInit (env : FwCfgEnv) (left : Leftover) : System FwState FwAct :=
  .ofStep (.open env left) (FwState.step env)

/-! ## What a step can do -/

theorem next_of_step {s t : FwState} {env : FwCfgEnv} {a : FwAct} (h : s.step env a = some t) :
    s.next env a = some t := by
  unfold FwState.step at h
  split at h
  · exact h
  · cases h

/-- A step of the thread that handles events. -/
def FwAct.isEvent : FwAct → Bool
  | .incoming _ | .dispatch => true
  | _ => false

def FwAct.incoming? : FwAct → Option HciEvent
  | .incoming ev => some ev
  | _ => none

/-- The steps of that thread; `evs` are the events that come in. -/
inductive EventCase (s : FwState) : List HciEvent → FwState → Prop
  | expected {ev cb} : s.dispatch = .idle → s.internalCb = some cb →
      EventCase s [ev] { s with dispatch := .checking ev }
  | unexpected {ev} : s.dispatch = .idle → s.internalCb = none →
      EventCase s [ev] { s with history := s.history ++ [.passed ev] }
  | matched {ev} : s.dispatch = .checking ev →
      EventCase s [] { s with dispatch := .matched ev }
  | passed {ev} : s.dispatch = .checking ev →
      EventCase s [] { s with dispatch := .idle, history := s.history ++ [.passed ev] }
  | crashed {ev} : s.dispatch = .matched ev →
      (s.internalCb = none ∨ s.internalCb = some .unloaded) →
      EventCase s [] { s with internalCb := none, dispatch := .crashed ev }
  | taken {ev cb} : s.dispatch = .matched ev → s.internalCb = some cb → cb ≠ .unloaded →
      EventCase s [] { s with
        internalCb := none
        dispatch := .callback cb ev
        history := s.history ++ [.answered ev] }
  | judged {cb ev} : s.dispatch = .callback cb ev →
      EventCase s [] { s with dispatch := .locking (s.callbackSuccess cb ev) }
  | told {success} : s.dispatch = .locking success →
      EventCase s [] { s with
        status := if success then .success else .fail
        dispatch := .idle }

theorem event_case {s t : FwState} {env : FwCfgEnv} {a : FwAct} (ha : a.isEvent = true)
    (h : s.next env a = some t) : EventCase s a.incoming?.toList t := by
  cases a with
  | incoming ev =>
    simp only [FwState.next] at h
    split at h
    · rename_i hidle
      split at h <;> cases h
      · rename_i hcb
        exact .expected hidle hcb
      · rename_i hcb
        exact .unexpected hidle hcb
    · cases h
  | dispatch =>
    simp only [FwState.next, FwState.dispatchStep] at h
    split at h
    · rename_i hpc
      split at h <;> cases h
      · exact .matched hpc
      · exact .passed hpc
    · rename_i hpc
      split at h <;> cases h
      · rename_i hcb
        exact .crashed hpc (.inr hcb)
      · rename_i hcb
        exact .crashed hpc (.inl hcb)
      · rename_i hne hcb
        exact .taken hpc hcb fun heq => hne heq
    · rename_i hpc
      cases h
      exact .judged hpc
    · rename_i hpc
      cases h
      exact .told hpc
    · cases h
    · cases h
  | _ => cases ha

section EventCase

variable {s t : FwState} {evs : List HciEvent} (h : EventCase s evs t)
include h

theorem EventCase.of_callback {cb : TIntCmdCback} {ev : HciEvent}
    (hpc : s.dispatch = .callback cb ev) :
    t = { s with dispatch := .locking (s.callbackSuccess cb ev) } := by
  cases h with
  | judged hpc' =>
    rw [hpc] at hpc'
    cases hpc'
    rfl
  | expected hpc' | unexpected hpc' | matched hpc' | passed hpc' | crashed hpc' | taken hpc'
  | told hpc' =>
    rw [hpc] at hpc'
    cases hpc'

theorem EventCase.of_locking {success : Bool} (hpc : s.dispatch = .locking success) :
    t = { s with status := if success then .success else .fail, dispatch := .idle } := by
  cases h with
  | told hpc' =>
    rw [hpc] at hpc'
    cases hpc'
    rfl
  | expected hpc' | unexpected hpc' | matched hpc' | passed hpc' | crashed hpc' | taken hpc'
  | judged hpc' =>
    rw [hpc] at hpc'
    cases hpc'

theorem EventCase.of_idle (hpc : s.dispatch = .idle) (hcb : s.internalCb = none) :
    ∃ ev, t = { s with history := s.history ++ [.passed ev] } := by
  cases h with
  | @unexpected ev => exact ⟨ev, rfl⟩
  | expected _ hsome =>
    rw [hcb] at hsome
    cases hsome
  | matched hpc' | passed hpc' | crashed hpc' | taken hpc' | judged hpc' | told hpc' =>
    rw [hpc] at hpc'
    cases hpc'

end EventCase

/-- The steps of the thread, and `notify_thread_exit`. -/
inductive WorkerCase (s : FwState) (env : FwCfgEnv) : FwState → Prop
  | threadStart : s.worker = .start → WorkerCase s env s.threadStart
  | loop {i allocated} : s.worker = .loop i → WorkerCase s env (s.loopStep env i allocated)
  | pend {i} : s.worker = .check i →
      WorkerCase s env { s with status := .pending, worker := .setOpCode i }
  | giveUp {i} : s.worker = .check i → WorkerCase s env { s with worker := s.exitAt i }
  | setOpCode {i c} : s.worker = .setOpCode i → s.commandFunc i = some c →
      WorkerCase s env { s with
        wOpCode := c.wOpCode
        getEFUSE := if c = .setLocalBDAddr then false else s.getEFUSE
        worker := .setCb i }
  | setCb {i c} : s.worker = .setCb i → s.commandFunc i = some c →
      WorkerCase s env { s with internalCb := some c.callback, worker := .setOpcode i }
  | setOpcode {i} : s.worker = .setOpcode i →
      WorkerCase s env { s with internalOpcode := s.wOpCode, worker := .send i }
  | send {i c} : s.worker = .send i → s.commandFunc i = some c →
      WorkerCase s env { s with worker := .wait i, history := s.history ++ [.sent c] }
  | answered {i} : s.worker = .wait i → s.status = .success →
      WorkerCase s env { s with worker := .loop (i + 1) }
  | refused {i} : s.worker = .wait i → WorkerCase s env { s with worker := s.exitAt i }
  | terminated {i} : s.worker = .wait i →
      WorkerCase s env { s with status := .success, worker := s.exitAt i }
  | finish {ret} : s.worker = .exit ret →
      WorkerCase s env { s.onFirmwareConfigured ret with worker := .ended }
  | notifyThreadExit : WorkerCase s env { s with status := .terminate }

theorem commandStep_case {s t : FwState} {env : FwCfgEnv} (h : s.commandStep = some t) :
    WorkerCase s env t := by
  unfold FwState.commandStep at h
  split at h
  · rename_i hpc
    obtain ⟨c, hc, rfl⟩ := Option.map_eq_some_iff.mp h
    exact .setOpCode hpc hc
  · rename_i hpc
    obtain ⟨c, hc, rfl⟩ := Option.map_eq_some_iff.mp h
    exact .setCb hpc hc
  · rename_i hpc
    cases h
    exact .setOpcode hpc
  · rename_i hpc
    obtain ⟨c, hc, rfl⟩ := Option.map_eq_some_iff.mp h
    exact .send hpc hc
  · cases h

theorem waitStep_case {s t : FwState} {env : FwCfgEnv} {i : Nat} (hpc : s.worker = .wait i)
    (h : s.waitStep i = some t) : WorkerCase s env t := by
  unfold FwState.waitStep at h
  split at h
  · cases h
  · rename_i hstatus
    cases h
    exact .answered hpc hstatus
  · cases h
    exact .refused hpc
  · cases h
    exact .terminated hpc

theorem worker_case {s t : FwState} {env : FwCfgEnv} {a : FwAct} (ha : a.isEvent = false)
    (h : s.next env a = some t) : WorkerCase s env t := by
  cases a with
  | threadStart =>
    simp only [FwState.next, Option.ite_none_right_eq_some, Option.some.injEq] at h
    obtain ⟨hpc, rfl⟩ := h
    exact .threadStart hpc
  | loop allocated =>
    simp only [FwState.next] at h
    split at h <;> cases h
    rename_i hpc
    exact .loop hpc
  | check =>
    simp only [FwState.next] at h
    split at h
    · rename_i hpc
      split at h <;> cases h
      · exact .pend hpc
      · exact .giveUp hpc
    · cases h
  | command => exact commandStep_case h
  | wait =>
    simp only [FwState.next] at h
    split at h
    · rename_i hpc
      exact waitStep_case hpc h
    · cases h
  | finish =>
    simp only [FwState.next] at h
    split at h <;> cases h
    rename_i hpc
    exact .finish hpc
  | notifyThreadExit =>
    cases h
    exact .notifyThreadExit
  | incoming ev => cases ha
  | dispatch => cases ha

end Sloane.BtVendor
