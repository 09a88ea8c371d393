import Sloane.Lib.BoundedTable

/-!
# The handler and command tables of the Wi-Fi HAL

Model of `mediatek/wifi/wifi_hal/common.cpp` and of the part of `common.h` it works on: the
`event_cb` and `cmd` arrays of `hal_info` and the functions that register, look up and remove
their entries.

A `WifiCommand` stands for one object made by `new`; `obj` is its identity, which no later object
shares.  The array length with its fill count is a `BoundedTable`, so a table never holds more
than was allocated for it.
-/

namespace Sloane.WifiHal

open Sloane.Lib

/-! ## Constants and data types -/

def DEFAULT_EVENT_CB_SIZE : Nat := 64
def DEFAULT_CMD_SIZE : Nat := 64
def GOOGLE_OUI : Nat := 0x001A11

/-- `NL80211_CMD_VENDOR` of the kernel header. -/
def NL80211_CMD_VENDOR : Int := 103

def WIFI_SUCCESS : Int := 0
def WIFI_ERROR_INVALID_ARGS : Int := -5
def WIFI_ERROR_OUT_OF_MEMORY : Int := -9

/-- `WIFI_VENDOR_EVENT`. -/
inductive VendorEvent where
  | significantChangeResults
  | hotlistResultsFound
  | scanResultsAvailable
  | fullScanResults
  | rttComplete
  | completeScan
  | hotlistResultsLost
  | rssiMonitor
  | epnoEvent
  | anqpoHotspotMatch
  deriving DecidableEq, Repr

/-- The value of the enumerator, as it is stored in `vendor_subcmd`. -/
def VendorEvent.subcmd : VendorEvent → Int
  | .significantChangeResults => 0
  | .hotlistResultsFound => 1
  | .scanResultsAvailable => 2
  | .fullScanResults => 3
  | .rttComplete => 4
  | .completeScan => 5
  | .hotlistResultsLost => 6
  | .rssiMonitor => 7
  | .epnoEvent => 8
  | .anqpoHotspotMatch => 9

theorem VendorEvent.subcmd_injective : Function.Injective VendorEvent.subcmd := by
  intro a b
  cases a <;> cases b <;> decide

/-- The subclasses of `WifiCommand` that register for vendor events. -/
inductive CommandClass where
  | fullScanResults
  | scan
  | bssidHotlist
  | epno
  | significantWifiChange
  | rtt
  | setRSSIMonitor
  | anqpoConfigure
  deriving DecidableEq, Repr

/-- A command object: its identity, its class and the request id given to the constructor. -/
structure WifiCommand where
  obj : Nat
  cls : CommandClass
  mId : Int
  deriving DecidableEq, Repr

/-- The callbacks passed as `nl_recvmsg_msg_cb_t`. -/
inductive MsgCb where
  | eventHandler
  deriving DecidableEq, Repr

structure CbInfo where
  nlCmd : Int
  vendorId : Nat
  vendorSubcmd : Int
  cbFunc : MsgCb
  cbArg : WifiCommand
  deriving DecidableEq, Repr

structure CmdInfo where
  id : Int
  cmd : WifiCommand
  deriving DecidableEq, Repr

/-- `hal_info`, the two tables only. -/
structure HalInfo where
  eventCb : BoundedTable CbInfo DEFAULT_EVENT_CB_SIZE
  cmd : BoundedTable CmdInfo DEFAULT_CMD_SIZE
  deriving DecidableEq

def HalInfo.init : HalInfo := ⟨.empty, .empty⟩

/-! ## Registration and removal -/

def wifiRegisterVendorHandler (info : HalInfo) (id : Nat) (subcmd : Int) (func : MsgCb)
    (arg : WifiCommand) : Int × HalInfo :=
  match info.eventCb.add? ⟨NL80211_CMD_VENDOR, id, subcmd, func, arg⟩ with
  | some t => (WIFI_SUCCESS, { info with eventCb := t })
  | none => (WIFI_ERROR_OUT_OF_MEMORY, info)

def wifiUnregisterVendorHandler (info : HalInfo) (id : Nat) (subcmd : Int) : HalInfo :=
  { info with
    eventCb := info.eventCb.removeFirst fun c =>
      c.nlCmd == NL80211_CMD_VENDOR && c.vendorId == id && c.vendorSubcmd == subcmd }

def wifiRegisterCmd (info : HalInfo) (id : Int) (cmd : WifiCommand) : Int × HalInfo :=
  match info.cmd.add? ⟨id, cmd⟩ with
  | some t => (WIFI_SUCCESS, { info with cmd := t })
  | none => (WIFI_ERROR_OUT_OF_MEMORY, info)

/-- `wifi_unregister_cmd(handle, id)`: the first command stored under the id. -/
def wifiUnregisterCmd (info : HalInfo) (id : Int) : Option WifiCommand × HalInfo :=
  ((info.cmd.entries.find? (·.id == id)).map (·.cmd),
    { info with cmd := info.cmd.removeFirst (·.id == id) })

/-! ## The key under which a handler is looked up -/

structure EventKey where
  nlCmd : Int
  vendorId : Nat
  vendorSubcmd : Int
  deriving DecidableEq, Repr

def CbInfo.key (c : CbInfo) : EventKey := ⟨c.nlCmd, c.vendorId, c.vendorSubcmd⟩

def VendorEvent.key (e : VendorEvent) : EventKey := ⟨NL80211_CMD_VENDOR, GOOGLE_OUI, e.subcmd⟩

theorem VendorEvent.key_injective : Function.Injective VendorEvent.key := fun a b h =>
  VendorEvent.subcmd_injective (by simpa [VendorEvent.key] using h)

/-- The entry that `registerVendorHandler(GOOGLE_OUI, e)` adds for `cmd`. -/
def WifiCommand.handler (cmd : WifiCommand) (e : VendorEvent) : CbInfo :=
  ⟨NL80211_CMD_VENDOR, GOOGLE_OUI, e.subcmd, .eventHandler, cmd⟩

@[simp] theorem WifiCommand.handler_key (cmd : WifiCommand) (e : VendorEvent) :
    (cmd.handler e).key = e.key := rfl

@[simp] theorem WifiCommand.handler_cbArg (cmd : WifiCommand) (e : VendorEvent) :
    (cmd.handler e).cbArg = cmd := rfl

/-- An entry is determined by its key and its owner. -/
theorem CbInfo.eq_of_key_eq {c d : CbInfo} (hk : c.key = d.key) (ha : c.cbArg = d.cbArg) :
    c = d := by
  obtain ⟨cn, cv, cs, cf, ca⟩ := c
  obtain ⟨dn, dv, ds, df, da⟩ := d
  simp only [CbInfo.key, EventKey.mk.injEq] at hk
  obtain ⟨rfl, rfl, rfl⟩ := hk
  cases ha; cases cf; cases df; rfl

/-! ## Several events at once -/

/-- `registerVendorHandler(GOOGLE_OUI, e)` for each event in turn; the results are ignored. -/
def registerAll (cmd : WifiCommand) (es : List VendorEvent) (info : HalInfo) : HalInfo :=
  es.foldl (fun info e => (wifiRegisterVendorHandler info GOOGLE_OUI e.subcmd .eventHandler cmd).2)
    info

/-- `unregisterVendorHandler(GOOGLE_OUI, e)` for each event in turn. -/
def unregisterAll (es : List VendorEvent) (info : HalInfo) : HalInfo :=
  es.foldl (fun info e => wifiUnregisterVendorHandler info GOOGLE_OUI e.subcmd) info

@[simp] theorem registerAll_nil (cmd : WifiCommand) (info : HalInfo) :
    registerAll cmd [] info = info := rfl

@[simp] theorem unregisterAll_nil (info : HalInfo) : unregisterAll [] info = info := rfl

theorem wifiUnregisterVendorHandler_eventCb (info : HalInfo) (e : VendorEvent) :
    (wifiUnregisterVendorHandler info GOOGLE_OUI e.subcmd).eventCb.entries =
      eraseKeys CbInfo.key [e.key] info.eventCb.entries := by
  rw [eraseKeys_cons, eraseKeys_nil, wifiUnregisterVendorHandler,
    BoundedTable.removeFirst_entries]
  congr 1
  funext c
  rw [Bool.eq_iff_iff]
  simp [CbInfo.key, VendorEvent.key, and_assoc]

/-- Unregistering events removes the first handler of each, whoever owns it. -/
theorem unregisterAll_eventCb (es : List VendorEvent) (info : HalInfo) :
    (unregisterAll es info).eventCb.entries =
      eraseKeys CbInfo.key (es.map VendorEvent.key) info.eventCb.entries := by
  induction es generalizing info with
  | nil => rfl
  | cons e es ih =>
    have hstep : unregisterAll (e :: es) info =
        unregisterAll es (wifiUnregisterVendorHandler info GOOGLE_OUI e.subcmd) := rfl
    rw [hstep, ih, wifiUnregisterVendorHandler_eventCb, List.map_cons]
    rfl

@[simp] theorem unregisterAll_cmd (es : List VendorEvent) (info : HalInfo) :
    (unregisterAll es info).cmd = info.cmd := by
  induction es generalizing info with
  | nil => rfl
  | cons e es ih => exact ih _

@[simp] theorem wifiRegisterVendorHandler_cmd (info : HalInfo) (id : Nat) (subcmd : Int)
    (func : MsgCb) (arg : WifiCommand) :
    (wifiRegisterVendorHandler info id subcmd func arg).2.cmd = info.cmd := by
  unfold wifiRegisterVendorHandler
  split <;> rfl

@[simp] theorem registerAll_cmd (cmd : WifiCommand) (es : List VendorEvent) (info : HalInfo) :
    (registerAll cmd es info).cmd = info.cmd := by
  induction es generalizing info with
  | nil => rfl
  | cons e es ih => exact (ih _).trans (wifiRegisterVendorHandler_cmd ..)

/-- Registering events appends their handlers as far as there is room, and drops the rest. -/
theorem registerAll_eventCb (cmd : WifiCommand) (es : List VendorEvent) (info : HalInfo) :
    (registerAll cmd es info).eventCb.entries = info.eventCb.entries ++
      (es.take (DEFAULT_EVENT_CB_SIZE - info.eventCb.entries.length)).map cmd.handler := by
  induction es generalizing info with
  | nil => simp
  | cons e es ih =>
    have hstep : registerAll cmd (e :: es) info = registerAll cmd es
        (wifiRegisterVendorHandler info GOOGLE_OUI e.subcmd .eventHandler cmd).2 := rfl
    rw [hstep, ih]
    unfold wifiRegisterVendorHandler
    split
    · rename_i t ht
      obtain ⟨hroom, hentries⟩ := BoundedTable.add?_eq_some.mp ht
      obtain ⟨k, hk⟩ : ∃ k, DEFAULT_EVENT_CB_SIZE - info.eventCb.entries.length = k + 1 :=
        ⟨_, (Nat.succ_pred_eq_of_pos (by omega)).symm⟩
      have hk' : DEFAULT_EVENT_CB_SIZE - (info.eventCb.entries.length + 1) = k := by omega
      simp [hentries, hk, hk', WifiCommand.handler]
    · rename_i hfull
      have := BoundedTable.add?_eq_none.mp hfull
      simp [this]

end Sloane.WifiHal
