import Sloane.BtVendor.FwConfig
import Sloane.Hci.H4Protocol
import Sloane.Lib.Reads

/-!
# Reading a Command Complete event

`HandleIncomingEvent` once more, now with the bytes of the event and the offsets at which they are
read: by `internal_command_event_match` in the packet itself, and by the callback of the library
in the copy that `WrapPacketAndCopy` makes.  What lies behind either buffer is arbitrary.

* `eventMatch_spec`, `commonComplete_spec`, `getLocalBDAddr_spec` — what each function returns, and
  where it looks.
* `handleIncomingEvent_case` — the three ways an event goes.
* `readInBounds_iff` — an event is read in bounds, and writes no address it does not carry, exactly
  when it fits the pending command.
* `handleIncomingEvent_congr` — an event that fits is handled by its bytes alone.
-/

namespace Sloane.BtVendor

open Sloane.Lib Sloane.Hci

/-! ## The functions -/

/-- `internal_command`. -/
structure InternalCommand where
  cb : Option TIntCmdCback
  opcode : Nat
  deriving DecidableEq, Repr

def STREAM_TO_UINT16 (i : Nat) : Reads UInt8 Nat := do
  let lo ← Reads.read i
  let hi ← Reads.read (i + 1)
  return lo.toNat + (hi.toNat <<< 8)

/-- `internal_command_event_match`, over the data of the packet. -/
def internalCommandEventMatch (opcode : Nat) : Reads UInt8 Bool := do
  let eventCode ← Reads.read 0
  if eventCode ≠ HCI_COMMAND_COMPLETE_EVENT then
    return false
  else
    let opcodeOffset := HCI_EVENT_PREAMBLE_SIZE + 1
    let lo ← Reads.read opcodeOffset
    let hi ← Reads.read (opcodeOffset + 1)
    return (lo.toNat ||| hi.toNat <<< 8) = opcode

/-- `HC_BT_HDR`, with the memory that begins at its `data`. -/
structure HcBtHdr where
  event : Nat
  len : Nat
  offset : Nat
  layerSpecific : Nat
  data : Mem UInt8

/-- `WrapPacketAndCopy`; `heap` is what the new buffer and the memory behind it hold. -/
def wrapPacketAndCopy (heap : Mem UInt8) (event : Nat) (packet : HidlVec) : HcBtHdr where
  event := event
  len := packet.size % 2 ^ 16
  offset := 0
  layerSpecific := 0
  data := heap.write 0 packet.toList

/-- `GORMevt_HCE_Common_Complete`, up to its locked section: whether the command succeeded. -/
def gormevtHCECommonComplete (wOpCode : Nat) : Reads UInt8 Bool := do
  let event ← Reads.read 0
  let opcode ← STREAM_TO_UINT16 3
  let status ← Reads.read 5
  return event = 0x0E && opcode = wOpCode && status = 0

/-- `GORMevt_HCE_Get_Local_BD_Addr`, up to its locked section: whether the command succeeded, and
the address for `bt_nvram.fields.addr`. -/
def gormevtHCEGetLocalBDAddr : Reads UInt8 (Bool × List UInt8) := do
  let event ← Reads.read 0
  let opcode ← STREAM_TO_UINT16 3
  let status ← Reads.read 5
  let success := event = 0x0E && opcode = 0x1009 && status = 0
  let addr5 ← Reads.read 6
  let addr4 ← Reads.read 7
  let addr3 ← Reads.read 8
  let addr2 ← Reads.read 9
  let addr1 ← Reads.read 10
  let addr0 ← Reads.read 11
  return (success, [addr0, addr1, addr2, addr3, addr4, addr5])

/-- The variables of both sides that an event may change. -/
structure EventState where
  internalCommand : InternalCommand
  wOpCode : Nat
  cmdStatus : CmdStatus
  /-- `btinit->bt_nvram.fields.addr` -/
  bdAddr : List UInt8
  deriving DecidableEq, Repr

/-- What handling one event has done. -/
structure Handling where
  state : EventState
  /-- `event_cb_` was called -/
  passed : Bool
  /-- the offsets in the packet that `internal_command_event_match` read -/
  packetReads : List Nat
  /-- the offsets in the copied data that the callback read -/
  copyReads : List Nat
  /-- what `memcpy` wrote to `bt_nvram.fields.addr` -/
  addrWritten : Option (List UInt8)
  deriving DecidableEq, Repr

/-- The callback, which was taken out of `internal_command` before. -/
def savedCb (s : EventState) (hdr : HcBtHdr) (packetReads : List Nat) : TIntCmdCback → Handling
  | .commonComplete =>
      let evt := gormevtHCECommonComplete s.wOpCode
      ⟨{ s with cmdStatus := if evt.value hdr.data then .success else .fail }, false, packetReads,
        evt.offsets hdr.data, none⟩
  | .getLocalBDAddr =>
      let evt := gormevtHCEGetLocalBDAddr
      let (success, addr) := evt.value hdr.data
      ⟨{ s with cmdStatus := if success then .success else .fail, bdAddr := addr }, false,
        packetReads, evt.offsets hdr.data, some addr⟩
  | .unloaded => ⟨s, false, packetReads, [], none⟩

/-- `HandleIncomingEvent`. -/
def handleIncomingEvent (heap : Mem UInt8) (s : EventState) (packet : HidlVec) : Handling :=
  match s.internalCommand.cb with
  | none => ⟨s, true, [], [], none⟩
  | some cb =>
      let evt := internalCommandEventMatch s.internalCommand.opcode
      if evt.value packet.data then
        let btHdr := wrapPacketAndCopy heap HciPacketType.event.code.toNat packet
        savedCb { s with internalCommand := { s.internalCommand with cb := none } } btHdr
          (evt.offsets packet.data) cb
      else ⟨s, true, evt.offsets packet.data, [], none⟩

/-! ## Events and pending commands -/

/-- `internal_command` after `transmit_cb` for the command, or with no command pending. -/
def InternalCommand.Pending (i : InternalCommand) (pending : Option HciCommand) : Prop :=
  i.cb = pending.map HciCommand.callback ∧ ∀ c ∈ pending, i.opcode = c.wOpCode

/-- The length of a Command Complete event with all that the callback of the command reads. -/
def HciCommand.completeSize (c : HciCommand) : Nat :=
  match c.callback with
  | .getLocalBDAddr => 12
  | _ => 6

def eventByte (p : HciPacket) (i : Nat) : UInt8 := p.bytes.getD i 0

def eventOpcode (p : HciPacket) : Nat := (eventByte p 3).toNat + (eventByte p 4).toNat <<< 8

/-- A Command Complete event for `Get_Local_BD_Addr` that reports a success and has an address. -/
structure CarriesAddr (p : HciPacket) (addr : List UInt8) : Prop where
  event : eventByte p 0 = HCI_COMMAND_COMPLETE_EVENT
  opcode : eventOpcode p = HciCommand.getLocalBDAddr.wOpCode
  status : eventByte p 5 = 0
  size : 12 ≤ p.bytes.length
  addr : addr = ((p.bytes.drop 6).take 6).reverse

/-- What is asked of the handling of an event. -/
structure ReadInBounds (p : HciPacket) (pending : Option HciCommand) (r : Handling) : Prop where
  packetReads : ∀ i ∈ r.packetReads, i < p.bytes.length
  copyReads : ∀ i ∈ r.copyReads, i < p.bytes.length
  /-- a Command Complete event that is too short is not taken, or taken for a failure -/
  short : eventByte p 0 = HCI_COMMAND_COMPLETE_EVENT →
    (∀ c ∈ pending, p.bytes.length < c.completeSize) → r.passed = true ∨ r.state.cmdStatus = .fail
  addr : ∀ addr ∈ r.addrWritten, CarriesAddr p addr

/-- A Command Complete event, while a command is pending, has an opcode; if it is the one of the
command, it has all that the callback reads, and an answer with the address is a success. -/
def FitsPending (p : HciPacket) (pending : Option HciCommand) : Prop :=
  ∀ c ∈ pending, eventByte p 0 = HCI_COMMAND_COMPLETE_EVENT → 5 ≤ p.bytes.length ∧
    (eventOpcode p = c.wOpCode → c.completeSize ≤ p.bytes.length ∧
      (c = .getLocalBDAddr → eventByte p 5 = 0))

/-! ## What each function reads -/

/-- The opcode of a Command Complete event in memory. -/
def opcodeAt (m : Mem UInt8) : Nat := (m 3).toNat + (m 4).toNat <<< 8

theorem opcode_or (lo hi : UInt8) : lo.toNat ||| hi.toNat <<< 8 = lo.toNat + hi.toNat <<< 8 := by
  rw [Nat.or_comm, ← Nat.shiftLeft_add_eq_or_of_lt lo.toNat_lt, Nat.add_comm]

@[simp] theorem STREAM_TO_UINT16_value (i : Nat) (m : Mem UInt8) :
    (STREAM_TO_UINT16 i).value m = (m i).toNat + (m (i + 1)).toNat <<< 8 := by
  simp [STREAM_TO_UINT16]

@[simp] theorem STREAM_TO_UINT16_offsets (i : Nat) (m : Mem UInt8) :
    (STREAM_TO_UINT16 i).offsets m = [i, i + 1] := by
  simp [STREAM_TO_UINT16]

/-- Only a Command Complete event is looked at any further. -/
theorem eventMatch_spec (opcode : Nat) (m : Mem UInt8) :
    ((internalCommandEventMatch opcode).value m = true ↔
      m 0 = HCI_COMMAND_COMPLETE_EVENT ∧ opcodeAt m = opcode) ∧
    (internalCommandEventMatch opcode).offsets m =
      if m 0 = HCI_COMMAND_COMPLETE_EVENT then [0, 3, 4] else [0] := by
  unfold internalCommandEventMatch
  simp only [Reads.value_bind, Reads.offsets_bind, Reads.value_read, Reads.offsets_read]
  by_cases hcode : m 0 = HCI_COMMAND_COMPLETE_EVENT
  · simp [hcode, opcode_or, opcodeAt, HCI_EVENT_PREAMBLE_SIZE]
    exact decide_eq_true_iff
  · simp [hcode]

theorem commonComplete_spec (wOpCode : Nat) (m : Mem UInt8) :
    (gormevtHCECommonComplete wOpCode).offsets m = [0, 3, 4, 5] := by
  simp [gormevtHCECommonComplete]

theorem getLocalBDAddr_spec (m : Mem UInt8) :
    (gormevtHCEGetLocalBDAddr.value m).2 = (m.read 6 6).reverse ∧
      gormevtHCEGetLocalBDAddr.offsets m = [0, 3, 4, 5, 6, 7, 8, 9, 10, 11] := by
  simp [gormevtHCEGetLocalBDAddr, Mem.read, List.range_succ]

/-! ## Handling an event -/

/-- An event packet as `HandleIncomingEvent` gets it. -/
structure Incoming (p : HciPacket) (packet : HidlVec) : Prop where
  event : p.type = .event
  data : packet.toList = p.bytes

namespace Incoming

variable {p : HciPacket} {packet : HidlVec} (h : Incoming p packet)
include h

theorem size : packet.size = p.bytes.length := by
  rw [← h.data, HidlVec.toList, Mem.read_length]

theorem two_le : 2 ≤ p.bytes.length := by
  rw [HciPacket.bytes, List.length_append, p.preamble_length, h.event]
  exact Nat.le_add_right _ _

/-- The bytes that the packet holds. -/
theorem packet_eq {i : Nat} (hi : i < p.bytes.length) : packet.data i = eventByte p i := by
  have hread : packet.data.read 0 p.bytes.length =
      (Mem.ofList p.bytes 0).read 0 p.bytes.length := by
    rw [Mem.ofList_read, ← h.size]
    exact h.data
  have heq := Mem.eq_of_read_eq hread hi
  rwa [Nat.zero_add] at heq

/-- The bytes that the copy holds. -/
theorem copy_read (heap : Mem UInt8) (event : Nat) :
    (wrapPacketAndCopy heap event packet).data.read 0 p.bytes.length = p.bytes := by
  have hcopy := Mem.read_write_self heap 0 p.bytes
  rwa [← h.data] at hcopy ⊢

end Incoming

/-- The three ways an event goes. -/
inductive HandlingCase (heap : Mem UInt8) (s : EventState) (packet : HidlVec) : Handling → Prop
  | idle : s.internalCommand.cb = none → HandlingCase heap s packet ⟨s, true, [], [], none⟩
  | other {cb} : s.internalCommand.cb = some cb →
      ¬ (packet.data 0 = HCI_COMMAND_COMPLETE_EVENT ∧
        opcodeAt packet.data = s.internalCommand.opcode) →
      HandlingCase heap s packet ⟨s, true,
        (internalCommandEventMatch s.internalCommand.opcode).offsets packet.data, [], none⟩
  | taken {cb} : s.internalCommand.cb = some cb →
      packet.data 0 = HCI_COMMAND_COMPLETE_EVENT →
      opcodeAt packet.data = s.internalCommand.opcode →
      HandlingCase heap s packet
        (savedCb { s with internalCommand := { s.internalCommand with cb := none } }
          (wrapPacketAndCopy heap HciPacketType.event.code.toNat packet) [0, 3, 4] cb)

theorem handleIncomingEvent_case (heap : Mem UInt8) (s : EventState) (packet : HidlVec) :
    HandlingCase heap s packet (handleIncomingEvent heap s packet) := by
  obtain ⟨hvalue, hoffsets⟩ := eventMatch_spec s.internalCommand.opcode packet.data
  unfold handleIncomingEvent
  split
  · rename_i hcb
    exact .idle hcb
  rename_i cb hcb
  simp only
  split
  · rename_i hmatch
    obtain ⟨hcode, hopcode⟩ := hvalue.mp hmatch
    rw [hoffsets, if_pos hcode]
    exact .taken hcb hcode hopcode
  · rename_i hmatch
    exact .other hcb fun h => hmatch (hvalue.mpr h)

/-! ## Which events are read in bounds -/

section Bounds

variable {p : HciPacket} {packet : HidlVec} {s : EventState}

theorem HciCommand.callback_of_ne {c : HciCommand} (h : c ≠ .getLocalBDAddr) :
    c.callback = .commonComplete := by
  cases c with
  | getLocalBDAddr => exact absurd rfl h
  | _ => rfl

/-- A pending callback is that of a pending command. -/
theorem InternalCommand.Pending.of_some {i : InternalCommand} {pending : Option HciCommand}
    {cb : TIntCmdCback} (h : i.Pending pending) (hcb : i.cb = some cb) :
    ∃ c, pending = some c ∧ cb = c.callback ∧ i.opcode = c.wOpCode := by
  obtain ⟨hmap, hopcode⟩ := h
  rw [hcb] at hmap
  obtain ⟨c, rfl, hc⟩ := Option.map_eq_some_iff.mp hmap.symm
  exact ⟨c, rfl, hc.symm, hopcode c rfl⟩

/-- The offsets that each function reads, in a packet of `n` bytes. -/
theorem matchReads_iff {n : Nat} : (∀ i ∈ [0, 3, 4], i < n) ↔ 5 ≤ n := by
  simp
  omega

theorem commonReads_iff {n : Nat} : (∀ i ∈ [0, 3, 4, 5], i < n) ↔ 6 ≤ n := by
  simp
  omega

theorem getLocalReads_iff {n : Nat} :
    (∀ i ∈ [0, 3, 4, 5, 6, 7, 8, 9, 10, 11], i < n) ↔ 12 ≤ n := by
  simp
  omega

theorem Incoming.code (h : Incoming p packet) : packet.data 0 = eventByte p 0 := by
  have hlen := h.two_le
  exact h.packet_eq (by omega)

theorem Incoming.opcode (h : Incoming p packet) (hlen : 5 ≤ p.bytes.length) :
    opcodeAt packet.data = eventOpcode p := by
  unfold opcodeAt eventOpcode
  rw [h.packet_eq (by omega), h.packet_eq (by omega)]

theorem Incoming.packetReads_iff (h : Incoming p packet) (opcode : Nat) :
    (∀ i ∈ (internalCommandEventMatch opcode).offsets packet.data, i < p.bytes.length) ↔
      (eventByte p 0 = HCI_COMMAND_COMPLETE_EVENT → 5 ≤ p.bytes.length) := by
  have hlen := h.two_le
  rw [(eventMatch_spec opcode packet.data).2, h.code]
  split
  · rename_i hcode
    rw [matchReads_iff]
    exact ⟨fun h _ => h, fun h => h hcode⟩
  · rename_i hcode
    simp [hcode]
    omega

/-- An event that is passed on. -/
theorem Incoming.passed_iff (h : Incoming p packet) {c : HciCommand} {opcode : Nat}
    (hopcode : opcode = c.wOpCode) (hother : ¬ (packet.data 0 = HCI_COMMAND_COMPLETE_EVENT ∧
      opcodeAt packet.data = opcode)) :
    ReadInBounds p (some c)
      ⟨s, true, (internalCommandEventMatch opcode).offsets packet.data, [], none⟩ ↔
        FitsPending p (some c) := by
  have hreads := h.packetReads_iff opcode
  constructor
  · intro hr d hd hcode
    obtain rfl : c = d := Option.some.inj hd
    have hlen := hreads.mp hr.packetReads hcode
    refine ⟨hlen, fun heq => absurd ⟨h.code.trans hcode, ?_⟩ hother⟩
    rw [h.opcode hlen, heq, hopcode]
  · intro hfits
    refine ⟨hreads.mpr fun hcode => (hfits c rfl hcode).1, ?_, fun _ _ => .inl rfl, ?_⟩
    · simp
    · simp

/-- An event that is taken fits if it has all that the callback reads. -/
theorem Incoming.fits_iff (h : Incoming p packet) {c : HciCommand}
    (hcode : packet.data 0 = HCI_COMMAND_COMPLETE_EVENT)
    (hopcode : opcodeAt packet.data = c.wOpCode) :
    FitsPending p (some c) ↔
      c.completeSize ≤ p.bytes.length ∧ (c = .getLocalBDAddr → eventByte p 5 = 0) := by
  have hsix : 6 ≤ c.completeSize := by
    cases c <;> decide
  constructor
  · intro hfits
    obtain ⟨hlen, hrest⟩ := hfits c rfl (h.code.symm.trans hcode)
    exact hrest ((h.opcode hlen).symm.trans hopcode)
  · intro hall d hd _
    obtain rfl : c = d := Option.some.inj hd
    exact ⟨by omega, fun _ => hall⟩

/-- An event for a command that asks for nothing. -/
theorem commonComplete_readInBounds {c : HciCommand} (hc : c ≠ .getLocalBDAddr) (hdr : HcBtHdr) :
    ReadInBounds p (some c) (savedCb s hdr [0, 3, 4] .commonComplete) ↔
      c.completeSize ≤ p.bytes.length := by
  have hsize : c.completeSize = 6 := by
    unfold HciCommand.completeSize
    rw [HciCommand.callback_of_ne hc]
  have hreads : (savedCb s hdr [0, 3, 4] .commonComplete).copyReads = [0, 3, 4, 5] :=
    commonComplete_spec s.wOpCode hdr.data
  rw [hsize]
  constructor
  · intro hr
    exact commonReads_iff.mp (hreads ▸ hr.copyReads)
  · intro hlen
    refine ⟨?_, ?_, fun _ hshort => ?_, ?_⟩
    · exact matchReads_iff.mpr (by omega)
    · rw [hreads]
      exact commonReads_iff.mpr hlen
    · have := hshort c rfl
      omega
    · simp [savedCb]

/-- An event for the command that asks for the address. -/
theorem Incoming.getLocalBDAddr_readInBounds (h : Incoming p packet) (heap : Mem UInt8)
    (event : Nat) (hcode : packet.data 0 = HCI_COMMAND_COMPLETE_EVENT)
    (hopcode : opcodeAt packet.data = HciCommand.getLocalBDAddr.wOpCode) :
    ReadInBounds p (some .getLocalBDAddr) (savedCb s (wrapPacketAndCopy heap event packet) [0, 3, 4]
      .getLocalBDAddr) ↔ 12 ≤ p.bytes.length ∧ eventByte p 5 = 0 := by
  obtain ⟨haddr, hreads⟩ := getLocalBDAddr_spec (wrapPacketAndCopy heap event packet).data
  constructor
  · intro hr
    exact ⟨getLocalReads_iff.mp (hreads ▸ hr.copyReads), (hr.addr _ rfl).status⟩
  · rintro ⟨hlen, hstatus⟩
    refine ⟨?_, ?_, fun _ hshort => ?_, ?_⟩
    · exact matchReads_iff.mpr (by omega)
    · simp only [savedCb, hreads]
      exact getLocalReads_iff.mpr hlen
    · have hsize : p.bytes.length < 12 := hshort _ rfl
      omega
    · intro addr hwritten
      have heq : addr = ((wrapPacketAndCopy heap event packet).data.read 6 6).reverse :=
        (Option.some.inj hwritten).symm.trans haddr
      refine ⟨h.code.symm.trans hcode, ?_, hstatus, hlen, ?_⟩
      · rw [← h.opcode (by omega)]
        exact hopcode
      · have hcopy := h.copy_read heap event
        rw [heq, ← hcopy, Mem.read_drop _ _ (by omega), Mem.read_take _ _ (by omega)]

/-- **Which events are read in bounds**, and write no address that they do not carry. -/
theorem readInBounds_iff (h : Incoming p packet) {pending : Option HciCommand}
    (hp : s.internalCommand.Pending pending) (heap : Mem UInt8) :
    ReadInBounds p pending (handleIncomingEvent heap s packet) ↔ FitsPending p pending := by
  have hcase := handleIncomingEvent_case heap s packet
  generalize handleIncomingEvent heap s packet = r at hcase ⊢
  cases hcase with
  | idle hcb =>
    obtain ⟨hmap, -⟩ := hp
    rw [hcb] at hmap
    obtain rfl := Option.map_eq_none_iff.mp hmap.symm
    refine iff_of_true ⟨?_, ?_, fun _ _ => .inl rfl, ?_⟩ ?_ <;> simp [FitsPending]
  | other hcb hother =>
    obtain ⟨c, rfl, -, hopcode⟩ := hp.of_some hcb
    exact h.passed_iff hopcode hother
  | taken hcb hcode hmatch =>
    obtain ⟨c, rfl, rfl, hopcode⟩ := hp.of_some hcb
    rw [h.fits_iff hcode (hmatch.trans hopcode)]
    by_cases hc : c = .getLocalBDAddr
    · subst hc
      refine (h.getLocalBDAddr_readInBounds heap _ hcode (hmatch.trans hopcode)).trans ?_
      simp [HciCommand.completeSize, HciCommand.callback]
    · rw [HciCommand.callback_of_ne hc, commonComplete_readInBounds hc]
      simp [hc]

/-- A callback that stays in the copy does what it does by the bytes of the copy. -/
theorem savedCb_congr {c : HciCommand} {hdr hdr' : HcBtHdr} {n : Nat} (hlen : c.completeSize ≤ n)
    (hcopy : hdr.data.read 0 n = hdr'.data.read 0 n) (packetReads : List Nat) :
    savedCb s hdr packetReads c.callback = savedCb s hdr' packetReads c.callback := by
  by_cases hc : c = .getLocalBDAddr
  · subst hc
    have hin : gormevtHCEGetLocalBDAddr.InBounds n hdr.data := by
      rw [Reads.InBounds, (getLocalBDAddr_spec _).2]
      exact getLocalReads_iff.mpr hlen
    obtain ⟨hvalue, hoffsets⟩ := hin.run_eq hcopy
    simp only [HciCommand.callback, savedCb, hvalue, hoffsets]
  · rw [HciCommand.completeSize, HciCommand.callback_of_ne hc] at hlen
    have hin : (gormevtHCECommonComplete s.wOpCode).InBounds n hdr.data := by
      rw [Reads.InBounds, commonComplete_spec]
      exact commonReads_iff.mpr hlen
    obtain ⟨hvalue, hoffsets⟩ := hin.run_eq hcopy
    simp only [HciCommand.callback_of_ne hc, savedCb, hvalue, hoffsets]

/-- **What lies behind an event that fits does not matter.** -/
theorem handleIncomingEvent_congr {packet' : HidlVec} (h : Incoming p packet)
    (h' : Incoming p packet') {pending : Option HciCommand}
    (hp : s.internalCommand.Pending pending) (hfits : FitsPending p pending)
    (heap heap' : Mem UInt8) :
    handleIncomingEvent heap s packet = handleIncomingEvent heap' s packet' := by
  unfold handleIncomingEvent
  split
  · rfl
  rename_i cb hcb
  obtain ⟨c, rfl, rfl, hopcode⟩ := hp.of_some hcb
  have hpacket : packet.data.read 0 p.bytes.length = packet'.data.read 0 p.bytes.length := by
    have hread : packet.data.read 0 packet.size = packet'.data.read 0 packet'.size :=
      h.data.trans h'.data.symm
    rwa [h.size, h'.size] at hread
  have hmatch : (internalCommandEventMatch s.internalCommand.opcode).InBounds p.bytes.length
      packet.data := (h.packetReads_iff _).mpr fun hcode => (hfits c rfl hcode).1
  obtain ⟨hvalue, hoffsets⟩ := hmatch.run_eq hpacket
  simp only
  rw [← hvalue, ← hoffsets]
  split
  · rename_i hyes
    obtain ⟨hcode, hop⟩ := (eventMatch_spec _ _).1.mp hyes
    obtain ⟨hlen, -⟩ := (h.fits_iff hcode (hop.trans hopcode)).mp hfits
    have hcopy := (h.copy_read heap HciPacketType.event.code.toNat).trans
      (h'.copy_read heap' HciPacketType.event.code.toNat).symm
    exact savedCb_congr hlen hcopy _
  · rfl

end Bounds

/-! ## Two events -/

/-- A Command Complete event as far as the opcode. -/
def shortComplete : HciPacket := 
  ⟨.event, [0x0E, 3], [1, 0x03, 0x0C], event_received, rfl, rfl⟩

/-- The answer to `HCI_Reset`. -/
def resetComplete : HciPacket := 
  ⟨.event, [0x0E, 4], [1, 0x03, 0x0C, 0], event_received, rfl, rfl⟩

/-- The packet with arbitrary memory behind it, and `HCI_Reset` pending. -/
def packetOf (p : HciPacket) : HidlVec := ⟨p.bytes.length, .ofList p.bytes 0⟩

def resetPending : EventState := ⟨⟨some .commonComplete, 0x0C03⟩, 0x0C03, .pending, []⟩

theorem readInBounds_reset : ReadInBounds resetComplete (some .reset)
    (handleIncomingEvent (fun _ => 0xFF) resetPending (packetOf resetComplete)) :=
  (readInBounds_iff ⟨rfl, rfl⟩ ⟨rfl, by simp [resetPending, HciCommand.wOpCode]⟩ _).mpr <| by
    simp [FitsPending, resetComplete, HciPacket.bytes, HciCommand.completeSize, HciCommand.callback]

/-- The status of an answer without one is read behind it. -/
theorem not_readInBounds : ¬ ∀ (p : HciPacket) (packet : HidlVec) (pending : Option HciCommand)
    (s : EventState) (heap : Mem UInt8), Incoming p packet → p.payload ≠ [] →
      s.internalCommand.Pending pending →
      ReadInBounds p pending (handleIncomingEvent heap s packet) := by
  intro hall
  have hr := hall shortComplete (packetOf shortComplete) (some .reset) resetPending (fun _ => 0)
    ⟨rfl, rfl⟩ (by simp [shortComplete]) ⟨rfl, by simp [resetPending, HciCommand.wOpCode]⟩
  exact absurd (hr.copyReads 5 (by decide)) (by decide)

end Sloane.BtVendor
