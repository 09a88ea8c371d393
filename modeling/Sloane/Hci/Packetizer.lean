import Sloane.Lib.Mem

/-!
# The HCI packetizer

Model of `bluetooth/interface/hci_internals.h` and `hci_packetizer.cc`: the part of the receiver
that collects one packet, first its preamble and then its payload.

A file descriptor is the list of bytes still to be read from it, and a `read` takes as many of
them as a schedule says, at least one where one is asked for and there is one.  `none` stands for
`LOG_ALWAYS_FATAL`.
-/

namespace Sloane.Hci

open Sloane.Lib

inductive HciPacketType where
  | unknown
  | command
  | aclData
  | scoData
  | event
  deriving DecidableEq, Repr

/-- The value of the enumerator. -/
def HciPacketType.code : HciPacketType → UInt8
  | .unknown => 0
  | .command => 1
  | .aclData => 2
  | .scoData => 3
  | .event => 4

/-- The cast from a byte; `none` for a value outside the enumeration. -/
def HciPacketType.ofByte (b : UInt8) : Option HciPacketType :=
  if b = 0 then some .unknown else if b = 1 then some .command else if b = 2 then some .aclData
  else if b = 3 then some .scoData else if b = 4 then some .event else none

theorem HciPacketType.ofByte_code (t : HciPacketType) : ofByte t.code = some t := by
  cases t <;> decide

def HCI_COMMAND_PREAMBLE_SIZE : Nat := 3
def HCI_LENGTH_OFFSET_CMD : Nat := 2
def HCI_ACL_PREAMBLE_SIZE : Nat := 4
def HCI_LENGTH_OFFSET_ACL : Nat := 2
def HCI_SCO_PREAMBLE_SIZE : Nat := 3
def HCI_LENGTH_OFFSET_SCO : Nat := 2
def HCI_EVENT_PREAMBLE_SIZE : Nat := 2
def HCI_LENGTH_OFFSET_EVT : Nat := 1

def preambleSizeForType : HciPacketType → Nat
  | .unknown => 0
  | .command => HCI_COMMAND_PREAMBLE_SIZE
  | .aclData => HCI_ACL_PREAMBLE_SIZE
  | .scoData => HCI_SCO_PREAMBLE_SIZE
  | .event => HCI_EVENT_PREAMBLE_SIZE

def packetLengthOffsetForType : HciPacketType → Nat
  | .unknown => 0
  | .command => HCI_LENGTH_OFFSET_CMD
  | .aclData => HCI_LENGTH_OFFSET_ACL
  | .scoData => HCI_LENGTH_OFFSET_SCO
  | .event => HCI_LENGTH_OFFSET_EVT

def hciGetPacketLengthForType (type : HciPacketType) (preamble : Mem UInt8) : Nat :=
  let offset := packetLengthOffsetForType type
  if type ≠ .aclData then (preamble offset).toNat
  else (preamble (offset + 1)).toNat <<< 8 ||| (preamble offset).toNat

/-! ## Reading -/

/-- `read(fd, buf, requested)`: the bytes read and those left.  `r` is the schedule's choice, cut
to what is asked for and there. -/
def readFd (r requested : Nat) (unread : List UInt8) : List UInt8 × List UInt8 :=
  unread.splitAt (min (max 1 r) (min requested unread.length))

theorem readFd_length (r requested : Nat) (unread : List UInt8) :
    (readFd r requested unread).1.length = min (max 1 r) (min requested unread.length) := by
  simp only [readFd, List.splitAt_eq, List.length_take]
  omega

/-! ## The packetizer -/

inductive State where
  | preamble
  | payload
  deriving DecidableEq, Repr

/-- `hidl_vec<uint8_t>`. -/
structure HidlVec where
  size : Nat
  data : Mem UInt8

/-- The bytes that `resize` adds are indeterminate. -/
def HidlVec.resize (v : HidlVec) (size : Nat) : HidlVec := { v with size := size }

def HidlVec.toList (v : HidlVec) : List UInt8 := v.data.read 0 v.size

structure HciPacketizer where
  state : State
  preamble : Mem UInt8
  packet : HidlVec
  bytesRemaining : Nat
  bytesRead : Nat

/-- A new packetizer; `preamble_` is not initialised. -/
def HciPacketizer.new (preamble : Mem UInt8) : HciPacketizer :=
  ⟨.preamble, preamble, ⟨0, fun _ => 0⟩, 0, 0⟩

/-- One call of `OnDataReady`: the new packetizer, the bytes left, and whether
`packet_ready_cb_` was called, which looks at `packet_` only. -/
def HciPacketizer.onDataReady (p : HciPacketizer) (packetType : HciPacketType) (r : Nat)
    (unread : List UInt8) : Option (HciPacketizer × List UInt8 × Bool) :=
  let preambleSize := preambleSizeForType packetType
  match p.state with
  | .preamble =>
      let (bytes, unread) := readFd r (preambleSize - p.bytesRead) unread
      if bytes.length = 0 then none else
      let preamble := p.preamble.write p.bytesRead bytes
      let bytesRead := p.bytesRead + bytes.length
      if bytesRead = preambleSize then
        let packetLength := hciGetPacketLengthForType packetType preamble
        let packet := p.packet.resize (preambleSize + packetLength)
        some (⟨.payload, preamble,
          { packet with data := packet.data.write 0 (preamble.read 0 preambleSize) },
          packetLength, 0⟩, unread, false)
      else some ({ p with preamble := preamble, bytesRead := bytesRead }, unread, false)
  | .payload =>
      let (bytes, unread) := readFd r p.bytesRemaining unread
      if bytes.length = 0 then none else
      let data := p.packet.data.write (preambleSize + p.bytesRead) bytes
      let bytesRemaining := p.bytesRemaining - bytes.length
      let p := { p with
        packet := { p.packet with data := data }, bytesRemaining := bytesRemaining }
      if bytesRemaining = 0 then some ({ p with state := .preamble, bytesRead := 0 }, unread, true)
      else some ({ p with bytesRead := p.bytesRead + bytes.length }, unread, false)

end Sloane.Hci
