import Sloane.Hci.Packetizer

/-!
# The H4 protocol

Model of `bluetooth/interface/h4_protocol.cc`: a type byte in front of each packet, and the
receiver that reads the type byte and then hands over to the packetizer; and of
`HciProtocol::WriteSafely`, through which packets are sent.

A `HciPacket` is a packet of one of the types the receiver knows, whose length field is right;
`Receiver.run` calls `OnDataReady` as the watcher does, whenever there is a byte to read.
-/

namespace Sloane.Hci

open Sloane.Lib

/-! ## Sending -/

/-- What one `write` returns: a count, an `EAGAIN`, or another error. -/
inductive WriteResult where
  | written (n : Nat)
  | again
  | error
  deriving DecidableEq, Repr

/-- `WriteSafely`, as the bytes that reach the fd; `none` while it is still retrying when the
results end. -/
def writeSafely : List WriteResult → List UInt8 → Option (List UInt8)
  | _, [] => some []
  | [], _ :: _ => none
  | .again :: rs, data => writeSafely rs data
  | .error :: _, _ => some []
  | .written n :: rs, data =>
      if n = 0 then some [] else (writeSafely rs (data.drop n)).map (data.take n ++ ·)

/-- `adapted_data`: the type byte and the packet. -/
def frame (type : HciPacketType) (data : List UInt8) : List UInt8 := type.code :: data

def H4Protocol.send (rs : List WriteResult) (type : HciPacketType) (data : List UInt8) :
    Option (List UInt8) :=
  writeSafely rs (frame type data)

/-- Without an error or an empty write everything is sent. -/
theorem writeSafely_complete {rs : List WriteResult} {data sent : List UInt8}
    (h : writeSafely rs data = some sent) (hr : ∀ r ∈ rs, r ≠ .error ∧ r ≠ .written 0) :
    sent = data := by
  induction rs generalizing data sent with
  | nil =>
    cases data with
    | nil => exact (Option.some.inj h).symm
    | cons b data => cases h
  | cons r rs ih =>
    have hrs : ∀ r ∈ rs, r ≠ .error ∧ r ≠ .written 0 := fun r hm => hr r (List.mem_cons_of_mem _ hm)
    cases data with
    | nil => exact (Option.some.inj h).symm
    | cons b data =>
      cases r with
      | again => exact ih h hrs
      | error => exact absurd rfl (hr _ List.mem_cons_self).1
      | written n =>
        have hn : n ≠ 0 := fun h0 => (hr _ List.mem_cons_self).2 (by rw [h0])
        simp only [writeSafely, hn, if_false, Option.map_eq_some_iff] at h
        obtain ⟨rest, hrest, rfl⟩ := h
        rw [ih hrest hrs, List.take_append_drop]

/-! ## Receiving -/

structure H4Protocol where
  hciPacketType : HciPacketType
  hciPacketizer : HciPacketizer

def H4Protocol.new (preamble : Mem UInt8) : H4Protocol := ⟨.unknown, .new preamble⟩

/-- A call of `event_cb_`, `acl_cb_` or `sco_cb_`, named by the packet type, with its packet. -/
abbrev Delivery := HciPacketType × List UInt8

def H4Protocol.onPacketReady (h : H4Protocol) : Option (H4Protocol × Delivery) :=
  match h.hciPacketType with
  | .event | .aclData | .scoData =>
      some ({ h with hciPacketType := .unknown },
        (h.hciPacketType, h.hciPacketizer.packet.toList))
  | .unknown | .command => none

theorem H4Protocol.onPacketReady_of_received {h : H4Protocol}
    (ht : h.hciPacketType = .aclData ∨ h.hciPacketType = .scoData ∨ h.hciPacketType = .event) :
    h.onPacketReady = some ({ h with hciPacketType := .unknown },
      (h.hciPacketType, h.hciPacketizer.packet.toList)) := by
  unfold H4Protocol.onPacketReady
  rcases ht with ht | ht | ht <;> rw [ht]

def H4Protocol.onDataReady (h : H4Protocol) (r : Nat) (unread : List UInt8) :
    Option (H4Protocol × List UInt8 × List Delivery) :=
  if h.hciPacketType = .unknown then
    match readFd r 1 unread with
    | ([b], unread) =>
        match HciPacketType.ofByte b with
        | some .aclData => some ({ h with hciPacketType := .aclData }, unread, [])
        | some .scoData => some ({ h with hciPacketType := .scoData }, unread, [])
        | some .event => some ({ h with hciPacketType := .event }, unread, [])
        | _ => none
    | _ => none
  else
    match h.hciPacketizer.onDataReady h.hciPacketType r unread with
    | none => none
    | some (p, unread, false) => some ({ h with hciPacketizer := p }, unread, [])
    | some (p, unread, true) =>
        (H4Protocol.onPacketReady { h with hciPacketizer := p }).map
          fun (h, d) => (h, unread, [d])

/-- The receiver, the bytes not yet read, and the callbacks made so far. -/
structure Receiver where
  h4 : H4Protocol
  unread : List UInt8
  delivered : List Delivery

/-- `OnDataReady` is called when there is something to read. -/
def Receiver.step (r : Nat) (s : Receiver) : Option Receiver :=
  if s.unread = [] then some s
  else (s.h4.onDataReady r s.unread).map fun (h, unread, ds) => ⟨h, unread, s.delivered ++ ds⟩

/-- The state after `n` calls; `ρ` is the schedule of the reads. -/
def Receiver.run (ρ : Nat → Nat) (s : Receiver) : Nat → Option Receiver
  | 0 => some s
  | n + 1 => (Receiver.run ρ s n).bind (Receiver.step (ρ n))

/-! ## Packets -/

/-- A packet of one of the three types that are received, with the right length field. -/
structure HciPacket where
  type : HciPacketType
  preamble : List UInt8
  payload : List UInt8
  received : type = .aclData ∨ type = .scoData ∨ type = .event
  preamble_length : preamble.length = preambleSizeForType type
  length_field : hciGetPacketLengthForType type (.ofList preamble 0) = payload.length

/-- Events are received. -/
theorem event_received : HciPacketType.event = .aclData ∨ HciPacketType.event = .scoData ∨
    HciPacketType.event = .event :=
  .inr (.inr rfl)

namespace HciPacket

def bytes (p : HciPacket) : List UInt8 := p.preamble ++ p.payload

def encode (p : HciPacket) : List UInt8 := frame p.type p.bytes

/-- The callback that the packet should cause. -/
def delivery (p : HciPacket) : Delivery := (p.type, p.bytes)

/-- `H4Protocol::Send` puts the encoded packet on the wire. -/
theorem send_complete (p : HciPacket) {rs : List WriteResult} {sent : List UInt8}
    (h : H4Protocol.send rs p.type p.bytes = some sent)
    (hr : ∀ r ∈ rs, r ≠ .error ∧ r ≠ .written 0) : sent = p.encode :=
  writeSafely_complete h hr

end HciPacket

def encodeAll (pkts : List HciPacket) : List UInt8 := (pkts.map HciPacket.encode).flatten

@[simp] theorem encodeAll_nil : encodeAll [] = [] := rfl

@[simp] theorem encodeAll_cons (p : HciPacket) (pkts : List HciPacket) :
    encodeAll (p :: pkts) = p.encode ++ encodeAll pkts := rfl

theorem encodeAll_append (a b : List HciPacket) :
    encodeAll (a ++ b) = encodeAll a ++ encodeAll b := by
  simp [encodeAll]

/-- The control state in which a packet begins. -/
structure InitialControl (h : H4Protocol) : Prop where
  type : h.hciPacketType = .unknown
  state : h.hciPacketizer.state = .preamble
  bytesRead : h.hciPacketizer.bytesRead = 0

theorem InitialControl.new (m : Mem UInt8) : InitialControl (.new m) := ⟨rfl, rfl, rfl⟩

end Sloane.Hci
