import Mathlib.Algebra.Group.Nat.Defs
import Sloane.Hci.WriteSafely
import Sloane.Lib.FrameCode

/-!
# Command packets on the wire

An HCI command as it is sent over the H4 protocol: the type byte, the opcode with its low byte
first, the length of the parameters, and the parameters.

* `CommandPacket.parse_iff` — what is parsed from the front of a stream.
* `commandCode` — so the packets of a stream are found one after the other.
* `send_bytes` — a `Send` with enough successful writes puts a packet on the wire.
-/

namespace Sloane.Hci

open Sloane.Lib

structure CommandPacket where
  opcode : Nat
  params : List UInt8
  opcode_lt : opcode < 2 ^ 16
  params_lt : params.length < 2 ^ 8
  deriving DecidableEq, Repr

namespace CommandPacket

/-- The packet without its type. -/
def bytes (p : CommandPacket) : List UInt8 :=
  UInt8.ofNat p.opcode :: UInt8.ofNat (p.opcode / 2 ^ 8) :: UInt8.ofNat p.params.length :: p.params

def encode (p : CommandPacket) : List UInt8 := frame .command p.bytes

/-- The packet with the given fields and what is left of the stream; `none` if it is too short. -/
def ofFields (lo hi len : UInt8) (rest : List UInt8) : Option (CommandPacket × List UInt8) :=
  if len.toNat ≤ rest.length then
    some
      ({ opcode := lo.toNat + hi.toNat * 2 ^ 8
         params := rest.take len.toNat
         opcode_lt := by
          have hlo := lo.toNat_lt
          have hhi := hi.toNat_lt
          omega
         params_lt := Nat.lt_of_le_of_lt (List.length_take_le _ _) len.toNat_lt },
        rest.drop len.toNat)
  else none

/-- One packet off the front of a stream. -/
def parse : List UInt8 → Option (CommandPacket × List UInt8)
  | type :: lo :: hi :: len :: rest =>
      if type = HciPacketType.command.code then ofFields lo hi len rest else none
  | _ => none

theorem encode_eq (p : CommandPacket) : p.encode =
    HciPacketType.command.code :: UInt8.ofNat p.opcode :: UInt8.ofNat (p.opcode / 2 ^ 8) ::
      UInt8.ofNat p.params.length :: p.params := rfl

theorem encode_length (p : CommandPacket) : p.encode.length = 4 + p.params.length := by
  simp [encode_eq]
  omega

/-- The length byte holds the length. -/
theorem toNat_length (p : CommandPacket) : (UInt8.ofNat p.params.length).toNat = p.params.length :=
  (UInt8.toNat_ofNat').trans (Nat.mod_eq_of_lt p.params_lt)

/-- The two bytes hold the opcode. -/
theorem toNat_opcode (p : CommandPacket) :
    (UInt8.ofNat p.opcode).toNat + (UInt8.ofNat (p.opcode / 2 ^ 8)).toNat * 2 ^ 8 = p.opcode := by
  have hlt := p.opcode_lt
  rw [UInt8.toNat_ofNat', UInt8.toNat_ofNat']
  omega

theorem ofFields_of_encode (p : CommandPacket) (rest : List UInt8) :
    ofFields (UInt8.ofNat p.opcode) (UInt8.ofNat (p.opcode / 2 ^ 8))
      (UInt8.ofNat p.params.length) (p.params ++ rest) = some (p, rest) := by
  have hle : (UInt8.ofNat p.params.length).toNat ≤ (p.params ++ rest).length := by
    rw [toNat_length, List.length_append]
    exact Nat.le_add_right _ _
  unfold ofFields
  rw [if_pos hle]
  simp only [toNat_length, toNat_opcode, List.take_left, List.drop_left]

/-- The bytes of an opcode are those it was put together from. -/
theorem bytes_opcode (lo hi : UInt8) : UInt8.ofNat (lo.toNat + hi.toNat * 2 ^ 8) = lo ∧
    UInt8.ofNat ((lo.toNat + hi.toNat * 2 ^ 8) / 2 ^ 8) = hi := by
  have hlo := lo.toNat_lt
  have hhi := hi.toNat_lt
  constructor <;> apply UInt8.toNat_inj.mp <;> rw [UInt8.toNat_ofNat'] <;> omega

theorem encode_of_fields {lo hi len : UInt8} {bs rest : List UInt8} {p : CommandPacket}
    (h : ofFields lo hi len bs = some (p, rest)) :
    HciPacketType.command.code :: lo :: hi :: len :: bs = p.encode ++ rest := by
  unfold ofFields at h
  split at h
  · rename_i hle
    cases h
    obtain ⟨hlo, hhi⟩ := bytes_opcode lo hi
    rw [encode_eq]
    simp only [List.length_take_of_le hle, hlo, hhi, UInt8.ofNat_toNat, List.cons_append,
      List.take_append_drop]
  · cases h

/-- **What is parsed** is the packet at the front. -/
theorem parse_iff (bs : List UInt8) (p : CommandPacket) (rest : List UInt8) :
    parse bs = some (p, rest) ↔ bs = p.encode ++ rest := by
  constructor
  · intro h
    unfold parse at h
    split at h
    · split at h
      · rename_i htype
        rw [htype]
        exact encode_of_fields h
      · cases h
    · cases h
  · rintro rfl
    rw [encode_eq]
    simp only [List.cons_append, parse, if_true]
    exact ofFields_of_encode p rest

end CommandPacket

/-- Streams of command packets. -/
def commandCode : FrameCode CommandPacket UInt8 where
  encode := CommandPacket.encode
  parse := CommandPacket.parse
  parse_iff := CommandPacket.parse_iff
  encode_ne_nil _ := List.cons_ne_nil _ _

/-- A reset and a command with two parameters. -/
example : commandCode.parseAll [1, 0x03, 0x0C, 0, 1, 0x26, 0x0C, 2, 0x60, 0x00] =
    some [⟨0x0C03, [], by decide, by decide⟩, ⟨0x0C26, [0x60, 0x00], by decide, by decide⟩] := by
  decide

/-- **A `Send` whose writes succeed** puts the packet on the wire. -/
theorem send_bytes (p : CommandPacket) {rs : List WriteResult} (h : Succeed rs p.encode.length) :
    H4Protocol.send rs .command p.bytes = some p.encode :=
  writeSafely_of_succeed h

end Sloane.Hci
