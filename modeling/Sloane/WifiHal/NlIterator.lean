import Sloane.Lib.Chunks
import Sloane.WifiHal.VendorData

/-!
# Attributes of a reply

`nl_iterator` (`cpp_bindings.h`) walks over the attributes nested in an attribute.  It looks at the
length that an attribute gives for itself, never at the type, before it goes on; `get_u8`,
`get_u32` and `get_data` do not look at the length.

* `nlIterator_inside` — the attributes lie in what is walked over.
-/

namespace Sloane.WifiHal

open Sloane.Lib

/-- A reply as `handleResponse` of a command sees it: `get_cmd`, and the vendor data. -/
structure WifiReply where
  cmd : Int
  vendorData : Option VendorData

/-- The vendor data that a `handleResponse` goes on with; other replies are skipped. -/
def WifiReply.handled (reply : WifiReply) : Option VendorData :=
  if reply.cmd = NL80211_CMD_VENDOR then reply.vendorData.filter (·.len ≠ 0) else none

/-- An attribute: its type, and the offset and the length of its payload. -/
structure NlAttr where
  type : Nat
  data : Nat
  len : Nat
  deriving DecidableEq, Repr

def NLA_ALIGN (len : Nat) : Nat := (len + 3) / 4 * 4

/-- `nla_ok` and `nla_next`. -/
def nlaFormat : ChunkFormat where
  header := NLA_HDRLEN
  step := NLA_ALIGN
  header_pos := by decide
  le_step := fun len => by
    unfold NLA_ALIGN
    omega

/-- `struct nlattr` with the length of its payload. -/
def nlattrAt (m : Mem UInt8) (c : Chunk) : NlAttr :=
  ⟨(Nlattr.nlaType c.pos).value m, nlaData c.pos, c.len - NLA_HDRLEN⟩

/-- What an `nl_iterator` stops at in `rem` bytes. -/
def nlIterator (m : Mem UInt8) (pos rem : Nat) : List NlAttr :=
  (chunks nlaFormat (fun p => (Nlattr.nlaLen p).value m) pos rem).map (nlattrAt m)

/-- The attributes in the payload of an attribute. -/
def NlAttr.nested (m : Mem UInt8) (a : NlAttr) : List NlAttr := nlIterator m a.data a.len

def NlAttr.getU8 (m : Mem UInt8) (a : NlAttr) : Nat := (leAt 1 a.data).value m
def NlAttr.getU32 (m : Mem UInt8) (a : NlAttr) : Nat := (u32At a.data).value m

/-- `get_u32` where the result is kept in an `int`. -/
def NlAttr.getInt (m : Mem UInt8) (a : NlAttr) : Int := signed 32 (a.getU32 m)

/-- **The attributes that are visited lie in what is walked over**, headers included. -/
theorem nlIterator_inside {m : Mem UInt8} {pos rem : Nat} {a : NlAttr}
    (h : a ∈ nlIterator m pos rem) :
    pos + NLA_HDRLEN ≤ a.data ∧ a.data + a.len ≤ pos + rem := by
  obtain ⟨c, hc, rfl⟩ := List.mem_map.mp h
  obtain ⟨hle, hlen, hend⟩ := Chunk.inside_of_mem hc
  have hheader : nlaFormat.header = NLA_HDRLEN := rfl
  simp only [nlattrAt, nlaData]
  omega

end Sloane.WifiHal
