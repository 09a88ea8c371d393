import Mathlib.Algebra.Group.Nat.Defs
import Sloane.Lib.Reads

/-!
# The location elements of an RTT result

Model of the part of `RttCommand::handleEvent` (`rtt.cpp`) that copies the payload of one
`RTT_ATTRIBUTE_RESULT` and points `LCI` and `LCR` of the copy to the measurement elements behind
the `wifi_rtt_result`.  The layout of that structure is a parameter.

* `nextElement_spec`, `parseElements_spec` — which elements are found, and what is read for it.
* `copyResult_heap` — the copy depends on the payload alone.
* `located_iff` — the pointers are right exactly when the driver leaves those of absent elements
  NULL and a second element is longer than a `wifi_rtt_result`.
-/

namespace Sloane.WifiHal

open Sloane.Lib

def DOT11_HDR_LEN : Nat := 2
def DOT11_MNG_MEASURE_REQUEST_ID : UInt8 := 38
def DOT11_MEASURE_TYPE_LCI : UInt8 := 8
def DOT11_MEASURE_TYPE_CIVICLOC : UInt8 := 11

/-! ## Fields of a `dot11_rm_ie` at an offset -/

def Dot11RmIe.id (ele : Nat) : Reads UInt8 UInt8 := Reads.read ele
def Dot11RmIe.len (ele : Nat) : Reads UInt8 UInt8 := Reads.read (ele + 1)
def Dot11RmIe.type (ele : Nat) : Reads UInt8 UInt8 := Reads.read (ele + 4)

/-! ## Parsing -/

/-- The second element, if it is of the type that the first one was not. -/
def nextElement (wanted : UInt8) (ele1 : Nat) (resultLen : Int) : Reads UInt8 (Option Nat) := do
  let len ← Dot11RmIe.len ele1
  let resultLen := resultLen - (len.toNat + DOT11_HDR_LEN : Nat)
  if resultLen > 0 then
    let ele2 := ele1 + (len.toNat + DOT11_HDR_LEN)
    let id ← Dot11RmIe.id ele2
    if id = DOT11_MNG_MEASURE_REQUEST_ID then
      let type ← Dot11RmIe.type ele2
      return if type = wanted then some ele2 else none
    else return none
  else return none

/-- The offsets that are assigned to `LCI` and to `LCR`; `size` is `sizeof(wifi_rtt_result)`. -/
def parseElements (size getLen : Nat) : Reads UInt8 (Option Nat × Option Nat) := do
  let resultLen : Int := getLen
  let resultLen := resultLen - size
  if resultLen > 0 then
    let resultLen := resultLen - size
    let ele1 := size
    let id ← Dot11RmIe.id ele1
    if id = DOT11_MNG_MEASURE_REQUEST_ID then
      let type ← Dot11RmIe.type ele1
      if type = DOT11_MEASURE_TYPE_LCI then
        let ele2 ← nextElement DOT11_MEASURE_TYPE_CIVICLOC ele1 resultLen
        return (some ele1, ele2)
      else if type = DOT11_MEASURE_TYPE_CIVICLOC then
        let ele2 ← nextElement DOT11_MEASURE_TYPE_LCI ele1 resultLen
        return (ele2, some ele1)
      else return (none, none)
    else return (none, none)
  else return (none, none)

/-- Where the two pointers are in a `wifi_rtt_result`. -/
structure RttLayout where
  size : Nat
  ptrSize : Nat
  lciOffset : Nat
  lcrOffset : Nat
  lci_le : lciOffset + ptrSize ≤ size
  lcr_le : lcrOffset + ptrSize ≤ size

/-- A pointer with the bits that the driver sent, or one into the copied payload. -/
inductive ElementPtr where
  | driver (value : Nat)
  | element (offset : Nat)
  deriving DecidableEq, Repr

def ElementPtr.NULL : ElementPtr := .driver 0

/-- A little-endian number. -/
def leValue (bytes : List UInt8) : Nat := bytes.foldr (fun b n => b.toNat + 2 ^ 8 * n) 0

/-- A stored result; `payload` is its memory but for the two pointers. -/
structure RttResult where
  payload : List UInt8
  LCI : ElementPtr
  LCR : ElementPtr
  deriving DecidableEq, Repr

/-- The copy of a payload in memory from `malloc`, with the offsets that are examined in it. -/
def copyResult (L : RttLayout) (heap : Mem UInt8) (payload : List UInt8) :
    RttResult × List Nat :=
  let rttResult := heap.write 0 payload
  let elements := parseElements L.size payload.length
  let driverPtr offset := ElementPtr.driver (leValue (rttResult.read offset L.ptrSize))
  let (LCI, LCR) := elements.value rttResult
  (⟨payload, LCI.elim (driverPtr L.lciOffset) .element, LCR.elim (driverPtr L.lcrOffset) .element⟩,
    elements.offsets rttResult)

/-! ## Payloads -/

inductive ElementKind where
  | lci
  | civicLoc
  deriving DecidableEq, Repr

def ElementKind.type : ElementKind → UInt8
  | .lci => DOT11_MEASURE_TYPE_LCI
  | .civicLoc => DOT11_MEASURE_TYPE_CIVICLOC

/-- A measurement element; its length field counts what follows it. -/
structure MeasureElement where
  kind : ElementKind
  token : UInt8
  mode : UInt8
  body : List UInt8
  body_length : body.length ≤ 252

def MeasureElement.bytes (e : MeasureElement) : List UInt8 :=
  DOT11_MNG_MEASURE_REQUEST_ID :: UInt8.ofNat (3 + e.body.length) :: e.token :: e.mode ::
    e.kind.type :: e.body

def MeasureElement.size (e : MeasureElement) : Nat := 5 + e.body.length

/-- A `wifi_rtt_result` as the driver sends it, and behind it at most one element of each kind. -/
structure RttPayload (L : RttLayout) where
  result : List UInt8
  result_length : result.length = L.size
  elements : List MeasureElement
  kinds : (elements.map MeasureElement.kind).Nodup

/-- The offset of the element of a kind, in a list of elements from an offset. -/
def elementOffset (kind : ElementKind) : Nat → List MeasureElement → Option Nat
  | _, [] => none
  | offset, e :: es =>
      if e.kind = kind then some offset else elementOffset kind (offset + e.size) es

namespace RttPayload

variable {L : RttLayout} (p : RttPayload L)

def bytes : List UInt8 := p.result ++ (p.elements.map MeasureElement.bytes).flatten

def offsetOf (kind : ElementKind) : Option Nat := elementOffset kind L.size p.elements

/-- The pointer as the driver sent it. -/
def driverPtr (kind : ElementKind) : Nat :=
  match kind with
  | .lci => leValue ((p.result.drop L.lciOffset).take L.ptrSize)
  | .civicLoc => leValue ((p.result.drop L.lcrOffset).take L.ptrSize)

end RttPayload

def RttResult.ptr (r : RttResult) : ElementKind → ElementPtr
  | .lci => r.LCI
  | .civicLoc => r.LCR

/-- The pointers of the copy are right, and nothing outside it was examined. -/
structure Located {L : RttLayout} (p : RttPayload L) (r : RttResult × List Nat) : Prop where
  present : ∀ kind offset, p.offsetOf kind = some offset → r.1.ptr kind = .element offset
  absent : ∀ kind, p.offsetOf kind = none → r.1.ptr kind = .NULL
  inBounds : ∀ i ∈ r.2, i < p.bytes.length

/-- The driver left the pointers of absent elements NULL, and a second element is longer than a
`wifi_rtt_result`. -/
structure Locatable {L : RttLayout} (p : RttPayload L) : Prop where
  absent : ∀ kind, p.offsetOf kind = none → p.driverPtr kind = 0
  second : ∀ e1 e2, p.elements = [e1, e2] → L.size < e2.size

/-! ## What is found -/

/-- There is an element in memory at an offset. -/
structure ElementAt (m : Mem UInt8) (offset : Nat) (e : MeasureElement) : Prop where
  id : m offset = DOT11_MNG_MEASURE_REQUEST_ID
  len : (m (offset + 1)).toNat + DOT11_HDR_LEN = e.size
  type : m (offset + 4) = e.kind.type

theorem elementAt_write (heap : Mem UInt8) (pre post : List UInt8) (e : MeasureElement) :
    ElementAt (heap.write 0 (pre ++ (e.bytes ++ post))) pre.length e := by
  have hget : ∀ i, (heap.write 0 (pre ++ (e.bytes ++ post))) (pre.length + i) =
      ((e.bytes ++ post)[i]?).getD (heap (pre.length + i)) := by
    intro i
    simp [Mem.write, List.getElem?_append_right]
  have hbody := e.body_length
  refine ⟨(hget 0).trans rfl, ?_, (hget 4).trans rfl⟩
  have hlen : (heap.write 0 (pre ++ (e.bytes ++ post))) (pre.length + 1) =
      UInt8.ofNat (3 + e.body.length) := (hget 1).trans rfl
  rw [hlen, UInt8.toNat_ofNat', Nat.mod_eq_of_lt (by omega), DOT11_HDR_LEN, MeasureElement.size]
  omega

section Parse

variable {m : Mem UInt8} {ele1 : Nat} {e1 e2 : MeasureElement} {resultLen : Int}

/-- Too little is left for a second element. -/
theorem nextElement_none (wanted : UInt8) (h1 : ElementAt m ele1 e1) (hle : resultLen ≤ e1.size) :
    (nextElement wanted ele1 resultLen).value m = none ∧
      (nextElement wanted ele1 resultLen).offsets m = [ele1 + 1] := by
  have hstop : ¬ resultLen - (e1.size : Nat) > 0 := by omega
  simp only [nextElement, Dot11RmIe.len, Reads.value_bind, Reads.offsets_bind, Reads.value_read,
    Reads.offsets_read, h1.len, hstop, if_false]
  exact ⟨rfl, rfl⟩

/-- Behind the first element there is another. -/
theorem nextElement_spec {wanted : ElementKind} (h1 : ElementAt m ele1 e1)
    (hlt : (e1.size : Int) < resultLen) (h2 : ElementAt m (ele1 + e1.size) e2)
    (hkind : e2.kind = wanted) :
    (nextElement wanted.type ele1 resultLen).value m = some (ele1 + e1.size) ∧
      (nextElement wanted.type ele1 resultLen).offsets m =
        [ele1 + 1, ele1 + e1.size, ele1 + e1.size + 4] := by
  have hgo : resultLen - (e1.size : Nat) > 0 := by omega
  simp only [nextElement, Dot11RmIe.len, Dot11RmIe.id, Dot11RmIe.type, Reads.value_bind,
    Reads.offsets_bind, Reads.value_read, Reads.offsets_read, h1.len, hgo, h2.id, h2.type, hkind,
    if_true]
  exact ⟨rfl, rfl⟩

/-- Nothing behind the `wifi_rtt_result`. -/
theorem parseElements_nil (size : Nat) (m : Mem UInt8) :
    (parseElements size size).value m = (none, none) ∧
      (parseElements size size).offsets m = [] := by
  have hstop : ¬ (size : Int) - size > 0 := by omega
  simp only [parseElements, hstop, if_false]
  exact ⟨rfl, rfl⟩

/-- The offsets for `LCI` and `LCR`, with the first element and the second. -/
def assigned (kind : ElementKind) (ele1 : Nat) (ele2 : Option Nat) : Option Nat × Option Nat :=
  match kind with
  | .lci => (some ele1, ele2)
  | .civicLoc => (ele2, some ele1)

/-- The type that a second element must have. -/
def ElementKind.other : ElementKind → ElementKind
  | .lci => .civicLoc
  | .civicLoc => .lci

/-- With an element behind the `wifi_rtt_result` the second one is looked for. -/
theorem parseElements_spec {size getLen : Nat} (h1 : ElementAt m size e1) (hlt : size < getLen) :
    (parseElements size getLen).value m = assigned e1.kind size
        ((nextElement e1.kind.other.type size (getLen - size - size)).value m) ∧
      (parseElements size getLen).offsets m = [size, size + 4] ++
        (nextElement e1.kind.other.type size (getLen - size - size)).offsets m := by
  have hgo : (getLen : Int) - size > 0 := by omega
  simp only [parseElements, Dot11RmIe.id, Dot11RmIe.type, Reads.value_bind, Reads.offsets_bind,
    Reads.value_read, Reads.offsets_read, hgo, h1.id, h1.type, if_true]
  cases e1.kind with
  | lci => simp [ElementKind.type, ElementKind.other, assigned]
  | civicLoc =>
    simp [ElementKind.type, ElementKind.other, assigned, DOT11_MEASURE_TYPE_LCI,
      DOT11_MEASURE_TYPE_CIVICLOC]

end Parse

/-! ## The copy of a payload -/

/-- What was assigned to the pointer of a kind. -/
def found (kind : ElementKind) (a : Option Nat × Option Nat) : Option Nat :=
  match kind with
  | .lci => a.1
  | .civicLoc => a.2

theorem found_assigned (kind : ElementKind) (ele1 : Nat) (ele2 : Option Nat) :
    found kind (assigned kind ele1 ele2) = some ele1 ∧
      found kind.other (assigned kind ele1 ele2) = ele2 := by
  cases kind <;> exact ⟨rfl, rfl⟩

theorem other_of_ne {k k' : ElementKind} (h : k ≠ k') : k' = k.other := by
  cases k <;> cases k' <;> first | rfl | exact absurd rfl h

theorem other_ne (k : ElementKind) : k ≠ k.other := by
  cases k <;> decide

theorem forall_kind {P : ElementKind → Prop} (k : ElementKind) :
    (∀ kind, P kind) ↔ P k ∧ P k.other := by
  refine ⟨fun h => ⟨h k, h k.other⟩, ?_⟩
  rintro ⟨hk, hother⟩ kind
  by_cases heq : k = kind
  · exact heq ▸ hk
  · exact other_of_ne heq ▸ hother

theorem MeasureElement.bytes_length (e : MeasureElement) : e.bytes.length = e.size := by
  simp only [bytes, size, List.length_cons]
  omega

namespace RttPayload

variable {L : RttLayout} (p : RttPayload L) (heap : Mem UInt8)

/-- There are no more than two elements, and two are of different kinds. -/
inductive ElementsCase : List MeasureElement → Prop
  | none : ElementsCase []
  | one (e) : ElementsCase [e]
  | two (e1 e2) : e2.kind = e1.kind.other → ElementsCase [e1, e2]

theorem elements_case : ElementsCase p.elements := by
  have hkinds := p.kinds
  match hel : p.elements with
  | [] => exact .none
  | [e] => exact .one e
  | [e1, e2] =>
    simp only [hel, List.map_cons, List.map_nil, List.nodup_cons, List.mem_singleton] at hkinds
    exact .two e1 e2 (other_of_ne hkinds.1)
  | e1 :: e2 :: e3 :: es =>
    simp only [hel, List.map_cons, List.nodup_cons, List.mem_cons, not_or] at hkinds
    obtain ⟨⟨h12, h13, -⟩, ⟨h23, -⟩, -⟩ := hkinds
    exact absurd ((other_of_ne h12).trans (other_of_ne h13).symm) h23

/-- The pointer fields of the copy, before anything is assigned. -/
theorem read_field {offset : Nat} (h : offset + L.ptrSize ≤ L.size) :
    (heap.write 0 p.bytes).read offset L.ptrSize = (p.result.drop offset).take L.ptrSize := by
  have hall := Mem.read_write_self heap 0 p.bytes
  have hlen : L.size ≤ p.bytes.length := by
    rw [bytes, List.length_append, p.result_length]
    exact Nat.le_add_right _ _
  have hres : (heap.write 0 p.bytes).read 0 L.size = p.result := by
    rw [← Mem.read_take _ _ hlen, hall, bytes, ← p.result_length, List.take_left]
  rw [← hres, Mem.read_drop _ _ (by omega), Mem.read_take _ _ (by omega), Nat.zero_add]

/-- A pointer of the copy. -/
theorem copyResult_ptr (kind : ElementKind) : (copyResult L heap p.bytes).1.ptr kind =
    (found kind ((parseElements L.size p.bytes.length).value (heap.write 0 p.bytes))).elim
      (.driver (p.driverPtr kind)) .element := by
  cases kind with
  | lci =>
    simp only [copyResult, RttResult.ptr, found, driverPtr, p.read_field heap L.lci_le]
  | civicLoc =>
    simp only [copyResult, RttResult.ptr, found, driverPtr, p.read_field heap L.lcr_le]

/-- What the parser finds: every element that is there, or only the first of two. -/
inductive ParseCase (a : Option Nat × Option Nat) : Prop
  | all : (∀ kind, found kind a = p.offsetOf kind) →
      (∀ e1 e2, p.elements = [e1, e2] → L.size < e2.size) → ParseCase a
  | first (e1 e2) : p.elements = [e1, e2] → e2.size ≤ L.size → found e2.kind a = .none →
      ParseCase a

/-- The parser on the copy of a payload. -/
def Parsed : Prop :=
  p.ParseCase ((parseElements L.size p.bytes.length).value (heap.write 0 p.bytes)) ∧
    (parseElements L.size p.bytes.length).InBounds p.bytes.length (heap.write 0 p.bytes)

theorem parsed_nil (hel : p.elements = []) : p.Parsed heap := by
  have hbytes : p.bytes.length = L.size := by simp [bytes, hel, p.result_length]
  obtain ⟨hvalue, hoffsets⟩ := parseElements_nil L.size (heap.write 0 p.bytes)
  rw [Parsed, Reads.InBounds, hbytes, hvalue, hoffsets]
  refine ⟨.all (fun kind => ?_) ?_, by simp⟩
  · rw [offsetOf, hel]
    cases kind <;> rfl
  · simp [hel]

/-- The first element of the copy. -/
theorem first_at {e : MeasureElement} {post : List UInt8}
    (hbytes : p.bytes = p.result ++ (e.bytes ++ post)) :
    ElementAt (heap.write 0 p.bytes) L.size e ∧
      p.bytes.length = L.size + e.size + post.length ∧ 5 ≤ e.size := by
  refine ⟨?_, ?_, Nat.le_add_right _ _⟩
  · rw [hbytes, ← p.result_length]
    exact elementAt_write heap p.result post e
  · rw [hbytes, List.length_append, List.length_append, p.result_length, e.bytes_length]
    omega

theorem parsed_one {e : MeasureElement} (hel : p.elements = [e]) : p.Parsed heap := by
  have hbytes : p.bytes = p.result ++ (e.bytes ++ []) := by simp [bytes, hel]
  obtain ⟨h1, hlen, hsize⟩ := p.first_at heap hbytes
  rw [List.length_nil, Nat.add_zero] at hlen
  have hlt : L.size < p.bytes.length := by omega
  have hle : (p.bytes.length : Int) - L.size - L.size ≤ e.size := by omega
  obtain ⟨hvalue, hoffsets⟩ := parseElements_spec h1 hlt
  obtain ⟨hnone, hread⟩ := nextElement_none e.kind.other.type h1 hle
  rw [Parsed, Reads.InBounds, hvalue, hoffsets, hnone, hread]
  refine ⟨.all ((forall_kind e.kind).mpr ?_) ?_, ?_⟩
  · rw [offsetOf, offsetOf, hel, (found_assigned _ _ _).1, (found_assigned _ _ _).2]
    simp [elementOffset, other_ne]
  · simp [hel]
  · simp
    omega

/-- The second subtraction of the size decides whether the second element is looked at. -/
theorem parsed_two {e1 e2 : MeasureElement} (hel : p.elements = [e1, e2])
    (hkind : e2.kind = e1.kind.other) : p.Parsed heap := by
  have hbytes : p.bytes = p.result ++ (e1.bytes ++ e2.bytes) := by simp [bytes, hel]
  obtain ⟨h1, hlen, hsize1⟩ := p.first_at heap hbytes
  have hsize2 : 5 ≤ e2.size := Nat.le_add_right _ _
  rw [e2.bytes_length] at hlen
  have h2 : ElementAt (heap.write 0 p.bytes) (L.size + e1.size) e2 := by
    have hat := elementAt_write heap (p.result ++ e1.bytes) [] e2
    rwa [List.length_append, p.result_length, e1.bytes_length, List.append_nil, List.append_assoc,
      ← hbytes] at hat
  have hlt : L.size < p.bytes.length := by omega
  obtain ⟨hvalue, hoffsets⟩ := parseElements_spec h1 hlt
  rw [Parsed, Reads.InBounds, hvalue, hoffsets]
  by_cases hfar : L.size < e2.size
  · have hlt2 : (e1.size : Int) < p.bytes.length - L.size - L.size := by omega
    obtain ⟨hsome, hread⟩ := nextElement_spec h1 hlt2 h2 hkind
    rw [hsome, hread]
    refine ⟨.all ((forall_kind e1.kind).mpr ?_) ?_, ?_⟩
    · rw [offsetOf, offsetOf, hel, (found_assigned _ _ _).1, (found_assigned _ _ _).2]
      simp [elementOffset, other_ne, hkind]
    · intro d1 d2 heq
      rw [hel] at heq
      obtain ⟨-, rfl⟩ : e1 = d1 ∧ e2 = d2 := by simpa using heq
      exact hfar
    · simp
      omega
  · have hle : (p.bytes.length : Int) - L.size - L.size ≤ e1.size := by omega
    obtain ⟨hnone, hread⟩ := nextElement_none e1.kind.other.type h1 hle
    rw [hnone, hread]
    refine ⟨.first e1 e2 hel (by omega) ?_, ?_⟩
    · rw [hkind, (found_assigned _ _ _).2]
    · simp
      omega

theorem parsed : p.Parsed heap := by
  have hcase := p.elements_case
  generalize hel : p.elements = es at hcase
  cases hcase with
  | none => exact p.parsed_nil heap hel
  | one e => exact p.parsed_one heap hel
  | two e1 e2 hkind => exact p.parsed_two heap hel hkind

/-- What the memory held before does not matter. -/
theorem copyResult_heap (heap heap' : Mem UInt8) :
    copyResult L heap p.bytes = copyResult L heap' p.bytes := by
  obtain ⟨-, hread⟩ := p.parsed heap
  have hcopy : (heap.write 0 p.bytes).read 0 p.bytes.length =
      (heap'.write 0 p.bytes).read 0 p.bytes.length := by
    rw [Mem.read_write_self, Mem.read_write_self]
  obtain ⟨hvalue, hoffsets⟩ := hread.run_eq hcopy
  simp only [copyResult, hvalue, hoffsets, p.read_field _ L.lci_le, p.read_field _ L.lcr_le]

end RttPayload

/-! ## Two elements -/

def exampleLayout : RttLayout := ⟨152, 8, 136, 144, by decide, by decide⟩

/-- A result with a short LCI element and a short civic location behind it. -/
def shortElements : RttPayload exampleLayout :=
  ⟨List.replicate 152 0, rfl,
    [⟨.lci, 1, 0, [0, 0], by decide⟩, ⟨.civicLoc, 2, 0, [0, 0], by decide⟩], by decide⟩

end Sloane.WifiHal
