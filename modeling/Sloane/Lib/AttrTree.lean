import Mathlib.Algebra.Order.Ring.Nat
import Sloane.Lib.Chunks
import Sloane.Lib.Mem

/-!
# Attributes in a message

An attribute has a header of two numbers, its length and its type, and behind it either a payload or
other attributes; its end is padded.  A message is written by appending attributes to it: an
attribute that others are nested in is started first, and gets its length when it is ended.  It is
read by walking over the attributes and into them.

* `Appends.seq`, `Appends.loop`, `Appends.nest` — what a program appends, or that it has no room.
* `shows_encodeAll` — the walk finds the attributes that were appended.
-/

namespace Sloane.Lib

/-! ## Numbers -/

/-- The `n` bytes of a number, the lowest first. -/
def leBytes : Nat → Nat → List UInt8
  | 0, _ => []
  | n + 1, x => .ofNat x :: leBytes n (x / 2 ^ 8)

def leNumber (bytes : List UInt8) : Nat := bytes.foldr (fun b n => b.toNat + 2 ^ 8 * n) 0

@[simp] theorem length_leBytes (n x : Nat) : (leBytes n x).length = n := by
  induction n generalizing x with
  | zero => rfl
  | succ n ih => exact congrArg (· + 1) (ih _)

theorem leNumber_leBytes {n x : Nat} (h : x < 2 ^ (8 * n)) : leNumber (leBytes n x) = x := by
  induction n generalizing x with
  | zero =>
    have hzero : x < 1 := h
    show 0 = x
    omega
  | succ n ih =>
    have hrest : x / 2 ^ 8 < 2 ^ (8 * n) := by
      apply Nat.div_lt_of_lt_mul
      rwa [← Nat.pow_add, Nat.add_comm 8]
    show (UInt8.ofNat x).toNat + 2 ^ 8 * leNumber (leBytes n (x / 2 ^ 8)) = x
    rw [ih hrest, UInt8.toNat_ofNat']
    omega

/-! ## Attributes -/

inductive AttrTree where
  | leaf (type : UInt16) (payload : List UInt8)
  | nest (type : UInt16) (attrs : List AttrTree)

def ATTR_HEADER : Nat := 4

def attrAlign (len : Nat) : Nat := (len + 3) / 4 * 4

theorem le_attrAlign (len : Nat) : len ≤ attrAlign len := by
  unfold attrAlign
  omega

def attrFormat : ChunkFormat where
  header := ATTR_HEADER
  step := attrAlign
  header_pos := by decide
  le_step := le_attrAlign

def attrHeader (len : Nat) (type : UInt16) : List UInt8 := leBytes 2 len ++ leBytes 2 type.toNat

/-- An attribute with this behind its header. -/
def attrBytes (type : UInt16) (content : List UInt8) : List UInt8 :=
  attrHeader (ATTR_HEADER + content.length) type ++ content ++
    .replicate (attrAlign content.length - content.length) 0

mutual

def AttrTree.encode : AttrTree → List UInt8
  | .leaf type payload => attrBytes type payload
  | .nest type attrs => attrBytes type (encodeAll attrs)

def encodeAll : List AttrTree → List UInt8
  | [] => []
  | a :: rest => a.encode ++ encodeAll rest

end

def AttrTree.type : AttrTree → UInt16
  | .leaf type _ | .nest type _ => type

/-- What is behind the header. -/
def AttrTree.content : AttrTree → List UInt8
  | .leaf _ payload => payload
  | .nest _ attrs => encodeAll attrs

theorem AttrTree.encode_eq (a : AttrTree) : a.encode = attrBytes a.type a.content := by
  cases a with
  | leaf type payload => rfl
  | nest type attrs => rfl

theorem encodeAll_append (a b : List AttrTree) :
    encodeAll (a ++ b) = encodeAll a ++ encodeAll b := by
  induction a with
  | nil => rfl
  | cons t a ih =>
    show t.encode ++ encodeAll (a ++ b) = t.encode ++ encodeAll a ++ encodeAll b
    rw [ih, List.append_assoc]

theorem length_attrBytes (type : UInt16) (content : List UInt8) :
    (attrBytes type content).length = attrAlign (ATTR_HEADER + content.length) := by
  simp only [attrBytes, attrHeader, List.length_append, length_leBytes, List.length_replicate,
    attrAlign, ATTR_HEADER]
  omega

/-- Attributes end at multiples of 4. -/
theorem encodeAll_aligned (attrs : List AttrTree) : (encodeAll attrs).length % 4 = 0 := by
  induction attrs with
  | nil => rfl
  | cons a rest ih =>
    have hcons : encodeAll (a :: rest) = attrBytes a.type a.content ++ encodeAll rest :=
      congrArg (· ++ encodeAll rest) a.encode_eq
    rw [hcons, List.length_append, length_attrBytes, attrAlign]
    omega

theorem length_content_le (type : UInt16) (content : List UInt8) :
    ATTR_HEADER + content.length ≤ (attrBytes type content).length := by
  rw [length_attrBytes]
  exact attrFormat.le_step _

/-! ## Reading -/

variable {m : Mem UInt8} {pos : Nat}

/-- The length that the header says. -/
def attrLenAt (m : Mem UInt8) (pos : Nat) : Nat := leNumber (m.read pos 2)

def attrTypeAt (m : Mem UInt8) (pos : Nat) : Nat := leNumber (m.read (pos + 2) 2)

/-- The attributes in a region. -/
def attrChunks (m : Mem UInt8) (pos rem : Nat) : List Chunk :=
  chunks attrFormat (attrLenAt m) pos rem

/-- What is found at a chunk, and in it. -/
inductive Shows (m : Mem UInt8) : Chunk → AttrTree → Prop
  | leaf {c type payload} : attrTypeAt m c.pos = UInt16.toNat type →
      m.read (c.pos + ATTR_HEADER) (c.len - ATTR_HEADER) = payload →
      Shows m c (.leaf type payload)
  | nest {c type attrs} : attrTypeAt m c.pos = UInt16.toNat type →
      List.Forall₂ (Shows m) (attrChunks m (c.pos + ATTR_HEADER) (c.len - ATTR_HEADER)) attrs →
      Shows m c (.nest type attrs)

theorem read_left {a b : List UInt8} (h : m.read pos (a ++ b).length = a ++ b) :
    m.read pos a.length = a := by
  rw [List.length_append, Mem.read_add] at h
  exact (List.append_inj h (Mem.read_length _ _ _)).1

theorem read_right {a b : List UInt8} (h : m.read pos (a ++ b).length = a ++ b) :
    m.read (pos + a.length) b.length = b := by
  rw [List.length_append, Mem.read_add] at h
  exact (List.append_inj h (Mem.read_length _ _ _)).2

/-- What the header of an attribute says, and what is behind it. -/
theorem read_attrBytes {type : UInt16} {content : List UInt8}
    (h : m.read pos (attrBytes type content).length = attrBytes type content)
    (hlen : ATTR_HEADER + content.length < 2 ^ 16) :
    attrLenAt m pos = ATTR_HEADER + content.length ∧ attrTypeAt m pos = type.toNat ∧
      m.read (pos + ATTR_HEADER) content.length = content := by
  rw [attrBytes, attrHeader, List.append_assoc, List.append_assoc] at h
  have hfirst := read_left h
  have hrest := read_right h
  have hsecond := read_left hrest
  have hcontent := read_left (read_right hrest)
  rw [length_leBytes] at hfirst
  rw [length_leBytes, length_leBytes] at hsecond hcontent
  refine ⟨?_, ?_, ?_⟩
  · rw [attrLenAt, hfirst]
    exact leNumber_leBytes hlen
  · rw [attrTypeAt, hsecond]
    exact leNumber_leBytes type.toNat_lt
  · exact hcontent

/-- The walk goes from an attribute to the next. -/
theorem attrChunks_cons {type : UInt16} {content rest : List UInt8}
    (h : m.read pos (attrBytes type content ++ rest).length = attrBytes type content ++ rest)
    (hlen : (attrBytes type content ++ rest).length < 2 ^ 16) :
    attrChunks m pos (attrBytes type content ++ rest).length =
      ⟨pos, ATTR_HEADER + content.length⟩ ::
        attrChunks m (pos + (attrBytes type content).length) rest.length := by
  have hsize : (attrBytes type content).length = attrFormat.step (ATTR_HEADER + content.length) :=
    length_attrBytes type content
  have hstep := attrFormat.le_step (ATTR_HEADER + content.length)
  rw [List.length_append] at hlen
  obtain ⟨hattr, -, -⟩ := read_attrBytes (read_left h) (by omega)
  have hfits : attrFormat.Fits (ATTR_HEADER + content.length)
      (attrBytes type content ++ rest).length := by
    rw [List.length_append]
    exact ⟨by show ATTR_HEADER ≤ _; omega, Nat.le_add_right _ _, by omega⟩
  unfold attrChunks
  rw [chunks_eq, hattr, if_pos hfits, List.length_append, hsize, Nat.add_sub_cancel_left]

mutual

/-- One attribute is found where it begins. -/
theorem shows_encode : ∀ (a : AttrTree) (pos : Nat), m.read pos a.encode.length = a.encode →
    a.encode.length < 2 ^ 16 → Shows m ⟨pos, ATTR_HEADER + a.content.length⟩ a
  | .leaf type payload, pos, h, hlen => by
    have hle := length_content_le type payload
    obtain ⟨-, htype, hpayload⟩ := read_attrBytes h (Nat.lt_of_le_of_lt hle hlen)
    refine .leaf htype ?_
    show m.read (pos + ATTR_HEADER) (ATTR_HEADER + payload.length - ATTR_HEADER) = payload
    rw [Nat.add_sub_cancel_left]
    exact hpayload
  | .nest type attrs, pos, h, hlen => by
    have hle := length_content_le type (encodeAll attrs)
    have hlt : ATTR_HEADER + (encodeAll attrs).length < 2 ^ 16 := Nat.lt_of_le_of_lt hle hlen
    obtain ⟨-, htype, hattrs⟩ := read_attrBytes h hlt
    refine .nest htype ?_
    show List.Forall₂ (Shows m) (attrChunks m (pos + ATTR_HEADER)
      (ATTR_HEADER + (encodeAll attrs).length - ATTR_HEADER)) attrs
    rw [Nat.add_sub_cancel_left]
    exact shows_encodeAll attrs _ hattrs (by omega)

/-- **The walk finds what was appended.** -/
theorem shows_encodeAll : ∀ (attrs : List AttrTree) (pos : Nat),
    m.read pos (encodeAll attrs).length = encodeAll attrs → (encodeAll attrs).length < 2 ^ 16 →
      List.Forall₂ (Shows m) (attrChunks m pos (encodeAll attrs).length) attrs
  | [], pos, _, _ => by
    have hend : attrChunks m pos 0 = [] := by
      unfold attrChunks
      rw [chunks_eq, if_neg fun hfits => absurd hfits.1 (by decide)]
    show List.Forall₂ (Shows m) (attrChunks m pos 0) []
    rw [hend]
    exact .nil
  | a :: rest, pos, h, hlen => by
    have hcons : encodeAll (a :: rest) = attrBytes a.type a.content ++ encodeAll rest :=
      congrArg (· ++ encodeAll rest) a.encode_eq
    rw [hcons] at h hlen ⊢
    have hsplit := @List.length_append _ (attrBytes a.type a.content) (encodeAll rest)
    have hfirst := read_left h
    rw [attrChunks_cons h hlen]
    refine .cons (shows_encode a pos ?_ ?_) (shows_encodeAll rest _ (read_right h) (by omega))
    · rw [a.encode_eq]
      exact hfirst
    · rw [a.encode_eq]
      omega

end

/-! ## Writing -/

/-- The attributes of a message, and how many bytes there is room for. -/
structure AttrMsg where
  bytes : List UInt8
  capacity : Nat

/-- How writing fails: an error is returned, or an attribute is ended that could not be started. -/
inductive WriteFail (ε : Type) where
  | refused (error : ε)
  | absent

/-- A program that writes a message. -/
abbrev AttrWriter (ε : Type) := StateT AttrMsg (Except (WriteFail ε))

namespace AttrWriter

variable {ε : Type}

def putAttr (full : ε) (type : UInt16) (payload : List UInt8) : AttrWriter ε Unit := fun msg =>
  if msg.bytes.length + (attrBytes type payload).length ≤ msg.capacity then
    .ok ((), { msg with bytes := msg.bytes ++ attrBytes type payload })
  else .error (.refused full)

/-- The offset of the attribute, if there is room for its header. -/
def nestStart (type : UInt16) : AttrWriter ε (Option Nat) := fun msg =>
  if msg.bytes.length + ATTR_HEADER ≤ msg.capacity then
    .ok (some msg.bytes.length, { msg with bytes := msg.bytes ++ attrBytes type [] })
  else .ok (none, msg)

/-- The attribute at an offset gets its length. -/
def setLength (start : Nat) (bytes : List UInt8) : List UInt8 :=
  bytes.take start ++ leBytes 2 (bytes.length - start) ++ bytes.drop (start + 2)

def nestEnd : Option Nat → AttrWriter ε Unit
  | none => fun _ => .error .absent
  | some start => fun msg => .ok ((), { msg with bytes := setLength start msg.bytes })

/-- Nothing tells whether the attribute could be started. -/
def nested (type : UInt16) (body : AttrWriter ε Unit) : AttrWriter ε Unit := do
  let attr ← nestStart type
  body
  nestEnd attr

/-- An attribute that cannot be started is an error at once. -/
def nestedOr (error : ε) (type : UInt16) (body : AttrWriter ε Unit) : AttrWriter ε Unit := do
  let attr ← nestStart type
  if attr.isNone then throw (.refused error)
  body
  nestEnd attr

/-- `for (i = 0; i < n; i++)`, from some `i`. -/
def forIndices (f : Nat → AttrWriter ε Unit) (i : Nat) : Nat → AttrWriter ε Unit
  | 0 => pure ()
  | n + 1 => do
      f i
      forIndices f (i + 1) n

end AttrWriter

/-- There is room for the attributes. -/
def AttrMsg.Room (msg : AttrMsg) (attrs : List AttrTree) : Prop :=
  msg.bytes.length + (encodeAll attrs).length ≤ msg.capacity

def AttrMsg.append (msg : AttrMsg) (attrs : List AttrTree) : AttrMsg :=
  { msg with bytes := msg.bytes ++ encodeAll attrs }

/-- **What a program appends**, if there is room; otherwise it returns an error. -/
structure Appends {ε : Type} (prog : AttrWriter ε Unit) (attrs : List AttrTree) : Prop where
  fits : ∀ msg : AttrMsg, msg.Room attrs → prog msg = .ok ((), msg.append attrs)
  full : ∀ msg : AttrMsg, msg.bytes.length ≤ msg.capacity → ¬ msg.Room attrs →
    ∃ error, prog msg = .error (.refused error)

theorem AttrMsg.append_append (msg : AttrMsg) (a b : List AttrTree) :
    (msg.append a).append b = msg.append (a ++ b) := by
  simp only [AttrMsg.append, encodeAll_append, List.append_assoc]

theorem AttrMsg.room_append {msg : AttrMsg} {a b : List AttrTree} :
    msg.Room (a ++ b) ↔ msg.Room a ∧ (msg.append a).Room b := by
  simp only [AttrMsg.Room, AttrMsg.append, encodeAll_append, List.length_append]
  omega

namespace AttrWriter

variable {ε : Type} {msg msg' : AttrMsg}

theorem bind_ok {α β : Type} {x : AttrWriter ε α} {f : α → AttrWriter ε β} {a : α}
    (h : x msg = .ok (a, msg')) : (x >>= f) msg = f a msg' := by
  show (x msg).bind (fun r => f r.1 r.2) = f a msg'
  rw [h]
  rfl

theorem bind_error {α β : Type} {x : AttrWriter ε α} {f : α → AttrWriter ε β}
    {fail : WriteFail ε} (h : x msg = .error fail) : (x >>= f) msg = .error fail := by
  show (x msg).bind (fun r => f r.1 r.2) = .error fail
  rw [h]
  rfl

end AttrWriter

namespace Appends

open AttrWriter

variable {ε : Type} {prog next : AttrWriter ε Unit} {attrs attrs' : List AttrTree}

theorem nil : Appends (pure () : AttrWriter ε Unit) [] where
  fits msg _ := by
    show Except.ok ((), msg) = .ok ((), { msg with bytes := msg.bytes ++ [] })
    rw [List.append_nil]
  full msg hmsg hfull := absurd hmsg hfull

theorem put (full : ε) (type : UInt16) (payload : List UInt8) :
    Appends (putAttr full type payload) [.leaf type payload] := by
  have hencode : encodeAll [.leaf type payload] = attrBytes type payload := List.append_nil _
  constructor
  · intro msg h
    unfold AttrMsg.Room at h
    unfold AttrMsg.append
    rw [hencode] at h ⊢
    exact if_pos h
  · intro msg _ h
    unfold AttrMsg.Room at h
    rw [hencode] at h
    exact ⟨full, if_neg h⟩

theorem seq (h : Appends prog attrs) (h' : Appends next attrs') :
    Appends (do prog; next) (attrs ++ attrs') where
  fits msg hroom := by
    obtain ⟨hfirst, hsecond⟩ := AttrMsg.room_append.mp hroom
    rw [bind_ok (h.fits msg hfirst), h'.fits _ hsecond, AttrMsg.append_append]
  full msg hmsg hfull := by
    by_cases hfirst : msg.Room attrs
    · have hsecond : ¬ (msg.append attrs).Room attrs' := fun hroom =>
        hfull (AttrMsg.room_append.mpr ⟨hfirst, hroom⟩)
      have hle : (msg.append attrs).bytes.length ≤ (msg.append attrs).capacity := by
        rw [AttrMsg.append, List.length_append]
        exact hfirst
      obtain ⟨error, herror⟩ := h'.full _ hle hsecond
      exact ⟨error, (bind_ok (h.fits msg hfirst)).trans herror⟩
    · obtain ⟨error, herror⟩ := h.full msg hmsg hfirst
      exact ⟨error, bind_error herror⟩

/-- A loop appends an attribute in each round. -/
theorem loop {f : Nat → AttrWriter ε Unit} {g : Nat → AttrTree} {i n : Nat}
    (h : ∀ k, i ≤ k → k < i + n → Appends (f k) [g k]) :
    Appends (forIndices f i n) ((List.range' i n).map g) := by
  induction n generalizing i with
  | zero => exact nil
  | succ n ih =>
    have hrest : Appends (forIndices f (i + 1) n) ((List.range' (i + 1) n).map g) :=
      ih fun k hle hlt => h k (by omega) (by omega)
    exact (h i (Nat.le_refl i) (by omega)).seq hrest

/-! ### Nesting -/

/-- The header of an attribute that was just started, with its length filled in. -/
theorem setLength_append (type : UInt16) (bytes content : List UInt8) (h : content.length % 4 = 0) :
    setLength bytes.length (bytes ++ attrBytes type [] ++ content) =
      bytes ++ attrBytes type content := by
  have hopen : attrBytes type [] = leBytes 2 ATTR_HEADER ++ leBytes 2 type.toNat :=
    List.append_nil _
  have hclosed : attrBytes type content =
      leBytes 2 (ATTR_HEADER + content.length) ++ leBytes 2 type.toNat ++ content := by
    have haligned : attrAlign content.length - content.length = 0 := by
      unfold attrAlign
      omega
    rw [attrBytes, haligned]
    exact List.append_nil _
  have hlength : (bytes ++ attrBytes type [] ++ content).length - bytes.length =
      ATTR_HEADER + content.length := by
    rw [List.length_append, List.length_append, length_attrBytes]
    show bytes.length + ATTR_HEADER + content.length - bytes.length = _
    omega
  have hdrop : (bytes ++ attrBytes type [] ++ content).drop (bytes.length + 2) =
      leBytes 2 type.toNat ++ content := by
    rw [List.append_assoc, List.drop_append, hopen, List.append_assoc]
    rw [List.drop_of_length_le (by omega), List.nil_append, Nat.add_sub_cancel_left]
    exact List.drop_left' (length_leBytes 2 _)
  unfold setLength
  rw [hlength, hdrop, hclosed, List.append_assoc bytes, List.take_left]
  simp only [List.append_assoc]

/-- What is started. -/
theorem nestStart_ok {type : UInt16} {msg : AttrMsg}
    (h : msg.bytes.length + ATTR_HEADER ≤ msg.capacity) :
    (nestStart type : AttrWriter ε (Option Nat)) msg =
      .ok (some msg.bytes.length, { msg with bytes := msg.bytes ++ attrBytes type [] }) := if_pos h

theorem nestStart_null {type : UInt16} {msg : AttrMsg}
    (h : ¬ msg.bytes.length + ATTR_HEADER ≤ msg.capacity) :
    (nestStart type : AttrWriter ε (Option Nat)) msg = .ok (none, msg) := if_neg h

theorem length_encodeAll_nest (type : UInt16) (attrs : List AttrTree) :
    (encodeAll [.nest type attrs]).length = ATTR_HEADER + (encodeAll attrs).length := by
  have hencode : encodeAll [.nest type attrs] = attrBytes type (encodeAll attrs) :=
    List.append_nil _
  have haligned := encodeAll_aligned attrs
  rw [hencode, length_attrBytes, attrAlign, ATTR_HEADER]
  omega

/-- The attributes between the start of another one and its end. -/
theorem body_spec (h : Appends prog attrs) (type : UInt16) {msg : AttrMsg}
    (hroom : msg.bytes.length + ATTR_HEADER ≤ msg.capacity) :
    (msg.Room [.nest type attrs] → (do prog; nestEnd (some msg.bytes.length))
        { msg with bytes := msg.bytes ++ attrBytes type [] } =
      .ok ((), msg.append [.nest type attrs])) ∧
    (¬ msg.Room [.nest type attrs] → ∃ error, (do prog; nestEnd (some msg.bytes.length))
        { msg with bytes := msg.bytes ++ attrBytes type [] } = .error (.refused error)) := by
  have hheader : (attrBytes type []).length = ATTR_HEADER := length_attrBytes type []
  have hinner : msg.Room [.nest type attrs] ↔
      AttrMsg.Room { msg with bytes := msg.bytes ++ attrBytes type [] } attrs := by
    show _ ↔ (msg.bytes ++ attrBytes type []).length + (encodeAll attrs).length ≤ msg.capacity
    unfold AttrMsg.Room
    rw [length_encodeAll_nest, List.length_append, hheader]
    omega
  constructor
  · intro h'
    rw [bind_ok (h.fits _ (hinner.mp h'))]
    have hencode : encodeAll [.nest type attrs] = attrBytes type (encodeAll attrs) :=
      List.append_nil _
    have hset := setLength_append type msg.bytes (encodeAll attrs) (encodeAll_aligned attrs)
    simp only [nestEnd, AttrMsg.append, hset, hencode]
  · intro h'
    have hle : (msg.bytes ++ attrBytes type []).length ≤ msg.capacity := by
      rw [List.length_append, hheader]
      exact hroom
    obtain ⟨error, herror⟩ := h.full _ hle fun hin => h' (hinner.mpr hin)
    exact ⟨error, bind_error herror⟩

/-- Some attributes need more room than a header. -/
theorem header_le {attrs : List AttrTree} (hne : attrs ≠ []) :
    ATTR_HEADER ≤ (encodeAll attrs).length := by
  cases attrs with
  | nil => exact absurd rfl hne
  | cons a rest =>
    have hcons : encodeAll (a :: rest) = attrBytes a.type a.content ++ encodeAll rest :=
      congrArg (· ++ encodeAll rest) a.encode_eq
    have hle := length_content_le a.type a.content
    rw [hcons, List.length_append]
    omega

theorem not_room_nest {type : UInt16} {msg : AttrMsg}
    (h : ¬ msg.bytes.length + ATTR_HEADER ≤ msg.capacity) : ¬ msg.Room [.nest type attrs] := by
  unfold AttrMsg.Room
  rw [length_encodeAll_nest]
  omega

/-- **Attributes nested in another one**: where there is no room for its header, there is none for
them either, so that it is not missed. -/
theorem nest (h : Appends prog attrs) (type : UInt16) (hne : attrs ≠ []) :
    Appends (nested type prog) [.nest type attrs] where
  fits msg hroom := by
    have hheader : msg.bytes.length + ATTR_HEADER ≤ msg.capacity := by
      by_contra hnone
      exact not_room_nest hnone hroom
    unfold nested
    rw [bind_ok (nestStart_ok hheader)]
    exact (body_spec h type hheader).1 hroom
  full msg hmsg hfull := by
    unfold nested
    by_cases hheader : msg.bytes.length + ATTR_HEADER ≤ msg.capacity
    · rw [bind_ok (nestStart_ok hheader)]
      exact (body_spec h type hheader).2 hfull
    · have hbody : ¬ msg.Room attrs := by
        have hle := header_le hne
        unfold AttrMsg.Room
        omega
      obtain ⟨error, herror⟩ := h.full msg hmsg hbody
      rw [bind_ok (nestStart_null hheader)]
      exact ⟨error, bind_error herror⟩

theorem nestOr (h : Appends prog attrs) (error : ε) (type : UInt16) :
    Appends (nestedOr error type prog) [.nest type attrs] where
  fits msg hroom := by
    have hheader : msg.bytes.length + ATTR_HEADER ≤ msg.capacity := by
      by_contra hnone
      exact not_room_nest hnone hroom
    unfold nestedOr
    rw [bind_ok (nestStart_ok hheader)]
    exact (body_spec h type hheader).1 hroom
  full msg hmsg hfull := by
    unfold nestedOr
    by_cases hheader : msg.bytes.length + ATTR_HEADER ≤ msg.capacity
    · rw [bind_ok (nestStart_ok hheader)]
      exact (body_spec h type hheader).2 hfull
    · rw [bind_ok (nestStart_null hheader)]
      exact ⟨error, rfl⟩

end Appends

end Sloane.Lib
