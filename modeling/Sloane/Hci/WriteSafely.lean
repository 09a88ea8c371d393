import Sloane.Hci.H4Protocol

/-!
# Writing one buffer

Model of the loop of `HciProtocol::WriteSafely` (`hci_protocol.cc`) with its variables.  What
`TEMP_FAILURE_RETRY` gives for one `write` is a `WriteResult`; its count is cut to what is asked
for.

* `Inv.iterate`, `writeLoop_spec` — what an iteration keeps, and a run of the loop.
* `writeSafely_exact` — how much is on the wire when the loop is left.
* `writeSafely_eq` — the bytes are those that `writeSafely` gives for the H4 protocol.
* `writeSafely_of_succeed` — with enough successful writes all is sent.
-/

namespace Sloane.Hci

/-- What `write` returns when it is asked for `length` bytes. -/
def WriteResult.cut (length : Nat) : WriteResult → WriteResult
  | .written n => .written (min n length)
  | .again => .again
  | .error => .error

/-- The variables of `WriteSafely`, and the bytes that have reached the fd. -/
structure WriteLoop where
  transmittedLength : Nat
  length : Nat
  wire : List UInt8
  deriving DecidableEq, Repr

/-- Why the loop is left. -/
inductive WriteEnd where
  /-- nothing is left to write -/
  | done
  | error
  | zeroBytes
  /-- it is not left: the results end while it is retrying -/
  | retrying
  deriving DecidableEq, Repr

/-- One iteration, with `transmitted_length` as the offset into the data. -/
def WriteLoop.iterate (data : List UInt8) (s : WriteLoop) (r : WriteResult) :
    Except WriteEnd WriteLoop :=
  match r.cut s.length with
  | .again => .ok s
  | .error => .error .error
  | .written ret =>
      if ret = 0 then .error .zeroBytes
      else
        .ok {
          transmittedLength := s.transmittedLength + ret
          length := s.length - ret
          wire := s.wire ++ (data.drop s.transmittedLength).take ret }

def writeLoop (data : List UInt8) : List WriteResult → WriteLoop → WriteLoop × WriteEnd
  | [], s => (s, if s.length = 0 then .done else .retrying)
  | r :: rs, s =>
      if s.length = 0 then (s, .done)
      else
        match s.iterate data r with
        | .error fate => (s, fate)
        | .ok s => writeLoop data rs s

def WriteLoop.init (data : List UInt8) : WriteLoop := ⟨0, data.length, []⟩

/-- `WriteSafely`; it returns `transmittedLength`, unless it is still retrying. -/
def HciProtocol.writeSafely (rs : List WriteResult) (data : List UInt8) : WriteLoop × WriteEnd :=
  writeLoop data rs (.init data)

/-! ## The invariant -/

variable {data : List UInt8} {s t : WriteLoop} {r : WriteResult} {rs : List WriteResult}
  {fate : WriteEnd}

/-- What is on the wire is the part of the data in front of the offset, and `length` is the rest. -/
structure WriteLoop.Inv (data : List UInt8) (s : WriteLoop) : Prop where
  wire : s.wire = data.take s.transmittedLength
  length : s.transmittedLength + s.length = data.length

namespace WriteLoop

theorem Inv.init (data : List UInt8) : Inv data (.init data) := ⟨rfl, Nat.zero_add _⟩

/-- An iteration that goes on has got on, or met `EAGAIN`. -/
inductive IterateCase (data : List UInt8) (s : WriteLoop) : WriteResult → WriteLoop → Prop
  | again : IterateCase data s .again s
  | written {n ret} : ret ≠ 0 → ret ≤ s.length → IterateCase data s (.written n)
      ⟨s.transmittedLength + ret, s.length - ret,
        s.wire ++ (data.drop s.transmittedLength).take ret⟩

theorem iterate_case (h : s.iterate data r = .ok t) : IterateCase data s r t := by
  cases r with
  | again =>
    cases h
    exact .again
  | error => cases h
  | written n =>
    simp only [iterate, WriteResult.cut] at h
    split at h
    · cases h
    · rename_i hret
      cases h
      exact .written hret (Nat.min_le_right _ _)

/-- **One iteration keeps the invariant.** -/
theorem Inv.iterate (h : s.Inv data) (hstep : s.iterate data r = .ok t) : t.Inv data := by
  cases iterate_case hstep with
  | again => exact h
  | written _ hle =>
    constructor
    · simp only
      rw [h.wire, ← List.take_add]
    · have hlen := h.length
      simp only
      omega

/-- What an iteration leaves the loop with. -/
theorem iterate_error (hlen : s.length ≠ 0) (h : s.iterate data r = .error fate) :
    fate = .error ∧ r = .error ∨ fate = .zeroBytes ∧ r = .written 0 := by
  cases r with
  | again => cases h
  | error =>
    cases h
    exact .inl ⟨rfl, rfl⟩
  | written n =>
    simp only [iterate, WriteResult.cut] at h
    split at h
    · rename_i hret
      cases h
      have hn : n = 0 := by omega
      exact .inr ⟨rfl, by rw [hn]⟩
    · cases h

end WriteLoop

/-! ## The loop -/

/-- How many results are no `EAGAIN`. -/
def attempts (rs : List WriteResult) : Nat := rs.countP (· ≠ .again)

@[simp] theorem attempts_again (rs : List WriteResult) : attempts (.again :: rs) = attempts rs :=
  List.countP_cons_of_neg (by decide)

@[simp] theorem attempts_written (n : Nat) (rs : List WriteResult) :
    attempts (.written n :: rs) = attempts rs + 1 :=
  List.countP_cons_of_pos (by simp)

/-- A run of the loop from `s` to `t`. -/
structure WriteRun (data : List UInt8) (rs : List WriteResult) (s t : WriteLoop)
    (fate : WriteEnd) : Prop where
  inv : t.Inv data
  done : fate = .done ↔ t.length = 0
  error : fate = .error → .error ∈ rs
  zeroBytes : fate = .zeroBytes → .written 0 ∈ rs
  retrying : fate = .retrying → attempts rs < s.length

/-- **A run of the loop.** -/
theorem writeLoop_spec (rs : List WriteResult) (h : s.Inv data) :
    WriteRun data rs s (writeLoop data rs s).1 (writeLoop data rs s).2 := by
  induction rs generalizing s with
  | nil =>
    unfold writeLoop
    by_cases hlen : s.length = 0
    · rw [if_pos hlen]
      exact ⟨h, iff_of_true rfl hlen, nofun, nofun, nofun⟩
    · rw [if_neg hlen]
      exact ⟨h, iff_of_false nofun hlen, nofun, nofun, fun _ => Nat.pos_of_ne_zero hlen⟩
  | cons r rs ih =>
    unfold writeLoop
    by_cases hlen : s.length = 0
    · rw [if_pos hlen]
      exact ⟨h, iff_of_true rfl hlen, nofun, nofun, nofun⟩
    rw [if_neg hlen]
    split
    · rename_i fate hstep
      obtain ⟨rfl, rfl⟩ | ⟨rfl, rfl⟩ := WriteLoop.iterate_error hlen hstep
      · exact ⟨h, iff_of_false nofun hlen, fun _ => List.mem_cons_self, nofun, nofun⟩
      · exact ⟨h, iff_of_false nofun hlen, nofun, fun _ => List.mem_cons_self, nofun⟩
    · rename_i t hstep
      have hrun := ih (h.iterate hstep)
      refine ⟨hrun.inv, hrun.done, fun hf => ?_, fun hf => ?_, fun hf => ?_⟩
      · exact List.mem_cons_of_mem _ (hrun.error hf)
      · exact List.mem_cons_of_mem _ (hrun.zeroBytes hf)
      · have hrest := hrun.retrying hf
        cases WriteLoop.iterate_case hstep with
        | again => rwa [attempts_again]
        | written hret hle =>
          rw [attempts_written]
          simp only at hrest
          omega

theorem writeSafely_run (rs : List WriteResult) (data : List UInt8) :
    WriteRun data rs (.init data) (HciProtocol.writeSafely rs data).1
      (HciProtocol.writeSafely rs data).2 :=
  writeLoop_spec rs (.init data)

/-- What is asked of `WriteSafely`: the first `transmittedLength` bytes of the data are on the wire;
these are all of them unless an error or an empty write has ended the loop; and the loop is left,
however often `EAGAIN` comes between the other results. -/
structure WritesExactly (data : List UInt8) (rs : List WriteResult) (r : WriteLoop × WriteEnd) :
    Prop where
  sent : r.1.wire = data.take r.1.transmittedLength
  count : r.1.wire.length = r.1.transmittedLength
  total : r.1.transmittedLength = data.length ↔ r.2 = .done
  error : r.2 = .error → .error ∈ rs
  zeroBytes : r.2 = .zeroBytes → .written 0 ∈ rs
  returns : data.length ≤ attempts rs → r.2 ≠ .retrying

/-- **`WriteSafely` sends what it says.** -/
theorem writeSafely_exact (data : List UInt8) (rs : List WriteResult) :
    WritesExactly data rs (HciProtocol.writeSafely rs data) := by
  have hrun := writeSafely_run rs data
  have hlen := hrun.inv.length
  refine ⟨hrun.inv.wire, ?_, ?_, hrun.error, hrun.zeroBytes, fun hmany hf => ?_⟩
  · rw [hrun.inv.wire, List.length_take_of_le (by omega)]
  · rw [hrun.done]
    omega
  · have hfew : attempts rs < data.length := hrun.retrying hf
    omega

/-- Two interrupted writes and an error. -/
example : HciProtocol.writeSafely [.again, .written 2, .again, .written 1, .error] [1, 2, 3, 4] =
    (⟨3, 1, [1, 2, 3]⟩, .error) := by decide

/-! ## Sending over the H4 protocol -/

namespace WriteLoop

/-- The rest of the data has the length that is left. -/
theorem Inv.rest_length (h : s.Inv data) :
    (data.drop s.transmittedLength).length = s.length := by
  have hlen := h.length
  rw [List.length_drop]
  omega

theorem Inv.rest_nil (h : s.Inv data) (hlen : s.length = 0) : data.drop s.transmittedLength = [] :=
  List.eq_nil_of_length_eq_zero (h.rest_length.trans hlen)

theorem Inv.rest_cons (h : s.Inv data) (hlen : s.length ≠ 0) :
    ∃ b rest, data.drop s.transmittedLength = b :: rest := by
  apply List.exists_cons_of_ne_nil
  intro hnil
  apply hlen
  rw [← h.rest_length, hnil, List.length_nil]

/-- A count that is cut to the length of the data takes the same of it. -/
theorem written_cut (n : Nat) (rest : List UInt8) :
    rest.take n = rest.take (min n rest.length) ∧ rest.drop n = rest.drop (min n rest.length) := by
  rw [List.take_eq_take_iff, List.drop_eq_drop_iff]
  omega

end WriteLoop

/-- From any point of the loop the rest of the data is written as by `writeSafely`. -/
theorem writeLoop_eq (rs : List WriteResult) (h : s.Inv data) :
    (writeSafely rs (data.drop s.transmittedLength)).map (s.wire ++ ·) =
      if (writeLoop data rs s).2 = .retrying then none else some (writeLoop data rs s).1.wire := by
  induction rs generalizing s with
  | nil =>
    unfold writeLoop
    by_cases hlen : s.length = 0
    · simp [h.rest_nil hlen, hlen, writeSafely]
    · obtain ⟨b, rest, hrest⟩ := h.rest_cons hlen
      simp [hrest, hlen, writeSafely]
  | cons r rs ih =>
    unfold writeLoop
    by_cases hlen : s.length = 0
    · simp [h.rest_nil hlen, hlen, writeSafely]
    obtain ⟨b, rest, hrest⟩ := h.rest_cons hlen
    rw [if_neg hlen]
    cases r with
    | again =>
      have hgo := ih h
      rw [hrest] at hgo ⊢
      exact hgo
    | error =>
      rw [hrest]
      simp [WriteLoop.iterate, WriteResult.cut, writeSafely]
    | written n =>
      by_cases hn : n = 0
      · rw [hrest]
        simp [WriteLoop.iterate, WriteResult.cut, writeSafely, hn]
      · have hret : min n s.length ≠ 0 := by omega
        have hstep : s.iterate data (.written n) = .ok ⟨s.transmittedLength + min n s.length,
            s.length - min n s.length,
            s.wire ++ (data.drop s.transmittedLength).take (min n s.length)⟩ := by
          simp only [WriteLoop.iterate, WriteResult.cut, if_neg hret]
        obtain ⟨htake, hdrop⟩ := WriteLoop.written_cut n (data.drop s.transmittedLength)
        rw [h.rest_length] at htake hdrop
        have hgo := ih (h.iterate hstep)
        rw [hstep, ← hgo, ← List.drop_drop, ← htake, ← hdrop, hrest]
        simp [writeSafely, hn, Option.map_map, Function.comp_def]

/-- **The bytes are those of `writeSafely`.** -/
theorem writeSafely_eq (rs : List WriteResult) (data : List UInt8) :
    writeSafely rs data =
      if (HciProtocol.writeSafely rs data).2 = .retrying then none
      else some (HciProtocol.writeSafely rs data).1.wire := by
  unfold HciProtocol.writeSafely
  rw [← writeLoop_eq rs (.init data)]
  simp [WriteLoop.init]

/-- The results of a `WriteSafely` that sends `length` bytes. -/
structure Succeed (rs : List WriteResult) (length : Nat) : Prop where
  success : ∀ r ∈ rs, r ≠ .error ∧ r ≠ .written 0
  enough : length ≤ attempts rs

theorem Succeed.mono {m n : Nat} (h : Succeed rs n) (hle : m ≤ n) : Succeed rs m :=
  ⟨h.success, Nat.le_trans hle h.enough⟩

/-- With enough successful writes all is sent. -/
theorem writeSafely_of_succeed (h : Succeed rs data.length) : writeSafely rs data = some data := by
  have hreturns : (HciProtocol.writeSafely rs data).2 ≠ .retrying := by
    intro hf
    have hfew : attempts rs < data.length := (writeSafely_run rs data).retrying hf
    exact absurd h.enough (Nat.not_le.mpr hfew)
  have hsome := writeSafely_eq rs data
  rw [if_neg hreturns] at hsome
  rw [hsome, writeSafely_complete hsome h.success]

end Sloane.Hci
