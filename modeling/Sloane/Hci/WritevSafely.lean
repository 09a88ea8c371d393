import Sloane.Hci.H4Protocol

/-!
# Writing a list of buffers

Model of `HciProtocol::WritevSafely` (`hci_protocol.cc`).  An `iovec` is the bytes it points to.
The inner loop takes entries away without a look at `iovcnt`; an access behind the last entry is a
fault.

* `consume_spec` — the entries that are left after some bytes, and when the last one is passed.
* `writevSafely_spec` — what is sent, and how the loop ends.
* `writesSafely_iff` — the loop keeps to its entries exactly when it does not send them all.
-/

namespace Sloane.Hci

/-- `iovec`: the `iov_len` bytes at `iov_base`. -/
abbrev Iovec := List UInt8

/-- How `WritevSafely` ends. -/
inductive WritevEnd where
  | returned (transmittedLength : Nat)
  /-- still retrying when the results end -/
  | retrying
  /-- an access behind the last entry -/
  | outside
  deriving DecidableEq, Repr

/-- The inner loop and the partial entry after it, for the `ret` bytes that were written; `none`
when `iov` is behind the last entry. -/
def consume : List Iovec → Nat → Option (List Iovec)
  | [], _ => none
  | entry :: iov, ret =>
      if ret ≥ entry.length then consume iov (ret - entry.length)
      else if ret > 0 then some (entry.drop ret :: iov)
      else some (entry :: iov)

/-- `WritevSafely`: the bytes that reach the fd, and the end.  `iovcnt` is the length of `iov`. -/
def writevLoop : List WriteResult → List Iovec → Nat → List UInt8 × WritevEnd
  | _, [], transmittedLength => ([], .returned transmittedLength)
  | [], _ :: _, _ => ([], .retrying)
  | .again :: rs, iov, transmittedLength => writevLoop rs iov transmittedLength
  | .error :: _, _, transmittedLength => ([], .returned transmittedLength)
  | .written ret :: rs, iov, transmittedLength =>
      if ret = 0 then ([], .returned transmittedLength)
      else
        match consume iov ret with
        | none => (iov.flatten.take ret, .outside)
        | some iov' =>
            let (sent, fate) := writevLoop rs iov' (transmittedLength + ret)
            (iov.flatten.take ret ++ sent, fate)

def writevSafely (rs : List WriteResult) (iov : List Iovec) : List UInt8 × WritevEnd :=
  writevLoop rs iov 0

/-! ## What is asked of it -/

/-- The counts up to the first error or empty write, added up. -/
def writtenTotal : List WriteResult → Nat
  | [] => 0
  | .again :: rs => writtenTotal rs
  | .error :: _ => 0
  | .written ret :: rs => if ret = 0 then 0 else ret + writtenTotal rs

/-- Only the given entries are accessed, what is sent is a prefix of them as long as is returned,
and it is all unless there was an error or an empty write. -/
structure WritesSafely (rs : List WriteResult) (iov : List Iovec) (r : List UInt8 × WritevEnd) :
    Prop where
  inside : r.2 ≠ .outside
  sent : r.1 <+: iov.flatten
  length : ∀ n, r.2 = .returned n → n = r.1.length
  total : ∀ n, r.2 = .returned n → (∀ r ∈ rs, r ≠ .error ∧ r ≠ .written 0) →
    n = iov.flatten.length

/-! ## The loops -/

/-- **The entries that are left** hold the bytes that are left; with none left the inner loop runs
past the last entry. -/
theorem consume_spec (iov : List Iovec) (ret : Nat) :
    (iov.flatten.length ≤ ret → consume iov ret = none) ∧
      (ret < iov.flatten.length →
        ∃ iov', consume iov ret = some iov' ∧ iov'.flatten = iov.flatten.drop ret) := by
  induction iov generalizing ret with
  | nil => exact ⟨fun _ => rfl, fun h => absurd h (Nat.not_lt_zero _)⟩
  | cons entry iov ih =>
    obtain ⟨hnone, hsome⟩ := ih (ret - entry.length)
    rw [consume, List.flatten_cons, List.length_append]
    by_cases hge : ret ≥ entry.length
    · rw [if_pos hge, List.drop_append, List.drop_of_length_le hge, List.nil_append]
      exact ⟨fun h => hnone (by omega), fun h => hsome (by omega)⟩
    · rw [if_neg hge, List.drop_append_of_le_length (by omega)]
      refine ⟨fun h => absurd h (by omega), fun _ => ?_⟩
      by_cases hpos : ret > 0
      · exact ⟨_, if_pos hpos, rfl⟩
      · obtain rfl : ret = 0 := by omega
        exact ⟨_, if_neg hpos, rfl⟩

/-- The loop sends the first `w` bytes, and ends outside exactly if these are all there are. -/
structure Writes (iov : List Iovec) (t w : Nat) (r : List UInt8 × WritevEnd) : Prop where
  sent : r.1 = iov.flatten.take w
  outside : r.2 = .outside ↔ iov.flatten ≠ [] ∧ w = iov.flatten.length
  returned : ∀ n, r.2 = .returned n → n = t + w

variable {iov iov' : List Iovec} {t w ret : Nat} {fate : WritevEnd}

theorem Writes.nothing (hin : fate ≠ .outside) (hret : ∀ n, fate = .returned n → n = t) :
    Writes iov t 0 ([], fate) where
  sent := rfl
  outside := iff_of_false hin fun h => h.1 (List.eq_nil_of_length_eq_zero h.2.symm)
  returned := hret

/-- All that is left was written. -/
theorem Writes.all (hne : iov.flatten ≠ []) (hall : ret = iov.flatten.length) :
    Writes iov t ret (iov.flatten.take ret, .outside) where
  sent := rfl
  outside := iff_of_true rfl ⟨hne, hall⟩
  returned := nofun

/-- Some of it was written, and the loop goes on with the rest. -/
theorem Writes.step {r : List UInt8 × WritevEnd} (hlt : ret < iov.flatten.length)
    (hflat : iov'.flatten = iov.flatten.drop ret) (h : Writes iov' (t + ret) w r) :
    Writes iov t (ret + w) (iov.flatten.take ret ++ r.1, r.2) where
  sent := by rw [h.sent, hflat, List.take_add]
  outside := by
    have hne : iov.flatten ≠ [] := List.ne_nil_of_length_pos (by omega)
    have hne' : iov'.flatten ≠ [] := by
      apply List.ne_nil_of_length_pos
      rw [hflat, List.length_drop]
      omega
    rw [h.outside, and_iff_right hne, and_iff_right hne', hflat, List.length_drop]
    omega
  returned n hn := by rw [h.returned n hn, Nat.add_assoc]

theorem writevLoop_spec (rs : List WriteResult) (iov : List Iovec) (t : Nat)
    (hle : writtenTotal rs ≤ iov.flatten.length) :
    Writes iov t (writtenTotal rs) (writevLoop rs iov t) := by
  induction rs generalizing iov t with
  | nil =>
    cases iov with
    | nil => exact .nothing nofun fun n h => (WritevEnd.returned.inj h).symm
    | cons entry iov => exact .nothing nofun nofun
  | cons r rs ih =>
    cases iov with
    | nil =>
      rw [Nat.le_zero.mp hle]
      exact .nothing nofun fun n h => (WritevEnd.returned.inj h).symm
    | cons entry iov =>
      have hstop : Writes (entry :: iov) t 0 ([], .returned t) :=
        .nothing nofun fun n h => (WritevEnd.returned.inj h).symm
      cases r with
      | again => exact ih (entry :: iov) t hle
      | error => exact hstop
      | written ret =>
        unfold writtenTotal at hle ⊢
        unfold writevLoop
        by_cases hret : ret = 0
        · rw [if_pos hret, if_pos hret]
          exact hstop
        rw [if_neg hret] at hle ⊢
        rw [if_neg hret]
        obtain ⟨hnone, hsome⟩ := consume_spec (entry :: iov) ret
        by_cases hlt : ret < (entry :: iov).flatten.length
        · obtain ⟨iov', heq, hflat⟩ := hsome hlt
          rw [heq]
          have hle' : writtenTotal rs ≤ iov'.flatten.length := by
            rw [hflat, List.length_drop]
            omega
          exact .step hlt hflat (ih iov' (t + ret) hle')
        · -- nothing can be written after this
          have hzero : writtenTotal rs = 0 := by omega
          have hall : ret = (entry :: iov).flatten.length := by omega
          rw [hnone (by omega), hzero]
          exact .all (List.ne_nil_of_length_pos (by omega)) hall

/-- Without an error or an empty write the loop returns only if there is nothing to write. -/
theorem flatten_of_returned {rs : List WriteResult} {n : Nat}
    (hok : ∀ r ∈ rs, r ≠ .error ∧ r ≠ .written 0)
    (h : (writevLoop rs iov t).2 = .returned n) : iov.flatten = [] := by
  induction rs generalizing iov t with
  | nil =>
    cases iov with
    | nil => rfl
    | cons entry iov => cases h
  | cons r rs ih =>
    cases iov with
    | nil => rfl
    | cons entry iov =>
      obtain ⟨hr, hrs⟩ := List.forall_mem_cons.mp hok
      cases r with
      | again => exact ih hrs h
      | error => exact absurd rfl hr.1
      | written ret =>
        have hret : ret ≠ 0 := fun h0 => hr.2 (by rw [h0])
        obtain ⟨hnone, hsome⟩ := consume_spec (entry :: iov) ret
        unfold writevLoop at h
        rw [if_neg hret] at h
        by_cases hlt : ret < (entry :: iov).flatten.length
        · obtain ⟨iov', heq, hflat⟩ := hsome hlt
          rw [heq] at h
          have hlen := congrArg List.length (hflat.symm.trans (ih hrs h))
          rw [List.length_drop, List.length_nil] at hlen
          omega
        · rw [hnone (by omega)] at h
          cases h

/-- **When `WritevSafely` is safe**: when there is nothing to write, or not all of it is written. -/
theorem writesSafely_iff (rs : List WriteResult) (iov : List Iovec)
    (hle : writtenTotal rs ≤ iov.flatten.length) :
    WritesSafely rs iov (writevSafely rs iov) ↔
      iov.flatten = [] ∨ writtenTotal rs < iov.flatten.length := by
  have hspec := writevLoop_spec rs iov 0 hle
  have hinside : (writevSafely rs iov).2 ≠ .outside ↔
      iov.flatten = [] ∨ writtenTotal rs < iov.flatten.length := by
    rw [writevSafely, Ne, hspec.outside, Classical.not_and_iff_not_or_not, not_not]
    refine or_congr_right ?_
    omega
  refine ⟨fun h => hinside.mp h.inside, fun h => ⟨hinside.mpr h, ?_, fun n hn => ?_, ?_⟩⟩
  · rw [writevSafely, hspec.sent]
    exact List.take_prefix _ _
  · rw [hspec.returned n hn, writevSafely, hspec.sent, List.length_take_of_le hle, Nat.zero_add]
  · intro n hn hok
    have hempty := flatten_of_returned hok hn
    rw [hempty, List.length_nil, Nat.le_zero] at hle
    rw [hspec.returned n hn, hle, hempty]
    rfl

/-- An interrupted write inside the second of three entries. -/
theorem writesSafely_interrupted : writtenTotal [.written 2, .again, .error] < 4 ∧
    WritesSafely [.written 2, .again, .error] [[1], [2, 3], [4]]
      (writevSafely [.written 2, .again, .error] [[1], [2, 3], [4]]) :=
  ⟨by decide, (writesSafely_iff _ _ (by decide)).mpr (.inr (by decide))⟩

/-- One entry that is written as a whole. -/
theorem not_writesSafely : ¬ ∀ (rs : List WriteResult) (iov : List Iovec),
    writtenTotal rs ≤ iov.flatten.length → WritesSafely rs iov (writevSafely rs iov) := by
  intro hall
  exact (hall [.written 1] [[0]] (by decide)).inside (by decide)

end Sloane.Hci
