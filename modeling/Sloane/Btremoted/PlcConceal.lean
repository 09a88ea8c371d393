import Mathlib.Data.List.Basic
import Sloane.Btremoted.GoodFrame
import Sloane.Lib.Fill

/-!
# The packet loss concealment

Model of `PLC_bad_frame` and what it calls in `btremoted/sbcplc.c`; only the arithmetic of
floating-point numbers is a parameter here.  With it, what `PlcFloat` leaves open is filled in.

* `patternMatch_lt` — the lag that is found leaves room for a whole template.
* `filled_lag` — what conceals a frame is copied from one lag before, the new samples included.
* `Inv.next` — the history is the end of what was played.
* `concealment_repeats` — from the second lost frame on, what is played repeats itself.
-/

namespace Sloane.Btremoted.Plc

open Sloane.Lib

/-- The window for pattern matching. -/
def N : Nat := 256

/-- The template for matching. -/
def M : Nat := 64

/-- The arithmetic of `float`. -/
structure FloatOps where
  F : Type
  ofShort : UInt16 → F
  ofNat : Nat → F
  /-- A constant: its digits, and how many of them stand behind the point. -/
  lit : Int → Nat → F
  add : F → F → F
  mul : F → F → F
  div : F → F → F
  sqrt : F → F
  lt : F → F → Bool
  toShort : F → UInt16

variable (f : FloatOps)

/-- Raised cosine table. -/
def rcos (i : Nat) : f.F :=
  f.lit ([99148655, 96623611, 92510857, 86950446, 80131732, 72286918, 63683150, 54613418,
    45386582, 36316850, 27713082, 19868268, 13049554, 7489143, 3376389, 851345].getD i 0) 8

/-! ## Matching -/

def crossCorrelation (x y : Nat → UInt16) : f.F :=
  let (num, x2, y2) := (List.range M).foldl (fun (num, x2, y2) m =>
    (f.add num (f.mul (f.ofShort (x m)) (f.ofShort (y m))),
      f.add x2 (f.mul (f.ofShort (x m)) (f.ofShort (x m))),
      f.add y2 (f.mul (f.ofShort (y m)) (f.ofShort (y m))))) (f.ofNat 0, f.ofNat 0, f.ofNat 0)
  f.div num (f.sqrt (f.mul x2 y2))

def patternMatch (y : Mem UInt16) : Nat :=
  ((List.range N).foldl (fun (bestmatch, maxCn) n =>
    let cn := crossCorrelation f (fun m => y (LHIST - M + m)) (fun m => y (n + m))
    if f.lt maxCn cn then (n, cn) else (bestmatch, maxCn)) (0, f.lit (-999999) 0)).1

def amplitudeMatch (y : Mem UInt16) (bestmatch : Nat) : f.F :=
  let (sumx, sumy) := (List.range FS).foldl (fun (sumx, sumy) i =>
    (f.add sumx (f.ofNat (shortValue (y (LHIST - FS + i))).natAbs),
      f.add sumy (f.ofNat (shortValue (y (bestmatch + i))).natAbs))) (f.ofNat 0, f.lit 1 6)
  let sf := f.div sumx sumy
  -- limit the scaling factor
  let sf := if f.lt sf (f.lit 75 2) then f.lit 75 2 else sf
  if f.lt (f.lit 12 1) sf then f.lit 12 1 else sf

/-! ## A lost frame -/

/-- `(short)val`, after the comparisons. -/
def clip (val : f.F) : UInt16 :=
  let val := if f.lt (f.lit 32767 0) val then f.lit 32767 0 else val
  let val := if f.lt val (f.lit (-32768) 0) then f.lit (-32768) 0 else val
  f.toShort val

/-- The decoder's response fades out. -/
def fadeIn (zir : Mem UInt16) (sf : f.F) (bestlag : Nat) (hist : Mem UInt16) (i : Nat) : UInt16 :=
  clip f (f.add (f.mul (f.ofShort (zir i)) (rcos f i))
    (f.mul (f.mul sf (f.ofShort (hist (bestlag + i)))) (rcos f (OLAL - i - 1))))

def scaled (sf : f.F) (bestlag : Nat) (hist : Mem UInt16) (i : Nat) : UInt16 :=
  clip f (f.mul sf (f.ofShort (hist (bestlag + i))))

/-- The scale factor fades out. -/
def unscale (sf : f.F) (bestlag : Nat) (hist : Mem UInt16) (i : Nat) : UInt16 :=
  clip f (f.add (f.mul (f.mul sf (f.ofShort (hist (bestlag + i)))) (rcos f (i - FS)))
    (f.mul (f.ofShort (hist (bestlag + i))) (rcos f (OLAL - 1 - i + FS))))

def replicated (bestlag : Nat) (hist : Mem UInt16) (i : Nat) : UInt16 := hist (bestlag + i)

/-- What stands behind the history for a lost frame, and the lag that it comes from. -/
def concealed (st : PlcState) (zir : Mem UInt16) : Mem UInt16 × Nat :=
  if st.nbf = 0 then
    -- the replication begins after the template match
    let bestlag := patternMatch f st.hist + M
    let sf := amplitudeMatch f st.hist bestlag
    let hist := st.hist.fill (fadeIn f zir sf bestlag) LHIST 0 OLAL
    let hist := hist.fill (scaled f sf bestlag) LHIST OLAL (FS - OLAL)
    let hist := hist.fill (unscale f sf bestlag) LHIST FS OLAL
    (hist.fill (replicated bestlag) LHIST (FS + OLAL) SBCRT, bestlag)
  else
    let bestlag := st.bestlag.toNat
    let hist := st.hist.fill (replicated bestlag) LHIST 0 FS
    (hist.fill (replicated bestlag) LHIST FS (SBCRT + OLAL), bestlag)

/-- Shift the history buffer. -/
def shift (n : Nat) (hist : Mem UInt16) : Mem UInt16 :=
  hist.fill (fun hist i => hist (i + FS)) 0 0 n

/-- `PLC_bad_frame`; in `btremoted.c`, `zir` is `plc_in`. -/
def badFrame (st : PlcState) (zir out : Mem UInt16) : PlcState × Mem UInt16 :=
  let (hist, bestlag) := concealed f st zir
  ({ hist := shift (LHIST + SBCRT + OLAL) hist, bestlag, nbf := st.nbf + 1 },
    out.write 0 (hist.read LHIST FS))

/-- What is computed in floating point, with this arithmetic. -/
def plcFloat : PlcFloat where
  fade i h x :=
    f.toShort (f.add (f.mul (f.ofShort h) (rcos f i)) (f.mul (f.ofShort x) (rcos f (OLAL - 1 - i))))
  badFrame := badFrame f

/-! ## A run -/

inductive Frame where
  | good (plcIn : Mem UInt16)
  | bad (plcIn : Mem UInt16)

def perform (st : PlcState) (plcOut : Mem UInt16) : Frame → PlcState × Mem UInt16
  | .good plcIn => (plcFloat f).goodFrame st plcIn plcOut
  | .bad plcIn => (plcFloat f).badFrame st plcIn plcOut

/-- A session, with all that it has played, behind as much silence as there is history. -/
structure Session where
  plc : PlcState
  plcOut : Mem UInt16
  played : List UInt16

def Session.start (st : PlcState) (plcOut : Mem UInt16) : Session :=
  ⟨st.init, plcOut, List.replicate LHIST 0⟩

def Session.next (x : Session) (frame : Frame) : Session where
  plc := (perform f x.plc x.plcOut frame).1
  plcOut := (perform f x.plc x.plcOut frame).2
  played := x.played ++ (perform f x.plc x.plcOut frame).2.read 0 FS

def Session.run (x : Session) (frames : List Frame) : Session := frames.foldl (Session.next f) x

variable {f}

theorem next_plc (x : Session) (frame : Frame) :
    (x.next f frame).plc = (perform f x.plc x.plcOut frame).1 := rfl

theorem next_played (x : Session) (frame : Frame) : (x.next f frame).played =
    x.played ++ (perform f x.plc x.plcOut frame).2.read 0 FS := rfl

section Perform

variable (st : PlcState) (plcOut : Mem UInt16)

theorem nbf_good (plcIn : Mem UInt16) : (perform f st plcOut (.good plcIn)).1.nbf = 0 := rfl

theorem nbf_bad (plcIn : Mem UInt16) :
    (perform f st plcOut (.bad plcIn)).1.nbf = st.nbf + 1 := rfl

theorem lag_bad (plcIn : Mem UInt16) :
    (perform f st plcOut (.bad plcIn)).1.bestlag = (concealed f st plcIn).2 := rfl

end Perform

theorem shift_cell {n i : Nat} (hist : Mem UInt16) (hi : i < n) :
    shift n hist i = hist (i + FS) := by
  have hcell : hist.fill (fun hist i => hist (i + FS)) 0 0 n (0 + i) = hist (i + FS) :=
    Mem.fill_ahead (fun m m' k h => h (k + FS) (by omega)) (Nat.zero_le i)
      (show i < 0 + n by omega)
  rwa [Nat.zero_add] at hcell

theorem shift_beyond {n i : Nat} (hist : Mem UInt16) (hi : n ≤ i) : shift n hist i = hist i :=
  Mem.fill_outside (.inr (by omega))

/-! ## The lag -/

theorem foldl_match_lt {P : f.F → f.F → Bool} {C : Nat → f.F} {l : List Nat} {best : Nat}
    {maxCn : f.F} (hbest : best < N) (hl : ∀ n ∈ l, n < N) :
    (l.foldl (fun (bestmatch, maxCn) n =>
      if P maxCn (C n) then (n, C n) else (bestmatch, maxCn)) (best, maxCn)).1 < N := by
  induction l generalizing best maxCn with
  | nil => exact hbest
  | cons n l ih =>
    obtain ⟨hn, hrest⟩ := List.forall_mem_cons.mp hl
    rw [List.foldl_cons]
    dsimp only
    split
    · exact ih hn hrest
    · exact ih hbest hrest

/-- **The lag leaves room** for a whole template, and more. -/
theorem patternMatch_lt (y : Mem UInt16) : patternMatch f y < N :=
  @foldl_match_lt f f.lt
    (fun n => crossCorrelation f (fun m => y (LHIST - M + m)) (fun m => y (n + m))) _ _ _
    (by decide) fun _ hmem => List.mem_range.mp hmem

/-- Where a lag can be. -/
def LagOk (bestlag : Nat) : Prop := M ≤ bestlag ∧ bestlag < M + N

theorem LagOk.lt {bestlag : Nat} (h : LagOk bestlag) : bestlag < LHIST := by
  have hhigh := h.2
  simp only [LHIST, M, N] at *
  omega

theorem lagOk_patternMatch (y : Mem UInt16) : LagOk (patternMatch f y + M) := by
  have hlt := @patternMatch_lt f y
  exact ⟨Nat.le_add_left _ _, by omega⟩

/-! ## What conceals a frame -/

section Concealed

variable {st : PlcState} {zir : Mem UInt16}

theorem concealed_lag (hnbf : 0 ≤ st.nbf) (h : 0 < st.nbf → LagOk st.bestlag.toNat) :
    LagOk (concealed f st zir).2 := by
  unfold concealed
  split
  · exact lagOk_patternMatch st.hist
  · exact h (by omega)

/-- The history is not touched, nor what lies behind the buffer. -/
theorem concealed_outside {j : Nat} (h : j < LHIST ∨ LHIST + FS + SBCRT + OLAL ≤ j) :
    (concealed f st zir).1 j = st.hist j := by
  have hsizes : OLAL + (FS - OLAL) = FS := by decide
  unfold concealed
  split
  · dsimp only
    rw [Mem.fill_outside (by omega), Mem.fill_outside (by omega), Mem.fill_outside (by omega),
      Mem.fill_outside (by omega)]
  · dsimp only
    rw [Mem.fill_outside (by omega), Mem.fill_outside (by omega)]

/-- What is computed from one lag before is computed from what is there by then. -/
theorem behind_of_lag {g : Mem UInt16 → Nat → UInt16} {bestlag : Nat} (hlag : LagOk bestlag)
    (hg : ∀ m m' k, m (bestlag + k) = m' (bestlag + k) → g m k = g m' k) (m m' : Mem UInt16)
    (k : Nat) (h : ∀ j < LHIST + k, m j = m' j) : g m k = g m' k := by
  have hlt := hlag.lt
  exact hg m m' k (h _ (by omega))

theorem replicated_behind {bestlag : Nat} (hlag : LagOk bestlag) (m m' : Mem UInt16) (k : Nat)
    (h : ∀ j < LHIST + k, m j = m' j) : replicated bestlag m k = replicated bestlag m' k :=
  behind_of_lag hlag (fun _ _ _ heq => heq) m m' k h

/-- **Copied from one lag before**, after a frame that was lost as well. -/
theorem filled_lag (hnbf : 0 < st.nbf) (hlag : LagOk st.bestlag.toNat) {i : Nat}
    (hi : i < FS + SBCRT + OLAL) :
    (concealed f st zir).1 (LHIST + i) = (concealed f st zir).1 (st.bestlag.toNat + i) := by
  have hwhole : (concealed f st zir).1 =
      st.hist.fill (replicated st.bestlag.toNat) LHIST 0 (FS + (SBCRT + OLAL)) := by
    unfold concealed
    rw [if_neg (by omega), ← Mem.fill_fill, Nat.zero_add]
  rw [hwhole]
  exact Mem.fill_behind (replicated_behind hlag) (Nat.zero_le i) (by omega)

/-- After the first lost frame, what is kept for the next one is copied, but for the overlap. -/
theorem filled_lag_first (hnbf : st.nbf = 0) {i : Nat} (hlow : FS + OLAL ≤ i)
    (hi : i < FS + SBCRT + OLAL) :
    (concealed f st zir).1 (LHIST + i) = (concealed f st zir).1 ((concealed f st zir).2 + i) := by
  unfold concealed
  rw [if_pos hnbf]
  exact Mem.fill_behind (replicated_behind (lagOk_patternMatch st.hist)) hlow (by omega)

/-- The lag is kept until a good frame comes. -/
theorem concealed_lag_kept (hnbf : 0 < st.nbf) :
    (concealed f st zir).2 = st.bestlag.toNat := by
  unfold concealed
  rw [if_neg (by omega)]

end Concealed

/-! ## One frame -/

section OneFrame

variable (st : PlcState) (plcOut : Mem UInt16)

/-- The output of a good frame. -/
def goodOut (f : FloatOps) (st : PlcState) (plcIn plcOut : Mem UInt16) : Mem UInt16 :=
  ((plcFloat f).goodFrame st plcIn plcOut).2

/-- The buffer before it is shifted. -/
def full (f : FloatOps) (st : PlcState) (plcOut : Mem UInt16) : Frame → Mem UInt16
  | .good plcIn => fun i =>
      if LHIST ≤ i ∧ i < LHIST + FS then goodOut f st plcIn plcOut (i - LHIST) else st.hist i
  | .bad plcIn => (concealed f st plcIn).1

/-- How much of the buffer a frame shifts. -/
def shifted : Frame → Nat
  | .good _ => LHIST
  | .bad _ => LHIST + SBCRT + OLAL

theorem shifted_bounds (frame : Frame) :
    LHIST ≤ shifted frame ∧ shifted frame ≤ LHIST + SBCRT + OLAL := by
  cases frame with
  | good plcIn => exact ⟨Nat.le_refl LHIST, show LHIST ≤ LHIST + SBCRT + OLAL by omega⟩
  | bad plcIn => exact ⟨show LHIST ≤ LHIST + SBCRT + OLAL by omega, Nat.le_refl _⟩

theorem full_outside (frame : Frame) {j : Nat} (h : j < LHIST ∨ LHIST + FS + SBCRT + OLAL ≤ j) :
    full f st plcOut frame j = st.hist j := by
  cases frame with
  | good plcIn => exact if_neg (by omega)
  | bad plcIn => exact concealed_outside h

/-- What is played is what stands behind the history. -/
theorem perform_out (frame : Frame) :
    (perform f st plcOut frame).2.read 0 FS = (full f st plcOut frame).read LHIST FS := by
  cases frame with
  | good plcIn =>
    refine List.map_congr_left fun i hi => ?_
    have hlt := List.mem_range.mp hi
    have hcell : full f st plcOut (.good plcIn) (LHIST + i) =
        goodOut f st plcIn plcOut (LHIST + i - LHIST) := if_pos (by omega)
    rw [hcell, Nat.add_sub_cancel_left, Nat.zero_add]
    rfl
  | bad plcIn =>
    have hread := Mem.read_write_self plcOut 0 ((concealed f st plcIn).1.read LHIST FS)
    rw [Mem.read_length] at hread
    exact hread

/-- **The buffer is shifted** by a frame. -/
theorem perform_hist (frame : Frame) (i : Nat) : (perform f st plcOut frame).1.hist i =
    if i < shifted frame then full f st plcOut frame (i + FS) else full f st plcOut frame i := by
  cases frame with
  | good plcIn => rfl
  | bad plcIn =>
    have hhist : (perform f st plcOut (.bad plcIn)).1.hist =
        shift (LHIST + SBCRT + OLAL) (concealed f st plcIn).1 := by
      simp only [perform, plcFloat, badFrame]
    rw [hhist]
    split
    · rename_i hi
      exact shift_cell _ hi
    · rename_i hi
      exact shift_beyond _ (Nat.not_lt.mp hi)

end OneFrame

/-! ## What a session keeps -/

/-- The history is the end of what was played; what stands behind it goes on with it. -/
structure Inv (x : Session) : Prop where
  history : ∃ before, x.played = before ++ x.plc.hist.read 0 LHIST
  nonneg : 0 ≤ x.plc.nbf
  lag : 0 < x.plc.nbf → LagOk x.plc.bestlag.toNat
  goes_on : ∀ i, i < SBCRT + OLAL → 1 < x.plc.nbf ∨ 0 < x.plc.nbf ∧ OLAL ≤ i →
    x.plc.hist (LHIST + i) = x.plc.hist (x.plc.bestlag.toNat + i)

theorem init_hist (st : PlcState) {i : Nat} (hi : i < LHIST + SBCRT) : st.init.hist i = 0 := by
  simp only [PlcState.init, if_pos hi]

theorem Inv.start (st : PlcState) (plcOut : Mem UInt16) : Inv (Session.start st plcOut) where
  history := by
    have hzero : st.init.hist.read 0 LHIST = (List.range LHIST).map fun _ => 0 := by
      refine List.map_congr_left fun i hi => ?_
      have hlt := List.mem_range.mp hi
      exact init_hist st (by omega)
    refine ⟨[], ?_⟩
    show List.replicate LHIST 0 = st.init.hist.read 0 LHIST
    rw [hzero, List.map_const', List.length_range]
  nonneg := Int.le_refl 0
  lag h := absurd h (Int.lt_irrefl 0)
  goes_on i _ h := by
    have hzero : (Session.start st plcOut).plc.nbf = 0 := rfl
    omega

/-- What has been played, as far as the buffer goes. -/
theorem played_full {x : Session} {before : List UInt16}
    (hbefore : x.played = before ++ x.plc.hist.read 0 LHIST) (frame : Frame) :
    (x.next f frame).played = before ++ (full f x.plc x.plcOut frame).read 0 (LHIST + FS) := by
  have hold : (full f x.plc x.plcOut frame).read 0 LHIST = x.plc.hist.read 0 LHIST :=
    Mem.read_congr fun i _ hi => full_outside x.plc x.plcOut frame (.inl (by omega))
  rw [Mem.read_add, hold, ← List.append_assoc, ← hbefore, Nat.zero_add, next_played, perform_out]

/-- **A session keeps its history**, and the continuation of what it conceals. -/
theorem Inv.next {x : Session} (h : Inv x) (frame : Frame) : Inv (x.next f frame) where
  history := by
    obtain ⟨before, hbefore⟩ := h.history
    refine ⟨before ++ (full f x.plc x.plcOut frame).read 0 FS, ?_⟩
    have hnew : (x.next f frame).plc.hist.read 0 LHIST =
        (full f x.plc x.plcOut frame).read FS LHIST := by
      refine List.map_congr_left fun i hi => ?_
      have hlt := List.mem_range.mp hi
      have hshifted := (shifted_bounds frame).1
      rw [Nat.zero_add, Nat.add_comm FS, next_plc, perform_hist, if_pos (by omega)]
    rw [played_full hbefore, hnew, List.append_assoc, Nat.add_comm LHIST, Mem.read_add,
      Nat.zero_add]
  nonneg := by
    cases frame with
    | good plcIn => exact Int.le_refl 0
    | bad plcIn =>
      have hnonneg := h.nonneg
      rw [next_plc, nbf_bad]
      omega
  lag hnbf := by
    cases frame with
    | good plcIn =>
      rw [next_plc, nbf_good] at hnbf
      exact absurd hnbf (Int.lt_irrefl 0)
    | bad plcIn =>
      rw [next_plc, lag_bad, Int.toNat_natCast]
      exact concealed_lag h.nonneg h.lag
  goes_on i hi hwhen := by
    cases frame with
    | good plcIn =>
      rw [next_plc, nbf_good] at hwhen
      omega
    | bad plcIn =>
      rw [next_plc, nbf_bad] at hwhen
      have hnonneg := h.nonneg
      have hlag : LagOk (concealed f x.plc plcIn).2 := concealed_lag h.nonneg h.lag
      have hlt := hlag.2
      have hsizes : M + N + OLAL + SBCRT ≤ LHIST + SBCRT + OLAL := by decide
      have hcopied : (concealed f x.plc plcIn).1 (LHIST + (FS + i)) =
          (concealed f x.plc plcIn).1 ((concealed f x.plc plcIn).2 + (FS + i)) := by
        rcases Int.lt_or_le 0 x.plc.nbf with hpos | hzero
        · rw [concealed_lag_kept hpos]
          exact filled_lag hpos (h.lag hpos) (by omega)
        · exact filled_lag_first (by omega) (by omega) (by omega)
      have hcell {j : Nat} (hj : j < LHIST + SBCRT + OLAL) :
          (x.next f (.bad plcIn)).plc.hist j = (concealed f x.plc plcIn).1 (j + FS) :=
        (perform_hist x.plc x.plcOut (.bad plcIn) j).trans (if_pos hj)
      have hlagCell : (concealed f x.plc plcIn).2 + i < LHIST + SBCRT + OLAL := by omega
      rw [hcell (j := LHIST + i) (by omega), next_plc, lag_bad, Int.toNat_natCast, ← next_plc,
        hcell hlagCell, show LHIST + i + FS = LHIST + (FS + i) by omega, hcopied,
        show (concealed f x.plc plcIn).2 + (FS + i) = (concealed f x.plc plcIn).2 + i + FS by omega]

theorem Inv.run {x : Session} (h : Inv x) (frames : List Frame) : Inv (x.run f frames) := by
  induction frames generalizing x with
  | nil => exact h
  | cons frame frames ih => exact ih (h.next frame)

theorem run_cons (x : Session) (frame : Frame) (frames : List Frame) :
    x.run f (frame :: frames) = (x.next f frame).run f frames := rfl

/-- What has been played stays. -/
theorem played_run (x : Session) (frames : List Frame) :
    ∃ rest, (x.run f frames).played = x.played ++ rest := by
  induction frames generalizing x with
  | nil => exact ⟨[], (List.append_nil _).symm⟩
  | cons frame frames ih =>
    obtain ⟨rest, hrest⟩ := ih (x.next f frame)
    exact ⟨_, (hrest.trans (List.append_assoc ..))⟩

/-! ## The period -/

/-- Each of these samples is the one a period before. -/
def Repeats (l : List UInt16) (period lo hi : Nat) : Prop :=
  ∀ k, lo ≤ k → k < hi → l[k]? = l[k - period]?

theorem Repeats.append {l : List UInt16} {period lo hi : Nat} (h : Repeats l period lo hi)
    (hhi : hi ≤ l.length) (rest : List UInt16) : Repeats (l ++ rest) period lo hi := by
  intro k hlo hlt
  rw [List.getElem?_append_left (by omega), List.getElem?_append_left (by omega)]
  exact h k hlo hlt

theorem Repeats.join {l : List UInt16} {period lo mid hi : Nat} (h : Repeats l period lo mid)
    (h' : Repeats l period mid hi) : Repeats l period lo hi := by
  intro k hlo hhi
  by_cases hmid : k < mid
  · exact h k hlo hmid
  · exact h' k (Nat.not_lt.mp hmid) hhi

theorem length_next (x : Session) (frame : Frame) :
    (x.next f frame).played.length = x.played.length + FS := by
  rw [next_played, List.length_append, Mem.read_length]

/-- Samples that are copied within the buffer repeat what was played. -/
theorem repeats_of_full {x : Session} (h : Inv x) (frame : Frame) {n : Nat} (hn : n ≤ FS)
    {bestlag : Nat} (hlag : LagOk bestlag)
    (hcopied : ∀ i < n,
      full f x.plc x.plcOut frame (LHIST + i) = full f x.plc x.plcOut frame (bestlag + i)) :
    Repeats (x.next f frame).played (LHIST - bestlag) x.played.length (x.played.length + n) := by
  obtain ⟨before, hbefore⟩ := h.history
  have hlt := hlag.lt
  have hlength : x.played.length = before.length + LHIST := by
    rw [hbefore, List.length_append, Mem.read_length]
  have hcell (j : Nat) (hj : j < LHIST + FS) :
      (x.next f frame).played[before.length + j]? = some (full f x.plc x.plcOut frame j) := by
    rw [played_full hbefore, List.getElem?_append_right (Nat.le_add_right _ _),
      Nat.add_sub_cancel_left]
    simp [Mem.read, hj]
  intro k hlo hhi
  obtain ⟨i, rfl⟩ := Nat.exists_eq_add_of_le hlo
  have hi : i < n := by omega
  rw [hlength, show before.length + LHIST + i - (LHIST - bestlag) = before.length + (bestlag + i) by
    omega, Nat.add_assoc, hcell _ (by omega), hcell _ (by omega), hcopied i hi]

/-- A frame that is lost after another one. -/
theorem Inv.repeats_bad {x : Session} (h : Inv x) (hnbf : 0 < x.plc.nbf) (zir : Mem UInt16) :
    Repeats (x.next f (.bad zir)).played (LHIST - x.plc.bestlag.toNat) x.played.length
      (x.next f (.bad zir)).played.length := by
  rw [length_next]
  exact repeats_of_full h (.bad zir) (Nat.le_refl FS) (h.lag hnbf) fun i hi =>
    filled_lag hnbf (h.lag hnbf) (by omega)

/-- The good frame after several lost ones. -/
theorem Inv.repeats_good {x : Session} (h : Inv x) (hnbf : 1 < x.plc.nbf) (plcIn : Mem UInt16) :
    Repeats (x.next f (.good plcIn)).played (LHIST - x.plc.bestlag.toNat) x.played.length
      (x.played.length + SBCRT) := by
  have hlag := h.lag (by omega)
  have hlt := hlag.2
  have hsizes : M + N + SBCRT ≤ LHIST ∧ SBCRT ≤ FS := by decide
  refine repeats_of_full h (.good plcIn) hsizes.2 hlag fun i hi => ?_
  have hnew : full f x.plc x.plcOut (.good plcIn) (LHIST + i) = x.plc.hist (LHIST + i) := by
    have hcell : full f x.plc x.plcOut (.good plcIn) (LHIST + i) =
        goodOut f x.plc plcIn x.plcOut (LHIST + i - LHIST) := if_pos (by omega)
    rw [hcell, Nat.add_sub_cancel_left]
    exact if_pos ⟨by omega, hi⟩
  rw [hnew, full_outside x.plc x.plcOut _ (.inl (by omega))]
  exact h.goes_on i (by omega) (.inl hnbf)

/-- Frames that are lost one after the other. -/
theorem Inv.repeats_bads {x : Session} (h : Inv x) (hnbf : 0 < x.plc.nbf)
    (zirs : List (Mem UInt16)) :
    Repeats (x.run f (zirs.map .bad)).played (LHIST - x.plc.bestlag.toNat) x.played.length
        (x.run f (zirs.map .bad)).played.length ∧
      (x.run f (zirs.map .bad)).plc.bestlag.toNat = x.plc.bestlag.toNat ∧
      (x.run f (zirs.map .bad)).plc.nbf = x.plc.nbf + zirs.length := by
  induction zirs generalizing x with
  | nil => exact ⟨fun k hlo hhi => absurd hhi (Nat.not_lt.mpr hlo), rfl, (Int.add_zero _).symm⟩
  | cons zir zirs ih =>
    have hkept : (x.next f (.bad zir)).plc.bestlag.toNat = x.plc.bestlag.toNat := by
      rw [next_plc, lag_bad, Int.toNat_natCast, concealed_lag_kept hnbf]
    have hcount : (x.next f (.bad zir)).plc.nbf = x.plc.nbf + 1 := rfl
    have hfirst := h.repeats_bad (f := f) hnbf zir
    obtain ⟨hrest, hlag, hnbf'⟩ := ih (h.next (.bad zir)) (by rw [hcount]; omega)
    obtain ⟨rest, hplayed⟩ := played_run (f := f) (x.next f (.bad zir)) (zirs.map .bad)
    rw [hkept] at hrest hlag
    rw [hcount] at hnbf'
    rw [List.map_cons, run_cons]
    refine ⟨?_, hlag, by rw [hnbf', List.length_cons]; push_cast; omega⟩
    have hkeep := hfirst.append (Nat.le_refl _) rest
    rw [← hplayed] at hkeep
    exact hkeep.join hrest

end Sloane.Btremoted.Plc
