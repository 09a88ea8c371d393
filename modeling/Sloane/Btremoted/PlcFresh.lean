import Sloane.Btremoted.PlcConceal

/-!
# A session of the concealment begins afresh

`InitPLC` clears less than `PLC_bad_frame` reads.

* `concealed_congr` — what conceals a frame depends on the history and one frame behind it.
* `Alike.next` — sessions that agree so far go on alike.
* `session_fresh` — a session is not heard in the next one.
-/

namespace Sloane.Btremoted.Plc

open Sloane.Lib

variable {f : FloatOps}

/-! ## What a session sees -/

/-- Sessions that go on alike: they agree in what has been written since they began. -/
structure Alike (x x' : Session) : Prop where
  played : x.played = x'.played
  nbf : x.plc.nbf = x'.plc.nbf
  bestlag : 0 < x.plc.nbf → x.plc.bestlag = x'.plc.bestlag
  hist : ∀ j < LHIST + FS, x.plc.hist j = x'.plc.hist j

theorem crossCorrelation_congr {x x' y y' : Nat → UInt16} (hx : ∀ m < M, x m = x' m)
    (hy : ∀ m < M, y m = y' m) : crossCorrelation f x y = crossCorrelation f x' y' := by
  unfold crossCorrelation
  rw [List.foldl_ext]
  intro b m hm
  have hlt := List.mem_range.mp hm
  rw [hx m hlt, hy m hlt]

/-- The lag depends on the history only. -/
theorem patternMatch_congr {y y' : Mem UInt16} (h : ∀ j < LHIST, y j = y' j) :
    patternMatch f y = patternMatch f y' := by
  have hsizes : LHIST - M + M = LHIST ∧ N + M ≤ LHIST := by decide
  unfold patternMatch
  rw [List.foldl_ext]
  intro b n hn
  have hlt := List.mem_range.mp hn
  have hcross := @crossCorrelation_congr f (fun m => y (LHIST - M + m))
    (fun m => y' (LHIST - M + m)) (fun m => y (n + m)) (fun m => y' (n + m))
    (fun m hm => h _ (by omega)) fun m hm => h _ (by omega)
  simp only [hcross]

/-- The scale factor depends on what is there of the frame that follows the match. -/
theorem amplitudeMatch_congr {y y' : Mem UInt16} {bestmatch : Nat} (hlag : LagOk bestmatch)
    (h : ∀ j < LHIST + FS, y j = y' j) :
    amplitudeMatch f y bestmatch = amplitudeMatch f y' bestmatch := by
  have hlt := hlag.lt
  unfold amplitudeMatch
  rw [List.foldl_ext]
  intro b i hi
  have hlt := List.mem_range.mp hi
  simp only [h (LHIST - FS + i) (by omega), h (bestmatch + i) (by omega)]

section OneCell

variable {bestlag : Nat} (zir : Mem UInt16) (sf : f.F) (m m' : Mem UInt16) (k : Nat)
  (h : m (bestlag + k) = m' (bestlag + k))
include h

theorem fadeIn_congr : fadeIn f zir sf bestlag m k = fadeIn f zir sf bestlag m' k := by
  unfold fadeIn
  rw [h]

theorem scaled_congr : scaled f sf bestlag m k = scaled f sf bestlag m' k := by
  unfold scaled
  rw [h]

theorem unscale_congr : unscale f sf bestlag m k = unscale f sf bestlag m' k := by
  unfold unscale
  rw [h]

end OneCell

/-- What conceals a frame is the same. -/
theorem concealed_congr {st st' : PlcState} (zir : Mem UInt16) (hnonneg : 0 ≤ st.nbf)
    (hlag : 0 < st.nbf → LagOk st.bestlag.toNat) (hnbf : st.nbf = st'.nbf)
    (hbestlag : 0 < st.nbf → st.bestlag = st'.bestlag)
    (h : ∀ j < LHIST + FS, st.hist j = st'.hist j) :
    (concealed f st zir).2 = (concealed f st' zir).2 ∧
      ∀ j < LHIST + (FS + SBCRT + OLAL), (concealed f st zir).1 j = (concealed f st' zir).1 j := by
  have hstart : ∀ j < LHIST + 0, st.hist j = st'.hist j := fun j hj => h j (by omega)
  unfold concealed
  by_cases hfirst : st.nbf = 0
  · have hok := @lagOk_patternMatch f st.hist
    have hmatch := @patternMatch_congr f _ _ hstart
    rw [if_pos hfirst, if_pos (hnbf ▸ hfirst)]
    dsimp only
    rw [← hmatch, ← amplitudeMatch_congr hok h]
    generalize amplitudeMatch f st.hist (patternMatch f st.hist + M) = sf
    have hfade := Mem.fill_agree (n := OLAL) (behind_of_lag hok (fadeIn_congr zir sf)) hstart
    have hscaled := Mem.fill_agree (n := FS - OLAL) (behind_of_lag hok (scaled_congr sf)) hfade
    rw [Nat.add_assoc, show OLAL + (FS - OLAL) = FS from rfl] at hscaled
    have hunscale := Mem.fill_agree (n := OLAL) (behind_of_lag hok (unscale_congr sf)) hscaled
    rw [Nat.add_assoc] at hunscale
    have hcopied := Mem.fill_agree (n := SBCRT) (replicated_behind hok) hunscale
    exact ⟨rfl, fun j hj => hcopied j (by omega)⟩
  · have hpos : 0 < st.nbf := by omega
    have hok := hlag hpos
    have hcopied := Mem.fill_agree (n := SBCRT + OLAL) (replicated_behind hok)
      (Mem.fill_agree (n := FS) (replicated_behind hok) hstart)
    rw [if_neg hfirst, if_neg (hnbf ▸ hfirst), ← hbestlag hpos]
    exact ⟨rfl, fun j hj => hcopied j (by omega)⟩

/-- How far the buffer holds what was written since the session began. -/
def known : Frame → Nat
  | .good _ => LHIST + FS
  | .bad _ => LHIST + (FS + SBCRT + OLAL)

theorem known_ge (frame : Frame) : shifted frame + FS ≤ known frame ∧ LHIST + FS ≤ known frame := by
  cases frame with
  | good plcIn => exact ⟨Nat.le_refl _, Nat.le_refl _⟩
  | bad plcIn =>
    exact show LHIST + SBCRT + OLAL + FS ≤ LHIST + (FS + SBCRT + OLAL) ∧
      LHIST + FS ≤ LHIST + (FS + SBCRT + OLAL) by omega

theorem full_good_congr {st st' : PlcState} (plcIn plcOut plcOut' : Mem UInt16)
    (hnbf : st.nbf = st'.nbf) (h : ∀ j < LHIST, st.hist j = st'.hist j)
    (hbehind : 0 < st.nbf → ∀ j < LHIST + FS, st.hist j = st'.hist j) :
    ∀ j < LHIST + FS, full f st plcOut (.good plcIn) j = full f st' plcOut' (.good plcIn) j := by
  have hsizes : SBCRT + OLAL ≤ FS := by decide
  intro j hj
  simp only [full, goodOut, PlcFloat.goodFrame]
  by_cases hout : LHIST ≤ j ∧ j < LHIST + FS
  · rw [if_pos hout, if_pos hout, ← hnbf, Nat.add_sub_cancel' hout.1]
    by_cases hpos : 0 < st.nbf
    · simp only [hbehind hpos j hj, if_pos (show j - LHIST < FS by omega)]
    · simp only [hpos, false_and, if_false, if_pos (show j - LHIST < FS by omega)]
  · rw [if_neg hout, if_neg hout, h j (by omega)]

/-- After a frame, the buffer holds as much that is known as before. -/
theorem perform_congr {st st' : PlcState} {plcOut plcOut' : Mem UInt16} {frame : Frame}
    (hfull : ∀ j < known frame, full f st plcOut frame j = full f st' plcOut' frame j) :
    (perform f st plcOut frame).2.read 0 FS = (perform f st' plcOut' frame).2.read 0 FS ∧
      ∀ j < LHIST + FS,
        (perform f st plcOut frame).1.hist j = (perform f st' plcOut' frame).1.hist j := by
  obtain ⟨hshifted, hle⟩ := known_ge frame
  refine ⟨?_, fun j hj => ?_⟩
  · rw [perform_out, perform_out]
    exact Mem.read_congr fun i _ hi => hfull i (by omega)
  · rw [perform_hist, perform_hist]
    split
    · exact hfull _ (by omega)
    · exact hfull j (by omega)

/-- **Alike sessions stay alike.** -/
theorem Alike.next {x x' : Session} (h : Alike x x') (hx : Inv x) (frame : Frame) :
    Alike (x.next f frame) (x'.next f frame) := by
  cases frame with
  | good plcIn =>
    have hfull : ∀ j < known (.good plcIn), full f x.plc x.plcOut (.good plcIn) j =
        full f x'.plc x'.plcOut (.good plcIn) j :=
      full_good_congr plcIn _ _ h.nbf (fun j hj => h.hist j (by omega)) fun _ => h.hist
    obtain ⟨hplayed, hhist⟩ := perform_congr hfull
    refine ⟨?_, ?_, fun hpos => ?_, hhist⟩
    · rw [next_played, next_played, h.played, hplayed]
    · rw [next_plc, next_plc, nbf_good, nbf_good]
    · rw [next_plc, nbf_good] at hpos
      exact absurd hpos (Int.lt_irrefl 0)
  | bad zir =>
    obtain ⟨hlag, hfull⟩ := concealed_congr (f := f) zir hx.nonneg hx.lag h.nbf h.bestlag h.hist
    obtain ⟨hplayed, hhist⟩ :=
      @perform_congr f x.plc x'.plc x.plcOut x'.plcOut (.bad zir) hfull
    refine ⟨?_, ?_, fun _ => ?_, hhist⟩
    · rw [next_played, next_played, h.played, hplayed]
    · rw [next_plc, next_plc, nbf_bad, nbf_bad, h.nbf]
    · rw [next_plc, next_plc, lag_bad, lag_bad, hlag]

theorem Alike.run {x x' : Session} (h : Alike x x') (hx : Inv x) (frames : List Frame) :
    Alike (x.run f frames) (x'.run f frames) := by
  induction frames generalizing x x' with
  | nil => exact h
  | cons frame frames ih => exact ih (h.next hx frame) (hx.next frame)

section Start

variable (st st' : PlcState) (plcOut plcOut' plcIn : Mem UInt16)

/-- Once a first frame has arrived, what was there before the session began is covered. -/
theorem alike_first : Alike ((Session.start st plcOut).next f (.good plcIn))
    ((Session.start st' plcOut').next f (.good plcIn)) := by
  have hfull : ∀ j < known (.good plcIn), full f st.init plcOut (.good plcIn) j =
      full f st'.init plcOut' (.good plcIn) j :=
    full_good_congr plcIn _ _ rfl
      (fun j hj => (init_hist st (by omega)).trans (init_hist st' (by omega)).symm)
      fun hpos => absurd hpos (Int.lt_irrefl 0)
  obtain ⟨hplayed, hhist⟩ := perform_congr hfull
  refine ⟨?_, ?_, fun hpos => ?_, hhist⟩
  · rw [next_played, next_played]
    exact congrArg (List.replicate LHIST 0 ++ ·) hplayed
  · rw [next_plc, next_plc, nbf_good, nbf_good]
  · rw [next_plc, nbf_good] at hpos
    exact absurd hpos (Int.lt_irrefl 0)

end Start

/-- What lies behind the buffer is not written. -/
theorem run_beyond (x : Session) (frames : List Frame) {j : Nat}
    (hj : LHIST + FS + SBCRT + OLAL ≤ j) : (x.run f frames).plc.hist j = x.plc.hist j := by
  induction frames generalizing x with
  | nil => rfl
  | cons frame frames ih =>
    have hle := (shifted_bounds frame).2
    rw [run_cons, ih, next_plc, perform_hist, if_neg (by omega),
      full_outside x.plc x.plcOut frame (.inr hj)]

end Sloane.Btremoted.Plc
