import Sloane.Btremoted.SbcSynthesis

/-!
# What the decoder uses of its arrays

The arrays of the synthesis are `V[2][170]` and `offset[2][16]`.  In the model they have no end;
here it is shown that the decoder does not go beyond it, whatever it is given to decode.

* `synthesize_inside` — one block, for four subbands or eight.
* `sbcDecode_inside` — one call of `sbc_decode`.
* `decode_inside` — every run of it.
-/

namespace Sloane.Btremoted

open Sloane.Lib WindowRing

/-- Equal in what the arrays of a channel hold. -/
def SameArrays (c c' : Channel) : Prop := AgreeIn 170 16 c.store c'.store

/-- Equal in what lies behind them. -/
def SameBehind (c c' : Channel) : Prop := AgreeBeyond 170 16 c.store c'.store

/-- The initial offset of the last row is the highest. -/
def OffsetsIn (c : Channel) : Prop := ∀ i, i < 16 → c.offset i ≤ 160

variable {n : Nat} {f : Filter} {c c' : Channel}

/-! ## Blocks -/

/-- The samples are read from the ring and its mirror. -/
theorem pcmSample_inside (hn : n ≤ 8) (h : SameArrays c c')
    (hlt : ∀ i, i < 2 * n → c.offset i < 160) {i : Nat} (hi : i < n) :
    pcmSample n f c i = pcmSample n f c' i := by
  have hk : (i + n) % 16 = i + n := Nat.mod_eq_of_lt (by omega)
  have hrow (j : Nat) (hj : j < 16) : c.offset j = c'.offset j := h.row j hj
  have hcell (j : Nat) (hj : j < 2 * n) (t : Nat) (ht : t < 10) :
      c.v (c.offset j + t) = c'.v (c'.offset j + t) := by
    have hoff := hlt j hj
    rw [← hrow j (by omega)]
    exact h.cell _ (by omega)
  have hterm : ∀ t ∈ List.range 5,
      c.v (c.offset i + 2 * t) * f.m0.getD (5 * i + t) 0 +
        c.v (c.offset (i + n) + (2 * t + 1)) * f.m1.getD (5 * i + t) 0 =
      c'.v (c'.offset i + 2 * t) * f.m0.getD (5 * i + t) 0 +
        c'.v (c'.offset (i + n) + (2 * t + 1)) * f.m1.getD (5 * i + t) 0 := by
    intro t ht
    have ht := List.mem_range.mp ht
    rw [hcell i (by omega) _ (by omega), hcell (i + n) (by omega) _ (by omega)]
  unfold pcmSample
  dsimp only
  rw [hk, List.map_congr_left hterm]

/-- **One block.** -/
theorem synthesize_inside (hpos : 0 < n) (hn : n ≤ 8) (hoff : OffsetsIn c) (h : SameArrays c c')
    (sample : Nat → Int) :
    SameArrays (synthesize n f c sample).1 (synthesize n f c' sample).1 ∧
      SameBehind c (synthesize n f c sample).1 ∧ OffsetsIn (synthesize n f c sample).1 ∧
      (synthesize n f c sample).2 = (synthesize n f c' sample).2 := by
  obtain ⟨hin, hout, hle, hlt⟩ := pushAll_inside (c := c.store) (show 20 * n + 9 ≤ 170 by omega)
    (show 0 < 20 * n by omega) (show 20 * n ≤ 160 by omega) (show 160 ≤ 170 by decide)
    (show 2 * n ≤ 16 by omega) (matrixed n f sample) hoff h
  have hstore (c : Channel) : (synthesize n f c sample).1.store =
      pushAll (20 * n) 9 (2 * n) (matrixed n f sample) c.store :=
    foldl_shiftIn sample (List.range (2 * n)) c
  rw [← hstore c] at hin hout hle hlt
  rw [← hstore c'] at hin
  refine ⟨hin, hout, hle, List.map_congr_left fun i hi => ?_⟩
  exact pcmSample_inside hn hin hlt (List.mem_range.mp hi)

theorem synthesizeBlocks_inside (hpos : 0 < n) (hn : n ≤ 8) (hoff : OffsetsIn c)
    (h : SameArrays c c') (blocks : List (Nat → Int)) :
    SameArrays (synthesizeBlocks (synthesize n f) c blocks).1
        (synthesizeBlocks (synthesize n f) c' blocks).1 ∧
      SameBehind c (synthesizeBlocks (synthesize n f) c blocks).1 ∧
      OffsetsIn (synthesizeBlocks (synthesize n f) c blocks).1 ∧
      (synthesizeBlocks (synthesize n f) c blocks).2 =
        (synthesizeBlocks (synthesize n f) c' blocks).2 := by
  induction blocks generalizing c c' with
  | nil => exact ⟨h, .refl _, hoff, rfl⟩
  | cons sample rest ih =>
    obtain ⟨hin, hout, hle, hpcm⟩ := synthesize_inside (f := f) hpos hn hoff h sample
    obtain ⟨hins, houts, hles, hpcms⟩ := ih hle hin
    exact ⟨hins, hout.trans houts, hles, congrArg₂ (· ++ ·) hpcm hpcms⟩

/-! ## Frames -/

/-- Decoders that are equal in what they keep in their arrays. -/
structure SameInside (sbc sbc' : Sbc) : Prop where
  init : sbc.init = sbc'.init
  header : sbc.header = sbc'.header
  endian : sbc.endian = sbc'.endian
  subbands : sbc.decState.subbands = sbc'.decState.subbands
  channel : ∀ ch, ch < 2 → SameArrays (sbc.decState.channel ch) (sbc'.decState.channel ch)

/-- Nothing has changed behind the arrays. -/
structure SameOutside (st st' : DecState) : Prop where
  behind : ∀ ch, ch < 2 → SameBehind (st.channel ch) (st'.channel ch)
  channel : ∀ ch, 2 ≤ ch → st.channel ch = st'.channel ch

theorem SameOutside.refl (st : DecState) : SameOutside st st :=
  ⟨fun _ _ => AgreeBeyond.refl _, fun _ _ => rfl⟩

theorem SameOutside.trans {st₁ st₂ st₃ : DecState} (h : SameOutside st₁ st₂)
    (h' : SameOutside st₂ st₃) : SameOutside st₁ st₃ where
  behind ch hch := (h.behind ch hch).trans (h'.behind ch hch)
  channel ch hch := (h.channel ch hch).trans (h'.channel ch hch)

/-- The frame is synthesised with one of the two filters, or not at all. -/
theorem sbcSynthesizeAudio_cases (h : SbcHeader) :
    (∃ n f, 0 < n ∧ n ≤ 8 ∧ ∀ st samples, sbcSynthesizeAudio st h samples =
      ({ st with channel := fun ch =>
          if ch < h.channels then
            (synthesizeBlocks (synthesize n f) (st.channel ch)
              (samples.map fun block sb => block.getD (ch * h.subbands + sb) 0)).1
          else st.channel ch },
        (List.range h.channels).map fun ch =>
          (synthesizeBlocks (synthesize n f) (st.channel ch)
            (samples.map fun block sb => block.getD (ch * h.subbands + sb) 0)).2)) ∨
      ∀ st samples, sbcSynthesizeAudio st h samples = (st, []) := by
  unfold sbcSynthesizeAudio
  split
  · exact .inl ⟨4, _, by decide, by decide, fun _ _ => rfl⟩
  · split
    · exact .inl ⟨8, _, by decide, by decide, fun _ _ => rfl⟩
    · exact .inr fun _ _ => rfl

/-- **One frame.** -/
theorem sbcSynthesizeAudio_inside {h : SbcHeader} (hch : h.channels ≤ 2) {st st' : DecState}
    (hoff : ∀ ch, ch < 2 → OffsetsIn (st.channel ch)) (hsub : st.subbands = st'.subbands)
    (hsame : ∀ ch, ch < 2 → SameArrays (st.channel ch) (st'.channel ch))
    (samples : List (List Int)) :
    (∀ ch, ch < 2 → SameArrays ((sbcSynthesizeAudio st h samples).1.channel ch)
        ((sbcSynthesizeAudio st' h samples).1.channel ch)) ∧
      (sbcSynthesizeAudio st h samples).1.subbands =
        (sbcSynthesizeAudio st' h samples).1.subbands ∧
      SameOutside st (sbcSynthesizeAudio st h samples).1 ∧
      (∀ ch, ch < 2 → OffsetsIn ((sbcSynthesizeAudio st h samples).1.channel ch)) ∧
      (sbcSynthesizeAudio st h samples).2 = (sbcSynthesizeAudio st' h samples).2 := by
  rcases sbcSynthesizeAudio_cases h with ⟨n, f, hpos, hn, heq⟩ | heq
  · have hstep (ch : Nat) (hlt : ch < 2) := synthesizeBlocks_inside (f := f) hpos hn (hoff ch hlt)
      (hsame ch hlt) (samples.map fun block sb => block.getD (ch * h.subbands + sb) 0)
    rw [heq, heq]
    refine ⟨fun ch hlt => ?_, hsub, ⟨fun ch hlt => ?_, fun ch hge => ?_⟩, fun ch hlt => ?_, ?_⟩
    · dsimp only
      split
      · exact (hstep ch hlt).1
      · exact hsame ch hlt
    · dsimp only
      split
      · exact (hstep ch hlt).2.1
      · exact AgreeBeyond.refl _
    · exact (if_neg (by omega)).symm
    · dsimp only
      split
      · exact (hstep ch hlt).2.2.1
      · exact hoff ch hlt
    · refine List.map_congr_left fun ch hmem => ?_
      have hlt := List.mem_range.mp hmem
      exact (hstep ch (by omega)).2.2.2
  · rw [heq, heq]
    exact ⟨hsame, hsub, .refl st, hoff, rfl⟩

/-! ## Runs -/

/-- The offsets of a decoder that has been called. -/
structure Bounded (sbc : Sbc) : Prop where
  init : sbc.init = true
  offsets : ∀ ch, ch < 2 → OffsetsIn (sbc.decState.channel ch)

variable {input : Mem UInt8} {inputLen : Nat}

theorem channels_of_unpacked {old : SbcHeader}
    (hpos : 0 < ((sbcUnpackFrame inputLen old).value input).1) :
    ((sbcUnpackFrame inputLen old).value input).2.1.channels ≤ 2 := by
  obtain ⟨hlen, m, hm⟩ := coded_of_unpacked hpos
  rw [sbcUnpackFrame_header hlen]
  exact (unpackHeader_coded hm old).2

/-- **One call of `sbc_decode`**, from the state in which it synthesises. -/
theorem sbcDecode_inside {sbc sbc' : Sbc} (hheader : sbc.header = sbc'.header)
    (hendian : sbc.endian = sbc'.endian)
    (hoff : ∀ ch, ch < 2 → OffsetsIn ((sbc.synthesisState input inputLen).channel ch))
    (hsub : (sbc.synthesisState input inputLen).subbands =
      (sbc'.synthesisState input inputLen).subbands)
    (hsame : ∀ ch, ch < 2 → SameArrays ((sbc.synthesisState input inputLen).channel ch)
      ((sbc'.synthesisState input inputLen).channel ch)) :
    SameInside (sbcDecode sbc input inputLen).1 (sbcDecode sbc' input inputLen).1 ∧
      SameOutside (sbc.synthesisState input inputLen) (sbcDecode sbc input inputLen).1.decState ∧
      Bounded (sbcDecode sbc input inputLen).1 ∧
      (sbcDecode sbc input inputLen).2 = (sbcDecode sbc' input inputLen).2 := by
  have hch : 0 < ((sbcUnpackFrame inputLen sbc'.header).value input).1 → _ := channels_of_unpacked
  unfold Sbc.synthesisState Sbc.unpack at hoff hsub hsame ⊢
  unfold sbcDecode Sbc.unpack
  rw [hheader] at hoff hsub hsame ⊢
  generalize (sbcUnpackFrame inputLen sbc'.header).value input = r at hch hoff hsub hsame ⊢
  obtain ⟨framelen, h, samples⟩ := r
  dsimp only at hch hoff hsub hsame ⊢
  split
  · exact ⟨⟨rfl, rfl, hendian, hsub, hsame⟩, .refl _, ⟨rfl, hoff⟩, rfl⟩
  · rename_i hpos
    obtain ⟨hin, hsubs, hout, hle, hpcm⟩ :=
      sbcSynthesizeAudio_inside (hch (Int.not_le.mp hpos)) hoff hsub hsame samples
    refine ⟨⟨rfl, rfl, hendian, hsubs, hin⟩, hout, ⟨rfl, hle⟩, ?_⟩
    simp only [hpcm, hendian]

/-- The decoder after some calls. -/
def decodeState (sbc : Sbc) (inputs : List (Mem UInt8 × Nat)) : Sbc :=
  inputs.foldl (fun sbc input => (sbcDecode sbc input.1 input.2).1) sbc

theorem decodeAll_cons (sbc : Sbc) (input : Mem UInt8 × Nat) (more : List (Mem UInt8 × Nat)) :
    decodeAll sbc (input :: more) =
      ((sbcDecode sbc input.1 input.2).2.framelen, (sbcDecode sbc input.1 input.2).2.out) ::
        decodeAll (sbcDecode sbc input.1 input.2).1 more := rfl

theorem Bounded.of_sameInside {sbc sbc' : Sbc} (h : Bounded sbc) (hsame : SameInside sbc sbc') :
    Bounded sbc' where
  init := hsame.init ▸ h.init
  offsets ch hch i hi := ((hsame.channel ch hch).row i hi).symm.trans_le
    (h.offsets ch hch i hi)

/-- A call of a decoder that has been called. -/
theorem Bounded.sbcDecode {sbc sbc' : Sbc} (h : Bounded sbc) (hsame : SameInside sbc sbc')
    (input : Mem UInt8 × Nat) :
    SameInside (sbcDecode sbc input.1 input.2).1 (sbcDecode sbc' input.1 input.2).1 ∧
      SameOutside sbc.decState (Btremoted.sbcDecode sbc input.1 input.2).1.decState ∧
      Bounded (Btremoted.sbcDecode sbc input.1 input.2).1 ∧
      (Btremoted.sbcDecode sbc input.1 input.2).2 =
        (Btremoted.sbcDecode sbc' input.1 input.2).2 := by
  have hstate : sbc.synthesisState input.1 input.2 = sbc.decState := by
    rw [synthesisState_eq, if_pos h.init]
  have hstate' : sbc'.synthesisState input.1 input.2 = sbc'.decState := by
    rw [synthesisState_eq, if_pos (hsame.init ▸ h.init)]
  have hstep := @sbcDecode_inside input.1 input.2 sbc sbc' hsame.header hsame.endian
    (hstate ▸ h.offsets) (hstate.symm ▸ hstate'.symm ▸ hsame.subbands)
    (hstate.symm ▸ hstate'.symm ▸ hsame.channel)
  rwa [hstate] at hstep

/-- The offsets after `sbc_decoder_init`, for every header. -/
theorem bounded_first (endian : Endian) (input : Mem UInt8 × Nat) :
    Bounded (sbcDecode (freshSbc endian) input.1 input.2).1 := by
  have hoff (ch : Nat) (_ : ch < 2) :
      OffsetsIn (((freshSbc endian).synthesisState input.1 input.2).channel ch) := by
    rw [synthesisState_eq, if_neg (show ¬ (freshSbc endian).init = true from nofun)]
    intro i hi
    show (if ch < 2 ∧ i < _ * 2 then 10 * i + 10 else 0) ≤ 160
    split <;> omega
  exact (sbcDecode_inside rfl rfl hoff rfl fun _ _ => AgreeIn.refl _).2.2.1

theorem bounded_decodeState (endian : Endian) (first : Mem UInt8 × Nat)
    (rest : List (Mem UInt8 × Nat)) : Bounded (decodeState (freshSbc endian) (first :: rest)) := by
  have hfirst := bounded_first endian first
  show Bounded (decodeState (sbcDecode (freshSbc endian) first.1 first.2).1 rest)
  generalize (sbcDecode (freshSbc endian) first.1 first.2).1 = sbc at hfirst ⊢
  induction rest generalizing sbc with
  | nil => exact hfirst
  | cons input rest ih =>
    have hsame : SameInside sbc sbc := ⟨rfl, rfl, rfl, rfl, fun _ _ => AgreeIn.refl _⟩
    exact ih _ (hfirst.sbcDecode hsame input).2.2.1

/-- Calls of a decoder that has been called. -/
theorem Bounded.decodeAll {sbc sbc' : Sbc} (h : Bounded sbc) (hsame : SameInside sbc sbc')
    (more : List (Mem UInt8 × Nat)) :
    decodeAll sbc' more = decodeAll sbc more ∧
      SameInside (decodeState sbc more) (decodeState sbc' more) ∧
      SameOutside sbc'.decState (decodeState sbc' more).decState := by
  induction more generalizing sbc sbc' with
  | nil => exact ⟨rfl, hsame, .refl _⟩
  | cons input more ih =>
    obtain ⟨hin, -, hnext, hres⟩ := h.sbcDecode hsame input
    have hsame' : SameInside sbc' sbc' := ⟨rfl, rfl, rfl, rfl, fun _ _ => AgreeIn.refl _⟩
    obtain ⟨-, hout, -, -⟩ := (h.of_sameInside hsame).sbcDecode hsame' input
    obtain ⟨hall, hins, houts⟩ := ih hnext hin
    refine ⟨?_, hins, hout.trans houts⟩
    rw [decodeAll_cons, decodeAll_cons, hall, hres]

/-- **The arrays are all that is used**: after any calls of `sbc_decode`, with inputs of any kind,
what lies behind `V[2][170]` and `offset[2][16]` makes no difference to any calls that follow, and
is not changed by them. -/
theorem decode_inside (endian : Endian) (first : Mem UInt8 × Nat) (rest : List (Mem UInt8 × Nat))
    (sbc' : Sbc) (hsame : SameInside (decodeState (freshSbc endian) (first :: rest)) sbc')
    (more : List (Mem UInt8 × Nat)) :
    decodeAll sbc' more = decodeAll (decodeState (freshSbc endian) (first :: rest)) more ∧
      SameInside (decodeState (freshSbc endian) (first :: rest ++ more)) (decodeState sbc' more) ∧
      SameOutside sbc'.decState (decodeState sbc' more).decState := by
  have happend : decodeState (freshSbc endian) (first :: rest ++ more) =
      decodeState (decodeState (freshSbc endian) (first :: rest)) more := List.foldl_append ..
  rw [happend]
  exact (bounded_decodeState endian first rest).decodeAll hsame more

/-- The decoder with another value in the cell behind each array. -/
def Sbc.changed (sbc : Sbc) : Sbc :=
  { sbc with
    decState := { sbc.decState with
      channel := fun ch => { sbc.decState.channel ch with
        v := (sbc.decState.channel ch).v.write 170 [1] } } }

theorem sameInside_changed (sbc : Sbc) : SameInside sbc sbc.changed := by
  refine ⟨rfl, rfl, rfl, rfl, fun ch _ => ⟨fun k hk => ?_, fun _ _ => rfl⟩⟩
  exact (write_one_ne _ 1 (Nat.ne_of_lt hk)).symm

/-- A decoder that was called once. -/
def calledOnce : Sbc := decodeState (freshSbc .be) [(Mem.ofList indices0 0, 58)]

theorem decode_inside_changed :
    decodeAll calledOnce.changed [(Mem.ofList indices0 0, 58)] =
      decodeAll calledOnce [(Mem.ofList indices0 0, 58)] :=
  (decode_inside .be (Mem.ofList indices0 0, 58) [] calledOnce.changed
    (sameInside_changed calledOnce) [(Mem.ofList indices0 0, 58)]).1

end Sloane.Btremoted
