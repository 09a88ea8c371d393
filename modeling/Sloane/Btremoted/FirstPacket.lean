import Mathlib.Data.List.Induction
import Sloane.Btremoted.SbcDecode

/-!
# The first packet

`sbc_decode` initialises its state from the frame header on its first call, also if the frame could
not be unpacked.

* `handleMsbcData_sbc` — what a packet does to the decoder.
* `Undecoded` — the decoder as long as no frame was decoded, kept by every packet.
* `decodesAsFresh_iff` — when malformed packets do no harm to what follows them.
-/

namespace Sloane.Btremoted

open Sloane.Lib

/-! ## What a packet does to the decoder -/

section AnyCodec

variable {C : Codec} {cfg : Config} {v : Voice C} {packet : List UInt8}

/-- The packet gets to `sbc_decode`. -/
def Reaches (cfg : Config) (packet : List UInt8) : Prop :=
  cfg.decodeEnabled = true ∧ (msbcData packet).head? = some MSBC_SYNC_CODE ∧
    (cfg.plcEnabled = true → 0 ≤ seqNum packet)

instance : DecidablePred (Reaches cfg) := fun _ => inferInstanceAs (Decidable (_ ∧ _))

theorem performPlc_sbc (n : Nat) (v : Voice C) (pcmBuf : Mem UInt8) :
    (performPlc cfg n v pcmBuf).1.sbc = (fun sbc => (C.sbcDecode sbc indices0).1)^[n] v.sbc := by
  induction n generalizing v pcmBuf with
  | zero => rfl
  | succ n ih =>
    simp only [performPlc, ih, (writeToMainBuf_other cfg _ _ _ _).1, Function.iterate_succ_apply]

theorem handleSeqNum_sbc {pcmBuf pcmBuf' : Mem UInt8} {v' : Voice C} {es : List VoiceEvent}
    (hs : handleSeqNum cfg v packet pcmBuf = some (v', pcmBuf', es)) :
    ∃ n, v'.sbc = (fun sbc => (C.sbcDecode sbc indices0).1)^[n] v.sbc := by
  unfold handleSeqNum at hs
  split at hs
  · split at hs
    · cases hs
    · obtain ⟨rfl, -, -⟩ := by simpa only [Option.some.injEq, Prod.mk.injEq] using hs
      exact ⟨_, performPlc_sbc _ v pcmBuf⟩
  · obtain ⟨rfl, -, -⟩ := by simpa only [Option.some.injEq, Prod.mk.injEq] using hs
    exact ⟨0, rfl⟩

theorem handleGoodFrame_sbc (cfg : Config) (v : Voice C) (frame : List UInt8)
    (pcmBuf : Mem UInt8) :
    (handleGoodFrame cfg v frame pcmBuf).2.1.sbc = (C.sbcDecode v.sbc frame).1 := by
  unfold handleGoodFrame
  dsimp only
  split
  · exact (writeToMainBuf_other cfg _ _ _ _).1
  · rfl

/-- A packet that does not get to the decoder leaves it as it is. -/
theorem handleMsbcData_sbc_skip (h : ¬ Reaches cfg packet) :
    (handleMsbcData cfg v packet).2.1.sbc = v.sbc := by
  unfold handleMsbcData
  split
  · rfl
  · rename_i hsync
    split
    · exact (writeToMainBuf_other cfg _ _ _ _).1
    · rename_i hdec
      have hbad : cfg.plcEnabled = true ∧ seqNum packet < 0 := by
        by_contra hgood
        refine h ⟨by simpa using hdec, not_not.mp hsync, fun hplc => ?_⟩
        by_contra hneg
        exact hgood ⟨hplc, by omega⟩
      have hnone : handleSeqNum cfg v packet (fun _ => 0) = none := by
        unfold handleSeqNum
        rw [if_pos hbad.1, if_pos hbad.2]
      simp only [hnone]

/-- **What a packet does to the decoder**: the lost frames are replaced and its own is decoded. -/
theorem handleMsbcData_sbc (h : Reaches cfg packet) :
    ∃ n, (handleMsbcData cfg v packet).2.1.sbc =
      (C.sbcDecode ((fun sbc => (C.sbcDecode sbc indices0).1)^[n] v.sbc) (msbcData packet)).1 := by
  obtain ⟨hdec, hsync, hseq⟩ := h
  have hsome : ∃ r, handleSeqNum cfg v packet (fun _ => 0) = some r := by
    unfold handleSeqNum
    split
    · rename_i hplc
      have hge := hseq hplc
      rw [if_neg (by omega)]
      exact ⟨_, rfl⟩
    · exact ⟨_, rfl⟩
  obtain ⟨⟨v', pcmBuf, es⟩, hsome⟩ := hsome
  obtain ⟨n, hn⟩ := handleSeqNum_sbc hsome
  refine ⟨n, ?_⟩
  unfold handleMsbcData
  simp only [hsync, hdec, hsome, ne_eq, not_true, if_false, Bool.not_true, Bool.false_eq_true]
  rw [handleGoodFrame_sbc, hn]

end AnyCodec

/-! ## The decoder with a record of its results -/

/-- A frame in its buffer, with what lies behind it. -/
def frameMem (behind : Mem UInt8) (frame : List UInt8) : Mem UInt8 := fun i =>
  frame.getD i (behind i)

structure LoggedSbc where
  sbc : Sbc
  /-- what the calls of `sbc_decode` returned -/
  log : List Int

def LoggedSbc.NoneDecoded (s : LoggedSbc) : Prop := ∀ framelen ∈ s.log, framelen ≤ 0

def decodeLogged (behind : Mem UInt8) (s : LoggedSbc) (frame : List UInt8) :
    LoggedSbc × DecodeResult :=
  let (sbc, res) := sbcDecode s.sbc (frameMem behind frame) frame.length
  (⟨sbc, s.log ++ [res.framelen]⟩, res)

variable {behind : Mem UInt8}

/-- A call that fails does no more than unpack. -/
theorem sbcDecode_failed {sbc : Sbc} {input : Mem UInt8} {inputLen : Nat}
    (h : (sbcDecode sbc input inputLen).2.framelen ≤ 0) :
    (sbcDecode sbc input inputLen).1 = (sbc.unpack input inputLen).2.2 := by
  unfold sbcDecode at h ⊢
  dsimp only at h ⊢
  split
  · rfl
  · rename_i hfail
    rw [dif_neg hfail] at h
    exact absurd h hfail

theorem sbcDecode_framelen (sbc : Sbc) (input : Mem UInt8) (inputLen : Nat) :
    (sbcDecode sbc input inputLen).2.framelen =
      ((sbcUnpackFrame inputLen sbc.header).value input).1 := by
  unfold sbcDecode
  dsimp only
  split <;> rfl

theorem frameMem_sync {frame : List UInt8} (h : frame.head? = some MSBC_SYNCWORD) :
    frameMem behind frame 0 = MSBC_SYNCWORD := by
  cases frame with
  | nil => cases h
  | cons b frame => exact Option.some.inj h

/-- The frame that replaces a lost one is decoded, whatever lies behind it. -/
theorem indices0_decoded (sbc : Sbc) :
    0 < (sbcDecode sbc (frameMem behind indices0) indices0.length).2.framelen := by
  have hinside : ∀ i ∈ (unpackBody 58 msbcHeader).offsets (Mem.ofList indices0 0), i < 58 := by
    decide +kernel
  have hvalue : ((unpackBody 58 msbcHeader).value (Mem.ofList indices0 0)).1 = 58 := by
    decide +kernel
  have hsame : ∀ i ∈ (unpackBody 58 msbcHeader).offsets (Mem.ofList indices0 0),
      Mem.ofList indices0 0 i = frameMem behind indices0 i := by
    intro i hi
    have hlt : i < indices0.length := hinside i hi
    rw [Mem.ofList, frameMem, List.getD_eq_getElem _ _ hlt, List.getD_eq_getElem _ _ hlt]
  rw [sbcDecode_framelen, sbcUnpackFrame_msbc (frameMem_sync rfl) (by decide)]
  show 0 < ((unpackBody 58 msbcHeader).value (frameMem behind indices0)).1
  rw [← (Reads.run_congr hsame).1, hvalue]
  decide

theorem LoggedSbc.NoneDecoded.of_decodeLogged {s : LoggedSbc} {frame : List UInt8}
    (h : (decodeLogged behind s frame).1.NoneDecoded) :
    s.NoneDecoded ∧
      (sbcDecode s.sbc (frameMem behind frame) frame.length).2.framelen ≤ 0 := by
  obtain ⟨hbefore, hlast⟩ := List.forall_mem_append.mp h
  exact ⟨hbefore, hlast _ (List.mem_singleton_self _)⟩

/-- If nothing was decoded, no lost frame was replaced. -/
theorem LoggedSbc.NoneDecoded.iterate {s : LoggedSbc} {n : Nat}
    (h : ((fun s => (decodeLogged behind s indices0).1)^[n] s).NoneDecoded) : n = 0 := by
  cases n with
  | zero => rfl
  | succ n =>
    rw [Function.iterate_succ_apply'] at h
    exact absurd (LoggedSbc.NoneDecoded.of_decodeLogged h).2 (Int.not_le.mpr (indices0_decoded _))

/-! ## As long as nothing was decoded -/

/-- The synthesis state of a decoder that was initialised for mSBC. -/
def DecState.fresh : DecState where
  subbands := 8
  channel ch := ⟨fun _ => 0, fun i => if ch < 2 ∧ i < 16 then 10 * i + 10 else 0⟩

theorem sbcDecoderInit_msbcHeader : sbcDecoderInit .zero msbcHeader = .fresh := rfl

/-- With the header that was never filled, the offsets stay 0. -/
theorem sbcDecoderInit_zero : sbcDecoderInit .zero .zero = .zero := by
  unfold sbcDecoderInit
  simp only [SbcHeader.zero, Nat.zero_mul, Nat.not_lt_zero, and_false, if_false]
  rfl

/-- The decoder after packets of which none was decoded: it has not been called, or its state is
that of the first call. -/
def Undecoded (cfg : Config) (packets : List (List UInt8)) (sbc : Sbc) : Prop :=
  match packets.find? fun packet => Reaches cfg packet with
  | none => sbc = msbcDecoder
  | some first => sbc.init = true ∧ sbc.endian = .be ∧
      sbc.decState = if 4 ≤ (msbcData first).length then .fresh else .zero

/-- The first call. -/
theorem synthesisState_msbcDecoder {frame : List UInt8}
    (hsync : frame.head? = some MSBC_SYNCWORD) :
    msbcDecoder.synthesisState (frameMem behind frame) frame.length =
      if 4 ≤ frame.length then .fresh else .zero := by
  rw [synthesisState_eq, if_neg (show msbcDecoder.init ≠ true by decide)]
  split
  · rename_i hlen
    rw [sbcUnpackFrame_msbc (frameMem_sync hsync) hlen]
    exact sbcDecoderInit_msbcHeader
  · rename_i hlen
    rw [sbcUnpackFrame_short (Nat.not_le.mp hlen)]
    exact sbcDecoderInit_zero

section Run

variable {fl : PlcFloat} {cfg : Config}

/-- The concealment with that decoder. -/
def loggedCodec (fl : PlcFloat) (behind : Mem UInt8) : Codec :=
  plcCodec fl LoggedSbc (decodeLogged behind)

/-- **A packet that is not decoded** keeps what is known of the decoder. -/
theorem undecoded_step {v : Voice (loggedCodec fl behind)} {packet : List UInt8}
    (hnone : LoggedSbc.NoneDecoded (handleMsbcData cfg v packet).2.1.sbc) :
    LoggedSbc.NoneDecoded v.sbc ∧ ∀ packets,
      Undecoded cfg packets (LoggedSbc.sbc v.sbc) → Undecoded cfg (packets ++ [packet])
        (LoggedSbc.sbc (handleMsbcData cfg v packet).2.1.sbc) := by
  by_cases hreach : Reaches cfg packet
  · obtain ⟨n, hsbc⟩ := handleMsbcData_sbc (v := v) hreach
    rw [hsbc] at hnone ⊢
    obtain ⟨hbefore, hfailed⟩ := LoggedSbc.NoneDecoded.of_decodeLogged hnone
    obtain rfl : n = 0 := hbefore.iterate
    refine ⟨hbefore, fun packets hinv => ?_⟩
    have hafter : LoggedSbc.sbc (decodeLogged behind v.sbc (msbcData packet)).1 =
        ((LoggedSbc.sbc v.sbc).unpack (frameMem behind (msbcData packet))
          (msbcData packet).length).2.2 := sbcDecode_failed hfailed
    have hstate := synthesisState_eq (LoggedSbc.sbc v.sbc) (frameMem behind (msbcData packet))
      (msbcData packet).length
    unfold Undecoded at hinv ⊢
    rw [List.find?_append, List.find?_singleton, if_pos (by simpa using hreach)]
    cases hfind : packets.find? fun packet => Reaches cfg packet with
    | none =>
      -- the first call
      rw [hfind] at hinv
      have hfirst := @synthesisState_msbcDecoder behind _ hreach.2.1
      rw [← hinv] at hfirst
      exact ⟨congrArg Sbc.init hafter,
        (congrArg Sbc.endian hafter).trans (congrArg Sbc.endian hinv),
        (congrArg Sbc.decState hafter).trans hfirst⟩
    | some first =>
      rw [hfind] at hinv
      obtain ⟨hinit, hendian, hdec⟩ := hinv
      rw [if_pos hinit] at hstate
      exact ⟨congrArg Sbc.init hafter, (congrArg Sbc.endian hafter).trans hendian,
        (congrArg Sbc.decState hafter).trans (hstate.trans hdec)⟩
  · rw [handleMsbcData_sbc_skip hreach] at hnone ⊢
    refine ⟨hnone, fun packets hinv => ?_⟩
    unfold Undecoded at hinv ⊢
    rwa [List.find?_append, List.find?_singleton, if_neg (by simpa using hreach), Option.or_none]

/-- The packets, one after the other. -/
def handlePackets (cfg : Config) (v : Voice (loggedCodec fl behind)) (packets : List (List UInt8)) :
    Voice (loggedCodec fl behind) :=
  packets.foldl (fun v packet => (handleMsbcData cfg v packet).2.1) v

/-- **Packets of which none is decoded.** -/
theorem undecoded_handlePackets {v : Voice (loggedCodec fl behind)}
    (hv : LoggedSbc.sbc v.sbc = msbcDecoder) {packets : List (List UInt8)}
    (hnone : LoggedSbc.NoneDecoded (handlePackets cfg v packets).sbc) :
    Undecoded cfg packets (LoggedSbc.sbc (handlePackets cfg v packets).sbc) := by
  induction packets using List.reverseRecOn with
  | nil => exact hv
  | append_singleton packets packet ih =>
    rw [handlePackets, List.foldl_append] at hnone ⊢
    obtain ⟨hbefore, hstep⟩ := undecoded_step hnone
    exact hstep packets (ih hbefore)

/-! ## The stream that follows -/

/-- A frame that can be unpacked. -/
def ValidFrame (behind : Mem UInt8) (frame : List UInt8) : Prop :=
  frame.head? = some MSBC_SYNCWORD ∧
    0 < ((sbcUnpackFrame frame.length .zero).value (frameMem behind frame)).1

/-- What each frame is synthesised from, and what it yields. -/
def decodeStream (behind : Mem UInt8) : Sbc → List (List UInt8) → List (DecState × DecodeResult)
  | _, [] => []
  | sbc, frame :: frames =>
      (sbc.synthesisState (frameMem behind frame) frame.length,
        (sbcDecode sbc (frameMem behind frame) frame.length).2) ::
      decodeStream behind (sbcDecode sbc (frameMem behind frame) frame.length).1 frames

/-- A stream of valid frames is decoded as by a new decoder, from the state of a new decoder. -/
def DecodesAsFresh (behind : Mem UInt8) (sbc : Sbc) : Prop :=
  ∀ frame frames, (∀ f ∈ frame :: frames, ValidFrame behind f) →
    sbc.synthesisState (frameMem behind frame) frame.length = .fresh ∧
      decodeStream behind sbc (frame :: frames) = decodeStream behind msbcDecoder (frame :: frames)

theorem ValidFrame.length_ge {frame : List UInt8} (h : ValidFrame behind frame) :
    4 ≤ frame.length := by
  by_contra hshort
  have hpos := h.2
  rw [sbcUnpackFrame_short (Nat.not_le.mp hshort)] at hpos
  exact absurd hpos (by decide)

/-- It is enough that the first frame is synthesised from the right state. -/
theorem decodesAsFresh_of_synthesisState {sbc : Sbc} (hendian : sbc.endian = .be)
    (hstate : ∀ frame, ValidFrame behind frame →
      sbc.synthesisState (frameMem behind frame) frame.length = .fresh) :
    DecodesAsFresh behind sbc := by
  intro frame frames hvalid
  have hframe := hvalid frame List.mem_cons_self
  have hsync := hframe.1
  have hlen := hframe.length_ge
  have hsame : sbc.synthesisState (frameMem behind frame) frame.length =
      msbcDecoder.synthesisState (frameMem behind frame) frame.length := by
    rw [hstate frame hframe, synthesisState_msbcDecoder hsync, if_pos hlen]
  refine ⟨hstate frame hframe, ?_⟩
  unfold decodeStream
  rw [hsame, sbcDecode_congr (frameMem_sync hsync) hlen hendian hsame]

theorem validFrame_indices0 : ValidFrame behind indices0 :=
  ⟨rfl, sbcDecode_framelen sbcInit (frameMem behind indices0) indices0.length ▸
    indices0_decoded sbcInit⟩

/-- **When malformed packets do no harm**: the first one that gets to the decoder has the four bytes
of a header. -/
theorem decodesAsFresh_iff (fl : PlcFloat) (behind : Mem UInt8) (cfg : Config)
    (v : Voice (loggedCodec fl behind)) (hv : LoggedSbc.sbc v.sbc = msbcDecoder)
    (packets : List (List UInt8))
    (hnone : LoggedSbc.NoneDecoded (handlePackets cfg v packets).sbc) :
    DecodesAsFresh behind (LoggedSbc.sbc (handlePackets cfg v packets).sbc) ↔
      ∀ first, packets.find? (fun packet => Reaches cfg packet) = some first →
        MSBC_SYNC_OFFSET + 4 ≤ first.length := by
  have hinv := undecoded_handlePackets hv hnone
  generalize LoggedSbc.sbc (handlePackets cfg v packets).sbc = sbc at hinv ⊢
  unfold Undecoded at hinv
  cases hfind : packets.find? fun packet => Reaches cfg packet with
  | none =>
    rw [hfind] at hinv
    refine iff_of_true (decodesAsFresh_of_synthesisState (hinv ▸ rfl) fun frame hframe => ?_) nofun
    rw [hinv, synthesisState_msbcDecoder hframe.1, if_pos hframe.length_ge]
  | some first =>
    rw [hfind] at hinv
    obtain ⟨hinit, hendian, hdec⟩ := hinv
    have hstate (frame : List UInt8) :
        sbc.synthesisState (frameMem behind frame) frame.length =
          if 4 ≤ (msbcData first).length then .fresh else .zero := by
      rw [synthesisState_eq, if_pos hinit, hdec]
    have hlength : 4 ≤ (msbcData first).length ↔ MSBC_SYNC_OFFSET + 4 ≤ first.length := by
      rw [msbcData, List.length_drop]
      omega
    simp only [Option.some.injEq, forall_eq', ← hlength]
    constructor
    · intro hfresh
      by_contra hshort
      have hzero := (hfresh indices0 [] fun f hf =>
        List.mem_singleton.mp hf ▸ validFrame_indices0).1
      rw [hstate, if_neg hshort] at hzero
      exact absurd (congrArg DecState.subbands hzero) (by decide)
    · intro hlong
      exact decodesAsFresh_of_synthesisState hendian fun frame _ =>
        (hstate frame).trans (if_pos hlong)

end Run

def firstVoice : Voice (loggedCodec noFloat fun _ => 0) where
  mainBuf := ⟨fun _ => 0, 0, 0⟩
  plcState := ⟨fun _ => 0, 0, 0⟩
  plcIn _ := 0
  plcOut _ := 0
  sbc := ⟨msbcDecoder, []⟩
  lastSeqNum := 3

/-- A packet that ends within the header of its frame. -/
def cutPacket : List UInt8 := [0x01, 0x08, 0xAD, 0x00, 0x00]

/-- One that ends behind it. -/
def headerPacket : List UInt8 := [0x01, 0x08, 0xAD, 0x00, 0x00, 0xC5]

theorem decodesAsFresh_headerPacket :
    DecodesAsFresh (fun _ => 0) (LoggedSbc.sbc
      (handlePackets (decodeOn.withPlc true) firstVoice [headerPacket]).sbc) := by
  have hnone : LoggedSbc.NoneDecoded
      (handlePackets (decodeOn.withPlc true) firstVoice [headerPacket]).sbc := by
    unfold LoggedSbc.NoneDecoded
    decide +kernel
  refine (decodesAsFresh_iff noFloat (fun _ => 0) _ firstVoice rfl _ hnone).mpr ?_
  intro first hfirst
  have hfind : [headerPacket].find? (fun packet => Reaches (decodeOn.withPlc true) packet) =
      some headerPacket := by decide
  obtain rfl := Option.some.inj (hfind.symm.trans hfirst)
  decide

/-- After a first packet that is cut off, a valid frame is synthesised from no initial state. -/
theorem not_decodesAsFresh :
    LoggedSbc.NoneDecoded
        (handlePackets (decodeOn.withPlc true) firstVoice [cutPacket]).sbc ∧
      ¬ DecodesAsFresh (fun _ => 0) (LoggedSbc.sbc
        (handlePackets (decodeOn.withPlc true) firstVoice [cutPacket]).sbc) := by
  constructor
  · unfold LoggedSbc.NoneDecoded
    decide +kernel
  · intro hfresh
    have hstate := (hfresh indices0 [] fun f hf =>
      List.mem_singleton.mp hf ▸ validFrame_indices0).1
    have hsubbands : ((LoggedSbc.sbc (handlePackets (decodeOn.withPlc true) firstVoice
        [cutPacket]).sbc).synthesisState (frameMem (fun _ => 0) indices0)
          indices0.length).subbands = 0 := by
      decide +kernel
    exact absurd (hsubbands.symm.trans (congrArg DecState.subbands hstate)) (by decide)

end Sloane.Btremoted
