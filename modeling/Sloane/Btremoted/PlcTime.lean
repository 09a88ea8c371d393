import Sloane.Btremoted.Msbc
import Sloane.Lib.Run

/-!
# The concealment and the time of the stream

A session begins when `handle_connection_event` sets `last_seq_num` to 3.  After a packet that
sets it, as many PCM frames should have been appended as the sequence numbers say, modulo 4.

* `numLost_spec` — the frames concealed are those between the two sequence numbers.
* `plc_inStep_iff` — the stream keeps step iff the decoder accepts the frame of every packet that
  sets the sequence number: it is set before the frame is decoded, and nothing stands in for a
  frame that the decoder refuses.
-/

namespace Sloane.Btremoted

open Sloane.Lib System

variable {C : Codec}

/-- The voice data and, for the record, the number of bytes appended to `main_buf` so far. -/
structure PlcSession (C : Codec) where
  voice : Voice C
  appended : Nat

inductive PlcCall where
  | handleMsbcData (packet : List UInt8)
  | writeToClient (clientFd : Int) (r : SendResult)
  deriving DecidableEq, Repr

namespace PlcCall

def perform (cfg : Config) (v : Voice C) : PlcCall → Voice C × List VoiceEvent
  | .handleMsbcData packet => (Btremoted.handleMsbcData cfg v packet).2
  | .writeToClient clientFd r => (Btremoted.writeToClient v clientFd r).2

/-- Only packets of at least `MSBC_SYNC_OFFSET` bytes are handled. -/
def LenOk : PlcCall → Prop
  | .handleMsbcData packet => MSBC_SYNC_OFFSET ≤ packet.length
  | .writeToClient _ _ => True

/-- If the call sets the sequence number, the decoder accepts its frame. -/
def FrameAccepted (accepts : List UInt8 → Prop) : PlcCall → Prop
  | .handleMsbcData packet => UpdatesSeqNum packet → accepts (msbcData packet)
  | .writeToClient _ _ => True

end PlcCall

def PlcSession.next (cfg : Config) (s : PlcSession C) (c : PlcCall) : PlcSession C where
  voice := (c.perform cfg s.voice).1
  appended := s.appended + (copied (c.perform cfg s.voice).2).length

/-- A session in which the buffer never gets full. -/
def plcSession (C : Codec) (cfg : Config) : System (PlcSession C) PlcCall where
  init s := s.voice.lastSeqNum = 3 ∧ s.appended = 0
  step s c t := c.LenOk ∧ .truncated ∉ (c.perform cfg s.voice).2 ∧ t = s.next cfg c

/-- The number of PCM frames is the sequence number and one more, modulo 4. -/
def PlcSession.Aligned (s : PlcSession C) : Prop :=
  (s.appended / 240 : Int) % NUM_SEQ_CODES = (s.voice.lastSeqNum + 1) % NUM_SEQ_CODES

/-- After a packet that sets the sequence number, the frames agree with it. -/
def InStep (x : Transition (PlcSession C) PlcCall) : Prop :=
  ∀ packet, x.act = .handleMsbcData packet → UpdatesSeqNum packet → x.post.Aligned

/-- Whole frames, in number as the last sequence number says. -/
structure PlcSession.Inv (s : PlcSession C) : Prop where
  whole : s.appended % 240 = 0
  aligned : s.Aligned
  last_range : 0 ≤ s.voice.lastSeqNum ∧ s.voice.lastSeqNum ≤ 3

/-! ## Sequence numbers -/

theorem seqNum_le (packet : List UInt8) : seqNum packet ≤ 3 := by
  unfold seqNum seqCodeToNum
  split_ifs <;> decide

/-- **The frames concealed are those between the two sequence numbers.** -/
theorem numLost_spec {v : Voice C} {packet : List UInt8} (hlast : 0 ≤ v.lastSeqNum)
    (hlast' : v.lastSeqNum ≤ 3) (hseq : 0 ≤ seqNum packet) :
    0 ≤ numLost v packet ∧
      (v.lastSeqNum + 1 + numLost v packet) % NUM_SEQ_CODES = seqNum packet := by
  have hle := seqNum_le packet
  unfold numLost NUM_SEQ_CODES
  rw [Int.tmod_eq_emod_of_nonneg (by omega)]
  omega

/-! ## One call -/

theorem PlcSession.Inv.congr {s t : PlcSession C} (h : s.Inv) (ha : t.appended = s.appended)
    (hl : t.voice.lastSeqNum = s.voice.lastSeqNum) : t.Inv where
  whole := ha ▸ h.whole
  aligned := by
    unfold PlcSession.Aligned
    rw [ha, hl]
    exact h.aligned
  last_range := hl ▸ h.last_range

section Step

variable {cfg : Config} (hdec : cfg.decodeEnabled = true) (hplc : cfg.plcEnabled = true)
include hdec hplc

/-- A call that does not set the sequence number adds nothing. -/
theorem next_skip (s : PlcSession C) {c : PlcCall}
    (h : ∀ packet, c = .handleMsbcData packet → ¬ UpdatesSeqNum packet) :
    (s.next cfg c).appended = s.appended ∧
      (s.next cfg c).voice.lastSeqNum = s.voice.lastSeqNum := by
  cases c with
  | handleMsbcData packet =>
    have heq := handleMsbcData_skip hdec hplc (v := s.voice) (h packet rfl)
    simp only [PlcSession.next, PlcCall.perform]
    rw [heq]
    exact ⟨rfl, rfl⟩
  | writeToClient clientFd r =>
    simp only [PlcSession.next, PlcCall.perform]
    rcases writeToClient_cases s.voice clientFd r with heq | ⟨n, -, heq⟩
    · rw [heq]
      exact ⟨rfl, rfl⟩
    · rw [heq]
      exact ⟨rfl, rfl⟩

/-- A packet that sets the sequence number brings the stream in step if its frame is accepted, and
leaves it a frame behind otherwise. -/
theorem next_update {accepts : List UInt8 → Prop} (ho : SbcOracle C accepts) {s : PlcSession C}
    (hs : s.Inv) {packet : List UInt8} (h : UpdatesSeqNum packet)
    (hfull : .truncated ∉ ((PlcCall.handleMsbcData packet).perform cfg s.voice).2) :
    (accepts (msbcData packet) → (s.next cfg (.handleMsbcData packet)).Inv) ∧
    (¬ accepts (msbcData packet) → ¬ (s.next cfg (.handleMsbcData packet)).Aligned) := by
  obtain ⟨hlast, hgood, hbad⟩ := handleMsbcData_plc ho hdec hplc h hfull
  obtain ⟨hnonneg, hlost⟩ := numLost_spec hs.last_range.1 hs.last_range.2 h.2
  have hle := seqNum_le packet
  have hseq := h.2
  have hwhole := hs.whole
  have haligned := hs.aligned
  simp only [PlcSession.Aligned, NUM_SEQ_CODES] at haligned hlost
  constructor
  · intro ha
    have hadd := hgood ha
    refine ⟨?_, ?_, ?_⟩
    · simp only [PlcSession.next, PlcCall.perform, hadd]
      omega
    · simp only [PlcSession.Aligned, PlcSession.next, PlcCall.perform, hadd, hlast, NUM_SEQ_CODES]
      omega
    · simp only [PlcSession.next, PlcCall.perform, hlast]
      exact ⟨hseq, hle⟩
  · intro hr
    have hadd := hbad hr
    simp only [PlcSession.Aligned, PlcSession.next, PlcCall.perform, hadd, hlast, NUM_SEQ_CODES]
    omega

/-- One call: the stream is in step after it iff its frame is accepted. -/
theorem next_inStep {accepts : List UInt8 → Prop} (ho : SbcOracle C accepts) {s : PlcSession C}
    (hs : s.Inv) {c : PlcCall} (hfull : .truncated ∉ (c.perform cfg s.voice).2) :
    (InStep ⟨s, c, s.next cfg c⟩ ↔ c.FrameAccepted accepts) ∧
      (c.FrameAccepted accepts → (s.next cfg c).Inv) := by
  by_cases hup : ∃ packet, c = .handleMsbcData packet ∧ UpdatesSeqNum packet
  · obtain ⟨packet, rfl, hp⟩ := hup
    obtain ⟨hacc, hrej⟩ := next_update hdec hplc ho hs hp hfull
    refine ⟨⟨?_, ?_⟩, fun ha => hacc (ha hp)⟩
    · intro hin _
      by_contra hr
      exact hrej hr (hin packet rfl hp)
    · intro ha packet' _ _
      exact (hacc (ha hp)).aligned
  · have hskip : ∀ packet, c = .handleMsbcData packet → ¬ UpdatesSeqNum packet :=
      fun packet hc hp => hup ⟨packet, hc, hp⟩
    obtain ⟨happ, hlast⟩ := next_skip hdec hplc s hskip
    refine ⟨⟨?_, fun _ packet hc hp => absurd hp (hskip packet hc)⟩,
      fun _ => hs.congr happ hlast⟩
    intro _
    cases c with
    | handleMsbcData packet => exact fun hp => absurd hp (hskip packet rfl)
    | writeToClient clientFd r => trivial

/-- **When the concealment keeps time**: a session is in step after every packet that sets the
sequence number iff the decoder accepts the frame of each of them. -/
theorem plc_inStep_iff {accepts : List UInt8 → Prop} (ho : SbcOracle C accepts)
    {tr : List (Transition (PlcSession C) PlcCall)} {s : PlcSession C}
    (h : (plcSession C cfg).Run tr s) :
    (∀ x ∈ tr, InStep x) ↔ ∀ x ∈ tr, x.act.FrameAccepted accepts := by
  refine h.all_iff_all PlcSession.Inv (fun _ c => c.FrameAccepted accepts) ?_ ?_ ?_
  · rintro s ⟨hlast, happ⟩
    refine ⟨by rw [happ], ?_, by omega⟩
    unfold PlcSession.Aligned
    rw [hlast, happ]
    rfl
  · rintro s c _ hs ⟨-, hfull, rfl⟩
    exact (next_inStep hdec hplc ho hs hfull).1
  · rintro s c _ hs ⟨-, hfull, rfl⟩ hc
    exact (next_inStep hdec hplc ho hs hfull).2 hc

end Step

/-! ## A good frame and a damaged one -/

/-- A frame that the decoder refuses. -/
def damaged : DecodeResult where
  framelen := -3
  out := []
  out_le := Nat.zero_le _
  out_failed _ := rfl

/-- A decoder that accepts one frame only, as silence, and no concealment. -/
def oneFrameCodec : Codec where
  Plc := Unit
  Sbc := Unit
  initPLC _ := ()
  plcGoodFrame _ plcIn _ := ((), plcIn)
  plcBadFrame _ _ plcOut := ((), plcOut)
  sbcDecode _ frame := ((), if frame = indices0 then silence else damaged)

theorem oneFrameCodec_oracle : SbcOracle oneFrameCodec (· = indices0) where
  indices0_out _ := by
    simp only [oneFrameCodec, if_pos]
    exact List.length_replicate
  accepted _ frame h := by
    simp only [oneFrameCodec, if_pos h]
    exact ⟨by decide, List.length_replicate⟩
  rejected _ frame h := by
    simp only [oneFrameCodec, if_neg h]
    decide

/-- Decoding and concealment, without a trim. -/
def plcOn : Config where
  decodeEnabled := true
  plcEnabled := true
  ntrim := 0
  ntrim_range := zero_ntrim_range

def newSession : PlcSession oneFrameCodec where
  voice := { mainBuf := ⟨fun _ => 0, 0, 0⟩, plcState := (), plcIn _ := 0, plcOut _ := 0,
             sbc := (), lastSeqNum := 3 }
  appended := 0

/-- The first packet of a session, with sequence code 0. -/
def goodPacket : PlcCall := .handleMsbcData (0x01 :: 0x08 :: indices0)

/-- The same packet with a wrong check sum in its frame. -/
def damagedPacket : PlcCall := .handleMsbcData (0x01 :: 0x08 :: indices0.set 3 0xc4)

theorem plc_inStep_goodPacket :
    ∃ tr s, (plcSession oneFrameCodec plcOn).Run tr s ∧ tr.map Transition.act = [goodPacket] ∧
      ∀ x ∈ tr, InStep x := by
  have h₀ : (plcSession oneFrameCodec plcOn).Run [] newSession := .start ⟨rfl, rfl⟩
  have h₁ := h₀.step (a := goodPacket) ⟨Nat.le_add_left 2 _, by decide +kernel, rfl⟩
  refine ⟨_, _, h₁, rfl, (plc_inStep_iff rfl rfl oneFrameCodec_oracle h₁).mpr ?_⟩
  intro x hx
  obtain rfl := List.mem_singleton.mp hx
  exact fun _ => rfl

/-- After the damaged packet the sequence number is 0 and no frame was appended. -/
theorem not_inStep_damagedPacket :
    ¬ ∀ tr s, (plcSession oneFrameCodec plcOn).Run tr s → ∀ x ∈ tr, InStep x := by
  intro hall
  have h₀ : (plcSession oneFrameCodec plcOn).Run [] newSession := .start ⟨rfl, rfl⟩
  have h₁ := h₀.step (a := damagedPacket) ⟨Nat.le_add_left 2 _, by decide +kernel, rfl⟩
  have hin := hall _ _ h₁ _ (List.mem_singleton.mpr rfl) _ rfl (by unfold UpdatesSeqNum; decide)
  exact absurd hin (by unfold PlcSession.Aligned; decide +kernel)

end Sloane.Btremoted
