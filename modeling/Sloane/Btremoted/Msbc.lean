import Sloane.Btremoted.MainBuf

/-!
# mSBC packets

Model of `handle_msbc_data`: the sequence number, the concealment of lost packets and the decoding
of the frame.

* `handleMsbcData_plc` — with decoding and concealment, what a packet adds to the stream.
* `handleMsbcData_appends` — a packet does nothing to the buffer but append to it.
-/

namespace Sloane.Btremoted

open Sloane.Lib

variable {C : Codec}

def SCO_SEQ_OFFSET : Nat := 1
def MSBC_SYNC_OFFSET : Nat := 2
def MSBC_SYNC_CODE : UInt8 := 0xAD
def SCO_MAX_BUFFER_SZ : Nat := 60

def NUM_SEQ_CODES : Int := 4
def SEQ_CODE_0 : UInt8 := 0x0
def SEQ_CODE_1 : UInt8 := 0x3
def SEQ_CODE_2 : UInt8 := 0xc
def SEQ_CODE_3 : UInt8 := 0xf

/-- The frame decoded in place of a lost one. -/
def indices0 : List UInt8 :=
  [0xad, 0x00, 0x00, 0xc5, 0x00, 0x00, 0x00, 0x00, 0x77, 0x6d,
   0xb6, 0xdd, 0xdb, 0x6d, 0xb7, 0x76, 0xdb, 0x6d, 0xdd, 0xb6,
   0xdb, 0x77, 0x6d, 0xb6, 0xdd, 0xdb, 0x6d, 0xb7, 0x76, 0xdb,
   0x6d, 0xdd, 0xb6, 0xdb, 0x77, 0x6d, 0xb6, 0xdd, 0xdb, 0x6d,
   0xb7, 0x76, 0xdb, 0x6d, 0xdd, 0xb6, 0xdb, 0x77, 0x6d, 0xb6,
   0xdd, 0xdb, 0x6d, 0xb7, 0x76, 0xdb, 0x6c, 0x00]

def seqCodeToNum (code : UInt8) : Int :=
  if code = SEQ_CODE_0 then 0
  else if code = SEQ_CODE_1 then 1
  else if code = SEQ_CODE_2 then 2
  else if code = SEQ_CODE_3 then 3
  else -1

def seqNum (packet : List UInt8) : Int := seqCodeToNum (packet.getD SCO_SEQ_OFFSET 0 >>> 4)

def msbcData (packet : List UInt8) : List UInt8 := packet.drop MSBC_SYNC_OFFSET

/-- The loop over the lost packets, with `pcm_buf`. -/
def performPlc (cfg : Config) : Nat → Voice C → Mem UInt8 → Voice C × Mem UInt8 × List VoiceEvent
  | 0, v, pcmBuf => (v, pcmBuf, [])
  | numLost + 1, v, pcmBuf =>
      let (sbc, res) := C.sbcDecode v.sbc indices0
      let (v, pcmBuf, e) := writeToMainBuf cfg { v with sbc := sbc } (pcmBuf.write 0 res.out)
        res.out.length false
      let (v, pcmBuf, es) := performPlc cfg numLost v pcmBuf
      (v, pcmBuf, e :: es)

def numLost (v : Voice C) (packet : List UInt8) : Int :=
  (seqNum packet - v.lastSeqNum - 1 + NUM_SEQ_CODES).tmod NUM_SEQ_CODES

/-- The part under `plc_enabled`; `none` for a bad sequence code. -/
def handleSeqNum (cfg : Config) (v : Voice C) (packet : List UInt8) (pcmBuf : Mem UInt8) :
    Option (Voice C × Mem UInt8 × List VoiceEvent) :=
  if cfg.plcEnabled then
    if seqNum packet < 0 then none
    else
      let (v', pcmBuf, es) := performPlc cfg (numLost v packet).toNat v pcmBuf
      some ({ v' with lastSeqNum := seqNum packet }, pcmBuf, es)
  else some (v, pcmBuf, [])

/-- Decode the frame that was received. -/
def handleGoodFrame (cfg : Config) (v : Voice C) (msbcData : List UInt8) (pcmBuf : Mem UInt8) :
    Status × Voice C × List VoiceEvent :=
  let (sbc, res) := C.sbcDecode v.sbc msbcData
  if 0 < res.framelen then
    let (v, _, e) := writeToMainBuf cfg { v with sbc := sbc } (pcmBuf.write 0 res.out)
      res.out.length true
    (.success, v, [e])
  else (.scoDataFailed, { v with sbc := sbc }, [])

/-- Called with at least `MSBC_SYNC_OFFSET` bytes. -/
def handleMsbcData (cfg : Config) (v : Voice C) (packet : List UInt8) :
    Status × Voice C × List VoiceEvent :=
  if (msbcData packet).head? ≠ some MSBC_SYNC_CODE then (.scoDataFailed, v, [])
  else if !cfg.decodeEnabled then
    let (v, _, e) := writeToMainBuf cfg v (Mem.ofList (msbcData packet) 0) (msbcData packet).length
      false
    (.success, v, [e])
  else
    match handleSeqNum cfg v packet fun _ => 0 with
    | none => (.scoDataFailed, v, [])
    | some (v, pcmBuf, es) =>
        let (status, v, es') := handleGoodFrame cfg v (msbcData packet) pcmBuf
        (status, v, es ++ es')

/-! ## Packets only append -/

theorem DecodeResult.lenOk (res : DecodeResult) : res.out.length + BUFFER_SIZE < 2 ^ 32 := by
  have hle := res.out_le
  simp only [DECODE_BUF_SIZE] at hle
  simp only [BUFFER_SIZE]
  omega

theorem performPlc_appends (cfg : Config) (n : Nat) (v : Voice C) (pcmBuf : Mem UInt8) :
    Appends v.mainBuf (performPlc cfg n v pcmBuf).2.2 (performPlc cfg n v pcmBuf).1.mainBuf := by
  induction n generalizing v pcmBuf with
  | zero => exact .refl _
  | succ n ih =>
    have hfirst := Appends.write cfg { v with sbc := (C.sbcDecode v.sbc indices0).1 }
      (pcmBuf.write 0 (C.sbcDecode v.sbc indices0).2.out)
      (C.sbcDecode v.sbc indices0).2.lenOk false
    exact hfirst.trans (ih _ _)

theorem handleSeqNum_appends {cfg : Config} {es : List VoiceEvent} {v v' : Voice C}
    {packet : List UInt8} {pcmBuf pcmBuf' : Mem UInt8}
    (hs : handleSeqNum cfg v packet pcmBuf = some (v', pcmBuf', es)) :
    Appends v.mainBuf es v'.mainBuf := by
  unfold handleSeqNum at hs
  split at hs
  · split at hs
    · cases hs
    · obtain ⟨rfl, -, rfl⟩ := by simpa only [Option.some.injEq, Prod.mk.injEq] using hs
      exact performPlc_appends cfg _ v pcmBuf
  · obtain ⟨rfl, -, rfl⟩ := by simpa only [Option.some.injEq, Prod.mk.injEq] using hs
    exact .refl _

theorem handleGoodFrame_appends (cfg : Config) (v : Voice C) (frame : List UInt8)
    (pcmBuf : Mem UInt8) : Appends v.mainBuf (handleGoodFrame cfg v frame pcmBuf).2.2
      (handleGoodFrame cfg v frame pcmBuf).2.1.mainBuf := by
  unfold handleGoodFrame
  dsimp only
  split
  · exact Appends.write cfg { v with sbc := (C.sbcDecode v.sbc frame).1 } _
      (C.sbcDecode v.sbc frame).2.lenOk true
  · exact .refl _

/-- **A packet appends to the buffer**, and does nothing else to it. -/
theorem handleMsbcData_appends (cfg : Config) (v : Voice C) {packet : List UInt8}
    (hlen : packet.length ≤ SCO_MAX_BUFFER_SZ) :
    Appends v.mainBuf (handleMsbcData cfg v packet).2.2
      (handleMsbcData cfg v packet).2.1.mainBuf := by
  unfold handleMsbcData
  split
  · exact .refl _
  · split
    · refine Appends.write cfg v _ ?_ false
      have hdrop := packet.length_drop (i := MSBC_SYNC_OFFSET)
      simp only [msbcData, BUFFER_SIZE, SCO_MAX_BUFFER_SZ] at *
      omega
    · split
      · exact .refl _
      · rename_i v' pcmBuf es hseq
        exact (handleSeqNum_appends hseq).trans (handleGoodFrame_appends cfg v' _ pcmBuf)

/-! ## What a packet adds to the stream -/

/-- The decoder yields a frame of 240 bytes for `indices0` and for the frames it accepts, and
fails on the others. -/
structure SbcOracle (C : Codec) (accepts : List UInt8 → Prop) : Prop where
  indices0_out : ∀ sbc, (C.sbcDecode sbc indices0).2.out.length = 240
  accepted : ∀ sbc frame, accepts frame →
    0 < (C.sbcDecode sbc frame).2.framelen ∧ (C.sbcDecode sbc frame).2.out.length = 240
  rejected : ∀ sbc frame, ¬ accepts frame → (C.sbcDecode sbc frame).2.framelen ≤ 0

/-- The packet passes the checks that precede the update of `last_seq_num`. -/
def UpdatesSeqNum (packet : List UInt8) : Prop :=
  (msbcData packet).head? = some MSBC_SYNC_CODE ∧ 0 ≤ seqNum packet

theorem copied_write {cfg : Config} {v : Voice C} {buf : Mem UInt8} {len : Nat} {good : Bool}
    (h : (writeToMainBuf cfg v buf len good).2.2 ≠ .truncated) :
    (copied [(writeToMainBuf cfg v buf len good).2.2]).length = len := by
  rcases writeToMainBuf_event cfg v buf len good with htrunc | ⟨bs, hbs, hev⟩
  · exact absurd htrunc h
  · simpa [hev, copied] using hbs

section Oracle

variable {accepts : List UInt8 → Prop} (ho : SbcOracle C accepts) {cfg : Config}
include ho

/-- Each lost packet adds a frame. -/
theorem performPlc_copied {n : Nat} {v : Voice C} {pcmBuf : Mem UInt8}
    (h : .truncated ∉ (performPlc cfg n v pcmBuf).2.2) :
    (copied (performPlc cfg n v pcmBuf).2.2).length = 240 * n := by
  induction n generalizing v pcmBuf with
  | zero => rfl
  | succ n ih =>
    simp only [performPlc, List.mem_cons, not_or] at h ⊢
    obtain ⟨hfirst, hrest⟩ := h
    rw [← List.singleton_append, copied_append, List.length_append, ih hrest,
      copied_write (Ne.symm hfirst), ho.indices0_out]
    omega

theorem handleSeqNum_plc (hplc : cfg.plcEnabled = true) {v : Voice C} {packet : List UInt8}
    (hseq : 0 ≤ seqNum packet) (pcmBuf : Mem UInt8) :
    ∃ v' pcmBuf' es, handleSeqNum cfg v packet pcmBuf = some (v', pcmBuf', es) ∧
      v'.lastSeqNum = seqNum packet ∧
      (.truncated ∉ es → (copied es).length = 240 * (numLost v packet).toNat) := by
  have heq : handleSeqNum cfg v packet pcmBuf =
      let r := performPlc cfg (numLost v packet).toNat v pcmBuf
      some ({ r.1 with lastSeqNum := seqNum packet }, r.2.1, r.2.2) := by
    unfold handleSeqNum
    rw [if_pos hplc, if_neg (by omega)]
  exact ⟨_, _, _, heq, rfl, performPlc_copied ho⟩

theorem handleGoodFrame_copied {v : Voice C} {frame : List UInt8} {pcmBuf : Mem UInt8}
    (h : .truncated ∉ (handleGoodFrame cfg v frame pcmBuf).2.2) :
    (accepts frame → (copied (handleGoodFrame cfg v frame pcmBuf).2.2).length = 240) ∧
    (¬ accepts frame → copied (handleGoodFrame cfg v frame pcmBuf).2.2 = []) := by
  unfold handleGoodFrame at h ⊢
  constructor
  · intro ha
    obtain ⟨hlen, hout⟩ := ho.accepted v.sbc frame ha
    simp only [if_pos hlen, List.mem_singleton] at h ⊢
    rw [copied_write (Ne.symm h), hout]
  · intro hr
    have hlen := ho.rejected v.sbc frame hr
    simp only [if_neg (show ¬ 0 < (C.sbcDecode v.sbc frame).2.framelen by omega)]
    rfl

omit ho in
theorem handleGoodFrame_lastSeqNum (v : Voice C) (frame : List UInt8) (pcmBuf : Mem UInt8) :
    (handleGoodFrame cfg v frame pcmBuf).2.1.lastSeqNum = v.lastSeqNum := by
  unfold handleGoodFrame
  dsimp only
  split
  · exact (writeToMainBuf_other cfg _ _ _ _).2
  · rfl

omit ho in
/-- A packet that does not get to the update leaves everything as it is. -/
theorem handleMsbcData_skip (hdec : cfg.decodeEnabled = true) (hplc : cfg.plcEnabled = true)
    {v : Voice C} {packet : List UInt8} (h : ¬ UpdatesSeqNum packet) :
    handleMsbcData cfg v packet = (.scoDataFailed, v, []) := by
  unfold handleMsbcData
  split
  · rfl
  · rename_i hsync
    have hseq : seqNum packet < 0 := by
      by_contra hge
      exact h ⟨not_not.mp hsync, by omega⟩
    have hnone : handleSeqNum cfg v packet (fun _ => 0) = none := by
      unfold handleSeqNum
      rw [if_pos hplc, if_pos hseq]
    simp only [hdec, hnone]
    rfl

/-- **What a packet adds**: a frame for each one lost before it, and its own if the decoder
accepts it. -/
theorem handleMsbcData_plc (hdec : cfg.decodeEnabled = true) (hplc : cfg.plcEnabled = true)
    {v : Voice C} {packet : List UInt8} (h : UpdatesSeqNum packet)
    (hfull : .truncated ∉ (handleMsbcData cfg v packet).2.2) :
    (handleMsbcData cfg v packet).2.1.lastSeqNum = seqNum packet ∧
    (accepts (msbcData packet) → (copied (handleMsbcData cfg v packet).2.2).length =
      240 * ((numLost v packet).toNat + 1)) ∧
    (¬ accepts (msbcData packet) → (copied (handleMsbcData cfg v packet).2.2).length =
      240 * (numLost v packet).toNat) := by
  obtain ⟨v', pcmBuf, es, heq, hlast, hlost⟩ := handleSeqNum_plc ho hplc h.2 (v := v) fun _ => 0
  have hres : handleMsbcData cfg v packet =
      ((handleGoodFrame cfg v' (msbcData packet) pcmBuf).1,
        (handleGoodFrame cfg v' (msbcData packet) pcmBuf).2.1,
        es ++ (handleGoodFrame cfg v' (msbcData packet) pcmBuf).2.2) := by
    unfold handleMsbcData
    simp only [h.1, hdec, heq]
    rfl
  rw [hres] at hfull ⊢
  rw [List.mem_append, not_or] at hfull
  obtain ⟨hgood, hbad⟩ := handleGoodFrame_copied ho hfull.2
  refine ⟨(handleGoodFrame_lastSeqNum v' _ pcmBuf).trans hlast, fun ha => ?_, fun hr => ?_⟩
  · rw [copied_append, List.length_append, hlost hfull.1, hgood ha]
    omega
  · rw [copied_append, List.length_append, hlost hfull.1, hbad hr]
    rfl

end Oracle

end Sloane.Btremoted
