import Sloane.Hci.H4Protocol

/-!
# What the receiver delivers

The stream of a list of packets, read in pieces of any size.

* `Position` — how far the receiver is within a packet, and what of it is still to be read.
* `Position.step` — one call moves on within the packet or delivers it; a packet with an empty
  payload is never delivered.
* `h4_round_trip` — packets with a payload are delivered in order, byte for byte.
* `receiver_aborts_iff` — the receiver aborts iff a packet without payload is followed by another.
* `h4_keepsUp_iff` — the receiver keeps up with the stream iff no packet is without payload.
-/

namespace Sloane.Hci

open Sloane.Lib

/-- Reading at most what is left of the packet does not touch what follows. -/
theorem readFd_packet (r : Nat) {requested : Nat} {left : List UInt8} (rest : List UInt8)
    (h0 : 0 < requested) (hle : requested ≤ left.length) : ∃ n, 0 < n ∧ n ≤ requested ∧
      readFd r requested (left ++ rest) = (left.take n, left.drop n ++ rest) := by
  refine ⟨min (max 1 r) requested, by omega, by omega, ?_⟩
  have hmin : min requested (left ++ rest).length = requested := by
    rw [List.length_append]
    omega
  rw [readFd, hmin, List.splitAt_eq, List.take_append_of_le_length (by omega),
    List.drop_append_of_le_length (by omega)]

/-- The length field is all that is looked at. -/
theorem hciGetPacketLengthForType_congr {t : HciPacketType} (ht : t ≠ .unknown) {m m' : Mem UInt8}
    (h : m.read 0 (preambleSizeForType t) = m'.read 0 (preambleSizeForType t)) :
    hciGetPacketLengthForType t m = hciGetPacketLengthForType t m' := by
  have hm : ∀ i < preambleSizeForType t, m i = m' i := fun i hi => by
    simpa using Mem.eq_of_read_eq h hi
  cases t with
  | unknown => exact absurd rfl ht
  | command => exact congrArg UInt8.toNat (hm 2 (by decide))
  | aclData =>
    simp only [hciGetPacketLengthForType, packetLengthOffsetForType, HCI_LENGTH_OFFSET_ACL]
    rw [hm 2 (by decide), hm 3 (by decide)]
  | scoData => exact congrArg UInt8.toNat (hm 2 (by decide))
  | event => exact congrArg UInt8.toNat (hm 1 (by decide))

namespace HciPacket

variable (p : HciPacket)

theorem type_ne_unknown : p.type ≠ .unknown := by
  rcases p.received with h | h | h <;> simp [h]

theorem preamble_pos : 0 < preambleSizeForType p.type := by
  rcases p.received with h | h | h <;> rw [h] <;> decide

theorem encode_ne_nil : p.encode ≠ [] := by simp [encode, frame]

/-- The length read from a memory that holds the preamble. -/
theorem length_of_read {m : Mem UInt8}
    (h : m.read 0 (preambleSizeForType p.type) = p.preamble) :
    hciGetPacketLengthForType p.type m = p.payload.length := by
  rw [← p.length_field]
  apply hciGetPacketLengthForType_congr p.type_ne_unknown
  rw [h, ← p.preamble_length, Mem.ofList_read]

end HciPacket

/-! ## Within a packet -/

/-- Where the receiver is in packet `p`; the list is what of the packet is still to be read. -/
inductive Position (p : HciPacket) : H4Protocol → List UInt8 → Prop
  | typeByte {h} : InitialControl h → Position p h p.encode
  | preamble {h} (j : Nat) : h.hciPacketType = p.type → h.hciPacketizer.state = .preamble →
      h.hciPacketizer.bytesRead = j → j < preambleSizeForType p.type →
      h.hciPacketizer.preamble.read 0 j = p.preamble.take j →
      Position p h (p.preamble.drop j ++ p.payload)
  | payload {h} (j : Nat) : h.hciPacketType = p.type → h.hciPacketizer.state = .payload →
      h.hciPacketizer.bytesRead = j →
      h.hciPacketizer.bytesRemaining = p.payload.length - j →
      j = 0 ∨ j < p.payload.length →
      h.hciPacketizer.packet.size = preambleSizeForType p.type + p.payload.length →
      h.hciPacketizer.packet.data.read 0 (preambleSizeForType p.type + j) =
        p.preamble ++ p.payload.take j →
      Position p h (p.payload.drop j)

/-- What one call with something of the packet left to read does. -/
inductive Advance (p : HciPacket) (rest : List UInt8) (left : List UInt8) :
    Option (H4Protocol × List UInt8 × List Delivery) → Prop
  | on {h left'} : Position p h left' → left'.length < left.length →
      Advance p rest left (some (h, left' ++ rest, []))
  | done {h} : p.payload ≠ [] → InitialControl h →
      Advance p rest left (some (h, rest, [p.delivery]))

theorem advance_typeByte (p : HciPacket) {h : H4Protocol} (hi : InitialControl h) (r : Nat)
    (rest : List UInt8) : Advance p rest p.encode (h.onDataReady r (p.encode ++ rest)) := by
  have hne : 1 ≤ p.encode.length := by simp [HciPacket.encode, frame]
  obtain ⟨n, hn0, hn1, hread⟩ := readFd_packet r rest Nat.one_pos hne
  obtain rfl : n = 1 := by omega
  have hpos : Position p { h with hciPacketType := p.type } (p.preamble.drop 0 ++ p.payload) :=
    .preamble 0 rfl hi.state hi.bytesRead p.preamble_pos rfl
  have hlen : (p.preamble.drop 0 ++ p.payload).length < p.encode.length := by
    simp [HciPacket.encode, HciPacket.bytes, frame]
  have hcall : h.onDataReady r (p.encode ++ rest) =
      some ({ h with hciPacketType := p.type }, p.preamble.drop 0 ++ p.payload ++ rest, []) := by
    simp only [H4Protocol.onDataReady, hi.type, if_true, hread]
    simp only [HciPacket.encode, frame, HciPacket.bytes, List.take_succ_cons, List.take_zero,
      List.drop_succ_cons, List.drop_zero, HciPacketType.ofByte_code]
    rcases p.received with ht | ht | ht <;> rw [ht]
  rw [hcall]
  exact .on hpos hlen

theorem advance_preamble (p : HciPacket) {h : H4Protocol} {j : Nat}
    (ht : h.hciPacketType = p.type) (hs : h.hciPacketizer.state = .preamble)
    (hj : h.hciPacketizer.bytesRead = j) (hlt : j < preambleSizeForType p.type)
    (hm : h.hciPacketizer.preamble.read 0 j = p.preamble.take j) (r : Nat) (rest : List UInt8) :
    Advance p rest (p.preamble.drop j ++ p.payload)
      (h.onDataReady r (p.preamble.drop j ++ p.payload ++ rest)) := by
  have hplen := p.preamble_length
  have hle : preambleSizeForType p.type - j ≤ (p.preamble.drop j).length := by
    rw [List.length_drop]
    omega
  obtain ⟨n, hn0, hn1, hread⟩ := readFd_packet r (p.payload ++ rest) (by omega) hle
  rw [← List.append_assoc] at hread
  have hbytes : ((p.preamble.drop j).take n).length = n := by
    rw [List.length_take, List.length_drop]
    omega
  -- what the preamble buffer holds after the read
  have hmem : (h.hciPacketizer.preamble.write j ((p.preamble.drop j).take n)).read 0 (j + n) =
      p.preamble.take (j + n) := by
    have happ := Mem.read_write_append (a := 0) (n := j) h.hciPacketizer.preamble
      ((p.preamble.drop j).take n)
    rw [Nat.zero_add, hbytes, hm] at happ
    rw [happ, List.take_add]
  have hleft : (p.preamble.drop j).drop n = p.preamble.drop (j + n) := List.drop_drop ..
  simp only [H4Protocol.onDataReady, ht, p.type_ne_unknown, if_false, HciPacketizer.onDataReady, hs,
    hj, hread, hbytes, Nat.ne_of_gt hn0, hleft]
  by_cases hend : j + n = preambleSizeForType p.type
  · -- the preamble is complete, the payload begins
    have hfull := hmem
    rw [hend, ← hplen, List.take_length, hplen] at hfull
    simp only [hend, if_true, p.length_of_read hfull, hfull]
    rw [← hplen, List.drop_length, List.nil_append]
    refine .on (.payload 0 rfl rfl rfl rfl (.inl rfl) (congrArg (· + _) hplen) ?_) ?_
    · have hcopy := Mem.read_write_self h.hciPacketizer.packet.data 0 p.preamble
      rw [hplen] at hcopy
      simpa [HidlVec.resize, hplen] using hcopy
    · simp only [List.length_append, List.length_drop]
      omega
  · simp only [hend, if_false]
    rw [← List.append_assoc]
    refine .on (.preamble (j + n) rfl rfl rfl (by omega) hmem) ?_
    simp only [List.length_append, List.length_drop]
    omega

theorem advance_payload (p : HciPacket) {h : H4Protocol} {j : Nat}
    (ht : h.hciPacketType = p.type) (hs : h.hciPacketizer.state = .payload)
    (hj : h.hciPacketizer.bytesRead = j)
    (hrem : h.hciPacketizer.bytesRemaining = p.payload.length - j) (hlt : j < p.payload.length)
    (hsize : h.hciPacketizer.packet.size = preambleSizeForType p.type + p.payload.length)
    (hm : h.hciPacketizer.packet.data.read 0 (preambleSizeForType p.type + j) =
      p.preamble ++ p.payload.take j) (r : Nat) (rest : List UInt8) :
    Advance p rest (p.payload.drop j) (h.onDataReady r (p.payload.drop j ++ rest)) := by
  have hle : p.payload.length - j ≤ (p.payload.drop j).length :=
    Nat.le_of_eq (List.length_drop ..).symm
  obtain ⟨n, hn0, hn1, hread⟩ := readFd_packet r rest (by omega) hle
  have hbytes : ((p.payload.drop j).take n).length = n := by
    rw [List.length_take, List.length_drop]
    omega
  -- what the packet buffer holds after the read
  have hmem : (h.hciPacketizer.packet.data.write (preambleSizeForType p.type + j)
      ((p.payload.drop j).take n)).read 0 (preambleSizeForType p.type + (j + n)) =
      p.preamble ++ p.payload.take (j + n) := by
    have happ := Mem.read_write_append (a := 0) (n := preambleSizeForType p.type + j)
      h.hciPacketizer.packet.data ((p.payload.drop j).take n)
    rw [Nat.zero_add, hbytes, hm] at happ
    rw [← Nat.add_assoc, happ, List.append_assoc, List.take_add]
  have hleft : (p.payload.drop j).drop n = p.payload.drop (j + n) := List.drop_drop ..
  simp only [H4Protocol.onDataReady, ht, p.type_ne_unknown, if_false, HciPacketizer.onDataReady, hs,
    hj, hrem, hread, hbytes, Nat.ne_of_gt hn0, hleft]
  by_cases hend : p.payload.length - j - n = 0
  · -- the payload is complete, the packet is handed out
    have hjn : j + n = p.payload.length := by omega
    have hall : p.payload.drop (j + n) = [] := by rw [hjn, List.drop_length]
    have hpacket : (HidlVec.mk h.hciPacketizer.packet.size
        (h.hciPacketizer.packet.data.write (preambleSizeForType p.type + j)
          ((p.payload.drop j).take n))).toList = p.bytes := by
      rw [HidlVec.toList, hsize, ← hjn, hmem, hjn, List.take_length, HciPacket.bytes]
    have hne : p.payload ≠ [] := List.ne_nil_of_length_pos (by omega)
    rw [hend, hall, List.nil_append]
    simp only [if_true, H4Protocol.onPacketReady_of_received (h := ⟨p.type, _⟩) p.received,
      Option.map_some, hpacket]
    exact .done hne ⟨rfl, rfl, rfl⟩
  · simp only [hend, if_false]
    refine .on (.payload (j + n) rfl rfl rfl (by simp only; omega) (.inr (by omega)) hsize hmem) ?_
    simp only [List.length_drop]
    omega

/-- A packet with a payload has something left to read as long as it is not delivered. -/
theorem Position.left_ne_nil {p : HciPacket} {h : H4Protocol} {left : List UInt8}
    (hp : Position p h left) (hpay : p.payload ≠ []) : left ≠ [] := by
  have hpos := List.length_pos_iff.mpr hpay
  cases hp with
  | typeByte _ => exact p.encode_ne_nil
  | preamble j _ _ _ _ _ => simp [hpay]
  | payload j _ _ _ _ hj _ _ =>
    apply List.ne_nil_of_length_pos
    rw [List.length_drop]
    omega

/-- **One call within a packet.** -/
theorem Position.step {p : HciPacket} {h : H4Protocol} {left : List UInt8} (hp : Position p h left)
    (hne : left ≠ []) (r : Nat) (rest : List UInt8) :
    Advance p rest left (h.onDataReady r (left ++ rest)) := by
  cases hp with
  | typeByte hi => exact advance_typeByte p hi r rest
  | preamble j ht hs hj hlt hm => exact advance_preamble p ht hs hj hlt hm r rest
  | payload j ht hs hj hrem hlt hsize hm =>
    have hlt' : j < p.payload.length := by
      have := List.length_pos_iff.mpr hne
      rw [List.length_drop] at this
      omega
    exact advance_payload p ht hs hj hrem hlt' hsize hm r rest

/-- With nothing left to read of a packet, the next call reads no bytes and aborts. -/
theorem Position.abort {p : HciPacket} {h : H4Protocol} {left : List UInt8}
    (hp : Position p h left) (hnil : left = []) (r : Nat) (unread : List UInt8) :
    h.onDataReady r unread = none := by
  cases hp with
  | typeByte _ => exact absurd hnil p.encode_ne_nil
  | preamble j _ _ _ hlt _ =>
    have := congrArg List.length hnil
    have hplen := p.preamble_length
    simp only [List.length_append, List.length_drop, List.length_nil] at this
    omega
  | payload j ht hs hj hrem _ _ _ =>
    have hzero : p.payload.length - j = 0 := by simpa using congrArg List.length hnil
    have hread : (readFd r (p.payload.length - j) unread).1.length = 0 := by
      rw [readFd_length, hzero]
      simp
    simp only [H4Protocol.onDataReady, ht, p.type_ne_unknown, if_false,
      HciPacketizer.onDataReady, hs, hrem, hread, if_true]

/-! ## Along the stream -/

/-- The receiver is in front of the packets `todo`, or within the first of them. -/
inductive Sync : List HciPacket → Receiver → Prop
  | idle {s} : s.unread = [] → InitialControl s.h4 → Sync [] s
  | within {p rest left s} : Position p s.h4 left → s.unread = left ++ encodeAll rest →
      Sync (p :: rest) s

/-- Between two packets. -/
theorem Sync.boundary {todo : List HciPacket} {s : Receiver} (hu : s.unread = encodeAll todo)
    (hi : InitialControl s.h4) : Sync todo s := by
  cases todo with
  | nil => exact .idle hu hi
  | cons p rest => exact .within (.typeByte hi) hu

/-- **One call of the receiver.** -/
theorem Receiver.step_within {p : HciPacket} {rest : List HciPacket} {left : List UInt8}
    {s : Receiver} (hp : Position p s.h4 left) (hu : s.unread = left ++ encodeAll rest)
    (hne : left ≠ []) (r : Nat) : ∃ t, s.step r = some t ∧
      ((∃ left', Position p t.h4 left' ∧ t.unread = left' ++ encodeAll rest ∧
          left'.length < left.length ∧ t.delivered = s.delivered) ∨
        (p.payload ≠ [] ∧ InitialControl t.h4 ∧ t.unread = encodeAll rest ∧
          t.delivered = s.delivered ++ [p.delivery])) := by
  have hun : s.unread ≠ [] := by simp [hu, hne]
  have hadv := hp.step hne r (encodeAll rest)
  rw [← hu] at hadv
  unfold Receiver.step
  rw [if_neg hun]
  generalize s.h4.onDataReady r s.unread = o at hadv
  cases hadv with
  | @on h left' hpos hlt =>
    exact ⟨⟨h, left' ++ encodeAll rest, s.delivered ++ []⟩, rfl,
      .inl ⟨left', hpos, rfl, hlt, List.append_nil _⟩⟩
  | @done h hpay hi => exact ⟨⟨h, encodeAll rest, _⟩, rfl, .inr ⟨hpay, hi, rfl, rfl⟩⟩

theorem Receiver.run_add (ρ : Nat → Nat) (s : Receiver) (n : Nat) {t u : Receiver} {m : Nat}
    (h : s.run ρ n = some t) (hm : t.run (fun i => ρ (n + i)) m = some u) :
    s.run ρ (n + m) = some u := by
  induction m generalizing u with
  | zero =>
    rw [Nat.add_zero, h]
    exact hm
  | succ m ih =>
    obtain ⟨v, hv, hstep⟩ := Option.bind_eq_some_iff.mp hm
    exact Option.bind_eq_some_iff.mpr ⟨v, ih hv, hstep⟩

/-- **Run lemma.**  With a payload in every packet but the last the calls never abort, and what has
been delivered are the first packets. -/
theorem run_sync {pkts : List HciPacket} (hne : ∀ p ∈ pkts.dropLast, p.payload ≠ []) (ρ : Nat → Nat)
    {s : Receiver} (hs : Sync pkts s) (hd : s.delivered = []) (n : Nat) :
    ∃ t done todo, s.run ρ n = some t ∧ pkts = done ++ todo ∧
      t.delivered = done.map HciPacket.delivery ∧ Sync todo t := by
  induction n with
  | zero => exact ⟨s, [], pkts, rfl, rfl, hd, hs⟩
  | succ n ih =>
    obtain ⟨t, done, todo, hrun, hsplit, hdel, hsync⟩ := ih
    have hnext : s.run ρ (n + 1) = t.step (ρ n) := by
      rw [Receiver.run, hrun, Option.bind_some]
    rw [hnext]
    cases hsync with
    | idle hu hi => exact ⟨t, done, [], by rw [Receiver.step, if_pos hu], hsplit, hdel, .idle hu hi⟩
    | @within p rest left _ hpos hu =>
      by_cases hend : t.unread = []
      · exact ⟨t, done, p :: rest, by rw [Receiver.step, if_pos hend], hsplit, hdel,
          .within hpos hu⟩
      · have hleft : left ≠ [] := by
          rintro rfl
          -- only the last packet may have nothing left to read, and then there is nothing at all
          have hrest : rest ≠ [] := by
            rintro rfl
            exact hend hu
          have hmem : p ∈ pkts.dropLast := by
            rw [hsplit, List.dropLast_append_cons, List.dropLast_cons_of_ne_nil hrest]
            simp
          exact hpos.left_ne_nil (hne p hmem) rfl
        obtain ⟨u, hu', hcase⟩ := Receiver.step_within hpos hu hleft (ρ n)
        rcases hcase with ⟨left', hpos', hun', -, hdel'⟩ | ⟨-, hi, hun', hdel'⟩
        · exact ⟨u, done, p :: rest, hu', hsplit, hdel'.trans hdel, .within hpos' hun'⟩
        · refine ⟨u, done ++ [p], rest, hu', by simp [hsplit], ?_, .boundary hun' hi⟩
          rw [hdel', hdel, List.map_append, List.map_singleton]

/-- The calls go on to the end of the packet; there it has been delivered, unless it has no
payload. -/
theorem run_packet {p : HciPacket} {rest : List HciPacket} {left : List UInt8} {s : Receiver}
    (hp : Position p s.h4 left) (hu : s.unread = left ++ encodeAll rest) (ρ : Nat → Nat) :
    ∃ m t, s.run ρ m = some t ∧ t.unread = encodeAll rest ∧
      ((p.payload ≠ [] ∧ InitialControl t.h4 ∧ t.delivered = s.delivered ++ [p.delivery]) ∨
        (p.payload = [] ∧ Position p t.h4 [] ∧ t.delivered = s.delivered)) := by
  induction hlen : left.length using Nat.strongRecOn generalizing left s ρ with
  | ind len ih =>
    by_cases hnil : left = []
    · subst hnil
      have hpay : p.payload = [] := by
        by_contra hpay
        exact hp.left_ne_nil hpay rfl
      exact ⟨0, s, rfl, hu, .inr ⟨hpay, hp, rfl⟩⟩
    · obtain ⟨u, hstep, hcase⟩ := Receiver.step_within hp hu hnil (ρ 0)
      have hone : s.run ρ 1 = some u := hstep
      rcases hcase with ⟨left', hpos, hun, hlt, hdel⟩ | ⟨hpay, hi, hun, hdel⟩
      · obtain ⟨m, t, hrun, hut, hend⟩ := ih _ (hlen ▸ hlt) hpos hun (fun i => ρ (1 + i)) rfl
        refine ⟨1 + m, t, Receiver.run_add ρ s 1 hone hrun, hut, ?_⟩
        rwa [hdel] at hend
      · exact ⟨1, u, hone, hun, .inl ⟨hpay, hi, hdel⟩⟩

/-- Packets with a payload are delivered one after the other, up to a point between two
packets. -/
theorem run_packets {done : List HciPacket} (hne : ∀ p ∈ done, p.payload ≠ [])
    {rest : List HciPacket} {s : Receiver} (hi : InitialControl s.h4)
    (hu : s.unread = encodeAll (done ++ rest)) (ρ : Nat → Nat) :
    ∃ m t, s.run ρ m = some t ∧ InitialControl t.h4 ∧ t.unread = encodeAll rest ∧
      t.delivered = s.delivered ++ done.map HciPacket.delivery := by
  induction done generalizing s ρ with
  | nil => exact ⟨0, s, rfl, hi, hu, (List.append_nil _).symm⟩
  | cons p done ih =>
    obtain ⟨hp, hdone⟩ := List.forall_mem_cons.mp hne
    obtain ⟨m, t, hrun, hun, ⟨-, hit, hdel⟩ | ⟨hpay, -⟩⟩ := run_packet (.typeByte hi) hu ρ
    · obtain ⟨k, u, hrun', hiu, huu, hdel'⟩ := ih hdone hit hun fun i => ρ (m + i)
      refine ⟨m + k, u, Receiver.run_add ρ s m hrun hrun', hiu, huu, ?_⟩
      rw [hdel', hdel, List.map_cons, List.append_assoc, List.singleton_append]
    · exact absurd hpay hp

/-- Packets may be written behind those that are there. -/
theorem Sync.snoc {todo : List HciPacket} {h : H4Protocol} {unread : List UInt8}
    {ds : List Delivery} (hs : Sync todo ⟨h, unread, ds⟩) (p : HciPacket) :
    Sync (todo ++ [p]) ⟨h, unread ++ p.encode, ds⟩ := by
  have hp : encodeAll [p] = p.encode := List.append_nil _
  cases hs with
  | idle hu hi =>
    obtain rfl : unread = [] := hu
    exact .boundary hp.symm hi
  | @within q rest left _ hpos hu =>
    obtain rfl : unread = left ++ encodeAll rest := hu
    have hun : left ++ encodeAll rest ++ p.encode = left ++ encodeAll (rest ++ [p]) := by
      rw [encodeAll_append, hp, List.append_assoc]
    exact .within hpos hun

/-- One call moves on within the first packet or delivers it. -/
theorem Sync.onDataReady {todo : List HciPacket} {h h' : H4Protocol} {r : Nat}
    {unread unread' : List UInt8} {ds : List Delivery} (hs : Sync todo ⟨h, unread, []⟩)
    (hne : unread ≠ []) (hr : h.onDataReady r unread = some (h', unread', ds)) :
    (ds = [] ∧ Sync todo ⟨h', unread', []⟩) ∨
      ∃ p rest, todo = p :: rest ∧ ds = [p.delivery] ∧ Sync rest ⟨h', unread', []⟩ := by
  cases hs with
  | idle hu _ => exact absurd hu hne
  | @within p rest left _ hpos hu =>
    obtain rfl : unread = left ++ encodeAll rest := hu
    have hleft : left ≠ [] := by
      intro hnil
      rw [hpos.abort hnil] at hr
      cases hr
    have hadv := hpos.step hleft r (encodeAll rest)
    rw [hr] at hadv
    cases hadv with
    | on hpos' _ => exact .inl ⟨rfl, .within hpos' rfl⟩
    | done _ hi => exact .inr ⟨p, rest, rfl, rfl, .boundary rfl hi⟩

/-- With a payload in every packet no call aborts. -/
theorem Sync.onDataReady_isSome {todo : List HciPacket} {h : H4Protocol} {unread : List UInt8}
    (hs : Sync todo ⟨h, unread, []⟩) (hpay : ∀ p ∈ todo, p.payload ≠ []) (hne : unread ≠ [])
    (r : Nat) : (h.onDataReady r unread).isSome = true := by
  cases hs with
  | idle hu _ => exact absurd hu hne
  | @within p rest left _ hpos hu =>
    obtain rfl : unread = left ++ encodeAll rest := hu
    have hleft := hpos.left_ne_nil (hpay p List.mem_cons_self)
    have hadv : Advance p (encodeAll rest) left (h.onDataReady r (left ++ encodeAll rest)) :=
      hpos.step hleft r (encodeAll rest)
    generalize h.onDataReady r (left ++ encodeAll rest) = o at hadv ⊢
    cases hadv <;> rfl

/-- With a payload in every packet all are delivered once nothing is left to read. -/
theorem Sync.todo_eq_nil {todo : List HciPacket} {s : Receiver} (hs : Sync todo s)
    (hpay : ∀ p ∈ todo, p.payload ≠ []) (hu : s.unread = []) : todo = [] := by
  cases hs with
  | idle _ _ => rfl
  | @within p rest left _ hpos hu' =>
    rw [hu'] at hu
    exact absurd (List.append_eq_nil_iff.mp hu).1 (hpos.left_ne_nil (hpay p List.mem_cons_self))

/-- The receiver as it is created, in front of a stream of packets. -/
def receiving (m : Mem UInt8) (pkts : List HciPacket) : Receiver := ⟨.new m, encodeAll pkts, []⟩

theorem run_receiving (m : Mem UInt8) {pkts : List HciPacket}
    (hne : ∀ p ∈ pkts.dropLast, p.payload ≠ []) (ρ : Nat → Nat) (n : Nat) :
    ∃ t done todo, (receiving m pkts).run ρ n = some t ∧ pkts = done ++ todo ∧
      t.delivered = done.map HciPacket.delivery ∧ Sync todo t :=
  run_sync hne ρ (.boundary rfl (.new m)) rfl n

/-- **Framing round trip.**  Whatever the sizes of the reads, the callbacks made are those for the
first packets, in order and byte for byte; and for each packet there is the moment after it, when
exactly the packets up to it have been read and delivered and the control state is initial. -/
theorem h4_round_trip (m : Mem UInt8) {pkts : List HciPacket} (hne : ∀ p ∈ pkts, p.payload ≠ [])
    (ρ : Nat → Nat) :
    (∀ n, ∃ t k, (receiving m pkts).run ρ n = some t ∧
      t.delivered = (pkts.take k).map HciPacket.delivery) ∧
    ∀ k, ∃ n t, (receiving m pkts).run ρ n = some t ∧ InitialControl t.h4 ∧
      t.unread = encodeAll (pkts.drop k) ∧
      t.delivered = (pkts.take k).map HciPacket.delivery := by
  constructor
  · intro n
    obtain ⟨t, done, todo, hrun, rfl, hdel, -⟩ := run_receiving m
      (fun p hp => hne p (List.dropLast_subset _ hp)) ρ n
    exact ⟨t, done.length, hrun, by rw [List.take_left, hdel]⟩
  · intro k
    have hsplit : (receiving m pkts).unread = encodeAll (pkts.take k ++ pkts.drop k) := by
      rw [List.take_append_drop]
      rfl
    obtain ⟨n, t, hrun, hi, hu, hdel⟩ :=
      run_packets (fun p hp => hne p (List.mem_of_mem_take hp)) (.new m) hsplit ρ
    exact ⟨n, t, hrun, hi, hu, hdel⟩

/-! ## Packets without payload -/

/-- No call aborts, and once the bytes of the first packets have been read they are delivered. -/
def KeepsUp (m : Mem UInt8) (pkts : List HciPacket) (ρ : Nat → Nat) : Prop :=
  ∀ n, ∃ t, (receiving m pkts).run ρ n = some t ∧
    ∀ k ≤ pkts.length, t.unread.length ≤ (encodeAll (pkts.drop k)).length →
      (pkts.take k).map HciPacket.delivery <+: t.delivered

theorem keepsUp_of_payload (m : Mem UInt8) {pkts : List HciPacket}
    (hne : ∀ p ∈ pkts, p.payload ≠ []) (ρ : Nat → Nat) : KeepsUp m pkts ρ := by
  intro n
  obtain ⟨t, done, todo, hrun, rfl, hdel, hsync⟩ := run_receiving m
    (fun p hp => hne p (List.dropLast_subset _ hp)) ρ n
  refine ⟨t, hrun, ?_⟩
  intro k hk hread
  suffices hkd : k ≤ done.length by
    rw [hdel, List.take_append_of_le_length hkd, List.map_take]
    exact List.take_prefix _ _
  cases hsync with
  | idle _ _ => simpa using hk
  | @within p rest left _ hpos hu =>
    -- some byte of the first packet not delivered is still to be read
    by_contra hlt
    obtain ⟨j, rfl⟩ := Nat.exists_eq_add_of_lt (Nat.lt_of_not_le hlt)
    have hdrop : (done ++ p :: rest).drop (done.length + j + 1) = rest.drop j := by
      rw [Nat.add_assoc, List.drop_length_add_append, List.drop_succ_cons]
    have hle : (encodeAll (rest.drop j)).length ≤ (encodeAll rest).length := by
      conv => rhs; rw [← List.take_append_drop j rest, encodeAll_append, List.length_append]
      exact Nat.le_add_left _ _
    have hleft := List.length_pos_iff.mpr (hpos.left_ne_nil (hne p (by simp)))
    rw [hdrop, hu, List.length_append] at hread
    omega

theorem exists_first_empty {pkts : List HciPacket} (h : ¬ ∀ p ∈ pkts, p.payload ≠ []) :
    ∃ done z rest, pkts = done ++ z :: rest ∧ z.payload = [] ∧ ∀ p ∈ done, p.payload ≠ [] := by
  have hex : ∃ p ∈ pkts, decide (p.payload = []) = true := by simpa using h
  obtain ⟨z, hz⟩ := Option.isSome_iff_exists.mp (List.find?_isSome.mpr hex)
  obtain ⟨hzero, done, rest, rfl, hdone⟩ := List.find?_eq_some_iff_append.mp hz
  exact ⟨done, z, rest, rfl, by simpa using hzero, fun p hp => by simpa using hdone p hp⟩

/-- The first packet without payload is read and not delivered. -/
theorem run_to_empty (m : Mem UInt8) {done : List HciPacket} {z : HciPacket} (hz : z.payload = [])
    (hdone : ∀ p ∈ done, p.payload ≠ []) (rest : List HciPacket) (ρ : Nat → Nat) :
    ∃ n t, (receiving m (done ++ z :: rest)).run ρ n = some t ∧ Position z t.h4 [] ∧
      t.unread = encodeAll rest ∧ t.delivered = done.map HciPacket.delivery := by
  obtain ⟨n, t, hrun, hi, hu, hdel⟩ :=
    run_packets (s := receiving m (done ++ z :: rest)) hdone (.new m) rfl ρ
  obtain ⟨n', u, hrun', hun, ⟨hpay, -⟩ | ⟨-, hpos, hdel'⟩⟩ :=
    run_packet (.typeByte hi) hu fun i => ρ (n + i)
  · exact absurd hz hpay
  · exact ⟨n + n', u, Receiver.run_add ρ _ n hrun hrun', hpos, hun, hdel'.trans hdel⟩

/-- **When the receiver aborts**: iff a packet without payload is followed by another. -/
theorem receiver_aborts_iff (m : Mem UInt8) (pkts : List HciPacket) (ρ : Nat → Nat) :
    (∃ n, (receiving m pkts).run ρ n = none) ↔ ∃ p ∈ pkts.dropLast, p.payload = [] := by
  constructor
  · rintro ⟨n, hnone⟩
    by_contra hne
    have hpay : ∀ p ∈ pkts.dropLast, p.payload ≠ [] := fun p hp h => hne ⟨p, hp, h⟩
    obtain ⟨t, -, -, hrun, -⟩ := run_receiving m hpay ρ n
    rw [hrun] at hnone
    cases hnone
  · intro h
    have hempty : ¬ ∀ p ∈ pkts.dropLast, p.payload ≠ [] := by simpa using h
    obtain ⟨done, z, rest, hsplit, hz, hdone⟩ := exists_first_empty hempty
    have hlast : pkts ≠ [] := by
      rintro rfl
      simp at h
    have hpkts : pkts = done ++ z :: (rest ++ [pkts.getLast hlast]) := by
      rw [← List.cons_append, ← List.append_assoc, ← hsplit, List.dropLast_concat_getLast]
    obtain ⟨n, t, hrun, hpos, hun, -⟩ :=
      run_to_empty m hz hdone (rest ++ [pkts.getLast hlast]) ρ
    rw [← hpkts] at hrun
    have hne : t.unread ≠ [] := by
      rw [hun, encodeAll_append]
      simp [HciPacket.encode_ne_nil]
    refine ⟨n + 1, ?_⟩
    rw [Receiver.run, hrun, Option.bind_some, Receiver.step, if_neg hne, hpos.abort rfl,
      Option.map_none]

/-- **When the receiver keeps up**: iff no packet of the stream is without payload. -/
theorem h4_keepsUp_iff (m : Mem UInt8) (pkts : List HciPacket) (ρ : Nat → Nat) :
    KeepsUp m pkts ρ ↔ ∀ p ∈ pkts, p.payload ≠ [] := by
  constructor
  · intro hk
    by_contra hne
    obtain ⟨done, z, rest, rfl, hz, hdone⟩ := exists_first_empty hne
    obtain ⟨n, t, hrun, -, hun, hdel⟩ := run_to_empty m hz hdone rest ρ
    obtain ⟨u, hu, hkeep⟩ := hk n
    obtain rfl : t = u := Option.some.inj (hrun.symm.trans hu)
    have hprefix := hkeep (done.length + 1) (by simp) (by rw [hun]; simp)
    rw [hdel] at hprefix
    have hlen := hprefix.length_le
    simp only [List.length_map, List.length_take, List.length_append, List.length_cons] at hlen
    omega
  · intro hne
    exact keepsUp_of_payload m hne ρ

/-! ## An event without parameters, and a stream with payloads -/

/-- A vendor event whose length field is 0. -/
def emptyEvent : HciPacket := ⟨.event, [0xFF, 0], [], by simp, rfl, rfl⟩

/-- When the second of two such events arrives, the receiver still asks for the 0 bytes that are
left of the first, and aborts. -/
theorem not_keepsUp_emptyEvent :
    ¬ KeepsUp (fun _ => 0) [emptyEvent, emptyEvent] (fun _ => 255) ∧
      ((receiving (fun _ => 0) [emptyEvent, emptyEvent]).run (fun _ => 255) 3).isNone = true := by
  have habort : ((receiving (fun _ => 0) [emptyEvent, emptyEvent]).run (fun _ => 255) 3).isNone =
      true := by decide
  refine ⟨?_, habort⟩
  intro hk
  obtain ⟨t, ht, -⟩ := hk 3
  rw [ht] at habort
  cases habort

def inquiryComplete : HciPacket := ⟨.event, [0x01, 1], [0], by simp, rfl, rfl⟩

def aclPacket : HciPacket := ⟨.aclData, [0x02, 0x20, 3, 0], [7, 8, 9], by simp, rfl, rfl⟩

/-- Two packets read a byte at a time. -/
theorem h4_round_trip_bytewise :
    ∃ n t, (receiving (fun _ => 0) [aclPacket, inquiryComplete]).run (fun _ => 1) n = some t ∧
      t.unread = [] ∧ t.delivered =
        [(.aclData, [0x02, 0x20, 3, 0, 7, 8, 9]), (.event, [0x01, 1, 0])] := by
  have hne : ∀ p ∈ [aclPacket, inquiryComplete], p.payload ≠ [] := by
    simp [aclPacket, inquiryComplete]
  obtain ⟨n, t, hrun, -, hu, hd⟩ := (h4_round_trip (fun _ => 0) hne fun _ => 1).2 2
  exact ⟨n, t, hrun, hu, hd⟩

end Sloane.Hci
