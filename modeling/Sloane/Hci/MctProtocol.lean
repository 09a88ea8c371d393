import Sloane.Hci.RoundTrip

/-!
# The MCT protocol

Model of `bluetooth/interface/mct_protocol.cc`: events and ACL data come on file descriptors of
their own, each with a packetizer, and the watcher calls `OnEventDataReady` and `OnAclDataReady`
in any order.

* `Side.run_sync` — one channel by itself: the packets are delivered in order, whatever the reads.
* `MctReceiver.run_side` — a run of both channels is, on each of them, the run of its own calls.
* `mct_interleaving` — so each callback receives the packets of its channel, as if the other
  channel was not there.
-/

namespace Sloane.Hci

open Sloane.Lib

structure MctProtocol where
  eventPacketizer : HciPacketizer
  aclPacketizer : HciPacketizer

namespace MctProtocol

/-- A new protocol; the `preamble_` of either packetizer is not initialised. -/
def new (eventPreamble aclPreamble : Mem UInt8) : MctProtocol :=
  ⟨.new eventPreamble, .new aclPreamble⟩

/-- The call of `event_cb_`. -/
def onEventPacketReady (m : MctProtocol) : Delivery := (.event, m.eventPacketizer.packet.toList)

/-- The call of `acl_cb_`. -/
def onAclDataPacketReady (m : MctProtocol) : Delivery := (.aclData, m.aclPacketizer.packet.toList)

def onEventDataReady (m : MctProtocol) (r : Nat) (unread : List UInt8) :
    Option (MctProtocol × List UInt8 × List Delivery) :=
  (m.eventPacketizer.onDataReady .event r unread).map fun (p, unread, ready) =>
    let m := { m with eventPacketizer := p }
    (m, unread, if ready then [m.onEventPacketReady] else [])

def onAclDataReady (m : MctProtocol) (r : Nat) (unread : List UInt8) :
    Option (MctProtocol × List UInt8 × List Delivery) :=
  (m.aclPacketizer.onDataReady .aclData r unread).map fun (p, unread, ready) =>
    let m := { m with aclPacketizer := p }
    (m, unread, if ready then [m.onAclDataPacketReady] else [])

end MctProtocol

/-- The two channels that are read. -/
inductive Channel where
  | event
  | acl
  deriving DecidableEq, Repr

/-- The packets one of the callbacks received. -/
def received (type : HciPacketType) (ds : List Delivery) : List (List UInt8) :=
  (ds.filter fun d => d.1 = type).map Prod.snd

/-- The protocol, what is still to be read on either channel, and the callbacks made so far. -/
structure MctReceiver where
  mct : MctProtocol
  unreadEvent : List UInt8
  unreadAcl : List UInt8
  delivered : List Delivery

namespace MctReceiver

/-- One call, with the schedule's choice of how much is read; a channel is called when there is
something to read on it. -/
def step (s : MctReceiver) : Channel × Nat → Option MctReceiver
  | (.event, r) =>
      if s.unreadEvent = [] then some s
      else (s.mct.onEventDataReady r s.unreadEvent).map fun (m, unread, ds) =>
        { s with mct := m, unreadEvent := unread, delivered := s.delivered ++ ds }
  | (.acl, r) =>
      if s.unreadAcl = [] then some s
      else (s.mct.onAclDataReady r s.unreadAcl).map fun (m, unread, ds) =>
        { s with mct := m, unreadAcl := unread, delivered := s.delivered ++ ds }

def run (s : MctReceiver) : List (Channel × Nat) → Option MctReceiver
  | [] => some s
  | c :: calls => (s.step c).bind fun t => t.run calls

end MctReceiver

/-! ## One channel by itself -/

def Channel.type : Channel → HciPacketType
  | .event => .event
  | .acl => .aclData

/-- What one channel has: its packetizer, what is still to be read, what its callback received. -/
structure Side where
  packetizer : HciPacketizer
  unread : List UInt8
  received : List (List UInt8)

namespace Side

def step (type : HciPacketType) (c : Side) (r : Nat) : Option Side :=
  if c.unread = [] then some c
  else (c.packetizer.onDataReady type r c.unread).map fun (p, unread, ready) =>
    ⟨p, unread, c.received ++ if ready then [p.packet.toList] else []⟩

def run (type : HciPacketType) (c : Side) : List Nat → Option Side
  | [] => some c
  | r :: rs => (c.step type r).bind fun d => d.run type rs

end Side

theorem Side.step_of_nil {c : Side} (h : c.unread = []) (type : HciPacketType) (r : Nat) :
    c.step type r = some c := if_pos h

theorem Side.step_of_ne_nil {c : Side} (h : c.unread ≠ []) (type : HciPacketType) (r : Nat) :
    c.step type r = (c.packetizer.onDataReady type r c.unread).map fun (p, unread, ready) =>
      ⟨p, unread, c.received ++ if ready then [p.packet.toList] else []⟩ := if_neg h

/-- The packets as they are on their channel, without type bytes. -/
def stream (pkts : List HciPacket) : List UInt8 := (pkts.map HciPacket.bytes).flatten

@[simp] theorem stream_nil : stream [] = [] := rfl

@[simp] theorem stream_cons (p : HciPacket) (pkts : List HciPacket) :
    stream (p :: pkts) = p.bytes ++ stream pkts := rfl

/-- **One call within a packet**, for the packetizer alone: it is as the H4 receiver is once that
has read the type byte. -/
theorem HciPacketizer.onDataReady_within {p : HciPacket} {q : HciPacketizer} {left : List UInt8}
    (hp : Position p ⟨p.type, q⟩ left) (hne : left ≠ []) (r : Nat) (rest : List UInt8) :
    ∃ q' unread ready, q.onDataReady p.type r (left ++ rest) = some (q', unread, ready) ∧
      ((ready = false ∧ ∃ left', Position p ⟨p.type, q'⟩ left' ∧ unread = left' ++ rest ∧
          left'.length < left.length) ∨
        (ready = true ∧ q'.state = .preamble ∧ q'.bytesRead = 0 ∧ unread = rest ∧
          q'.packet.toList = p.bytes)) := by
  have hadv := hp.step hne r rest
  simp only [H4Protocol.onDataReady, p.type_ne_unknown, if_false] at hadv
  generalize hq : q.onDataReady p.type r (left ++ rest) = o at hadv
  rcases o with _ | ⟨q', unread, _ | _⟩
  · cases hadv
  · refine ⟨q', unread, false, rfl, .inl ⟨rfl, ?_⟩⟩
    simp only at hadv
    generalize ho : some (_, _, _) = o' at hadv
    cases hadv with
    | @on h left' hpos hlt =>
      obtain ⟨rfl, rfl⟩ : (⟨p.type, q'⟩ : H4Protocol) = h ∧ unread = left' ++ rest := by
        simpa using ho
      exact ⟨left', hpos, rfl, hlt⟩
    | done _ _ => simp at ho
  · refine ⟨q', unread, true, rfl, .inr ⟨rfl, ?_⟩⟩
    simp only [H4Protocol.onPacketReady_of_received (h := ⟨p.type, q'⟩) p.received,
      Option.map_some] at hadv
    generalize ho : some (_, _, _) = o' at hadv
    cases hadv with
    | on _ _ => simp at ho
    | @done h _ hi =>
      obtain ⟨rfl, rfl, hbytes⟩ : (⟨.unknown, q'⟩ : H4Protocol) = h ∧ unread = rest ∧
          q'.packet.toList = p.bytes := by
        simpa [HciPacket.delivery] using ho
      exact ⟨hi.state, hi.bytesRead, rfl, hbytes⟩

/-- The packets of one channel, all with a payload. -/
def OnChannel (ch : Channel) (pkts : List HciPacket) : Prop :=
  ∀ p ∈ pkts, p.type = ch.type ∧ p.payload ≠ []

/-- The channel is in front of the packets `todo`, or within the first of them. -/
inductive Side.Sync : List HciPacket → Side → Prop
  | idle {c} : c.unread = [] → Sync [] c
  | within {p rest left c} : Position p ⟨p.type, c.packetizer⟩ left →
      c.unread = left ++ stream rest → Sync (p :: rest) c

namespace Side

variable {ch : Channel} {pkts : List HciPacket} {c : Side}

/-- Between two packets. -/
theorem Sync.boundary (hu : c.unread = stream pkts) (hs : c.packetizer.state = .preamble)
    (hb : c.packetizer.bytesRead = 0) : Sync pkts c := by
  cases pkts with
  | nil => exact .idle hu
  | cons p rest => exact .within (.preamble 0 rfl hs hb p.preamble_pos rfl) hu

/-- Once everything is read no packet is left. -/
theorem Sync.eq_nil (hs : Sync pkts c) (hall : OnChannel ch pkts) (hu : c.unread = []) :
    pkts = [] := by
  cases hs with
  | idle _ => rfl
  | @within p rest left _ hpos hun =>
    rw [hu] at hun
    obtain ⟨hleft, -⟩ := List.append_eq_nil_iff.mp hun.symm
    exact absurd hleft (hpos.left_ne_nil (hall p List.mem_cons_self).2)

/-- **One call on a channel** reads on, and hands out at most the packet it is in. -/
theorem Sync.step (hs : Sync pkts c) (hall : OnChannel ch pkts) (r : Nat) :
    ∃ c' done todo, c.step ch.type r = some c' ∧ pkts = done ++ todo ∧ Sync todo c' ∧
      c'.received = c.received ++ done.map HciPacket.bytes ∧
      c'.unread.length ≤ c.unread.length - 1 := by
  unfold Side.step
  by_cases hun : c.unread = []
  · rw [if_pos hun]
    exact ⟨c, [], pkts, rfl, rfl, hs, by simp, by simp [hun]⟩
  · rw [if_neg hun]
    cases hs with
    | idle hnil => exact absurd hnil hun
    | @within p rest left _ hpos hu =>
      obtain ⟨htype, hpay⟩ := hall p List.mem_cons_self
      obtain ⟨q, unread, ready, hcall, hcase⟩ :=
        HciPacketizer.onDataReady_within hpos (hpos.left_ne_nil hpay) r (stream rest)
      rw [hu, ← htype, hcall]
      have hleft := List.length_pos_iff.mpr (hpos.left_ne_nil hpay)
      rcases hcase with ⟨rfl, left', hpos', rfl, hlt⟩ | ⟨rfl, hs', hb', rfl, hbytes⟩
      · refine ⟨_, [], p :: rest, rfl, rfl, .within hpos' rfl, by simp, ?_⟩
        simp only [List.length_append]
        omega
      · refine ⟨_, [p], rest, rfl, rfl, .boundary rfl hs' hb', by simp [hbytes], ?_⟩
        simp only [List.length_append]
        omega

/-- **Any calls on a channel.** -/
theorem run_sync (hs : Sync pkts c) (hall : OnChannel ch pkts) (rs : List Nat) :
    ∃ c' done todo, c.run ch.type rs = some c' ∧ pkts = done ++ todo ∧ Sync todo c' ∧
      c'.received = c.received ++ done.map HciPacket.bytes ∧
      c'.unread.length ≤ c.unread.length - rs.length := by
  induction rs generalizing c pkts with
  | nil => exact ⟨c, [], pkts, rfl, rfl, hs, by simp, by simp⟩
  | cons r rs ih =>
    obtain ⟨d, done, todo, hstep, rfl, hsync, hrec, hlen⟩ := hs.step hall r
    have htodo : OnChannel ch todo := fun p hp => hall p (List.mem_append_right _ hp)
    obtain ⟨c', done', todo', hrun, rfl, hsync', hrec', hlen'⟩ := ih hsync htodo
    refine ⟨c', done ++ done', todo', ?_, by simp, hsync', ?_, ?_⟩
    · rw [Side.run, hstep, Option.bind_some, hrun]
    · rw [hrec', hrec, List.map_append, List.append_assoc]
    · simp only [List.length_cons]
      omega

end Side

/-! ## Both channels -/

/-- The calls on a channel, in their order. -/
def callsOf (ch : Channel) (calls : List (Channel × Nat)) : List Nat :=
  (calls.filter fun c => c.1 = ch).map Prod.snd

namespace MctReceiver

variable {s : MctReceiver}

def side (s : MctReceiver) : Channel → Side
  | .event => ⟨s.mct.eventPacketizer, s.unreadEvent, received .event s.delivered⟩
  | .acl => ⟨s.mct.aclPacketizer, s.unreadAcl, received .aclData s.delivered⟩

/-- A call on one channel is a step of that channel and leaves the other as it was. -/
theorem step_side {ch : Channel} {r : Nat} {c : Side} (h : (s.side ch).step ch.type r = some c) :
    ∃ t, s.step (ch, r) = some t ∧ t.side ch = c ∧ ∀ ch', ch' ≠ ch → t.side ch' = s.side ch' := by
  cases ch with
  | event =>
    by_cases hun : s.unreadEvent = []
    · rw [Side.step_of_nil (c := s.side .event) hun] at h
      exact ⟨s, if_pos hun, Option.some.inj h, fun _ _ => rfl⟩
    · rw [Side.step_of_ne_nil (c := s.side .event) hun] at h
      obtain ⟨⟨p, unread, ready⟩, hcall, rfl⟩ := Option.map_eq_some_iff.mp h
      have hready : s.mct.onEventDataReady r s.unreadEvent = some (_, unread, _) :=
        Option.map_eq_some_iff.mpr ⟨_, hcall, rfl⟩
      refine ⟨_, (if_neg hun).trans (congrArg _ hready), ?_, ?_⟩
      · cases ready <;> simp [side, received, MctProtocol.onEventPacketReady]
      · intro ch' hne
        cases ch' with
        | event => exact absurd rfl hne
        | acl => cases ready <;> simp [side, received, MctProtocol.onEventPacketReady]
  | acl =>
    by_cases hun : s.unreadAcl = []
    · rw [Side.step_of_nil (c := s.side .acl) hun] at h
      exact ⟨s, if_pos hun, Option.some.inj h, fun _ _ => rfl⟩
    · rw [Side.step_of_ne_nil (c := s.side .acl) hun] at h
      obtain ⟨⟨p, unread, ready⟩, hcall, rfl⟩ := Option.map_eq_some_iff.mp h
      have hready : s.mct.onAclDataReady r s.unreadAcl = some (_, unread, _) :=
        Option.map_eq_some_iff.mpr ⟨_, hcall, rfl⟩
      refine ⟨_, (if_neg hun).trans (congrArg _ hready), ?_, ?_⟩
      · cases ready <;> simp [side, received, MctProtocol.onAclDataPacketReady]
      · intro ch' hne
        cases ch' with
        | event => cases ready <;> simp [side, received, MctProtocol.onAclDataPacketReady]
        | acl => exact absurd rfl hne

/-- **A run of both channels is on each the run of its own calls.** -/
theorem run_side {calls : List (Channel × Nat)} {c : Channel → Side}
    (h : ∀ ch, (s.side ch).run ch.type (callsOf ch calls) = some (c ch)) :
    ∃ t, s.run calls = some t ∧ ∀ ch, t.side ch = c ch := by
  induction calls generalizing s with
  | nil => exact ⟨s, rfl, fun ch => Option.some.inj (h ch)⟩
  | cons call calls ih =>
    obtain ⟨ch, r⟩ := call
    have hch := h ch
    rw [callsOf, List.filter_cons_of_pos (by simp), List.map_cons, Side.run] at hch
    obtain ⟨d, hstep, hrest⟩ := Option.bind_eq_some_iff.mp hch
    obtain ⟨t, hst, hside, hother⟩ := step_side hstep
    have hnext : ∀ ch', (t.side ch').run ch'.type (callsOf ch' calls) = some (c ch') := by
      intro ch'
      by_cases hne : ch' = ch
      · subst hne
        rw [hside]
        exact hrest
      · have hch' := h ch'
        rw [callsOf, List.filter_cons_of_neg (by simpa using Ne.symm hne)] at hch'
        rw [hother ch' hne]
        exact hch'
    obtain ⟨u, hrun, hu⟩ := ih hnext
    exact ⟨u, by rw [run, hst, Option.bind_some, hrun], hu⟩

/-- A new protocol in front of the packets of both channels. -/
def start (eventPreamble aclPreamble : Mem UInt8) (events acls : List HciPacket) : MctReceiver :=
  ⟨.new eventPreamble aclPreamble, stream events, stream acls, []⟩

end MctReceiver

/-- A callback received the first packets, and all of them once everything is read. -/
def Delivered (pkts : List HciPacket) (unread : List UInt8) (got : List (List UInt8)) : Prop :=
  got <+: pkts.map HciPacket.bytes ∧ (unread = [] → got = pkts.map HciPacket.bytes)

/-- A channel of a new protocol with any calls: what becomes of it, and that every call reads. -/
theorem Side.run_start {ch : Channel} {pkts : List HciPacket} (hall : OnChannel ch pkts)
    {c : Side} (hs : c.packetizer.state = .preamble) (hb : c.packetizer.bytesRead = 0)
    (hu : c.unread = stream pkts) (hr : c.received = []) (rs : List Nat) :
    ∃ c', c.run ch.type rs = some c' ∧ Delivered pkts c'.unread c'.received ∧
      c'.unread.length ≤ (stream pkts).length - rs.length := by
  obtain ⟨c', done, todo, hrun, rfl, hsync, hrec, hlen⟩ :=
    run_sync (.boundary hu hs hb) hall rs
  rw [hr, List.nil_append] at hrec
  refine ⟨c', hrun, ⟨?_, ?_⟩, hu ▸ hlen⟩
  · rw [hrec, List.map_append]
    exact List.prefix_append _ _
  · intro hun
    have htodo : OnChannel ch todo := fun p hp => hall p (List.mem_append_right _ hp)
    rw [hsync.eq_nil htodo hun, List.append_nil, hrec]

/-- A channel with nothing to read stays as it is. -/
theorem Side.run_of_nil {c : Side} (hu : c.unread = []) (type : HciPacketType) (rs : List Nat) :
    c.run type rs = some c := by
  induction rs with
  | nil => rfl
  | cons r rs ih => rw [Side.run, step_of_nil hu, Option.bind_some, ih]

theorem callsOf_filter (ch : Channel) (calls : List (Channel × Nat)) :
    callsOf ch (calls.filter fun c => c.1 = ch) = callsOf ch calls := by
  simp [callsOf]

/-- **The channels do not interfere.**  Whatever the order of the calls and the sizes of the reads,
no call aborts, every call reads on its channel, each callback receives the packets of its channel
in order, and what it receives is what it would with the calls of its channel alone and nothing on
the other. -/
theorem mct_interleaving (eventPreamble aclPreamble : Mem UInt8) {events acls : List HciPacket}
    (he : OnChannel .event events) (ha : OnChannel .acl acls) (calls : List (Channel × Nat)) :
    ∃ t, (MctReceiver.start eventPreamble aclPreamble events acls).run calls = some t ∧
      Delivered events t.unreadEvent (received .event t.delivered) ∧
      Delivered acls t.unreadAcl (received .aclData t.delivered) ∧
      t.unreadEvent.length ≤ (stream events).length - (callsOf .event calls).length ∧
      t.unreadAcl.length ≤ (stream acls).length - (callsOf .acl calls).length ∧
      (∃ e, (MctReceiver.start eventPreamble aclPreamble events []).run
          (calls.filter fun c => c.1 = .event) = some e ∧
        received .event e.delivered = received .event t.delivered) ∧
      ∃ a, (MctReceiver.start eventPreamble aclPreamble [] acls).run
          (calls.filter fun c => c.1 = .acl) = some a ∧
        received .aclData a.delivered = received .aclData t.delivered := by
  obtain ⟨ce, hce, hde, hle⟩ := Side.run_start he
    (c := (MctReceiver.start eventPreamble aclPreamble events acls).side .event) rfl rfl rfl rfl
    (callsOf .event calls)
  obtain ⟨ca, hca, hda, hla⟩ := Side.run_start ha
    (c := (MctReceiver.start eventPreamble aclPreamble events acls).side .acl) rfl rfl rfl rfl
    (callsOf .acl calls)
  have hrun : ∀ ch, ((MctReceiver.start eventPreamble aclPreamble events acls).side ch).run
      ch.type (callsOf ch calls) = some (match ch with | .event => ce | .acl => ca) := by
    intro ch
    cases ch with
    | event => exact hce
    | acl => exact hca
  obtain ⟨t, ht, hside⟩ := MctReceiver.run_side hrun
  obtain rfl : t.side .event = ce := hside .event
  obtain rfl : t.side .acl = ca := hside .acl
  refine ⟨t, ht, hde, hda, hle, hla, ?_, ?_⟩
  · -- the events alone: the other channel has nothing to read
    have halone : ∀ ch, ((MctReceiver.start eventPreamble aclPreamble events []).side ch).run
        ch.type (callsOf ch (calls.filter fun c => c.1 = .event)) =
        some (match ch with
          | .event => t.side .event
          | .acl => (MctReceiver.start eventPreamble aclPreamble events []).side .acl) := by
      intro ch
      cases ch with
      | event =>
        rw [callsOf_filter]
        exact hce
      | acl => exact Side.run_of_nil rfl _ _
    obtain ⟨e, hrune, hsidee⟩ := MctReceiver.run_side halone
    exact ⟨e, hrune, congrArg Side.received (hsidee .event)⟩
  · have halone : ∀ ch, ((MctReceiver.start eventPreamble aclPreamble [] acls).side ch).run
        ch.type (callsOf ch (calls.filter fun c => c.1 = .acl)) =
        some (match ch with
          | .event => (MctReceiver.start eventPreamble aclPreamble [] acls).side .event
          | .acl => t.side .acl) := by
      intro ch
      cases ch with
      | event => exact Side.run_of_nil rfl _ _
      | acl =>
        rw [callsOf_filter]
        exact hca
    obtain ⟨a, hruna, hsidea⟩ := MctReceiver.run_side halone
    exact ⟨a, hruna, congrArg Side.received (hsidea .acl)⟩

/-- Calls that take the bytes of an ACL packet and of an event in turns. -/
def turns : List (Channel × Nat) :=
  [(.acl, 3), (.event, 1), (.acl, 1), (.event, 1), (.acl, 2), (.event, 9), (.acl, 9)]

theorem mct_interleaving_turns : ∃ t,
    (MctReceiver.start (fun _ => 0) (fun _ => 0) [inquiryComplete] [aclPacket]).run turns = some t ∧
    received .event t.delivered = [[0x01, 1, 0]] ∧
    received .aclData t.delivered = [[0x02, 0x20, 3, 0, 7, 8, 9]] := by
  have he : OnChannel .event [inquiryComplete] := by
    simp [OnChannel, inquiryComplete, Channel.type]
  have ha : OnChannel .acl [aclPacket] := by
    simp [OnChannel, aclPacket, Channel.type]
  obtain ⟨t, ht, ⟨-, hde⟩, ⟨-, hda⟩, -⟩ :=
    mct_interleaving (fun _ => 0) (fun _ => 0) he ha turns
  have hread : (MctReceiver.run (.start (fun _ => 0) (fun _ => 0) [inquiryComplete] [aclPacket])
      turns).map (fun t => (t.unreadEvent, t.unreadAcl)) = some ([], []) := by decide
  rw [ht] at hread
  obtain ⟨hevent, hacl⟩ := Prod.mk.inj (Option.some.inj hread)
  exact ⟨t, ht, hde hevent, hda hacl⟩

end Sloane.Hci
