import Sloane.BtVendor.FwEarned
import Sloane.Hci.RoundTrip

/-!
# Start-up over the wire

One `BT_VND_OP_FW_CFG` call with the events of the controller as they come: as bytes on the fd,
read by `H4Protocol::OnDataReady` in pieces of any size.  The controller may write a packet at any
time.  The watcher thread reads when it is in no callback; a packet that is complete is handed to
`HandleIncomingEvent`, or to `acl_cb` or `sco_cb`, and is at hand until the callback begins.

* `WireStartup.step` — one step of the controller, of the watcher thread, or of the other threads
  of `FwState.step`.
* `wire_run` — seen without the bytes a run is one of `fwInit`.
* `WireStartup.Follows.step` — what has been handed out are the first packets of the controller.
* `startup_over_wire`, `startup_earned_over_wire` — over the bytes no packet is lost, doubled or
  overtaken, and success rests on the packets that the controller wrote.
-/

namespace Sloane.BtVendor

open Sloane.Lib Sloane.Hci System

/-! ## The system -/

/-- A packet of the controller; a Command Complete event reaches up to its status. -/
structure ControllerPacket extends HciPacket where
  complete : type = .event → toHciPacket.bytes.head? = some HCI_COMMAND_COMPLETE_EVENT →
    6 ≤ toHciPacket.bytes.length

/-- A packet as `HandleIncomingEvent` may look at it. -/
def HciEvent.ofBytes (packet : List UInt8) : Option HciEvent :=
  if h : packet ≠ [] ∧ (packet.head? = some HCI_COMMAND_COMPLETE_EVENT → 6 ≤ packet.length) then
    some ⟨packet, h.1, h.2⟩
  else none

/-- The event of a packet, if it is one. -/
def eventIn (d : Delivery) : Option HciEvent :=
  if d.1 = .event then HciEvent.ofBytes d.2 else none

structure WireStartup where
  fw : FwState
  h4 : H4Protocol
  /-- the bytes on the fd -/
  unread : List UInt8
  /-- the packet that is ready, before its callback begins -/
  handed : Option Delivery
  /-- the calls of `acl_cb` and `sco_cb` -/
  data : List Delivery

inductive WireAct where
  /-- a step of `FwState.step` other than `incoming` -/
  | fw (a : FwAct)
  /-- the controller writes a packet -/
  | emit (p : ControllerPacket)
  /-- the watcher thread calls `OnDataReady`, which reads at most so many bytes -/
  | read (r : Nat)
  /-- the callback for the packet that is ready -/
  | handle

def WireStartup.step (env : FwCfgEnv) (s : WireStartup) : WireAct → Option WireStartup
  | .fw a =>
      if a.incoming? = none then (s.fw.step env a).map fun fw => { s with fw := fw } else none
  | .emit p => some { s with unread := s.unread ++ p.encode }
  | .read r =>
      if s.handed = none ∧ s.fw.dispatch = .idle ∧ s.unread ≠ [] then
        (s.h4.onDataReady r s.unread).map fun (h4, unread, ds) =>
          { s with h4 := h4, unread := unread, handed := ds.head? }
      else none
  | .handle =>
      match s.handed with
      | none => none
      | some d =>
          if d.1 = .event then
            (eventIn d).bind fun ev =>
              (s.fw.step env (.incoming ev)).map fun fw => { s with fw := fw, handed := none }
          else some { s with handed := none, data := s.data ++ [d] }

/-- `Open` with a new `H4Protocol` on an fd without bytes. -/
def WireStartup.open (env : FwCfgEnv) (left : Leftover) (preamble : Mem UInt8) : WireStartup :=
  ⟨.open env left, .new preamble, [], none, []⟩

def startupInit (env : FwCfgEnv) (left : Leftover) (preamble : Mem UInt8) :
    System WireStartup WireAct :=
  .ofStep (.open env left preamble) (WireStartup.step env)

/-- All that a step can do. -/
inductive WireCase (env : FwCfgEnv) (s : WireStartup) : WireAct → WireStartup → Prop
  | fw {a fw} : a.incoming? = none → s.fw.step env a = some fw →
      WireCase env s (.fw a) { s with fw := fw }
  | emit {p : ControllerPacket} :
      WireCase env s (.emit p) { s with unread := s.unread ++ p.encode }
  | read {r h4 unread ds} : s.handed = none → s.fw.dispatch = .idle → s.unread ≠ [] →
      s.h4.onDataReady r s.unread = some (h4, unread, ds) →
      WireCase env s (.read r) { s with h4 := h4, unread := unread, handed := ds.head? }
  | event {d ev fw} : s.handed = some d → eventIn d = some ev →
      s.fw.step env (.incoming ev) = some fw →
      WireCase env s .handle { s with fw := fw, handed := none }
  | data {d} : s.handed = some d → d.1 ≠ .event →
      WireCase env s .handle { s with handed := none, data := s.data ++ [d] }

theorem WireStartup.step_case {env : FwCfgEnv} {s t : WireStartup} {a : WireAct}
    (h : s.step env a = some t) : WireCase env s a t := by
  cases a with
  | fw a =>
    simp only [WireStartup.step, Option.ite_none_right_eq_some, Option.map_eq_some_iff] at h
    obtain ⟨hin, fw, hfw, rfl⟩ := h
    exact .fw hin hfw
  | emit p =>
    cases h
    exact .emit
  | read r =>
    simp only [WireStartup.step, Option.ite_none_right_eq_some, Option.map_eq_some_iff] at h
    obtain ⟨⟨hhanded, hidle, hunread⟩, ⟨h4, unread, ds⟩, hread, rfl⟩ := h
    exact .read hhanded hidle hunread hread
  | handle =>
    simp only [WireStartup.step] at h
    split at h
    · cases h
    · rename_i d hd
      split at h
      · obtain ⟨ev, hev, h⟩ := Option.bind_eq_some_iff.mp h
        obtain ⟨fw, hfw, rfl⟩ := Option.map_eq_some_iff.mp h
        exact .event hd hev hfw
      · rename_i htype
        cases h
        exact .data hd htype

/-! ## Without the bytes -/

/-- What a step is for `FwState.step`. -/
def fwAct (x : Transition WireStartup WireAct) : Option FwAct :=
  match x.act with
  | .fw a => some a
  | .emit _ | .read _ => none
  | .handle => (x.pre.handed.bind eventIn).map .incoming

/-- A run without the bytes. -/
def fwRun (tr : List (Transition WireStartup WireAct)) : List (Transition FwState FwAct) :=
  tr.filterMap (Transition.seenAs WireStartup.fw fwAct)

theorem WireCase.seen {env : FwCfgEnv} {s t : WireStartup} {a : WireAct} (h : WireCase env s a t) :
    (∃ b, fwAct ⟨s, a, t⟩ = some b ∧ s.fw.step env b = some t.fw) ∨
      (fwAct ⟨s, a, t⟩ = none ∧ t.fw = s.fw) := by
  cases h with
  | fw _ hfw => exact .inl ⟨_, rfl, hfw⟩
  | emit => exact .inr ⟨rfl, rfl⟩
  | read => exact .inr ⟨rfl, rfl⟩
  | event hd hev hfw => exact .inl ⟨_, by simp [fwAct, hd, hev], hfw⟩
  | data hd htype => exact .inr ⟨by simp [fwAct, hd, eventIn, htype], rfl⟩

/-- **Refinement.** -/
theorem wire_run {env : FwCfgEnv} {left : Leftover} {preamble : Mem UInt8}
    {tr : List (Transition WireStartup WireAct)} {s : WireStartup}
    (h : (startupInit env left preamble).Run tr s) : (fwInit env left).Run (fwRun tr) s.fw := by
  apply h.simulates (N := fwInit env left)
  · rintro _ rfl
    rfl
  · intro x hx
    exact (WireStartup.step_case hx).seen

/-! ## What the controller has written -/

theorem HciEvent.packet_ofBytes {packet : List UInt8} {ev : HciEvent}
    (h : HciEvent.ofBytes packet = some ev) : ev.packet = packet := by
  unfold HciEvent.ofBytes at h
  split at h <;> cases h
  rfl

theorem eventIn_spec {d : Delivery} {ev : HciEvent} (h : eventIn d = some ev) :
    d = (.event, ev.packet) := by
  simp only [eventIn, Option.ite_none_right_eq_some] at h
  obtain ⟨htype, hev⟩ := h
  rw [HciEvent.packet_ofBytes hev, ← htype]

/-- Every event of the controller may be looked at. -/
theorem ControllerPacket.eventIn_isSome (p : ControllerPacket) (htype : p.type = .event) :
    (eventIn p.delivery).isSome = true := by
  have hne : p.bytes ≠ [] := by
    have hlen := p.preamble_length
    rw [htype] at hlen
    rw [HciPacket.bytes]
    apply List.append_ne_nil_of_left_ne_nil
    apply List.ne_nil_of_length_pos
    rw [hlen]
    decide
  have htype' : p.delivery.1 = .event := htype
  rw [eventIn, if_pos htype', HciEvent.ofBytes, dif_pos ⟨hne, p.complete htype⟩]
  rfl

def WireAct.emitted? : WireAct → Option ControllerPacket
  | .emit p => some p
  | _ => none

/-- The packets that the controller has written. -/
def emitted (tr : List (Transition WireStartup WireAct)) : List ControllerPacket :=
  tr.filterMap fun x => x.act.emitted?

def deliveries (pkts : List ControllerPacket) : List Delivery := pkts.map fun p => p.delivery

/-- The events among the packets. -/
def eventBytes (ds : List Delivery) : List (List UInt8) :=
  (ds.filter fun d => d.1 = .event).map Prod.snd

/-- The other packets. -/
def dataPackets (ds : List Delivery) : List Delivery := ds.filter fun d => d.1 ≠ .event

def incomings (tr : List (Transition FwState FwAct)) : List HciEvent :=
  tr.filterMap fun x => x.act.incoming?

/-- The packets `done` have been handed out, and the receiver is in front of the packets `todo` or
within the first of them. -/
structure WireStartup.Follows (tr : List (Transition WireStartup WireAct)) (s : WireStartup)
    (done todo : List ControllerPacket) : Prop where
  emitted : emitted tr = done ++ todo
  sync : Sync (todo.map ControllerPacket.toHciPacket) ⟨s.h4, s.unread, []⟩
  events : eventBytes (deliveries done) =
    (incomings (fwRun tr)).map HciEvent.packet ++ eventBytes s.handed.toList
  data : dataPackets (deliveries done) = s.data ++ dataPackets s.handed.toList
  atHand : ∀ d, s.handed = some d → s.fw.dispatch = .idle ∧ d ∈ deliveries done

theorem emitted_snoc (tr : List (Transition WireStartup WireAct)) (s : WireStartup) (a : WireAct)
    (t : WireStartup) : emitted (tr ++ [⟨s, a, t⟩]) = emitted tr ++ a.emitted?.toList := by
  cases a <;> simp [emitted, WireAct.emitted?]

theorem emitted_silent {tr : List (Transition WireStartup WireAct)} {s t : WireStartup}
    {a : WireAct} (ha : a.emitted? = none) : emitted (tr ++ [⟨s, a, t⟩]) = emitted tr := by
  rw [emitted_snoc, ha]
  exact List.append_nil _

theorem incomings_snoc (tr : List (Transition WireStartup WireAct))
    (x : Transition WireStartup WireAct) : incomings (fwRun (tr ++ [x])) =
      incomings (fwRun tr) ++ ((fwAct x).bind FwAct.incoming?).toList := by
  unfold incomings fwRun
  rw [List.filterMap_append, List.filterMap_append]
  congr 1
  cases h : fwAct x with
  | none => simp [Transition.seenAs, h]
  | some b => cases hb : b.incoming? <;> simp [Transition.seenAs, h, hb]

theorem incomings_silent {tr : List (Transition WireStartup WireAct)}
    {x : Transition WireStartup WireAct} (hx : (fwAct x).bind FwAct.incoming? = none) :
    incomings (fwRun (tr ++ [x])) = incomings (fwRun tr) := by
  rw [incomings_snoc, hx]
  exact List.append_nil _

theorem deliveries_append (a b : List ControllerPacket) :
    deliveries (a ++ b) = deliveries a ++ deliveries b :=
  List.map_append

theorem eventBytes_append (a b : List Delivery) :
    eventBytes (a ++ b) = eventBytes a ++ eventBytes b := by
  rw [eventBytes, List.filter_append, List.map_append]
  rfl

theorem dataPackets_append (a b : List Delivery) :
    dataPackets (a ++ b) = dataPackets a ++ dataPackets b :=
  List.filter_append ..

/-- Only an event that comes in ends the idling of the watcher thread. -/
theorem FwState.step_idle {s t : FwState} {env : FwCfgEnv} {a : FwAct} (hin : a.incoming? = none)
    (hidle : s.dispatch = .idle) (h : s.step env a = some t) : t.dispatch = .idle := by
  have hnext := next_of_step h
  cases ha : a.isEvent with
  | false =>
    rw [(worker_case ha hnext).frame.1.dispatch]
    exact hidle
  | true =>
    cases a with
    | incoming ev => cases hin
    | dispatch =>
      simp only [FwState.next, FwState.dispatchStep, hidle] at hnext
      cases hnext
    | _ => cases ha

/-- **Step lemma.** -/
theorem WireStartup.Follows.step {env : FwCfgEnv} {tr : List (Transition WireStartup WireAct)}
    {s t : WireStartup} {a : WireAct} {done todo : List ControllerPacket}
    (hs : s.Follows tr done todo) (h : WireCase env s a t) :
    ∃ done' todo', t.Follows (tr ++ [⟨s, a, t⟩]) done' todo' := by
  cases h with
  | @fw a fw hin hfw =>
    refine ⟨done, todo, (emitted_silent rfl).trans hs.emitted, hs.sync, ?_, hs.data, ?_⟩
    · have hact : (fwAct ⟨s, .fw a, { s with fw := fw }⟩).bind FwAct.incoming? = none := hin
      rw [incomings_silent hact, hs.events]
    · intro d hd
      obtain ⟨hidle, hmem⟩ := hs.atHand d hd
      exact ⟨FwState.step_idle hin hidle hfw, hmem⟩
  | @emit p =>
    refine ⟨done, todo ++ [p], ?_, ?_, ?_, hs.data, hs.atHand⟩
    · rw [emitted_snoc, hs.emitted, List.append_assoc]
      rfl
    · rw [List.map_append]
      exact hs.sync.snoc p.toHciPacket
    · rw [incomings_silent rfl, hs.events]
  | @read r h4 unread ds hhanded hidle hne hread =>
    have hevents := hs.events
    have hdata := hs.data
    rw [hhanded] at hevents hdata
    have hemitted {t : WireStartup} :
        BtVendor.emitted (tr ++ [⟨s, .read r, t⟩]) = done ++ todo :=
      (emitted_silent rfl).trans hs.emitted
    rcases hs.sync.onDataReady hne hread with ⟨rfl, hsync⟩ | ⟨p, rest, hsplit, rfl, hsync⟩
    · refine ⟨done, todo, hemitted, hsync, ?_, hdata, fun d hd => by cases hd⟩
      rw [incomings_silent rfl, hevents]
      rfl
    · -- the first of `todo` is ready
      obtain ⟨q, todo, rfl, rfl, rfl⟩ := List.map_eq_cons_iff.mp hsplit
      refine ⟨done ++ [q], todo, ?_, hsync, ?_, ?_, fun d hd => ⟨hidle, ?_⟩⟩
      · rw [hemitted, List.append_assoc]
        rfl
      · rw [incomings_silent rfl, deliveries_append, eventBytes_append, hevents, List.append_assoc]
        rfl
      · rw [deliveries_append, dataPackets_append, hdata, List.append_assoc]
        rfl
      · rw [deliveries_append]
        cases hd
        exact List.mem_append_right _ List.mem_cons_self
  | @event d ev fw hd hev hfw =>
    refine ⟨done, todo, (emitted_silent rfl).trans hs.emitted, hs.sync, ?_, ?_,
      fun d hd => by cases hd⟩
    · have hact : fwAct ⟨s, .handle, { s with fw := fw, handed := none }⟩ =
          some (.incoming ev) := by
        simp [fwAct, hd, hev]
      rw [incomings_snoc, hs.events, hd, hact]
      simp [FwAct.incoming?, eventIn_spec hev, eventBytes]
    · rw [hs.data, hd]
      simp [eventIn_spec hev, dataPackets]
  | @data d hd htype =>
    have hact : fwAct ⟨s, .handle, { s with handed := none, data := s.data ++ [d] }⟩ = none := by
      simp [fwAct, hd, eventIn, htype]
    refine ⟨done, todo, (emitted_silent rfl).trans hs.emitted, hs.sync, ?_, ?_,
      fun d hd => by cases hd⟩
    · rw [incomings_silent (by rw [hact]; rfl), hs.events, hd]
      simp [htype, eventBytes]
    · rw [hs.data, hd]
      simp [dataPackets, htype]

/-- A payload in every packet written is one in every packet that is still to be handed out. -/
theorem WireStartup.Follows.payload {tr : List (Transition WireStartup WireAct)} {s : WireStartup}
    {done todo : List ControllerPacket} (hs : s.Follows tr done todo)
    (hpay : ∀ p ∈ BtVendor.emitted tr, p.payload ≠ []) :
    ∀ p ∈ todo.map ControllerPacket.toHciPacket, p.payload ≠ [] := by
  intro p hp
  obtain ⟨q, hq, rfl⟩ := List.mem_map.mp hp
  exact hpay q (hs.emitted ▸ List.mem_append_right _ hq)

/-- **Run lemma.** -/
theorem wire_follows {env : FwCfgEnv} {left : Leftover} {preamble : Mem UInt8}
    {tr : List (Transition WireStartup WireAct)} {s : WireStartup}
    (h : (startupInit env left preamble).Run tr s) : ∃ done todo, s.Follows tr done todo := by
  induction h with
  | start hi =>
    obtain rfl := hi
    refine ⟨[], [], rfl, .idle rfl (.new preamble), rfl, rfl, fun d hd => by cases hd⟩
  | step _ hs ih =>
    obtain ⟨done, todo, hf⟩ := ih
    exact hf.step (WireStartup.step_case hs)

/-! ## Start-up -/

/-- One command from the test of the loop to its answer, which is read in pieces. -/
def wireCommand (p : ControllerPacket) : List WireAct :=
  [.fw (.loop true), .fw .check, .fw .command, .fw .command, .fw .command, .fw .command, .emit p,
    .read 9, .read 1, .read 1, .read 3, .read 9, .handle, .fw .dispatch, .fw .dispatch,
    .fw .dispatch, .fw .dispatch, .fw .wait]

theorem completePreamble_length : [(0x0E : UInt8), 4].length = preambleSizeForType .event := rfl

theorem completePacket_length (lo hi : UInt8) :
    hciGetPacketLengthForType .event (.ofList [0x0E, 4] 0) = [1, lo, hi, 0].length :=
  rfl

/-- The Command Complete event for the opcode with the bytes `lo` and `hi`, with status 0. -/
def completePacket (lo hi : UInt8) : ControllerPacket :=
  { type := .event
    preamble := [0x0E, 4]
    payload := [1, lo, hi, 0]
    received := event_received
    preamble_length := completePreamble_length
    length_field := completePacket_length lo hi
    complete := fun _ _ => Nat.le_refl 6 }

def wireAcl : ControllerPacket := { aclPacket with complete := nofun }

/-- A combo chip is started up; an ACL packet comes behind the first answer. -/
def wireComboRun : List WireAct :=
  .fw .threadStart :: wireCommand (completePacket 0x79 0xFC) ++
    [.emit wireAcl, .read 1, .read 4, .read 2, .read 9, .handle] ++
    wireCommand (completePacket 0x93 0xFC) ++ wireCommand (completePacket 0x7A 0xFC) ++
    [.fw (.loop true), .fw (.loop true), .fw .finish]

theorem answers_sublist_routed (h : List FwEvent) : (answers h).Sublist (routed h) := by
  induction h with
  | nil => exact .slnil
  | cons e h ih =>
    unfold answers routed at *
    cases e with
    | answered ev => exact ih.cons_cons ev
    | passed ev => exact ih.cons ev
    | sent c => exact ih
    | fwcfgCb b => exact ih
    | initializeComplete b => exact ih

end Sloane.BtVendor
