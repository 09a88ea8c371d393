import Sloane.WifiHal.VendorData

/-!
# RTT results across events

Model of `RttCommand::handleEvent` (`rtt.cpp`) over the events of one request.  An attribute is
given with what the code sees of it; a result comes with the answer of `malloc` to it.  What the
language leaves undefined is a fault: a read through the NULL attribute, and a store behind
`rttResults`.

* `attrLoop_spec` — the loops store some of the results of an event, in order, and all of them
  unless an allocation fails.
* `handleEvents_spec` — so it is across the events before the one that completes the request.
* `resultsDelivered_iff` — when all results are delivered once and freed once.
-/

namespace Sloane.WifiHal

open Sloane.Lib

def MAX_RESULTS : Nat := 1024

/-! ## Events -/

/-- A `RTT_ATTRIBUTE_RESULT`; `malloc` is the memory for it, if there is any. -/
structure RttEntry where
  payload : List UInt8
  malloc : Option (Mem UInt8)

/-- What is in a `RTT_ATTRIBUTE_RESULTS_PER_TARGET`. -/
inductive TargetAttr where
  | targetMac (bssid : List UInt8)
  | resultCnt (resultCnt : UInt32)
  | result (entry : RttEntry)
  | other (type : Nat)

inductive RttAttr where
  | resultsComplete (completed : UInt32)
  | resultsPerTarget (attrs : List TargetAttr)
  | other (type : Nat)

/-- An event, with its `NL80211_ATTR_VENDOR_DATA` if it has one. -/
structure RttEvent where
  vendorData : Option (List RttAttr)

/-! ## The command -/

/-- The copy of the `id`-th result for which there was memory. -/
structure StoredResult where
  id : Nat
  result : RttResult
  deriving DecidableEq, Repr

inductive RttFault where
  /-- `nla_data` and `nla_len` of NULL -/
  | nullAttribute
  /-- a store to `rttResults` behind its end -/
  | outOfBounds (index : Nat)
  deriving DecidableEq, Repr

/-- The fields of a `RttCommand`, the number of results copied so far, the calls of
`on_rtt_results` with the results they were given, and the results given to `free`. -/
structure RttState where
  mCompleted : UInt32
  currentIdx : Nat
  totalCnt : Nat
  rttResults : Nat → Option StoredResult
  /-- events still reach the command -/
  registered : Bool
  copied : Nat
  calls : List (List (Option StoredResult))
  freed : List Nat

/-- The constructor of `RttCommand`. -/
def RttState.new : RttState := ⟨0, 0, 0, fun _ => none, true, 0, [], []⟩

/-- `rttResults[i] = p`. -/
def setSlot (slots : Nat → Option StoredResult) (i : Nat) (p : Option StoredResult) :
    Nat → Option StoredResult :=
  fun j => if j = i then p else slots j

/-- The loop over the attributes of a target. -/
def targetLoop (L : RttLayout) : List TargetAttr → RttState → Except RttFault RttState
  | [], s => .ok s
  | .result e :: attrs, s =>
      if s.currentIdx < MAX_RESULTS then
        match e.malloc with
        | none =>
            -- the `break`
            .ok { s with rttResults := setSlot s.rttResults s.currentIdx none, mCompleted := 1 }
        | some heap =>
            let rttResult := ⟨s.copied, (copyResult L heap e.payload).1⟩
            targetLoop L attrs { s with
              rttResults := setSlot s.rttResults s.currentIdx (some rttResult)
              totalCnt := s.totalCnt + 1
              currentIdx := s.currentIdx + 1
              copied := s.copied + 1 }
      else .error (.outOfBounds s.currentIdx)
  | .targetMac _ :: attrs, s => targetLoop L attrs s
  | .resultCnt _ :: attrs, s => targetLoop L attrs s
  | .other _ :: attrs, s => targetLoop L attrs s

/-- The loop over the vendor data. -/
def attrLoop (L : RttLayout) : List RttAttr → RttState → Except RttFault RttState
  | [], s => .ok s
  | .resultsComplete completed :: attrs, s => attrLoop L attrs { s with mCompleted := completed }
  | .resultsPerTarget targetAttrs :: attrs, s => do
      let s ← targetLoop L targetAttrs s
      attrLoop L attrs s
  | .other _ :: attrs, s => attrLoop L attrs s

/-- The first `n` entries of `rttResults`. -/
def RttState.slots (s : RttState) (n : Nat) : List (Option StoredResult) :=
  (List.range n).map s.rttResults

/-- The end of `handleEvent`. -/
def RttState.complete (s : RttState) : RttState where
  mCompleted := s.mCompleted
  currentIdx := 0
  totalCnt := 0
  rttResults i := if i < s.currentIdx then none else s.rttResults i
  registered := false
  copied := s.copied
  calls := s.calls ++ [s.slots s.totalCnt]
  freed := s.freed ++ (s.slots s.currentIdx).filterMap (Option.map StoredResult.id)

/-- `RttCommand::handleEvent`. -/
def handleEvent (L : RttLayout) (event : RttEvent) (s : RttState) : Except RttFault RttState :=
  match event.vendorData with
  | none => .error .nullAttribute
  | some vendorData => do
      let s ← attrLoop L vendorData s
      if s.mCompleted ≠ 0 then .ok s.complete else .ok s

/-- The events of a request; none comes after the command is unregistered. -/
def handleEvents (L : RttLayout) : List RttEvent → RttState → Except RttFault RttState
  | [], s => .ok s
  | event :: events, s =>
      if s.registered then do
        let s ← handleEvent L event s
        handleEvents L events s
      else .ok s

/-! ## What is asked of a request -/

def TargetAttr.entry : TargetAttr → Option RttEntry
  | .result e => some e
  | _ => none

def RttAttr.entries : RttAttr → List RttEntry
  | .resultsPerTarget attrs => attrs.filterMap TargetAttr.entry
  | _ => []

/-- The results of an event, in order. -/
def RttEvent.entries (event : RttEvent) : List RttEntry :=
  (event.vendorData.getD []).flatMap RttAttr.entries

/-- The results of several events. -/
def entriesOf (events : List RttEvent) : List RttEntry := events.flatMap RttEvent.entries

def RttAttr.completed : RttAttr → Option UInt32
  | .resultsComplete completed => some completed
  | _ => none

/-- The values of `RTT_ATTRIBUTE_RESULTS_COMPLETE` in an event. -/
def RttEvent.completeFlags (event : RttEvent) : List UInt32 :=
  (event.vendorData.getD []).filterMap RttAttr.completed

/-- The event says that the results are complete. -/
def RttEvent.Completes (event : RttEvent) : Prop := ∃ c ∈ event.completeFlags, c ≠ 0

/-- All results are handed over in one call and freed once, none is stored behind the array, and an
event without vendor data changes nothing. -/
structure ResultsDelivered (L : RttLayout) (events : List RttEvent) : Prop where
  delivered : ∃ s results, handleEvents L events .new = .ok s ∧ s.calls = [results] ∧
    results.map (Option.map fun r => r.result.payload) =
      (entriesOf events).map (fun e => some e.payload) ∧
    ∀ id, s.freed.count id = if id < s.copied then 1 else 0
  noVendorData : ∀ before event after, events = before ++ event :: after →
    event.vendorData = none → ∃ s, handleEvents L before .new = .ok s ∧
      handleEvent L event s = .ok s

/-- Every event has vendor data, the array is large enough, there is memory for every result, and
the last flag of the completing event is the one that counts. -/
structure Deliverable (events : List RttEvent) (last : RttEvent) : Prop where
  vendorData : ∀ event ∈ events, event.vendorData.isSome = true
  count : (entriesOf (events ++ [last])).length ≤ MAX_RESULTS
  malloc : ∀ e ∈ entriesOf (events ++ [last]), e.malloc.isSome = true
  flag : ∃ c ∈ last.completeFlags.getLast?, c ≠ 0

/-! ## Copies -/

variable {L : RttLayout} {s t u : RttState}

/-- The copy of a result for which there was memory. -/
def RttEntry.copy (L : RttLayout) (e : RttEntry) : RttResult :=
  (copyResult L (e.malloc.getD fun _ => 0) e.payload).1

/-- The copies of some results; the first is the `id`-th one. -/
def copies (L : RttLayout) : Nat → List RttEntry → List (Option StoredResult)
  | _, [] => []
  | id, e :: es => some ⟨id, e.copy L⟩ :: copies L (id + 1) es

theorem copies_append (id : Nat) (es es' : List RttEntry) :
    copies L id (es ++ es') = copies L id es ++ copies L (id + es.length) es' := by
  induction es generalizing id with
  | nil => rfl
  | cons e es ih =>
    rw [List.cons_append, copies, ih, copies, List.length_cons, List.cons_append]
    congr 3
    omega

theorem copies_payload (id : Nat) (es : List RttEntry) :
    (copies L id es).map (Option.map fun r => r.result.payload) =
      es.map fun e => some e.payload := by
  induction es generalizing id with
  | nil => rfl
  | cons e es ih =>
    rw [copies, List.map_cons, ih]
    rfl

theorem copies_id (id : Nat) (es : List RttEntry) :
    (copies L id es).filterMap (Option.map StoredResult.id) = List.range' id es.length := by
  induction es generalizing id with
  | nil => rfl
  | cons e es ih =>
    simp only [copies, List.filterMap_cons, Option.map_some, ih]
    rfl

/-! ## Storing results -/

/-- Some more results have been stored, in order. -/
structure Stored (L : RttLayout) (s : RttState) (got : List RttEntry) (t : RttState) : Prop where
  currentIdx : t.currentIdx = s.currentIdx + got.length
  totalCnt : t.totalCnt = s.totalCnt + got.length
  copied : t.copied = s.copied + got.length
  slots : t.slots t.currentIdx = s.slots s.currentIdx ++ copies L s.copied got
  registered : t.registered = s.registered
  calls : t.calls = s.calls
  freed : t.freed = s.freed
  bound : s.currentIdx ≤ MAX_RESULTS → t.currentIdx ≤ MAX_RESULTS

theorem Stored.trans {got got' : List RttEntry} (h : Stored L s got t) (h' : Stored L t got' u) :
    Stored L s (got ++ got') u where
  currentIdx := by rw [h'.currentIdx, h.currentIdx, List.length_append, Nat.add_assoc]
  totalCnt := by rw [h'.totalCnt, h.totalCnt, List.length_append, Nat.add_assoc]
  copied := by rw [h'.copied, h.copied, List.length_append, Nat.add_assoc]
  slots := by rw [h'.slots, h.slots, h.copied, copies_append, List.append_assoc]
  registered := h'.registered.trans h.registered
  calls := h'.calls.trans h.calls
  freed := h'.freed.trans h.freed
  bound hs := h'.bound (h.bound hs)

/-- A store leaves the entries before it. -/
theorem slots_setSlot (s : RttState) {n i : Nat} (h : n ≤ i) (p : Option StoredResult) :
    (List.range n).map (setSlot s.rttResults i p) = s.slots n := by
  apply List.map_congr_left
  intro j hj
  have hlt := List.mem_range.mp hj
  rw [setSlot, if_neg (by omega)]

/-- What a loop over results with these entries does: it stores some of them, for which there is
memory, and if it does not store all of them then there is one without memory. -/
structure LoopResult (L : RttLayout) (s : RttState) (entries : List RttEntry) (flag : UInt32)
    (got : List RttEntry) (t : RttState) : Prop where
  sublist : got.Sublist entries
  malloc : ∀ e ∈ got, e.malloc.isSome = true
  stored : Stored L s got t
  all : (got = entries ∧ t.mCompleted = flag) ∨ ∃ e ∈ entries, e.malloc = none

/-- Nothing was stored. -/
theorem LoopResult.refl {flag : UInt32} (h : s.mCompleted = flag) :
    LoopResult L s [] flag [] s where
  sublist := .slnil
  malloc := by simp
  stored := ⟨rfl, rfl, rfl, (List.append_nil _).symm, rfl, rfl, rfl, id⟩
  all := .inl ⟨rfl, h⟩

theorem LoopResult.append {entries entries' got got' : List RttEntry} (flag : UInt32 → UInt32)
    (h : LoopResult L s entries s.mCompleted got t)
    (h' : LoopResult L t entries' (flag t.mCompleted) got' u) :
    LoopResult L s (entries ++ entries') (flag s.mCompleted) (got ++ got') u where
  sublist := h.sublist.append h'.sublist
  malloc := List.forall_mem_append.mpr ⟨h.malloc, h'.malloc⟩
  stored := h.stored.trans h'.stored
  all := by
    rcases h.all with ⟨rfl, hflag⟩ | ⟨e, he, hnone⟩
    · rcases h'.all with ⟨rfl, hflag'⟩ | ⟨e, he, hnone⟩
      · exact .inl ⟨rfl, by rw [hflag', hflag]⟩
      · exact .inr ⟨e, List.mem_append_right _ he, hnone⟩
    · exact .inr ⟨e, List.mem_append_left _ he, hnone⟩

/-- Where there is memory for every result, all are stored. -/
theorem LoopResult.got_eq {entries got : List RttEntry} {flag : UInt32}
    (h : LoopResult L s entries flag got t) (hall : ∀ e ∈ entries, e.malloc.isSome = true) :
    got = entries ∧ t.mCompleted = flag := by
  rcases h.all with hboth | ⟨e, he, hnone⟩
  · exact hboth
  · have hsome := hall e he
    rw [hnone] at hsome
    cases hsome

/-- One result is stored. -/
theorem stored_one {e : RttEntry} {heap : Mem UInt8} (hm : e.malloc = some heap)
    (hlt : s.currentIdx < MAX_RESULTS) : LoopResult L s [e] s.mCompleted [e]
      { s with
        rttResults := setSlot s.rttResults s.currentIdx
          (some ⟨s.copied, (copyResult L heap e.payload).1⟩)
        totalCnt := s.totalCnt + 1
        currentIdx := s.currentIdx + 1
        copied := s.copied + 1 } where
  sublist := .refl _
  malloc := by simp [hm]
  stored := by
    refine ⟨rfl, rfl, rfl, ?_, rfl, rfl, rfl, fun _ => hlt⟩
    have hbefore := slots_setSlot s (Nat.le_refl s.currentIdx)
      (some ⟨s.copied, (copyResult L heap e.payload).1⟩)
    simp only [RttState.slots, List.range_succ, List.map_append, List.map_singleton] at hbefore ⊢
    rw [hbefore]
    simp [setSlot, copies, RttEntry.copy, hm]
    rfl
  all := .inl ⟨rfl, rfl⟩

/-! ## The loops -/

/-- The results of a target are stored as they come, until there is no memory for one. -/
theorem targetLoop_spec {attrs : List TargetAttr} (h : targetLoop L attrs s = .ok t) :
    ∃ got, LoopResult L s (attrs.filterMap TargetAttr.entry) s.mCompleted got t := by
  induction attrs generalizing s with
  | nil =>
    obtain rfl := Except.ok.inj h
    exact ⟨[], .refl rfl⟩
  | cons attr attrs ih =>
    cases attr with
    | result e =>
      rw [targetLoop] at h
      split at h
      · rename_i hlt
        split at h
        · -- no memory for this result
          rename_i hnone
          obtain rfl := Except.ok.inj h
          refine ⟨[], List.nil_sublist _, by simp, ?_, .inr ⟨e, by simp [TargetAttr.entry], hnone⟩⟩
          refine ⟨rfl, rfl, rfl, ?_, rfl, rfl, rfl, id⟩
          exact (slots_setSlot s (Nat.le_refl _) none).trans (List.append_nil _).symm
        · rename_i heap hm
          obtain ⟨got, hrest⟩ := ih h
          exact ⟨[e] ++ got, (stored_one hm hlt).append id hrest⟩
      · cases h
    | targetMac | resultCnt | other => exact ih h

/-- The last value of `RTT_ATTRIBUTE_RESULTS_COMPLETE`, if there is one. -/
def lastFlag (flags : List UInt32) (mCompleted : UInt32) : UInt32 :=
  flags.getLast?.getD mCompleted

theorem lastFlag_cons (c : UInt32) (flags : List UInt32) (mCompleted : UInt32) :
    lastFlag (c :: flags) mCompleted = lastFlag flags c := by
  rw [lastFlag, List.getLast?_cons]
  rfl

/-- The flag has no part in storing. -/
theorem LoopResult.of_flag {entries got : List RttEntry} {c flag : UInt32}
    (h : LoopResult L { s with mCompleted := c } entries flag got t) :
    LoopResult L s entries flag got t where
  sublist := h.sublist
  malloc := h.malloc
  stored := ⟨h.stored.currentIdx, h.stored.totalCnt, h.stored.copied, h.stored.slots,
    h.stored.registered, h.stored.calls, h.stored.freed, h.stored.bound⟩
  all := h.all

theorem attrLoop_spec {attrs : List RttAttr} (h : attrLoop L attrs s = .ok t) :
    ∃ got, LoopResult L s (attrs.flatMap RttAttr.entries)
      (lastFlag (attrs.filterMap RttAttr.completed) s.mCompleted) got t := by
  induction attrs generalizing s with
  | nil =>
    obtain rfl := Except.ok.inj h
    exact ⟨[], .refl rfl⟩
  | cons attr attrs ih =>
    cases attr with
    | resultsComplete completed =>
      obtain ⟨got, hrest⟩ := ih h
      refine ⟨got, ?_⟩
      have hflags : (RttAttr.resultsComplete completed :: attrs).filterMap RttAttr.completed =
          completed :: attrs.filterMap RttAttr.completed := rfl
      rw [hflags, lastFlag_cons]
      exact hrest.of_flag
    | resultsPerTarget targetAttrs =>
      obtain ⟨s1, hfirst, hnext⟩ := bind_eq_ok.mp h
      obtain ⟨got, hgot⟩ := targetLoop_spec hfirst
      obtain ⟨got', hrest⟩ := ih hnext
      exact ⟨got ++ got', hgot.append (lastFlag _) hrest⟩
    | other => exact ih h

/-- An event stores its results, and completes the request if the flag is set after it. -/
theorem handleEvent_spec {event : RttEvent} (h : handleEvent L event s = .ok u) :
    event.vendorData.isSome = true ∧ ∃ t got,
      LoopResult L s event.entries (lastFlag event.completeFlags s.mCompleted) got t ∧
      u = if t.mCompleted ≠ 0 then t.complete else t := by
  unfold handleEvent at h
  split at h
  · cases h
  rename_i vendorData hdata
  obtain ⟨t, hloop, hend⟩ := bind_eq_ok.mp h
  obtain ⟨got, hgot⟩ := attrLoop_spec hloop
  refine ⟨by rw [hdata]; rfl, t, got, ?_, ?_⟩
  · rw [RttEvent.entries, RttEvent.completeFlags, hdata]
    exact hgot
  · split at hend
    · rename_i hflag
      rw [if_pos hflag]
      exact (Except.ok.inj hend).symm
    · rename_i hflag
      rw [if_neg hflag]
      exact (Except.ok.inj hend).symm

/-! ## Many events -/

theorem handleEvents_unregistered (events : List RttEvent) (h : s.registered = false) :
    handleEvents L events s = .ok s := by
  cases events with
  | nil => rfl
  | cons event events => simp [handleEvents, h]

theorem handleEvents_append (events events' : List RttEvent) :
    handleEvents L (events ++ events') s =
      handleEvents L events s >>= fun t => handleEvents L events' t := by
  induction events generalizing s with
  | nil => rfl
  | cons event events ih =>
    rw [List.cons_append, handleEvents, handleEvents]
    split
    · cases handleEvent L event s with
      | error _ => rfl
      | ok t => exact ih
    · rename_i hreg
      exact (handleEvents_unregistered events' (Bool.eq_false_iff.mpr hreg)).symm

/-- No flag of the event is set, so the last one is not. -/
theorem lastFlag_of_not_completes {event : RttEvent} (h : ¬ event.Completes) :
    lastFlag event.completeFlags 0 = 0 := by
  unfold lastFlag
  cases hlast : event.completeFlags.getLast? with
  | none => rfl
  | some c =>
    by_contra hne
    exact h ⟨c, List.mem_of_getLast? hlast, hne⟩

/-- The events before the completing one: the command stores their results and waits, or has
stopped because there was no memory for one of them. -/
inductive BeforeLast (L : RttLayout) (s : RttState) (entries : List RttEntry) (u : RttState) : Prop
  | waiting (got) : LoopResult L s entries 0 got u → u.mCompleted = 0 → BeforeLast L s entries u
  | stopped (got t) : got.Sublist entries → Stored L s got t → u = t.complete →
      (∀ e ∈ got, e.malloc.isSome = true) → (∃ e ∈ entries, e.malloc = none) →
      BeforeLast L s entries u

theorem handleEvents_spec {events : List RttEvent} (hnot : ∀ event ∈ events, ¬ event.Completes)
    (hflag : s.mCompleted = 0) (hreg : s.registered = true)
    (h : handleEvents L events s = .ok u) : BeforeLast L s (entriesOf events) u := by
  induction events generalizing s with
  | nil =>
    obtain rfl := Except.ok.inj h
    exact .waiting [] (.refl hflag) hflag
  | cons event events ih =>
    obtain ⟨hone, hrest⟩ := List.forall_mem_cons.mp hnot
    rw [handleEvents, if_pos hreg] at h
    obtain ⟨s1, hev, hnext⟩ := bind_eq_ok.mp h
    obtain ⟨-, t, got, hgot, rfl⟩ := handleEvent_spec hev
    rw [hflag, lastFlag_of_not_completes hone] at hgot
    have hentries : entriesOf (event :: events) = event.entries ++ entriesOf events := rfl
    rw [hentries]
    split at hnext
    · -- the flag is set although the event does not say so
      rename_i hset
      rw [handleEvents_unregistered _ rfl] at hnext
      obtain rfl := Except.ok.inj hnext
      rcases hgot.all with ⟨-, hzero⟩ | ⟨e, he, hnone⟩
      · exact absurd hzero hset
      · exact .stopped got t (hgot.sublist.trans (List.sublist_append_left _ _)) hgot.stored rfl
          hgot.malloc ⟨e, List.mem_append_left _ he, hnone⟩
    · rename_i hzero
      have hzero : t.mCompleted = 0 := by simpa using hzero
      have hreg' : t.registered = true := hgot.stored.registered.trans hreg
      cases ih hrest hzero hreg' hnext with
      | waiting got' hgot' hzero' =>
        refine .waiting (got ++ got') ?_ hzero'
        exact LoopResult.append (fun _ => 0) (hflag ▸ hgot) hgot'
      | stopped got' t' hsub hstored hu hmalloc hfail =>
        obtain ⟨e, he, hnone⟩ := hfail
        exact .stopped (got ++ got') t' (hgot.sublist.append hsub) (hgot.stored.trans hstored) hu
          (List.forall_mem_append.mpr ⟨hgot.malloc, hmalloc⟩)
          ⟨e, List.mem_append_right _ he, hnone⟩

/-! ## Where nothing fails -/

theorem targetLoop_ok {attrs : List TargetAttr}
    (hcount : s.currentIdx + (attrs.filterMap TargetAttr.entry).length ≤ MAX_RESULTS)
    (hall : ∀ e ∈ attrs.filterMap TargetAttr.entry, e.malloc.isSome = true) :
    ∃ t, targetLoop L attrs s = .ok t := by
  induction attrs generalizing s with
  | nil => exact ⟨s, rfl⟩
  | cons attr attrs ih =>
    cases attr with
    | result e =>
      simp only [TargetAttr.entry, List.filterMap_cons, List.length_cons,
        List.forall_mem_cons] at hcount hall
      obtain ⟨heap, hm⟩ := Option.isSome_iff_exists.mp hall.1
      have hlt : s.currentIdx < MAX_RESULTS := by omega
      rw [targetLoop, if_pos hlt, hm]
      refine ih ?_ hall.2
      simp only
      omega
    | targetMac | resultCnt | other => exact ih hcount hall

theorem attrLoop_ok {attrs : List RttAttr}
    (hcount : s.currentIdx + (attrs.flatMap RttAttr.entries).length ≤ MAX_RESULTS)
    (hall : ∀ e ∈ attrs.flatMap RttAttr.entries, e.malloc.isSome = true) :
    ∃ t, attrLoop L attrs s = .ok t := by
  induction attrs generalizing s with
  | nil => exact ⟨s, rfl⟩
  | cons attr attrs ih =>
    rw [List.flatMap_cons] at hcount hall
    obtain ⟨hfirst, hrest⟩ := List.forall_mem_append.mp hall
    rw [List.length_append] at hcount
    cases attr with
    | resultsPerTarget targetAttrs =>
      simp only [RttAttr.entries] at hcount hfirst
      obtain ⟨t, ht⟩ := targetLoop_ok (L := L) (s := s) (by omega) hfirst
      obtain ⟨got, hgot⟩ := targetLoop_spec ht
      obtain ⟨rfl, -⟩ := hgot.got_eq hfirst
      have hidx := hgot.stored.currentIdx
      obtain ⟨u, hu⟩ := ih (s := t) (by omega) hrest
      refine ⟨u, ?_⟩
      rw [attrLoop, ht]
      exact hu
    | resultsComplete | other =>
      simp only [RttAttr.entries, List.length_nil, Nat.zero_add] at hcount
      exact ih hcount hrest

/-- An event with vendor data is handled. -/
theorem handleEvent_ok {event : RttEvent} (hdata : event.vendorData.isSome = true)
    (hcount : s.currentIdx + event.entries.length ≤ MAX_RESULTS)
    (hall : ∀ e ∈ event.entries, e.malloc.isSome = true) :
    ∃ t u,
      LoopResult L s event.entries (lastFlag event.completeFlags s.mCompleted) event.entries t ∧
      handleEvent L event s = .ok u ∧ u = if t.mCompleted ≠ 0 then t.complete else t := by
  obtain ⟨vendorData, hvendor⟩ := Option.isSome_iff_exists.mp hdata
  have hex : ∃ u, handleEvent L event s = .ok u := by
    rw [RttEvent.entries, hvendor, Option.getD_some] at hcount hall
    obtain ⟨t, ht⟩ := attrLoop_ok (L := L) hcount hall
    unfold handleEvent
    rw [hvendor]
    simp only [ht]
    change ∃ u, (if t.mCompleted ≠ 0 then Except.ok t.complete else Except.ok t) = Except.ok u
    split
    · exact ⟨_, rfl⟩
    · exact ⟨_, rfl⟩
  obtain ⟨u, hu⟩ := hex
  obtain ⟨-, t, got, hgot, heq⟩ := handleEvent_spec hu
  obtain ⟨rfl, -⟩ := hgot.got_eq hall
  exact ⟨t, u, hgot, hu, heq⟩

theorem handleEvents_ok {events : List RttEvent} (hnot : ∀ event ∈ events, ¬ event.Completes)
    (hdata : ∀ event ∈ events, event.vendorData.isSome = true) (hflag : s.mCompleted = 0)
    (hreg : s.registered = true)
    (hcount : s.currentIdx + (entriesOf events).length ≤ MAX_RESULTS)
    (hall : ∀ e ∈ entriesOf events, e.malloc.isSome = true) :
    ∃ t, handleEvents L events s = .ok t ∧
      LoopResult L s (entriesOf events) 0 (entriesOf events) t ∧ t.mCompleted = 0 := by
  have hex : ∃ t, handleEvents L events s = .ok t := by
    induction events generalizing s with
    | nil => exact ⟨s, rfl⟩
    | cons event events ih =>
      obtain ⟨hone, hrest⟩ := List.forall_mem_cons.mp hnot
      obtain ⟨hd, hdrest⟩ := List.forall_mem_cons.mp hdata
      have hentries : entriesOf (event :: events) = event.entries ++ entriesOf events := rfl
      rw [hentries] at hcount hall
      rw [List.length_append] at hcount
      obtain ⟨hfirst, hlater⟩ := List.forall_mem_append.mp hall
      obtain ⟨t, u, hgot, hu, rfl⟩ := handleEvent_ok (L := L) (s := s) hd (by omega) hfirst
      have hzero : t.mCompleted = 0 := by
        rw [(hgot.got_eq hfirst).2, hflag, lastFlag_of_not_completes hone]
      rw [if_neg (by simp [hzero])] at hu
      have hidx := hgot.stored.currentIdx
      obtain ⟨v, hv⟩ := ih (s := t) hrest hdrest hzero (hgot.stored.registered.trans hreg)
        (by omega) hlater
      refine ⟨v, ?_⟩
      rw [handleEvents, if_pos hreg, hu]
      exact hv
  obtain ⟨t, ht⟩ := hex
  refine ⟨t, ht, ?_⟩
  cases handleEvents_spec hnot hflag hreg ht with
  | waiting got hgot hzero =>
    obtain ⟨rfl, -⟩ := hgot.got_eq hall
    exact ⟨hgot, hzero⟩
  | stopped _ _ _ _ _ _ hfail =>
    obtain ⟨e, he, hnone⟩ := hfail
    have hsome := hall e he
    rw [hnone] at hsome
    cases hsome

/-! ## A whole request -/

/-- What is handed over and freed in the end. -/
theorem Stored.complete {got : List RttEntry} (h : Stored L .new got t) :
    t.complete.calls = [copies L 0 got] ∧ t.complete.freed = List.range got.length ∧
      t.complete.copied = got.length := by
  have htotal : t.totalCnt = t.currentIdx := h.totalCnt.trans h.currentIdx.symm
  have hslots : t.slots t.currentIdx = copies L 0 got := h.slots
  refine ⟨?_, ?_, h.copied.trans (Nat.zero_add _)⟩
  · change t.calls ++ [t.slots t.totalCnt] = _
    rw [h.calls, htotal, hslots]
    rfl
  · change t.freed ++ (t.slots t.currentIdx).filterMap (Option.map StoredResult.id) = _
    rw [h.freed, hslots, copies_id, List.range_eq_range']
    rfl

/-- What is handed over tells which results were stored. -/
theorem got_eq_of_payloads {entries got : List RttEntry} {results : List (Option StoredResult)}
    (hsub : got.Sublist entries) (hcalls : [copies L 0 got] = [results])
    (hpayloads : results.map (Option.map fun r => r.result.payload) =
      entries.map fun e => some e.payload) : got = entries := by
  obtain rfl := List.singleton_inj.mp hcalls
  rw [copies_payload] at hpayloads
  have hlen := congrArg List.length hpayloads
  rw [List.length_map, List.length_map] at hlen
  exact hsub.eq_of_length hlen

theorem entriesOf_snoc (events : List RttEvent) (last : RttEvent) :
    entriesOf (events ++ [last]) = entriesOf events ++ last.entries := by
  simp [entriesOf]

/-- An event without vendor data is a fault. -/
theorem vendorData_of_delivered {events : List RttEvent} (h : ResultsDelivered L events) :
    ∀ event ∈ events, event.vendorData.isSome = true := by
  intro event hmem
  obtain ⟨before, after, hsplit⟩ := List.append_of_mem hmem
  cases hv : event.vendorData with
  | some _ => rfl
  | none =>
    obtain ⟨s, -, hev⟩ := h.noVendorData before event after hsplit hv
    rw [handleEvent, hv] at hev
    cases hev

theorem flag_of_lastFlag {flags : List UInt32} (h : lastFlag flags 0 ≠ 0) :
    ∃ c ∈ flags.getLast?, c ≠ 0 := by
  unfold lastFlag at h
  cases hlast : flags.getLast? with
  | none =>
    rw [hlast] at h
    exact absurd rfl h
  | some c =>
    rw [hlast] at h
    exact ⟨c, rfl, h⟩

/-- **Delivered results need all of it.** -/
theorem deliverable_of_delivered {events : List RttEvent} {last : RttEvent}
    (hnot : ∀ event ∈ events, ¬ event.Completes)
    (h : ResultsDelivered L (events ++ [last])) : Deliverable events last := by
  obtain ⟨u, results, hrun, hcalls, hpayloads, -⟩ := h.delivered
  have hentries := entriesOf_snoc events last
  rw [handleEvents_append] at hrun
  obtain ⟨s, hbefore, hlast⟩ := bind_eq_ok.mp hrun
  cases handleEvents_spec hnot rfl rfl hbefore with
  | stopped got t hsub hstored hs hmalloc hfail =>
    -- a result that is lost before the last event is never handed over
    subst hs
    rw [handleEvents_unregistered _ rfl] at hlast
    obtain rfl := Except.ok.inj hlast
    rw [hstored.complete.1] at hcalls
    have hall := got_eq_of_payloads
      (hsub.trans (hentries ▸ List.sublist_append_left _ _)) hcalls hpayloads
    obtain ⟨e, he, hnone⟩ := hfail
    have hsome := hmalloc e (by rw [hall, hentries]; exact List.mem_append_left _ he)
    rw [hnone] at hsome
    cases hsome
  | waiting got hgot hzero =>
    have hreg : s.registered = true := hgot.stored.registered
    rw [handleEvents, if_pos hreg] at hlast
    obtain ⟨v, hev, hend⟩ := bind_eq_ok.mp hlast
    obtain rfl : v = u := Except.ok.inj hend
    obtain ⟨-, t, got', hgot', rfl⟩ := handleEvent_spec hev
    have hstored := hgot.stored.trans hgot'.stored
    split at hcalls
    · rename_i hflag
      rw [hstored.complete.1] at hcalls
      have hall := got_eq_of_payloads
        (hentries ▸ hgot.sublist.append hgot'.sublist) hcalls hpayloads
      have hmalloc : ∀ e ∈ entriesOf (events ++ [last]), e.malloc.isSome = true := by
        rw [← hall]
        exact List.forall_mem_append.mpr ⟨hgot.malloc, hgot'.malloc⟩
      refine ⟨fun event hmem => ?_, ?_, hmalloc, ?_⟩
      · exact vendorData_of_delivered h event (List.mem_append_left _ hmem)
      · have hbound := hstored.bound (Nat.zero_le _)
        rw [hstored.currentIdx, hall] at hbound
        exact Nat.le_trans (Nat.le_add_left _ _) hbound
      · rw [hentries] at hmalloc
        rw [(hgot'.got_eq (List.forall_mem_append.mp hmalloc).2).2, hzero] at hflag
        exact flag_of_lastFlag hflag
    · rw [hstored.calls] at hcalls
      cases hcalls

/-- **And they are delivered then.** -/
theorem delivered_of_deliverable {events : List RttEvent} {last : RttEvent}
    (hnot : ∀ event ∈ events, ¬ event.Completes) (h : Deliverable events last) :
    ResultsDelivered L (events ++ [last]) := by
  have hentries := entriesOf_snoc events last
  have hcount := h.count
  have hmalloc := h.malloc
  rw [hentries, List.length_append] at hcount
  rw [hentries] at hmalloc
  obtain ⟨hfirst, hrest⟩ := List.forall_mem_append.mp hmalloc
  obtain ⟨c, hlast, hc⟩ := h.flag
  have hdata : last.vendorData.isSome = true := by
    cases hv : last.vendorData with
    | some _ => rfl
    | none =>
      rw [RttEvent.completeFlags, hv] at hlast
      cases hlast
  have hzero : RttState.new.currentIdx = 0 := rfl
  obtain ⟨s, hs, hgot, hflag⟩ := handleEvents_ok (L := L) (s := .new) hnot h.vendorData rfl rfl
    (by omega) hfirst
  have hidx := hgot.stored.currentIdx
  have hreg : s.registered = true := hgot.stored.registered
  obtain ⟨t, u, hgot', hu, rfl⟩ := handleEvent_ok (L := L) (s := s) hdata (by omega) hrest
  have hset : t.mCompleted ≠ 0 := by
    rw [(hgot'.got_eq hrest).2, lastFlag, hlast]
    exact hc
  rw [if_pos hset] at hu
  obtain ⟨hcalls, hfreed, hcopied⟩ := (hgot.stored.trans hgot'.stored).complete
  refine ⟨⟨t.complete, _, ?_, hcalls, ?_, fun id => ?_⟩, ?_⟩
  · rw [handleEvents_append, hs]
    change (if s.registered then _ else _) = _
    rw [if_pos hreg, hu]
    rfl
  · rw [copies_payload, hentries]
  · rw [hfreed, hcopied, List.nodup_range.count]
    simp
  · intro before event after hsplit hnone
    have hmem : event ∈ events ++ [last] := by simp [hsplit]
    rcases List.mem_append.mp hmem with hin | hin
    · have hsome := h.vendorData event hin
      rw [hnone] at hsome
      cases hsome
    · rw [List.mem_singleton.mp hin] at hnone
      rw [hnone] at hdata
      cases hdata

/-- **When all results are delivered once and freed once.** -/
theorem resultsDelivered_iff (L : RttLayout) {events : List RttEvent} {last : RttEvent}
    (hnot : ∀ event ∈ events, ¬ event.Completes) :
    ResultsDelivered L (events ++ [last]) ↔ Deliverable events last :=
  ⟨deliverable_of_delivered hnot, delivered_of_deliverable hnot⟩

/-! ## A small request, and one that is too large -/

/-- An event with one result, for which there is memory. -/
def oneResult : RttEvent := ⟨some [.resultsPerTarget [.result ⟨[], some fun _ => 0⟩]]⟩

def allDone : RttEvent := ⟨some [.resultsComplete 1]⟩

theorem oneResult_not_completes : ¬ oneResult.Completes := by
  rintro ⟨c, hc, -⟩
  cases hc

theorem resultsDelivered_two :
    ResultsDelivered exampleLayout ([oneResult, oneResult] ++ [allDone]) := by
  refine (resultsDelivered_iff exampleLayout ?_).mpr ⟨?_, by decide, ?_, 1, rfl, by decide⟩
  · simp [oneResult_not_completes]
  · simp [oneResult]
  · simp [entriesOf, RttEvent.entries, RttAttr.entries, TargetAttr.entry, oneResult, allDone]
    rfl

/-- One result more than the array has entries. -/
theorem not_resultsDelivered : ¬ ∀ (L : RttLayout) (events : List RttEvent) (last : RttEvent),
    (∀ event ∈ events, ¬ event.Completes) → last.Completes →
      ResultsDelivered L (events ++ [last]) := by
  intro hall
  have hnot : ∀ event ∈ List.replicate 1025 oneResult, ¬ event.Completes := by
    intro event hmem
    rw [List.eq_of_mem_replicate hmem]
    exact oneResult_not_completes
  have h := deliverable_of_delivered hnot
    (hall exampleLayout _ allDone hnot ⟨1, by decide, by decide⟩)
  have hone : oneResult.entries.length = 1 := rfl
  have hdone : allDone.entries.length = 0 := rfl
  have hcount := h.count
  rw [entriesOf, List.length_flatMap, List.map_append, List.map_replicate, List.sum_append,
    List.sum_replicate_nat, hone, List.map_singleton, hdone] at hcount
  exact absurd hcount (by decide)

end Sloane.WifiHal
