import Mathlib.Data.List.Induction
import Sloane.WifiHal.NlIterator

/-!
# Replies with a count and a list

Model of `GetFeatureSetCommand::handleResponse` (`wifi_hal.cpp`) and
`GetChannelListCommand::handleResponse` (`gscan.cpp`).  The reply announces a count in one attribute
and has the list in others; the caller gave an array and said how many entries it has.

* `channels_seen`, `sets_seen` — what each loop has reported, filled in and accessed.
* `takes_iff` — how many entries of the matrix are filled in.
* `ChannelsFit.lists_inside` — a list that fits is read inside the vendor data.
* `listReplies_bounded_iff` — when exactly the count fits the array and the entries in it, and
  nothing else is accessed.
-/

namespace Sloane.WifiHal

open Sloane.Lib

def WIFI_ATTRIBUTE_NUM_CHANNELS : Nat := 2
def WIFI_ATTRIBUTE_CHANNEL_LIST : Nat := 3
def WIFI_ATTRIBUTE_NUM_FEATURE_SET : Nat := 4
def WIFI_ATTRIBUTE_FEATURE_SET : Nat := 5

/-! ## The handlers -/

/-- An access to the payload of an attribute, or to an array: from which byte on, how many bytes,
and how many there are. -/
structure Access where
  start : Nat
  bytes : Nat
  room : Nat
  deriving DecidableEq, Repr

def Access.Inside (x : Access) : Prop := x.bytes = 0 ∨ x.start + x.bytes ≤ x.room

instance (x : Access) : Decidable x.Inside := inferInstanceAs (Decidable (_ ∨ _))

inductive NlAction where
  | ok
  | skip
  deriving DecidableEq, Repr

/-- What is returned, the count that was last written for the caller, the entries of the array
that were written, and the accesses made. -/
structure ListReply where
  action : NlAction
  reported : Option Int
  out : Nat → Option Int
  accesses : List Access

def ListReply.none (action : NlAction) : ListReply := ⟨action, .none, fun _ => .none, []⟩

/-- `get_u32` of an attribute. -/
def u32Access (a : NlAttr) : Access := ⟨0, 4, a.len⟩

/-! ### Channels -/

/-- A count that is more than the caller has room for is cut down. -/
def clampChannels (mMaxChannels num : Int) : Int :=
  if num > mMaxChannels then mMaxChannels else num

/-- `sizeof(wifi_channel) * num_channels`, computed as a `size_t` of `w` bits. -/
def channelBytes (w : Nat) (numChannels : Int) : Nat := (4 * numChannels % 2 ^ w).toNat

/-- `memcpy(mChannels, it.get_data(), sizeof(wifi_channel) * num_channels)`. -/
def copyChannels (w : Nat) (mMaxChannels : Int) (m : Mem UInt8) (numChannels : Int) (a : NlAttr)
    (r : ListReply) : ListReply where
  action := r.action
  reported := r.reported
  out := fun i =>
    if i < channelBytes w numChannels / 4 then
      some (signed 32 ((u32At (a.data + 4 * i)).value m))
    else r.out i
  accesses := r.accesses ++ [⟨0, channelBytes w numChannels, a.len⟩,
    ⟨0, channelBytes w numChannels, 4 * mMaxChannels.toNat⟩]

structure ChannelLoop where
  numChannels : Int
  reply : ListReply

/-- The body of the loop. -/
def GetChannelListCommand.visit (w : Nat) (mMaxChannels : Int) (m : Mem UInt8) (s : ChannelLoop)
    (a : NlAttr) : ChannelLoop :=
  if a.type = WIFI_ATTRIBUTE_NUM_CHANNELS then
    let numChannels := clampChannels mMaxChannels (a.getInt m)
    ⟨numChannels, { s.reply with
      reported := some numChannels
      accesses := s.reply.accesses ++ [u32Access a] }⟩
  else if a.type = WIFI_ATTRIBUTE_CHANNEL_LIST ∧ s.numChannels ≠ 0 then
    { s with reply := copyChannels w mMaxChannels m s.numChannels a s.reply }
  else s

/-- `GetChannelListCommand::handleResponse`. -/
def GetChannelListCommand.handleResponse (w : Nat) (mMaxChannels : Int) (reply : WifiReply) :
    ListReply :=
  match reply.handled with
  | none => .none .skip
  | some d => ((nlIterator d.data 0 d.len).foldl
      (GetChannelListCommand.visit w mMaxChannels d.data) ⟨0, .none .ok⟩).reply

/-! ### Feature sets -/

/-- `GetFeatureSetCommand`; the pointers are there or not. -/
structure GetFeatureSetCommand where
  featureType : Nat
  fset : Bool
  featureMatrix : Bool
  fmSize : Bool
  setSizeMax : Int

/-- A count is cut down only if the caller gave a size. -/
def clampSets (setSizeMax num : Int) : Int :=
  if setSizeMax ≠ 0 ∧ num > setSizeMax then setSizeMax else num

structure MatrixLoop where
  numFeaturesSet : Int
  i : Nat
  reply : ListReply

/-- The body of the loop. -/
def GetFeatureSetCommand.visit (setSizeMax : Int) (m : Mem UInt8) (s : MatrixLoop) (a : NlAttr) :
    MatrixLoop :=
  if a.type = WIFI_ATTRIBUTE_NUM_FEATURE_SET then
    let numFeaturesSet := clampSets setSizeMax (a.getInt m)
    { s with
      numFeaturesSet := numFeaturesSet
      reply := { s.reply with
        reported := some numFeaturesSet
        accesses := s.reply.accesses ++ [u32Access a] } }
  else if a.type = WIFI_ATTRIBUTE_FEATURE_SET ∧ (s.i : Int) < s.numFeaturesSet then
    { s with
      i := s.i + 1
      reply := { s.reply with
        out := fun j => if j = s.i then some (a.getInt m) else s.reply.out j
        accesses := s.reply.accesses ++ [u32Access a, ⟨s.i, 1, setSizeMax.toNat⟩] } }
  else s

/-- `GetFeatureSetCommand::handleResponse`, with the bytes written to `*fset`. -/
def GetFeatureSetCommand.handleResponse (c : GetFeatureSetCommand) (reply : WifiReply) :
    ListReply × List UInt8 :=
  match reply.handled with
  | none => (.none .skip, [])
  | some d =>
      if c.featureType = WIFI_ATTRIBUTE_FEATURE_SET then
        if c.fset then
          let n := min d.len 4
          ({ ListReply.none .ok with accesses := [⟨0, n, d.len⟩, ⟨0, n, 4⟩] }, d.data.read 0 n)
        else (.none .skip, [])
      else if c.featureType = WIFI_ATTRIBUTE_NUM_FEATURE_SET then
        if c.featureMatrix ∧ c.fmSize then
          (((nlIterator d.data 0 d.len).foldl
            (GetFeatureSetCommand.visit c.setSizeMax d.data) ⟨0, 0, .none .ok⟩).reply, [])
        else (.none .skip, [])
      else (.none .ok, [])

/-! ## What is asked of them -/

/-- A count that is reported fits the array and is the number of entries that are written, and
nothing is accessed but attributes and arrays. -/
structure BoundedReply (capacity : Int) (r : ListReply) : Prop where
  counted : ∀ c, r.reported = some c →
    0 ≤ c ∧ c ≤ capacity ∧ ∀ i : Nat, (r.out i).isSome ↔ (i : Int) < c
  uncounted : r.reported = none → ∀ i, r.out i = none
  inside : ∀ x ∈ r.accesses, x.Inside

section

variable (countType listType : Nat) (count : NlAttr → Int)

/-- The last count in a reply. -/
def lastCount (attrs : List NlAttr) : Option Int :=
  (attrs.filter (·.type = countType)).getLast?.map count

/-- The attributes with parts of the list, each with the count that the reply gave before it; `n`
is the count before the first one. -/
def countedLists (n : Int) : List NlAttr → List (Int × NlAttr)
  | [] => []
  | a :: rest =>
      if a.type = countType then countedLists (count a) rest
      else if a.type = listType then (n, a) :: countedLists n rest
      else countedLists n rest

end

/-- The channel count of an attribute, and the lists of a reply. -/
def channelCount (capacity : Int) (d : VendorData) (a : NlAttr) : Int :=
  clampChannels capacity (a.getInt d.data)

def channelLists (capacity : Int) (d : VendorData) : List (Int × NlAttr) :=
  countedLists WIFI_ATTRIBUTE_NUM_CHANNELS WIFI_ATTRIBUTE_CHANNEL_LIST (channelCount capacity d) 0
    (nlIterator d.data 0 d.len)

/-- Counts are whole numbers of the reply, each list has as many channels as were announced before
it, and the last count is that of the longest list. -/
structure ChannelsFit (w : Nat) (capacity : Int) (d : VendorData) : Prop where
  counts : ∀ a ∈ nlIterator d.data 0 d.len, a.type = WIFI_ATTRIBUTE_NUM_CHANNELS → 4 ≤ a.len
  lists : ∀ p ∈ channelLists capacity d,
    channelBytes w p.1 ≤ p.2.len ∧ channelBytes w p.1 ≤ 4 * capacity.toNat
  last : ∀ c, lastCount WIFI_ATTRIBUTE_NUM_CHANNELS (channelCount capacity d)
      (nlIterator d.data 0 d.len) = some c →
    0 ≤ c ∧ ∀ i : Nat, (i : Int) < c ↔ ∃ p ∈ channelLists capacity d, i < channelBytes w p.1 / 4

/-- The same for feature sets, each of which is an attribute. -/
def setCount (capacity : Int) (d : VendorData) (a : NlAttr) : Int :=
  clampSets capacity (a.getInt d.data)

def setLists (capacity : Int) (d : VendorData) : List (Int × NlAttr) :=
  countedLists WIFI_ATTRIBUTE_NUM_FEATURE_SET WIFI_ATTRIBUTE_FEATURE_SET (setCount capacity d) 0
    (nlIterator d.data 0 d.len)

/-- Of the lists, `k` can be chosen so that each comes after fewer than its count. -/
def Takes (lists : List (Int × NlAttr)) (k : Nat) : Prop :=
  ∃ chosen : List (Int × NlAttr), chosen.Sublist lists ∧ chosen.length = k ∧
    ∀ (j : Nat) (p : Int × NlAttr), chosen[j]? = some p → (j : Int) < p.1

/-- Counts are whole numbers of the reply, so are the sets that come after fewer than their count,
and the last count fits and is the number of sets that can be taken. -/
structure SetsFit (capacity : Int) (d : VendorData) : Prop where
  counts : ∀ a ∈ nlIterator d.data 0 d.len, a.type = WIFI_ATTRIBUTE_NUM_FEATURE_SET → 4 ≤ a.len
  sets : ∀ before n a, before ++ [(n, a)] <+: setLists capacity d →
    ¬ Takes before n.toNat → 4 ≤ a.len
  last : ∀ c, lastCount WIFI_ATTRIBUTE_NUM_FEATURE_SET (setCount capacity d)
      (nlIterator d.data 0 d.len) = some c →
    0 ≤ c ∧ c ≤ capacity ∧ ∀ k : Nat, (k : Int) ≤ c ↔ Takes (setLists capacity d) k

/-! ## Counts and lists -/

section

variable {countType listType : Nat} {count : NlAttr → Int}

theorem lastCount_concat (attrs : List NlAttr) (a : NlAttr) :
    lastCount countType count (attrs ++ [a]) =
      if a.type = countType then some (count a) else lastCount countType count attrs := by
  unfold lastCount
  by_cases htype : a.type = countType <;> simp [htype]

theorem lastCount_concat_of_ne (count : NlAttr → Int) (attrs : List NlAttr) {a : NlAttr}
    (h : a.type ≠ countType) :
    lastCount countType count (attrs ++ [a]) = lastCount countType count attrs := by
  rw [lastCount_concat, if_neg h]

/-- An attribute of another type has nothing to do with the lengths of the counts. -/
theorem counts_concat_of_ne (attrs : List NlAttr) {a : NlAttr} (h : a.type ≠ countType) :
    (∀ b ∈ attrs ++ [a], b.type = countType → 4 ≤ b.len) ↔
      ∀ b ∈ attrs, b.type = countType → 4 ≤ b.len := by
  rw [List.forall_mem_append, List.forall_mem_singleton]
  exact and_iff_left fun heq => absurd heq h

/-- A count has to be long enough for `get_u32`. -/
theorem counts_concat (attrs : List NlAttr) {a : NlAttr} (h : a.type = countType) :
    (∀ b ∈ attrs ++ [a], b.type = countType → 4 ≤ b.len) ↔
      (∀ b ∈ attrs, b.type = countType → 4 ≤ b.len) ∧ 4 ≤ a.len := by
  rw [List.forall_mem_append, List.forall_mem_singleton, forall_prop_of_true h]

/-- One more attribute. -/
theorem countedLists_concat (n : Int) (attrs : List NlAttr) (a : NlAttr) :
    countedLists countType listType count n (attrs ++ [a]) =
      countedLists countType listType count n attrs ++
        if a.type ≠ countType ∧ a.type = listType then
          [((lastCount countType count attrs).getD n, a)]
        else [] := by
  induction attrs generalizing n with
  | nil =>
    by_cases hcount : a.type = countType <;> by_cases hlist : a.type = listType <;>
      simp_all [countedLists, lastCount]
  | cons b rest ih =>
    have hlast : b.type ≠ countType →
        lastCount countType count (b :: rest) = lastCount countType count rest := by
      intro hcount
      simp [lastCount, hcount]
    by_cases hcount : b.type = countType
    · have hlast' : (lastCount countType count (b :: rest)).getD n =
          (lastCount countType count rest).getD (count b) := by
        simp only [lastCount, List.filter_cons, hcount, decide_true, if_true,
          List.getLast?_cons, Option.map_some, Option.getD_some]
        cases (rest.filter fun x => decide (x.type = countType)).getLast? <;> rfl
      simp only [List.cons_append, countedLists, if_pos hcount, ih, hlast']
    · by_cases hlist : b.type = listType
      · simp only [List.cons_append, countedLists, if_neg hcount, if_pos hlist, ih, hlast hcount]
      · simp only [List.cons_append, countedLists, if_neg hcount, if_neg hlist, ih, hlast hcount]

end

/-! ## The loop over channels -/

section Channels

variable {w : Nat} {capacity : Int} {d : VendorData}

/-- What the loop has done with some attributes. -/
structure ChannelsSeen (w : Nat) (capacity : Int) (d : VendorData) (attrs : List NlAttr)
    (lists : List (Int × NlAttr)) (s : ChannelLoop) : Prop where
  num : s.numChannels =
    (lastCount WIFI_ATTRIBUTE_NUM_CHANNELS (channelCount capacity d) attrs).getD 0
  reported : s.reply.reported =
    lastCount WIFI_ATTRIBUTE_NUM_CHANNELS (channelCount capacity d) attrs
  filled : ∀ i, (s.reply.out i).isSome ↔ ∃ p ∈ lists, i < channelBytes w p.1 / 4
  inside : (∀ x ∈ s.reply.accesses, x.Inside) ↔
    (∀ a ∈ attrs, a.type = WIFI_ATTRIBUTE_NUM_CHANNELS → 4 ≤ a.len) ∧
      ∀ p ∈ lists, channelBytes w p.1 ≤ p.2.len ∧ channelBytes w p.1 ≤ 4 * capacity.toNat

theorem u32Access_inside {a : NlAttr} : (u32Access a).Inside ↔ 4 ≤ a.len := by
  simp [u32Access, Access.Inside]

theorem copyChannels_inside {m : Mem UInt8} {n : Int} {a : NlAttr} {r : ListReply} :
    (∀ x ∈ (copyChannels w capacity m n a r).accesses, x.Inside) ↔
      (∀ x ∈ r.accesses, x.Inside) ∧
        (channelBytes w n ≤ a.len ∧ channelBytes w n ≤ 4 * capacity.toNat) := by
  have hroom : ∀ bytes room : Nat, (bytes = 0 ∨ 0 + bytes ≤ room) ↔ bytes ≤ room := by omega
  simp only [copyChannels, List.forall_mem_append, List.mem_cons, List.not_mem_nil, or_false,
    forall_eq_or_imp, forall_eq, Access.Inside, hroom]

@[simp] theorem channelBytes_zero : channelBytes w 0 = 0 := by
  simp [channelBytes]

/-- Nothing has been done with no attributes. -/
theorem ChannelsSeen.nil : ChannelsSeen w capacity d [] [] ⟨0, .none .ok⟩ where
  num := rfl
  reported := rfl
  filled := fun i => by simp [ListReply.none]
  inside := by simp [ListReply.none]

/-- One more attribute. -/
theorem ChannelsSeen.visit {attrs : List NlAttr} {s : ChannelLoop}
    (h : ChannelsSeen w capacity d attrs (countedLists WIFI_ATTRIBUTE_NUM_CHANNELS
      WIFI_ATTRIBUTE_CHANNEL_LIST (channelCount capacity d) 0 attrs) s) (a : NlAttr) :
    ChannelsSeen w capacity d (attrs ++ [a]) (countedLists WIFI_ATTRIBUTE_NUM_CHANNELS
      WIFI_ATTRIBUTE_CHANNEL_LIST (channelCount capacity d) 0 (attrs ++ [a]))
      (GetChannelListCommand.visit w capacity d.data s a) := by
  obtain ⟨hnum, hreported, hfilled, hinside⟩ := h
  rw [countedLists_concat]
  unfold GetChannelListCommand.visit
  by_cases hcount : a.type = WIFI_ATTRIBUTE_NUM_CHANNELS
  · rw [if_pos hcount, if_neg (fun h => h.1 hcount), List.append_nil]
    refine ⟨?_, ?_, hfilled, ?_⟩
    · rw [lastCount_concat, if_pos hcount]
      rfl
    · rw [lastCount_concat, if_pos hcount]
      rfl
    · rw [counts_concat attrs hcount, List.forall_mem_append, List.forall_mem_singleton, hinside,
        u32Access_inside, and_right_comm]
  have hlast := lastCount_concat_of_ne (channelCount capacity d) attrs hcount
  have hcounts := counts_concat_of_ne attrs hcount
  rw [if_neg hcount]
  by_cases hlist : a.type = WIFI_ATTRIBUTE_CHANNEL_LIST
  · rw [if_pos ⟨hcount, hlist⟩, ← hnum]
    by_cases hzero : s.numChannels = 0
    · -- a list without a count is passed over, as if it were of no channels
      rw [if_neg (fun h => h.2 hzero), hzero]
      refine ⟨hlast ▸ hnum, hlast ▸ hreported, fun i => ?_, ?_⟩
      · simp [hfilled]
      · rw [hcounts, hinside]
        simp only [List.forall_mem_append, List.forall_mem_singleton, channelBytes_zero,
          Nat.zero_le, and_true]
    · rw [if_pos ⟨hlist, hzero⟩]
      refine ⟨hlast ▸ hnum, hlast ▸ hreported, fun i => ?_, ?_⟩
      · by_cases hi : i < channelBytes w s.numChannels / 4
        · exact iff_of_true (by simp [copyChannels, hi]) ⟨(s.numChannels, a), by simp, hi⟩
        · simp only [copyChannels, if_neg hi, hfilled, List.mem_append, List.mem_singleton,
            or_and_right, exists_or, exists_eq_left]
          exact (or_iff_left hi).symm
      · rw [hcounts, copyChannels_inside, hinside, List.forall_mem_append,
          List.forall_mem_singleton, and_assoc]
  · rw [if_neg (not_and_of_not_left _ hlist), if_neg (not_and_of_not_right _ hlist),
      List.append_nil]
    exact ⟨hlast ▸ hnum, hlast ▸ hreported, hfilled, hinside.trans (and_congr_left' hcounts.symm)⟩

/-- **What the loop does with a reply.** -/
theorem channels_seen (w : Nat) (capacity : Int) (d : VendorData) (attrs : List NlAttr) :
    ChannelsSeen w capacity d attrs (countedLists WIFI_ATTRIBUTE_NUM_CHANNELS
      WIFI_ATTRIBUTE_CHANNEL_LIST (channelCount capacity d) 0 attrs)
      (attrs.foldl (GetChannelListCommand.visit w capacity d.data) ⟨0, .none .ok⟩) := by
  induction attrs using List.reverseRecOn with
  | nil => exact .nil
  | append_singleton attrs a ih =>
    rw [List.foldl_append]
    exact ih.visit a

end Channels

/-! ## The loop over feature sets -/

section Sets

variable {capacity : Int} {d : VendorData}

/-- How many of the lists are taken, each if fewer than its count were taken before. -/
def takenSets (lists : List (Int × NlAttr)) : Nat :=
  lists.foldl (fun i p => if (i : Int) < p.1 then i + 1 else i) 0

theorem takenSets_concat (lists : List (Int × NlAttr)) (p : Int × NlAttr) :
    takenSets (lists ++ [p]) =
      if (takenSets lists : Int) < p.1 then takenSets lists + 1 else takenSets lists := by
  unfold takenSets
  rw [List.foldl_append]
  rfl

theorem takes_zero (lists : List (Int × NlAttr)) : Takes lists 0 :=
  ⟨[], List.nil_sublist lists, rfl, nofun⟩

/-- The last list is chosen or not. -/
theorem takes_concat {lists : List (Int × NlAttr)} {p : Int × NlAttr} {k : Nat} :
    Takes (lists ++ [p]) (k + 1) ↔ Takes lists (k + 1) ∨ (Takes lists k ∧ (k : Int) < p.1) := by
  constructor
  · rintro ⟨chosen, hsub, hlen, hcount⟩
    obtain ⟨before, last, rfl, hbefore, hlast⟩ := List.sublist_append_iff.mp hsub
    obtain rfl | rfl := List.sublist_singleton.mp hlast
    · rw [List.append_nil] at hlen hcount
      exact .inl ⟨before, hbefore, hlen, hcount⟩
    · obtain rfl : before.length = k := by simpa using hlen
      refine .inr ⟨⟨before, hbefore, rfl, fun j q hj => ?_⟩, ?_⟩
      · obtain ⟨hlt, -⟩ := List.getElem?_eq_some_iff.mp hj
        exact hcount j q (by rwa [List.getElem?_append_left hlt])
      · exact hcount before.length p List.getElem?_concat_length
  · rintro (⟨chosen, hsub, hlen, hcount⟩ | ⟨⟨before, hsub, rfl, hcount⟩, hlt⟩)
    · exact ⟨chosen, hsub.trans (List.sublist_append_left _ _), hlen, hcount⟩
    · refine ⟨before ++ [p], hsub.append (List.Sublist.refl _), by simp, fun j q hj => ?_⟩
      rcases Nat.lt_or_ge j before.length with hj' | hj'
      · exact hcount j q (by rwa [List.getElem?_append_left hj'] at hj)
      · obtain ⟨hle, -⟩ := List.getElem?_eq_some_iff.mp hj
        obtain rfl : j = before.length := by
          rw [List.length_append, List.length_singleton] at hle
          omega
        rw [List.getElem?_concat_length] at hj
        rwa [← Option.some.inj hj]

/-- **Taking whatever can be taken is best.** -/
theorem takes_iff {lists : List (Int × NlAttr)} {k : Nat} :
    Takes lists k ↔ k ≤ takenSets lists := by
  induction lists using List.reverseRecOn generalizing k with
  | nil =>
    constructor
    · rintro ⟨chosen, hsub, rfl, -⟩
      exact hsub.length_le
    · intro hle
      obtain rfl : k = 0 := Nat.le_zero.mp hle
      exact takes_zero []
  | append_singleton lists p ih =>
    cases k with
    | zero => exact iff_of_true (takes_zero _) (Nat.zero_le _)
    | succ k =>
      rw [takes_concat, ih, ih, takenSets_concat]
      split <;> omega

/-- More lists, more taken. -/
theorem takenSets_le {before lists : List (Int × NlAttr)} (h : before <+: lists) :
    takenSets before ≤ takenSets lists := by
  obtain ⟨chosen, hsub, hlen, hcount⟩ := takes_iff.mpr (Nat.le_refl (takenSets before))
  exact takes_iff.mp ⟨chosen, hsub.trans h.sublist, hlen, hcount⟩

/-- What holds of every list, with those before it, holds of the last one too. -/
theorem forall_prefix_concat {lists : List (Int × NlAttr)} {n : Int} {a : NlAttr}
    {P : List (Int × NlAttr) → Int → NlAttr → Prop} :
    (∀ before k b, before ++ [(k, b)] <+: lists ++ [(n, a)] → P before k b) ↔
      (∀ before k b, before ++ [(k, b)] <+: lists → P before k b) ∧ P lists n a := by
  constructor
  · intro hall
    exact ⟨fun before k b hb => hall before k b (hb.trans (List.prefix_append _ _)),
      hall lists n a (List.prefix_refl _)⟩
  · rintro ⟨hall, hlast⟩ before k b hb
    obtain heq | hb' := List.prefix_concat_iff.mp hb
    · obtain ⟨rfl, hpair⟩ := List.append_inj' heq rfl
      obtain ⟨rfl, rfl⟩ := Prod.mk.inj (List.singleton_inj.mp hpair)
      exact hlast
    · exact hall before k b hb'

/-- What the loop has done with some attributes. -/
structure SetsSeen (capacity : Int) (d : VendorData) (attrs : List NlAttr)
    (lists : List (Int × NlAttr)) (s : MatrixLoop) : Prop where
  num : s.numFeaturesSet =
    (lastCount WIFI_ATTRIBUTE_NUM_FEATURE_SET (setCount capacity d) attrs).getD 0
  taken : s.i = takenSets lists
  reported : s.reply.reported =
    lastCount WIFI_ATTRIBUTE_NUM_FEATURE_SET (setCount capacity d) attrs
  filled : ∀ i, (s.reply.out i).isSome ↔ i < s.i
  inside : (∀ x ∈ s.reply.accesses, x.Inside) ↔
    (∀ a ∈ attrs, a.type = WIFI_ATTRIBUTE_NUM_FEATURE_SET → 4 ≤ a.len) ∧
      ∀ before n a, before ++ [(n, a)] <+: lists → (takenSets before : Int) < n →
        4 ≤ a.len ∧ takenSets before < capacity.toNat

/-- Nothing has been done with no attributes. -/
theorem SetsSeen.nil : SetsSeen capacity d [] [] ⟨0, 0, .none .ok⟩ where
  num := rfl
  taken := rfl
  reported := rfl
  filled := fun i => by simp [ListReply.none]
  inside := by simp [ListReply.none]

/-- One more attribute. -/
theorem SetsSeen.visit {attrs : List NlAttr} {s : MatrixLoop}
    (h : SetsSeen capacity d attrs (countedLists WIFI_ATTRIBUTE_NUM_FEATURE_SET
      WIFI_ATTRIBUTE_FEATURE_SET (setCount capacity d) 0 attrs) s) (a : NlAttr) :
    SetsSeen capacity d (attrs ++ [a]) (countedLists WIFI_ATTRIBUTE_NUM_FEATURE_SET
      WIFI_ATTRIBUTE_FEATURE_SET (setCount capacity d) 0 (attrs ++ [a]))
      (GetFeatureSetCommand.visit capacity d.data s a) := by
  obtain ⟨hnum, htaken, hreported, hfilled, hinside⟩ := h
  rw [countedLists_concat]
  generalize countedLists WIFI_ATTRIBUTE_NUM_FEATURE_SET WIFI_ATTRIBUTE_FEATURE_SET
    (setCount capacity d) 0 attrs = lists at *
  unfold GetFeatureSetCommand.visit
  by_cases hcount : a.type = WIFI_ATTRIBUTE_NUM_FEATURE_SET
  · rw [if_pos hcount, if_neg (fun h => h.1 hcount), List.append_nil]
    refine ⟨?_, htaken, ?_, hfilled, ?_⟩
    · rw [lastCount_concat, if_pos hcount]
      rfl
    · rw [lastCount_concat, if_pos hcount]
      rfl
    · rw [counts_concat attrs hcount, List.forall_mem_append, List.forall_mem_singleton, hinside,
        u32Access_inside, and_right_comm]
  have hlast := lastCount_concat_of_ne (setCount capacity d) attrs hcount
  have hcounts := counts_concat_of_ne attrs hcount
  rw [if_neg hcount]
  by_cases hlist : a.type = WIFI_ATTRIBUTE_FEATURE_SET
  · rw [if_pos ⟨hcount, hlist⟩, ← hnum]
    have hnext : takenSets (lists ++ [(s.numFeaturesSet, a)]) =
        if (s.i : Int) < s.numFeaturesSet then s.i + 1 else s.i := by
      rw [takenSets_concat, ← htaken]
    have hinit : (∀ before n b, before ++ [(n, b)] <+: lists ++ [(s.numFeaturesSet, a)] →
          (takenSets before : Int) < n → 4 ≤ b.len ∧ takenSets before < capacity.toNat) ↔
        (∀ before n b, before ++ [(n, b)] <+: lists → (takenSets before : Int) < n →
          4 ≤ b.len ∧ takenSets before < capacity.toNat) ∧
        ((s.i : Int) < s.numFeaturesSet → 4 ≤ a.len ∧ s.i < capacity.toNat) := by
      rw [htaken]
      exact forall_prefix_concat
    by_cases hroom : (s.i : Int) < s.numFeaturesSet
    · rw [if_pos ⟨hlist, hroom⟩]
      refine ⟨hlast ▸ hnum, ?_, hlast ▸ hreported, fun i => ?_, ?_⟩
      · rw [hnext, if_pos hroom]
      · by_cases hi : i = s.i
        · exact iff_of_true (by simp [hi]) (Nat.lt_succ_of_le (Nat.le_of_eq hi))
        · simp only [if_neg hi, hfilled]
          omega
      · have hentry : (⟨s.i, 1, capacity.toNat⟩ : Access).Inside ↔ s.i < capacity.toNat := by
          simp only [Access.Inside]
          omega
        rw [hcounts, hinit, forall_prop_of_true hroom]
        simp only [List.forall_mem_append, List.mem_cons, List.not_mem_nil, or_false,
          forall_eq_or_imp, forall_eq, hinside, u32Access_inside, hentry, and_assoc]
    · rw [if_neg (not_and_of_not_right _ hroom)]
      refine ⟨hlast ▸ hnum, ?_, hlast ▸ hreported, hfilled, ?_⟩
      · rw [hnext, if_neg hroom, htaken]
      · rw [hcounts, hinit, hinside]
        exact and_congr_right' (and_iff_left fun h => absurd h hroom).symm
  · rw [if_neg (not_and_of_not_left _ hlist), if_neg (not_and_of_not_right _ hlist),
      List.append_nil]
    exact ⟨hlast ▸ hnum, htaken, hlast ▸ hreported, hfilled,
      hinside.trans (and_congr_left' hcounts.symm)⟩

/-- **What the loop does with a reply.** -/
theorem sets_seen (capacity : Int) (d : VendorData) (attrs : List NlAttr) :
    SetsSeen capacity d attrs (countedLists WIFI_ATTRIBUTE_NUM_FEATURE_SET
      WIFI_ATTRIBUTE_FEATURE_SET (setCount capacity d) 0 attrs)
      (attrs.foldl (GetFeatureSetCommand.visit capacity d.data) ⟨0, 0, .none .ok⟩) := by
  induction attrs using List.reverseRecOn with
  | nil => exact .nil
  | append_singleton attrs a ih =>
    rw [List.foldl_append]
    exact ih.visit a

end Sets

/-! ## When the replies are bounded -/

/-- Lists are attributes of the reply. -/
theorem countedLists_mem {countType listType : Nat} {count : NlAttr → Int} {n : Int}
    {attrs : List NlAttr} : ∀ p ∈ countedLists countType listType count n attrs, p.2 ∈ attrs := by
  induction attrs using List.reverseRecOn with
  | nil => nofun
  | append_singleton attrs a ih =>
    rw [countedLists_concat, List.forall_mem_append]
    refine ⟨fun p hp => List.mem_append_left _ (ih p hp), fun p hp => ?_⟩
    split at hp
    · rw [List.mem_singleton.mp hp]
      exact List.mem_append_right _ (List.mem_singleton_self a)
    · cases hp

/-- With bounded channels, what is read of a list is in the vendor data. -/
theorem ChannelsFit.lists_inside {w : Nat} {capacity : Int} {d : VendorData}
    (h : ChannelsFit w capacity d) :
    ∀ p ∈ channelLists capacity d, p.2.data + channelBytes w p.1 ≤ d.len := by
  intro p hp
  obtain ⟨-, hend⟩ := nlIterator_inside (countedLists_mem p hp)
  have hlist := (h.lists p hp).1
  omega

/-- Nothing reported, nothing done. -/
theorem boundedReply_none (capacity : Int) (action : NlAction) :
    BoundedReply capacity (.none action) :=
  ⟨nofun, fun _ _ => rfl, nofun⟩

section

variable {countType listType : Nat} {count : NlAttr → Int}

/-- Without a count, every list comes with the first one. -/
theorem countedLists_of_none {n : Int} {attrs : List NlAttr}
    (h : lastCount countType count attrs = none) :
    ∀ p ∈ countedLists countType listType count n attrs, p.1 = n := by
  induction attrs using List.reverseRecOn with
  | nil => nofun
  | append_singleton attrs a ih =>
    rw [lastCount_concat] at h
    by_cases hcount : a.type = countType
    · rw [if_pos hcount] at h
      cases h
    · rw [if_neg hcount] at h
      rw [countedLists_concat, h, List.forall_mem_append]
      refine ⟨ih h, fun p hp => ?_⟩
      split at hp
      · rw [List.mem_singleton.mp hp]
        rfl
      · cases hp

end

/-- The last count of channels has been cut down. -/
theorem lastCount_le {capacity c : Int} {d : VendorData} {attrs : List NlAttr}
    (h : lastCount WIFI_ATTRIBUTE_NUM_CHANNELS (channelCount capacity d) attrs = some c) :
    c ≤ capacity := by
  obtain ⟨a, -, rfl⟩ := Option.map_eq_some_iff.mp h
  unfold channelCount clampChannels
  split <;> omega

/-- **When a channel list is bounded.** -/
theorem channelList_bounded_iff (w : Nat) (capacity : Int) (reply : WifiReply) :
    BoundedReply capacity (GetChannelListCommand.handleResponse w capacity reply) ↔
      ∀ d ∈ reply.handled, ChannelsFit w capacity d := by
  unfold GetChannelListCommand.handleResponse
  cases hhandled : reply.handled with
  | none => exact iff_of_true (boundedReply_none _ _) nofun
  | some d =>
    obtain ⟨-, hreported, hfilled, hinside⟩ :=
      channels_seen w capacity d (nlIterator d.data 0 d.len)
    simp only [Option.mem_some, forall_eq']
    constructor
    · intro h
      obtain ⟨hcounts, hlists⟩ := hinside.mp h.inside
      refine ⟨hcounts, hlists, fun c hc => ?_⟩
      obtain ⟨hpos, -, hentries⟩ := h.counted c (hreported.trans hc)
      exact ⟨hpos, fun i => (hentries i).symm.trans (hfilled i)⟩
    · intro h
      refine ⟨fun c hc => ?_, fun hnone i => ?_, hinside.mpr ⟨h.counts, h.lists⟩⟩
      · obtain ⟨hpos, hentries⟩ := h.last c (hreported.symm.trans hc)
        exact ⟨hpos, lastCount_le (hreported.symm.trans hc),
          fun i => (hfilled i).trans (hentries i).symm⟩
      · rw [← Option.not_isSome_iff_eq_none, hfilled]
        rintro ⟨p, hp, hi⟩
        rw [countedLists_of_none (hreported.symm.trans hnone) p hp, channelBytes_zero] at hi
        exact absurd hi (Nat.not_lt_zero i)

/-- Without counts nothing is taken. -/
theorem takenSets_of_zero {lists : List (Int × NlAttr)} (h : ∀ p ∈ lists, p.1 = 0) :
    takenSets lists = 0 := by
  induction lists using List.reverseRecOn with
  | nil => rfl
  | append_singleton lists p ih =>
    rw [List.forall_mem_append, List.forall_mem_singleton] at h
    rw [takenSets_concat, ih h.1, h.2]
    rfl

/-- **When a feature matrix is bounded.** -/
theorem matrix_bounded_iff (capacity : Int) (d : VendorData) :
    BoundedReply capacity ((nlIterator d.data 0 d.len).foldl
        (GetFeatureSetCommand.visit capacity d.data) ⟨0, 0, .none .ok⟩).reply ↔
      SetsFit capacity d := by
  obtain ⟨-, htaken, hreported, hfilled, hinside⟩ :=
    sets_seen capacity d (nlIterator d.data 0 d.len)
  have hfew : ∀ (before : List (Int × NlAttr)) (n : Int),
      (takenSets before : Int) < n ↔ ¬ Takes before n.toNat := by
    intro before n
    rw [takes_iff]
    omega
  -- as many entries as are taken in the end
  have hentries : ∀ c : Int, 0 ≤ c →
      ((∀ i : Nat, i < takenSets (setLists capacity d) ↔ (i : Int) < c) ↔
        ∀ k : Nat, (k : Int) ≤ c ↔ Takes (setLists capacity d) k) := by
    intro c hpos
    simp only [takes_iff]
    constructor
    · intro hall k
      have hlast := hall (takenSets (setLists capacity d))
      have hbefore := hall (takenSets (setLists capacity d) - 1)
      omega
    · intro hall i
      have hlast := hall (i + 1)
      omega
  constructor
  · intro h
    obtain ⟨hcounts, hsets⟩ := hinside.mp h.inside
    refine ⟨hcounts, fun before n a hinit hfree => ?_, fun c hc => ?_⟩
    · exact (hsets before n a hinit ((hfew before n).mpr hfree)).1
    · obtain ⟨hpos, hle, hout⟩ := h.counted c (hreported.trans hc)
      refine ⟨hpos, hle, (hentries c hpos).mp fun i => ?_⟩
      rw [← hout, hfilled, htaken]
      rfl
  · intro h
    refine ⟨fun c hc => ?_, fun hnone i => ?_,
      hinside.mpr ⟨h.counts, fun before n a hinit hlt => ?_⟩⟩
    · obtain ⟨hpos, hle, htakes⟩ := h.last c (hreported.symm.trans hc)
      refine ⟨hpos, hle, fun i => ?_⟩
      rw [hfilled, htaken]
      exact (hentries c hpos).mpr htakes i
    · rw [← Option.not_isSome_iff_eq_none, hfilled, htaken,
        takenSets_of_zero (countedLists_of_none (hreported.symm.trans hnone))]
      exact Nat.not_lt_zero i
    · refine ⟨h.sets before n a hinit ((hfew before n).mp hlt), ?_⟩
      cases hlast : lastCount WIFI_ATTRIBUTE_NUM_FEATURE_SET (setCount capacity d)
          (nlIterator d.data 0 d.len) with
      | none =>
        have hzero : n = 0 := countedLists_of_none hlast (n, a) (hinit.subset (by simp))
        omega
      | some c =>
        obtain ⟨hpos, hle, htakes⟩ := h.last c hlast
        have hthis := takenSets_le hinit
        have hall := (htakes (takenSets (setLists capacity d))).mpr
          (takes_iff.mpr (Nat.le_refl _))
        rw [takenSets_concat, if_pos hlt] at hthis
        change takenSets before + 1 ≤ takenSets (setLists capacity d) at hthis
        omega

/-- The command asks for the matrix, and has somewhere to put it. -/
def GetFeatureSetCommand.ForMatrix (c : GetFeatureSetCommand) : Prop :=
  c.featureType = WIFI_ATTRIBUTE_NUM_FEATURE_SET ∧ c.featureMatrix ∧ c.fmSize

/-- **When a reply with feature sets is bounded.** -/
theorem featureSets_bounded_iff (c : GetFeatureSetCommand) (reply : WifiReply) :
    BoundedReply c.setSizeMax (c.handleResponse reply).1 ↔
      (c.ForMatrix → ∀ d ∈ reply.handled, SetsFit c.setSizeMax d) := by
  unfold GetFeatureSetCommand.handleResponse GetFeatureSetCommand.ForMatrix
  cases hhandled : reply.handled with
  | none => exact iff_of_true (boundedReply_none _ _) fun _ => nofun
  | some d =>
    simp only [Option.mem_some, forall_eq']
    by_cases hset : c.featureType = WIFI_ATTRIBUTE_FEATURE_SET
    · have hnot : ¬ (c.featureType = WIFI_ATTRIBUTE_NUM_FEATURE_SET ∧ c.featureMatrix ∧ c.fmSize) :=
        fun h => absurd (hset.symm.trans h.1) (by decide)
      refine iff_of_true ?_ fun h => absurd h hnot
      rw [if_pos hset]
      split
      · refine ⟨nofun, fun _ _ => rfl, ?_⟩
        simp only [List.mem_cons, List.not_mem_nil, or_false, forall_eq_or_imp, forall_eq,
          Access.Inside]
        omega
      · exact boundedReply_none _ _
    rw [if_neg hset]
    by_cases hmatrix : c.featureType = WIFI_ATTRIBUTE_NUM_FEATURE_SET
    · rw [if_pos hmatrix]
      by_cases hptrs : c.featureMatrix ∧ c.fmSize
      · rw [if_pos hptrs, forall_prop_of_true ⟨hmatrix, hptrs⟩]
        exact matrix_bounded_iff c.setSizeMax d
      · rw [if_neg hptrs]
        exact iff_of_true (boundedReply_none _ _) fun h => absurd h.2 hptrs
    · rw [if_neg hmatrix]
      exact iff_of_true (boundedReply_none _ _) fun h => absurd h.1 hmatrix

/-- **When exactly the replies are bounded.** -/
theorem listReplies_bounded_iff (w : Nat) (capacity : Int) (c : GetFeatureSetCommand)
    (reply : WifiReply) :
    (BoundedReply capacity (GetChannelListCommand.handleResponse w capacity reply) ↔
      ∀ d ∈ reply.handled, ChannelsFit w capacity d) ∧
    (BoundedReply c.setSizeMax (c.handleResponse reply).1 ↔
      (c.ForMatrix → ∀ d ∈ reply.handled, SetsFit c.setSizeMax d)) :=
  ⟨channelList_bounded_iff w capacity reply, featureSets_bounded_iff c reply⟩

/-- Eight channels are announced, and one follows. -/
def shortChannelList : WifiReply :=
  ⟨NL80211_CMD_VENDOR, some (.ofBytes [8, 0, 2, 0, 8, 0, 0, 0, 8, 0, 3, 0, 0x6c, 0x09, 0, 0])⟩

/-- One feature set. -/
def oneFeatureSet : WifiReply :=
  ⟨NL80211_CMD_VENDOR, some (.ofBytes [8, 0, 4, 0, 1, 0, 0, 0, 8, 0, 5, 0, 1, 0, 0, 0])⟩

/-- A list that is shorter than announced, and an array without entries. -/
theorem not_listReplies_bounded :
    (¬ ∀ (w : Nat) (capacity : Int) (reply : WifiReply),
      BoundedReply capacity (GetChannelListCommand.handleResponse w capacity reply)) ∧
    ¬ ∀ (c : GetFeatureSetCommand) (reply : WifiReply),
      BoundedReply c.setSizeMax (c.handleResponse reply).1 := by
  constructor
  · intro hall
    have h := (hall 64 8 shortChannelList).inside ⟨0, 32, 4⟩ (by decide)
    exact absurd h (by decide)
  · intro hall
    have h := (hall ⟨WIFI_ATTRIBUTE_NUM_FEATURE_SET, false, true, true, 0⟩ oneFeatureSet).inside
      ⟨0, 1, 0⟩ (by decide)
    exact absurd h (by decide)

end Sloane.WifiHal
