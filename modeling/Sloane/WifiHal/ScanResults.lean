import Mathlib.Data.List.Infix
import Sloane.WifiHal.NlIterator

/-!
# Cached scan results

Model of `GetScanResultsCommand::execute` and its `handleResponse` (`gscan.cpp`).  The scans that
the caller has room for are asked for in at most ten requests; the replies to one request may have
any number of scans, each nested in an attribute of its own.  `sizeof(wifi_scan_result)` and
`MAX_AP_CACHE_PER_SCAN` are parameters.

* `handleResponse_inv` — what is stored after some replies: the first scans that they offer.
* `executeLoop_rounds` — which requests are made.
* `retrievedSafely_iff` — when exactly everything stays in bounds.
-/

namespace Sloane.WifiHal

open Sloane.Lib

def GSCAN_ATTRIBUTE_SCAN_RESULTS_COMPLETE : Nat := 21
def GSCAN_ATTRIBUTE_NUM_OF_RESULTS : Nat := 30
def GSCAN_ATTRIBUTE_SCAN_RESULTS : Nat := 32
def GSCAN_ATTRIBUTE_SCAN_ID : Nat := 33
def GSCAN_ATTRIBUTE_SCAN_FLAGS : Nat := 34
def GSCAN_ATTRIBUTE_CH_BUCKET_BITMASK : Nat := 36

/-! ## Replies -/

/-- `wifi_cached_scan_results`, with the entries of `results` that are written. -/
structure CachedScanResults where
  scanId : Int
  flags : Int
  bucketsScanned : Int
  numResults : Int
  results : List WifiScanResult

/-- An entry of `mScans` that is written: its index, and the attribute that the records are from. -/
structure StoredScan where
  index : Nat
  scan : CachedScanResults
  source : NlAttr

/-- What stays the same in a command, with the two numbers of other headers. -/
structure GetScanResultsCommand where
  mMax : Int
  mFlush : UInt8
  scanResultSize : Nat
  maxApCachePerScan : Nat

/-- What changes, with all the values that `mRetrieved` has had. -/
structure ScanRetrieval where
  mRetrieved : Nat
  mCompleted : Nat
  stored : List StoredScan
  values : List Nat

def ScanRetrieval.new : ScanRetrieval := ⟨0, 0, [], [0]⟩

/-- The entry at `mRetrieved` is written, and `mRetrieved` counts it. -/
def ScanRetrieval.store (s : ScanRetrieval) (scan : CachedScanResults) (source : NlAttr) :
    ScanRetrieval :=
  { s with
    mRetrieved := s.mRetrieved + 1
    stored := s.stored ++ [⟨s.mRetrieved, scan, source⟩]
    values := s.values ++ [s.mRetrieved + 1] }

/-- A record of the driver as it is copied to `mScanResults[i]`. -/
def copyRecord (result : Nat) : Reads UInt8 WifiScanResult := do
  let copied ← convertToHalResult result
  let ieLength ← u32At (result + GscanResult.ieLength)
  return { copied with ieLength }

/-- The local variables of a nest. -/
structure NestVars where
  scanId : Int
  flags : Int
  num : Int
  scanChBucketMask : Int

def NestVars.new : NestVars := ⟨0, 0, 0, 0⟩

/-- The scan that an attribute with records is stored as. -/
def cachedScan (m : Mem UInt8) (v : NestVars) (num : Int) (a : NlAttr) : CachedScanResults where
  scanId := v.scanId
  flags := v.flags
  bucketsScanned := v.scanChBucketMask
  numResults := num
  results :=
    (Reads.collect (fun i => copyRecord (a.data + i * GscanResult.size)) 0 num.toNat).value m

namespace GetScanResultsCommand

variable (c : GetScanResultsCommand)

/-- The count that was announced, cut down to what the attribute and the entry have room for. -/
def clampNum (num : Int) (a : NlAttr) : Int :=
  min (min num ((a.len / c.scanResultSize : Nat) : Int)) c.maxApCachePerScan

/-- The loop over the attributes of a nest. -/
def nestLoop (m : Mem UInt8) : List NlAttr → NestVars → ScanRetrieval → ScanRetrieval
  | [], _, s => s
  | a :: rest, v, s =>
      if a.type = GSCAN_ATTRIBUTE_SCAN_ID then
        nestLoop m rest { v with scanId := a.getInt m } s
      else if a.type = GSCAN_ATTRIBUTE_SCAN_FLAGS then
        nestLoop m rest { v with flags := a.getU8 m } s
      else if a.type = GSCAN_ATTRIBUTE_NUM_OF_RESULTS then
        nestLoop m rest { v with num := a.getInt m } s
      else if a.type = GSCAN_ATTRIBUTE_CH_BUCKET_BITMASK then
        nestLoop m rest { v with scanChBucketMask := a.getInt m } s
      else if a.type = GSCAN_ATTRIBUTE_SCAN_RESULTS ∧ v.num ≠ 0 then
        if c.mMax ≤ s.mRetrieved then s
        else
          let num := c.clampNum v.num a
          nestLoop m rest { v with num } (s.store (cachedScan m v num a) a)
      else nestLoop m rest v s

/-- The attribute is a nest. -/
def IsNest (a : NlAttr) : Prop :=
  GSCAN_ATTRIBUTE_NUM_OF_RESULTS ≤ a.type ∧ a.type ≤ GSCAN_ATTRIBUTE_CH_BUCKET_BITMASK

instance (a : NlAttr) : Decidable (IsNest a) := inferInstanceAs (Decidable (_ ∧ _))

/-- The body of the loop over a reply. -/
def visit (m : Mem UInt8) (s : ScanRetrieval) (a : NlAttr) : ScanRetrieval :=
  if a.type = GSCAN_ATTRIBUTE_SCAN_RESULTS_COMPLETE then { s with mCompleted := a.getU8 m }
  else if IsNest a then c.nestLoop m (a.nested m) .new s
  else s

/-- What the loop visits: the vendor data is taken for an attribute, with a header of its own. -/
def replyAttrs (d : VendorData) : List NlAttr :=
  nlIterator d.data (nlaData 0) ((Nlattr.nlaLen 0).value d.data - NLA_HDRLEN)

def handleResponse (s : ScanRetrieval) (reply : WifiReply) : ScanRetrieval :=
  match reply.handled with
  | none => s
  | some d => (replyAttrs d).foldl (c.visit d.data) s

/-! ## Requests -/

/-- A request, with the two attributes of its vendor data. -/
structure Request where
  num : Int
  flush : UInt8
  deriving DecidableEq, Repr

/-- What comes of a request: the result of `createRequest`, the replies, and the result of
`requestResponse`. -/
structure Outcome where
  created : Int
  replies : List WifiReply
  result : Int

/-- How the loop is left: with a result to return, or at its end. -/
structure LoopEnd where
  state : ScanRetrieval
  requests : List Request
  failed : Option Int

/-- At most `n` rounds, from the one numbered `i`. -/
def executeLoop (env : Nat → Outcome) : Nat → Nat → ScanRetrieval → LoopEnd
  | 0, _, s => ⟨s, [], none⟩
  | n + 1, i, s =>
      if c.mMax ≤ s.mRetrieved then ⟨s, [], none⟩
      else if (env i).created < 0 then ⟨s, [], some (env i).created⟩
      else
        let request : Request := ⟨c.mMax - s.mRetrieved, c.mFlush⟩
        let t := (env i).replies.foldl c.handleResponse s
        if (env i).result ≠ WIFI_SUCCESS then ⟨t, [request], some (env i).result⟩
        else if t.mRetrieved = s.mRetrieved ∨ t.mCompleted ≠ 0 then ⟨t, [request], none⟩
        else
          let rest := executeLoop env n (i + 1) t
          { rest with requests := request :: rest.requests }

/-- What `execute` returns, and what it has written to `*mNum`. -/
structure Execution where
  state : ScanRetrieval
  requests : List Request
  result : Int
  num : Option Int

def execute (env : Nat → Outcome) : Execution :=
  let x := c.executeLoop env 10 0 .new
  match x.failed with
  | some result => ⟨x.state, x.requests, result, none⟩
  | none => ⟨x.state, x.requests, WIFI_SUCCESS, some x.state.mRetrieved⟩

/-! ## What is asked of it -/

/-- Nothing is out of bounds, and the number of scans is written only where it is right. -/
structure RetrievedSafely (x : Execution) : Prop where
  retrieved : ∀ n ∈ x.state.values, (n : Int) ≤ c.mMax
  numResults : ∀ e ∈ x.state.stored,
    0 ≤ e.scan.numResults ∧ e.scan.numResults ≤ c.maxApCachePerScan
  copied : ∀ e ∈ x.state.stored, ∀ i < e.scan.results.length,
    i * GscanResult.size + GscanResult.size ≤ e.source.len
  slots : x.state.stored.map (·.index) = List.range x.state.stored.length
  num : ∀ n ∈ x.num, x.result = WIFI_SUCCESS ∧ n = x.state.stored.length
  requests : x.requests.length ≤ 10

/-- The counts of the scans that a nest offers, one after the other; `num` is the count announced
so far.  An attribute with records leaves the count that it has room for. -/
def nestOffers (m : Mem UInt8) : Int → List NlAttr → List Int
  | _, [] => []
  | num, a :: rest =>
      if a.type = GSCAN_ATTRIBUTE_NUM_OF_RESULTS then nestOffers m (a.getInt m) rest
      else if a.type = GSCAN_ATTRIBUTE_SCAN_RESULTS ∧ num ≠ 0 then
        c.clampNum num a :: nestOffers m (c.clampNum num a) rest
      else nestOffers m num rest

def attrOffers (m : Mem UInt8) (a : NlAttr) : List Int :=
  if IsNest a then c.nestOffers m 0 (a.nested m) else []

def attrFlags (m : Mem UInt8) (a : NlAttr) : List Nat :=
  if a.type = GSCAN_ATTRIBUTE_SCAN_RESULTS_COMPLETE then [a.getU8 m] else []

/-- The scans that a reply offers, and its completion flags. -/
def replyOffers (reply : WifiReply) : List Int :=
  reply.handled.elim [] fun d => (replyAttrs d).flatMap (c.attrOffers d.data)

def replyFlags (reply : WifiReply) : List Nat :=
  reply.handled.elim [] fun d => (replyAttrs d).flatMap (attrFlags d.data)

section

variable (env : Nat → Outcome)

/-- What the replies to the first `i` requests offer, and what they say last of completion. -/
def offersUpTo (i : Nat) : List Int :=
  (List.range i).flatMap fun j => (env j).replies.flatMap c.replyOffers

def flagUpTo (i : Nat) : Nat :=
  ((List.range i).flatMap fun j => (env j).replies.flatMap replyFlags).getLastD 0

/-- There is room before a request, it is made and succeeds, its replies offer something, and they
do not say that this was all. -/
structure GoesOn (i : Nat) : Prop where
  room : ((c.offersUpTo env i).length : Int) < c.mMax
  created : 0 ≤ (env i).created
  success : (env i).result = WIFI_SUCCESS
  offered : (env i).replies.flatMap c.replyOffers ≠ []
  incomplete : flagUpTo env (i + 1) = 0

/-- A request is made. -/
structure Asked (i : Nat) : Prop where
  before : ∀ j < i, c.GoesOn env j
  room : ((c.offersUpTo env i).length : Int) < c.mMax
  created : 0 ≤ (env i).created

/-- The caller has not asked for fewer than no scans, and none of the scans there is room for has a
negative count. -/
structure CountsFit : Prop where
  max : 0 ≤ c.mMax
  counts : ∀ i < 10, c.Asked env i →
    ∀ n ∈ (c.offersUpTo env (i + 1)).take c.mMax.toNat, 0 ≤ n

end

/-! ## What replies do -/

/-- What holds after replies that offered some scans and had some flags. -/
structure RetrievalInv (offers : List Int) (flags : List Nat) (s : ScanRetrieval) : Prop where
  retrieved : s.mRetrieved = s.stored.length
  nums : s.stored.map (·.scan.numResults) = offers.take c.mMax.toNat
  completed : s.mCompleted = flags.getLastD 0
  slots : s.stored.map (·.index) = List.range s.stored.length
  zero : 0 ∈ s.values
  values : ∀ n ∈ s.values, n ≤ c.mMax.toNat
  few : ∀ e ∈ s.stored, e.scan.numResults ≤ c.maxApCachePerScan
  copied : ∀ e ∈ s.stored, e.scan.results.length * c.scanResultSize ≤ e.source.len

variable {c} {offers : List Int} {flags : List Nat} {s : ScanRetrieval}

theorem RetrievalInv.new : c.RetrievalInv [] [] .new where
  retrieved := rfl
  nums := by simp [ScanRetrieval.new]
  completed := rfl
  slots := rfl
  zero := by simp [ScanRetrieval.new]
  values := by simp [ScanRetrieval.new]
  few := nofun
  copied := nofun

/-- As many scans are stored as there is room for. -/
theorem RetrievalInv.retrieved_eq (h : c.RetrievalInv offers flags s) :
    s.mRetrieved = min c.mMax.toNat offers.length := by
  rw [h.retrieved, ← List.length_map (·.scan.numResults), h.nums, List.length_take]

theorem RetrievalInv.room_iff (h : c.RetrievalInv offers flags s) :
    (s.mRetrieved : Int) < c.mMax ↔ (offers.length : Int) < c.mMax := by
  rw [h.retrieved_eq]
  omega

theorem clampNum_le (num : Int) (a : NlAttr) : c.clampNum num a ≤ c.maxApCachePerScan :=
  Int.min_le_right _ _

/-- The records that are copied fit the attribute. -/
theorem clampNum_room (num : Int) (a : NlAttr) :
    (c.clampNum num a).toNat * c.scanResultSize ≤ a.len := by
  have hle : (c.clampNum num a).toNat ≤ a.len / c.scanResultSize := by
    unfold clampNum
    generalize a.len / c.scanResultSize = room
    omega
  exact Nat.le_trans (Nat.mul_le_mul_right _ hle) (Nat.div_mul_le_self _ _)

theorem cachedScan_length (m : Mem UInt8) (v : NestVars) (num : Int) (a : NlAttr) :
    (cachedScan m v num a).results.length = num.toNat := by
  rw [cachedScan, Reads.value_collect, List.length_map, List.length_range']

/-- A scan is stored where there is room for it. -/
theorem RetrievalInv.store (h : c.RetrievalInv offers flags s) (hroom : ¬ c.mMax ≤ s.mRetrieved)
    (m : Mem UInt8) (v : NestVars) (a : NlAttr) :
    c.RetrievalInv (offers ++ [c.clampNum v.num a]) flags
      (s.store (cachedScan m v (c.clampNum v.num a) a) a) := by
  have hlen := h.retrieved_eq
  refine ⟨?_, ?_, h.completed, ?_, List.mem_append_left _ h.zero, ?_, ?_, ?_⟩
  · simp [ScanRetrieval.store, h.retrieved]
  · rw [List.take_of_length_le (by rw [List.length_append, List.length_singleton]; omega)]
    have hnums := h.nums
    rw [List.take_of_length_le (by omega)] at hnums
    simp [ScanRetrieval.store, hnums, cachedScan]
  · simp [ScanRetrieval.store, h.slots, List.range_succ, h.retrieved]
  · simp only [ScanRetrieval.store, List.forall_mem_append, List.forall_mem_singleton]
    exact ⟨h.values, by omega⟩
  · simp only [ScanRetrieval.store, List.forall_mem_append, List.forall_mem_singleton]
    exact ⟨h.few, clampNum_le v.num a⟩
  · simp only [ScanRetrieval.store, List.forall_mem_append, List.forall_mem_singleton,
      cachedScan_length]
    exact ⟨h.copied, clampNum_room v.num a⟩

/-- Once there is no room, what is offered makes no difference. -/
theorem RetrievalInv.full (h : c.RetrievalInv offers flags s) (hroom : c.mMax ≤ s.mRetrieved)
    (more : List Int) : c.RetrievalInv (offers ++ more) flags s := by
  have hlen := h.retrieved_eq
  refine ⟨h.retrieved, ?_, h.completed, h.slots, h.zero, h.values, h.few, h.copied⟩
  rw [h.nums, List.take_append_of_le_length (by omega)]

/-- Attributes that announce no count and have no records offer nothing. -/
theorem nestOffers_other {m : Mem UInt8} {num : Int} {a : NlAttr} {rest : List NlAttr}
    (h : a.type ≠ GSCAN_ATTRIBUTE_NUM_OF_RESULTS ∧ a.type ≠ GSCAN_ATTRIBUTE_SCAN_RESULTS) :
    c.nestOffers m num (a :: rest) = c.nestOffers m num rest := by
  rw [nestOffers, if_neg h.1, if_neg (not_and_of_not_left _ h.2)]

/-- **A nest** stores what it offers. -/
theorem nestLoop_inv (m : Mem UInt8) (attrs : List NlAttr) (v : NestVars)
    (h : c.RetrievalInv offers flags s) :
    c.RetrievalInv (offers ++ c.nestOffers m v.num attrs) flags (c.nestLoop m attrs v s) := by
  induction attrs generalizing v offers s with
  | nil => rwa [nestOffers, List.append_nil]
  | cons a rest ih =>
    unfold nestLoop
    by_cases hid : a.type = GSCAN_ATTRIBUTE_SCAN_ID
    · rw [if_pos hid, nestOffers_other (by rw [hid]; decide)]
      exact ih { v with scanId := a.getInt m } h
    rw [if_neg hid]
    by_cases hflags : a.type = GSCAN_ATTRIBUTE_SCAN_FLAGS
    · rw [if_pos hflags, nestOffers_other (by rw [hflags]; decide)]
      exact ih { v with flags := a.getU8 m } h
    rw [if_neg hflags]
    by_cases hnum : a.type = GSCAN_ATTRIBUTE_NUM_OF_RESULTS
    · rw [if_pos hnum, nestOffers, if_pos hnum]
      exact ih { v with num := a.getInt m } h
    rw [if_neg hnum]
    by_cases hmask : a.type = GSCAN_ATTRIBUTE_CH_BUCKET_BITMASK
    · rw [if_pos hmask, nestOffers_other (by rw [hmask]; decide)]
      exact ih { v with scanChBucketMask := a.getInt m } h
    rw [if_neg hmask, nestOffers, if_neg hnum]
    by_cases hresults : a.type = GSCAN_ATTRIBUTE_SCAN_RESULTS ∧ v.num ≠ 0
    · rw [if_pos hresults, if_pos hresults]
      by_cases hroom : c.mMax ≤ s.mRetrieved
      · rw [if_pos hroom]
        exact h.full hroom _
      · rw [if_neg hroom, List.append_cons]
        exact ih { v with num := c.clampNum v.num a } (h.store hroom m v a)
    · rw [if_neg hresults, if_neg hresults]
      exact ih _ h

/-- An attribute of a reply. -/
theorem visit_inv (m : Mem UInt8) (h : c.RetrievalInv offers flags s) (a : NlAttr) :
    c.RetrievalInv (offers ++ c.attrOffers m a) (flags ++ attrFlags m a) (c.visit m s a) := by
  unfold visit attrOffers attrFlags
  by_cases hcomplete : a.type = GSCAN_ATTRIBUTE_SCAN_RESULTS_COMPLETE
  · have hnest : ¬ IsNest a := by
      simp [IsNest, hcomplete, GSCAN_ATTRIBUTE_SCAN_RESULTS_COMPLETE,
        GSCAN_ATTRIBUTE_NUM_OF_RESULTS]
    rw [if_pos hcomplete, if_neg hnest, if_pos hcomplete, List.append_nil]
    exact { h with completed := List.getLastD_concat.symm }
  rw [if_neg hcomplete, if_neg hcomplete, List.append_nil]
  by_cases hnest : IsNest a
  · rw [if_pos hnest, if_pos hnest]
    exact nestLoop_inv m (a.nested m) .new h
  · rwa [if_neg hnest, if_neg hnest, List.append_nil]

theorem visits_inv (m : Mem UInt8) (h : c.RetrievalInv offers flags s) (attrs : List NlAttr) :
    c.RetrievalInv (offers ++ attrs.flatMap (c.attrOffers m))
      (flags ++ attrs.flatMap (attrFlags m)) (attrs.foldl (c.visit m) s) := by
  induction attrs generalizing offers flags s with
  | nil => rwa [List.flatMap_nil, List.append_nil, List.flatMap_nil, List.append_nil]
  | cons a attrs ih =>
    rw [List.flatMap_cons, ← List.append_assoc, List.flatMap_cons, ← List.append_assoc]
    exact ih (visit_inv m h a)

/-- **A reply** has stored what it offers. -/
theorem handleResponse_inv (h : c.RetrievalInv offers flags s) (reply : WifiReply) :
    c.RetrievalInv (offers ++ c.replyOffers reply) (flags ++ replyFlags reply)
      (c.handleResponse s reply) := by
  unfold handleResponse replyOffers replyFlags
  cases reply.handled with
  | none => simpa using h
  | some d => exact visits_inv d.data h (replyAttrs d)

theorem replies_inv (h : c.RetrievalInv offers flags s) (replies : List WifiReply) :
    c.RetrievalInv (offers ++ replies.flatMap c.replyOffers) (flags ++ replies.flatMap replyFlags)
      (replies.foldl c.handleResponse s) := by
  induction replies generalizing offers flags s with
  | nil => rwa [List.flatMap_nil, List.append_nil, List.flatMap_nil, List.append_nil]
  | cons reply replies ih =>
    rw [List.flatMap_cons, ← List.append_assoc, List.flatMap_cons, ← List.append_assoc]
    exact ih (handleResponse_inv h reply)

/-! ## Which requests are made -/

variable {env : Nat → Outcome}

/-- What holds after the first `i` requests. -/
def RoundsInv (c : GetScanResultsCommand) (env : Nat → Outcome) (i : Nat) (s : ScanRetrieval) :
    Prop :=
  c.RetrievalInv (c.offersUpTo env i)
    ((List.range i).flatMap fun j => (env j).replies.flatMap replyFlags) s

theorem RoundsInv.zero : c.RoundsInv env 0 .new := RetrievalInv.new

theorem offersUpTo_succ (i : Nat) : c.offersUpTo env (i + 1) =
    c.offersUpTo env i ++ (env i).replies.flatMap c.replyOffers := by
  rw [offersUpTo, List.range_succ, List.flatMap_append, List.flatMap_singleton, offersUpTo]

/-- One more request. -/
theorem RoundsInv.succ {i : Nat} (h : c.RoundsInv env i s) :
    c.RoundsInv env (i + 1) ((env i).replies.foldl c.handleResponse s) := by
  unfold RoundsInv
  rw [offersUpTo_succ, List.range_succ, List.flatMap_append, List.flatMap_singleton]
  exact replies_inv h _

/-- With room for it, something is stored iff something is offered. -/
theorem RoundsInv.retrieved_eq_iff {i : Nat} {t : ScanRetrieval} (h : c.RoundsInv env i s)
    (hsucc : c.RoundsInv env (i + 1) t) (hroom : ((c.offersUpTo env i).length : Int) < c.mMax) :
    t.mRetrieved = s.mRetrieved ↔ (env i).replies.flatMap c.replyOffers = [] := by
  have hs := RetrievalInv.retrieved_eq h
  have ht := RetrievalInv.retrieved_eq hsucc
  rw [offersUpTo_succ, List.length_append] at ht
  rw [← List.length_eq_zero_iff]
  omega

theorem GoesOn.asked {i : Nat} (hbefore : ∀ j < i, c.GoesOn env j) (h : c.GoesOn env i) :
    c.Asked env i :=
  ⟨hbefore, h.room, h.created⟩

/-- Nothing is asked for after a round that does not go on. -/
theorem asked_iff {i : Nat} (hbefore : ∀ j < i, c.GoesOn env j) (hstop : ¬ c.GoesOn env i)
    (k : Nat) : c.Asked env k ↔ k < i ∨ (k = i ∧ c.Asked env i) := by
  constructor
  · intro hasked
    rcases Nat.lt_trichotomy k i with hlt | rfl | hgt
    · exact .inl hlt
    · exact .inr ⟨rfl, hasked⟩
    · exact absurd (hasked.before i hgt) hstop
  · rintro (hlt | ⟨rfl, hasked⟩)
    · exact (hbefore k hlt).asked fun j hj => hbefore j (Nat.lt_trans hj hlt)
    · exact hasked

/-- The loop is left before a request, or after it. -/
theorem asked_iff_of_not {i : Nat} (hbefore : ∀ j < i, c.GoesOn env j) (hnot : ¬ c.Asked env i)
    (k : Nat) : c.Asked env k ↔ k < i := by
  rw [asked_iff hbefore fun h => hnot (h.asked hbefore)]
  exact or_iff_left fun h => hnot h.2

theorem asked_iff_of_last {i : Nat} (hbefore : ∀ j < i, c.GoesOn env j) (hasked : c.Asked env i)
    (hstop : ¬ c.GoesOn env i) (k : Nat) : c.Asked env k ↔ k < i + 1 := by
  rw [asked_iff hbefore hstop, Nat.lt_succ_iff_lt_or_eq]
  exact or_congr_right (and_iff_left hasked)

/-- **The requests that are made**, and what is stored in the end. -/
theorem executeLoop_rounds (n i : Nat) (hbefore : ∀ j < i, c.GoesOn env j)
    (h : c.RoundsInv env i s) :
    ∃ r, i ≤ r ∧ r ≤ i + n ∧ c.RoundsInv env r (c.executeLoop env n i s).state ∧
      (c.executeLoop env n i s).requests.length = r - i ∧
      ∀ k < i + n, c.Asked env k ↔ k < r := by
  induction n generalizing i s with
  | zero =>
    refine ⟨i, Nat.le_refl i, Nat.le_refl i, h, (Nat.sub_self i).symm, fun k hk => ?_⟩
    exact iff_of_true ((hbefore k hk).asked fun j hj => hbefore j (Nat.lt_trans hj hk)) hk
  | succ n ih =>
    unfold executeLoop
    by_cases hroom : c.mMax ≤ s.mRetrieved
    · rw [if_pos hroom]
      have hnot : ¬ c.Asked env i := fun hasked =>
        Int.not_lt.mpr hroom ((RetrievalInv.room_iff h).mpr hasked.room)
      exact ⟨i, Nat.le_refl i, by omega, h, (Nat.sub_self i).symm,
        fun k _ => asked_iff_of_not hbefore hnot k⟩
    rw [if_neg hroom]
    have hroom' := (RetrievalInv.room_iff h).mp (Int.not_le.mp hroom)
    by_cases hcreated : (env i).created < 0
    · rw [if_pos hcreated]
      have hnot : ¬ c.Asked env i := fun hasked => Int.not_lt.mpr hasked.created hcreated
      exact ⟨i, Nat.le_refl i, by omega, h, (Nat.sub_self i).symm,
        fun k _ => asked_iff_of_not hbefore hnot k⟩
    rw [if_neg hcreated]
    -- the request is made, and the loop may go on with the next one
    have hsucc := h.succ
    have hasked : c.Asked env i := ⟨hbefore, hroom', Int.not_lt.mp hcreated⟩
    have hcompleted := RetrievalInv.completed hsucc
    change _ = flagUpTo env (i + 1) at hcompleted
    have hretrieved := h.retrieved_eq_iff hsucc hroom'
    simp only
    by_cases hresult : (env i).result = WIFI_SUCCESS
    · rw [if_neg (not_not.mpr hresult)]
      split
      · rename_i hdone
        refine ⟨i + 1, Nat.le_succ i, by omega, hsucc, by simp, fun k _ =>
          asked_iff_of_last hbefore hasked (fun hgoes => ?_) k⟩
        rcases hdone with hsame | hcomplete
        · exact hgoes.offered (hretrieved.mp hsame)
        · exact hcomplete (hcompleted.trans hgoes.incomplete)
      · rename_i hmore
        obtain ⟨hmore, hincomplete⟩ := not_or.mp hmore
        have hgoes : c.GoesOn env i := ⟨hroom', hasked.created, hresult,
          fun hnone => hmore (hretrieved.mpr hnone), by rw [← hcompleted]; omega⟩
        have hbefore' : ∀ j < i + 1, c.GoesOn env j := fun j hj =>
          (Nat.lt_succ_iff_lt_or_eq.mp hj).elim (hbefore j) fun heq => heq ▸ hgoes
        obtain ⟨r, hle, hge, hinv, hlen, hall⟩ := ih (i + 1) hbefore' hsucc
        refine ⟨r, by omega, by omega, hinv, ?_, fun k hk => hall k (by omega)⟩
        rw [List.length_cons, hlen]
        omega
    · rw [if_pos hresult]
      exact ⟨i + 1, Nat.le_succ i, by omega, hsucc, by simp,
        fun k _ => asked_iff_of_last hbefore hasked (fun hgoes => hresult hgoes.success) k⟩

/-! ## When everything stays in bounds -/

/-- The scans that are stored have been offered in reply to the requests that were made. -/
theorem counts_iff {r : Nat} (hr : ∀ k < 10, c.Asked env k ↔ k < r) (hle : r ≤ 10) :
    (∀ i < 10, c.Asked env i → ∀ n ∈ (c.offersUpTo env (i + 1)).take c.mMax.toNat, 0 ≤ n) ↔
      ∀ n ∈ (c.offersUpTo env r).take c.mMax.toNat, 0 ≤ n := by
  have hmono : ∀ i j, i ≤ j → c.offersUpTo env i <+: c.offersUpTo env j := by
    intro i j hij
    induction hij with
    | refl => exact List.prefix_refl _
    | step _ ih =>
      rw [offersUpTo_succ]
      exact ih.trans (List.prefix_append _ _)
  constructor
  · intro hall n hn
    cases r with
    | zero =>
      rw [offersUpTo, List.range_zero, List.flatMap_nil, List.take_nil] at hn
      cases hn
    | succ r => exact hall r (by omega) ((hr r (by omega)).mpr (Nat.lt_succ_self r)) n hn
  · intro hall i hi hasked n hn
    exact hall n (((hmono (i + 1) r ((hr i hi).mp hasked)).take _).subset hn)

/-- How `execute` ends. -/
theorem execute_spec (c : GetScanResultsCommand) (env : Nat → Outcome) :
    (c.execute env).state = (c.executeLoop env 10 0 .new).state ∧
      (c.execute env).requests = (c.executeLoop env 10 0 .new).requests ∧
      ∀ n ∈ (c.execute env).num, (c.execute env).result = WIFI_SUCCESS ∧
        n = (c.executeLoop env 10 0 .new).state.mRetrieved := by
  unfold execute
  simp only
  split
  · exact ⟨rfl, rfl, nofun⟩
  · exact ⟨rfl, rfl, fun n hn => ⟨rfl, (Option.some.inj hn).symm⟩⟩

/-- **When exactly everything stays in bounds**, where the records of the driver are as long as
those of the caller. -/
theorem retrievedSafely_iff (c : GetScanResultsCommand) (env : Nat → Outcome)
    (hsize : c.scanResultSize = GscanResult.size) :
    c.RetrievedSafely (c.execute env) ↔ c.CountsFit env := by
  obtain ⟨r, -, hle, hinv, hlen, hasked⟩ := executeLoop_rounds 10 0
    (fun j hj => absurd hj (Nat.not_lt_zero j)) (.zero : c.RoundsInv env 0 .new)
  have hcounts := counts_iff (fun k hk => hasked k (by omega)) (by omega)
  rw [← RetrievalInv.nums hinv, List.forall_mem_map] at hcounts
  obtain ⟨hstate, hrequests, hnum⟩ := execute_spec c env
  constructor
  · intro h
    have hmax := h.retrieved 0 (hstate ▸ RetrievalInv.zero hinv)
    exact ⟨hmax, hcounts.mpr fun e he => (h.numResults e (hstate ▸ he)).1⟩
  · intro h
    refine ⟨?_, ?_, ?_, ?_, ?_, ?_⟩
    · intro n hn
      have hle := RetrievalInv.values hinv n (hstate ▸ hn)
      have hmax := h.max
      omega
    · intro e he
      exact ⟨hcounts.mp h.counts e (hstate ▸ he), RetrievalInv.few hinv e (hstate ▸ he)⟩
    · intro e he i hi
      have hcopied := RetrievalInv.copied hinv e (hstate ▸ he)
      rw [hsize] at hcopied
      rw [← Nat.succ_mul]
      exact Nat.le_trans (Nat.mul_le_mul_right _ hi) hcopied
    · rw [hstate]
      exact RetrievalInv.slots hinv
    · intro n hn
      obtain ⟨hresult, heq⟩ := hnum n hn
      rw [heq, hstate, RetrievalInv.retrieved hinv]
      exact ⟨hresult, rfl⟩
    · rw [hrequests, hlen]
      omega

/-- A reply with one nest: a count, and an attribute with records behind it. -/
def oneNest (count records : List UInt8) : WifiReply :=
  let nest := [8, 0, 30, 0] ++ count ++ ([UInt8.ofNat (4 + records.length), 0, 32, 0] ++ records)
  ⟨NL80211_CMD_VENDOR, some (.ofBytes ([UInt8.ofNat (8 + nest.length), 0, 0, 0] ++
    ([UInt8.ofNat (4 + nest.length), 0, 32, 0] ++ nest)))⟩

/-- A caller with room for one scan. -/
def oneEntry : GetScanResultsCommand := ⟨1, 0, 88, 32⟩

/-- Every request is answered with a scan of one record. -/
def oneRecord (_ : Nat) : Outcome := ⟨0, [oneNest [1, 0, 0, 0] (.replicate 88 0)], 0⟩

theorem retrievedSafely_one : oneEntry.RetrievedSafely (oneEntry.execute oneRecord) := by
  refine (retrievedSafely_iff oneEntry oneRecord rfl).mpr ⟨by decide, fun i _ _ n hn => ?_⟩
  have hone : (oneRecord 0).replies.flatMap oneEntry.replyOffers = [1] := by decide
  obtain ⟨j, -, hj⟩ := List.mem_flatMap.mp (List.mem_of_mem_take hn)
  rw [List.mem_singleton.mp (hone ▸ hj : n ∈ [1])]
  decide

/-- A scan is announced with 2³¹ records, none of which follow. -/
theorem not_retrievedSafely : ¬ ∀ (c : GetScanResultsCommand) (env : Nat → Outcome),
    c.scanResultSize = GscanResult.size → c.RetrievedSafely (c.execute env) := by
  intro hall
  have h := hall oneEntry (fun _ => ⟨0, [oneNest [0, 0, 0, 0x80] []], 0⟩) rfl
  have hnums := List.forall_mem_map.mpr fun e he => (h.numResults e he).1
  exact absurd hnums (by decide)

end GetScanResultsCommand

end Sloane.WifiHal
