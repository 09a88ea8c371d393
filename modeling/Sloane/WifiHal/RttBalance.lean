import Sloane.WifiHal.CancelCmd

/-!
# A ranging request and its cancellation

`wifi_rtt_range_request` registers a command in both tables; `wifi_rtt_range_cancel` makes another
command for the same id, which unregisters the event and knows nothing of the first one.

* `rttPair_cmd` — after a request that succeeds and its cancellation the command is still in `cmd`.
* `rttPair_eventCb_iff` — `event_cb` is as before iff nobody else had a handler for the event.
* `rttPairs_length` — each granted pair takes a slot, until there is none.
* `rttPair_never_balanced` — so no pair restores the tables, and enough of them exhaust `cmd`.
-/

namespace Sloane.WifiHal

open Sloane.Lib System

/-- The arguments of a request and of its cancellation, with what netlink answers to both. -/
structure RttPair where
  id : Int
  env : StartEnv
  ρ : Nat → NlResult

namespace RttPair

variable (p : RttPair)

/-- What the request returns. -/
def ret (s : HalState) : Int := (wifiRttRangeRequest p.id s.nextObj p.env s.info).ret

/-- The tables after the request and the cancellation. -/
def run (s : HalState) : HalState :=
  (s.step (.start .rtt p.id p.env)).step (.rttRangeCancel p.id p.ρ)

/-- The cancellation has undone the request. -/
def Balanced (s : HalState) : Prop := (p.run s).info = s.info

/-- There is memory for the command, and the driver accepts the request. -/
def Granted : Prop := p.env.allocated = true ∧ ∀ n, (p.env.netlink n).val = WIFI_SUCCESS

end RttPair

variable {s : HalState} {p : RttPair}

/-- A pair is two steps of the system. -/
theorem reachable_rttPair (h : hal.Reachable s) (p : RttPair) : hal.Reachable (p.run s) :=
  (h.step rfl).step rfl

/-- The command that the request makes. -/
def RttPair.command (p : RttPair) (s : HalState) : WifiCommand := ⟨s.nextObj, .rtt, p.id⟩

/-! ## One pair -/

theorem rttPair_info (p : RttPair) (s : HalState) : (p.run s).info =
    unregisterAll [.rttComplete] (wifiRttRangeRequest p.id s.nextObj p.env s.info).info := rfl

/-- What a request that succeeds has done. -/
theorem request_spec (h : p.ret s = WIFI_SUCCESS) :
    (wifiRttRangeRequest p.id s.nextObj p.env s.info).info.eventCb.entries =
        s.info.eventCb.entries ++ s.info.added (p.command s) [.rttComplete] ∧
      (wifiRttRangeRequest p.id s.nextObj p.env s.info).info.cmd.entries =
        s.info.cmd.entries ++ [⟨p.id, p.command s⟩] := by
  have hcase := startCommand_case .rtt p.id s.nextObj p.env s.info
  have hne : WIFI_ERROR_OUT_OF_MEMORY ≠ WIFI_SUCCESS := by decide
  unfold RttPair.ret wifiRttRangeRequest at *
  generalize startCommand .rtt p.id s.nextObj p.env s.info = r at *
  cases hcase with
  | noMemory => exact absurd h hne
  | noRoom => exact absurd h hne
  | started _ _ hnone hev hcmd =>
    rw [(netlinkOutcome_registered _ _).2 hnone] at hev
    exact ⟨hev, hcmd⟩
  | failed _ _ _ hret => exact absurd h hret

/-- **The command stays in `cmd`.** -/
theorem rttPair_cmd (h : p.ret s = WIFI_SUCCESS) :
    (p.run s).info.cmd.entries = s.info.cmd.entries ++ [⟨p.id, p.command s⟩] := by
  rw [rttPair_info, unregisterAll_cmd]
  exact (request_spec h).2

/-- **When `event_cb` is as before.** -/
theorem rttPair_eventCb_iff (hs : hal.Reachable s) (h : p.ret s = WIFI_SUCCESS) :
    (p.run s).info.eventCb.entries = s.info.eventCb.entries ↔
      ∀ c ∈ s.info.eventCb.entries, c.key ≠ VendorEvent.rttComplete.key := by
  have hwf := hal_wellFormed hs
  rw [rttPair_info, unregisterAll_eventCb, (request_spec h).1]
  refine (eraseKeys_append_eq_iff ?_ ?_ ?_ ?_).trans ?_
  · simp
  · exact hwf.append_nodup (Nat.le_refl _) (by simp)
  · intro c hc
    obtain ⟨e, he, rfl⟩ := mem_added hc
    exact List.mem_map.mpr ⟨e, he, rfl⟩
  · have hone : [VendorEvent.rttComplete].Nodup := by simp
    rw [HalInfo.added, List.map_map]
    exact (hone.sublist (List.take_sublist _ _)).map VendorEvent.key_injective
  · simp

/-! ## Many pairs -/

theorem granted_outcome (hp : p.Granted) :
    (netlinkOutcome RttCommand.start p.env.netlink).2 = none := by
  obtain ⟨-, hnetlink⟩ := hp
  simp [RttCommand.start, netlinkOutcome, hnetlink, Check.failed_success]

/-- A request that is granted takes a slot, or there is none. -/
theorem granted_case (hp : p.Granted) (s : HalState) :
    (s.info.cmd.entries.length < DEFAULT_CMD_SIZE ∧ p.ret s = WIFI_SUCCESS) ∨
    (s.info.cmd.entries.length = DEFAULT_CMD_SIZE ∧ p.ret s = WIFI_ERROR_OUT_OF_MEMORY ∧
      (p.run s).info.cmd = s.info.cmd) := by
  have hcase := startCommand_case .rtt p.id s.nextObj p.env s.info
  have hout := granted_outcome hp
  rw [rttPair_info, unregisterAll_cmd]
  unfold RttPair.ret wifiRttRangeRequest
  generalize startCommand .rtt p.id s.nextObj p.env s.info = r at *
  cases hcase with
  | noMemory hmem => exact absurd hp.1 (by simp [hmem])
  | noRoom _ hfull => exact .inr ⟨hfull, rfl, rfl⟩
  | started _ hroom _ _ _ => exact .inl ⟨hroom, rfl⟩
  | failed _ _ hfailed _ _ _ =>
    have heq : some _ = none := hfailed.symm.trans hout
    cases heq

/-- **Each pair takes a slot**, until there is none. -/
theorem rttPairs_length {pairs : List RttPair} (hp : ∀ p ∈ pairs, p.Granted) (s : HalState) :
    (pairs.foldl (fun s p => p.run s) s).info.cmd.entries.length =
      min DEFAULT_CMD_SIZE (s.info.cmd.entries.length + pairs.length) := by
  induction pairs generalizing s with
  | nil =>
    have hle := s.info.cmd.size_le
    simp only [List.foldl_nil, List.length_nil]
    omega
  | cons p pairs ih =>
    obtain ⟨hone, hrest⟩ := List.forall_mem_cons.mp hp
    rw [List.foldl_cons, ih hrest, List.length_cons]
    rcases granted_case hone s with ⟨hroom, hok⟩ | ⟨hfull, -, hsame⟩
    · rw [rttPair_cmd hok, List.length_append, List.length_singleton]
      omega
    · rw [hsame]
      omega

/-- Without a slot every request is refused. -/
theorem ret_of_full (hfull : s.info.cmd.entries.length = DEFAULT_CMD_SIZE) (p : RttPair) :
    p.ret s = WIFI_ERROR_OUT_OF_MEMORY := by
  have hcase := startCommand_case .rtt p.id s.nextObj p.env s.info
  unfold RttPair.ret wifiRttRangeRequest
  generalize startCommand .rtt p.id s.nextObj p.env s.info = r at *
  cases hcase with
  | noMemory => rfl
  | noRoom => rfl
  | started _ hroom => omega
  | failed _ hroom => omega

/-- **No pair restores the tables**, and after as many as there are slots every request is
refused. -/
theorem rttPair_never_balanced (h : p.ret s = WIFI_SUCCESS) :
    ¬ p.Balanced s ∧ ∀ pairs : List RttPair, (∀ q ∈ pairs, q.Granted) →
      DEFAULT_CMD_SIZE ≤ s.info.cmd.entries.length + pairs.length →
      ∀ q : RttPair, q.ret (pairs.foldl (fun s q => q.run s) s) = WIFI_ERROR_OUT_OF_MEMORY := by
  constructor
  · intro hbalanced
    have hcmd := rttPair_cmd h
    rw [show (p.run s).info = s.info from hbalanced] at hcmd
    have hlen := congrArg List.length hcmd
    rw [List.length_append, List.length_singleton] at hlen
    omega
  · intro pairs hgranted hmany q
    apply ret_of_full
    rw [rttPairs_length hgranted]
    omega

/-! ## A first request -/

def firstPair : RttPair := ⟨1, allSucceed, fun _ => ⟨0, success_nonpos⟩⟩

theorem rttPair_never_balanced_first : ¬ firstPair.Balanced halStart :=
  (rttPair_never_balanced (p := firstPair) (s := halStart) (by decide)).1

/-- The slot of the first request is still taken after its cancellation. -/
theorem not_rttPair_balanced : ¬ ∀ (s : HalState) (p : RttPair), hal.Reachable s →
    p.ret s = WIFI_SUCCESS → p.Balanced s := by
  intro hall
  have h := hall halStart firstPair (.start rfl) (by decide)
  have hlen := congrArg (fun info : HalInfo => info.cmd.entries.length) h
  exact absurd hlen (by decide)

end Sloane.WifiHal
