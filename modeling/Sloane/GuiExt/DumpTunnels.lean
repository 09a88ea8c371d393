import Sloane.GuiExt.ClientConsumer
import Sloane.Lib.Run

/-!
# The registry of dump tunnels

The tunnels that clients register with the service under a key, each with a death notifier that
knows the key only.  A call of `regDump` is three steps, its checks, the link to the binder's death
and the part under `mDumpLock`, and the steps of the calls, the deaths and the notices that follow
them come in any order.

* `dumpTunnels_kept` — a live tunnel that was the last registered under its key stays until a
  client unregisters the key, exactly when no notice of a death comes for a key that a live tunnel
  has been registered under since.
* `dumpTunnels_kept_of_owner` — it stays as long as no key is registered with a second tunnel.
* `not_dumpTunnels_kept` — the death of the first tunnel of a key takes the second one out.
-/

namespace Sloane.GuiExt

open Sloane.Lib System

/-- A tunnel as the service sees it: its binder, and whether that is a remote one. -/
structure DumpTunnel where
  asBinder : Nat
  remoteBinder : Bool
  deriving DecidableEq, Repr

/-- A call of `regDump` that has passed the checks, and whether it has linked its notifier. -/
structure RegCall (κ : Type) where
  tunnel : DumpTunnel
  key : κ
  linked : Bool
  deriving DecidableEq

/-- The table, the binders, the notifiers that wait for a death and those that are to be called.
`registered` is what was put under a key last, until a client unregisters the key. -/
structure Registry (κ : Type) [LinearOrder κ] where
  mDumpTunnels : KeyedVector κ DumpTunnel
  dead : List Nat
  notifiers : List (Nat × κ)
  obituaries : List (Nat × κ)
  calls : List (RegCall κ)
  registered : κ → Option DumpTunnel

inductive RegistryAct (κ : Type) where
  | regDump (tunnel : DumpTunnel) (key : κ)
  | linkToDeath (tunnel : DumpTunnel) (key : κ)
  | addTunnel (tunnel : DumpTunnel) (key : κ)
  | unregDump (key : κ)
  | die (binder : Nat)
  | binderDied (who : Nat) (key : κ)
  deriving DecidableEq

namespace Registry

variable {κ : Type} [LinearOrder κ]

def init : Registry κ := ⟨.empty, [], [], [], [], fun _ => none⟩

def isBinderAlive (s : Registry κ) (t : DumpTunnel) : Bool := t.asBinder ∉ s.dead

/-- The checks of `regDump`; `none` if it goes on. -/
def checkTunnel (s : Registry κ) (tunnel : DumpTunnel) : Option Int :=
  if !tunnel.remoteBinder then some NO_ERROR
  else if !s.isBinderAlive tunnel then some BAD_VALUE
  else none

/-- The part of `regDump` under the lock: more than 200 tunnels are swept before the new one is
added. -/
def addLocked (s : Registry κ) (tunnel : DumpTunnel) (key : κ) : KeyedVector κ DumpTunnel :=
  if 200 < s.mDumpTunnels.size then (s.mDumpTunnels.sweep s.isBinderAlive).add key tunnel
  else s.mDumpTunnels.add key tunnel

/-- The table after `unregDump`. -/
def unregDump (s : Registry κ) (key : κ) : KeyedVector κ DumpTunnel :=
  s.mDumpTunnels.removeItem key

/-- `binderDied` of a notifier. -/
def binderDied (s : Registry κ) (who : Nat) (key : κ) : Registry κ :=
  { s with
    mDumpTunnels := s.unregDump key
    obituaries := s.obituaries.erase (who, key) }

def step (s : Registry κ) : RegistryAct κ → Option (Registry κ)
  | .regDump tunnel key =>
      match s.checkTunnel tunnel with
      | some _ => some s
      | none => some { s with calls := ⟨tunnel, key, false⟩ :: s.calls }
  | .linkToDeath tunnel key =>
      if ⟨tunnel, key, false⟩ ∈ s.calls then
        some { s with
          calls := ⟨tunnel, key, true⟩ :: s.calls.erase ⟨tunnel, key, false⟩
          -- the death of a dead binder is not reported any more
          notifiers := if s.isBinderAlive tunnel then (tunnel.asBinder, key) :: s.notifiers
            else s.notifiers }
      else none
  | .addTunnel tunnel key =>
      if ⟨tunnel, key, true⟩ ∈ s.calls then
        some { s with
          calls := s.calls.erase ⟨tunnel, key, true⟩
          mDumpTunnels := s.addLocked tunnel key
          registered := fun k => if k = key then some tunnel else s.registered k }
      else none
  | .unregDump key =>
      some { s with
        mDumpTunnels := s.unregDump key
        registered := fun k => if k = key then none else s.registered k }
  | .die binder =>
      if binder ∈ s.dead then none
      else
        some { s with
          dead := binder :: s.dead
          notifiers := s.notifiers.filter fun n => n.1 ≠ binder
          obituaries := s.obituaries ++ s.notifiers.filter fun n => n.1 = binder }
  | .binderDied who key =>
      if (who, key) ∈ s.obituaries then some (s.binderDied who key) else none

/-- A live tunnel that was the last registered under its key is in the table. -/
def Kept (s : Registry κ) : Prop :=
  ∀ key t, s.registered key = some t → s.isBinderAlive t = true →
    s.mDumpTunnels.valueFor key = some t

/-- The condition: a notice of a death comes for a key only while no live tunnel is the last
registered under it. -/
def NoticeInTime (s : Registry κ) : RegistryAct κ → Prop
  | .binderDied _ key => ∀ t, s.registered key = some t → s.isBinderAlive t = false
  | _ => True

end Registry

/-- The registry, from the empty one. -/
def dumpRegistry (κ : Type) [LinearOrder κ] : System (Registry κ) (RegistryAct κ) :=
  ofStep Registry.init Registry.step

namespace Registry

variable {κ : Type} [LinearOrder κ] {s s' : Registry κ}

/-! ## What a step does -/

theorem valueFor_addLocked (s : Registry κ) (tunnel : DumpTunnel) (key k : κ) {t : DumpTunnel}
    (h : k = key ∧ t = tunnel ∨ k ≠ key ∧ s.mDumpTunnels.valueFor k = some t ∧
      s.isBinderAlive t = true) : (s.addLocked tunnel key).valueFor k = some t := by
  unfold addLocked
  rcases h with ⟨rfl, rfl⟩ | ⟨hk, hv, halive⟩
  · split <;> simp [KeyedVector.valueFor_add]
  · split
    · rw [KeyedVector.valueFor_add, if_neg hk, KeyedVector.valueFor_sweep, hv]
      simp [halive]
    · rw [KeyedVector.valueFor_add, if_neg hk, hv]

/-- What a step can do. -/
inductive StepCase (s : Registry κ) : RegistryAct κ → Registry κ → Prop
  | refused (tunnel key) : StepCase s (.regDump tunnel key) s
  | checked (tunnel key) : s.isBinderAlive tunnel = true →
      StepCase s (.regDump tunnel key) { s with calls := ⟨tunnel, key, false⟩ :: s.calls }
  | linked (tunnel key) (notifiers : List (Nat × κ)) : ⟨tunnel, key, false⟩ ∈ s.calls →
      (∀ n ∈ notifiers, n = (tunnel.asBinder, key) ∨ n ∈ s.notifiers) →
      StepCase s (.linkToDeath tunnel key) { s with
        calls := ⟨tunnel, key, true⟩ :: s.calls.erase ⟨tunnel, key, false⟩
        notifiers := notifiers }
  | added (tunnel key) : ⟨tunnel, key, true⟩ ∈ s.calls →
      StepCase s (.addTunnel tunnel key) { s with
        calls := s.calls.erase ⟨tunnel, key, true⟩
        mDumpTunnels := s.addLocked tunnel key
        registered := fun k => if k = key then some tunnel else s.registered k }
  | unregistered (key) : StepCase s (.unregDump key) { s with
      mDumpTunnels := s.unregDump key
      registered := fun k => if k = key then none else s.registered k }
  | died (binder) : StepCase s (.die binder) { s with
      dead := binder :: s.dead
      notifiers := s.notifiers.filter fun n => n.1 ≠ binder
      obituaries := s.obituaries ++ s.notifiers.filter fun n => n.1 = binder }
  | noticed (who key) : (who, key) ∈ s.obituaries →
      StepCase s (.binderDied who key) (s.binderDied who key)

theorem step_case {a : RegistryAct κ} (h : s.step a = some s') : StepCase s a s' := by
  cases a with
  | regDump tunnel key =>
    simp only [step] at h
    split at h
    · obtain rfl := Option.some.inj h
      exact .refused tunnel key
    · rename_i hcheck
      obtain rfl := Option.some.inj h
      refine .checked tunnel key ?_
      unfold checkTunnel at hcheck
      split at hcheck
      · cases hcheck
      · simpa using hcheck
  | linkToDeath tunnel key =>
    simp only [step] at h
    split at h
    · rename_i hmem
      obtain rfl := Option.some.inj h
      refine .linked tunnel key _ hmem ?_
      intro n hn
      split at hn
      · exact List.mem_cons.mp hn
      · exact .inr hn
    · cases h
  | addTunnel tunnel key =>
    simp only [step] at h
    split at h
    · rename_i hmem
      obtain rfl := Option.some.inj h
      exact .added tunnel key hmem
    · cases h
  | unregDump key =>
    obtain rfl := Option.some.inj h
    exact .unregistered key
  | die binder =>
    simp only [step] at h
    split at h
    · cases h
    · obtain rfl := Option.some.inj h
      exact .died binder
  | binderDied who key =>
    simp only [step] at h
    split at h
    · rename_i hmem
      obtain rfl := Option.some.inj h
      exact .noticed who key hmem
    · cases h

/-! ## The tunnels that are kept -/

theorem kept_init : (init : Registry κ).Kept := by
  intro key t hreg
  cases hreg

/-- A removal leaves the other keys. -/
theorem valueFor_unregDump {key k : κ} (hk : k ≠ key) :
    (s.unregDump key).valueFor k = s.mDumpTunnels.valueFor k := by
  unfold unregDump
  rw [KeyedVector.valueFor_removeItem, if_neg hk]

/-- A notice keeps the tunnels exactly when it comes in time. -/
theorem kept_noticed (hs : s.Kept) (who : Nat) (key : κ) :
    (s.binderDied who key).Kept ↔ s.NoticeInTime (.binderDied who key) := by
  constructor
  · intro hkept t hreg
    apply Bool.eq_false_iff.mpr
    intro halive
    have hv : (s.unregDump key).valueFor key = some t := hkept key t hreg halive
    unfold unregDump at hv
    rw [KeyedVector.valueFor_removeItem, if_pos rfl] at hv
    cases hv
  · intro htime k t hreg (halive : s.isBinderAlive t = true)
    by_cases hk : k = key
    · subst hk
      rw [htime t hreg] at halive
      cases halive
    · exact (valueFor_unregDump hk).trans (hs k t hreg halive)

/-- **One step: only a notice can lose a tunnel.** -/
theorem kept_step {a : RegistryAct κ} (hs : s.Kept) (h : StepCase s a s') :
    s'.Kept ↔ s.NoticeInTime a := by
  cases h with
  | refused => exact iff_of_true hs trivial
  | checked => exact iff_of_true (fun k t => hs k t) trivial
  | linked => exact iff_of_true (fun k t => hs k t) trivial
  | added tunnel key =>
    refine iff_of_true ?_ trivial
    intro k t (hreg : (if k = key then some tunnel else s.registered k) = some t)
      (halive : s.isBinderAlive t = true)
    apply valueFor_addLocked
    by_cases hk : k = key
    · rw [if_pos hk] at hreg
      exact .inl ⟨hk, (Option.some.inj hreg).symm⟩
    · rw [if_neg hk] at hreg
      exact .inr ⟨hk, hs k t hreg halive, halive⟩
  | unregistered key =>
    refine iff_of_true ?_ trivial
    intro k t (hreg : (if k = key then none else s.registered k) = some t)
      (halive : s.isBinderAlive t = true)
    by_cases hk : k = key
    · rw [if_pos hk] at hreg
      cases hreg
    · rw [if_neg hk] at hreg
      exact (valueFor_unregDump hk).trans (hs k t hreg halive)
  | died binder =>
    refine iff_of_true ?_ trivial
    intro k t hreg (halive : decide (t.asBinder ∉ binder :: s.dead) = true)
    apply hs k t hreg
    simp only [decide_eq_true_eq, List.mem_cons, not_or] at halive
    exact decide_eq_true halive.2
  | noticed who key => exact kept_noticed hs who key

/-! ## One tunnel for a key -/

/-- A key is registered with the tunnels of one binder only. -/
def OwnedBy (owner : κ → Nat) (_ : Registry κ) : RegistryAct κ → Prop
  | .regDump tunnel key => tunnel.asBinder = owner key
  | _ => True

/-- What is known of a key is about its owner, and a notice is about a dead one. -/
structure Owned (owner : κ → Nat) (s : Registry κ) : Prop where
  calls : ∀ c ∈ s.calls, c.tunnel.asBinder = owner c.key
  notifiers : ∀ n ∈ s.notifiers, n.1 = owner n.2
  obituaries : ∀ n ∈ s.obituaries, n.1 = owner n.2 ∧ n.1 ∈ s.dead
  registered : ∀ key t, s.registered key = some t → t.asBinder = owner key

variable {owner : κ → Nat}

theorem owned_init : (init : Registry κ).Owned owner :=
  ⟨by simp [init], by simp [init], by simp [init], by simp [init]⟩

theorem Owned.noticeInTime (hs : s.Owned owner) {a : RegistryAct κ} (h : StepCase s a s') :
    s.NoticeInTime a := by
  cases h with
  | noticed who key hmem =>
    obtain ⟨howner, hdead⟩ := hs.obituaries _ hmem
    intro t hreg
    have ht : t.asBinder = who := (hs.registered key t hreg).trans howner.symm
    simp [isBinderAlive, ht, hdead]
  | _ => trivial

theorem Owned.step {a : RegistryAct κ} (hs : s.Owned owner) (ha : s.OwnedBy owner a)
    (h : StepCase s a s') : s'.Owned owner := by
  cases h with
  | refused => exact hs
  | checked tunnel key _ =>
    refine { hs with calls := ?_ }
    intro c hc
    rcases List.mem_cons.mp hc with rfl | hc
    · exact ha
    · exact hs.calls c hc
  | linked tunnel key notifiers hmem hnot =>
    have howner : tunnel.asBinder = owner key := hs.calls _ hmem
    refine { hs with calls := ?_, notifiers := ?_ }
    · intro c hc
      rcases List.mem_cons.mp hc with rfl | hc
      · exact howner
      · exact hs.calls c (List.mem_of_mem_erase hc)
    · intro n hn
      rcases hnot n hn with rfl | hn
      · exact howner
      · exact hs.notifiers n hn
  | added tunnel key hmem =>
    refine { hs with calls := ?_, registered := ?_ }
    · exact fun c hc => hs.calls c (List.mem_of_mem_erase hc)
    · intro k t (hreg : (if k = key then some tunnel else s.registered k) = some t)
      split at hreg
      · rename_i hk
        obtain rfl := Option.some.inj hreg
        exact hk ▸ hs.calls _ hmem
      · exact hs.registered k t hreg
  | unregistered key =>
    refine { hs with registered := ?_ }
    intro k t (hreg : (if k = key then none else s.registered k) = some t)
    split at hreg
    · cases hreg
    · exact hs.registered k t hreg
  | died binder =>
    refine { hs with notifiers := ?_, obituaries := ?_ }
    · exact fun n hn => hs.notifiers n (List.mem_of_mem_filter hn)
    · intro n hn
      rcases List.mem_append.mp hn with hn | hn
      · exact ⟨(hs.obituaries n hn).1, List.mem_cons_of_mem _ (hs.obituaries n hn).2⟩
      · obtain ⟨hn, hdead⟩ := List.mem_filter.mp hn
        exact ⟨hs.notifiers n hn, List.mem_cons.mpr (.inl (of_decide_eq_true hdead))⟩
  | noticed who key _ =>
    exact { hs with obituaries := fun n hn => hs.obituaries n (List.mem_of_mem_erase hn) }

end Registry

open Registry

variable {κ : Type} [LinearOrder κ]

/-- **A run keeps the live tunnels exactly when every notice comes in time.** -/
theorem dumpTunnels_kept {tr : List (Transition (Registry κ) (RegistryAct κ))} {s : Registry κ}
    (h : (dumpRegistry κ).Run tr s) :
    (∀ x ∈ tr, x.post.Kept) ↔ ∀ x ∈ tr, x.pre.NoticeInTime x.act := by
  apply h.all_iff_all Kept NoticeInTime
  · rintro s rfl
    exact kept_init
  · intro s a t hs hstep
    exact kept_step hs (step_case hstep)
  · intro s a t hs hstep htime
    exact (kept_step hs (step_case hstep)).mpr htime

instance (s : Registry κ) (a : RegistryAct κ) : Decidable (s.NoticeInTime a) :=
  match a with
  | .binderDied _ key =>
      inferInstanceAs (Decidable (∀ t ∈ s.registered key, s.isBinderAlive t = false))
  | .regDump .. | .linkToDeath .. | .addTunnel .. | .unregDump _ | .die _ => .isTrue trivial

/-- A key whose tunnel dies and is reported before the next one is registered. -/
theorem dumpTunnels_kept_replaced : ∃ tr s, (dumpRegistry Nat).Run tr s ∧
    s.mDumpTunnels.valueFor 0 = some ⟨2, true⟩ ∧ ∀ x ∈ tr, x.post.Kept := by
  have he : (execute Registry.step Registry.init
      [.regDump ⟨1, true⟩ 0, .linkToDeath ⟨1, true⟩ 0, .addTunnel ⟨1, true⟩ 0, .die 1,
        .binderDied 1 0, .regDump ⟨2, true⟩ 0, .linkToDeath ⟨2, true⟩ 0,
        .addTunnel ⟨2, true⟩ 0]).map
      (fun r => decide ((∀ x ∈ r.1, x.pre.NoticeInTime x.act) ∧
        r.2.mDumpTunnels.valueFor 0 = some ⟨2, true⟩)) = some true := by decide
  obtain ⟨⟨tr, s⟩, hrun, heq⟩ := Option.map_eq_some_iff.mp he
  obtain ⟨htime, hlast⟩ := of_decide_eq_true heq
  have hr : (dumpRegistry Nat).Run tr s := run_of_execute hrun
  exact ⟨tr, s, hr, hlast, (dumpTunnels_kept hr).mpr htime⟩

/-- With one tunnel for a key, no live tunnel is ever lost. -/
theorem dumpTunnels_kept_of_owner {owner : κ → Nat} {s : Registry κ}
    (h : ((dumpRegistry κ).restrict (OwnedBy owner)).Reachable s) : s.Kept := by
  suffices hs : s.Owned owner ∧ s.Kept from hs.2
  induction h with
  | start hi =>
    obtain rfl := hi
    exact ⟨owned_init, kept_init⟩
  | step _ hstep ih =>
    have hcase := step_case hstep.1
    exact ⟨ih.1.step hstep.2 hcase, (kept_step ih.2 hcase).mpr (ih.1.noticeInTime hcase)⟩

/-! ## A key that changes hands -/

/-- Two tunnels, one after the other under the same key, and then the death of the first. -/
def handover : List (RegistryAct Nat) :=
  [.regDump ⟨1, true⟩ 0, .linkToDeath ⟨1, true⟩ 0, .addTunnel ⟨1, true⟩ 0,
    .regDump ⟨2, true⟩ 0, .linkToDeath ⟨2, true⟩ 0, .addTunnel ⟨2, true⟩ 0,
    .die 1, .binderDied 1 0]

/-- A live tunnel that is the last registered under a key is not in the table. -/
def Registry.Lost (s : Registry κ) (key : κ) (t : DumpTunnel) : Prop :=
  s.registered key = some t ∧ s.isBinderAlive t = true ∧ s.mDumpTunnels.valueFor key = none

instance (s : Registry κ) (key : κ) (t : DumpTunnel) : Decidable (s.Lost key t) :=
  inferInstanceAs (Decidable (_ ∧ _ ∧ _))

theorem not_dumpTunnels_kept :
    ¬ ∀ tr s, (dumpRegistry Nat).Run tr s → ∀ x ∈ tr, x.post.Kept := by
  intro hall
  have he : (execute Registry.step Registry.init handover).map
      (fun r => decide (∃ x ∈ r.1, x.post.Lost 0 ⟨2, true⟩)) = some true := by decide
  obtain ⟨⟨tr, s⟩, hrun, heq⟩ := Option.map_eq_some_iff.mp he
  obtain ⟨x, hx, hreg, halive, hnone⟩ := of_decide_eq_true heq
  have hv := hall tr s (run_of_execute hrun) x hx 0 ⟨2, true⟩ hreg halive
  rw [hnone] at hv
  cases hv

end Sloane.GuiExt
