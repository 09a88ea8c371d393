import Sloane.Btremoted.Sessions

/-!
# The SCO socket and the client

The SCO socket is to be open between two iterations of the loop if and only if a client is
connected.

* `paired_iff_acceptOk` — in a run up to the end of an iteration this is so if and only if no
  `accept` fails while a client is connected.
* `not_paired_failedAccept` — such an `accept` leaves the SCO socket open with nobody listening: the
  old client has been closed before.
-/

namespace Sloane.Btremoted

open Sloane.Lib System

variable {C : Codec} {cfg : Config}

def LoopState.Paired (s : LoopState C) : Prop := s.sco.fd ≠ -1 ↔ s.client.fd ≠ -1

instance (s : LoopState C) : Decidable s.Paired := inferInstanceAs (Decidable (_ ↔ _))

/-- No `accept` of the pass fails while a client is connected. -/
def AcceptOk (serverFd : Int) (s : LoopState C) (a : LoopAct) : Prop :=
  match s.pc, a with
  | .socket i _, .socket o =>
      (s.fds i).fd = serverFd → serverFd ≠ -1 → (s.fds i).revents.pollIn = true →
        (s.fds i).revents.hup = false → 0 ≤ s.client.fd → 0 ≤ o.accept
  | _, _ => True

instance (serverFd : Int) (s : LoopState C) (a : LoopAct) :
    Decidable (AcceptOk serverFd s a) := by
  unfold AcceptOk
  exact match s.pc, a with
    | .socket _ _, .socket _ => inferInstance
    | .socket _ _, .poll _ _ _ => isTrue trivial
    | .socket _ _, .check => isTrue trivial
    | .poll, _ => isTrue trivial
    | .check _, _ => isTrue trivial

/-- The statuses after which the loop closes the client. -/
def Status.ScoLost (ret : Status) : Prop := ret = .scoFailed ∨ ret = .scoClosed

/-- Behind the inner loop with such a status. -/
def LoopPc.ScoLost (pc : LoopPc) : Prop := ∃ ret, pc = .check ret ∧ ret.ScoLost

structure LoopState.PairInv (s : LoopState C) : Prop where
  client_fd : s.client.fd = -1 ∨ 0 ≤ s.client.fd
  paired : ¬ s.pc.ScoLost → s.Paired
  lost : s.pc.ScoLost → s.sco.fd = -1
  ret : ∀ i ret, s.pc = .socket i ret → ¬ ret.ScoLost

/-- An `accept` has failed: the old client is closed and the SCO socket is not. -/
def LoopState.Deserted (s : LoopState C) : Prop :=
  s.pc = .check .clientFailed ∧ s.sco.fd ≠ -1 ∧ s.client.fd = -1

/-! ## The handlers -/

theorem handleMsbcData_status (v : Voice C) (packet : List UInt8) :
    ¬ (handleMsbcData cfg v packet).1.ScoLost := by
  unfold handleMsbcData handleGoodFrame
  dsimp only
  split
  · simp [Status.ScoLost]
  · split
    · simp [Status.ScoLost]
    · split
      · simp [Status.ScoLost]
      · dsimp only
        split <;> simp [Status.ScoLost]

theorem handleScoPacket_status (v : Voice C) (r : RecvResult) :
    ¬ (handleScoPacket cfg v r).1.ScoLost := by
  unfold handleScoPacket
  split
  · cases r.again <;> simp [Status.ScoLost]
  · split
    · cases r.again <;> simp [Status.ScoLost]
    · exact handleMsbcData_status v _

variable (cfg) in
/-- **A hang-up**: both sockets are closed, the SCO socket alone and the status says so, or
nothing happens. -/
theorem handleDisconnectionEvent_cases (i : SocketId) (s : LoopState C) :
    let r := handleDisconnectionEvent cfg i s
    (r.1 = .scoClosed ∧ r.2.sco.fd = -1 ∧ r.2.client = s.client) ∨
    (r.1 = .success ∧ r.2.sco.fd = -1 ∧ r.2.client.fd = -1) ∨
    (r.1 = .success ∧ r.2.sco = s.sco ∧ r.2.client = s.client) := by
  unfold handleDisconnectionEvent
  split
  · exact .inl ⟨rfl, closeSocket_fd _, rfl⟩
  · split
    · exact .inr (.inl ⟨rfl, closeSocket_fd _, closeSocket_fd _⟩)
    · exact .inr (.inr ⟨rfl, rfl, rfl⟩)

variable (cfg) in
/-- **A connection**: `accept` fails and the client is gone, the SCO socket cannot be opened, or
both are open. -/
theorem handleConnectionEvent_cases (s : LoopState C) (hclient : s.client.fd = -1 ∨ 0 ≤ s.client.fd)
    (accept openSco : Int) :
    let r := handleConnectionEvent cfg s accept openSco
    (accept < 0 ∧ r.1 = .clientFailed ∧ r.2.1.sco = s.sco ∧ r.2.1.client.fd = -1) ∨
    (0 ≤ accept ∧ r.1 = .scoFailed ∧ r.2.1.sco.fd = -1 ∧ 0 ≤ r.2.1.client.fd) ∨
    (0 ≤ accept ∧ r.1 = .success ∧ r.2.1.sco.fd ≠ -1 ∧ 0 ≤ r.2.1.client.fd) := by
  obtain ⟨c, hc, hfd⟩ : ∃ c, (if 0 ≤ s.client.fd then { s with client := closeSocket s.client }
      else s) = { s with client := c } ∧ c.fd = -1 := by
    split
    · exact ⟨_, rfl, closeSocket_fd _⟩
    · exact ⟨s.client, rfl, by omega⟩
  unfold handleConnectionEvent
  simp only [hc]
  split
  · rename_i hacc
    exact .inl ⟨hacc, rfl, rfl, hfd⟩
  · rename_i hneg
    have hacc : 0 ≤ accept := Int.not_lt.mp hneg
    split
    · rename_i hsco
      split
      · exact .inr (.inl ⟨hacc, rfl, hsco, hacc⟩)
      · refine .inr (.inr ⟨hacc, rfl, ?_, hacc⟩)
        show openSco ≠ -1
        omega
    · rename_i hsco
      exact .inr (.inr ⟨hacc, rfl, hsco, hacc⟩)

/-! ## Steps -/

/-- A step that leaves both descriptors and goes on with a status that is not for the end. -/
theorem LoopState.PairInv.same {s t : LoopState C} (h : s.PairInv) (hpc : ¬ s.pc.ScoLost)
    (hsco : t.sco.fd = s.sco.fd) (hclient : t.client.fd = s.client.fd) (hpc' : ¬ t.pc.ScoLost)
    (hret : ∀ i ret, t.pc = .socket i ret → ¬ ret.ScoLost) : t.PairInv where
  client_fd := hclient ▸ h.client_fd
  paired _ := by
    unfold Paired
    rw [hsco, hclient]
    exact h.paired hpc
  lost hlost := absurd hlost hpc'
  ret := hret

theorem not_scoLost_socket (i : SocketId) (ret : Status) : ¬ (LoopPc.socket i ret).ScoLost := by
  rintro ⟨_, h, -⟩
  cases h

theorem advance_pc (i : SocketId) {ret : Status} (hret : ¬ ret.ScoLost) (s : LoopState C) :
    ¬ (advance i ret s).pc.ScoLost ∧
      ∀ j ret', (advance i ret s).pc = .socket j ret' → ¬ ret'.ScoLost := by
  cases i with
  | sco => exact ⟨not_scoLost_socket _ _, by rintro j ret' ⟨⟩; exact hret⟩
  | server => exact ⟨not_scoLost_socket _ _, by rintro j ret' ⟨⟩; exact hret⟩
  | client =>
    refine ⟨?_, by rintro j ret' ⟨⟩⟩
    rintro ⟨ret', hpc, hlost⟩
    obtain rfl := LoopPc.check.inj hpc
    exact hret hlost

@[simp] theorem advance_sco (i : SocketId) (ret : Status) (s : LoopState C) :
    (advance i ret s).sco = s.sco := by
  cases i <;> rfl

@[simp] theorem updateClientEvents_sco (s : LoopState C) :
    (updateClientEvents s).sco = s.sco := by
  unfold updateClientEvents
  split <;> rfl

/-- What is to hold behind the inner loop. -/
theorem LoopState.PairInv.of_check {t : LoopState C} {ret : Status} (hpc : t.pc = .check ret)
    (hclient : t.client.fd = -1 ∨ 0 ≤ t.client.fd) (hpaired : ¬ ret.ScoLost → t.Paired)
    (hlost : ret.ScoLost → t.sco.fd = -1) : t.PairInv where
  client_fd := hclient
  paired hnot := hpaired fun hl => hnot ⟨ret, hpc, hl⟩
  lost := by
    rintro ⟨ret', hpc', hl⟩
    rw [hpc] at hpc'
    obtain rfl := LoopPc.check.inj hpc'
    exact hlost hl
  ret i ret' hpc' := by
    rw [hpc] at hpc'
    cases hpc'

section Socket

variable {s : LoopState C} (h : s.PairInv) {i : SocketId} {ret : Status}
  (hpc : s.pc = .socket i ret)
include h hpc

/-- A pass that goes on to the next socket with both descriptors as they were. -/
theorem advance_pairInv {t : LoopState C} {ret' : Status} (hret : ¬ ret'.ScoLost)
    (hsco : t.sco.fd = s.sco.fd) (hclient : t.client.fd = s.client.fd) :
    (advance i ret' t).PairInv := by
  have hlost : ¬ s.pc.ScoLost := hpc ▸ not_scoLost_socket i ret
  obtain ⟨hpc', hnext⟩ := advance_pc i hret t
  exact h.same hlost (by rw [advance_sco, hsco]) (by rw [advance_client, hclient]) hpc' hnext

variable (cfg) in
/-- A hang-up leaves both sockets, or none, or the loop with the SCO socket closed. -/
theorem hangUp_pairInv :
    let r := handleDisconnectionEvent cfg i s
    (r.1 ≠ .success → ({ r.2 with pc := .check r.1 } : LoopState C).PairInv) ∧
    (r.1 = .success → (advance i r.1 (updateClientEvents r.2)).PairInv) := by
  have hsuccess : ¬ Status.success.ScoLost := by simp [Status.ScoLost]
  dsimp only
  rcases handleDisconnectionEvent_cases cfg i s with ⟨heq, hsco, hclient⟩ |
    ⟨heq, hsco, hclient⟩ | ⟨heq, hsco, hclient⟩
  · refine ⟨fun _ => ?_, fun hok => ?_⟩
    · refine .of_check rfl ?_ (fun hnot => absurd (.inr heq) hnot) fun _ => hsco
      show (handleDisconnectionEvent cfg i s).2.client.fd = -1 ∨
        0 ≤ (handleDisconnectionEvent cfg i s).2.client.fd
      rw [hclient]
      exact h.client_fd
    · rw [heq] at hok
      cases hok
  · refine ⟨fun hne => absurd heq hne, fun _ => ?_⟩
    rw [heq]
    obtain ⟨hpc', hnext⟩ := advance_pc i hsuccess
      (updateClientEvents (handleDisconnectionEvent cfg i s).2)
    refine ⟨?_, ?_, fun hl => absurd hl hpc', hnext⟩
    · rw [advance_client, updateClientEvents_client_fd]
      exact .inl hclient
    · intro _
      unfold LoopState.Paired
      rw [advance_client, updateClientEvents_client_fd, advance_sco, updateClientEvents_sco, hsco,
        hclient]
  · refine ⟨fun hne => absurd heq hne, fun _ => ?_⟩
    rw [heq]
    exact advance_pairInv h hpc hsuccess (by rw [updateClientEvents_sco, hsco])
      (by rw [updateClientEvents_client_fd, hclient])

variable (cfg) in
/-- A new client takes the place of the old one, unless `accept` fails: then there is none, and the
SCO socket of the old one stays open. -/
theorem connect_pairInv (accept openSco : Int) :
    let r := handleConnectionEvent cfg s accept openSco
    let t : LoopState C := { r.2.1 with pc := .check r.1 }
    (t.PairInv ∧ (0 ≤ s.client.fd → 0 ≤ accept)) ∨
      (t.Deserted ∧ ¬ (0 ≤ s.client.fd → 0 ≤ accept)) := by
  have hpaired : s.sco.fd ≠ -1 ↔ s.client.fd ≠ -1 :=
    h.paired (hpc ▸ not_scoLost_socket i ret)
  dsimp only
  rcases handleConnectionEvent_cases cfg s h.client_fd accept openSco with
    ⟨hneg, heq, hsco, hclient⟩ | ⟨hge, heq, hsco, hclient⟩ | ⟨hge, heq, hsco, hclient⟩
  · by_cases hthere : 0 ≤ s.client.fd
    · refine .inr ⟨⟨by rw [heq], ?_, hclient⟩, fun hge => ?_⟩
      · show (handleConnectionEvent cfg s accept openSco).2.1.sco.fd ≠ -1
        rw [hsco]
        exact hpaired.mpr (by omega)
      · have := hge hthere
        omega
    · refine .inl ⟨.of_check rfl (.inl hclient) ?_ ?_, fun hge => absurd hge hthere⟩
      · intro _
        show (handleConnectionEvent cfg s accept openSco).2.1.sco.fd ≠ -1 ↔
          (handleConnectionEvent cfg s accept openSco).2.1.client.fd ≠ -1
        rw [hsco, hclient]
        have := h.client_fd
        omega
      · rw [heq]
        simp [Status.ScoLost]
  · refine .inl ⟨.of_check rfl (.inr hclient) ?_ fun _ => hsco, fun _ => hge⟩
    exact fun hnot => absurd (.inl heq) hnot
  · refine .inl ⟨.of_check rfl (.inr hclient) ?_ ?_, fun _ => hge⟩
    · intro _
      show (handleConnectionEvent cfg s accept openSco).2.1.sco.fd ≠ -1 ↔
        (handleConnectionEvent cfg s accept openSco).2.1.client.fd ≠ -1
      omega
    · rw [heq]
      simp [Status.ScoLost]

variable (cfg) in
/-- **A pass over a socket** keeps the pairing, or ends it with an `accept` that fails. -/
theorem handleSocket_pairInv (serverFd : Int) (o : Outcomes) :
    ((handleSocket cfg serverFd i ret o s).1.PairInv ∧ AcceptOk serverFd s (.socket o)) ∨
    ((handleSocket cfg serverFd i ret o s).1.Deserted ∧ ¬ AcceptOk serverFd s (.socket o)) := by
  have hret := h.ret i ret hpc
  have hok : (¬ ((s.fds i).fd = serverFd ∧ serverFd ≠ -1 ∧ (s.fds i).revents.pollIn = true ∧
      (s.fds i).revents.hup = false)) → AcceptOk serverFd s (.socket o) := by
    intro hnot
    simp only [AcceptOk, hpc]
    intro hfd hserver hin hhup
    exact absurd ⟨hfd, hserver, hin, hhup⟩ hnot
  unfold handleSocket
  dsimp only
  split
  · rename_i hskip
    refine .inl ⟨advance_pairInv h hpc hret rfl rfl, hok ?_⟩
    rintro ⟨hfd, hserver, hin, -⟩
    rcases hskip with hskip | hskip
    · exact hserver (hfd.symm.trans hskip)
    · rw [hskip] at hin
      cases hin
  split
  · rename_i hhup
    have hacc : AcceptOk serverFd s (.socket o) := by
      apply hok
      rintro ⟨-, -, -, hnot⟩
      rw [hhup] at hnot
      cases hnot
    obtain ⟨hends, hgoes⟩ := hangUp_pairInv cfg h hpc
    split
    · rename_i hne
      exact .inl ⟨hends hne, hacc⟩
    · rename_i hsuccess
      exact .inl ⟨hgoes (not_not.mp hsuccess), hacc⟩
  rename_i hskip hhup
  split
  · rename_i hserver
    rw [Bool.not_eq_true] at hhup
    have hserverFd : serverFd ≠ -1 := fun heq => hskip (.inl (hserver.1.trans heq))
    have hacc : AcceptOk serverFd s (.socket o) ↔ (0 ≤ s.client.fd → 0 ≤ o.accept) := by
      simp [AcceptOk, hpc, hserver.1, hserver.2, hhup, hserverFd]
    rw [hacc]
    exact connect_pairInv cfg h hpc o.accept o.openSco
  rename_i hserver
  have hacc : AcceptOk serverFd s (.socket o) := by
    apply hok
    rintro ⟨hfd, -, hin, -⟩
    exact hserver ⟨hfd, hin⟩
  split
  · exact .inl ⟨advance_pairInv h hpc (handleScoPacket_status s.voice o.recv) (by simp) (by simp),
      hacc⟩
  split
  · split
    · exact .inl ⟨advance_pairInv h hpc hret (by simp) (by simp), hacc⟩
    · exact .inl ⟨advance_pairInv h hpc hret (by simp) (by simp), hacc⟩
  · exact .inl ⟨advance_pairInv h hpc hret (by simp) (by simp), hacc⟩

end Socket

variable (cfg) in
theorem checkSco_pairInv {s : LoopState C} (h : s.PairInv) {ret : Status}
    (hpc : s.pc = .check ret) : (checkSco cfg ret s).PairInv ∧ (checkSco cfg ret s).pc = .poll := by
  have hpoll : ¬ LoopPc.poll.ScoLost := by
    rintro ⟨_, h, -⟩
    cases h
  unfold checkSco
  split
  · rename_i hlost
    refine ⟨⟨.inl (closeSocket_fd _), ?_, fun hl => absurd hl hpoll, by rintro _ _ ⟨⟩⟩, rfl⟩
    intro _
    have hsco := h.lost ⟨ret, hpc, hlost.1⟩
    simp [LoopState.Paired, hsco]
  · rename_i hlost
    refine ⟨⟨h.client_fd, ?_, fun hl => absurd hl hpoll, by rintro _ _ ⟨⟩⟩, rfl⟩
    intro _
    show s.sco.fd ≠ -1 ↔ s.client.fd ≠ -1
    by_cases hret : ret.ScoLost
    · -- there was no client to close
      have hsco := h.lost ⟨ret, hpc, hret⟩
      have hclient := h.client_fd
      have hnone : ¬ 0 ≤ s.client.fd := fun hge => hlost ⟨hret, hge⟩
      omega
    · apply h.paired
      rintro ⟨ret', hpc', hl⟩
      rw [hpc] at hpc'
      obtain rfl := LoopPc.check.inj hpc'
      exact hret hl

theorem LoopState.PairInv.start (serverFd : Int) (v : Voice C) :
    (LoopState.start serverFd v).PairInv where
  client_fd := .inl rfl
  paired _ := Iff.rfl
  lost := by
    rintro ⟨_, h, -⟩
    cases h
  ret := by rintro _ _ ⟨⟩

/-- **A step** keeps the pairing if no `accept` fails; otherwise it deserts the SCO socket. -/
theorem step_pairInv {serverFd : Int} {s t : LoopState C} {a : LoopAct} (h : s.PairInv)
    (hstep : s.step cfg serverFd a = some t) :
    (t.PairInv ∧ AcceptOk serverFd s a) ∨ (t.Deserted ∧ ¬ AcceptOk serverFd s a) := by
  obtain ⟨⟨u, es⟩, hnext, rfl⟩ := Option.map_eq_some_iff.mp hstep
  unfold LoopState.next at hnext
  split at hnext
  · rename_i rSco rServer rClient hpc
    obtain ⟨rfl, rfl⟩ := Prod.mk.inj (Option.some.inj hnext)
    refine .inl ⟨h.same ?_ rfl rfl (not_scoLost_socket _ _) ?_, by simp [AcceptOk, hpc]⟩
    · rw [hpc]
      rintro ⟨_, h, -⟩
      cases h
    · rintro _ _ ⟨⟩
      simp [Status.ScoLost]
  · rename_i i ret o hpc
    obtain heq := Option.some.inj hnext
    have hsock := handleSocket_pairInv cfg h hpc serverFd o
    rw [heq] at hsock
    refine hsock.imp (And.imp_left fun hinv => ?_) id
    exact ⟨hinv.client_fd, hinv.paired, hinv.lost, hinv.ret⟩
  · rename_i ret hpc
    obtain ⟨rfl, rfl⟩ := Prod.mk.inj (Option.some.inj hnext)
    obtain ⟨hinv, -⟩ := checkSco_pairInv cfg h hpc
    exact .inl ⟨⟨hinv.client_fd, hinv.paired, hinv.lost, hinv.ret⟩, by simp [AcceptOk, hpc]⟩
  · cases hnext

/-- The only step from a deserted state ends the iteration and leaves it so. -/
theorem LoopState.Deserted.step {serverFd : Int} {s t : LoopState C} {a : LoopAct} (h : s.Deserted)
    (hstep : s.step cfg serverFd a = some t) : t.pc = .poll ∧ ¬ t.Paired := by
  obtain ⟨hpc, hsco, hclient⟩ := h
  obtain ⟨⟨u, es⟩, hnext, rfl⟩ := Option.map_eq_some_iff.mp hstep
  unfold LoopState.next at hnext
  rw [hpc] at hnext
  split at hnext
  · rename_i hcheck
    cases hcheck
  · rename_i hcheck
    cases hcheck
  · rename_i ret hcheck
    obtain rfl := LoopPc.check.inj hcheck
    obtain ⟨rfl, rfl⟩ := Prod.mk.inj (Option.some.inj hnext)
    have hsame : checkSco cfg .clientFailed s = { s with pc := .poll } := by
      simp [checkSco]
    rw [hsame]
    exact ⟨rfl, fun hpaired => hpaired.mp hsco hclient⟩
  · cases hnext

/-! ## Runs -/

/-- **The SCO socket goes with the client** if and only if no `accept` fails while one is
connected. -/
theorem paired_iff_acceptOk {serverFd : Int} {v : Voice C}
    {tr : List (Transition (LoopState C) LoopAct)} {s : LoopState C}
    (h : (mainLoop cfg serverFd v).Run tr s) (hend : s.pc = .poll) :
    (∀ x ∈ tr, x.post.pc = .poll → x.post.Paired) ↔ ∀ x ∈ tr, AcceptOk serverFd x.pre x.act := by
  -- as long as the states seen are paired, a failed accept can only be the last step
  have hboth : ((∀ x ∈ tr, AcceptOk serverFd x.pre x.act) → s.PairInv ∧
        ∀ x ∈ tr, x.post.pc = .poll → x.post.Paired) ∧
      ((∀ x ∈ tr, x.post.pc = .poll → x.post.Paired) →
        (∀ x ∈ tr, AcceptOk serverFd x.pre x.act) ∨ s.Deserted) := by
    clear hend
    induction h with
    | start hi =>
      obtain rfl := hi
      exact ⟨fun _ => ⟨.start serverFd v, by simp⟩, fun _ => .inl (by simp)⟩
    | @step tr s a t _ hstep ih =>
      obtain ⟨ihkeep, ihseen⟩ := ih
      simp only [List.forall_mem_append, List.forall_mem_singleton]
      constructor
      · rintro ⟨hpre, hlast⟩
        obtain ⟨hinv, hpaired⟩ := ihkeep hpre
        have ht := ((step_pairInv hinv hstep).resolve_right fun hno => hno.2 hlast).1
        refine ⟨ht, hpaired, ?_⟩
        intro hpoll
        apply ht.paired
        rw [hpoll]
        rintro ⟨_, hcheck, -⟩
        cases hcheck
      · rintro ⟨hpre, hlast⟩
        rcases ihseen hpre with hok | hdeserted
        · rcases step_pairInv (ihkeep hok).1 hstep with ⟨-, hacc⟩ | ⟨ht, -⟩
          · exact .inl ⟨hok, hacc⟩
          · exact .inr ht
        · obtain ⟨hpoll, hno⟩ := hdeserted.step hstep
          exact absurd (hlast hpoll) hno
  constructor
  · intro hpaired
    refine (hboth.2 hpaired).resolve_right ?_
    rintro ⟨hpc, -⟩
    rw [hend] at hpc
    cases hpc
  · intro hok
    exact (hboth.1 hok).2

/-- Client 5 connects and is replaced by client 7. -/
theorem paired_firstClient :
    ∃ tr s, (mainLoop rawMode 3 silentVoice).Run tr s ∧ s.pc = .poll ∧ s.sco.fd = 6 ∧
      s.client.fd = 7 ∧ ∀ x ∈ tr, x.post.pc = .poll → x.post.Paired := by
  have he : (execute (LoopState.step rawMode 3) (.start 3 silentVoice)
      (firstClient ++ replaced)).map (fun r => decide (r.2.pc = .poll ∧ r.2.sco.fd = 6 ∧
        r.2.client.fd = 7 ∧ ∀ x ∈ r.1, AcceptOk 3 x.pre x.act)) = some true := by decide
  obtain ⟨⟨tr, s⟩, hrun, heq⟩ := Option.map_eq_some_iff.mp he
  obtain ⟨hpc, hsco, hclient, hok⟩ := of_decide_eq_true heq
  exact ⟨tr, s, run_of_execute hrun, hpc, hsco, hclient,
    (paired_iff_acceptOk (run_of_execute hrun) hpc).mpr hok⟩

/-- The listening socket is readable, but the connection is gone when it is accepted. -/
def failedAccept : List LoopAct :=
  [.poll {} { pollIn := true } {}, .socket nothing, .socket nothing, .check]

theorem not_paired_failedAccept :
    ¬ ∀ tr s, (mainLoop rawMode 3 silentVoice).Run tr s →
      ∀ x ∈ tr, x.post.pc = .poll → x.post.Paired := by
  intro hall
  have he : (execute (LoopState.step rawMode 3) (.start 3 silentVoice)
      (firstClient ++ failedAccept)).map (fun r => decide
        (∀ x ∈ r.1, x.post.pc = .poll → x.post.Paired)) = some false := by decide
  obtain ⟨⟨tr, s⟩, hrun, hnot⟩ := Option.map_eq_some_iff.mp he
  exact of_decide_eq_false hnot (hall tr s (run_of_execute hrun))

end Sloane.Btremoted
