import Sloane.Btremoted.MainLoop

/-!
# The sessions of btremoted

A session begins when a client is accepted.  `Isolated` says that the bytes sent in it are a
prefix of those copied into `main_buf` in it, less the bytes trimmed.

* `sessions_isolated` — as long as a client is accepted only while the SCO socket is closed or the
  buffer is as `clear_main_buf` leaves it, every session is isolated.
* `not_isolated_replacedClient` — a client that replaces another while the SCO socket is open gets
  what was buffered for the other: its connection does not clear the buffer.
-/

namespace Sloane.Btremoted

open Sloane.Lib System

variable {C : Codec} {cfg : Config}

/-- The events since the last client was accepted. -/
def sinceAccepted (es : List VoiceEvent) : List VoiceEvent :=
  (es.reverse.takeWhile (· ≠ .accepted)).reverse

/-- What was sent in the session is the beginning of its own stream. -/
def Isolated (trim : Nat) (es : List VoiceEvent) : Prop :=
  sent (sinceAccepted es) <+: (copied (sinceAccepted es)).drop trim

/-- The SCO socket is closed, or the buffer is as `clear_main_buf` leaves it. -/
def LoopState.ReadyForClient (cfg : Config) (s : LoopState C) : Prop :=
  s.sco.fd = -1 ∨ s.voice.mainBuf.head = cfg.trim ∧ s.voice.mainBuf.tail = 0

/-- If the pass accepts a client, the loop is ready for it. -/
def CleanAccept (cfg : Config) (serverFd : Int) (s : LoopState C) (a : LoopAct) : Prop :=
  match s.pc, a with
  | .socket i _, .socket o =>
      (s.fds i).fd = serverFd → (s.fds i).revents.pollIn = true → (s.fds i).revents.hup = false →
        0 ≤ o.accept → s.ReadyForClient cfg
  | _, _ => True

instance (s : LoopState C) : Decidable (s.ReadyForClient cfg) :=
  inferInstanceAs (Decidable (_ ∨ _))

instance (serverFd : Int) (s : LoopState C) (a : LoopAct) :
    Decidable (CleanAccept cfg serverFd s a) := by
  unfold CleanAccept
  split <;> infer_instance

structure LoopState.Inv (cfg : Config) (s : LoopState C) : Prop where
  tail_le : s.voice.mainBuf.tail ≤ BUFFER_SIZE
  isolated : Isolated cfg.trim s.history
  /-- While a client is there, the buffer holds the stream of its session. -/
  live : 0 ≤ s.client.fd → s.pc ≠ .check .scoFailed →
    Holds cfg.trim (sinceAccepted s.history) s.voice.mainBuf

/-! ## Histories -/

theorem sinceAccepted_append {es es' : List VoiceEvent} (h : .accepted ∉ es') :
    sinceAccepted (es ++ es') = sinceAccepted es ++ es' := by
  unfold sinceAccepted
  rw [List.reverse_append, List.takeWhile_append_of_pos, List.reverse_append, List.reverse_reverse]
  intro e he
  have hmem := List.mem_reverse.mp he
  exact decide_eq_true fun heq => h (heq ▸ hmem)

theorem sinceAccepted_accepted (es : List VoiceEvent) : sinceAccepted (es ++ [.accepted]) = [] := by
  simp [sinceAccepted]

theorem Isolated.accepted (trim : Nat) (es : List VoiceEvent) :
    Isolated trim (es ++ [.accepted]) := by
  unfold Isolated
  rw [sinceAccepted_accepted]
  exact List.nil_prefix

theorem accepted_notMem {es : List VoiceEvent} (h : ∀ e ∈ es, e.IsWrite) : .accepted ∉ es :=
  fun hmem => h _ hmem

/-- Copying alone does not break the isolation. -/
theorem Isolated.writes {trim : Nat} {es es' : List VoiceEvent} (h : Isolated trim es)
    (hw : ∀ e ∈ es', e.IsWrite) : Isolated trim (es ++ es') := by
  unfold Isolated at h ⊢
  rw [sinceAccepted_append (accepted_notMem hw), sent_append, copied_append, sent_writes hw,
    List.append_nil, List.drop_append]
  exact h.trans (List.prefix_append _ _)

theorem Holds.isolated {trim : Nat} {es : List VoiceEvent} {b : StreamBuffer UInt8}
    (h : Holds trim (sinceAccepted es) b) : Isolated trim es := by
  obtain ⟨base, htr⟩ := h.tracks
  exact htr.sent_prefix

/-- A buffer as `clear_main_buf` leaves it begins a stream. -/
theorem Holds.of_clear {trim : Nat} {b : StreamBuffer UInt8} (hhead : b.head = trim)
    (htail : b.tail = 0) : Holds trim [] b where
  tail_le := htail ▸ Nat.zero_le _
  tracks := by
    refine ⟨0, ?_⟩
    have heq : b = b.clear trim := by rw [StreamBuffer.clear, ← hhead, ← htail]
    rw [heq]
    exact .start b trim

/-! ## The steps -/

/-- A step that leaves the buffer and the history as they are and accepts nobody. -/
theorem LoopState.Inv.mono {s t : LoopState C} (h : s.Inv cfg) (hpc : s.pc ≠ .check .scoFailed)
    (hbuf : t.voice.mainBuf = s.voice.mainBuf) (hhist : t.history = s.history)
    (hclient : 0 ≤ t.client.fd → 0 ≤ s.client.fd) : t.Inv cfg where
  tail_le := hbuf ▸ h.tail_le
  isolated := hhist ▸ h.isolated
  live hfd _ := by
    rw [hbuf, hhist]
    exact h.live (hclient hfd) hpc

/-- A step that clears the buffer while no client is there. -/
theorem LoopState.Inv.cleared {s t : LoopState C} (h : s.Inv cfg)
    (hbuf : t.voice.mainBuf.tail = 0) (hhist : t.history = s.history)
    (hclient : t.client.fd = -1) : t.Inv cfg where
  tail_le := hbuf ▸ Nat.zero_le _
  isolated := hhist ▸ h.isolated
  live hfd := by omega

section Socket

variable {s : LoopState C} (h : s.Inv cfg) (hpc : s.pc ≠ .check .scoFailed)
include h hpc

theorem handleDisconnectionEvent_inv (i : SocketId) :
    (handleDisconnectionEvent cfg i s).2.Inv cfg := by
  unfold handleDisconnectionEvent
  split
  · exact h.mono hpc rfl rfl id
  · split
    · exact h.cleared rfl rfl (closeSocket_fd _)
    · exact h

/-- **A new session** starts with a clear buffer: it is cleared when the SCO socket is opened, and
was clear before otherwise. -/
theorem handleConnectionEvent_inv {accept openSco : Int}
    (hclean : 0 ≤ accept → s.ReadyForClient cfg) :
    LoopState.Inv cfg
      { (handleConnectionEvent cfg s accept openSco).2.1 with
        pc := .check (handleConnectionEvent cfg s accept openSco).1
        history := s.history ++ (handleConnectionEvent cfg s accept openSco).2.2 } := by
  -- whatever happens to the old client, the rest of the state is what it was
  obtain ⟨c, hc, hfd⟩ : ∃ c, (if 0 ≤ s.client.fd then { s with client := closeSocket s.client }
      else s) = { s with client := c } ∧ c.fd < 0 := by
    split
    · exact ⟨_, rfl, by rw [closeSocket_fd]; decide⟩
    · exact ⟨s.client, rfl, by omega⟩
  unfold handleConnectionEvent
  simp only [hc]
  split
  · refine h.mono hpc rfl (List.append_nil _) ?_
    intro hge
    exact absurd hge (by show ¬ 0 ≤ c.fd; omega)
  · rename_i hacc
    split
    · split
      · refine ⟨h.tail_le, Isolated.accepted _ _, fun _ hne => absurd rfl hne⟩
      · refine ⟨Nat.zero_le _, Isolated.accepted _ _, ?_⟩
        intro _ _
        rw [sinceAccepted_accepted]
        exact Holds.start cfg s.voice
    · rename_i hopen
      refine ⟨h.tail_le, Isolated.accepted _ _, ?_⟩
      intro _ _
      obtain ⟨hhead, htail⟩ := (hclean (by omega)).resolve_left hopen
      rw [sinceAccepted_accepted]
      exact Holds.of_clear hhead htail

theorem handleScoPacket_inv (r : RecvResult) :
    LoopState.Inv cfg { s with voice := (handleScoPacket cfg s.voice r).2.1
                               history := s.history ++ (handleScoPacket cfg s.voice r).2.2 } := by
  have happ := handleScoPacket_appends cfg s.voice r
  refine ⟨happ.tail_le h.tail_le, h.isolated.writes happ.writes, ?_⟩
  intro hfd _
  rw [sinceAccepted_append (accepted_notMem happ.writes)]
  exact happ.holds (h.live hfd hpc)

theorem writeToClient_inv (r : SendResult) :
    LoopState.Inv cfg { s with voice := (writeToClient s.voice s.client.fd r).2.1
                               history := s.history ++
                                 (writeToClient s.voice s.client.fd r).2.2 } := by
  by_cases hfd : 0 ≤ s.client.fd
  · have hsend := (h.live hfd hpc).send s.client.fd r
    have hsince : sinceAccepted (s.history ++ (writeToClient s.voice s.client.fd r).2.2) =
        sinceAccepted s.history ++ (writeToClient s.voice s.client.fd r).2.2 := by
      apply sinceAccepted_append
      rcases writeToClient_cases s.voice s.client.fd r with heq | ⟨n, -, heq⟩
      · rw [heq]
        simp
      · rw [heq]
        simp
    rw [← hsince] at hsend
    exact ⟨hsend.tail_le, hsend.isolated, fun _ _ => hsend⟩
  · have hnone : writeToClient s.voice s.client.fd r = (.clientFailed, s.voice, []) := by
      unfold writeToClient
      rw [if_pos (by omega)]
    rw [hnone]
    exact h.mono hpc rfl (List.append_nil _) id

theorem handleSocket_inv (serverFd : Int) {i : SocketId} (ret : Status) (o : Outcomes)
    (hclean : (s.fds i).fd = serverFd → (s.fds i).revents.pollIn = true →
      (s.fds i).revents.hup = false → 0 ≤ o.accept → s.ReadyForClient cfg) :
    LoopState.Inv cfg { (handleSocket cfg serverFd i ret o s).1 with
      history := s.history ++ (handleSocket cfg serverFd i ret o s).2 } := by
  unfold handleSocket
  dsimp only
  split
  · exact h.mono hpc (by simp) (List.append_nil _) (by simp)
  split
  · have hdisc := handleDisconnectionEvent_inv h hpc i
    obtain ⟨hhist, hpc'⟩ := handleDisconnectionEvent_history cfg i s
    rw [← hpc'] at hpc
    split
    · exact hdisc.mono hpc rfl (by simp [hhist]) id
    · exact hdisc.mono hpc (by simp) (by simp [hhist]) (by simp)
  · rename_i hhup
    split
    · rename_i hserver
      exact handleConnectionEvent_inv h hpc
        (hclean hserver.1 hserver.2 (Bool.eq_false_iff.mpr hhup))
    split
    · exact (handleScoPacket_inv h hpc o.recv).mono hpc (by simp) rfl (by simp)
    split
    · split
      · exact (writeToClient_inv h hpc o.send).mono hpc (by simp) rfl (by simp)
      · exact h.mono hpc (by simp) (List.append_nil _) (by simp)
    · exact h.mono hpc (by simp) (List.append_nil _) (by simp)

end Socket

/-- After a failure of the SCO socket the client is gone and the buffer clear. -/
theorem checkSco_inv {s : LoopState C} (h : s.Inv cfg) {ret : Status} (hpc : s.pc = .check ret) :
    (checkSco cfg ret s).Inv cfg := by
  unfold checkSco
  split
  · exact h.cleared rfl rfl (closeSocket_fd _)
  · rename_i hret
    by_cases hfail : ret = .scoFailed
    · -- the client was not closed, so there was none
      refine ⟨h.tail_le, h.isolated, fun hfd _ => absurd ⟨.inl hfail, hfd⟩ hret⟩
    · exact h.mono (by rw [hpc]; simpa using hfail) rfl rfl id

theorem step_inv {serverFd : Int} {s t : LoopState C} {a : LoopAct} (h : s.Inv cfg)
    (hstep : s.step cfg serverFd a = some t) (hclean : CleanAccept cfg serverFd s a) :
    t.Inv cfg := by
  obtain ⟨⟨u, es⟩, hnext, rfl⟩ := Option.map_eq_some_iff.mp hstep
  unfold LoopState.next at hnext
  split at hnext
  · rename_i rSco rServer rClient hpc
    obtain ⟨rfl, rfl⟩ := Prod.mk.inj (Option.some.inj hnext)
    exact h.mono (by simp [hpc]) rfl (List.append_nil _) id
  · rename_i i ret o hpc
    obtain heq := Option.some.inj hnext
    have hsock := handleSocket_inv h (by simp [hpc]) serverFd ret o
      (by simpa only [CleanAccept, hpc] using hclean)
    rwa [heq] at hsock
  · rename_i ret hpc
    obtain ⟨rfl, rfl⟩ := Prod.mk.inj (Option.some.inj hnext)
    obtain ⟨hhist, hpoll⟩ := checkSco_history cfg ret s
    exact (checkSco_inv h hpc).mono (by simp [hpoll]) rfl (by simp [hhist]) id
  · cases hnext

/-- **Sessions are isolated** as long as clients are accepted only when the loop is ready. -/
theorem sessions_isolated {serverFd : Int} {v : Voice C}
    {tr : List (Transition (LoopState C) LoopAct)} {s : LoopState C}
    (h : (mainLoop cfg serverFd v).Run tr s)
    (hclean : ∀ x ∈ tr, CleanAccept cfg serverFd x.pre x.act) : Isolated cfg.trim s.history := by
  have hinv : s.Inv cfg := by
    refine (h.restrict hclean).reachable.invariant ?_ ?_
    · rintro _ rfl
      refine ⟨Nat.zero_le _, List.nil_prefix, ?_⟩
      intro hfd
      exact absurd hfd (show ¬ (0 : Int) ≤ -1 by decide)
    · rintro s a t - hs ⟨hstep, hacc⟩
      exact step_inv hs hstep hacc
  exact hinv.isolated

/-! ## One client, and one that replaces it -/

/-- The packets are passed on as they are. -/
def rawMode : Config where
  decodeEnabled := false
  plcEnabled := false
  ntrim := 0
  ntrim_range := zero_ntrim_range

/-- No system call has anything. -/
def nothing : Outcomes where
  recv := { bytes := none, again := true, bytes_le := by simp }
  accept := -1
  openSco := -3
  send := .error

def threeBytes : Outcomes :=
  { nothing with
    recv := { bytes := some [1, 8, 0xAD, 7, 7], again := false, bytes_le := by simp; decide } }

/-- Client 5 is accepted and SCO socket 6 opened; a packet arrives. -/
def firstClient : List LoopAct :=
  [.poll {} { pollIn := true } {}, .socket nothing,
    .socket { nothing with accept := 5, openSco := 6 }, .check,
   .poll { pollIn := true } {} {}, .socket threeBytes, .socket nothing, .socket nothing, .check]

/-- The client can be written to. -/
def writable : List LoopAct :=
  [.poll {} {} { pollOut := true }, .socket nothing, .socket nothing,
    .socket { nothing with send := .accepted 2 }, .check]

/-- Client 7 takes the place of client 5. -/
def replaced : List LoopAct :=
  [.poll {} { pollIn := true } {}, .socket nothing, .socket { nothing with accept := 7 }, .check]

theorem sessions_isolated_firstClient :
    ∃ tr s, (mainLoop rawMode 3 silentVoice).Run tr s ∧
      s.history = [.accepted, .copied [0xAD, 7, 7], .sent [0xAD, 7]] ∧
      Isolated rawMode.trim s.history := by
  have he : (execute (LoopState.step rawMode 3) (.start 3 silentVoice)
      (firstClient ++ writable)).map (fun r =>
        (r.2.history, decide (∀ x ∈ r.1, CleanAccept rawMode 3 x.pre x.act))) =
      some ([.accepted, .copied [0xAD, 7, 7], .sent [0xAD, 7]], true) := by decide
  obtain ⟨⟨tr, s⟩, hrun, heq⟩ := Option.map_eq_some_iff.mp he
  obtain ⟨hhist, hclean⟩ := Prod.mk.inj heq
  exact ⟨tr, s, run_of_execute hrun, hhist,
    sessions_isolated (run_of_execute hrun) (of_decide_eq_true hclean)⟩

/-- Client 7 is sent what was buffered for client 5. -/
theorem not_isolated_replacedClient :
    ¬ ∀ tr s, (mainLoop rawMode 3 silentVoice).Run tr s → Isolated rawMode.trim s.history := by
  intro hall
  have he : (execute (LoopState.step rawMode 3) (.start 3 silentVoice)
      (firstClient ++ replaced ++ writable)).map (fun r => r.2.history) =
      some [.accepted, .copied [0xAD, 7, 7], .accepted, .sent [0xAD, 7]] := by decide
  obtain ⟨⟨tr, s⟩, hrun, hhist⟩ := Option.map_eq_some_iff.mp he
  have hiso := hall tr s (run_of_execute hrun)
  rw [hhist] at hiso
  exact absurd hiso.length_le (by decide)

end Sloane.Btremoted
