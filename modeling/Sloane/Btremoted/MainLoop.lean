import Sloane.Btremoted.Msbc
import Sloane.Lib.Run

/-!
# The main loop of btremoted

Model of `start_main_loop` and its handlers.  A step is a call of `poll`, one pass of the inner
loop over the sockets, or what follows that loop.  The outcomes of the system calls come with the
action, and `history` records what happened to the voice data.
-/

namespace Sloane.Btremoted

open Sloane.Lib System

variable {C : Codec}

inductive SocketId where
  | sco
  | server
  | client
  deriving DecidableEq, Repr

/-- The bits of `events` and `revents`. -/
structure PollFlags where
  /-- one of `POLLHUP`, `POLLERR` and `POLLNVAL` -/
  hup : Bool := false
  pollIn : Bool := false
  pollOut : Bool := false
  deriving DecidableEq, Repr

structure PollFd where
  fd : Int
  events : PollFlags
  revents : PollFlags
  deriving DecidableEq, Repr

/-- Where the loop stands. -/
inductive LoopPc where
  | poll
  | socket (i : SocketId) (ret : Status)
  /-- behind the inner loop -/
  | check (ret : Status)
  deriving DecidableEq, Repr

structure LoopState (C : Codec) where
  sco : PollFd
  server : PollFd
  client : PollFd
  voice : Voice C
  pc : LoopPc
  history : List VoiceEvent

/-- What `recv` returns: the bytes, or `none` for an error.  `again` tells whether `errno` is
`EAGAIN`, `EWOULDBLOCK` or `EINTR`. -/
structure RecvResult where
  bytes : Option (List UInt8)
  again : Bool
  bytes_le : ∀ bs ∈ bytes, bs.length ≤ SCO_MAX_BUFFER_SZ

/-- The outcomes of the system calls that a pass may make.  The descriptors are negative on
failure; `openSco` is what `open_sco_socket` returns. -/
structure Outcomes where
  recv : RecvResult
  accept : Int
  openSco : Int
  send : SendResult

inductive LoopAct where
  | poll (sco server client : PollFlags)
  | socket (o : Outcomes)
  | check

def LoopState.fds (s : LoopState C) : SocketId → PollFd
  | .sco => s.sco
  | .server => s.server
  | .client => s.client

/-! ## Handlers -/

def closeSocket (p : PollFd) : PollFd := if p.fd ≠ -1 then { p with fd := -1 } else p

def handleDisconnectionEvent (cfg : Config) (i : SocketId) (s : LoopState C) :
    Status × LoopState C :=
  if (s.fds i).fd = s.sco.fd then (.scoClosed, { s with sco := closeSocket s.sco })
  else if (s.fds i).fd = s.client.fd then
    (.success, { s with client := closeSocket s.client, sco := closeSocket s.sco,
                        voice := clearMainBuf cfg s.voice })
  else (.success, s)

/-- `InitPLC` and `last_seq_num = 3`. -/
def startPlc (v : Voice C) : Voice C :=
  { v with plcState := C.initPLC v.plcState, lastSeqNum := 3 }

def handleConnectionEvent (cfg : Config) (s : LoopState C) (accept openSco : Int) :
    Status × LoopState C × List VoiceEvent :=
  let s := if 0 ≤ s.client.fd then { s with client := closeSocket s.client } else s
  if accept < 0 then (.clientFailed, s, [])
  else
    let s := { s with client := { s.client with fd := accept, revents := {} } }
    if s.sco.fd = -1 then
      if openSco < 0 then (.scoFailed, s, [.accepted])
      else
        (.success, { s with sco := { fd := openSco, events := { pollIn := true }, revents := {} },
                            voice := startPlc (clearMainBuf cfg s.voice) }, [.accepted])
    else (.success, { s with voice := startPlc s.voice }, [.accepted])

def handleScoPacket (cfg : Config) (v : Voice C) (r : RecvResult) :
    Status × Voice C × List VoiceEvent :=
  match r.bytes with
  | none => (if r.again then .scoNoData else .scoDataFailed, v, [])
  | some packet =>
      if packet.length < MSBC_SYNC_OFFSET then
        (if r.again then .scoNoData else .scoDataFailed, v, [])
      else handleMsbcData cfg v packet

/-! ## The loop -/

/-- `POLLOUT` is asked for as long as there is buffered data. -/
def updateClientEvents (s : LoopState C) : LoopState C :=
  if 0 ≤ s.client.fd then
    { s with client := { s.client with events := { pollOut := 0 < s.voice.mainBuf.tail } } }
  else s

/-- Go on to the next socket. -/
def advance (i : SocketId) (ret : Status) (s : LoopState C) : LoopState C :=
  match i with
  | .sco => { s with pc := .socket .server ret }
  | .server => { s with pc := .socket .client ret }
  | .client => { s with pc := .check ret }

/-- One pass of the inner loop. -/
def handleSocket (cfg : Config) (serverFd : Int) (i : SocketId) (ret : Status) (o : Outcomes)
    (s : LoopState C) : LoopState C × List VoiceEvent :=
  let p := s.fds i
  if p.fd = -1 ∨ p.revents = {} then (advance i ret s, [])
  else if p.revents.hup then
    let (ret, s) := handleDisconnectionEvent cfg i s
    if ret ≠ .success then ({ s with pc := .check ret }, [])
    else (advance i ret (updateClientEvents s), [])
  else if p.fd = serverFd ∧ p.revents.pollIn then
    let (ret, s, es) := handleConnectionEvent cfg s o.accept o.openSco
    ({ s with pc := .check ret }, es)
  else if p.fd = s.sco.fd then
    let (ret, v, es) := handleScoPacket cfg s.voice o.recv
    (advance i ret (updateClientEvents { s with voice := v }), es)
  else if p.fd = s.client.fd then
    if 0 < s.voice.mainBuf.tail then
      let (_, v, es) := writeToClient s.voice s.client.fd o.send
      (advance i ret (updateClientEvents { s with voice := v }), es)
    else (advance i ret (updateClientEvents s), [])
  else (advance i ret (updateClientEvents s), [])

/-- What follows the inner loop. -/
def checkSco (cfg : Config) (ret : Status) (s : LoopState C) : LoopState C :=
  if (ret = .scoFailed ∨ ret = .scoClosed) ∧ 0 ≤ s.client.fd then
    let v := clearMainBuf cfg s.voice
    { s with client := { closeSocket s.client with events := {} },
             voice := { v with plcState := C.initPLC v.plcState }, pc := .poll }
  else { s with pc := .poll }

/-- `poll` reports a hang-up always and the other bits if they are asked for. -/
def PollFd.poll (p : PollFd) (r : PollFlags) : PollFd :=
  { p with revents := { hup := r.hup, pollIn := r.pollIn && p.events.pollIn,
                        pollOut := r.pollOut && p.events.pollOut } }

def LoopState.next (cfg : Config) (serverFd : Int) (s : LoopState C) (a : LoopAct) :
    Option (LoopState C × List VoiceEvent) :=
  match s.pc, a with
  | .poll, .poll rSco rServer rClient =>
      some ({ s with sco := s.sco.poll rSco, server := s.server.poll rServer,
                     client := s.client.poll rClient, pc := .socket .sco .success }, [])
  | .socket i ret, .socket o => some (handleSocket cfg serverFd i ret o s)
  | .check ret, .check => some (checkSco cfg ret s, [])
  | _, _ => none

/-- A step, with its events added to the history. -/
def LoopState.step (cfg : Config) (serverFd : Int) (s : LoopState C) (a : LoopAct) :
    Option (LoopState C) :=
  (s.next cfg serverFd a).map fun (t, es) => { t with history := s.history ++ es }

/-- The state in which `start_main_loop` first calls `poll`. -/
def LoopState.start (serverFd : Int) (v : Voice C) : LoopState C where
  sco := { fd := -1, events := { pollIn := true }, revents := {} }
  server := { fd := serverFd, events := { pollIn := true }, revents := {} }
  client := { fd := -1, events := { pollIn := true }, revents := {} }
  voice := { v with mainBuf := { v.mainBuf with head := 0, tail := 0 } }
  pc := .poll
  history := []

def mainLoop (cfg : Config) (serverFd : Int) (v : Voice C) : System (LoopState C) LoopAct :=
  ofStep (.start serverFd v) (LoopState.step cfg serverFd)

/-! ## What the passes leave alone -/

@[simp] theorem closeSocket_fd (p : PollFd) : (closeSocket p).fd = -1 := by
  unfold closeSocket
  split
  · rfl
  · rename_i h
    exact not_not.mp h

@[simp] theorem updateClientEvents_voice (s : LoopState C) :
    (updateClientEvents s).voice = s.voice := by
  unfold updateClientEvents
  split <;> rfl

@[simp] theorem updateClientEvents_client_fd (s : LoopState C) :
    (updateClientEvents s).client.fd = s.client.fd := by
  unfold updateClientEvents
  split <;> rfl

@[simp] theorem advance_voice (i : SocketId) (ret : Status) (s : LoopState C) :
    (advance i ret s).voice = s.voice := by
  cases i <;> rfl

@[simp] theorem advance_client (i : SocketId) (ret : Status) (s : LoopState C) :
    (advance i ret s).client = s.client := by
  cases i <;> rfl

theorem handleDisconnectionEvent_history (cfg : Config) (i : SocketId) (s : LoopState C) :
    (handleDisconnectionEvent cfg i s).2.history = s.history ∧
      (handleDisconnectionEvent cfg i s).2.pc = s.pc := by
  unfold handleDisconnectionEvent
  split
  · exact ⟨rfl, rfl⟩
  · split <;> exact ⟨rfl, rfl⟩

theorem checkSco_history (cfg : Config) (ret : Status) (s : LoopState C) :
    (checkSco cfg ret s).history = s.history ∧ (checkSco cfg ret s).pc = .poll := by
  unfold checkSco
  split <;> exact ⟨rfl, rfl⟩

theorem handleScoPacket_appends (cfg : Config) (v : Voice C) (r : RecvResult) :
    Appends v.mainBuf (handleScoPacket cfg v r).2.2 (handleScoPacket cfg v r).2.1.mainBuf := by
  unfold handleScoPacket
  split
  · exact .refl _
  · rename_i packet hbytes
    split
    · exact .refl _
    · exact handleMsbcData_appends cfg v (r.bytes_le packet hbytes)

end Sloane.Btremoted
