import Sloane.BtVendor.AddrProgrammed
import Sloane.BtVendor.CommandComplete
import Sloane.Hci.CommandPacket

/-!
# What an init run puts on the wire

The run of `GORM_FW_Init_Thread` once more, now with the buffer that each command function fills,
and with `transmit_cb`, which registers the opcode and sends the buffer over the H4 protocol.  What
`write` returns is given for each `Send`; the run may have any script, and `notify_thread_exit` may
end it at any command.

* `fill_bytes` — the three lengths of a command function agree, whatever the buffer held before.
* `Carried.command`, `wireLoop_carried` — what a command adds to the stream, and the loop.
* `wireInit_run` — apart from the wire the run is that of `gormFwInit`.
* `init_stream` — the stream of a run is parsed as the commands of its script.
-/

namespace Sloane.BtVendor

open Sloane.Lib Sloane.Hci

/-! ## Commands and the transport -/

def HCI_CMD_MAX_SIZE : Nat := 251

/-- The bytes that a command function writes behind the header. -/
def HciCommand.written (c : HciCommand) (v : BtInitVar) : List UInt8 :=
  uint16ToStream c.wOpCode ++ UInt8.ofNat (c.paramLen v.chipId) :: c.params v

/-- `p_cmd` as the command function passes it to `xmit_cb`. -/
def HciCommand.fill (c : HciCommand) (v : BtInitVar) (pCmd : HcBtHdr) : HcBtHdr :=
  { pCmd with len := c.cmdLen v.chipId, data := pCmd.data.write 0 (c.written v) }

/-- `internal_command` and the UART: what was in `internal_command.opcode` at each `Send`, and the
bytes that have reached the fd. -/
structure Transport where
  internalCommand : InternalCommand
  registered : List Nat
  wire : List UInt8

/-- `transmit_cb`; `none` while `WriteSafely` is still retrying. -/
def transmitCb (rs : List WriteResult) (opcode : Nat) (btHdr : HcBtHdr) (callback : TIntCmdCback)
    (t : Transport) : Option (Transport × Bool) :=
  let internalCommand : InternalCommand := ⟨some callback, opcode⟩
  (H4Protocol.send rs .command (btHdr.data.read 0 btHdr.len)).map fun sent =>
    ({ internalCommand := internalCommand
       registered := t.registered ++ [internalCommand.opcode]
       wire := t.wire ++ sent }, true)

/-! ## A run -/

/-- Where the loop finds `CMD_TERMINATE`, if `notify_thread_exit` has been called. -/
inductive Notice where
  | test
  /-- before the command is marked pending -/
  | check
  /-- while the event is waited for -/
  | wait
  deriving DecidableEq, Repr

/-- The command buffers and the results of `write`, by the number of commands sent before, and the
notices, by the number of commands left in the script. -/
structure XmitEnv where
  buffers : Nat → HcBtHdr
  writes : Nat → List WriteResult
  notice : Nat → Option Notice

structure WireState where
  run : RunState
  transport : Transport

variable (inp : RunInput) (env : XmitEnv)

/-- A command function with `transmit_cb` and the event that ends the command; `false` if the loop
is left. -/
def WireState.runCommand (c : HciCommand) (s : WireState) : Option (WireState × Bool) :=
  let run := s.run.prepare inp c
  let pCmd := c.fill (run.btInit inp) (env.buffers run.sent.length)
  (transmitCb (env.writes run.sent.length) run.wOpCode pCmd c.callback s.transport).map
    fun (transport, ret) =>
      let (run, ok) := s.run.runCommand { inp with xmits := fun _ => ret } c
      (⟨run, transport⟩, ok)

def WireState.setStatus (status : CmdStatus) (s : WireState) : WireState :=
  { s with run := { s.run with cmdStatus := status } }

/-- The loop over what is left of the script, and the result. -/
def wireLoop : List HciCommand → WireState → Option (WireState × Bool)
  | [], s => some (s, true)
  | c :: cs, s =>
      if s.run.cmdStatus = .terminate then some (s, false)
      else if env.notice cs.length = some .test then some (s.setStatus .terminate, false)
      else if inp.skips c then wireLoop cs s
      else if !inp.allocs s.run.sent.length then some (s, false)
      else if env.notice cs.length = some .check then some (s.setStatus .terminate, false)
      else
        match s.runCommand inp env c with
        | none => none
        | some (s, ok) =>
            -- the status is restored for the next run
            if env.notice cs.length = some .wait then some (s.setStatus .success, false)
            else if ok then wireLoop cs s
            else some (s, false)

/-- A run without a script. -/
def noRun (st : Statics) : RunState :=
  { st with bdAddr := inp.record.addr, sent := [], nvram := [] }

/-- A run with the given script, where `internal_command` is as an earlier one has left it. -/
def wireInit (script : Option (List HciCommand)) (st : Statics)
    (internalCommand : InternalCommand) : Option (WireState × Bool) :=
  let transport : Transport := ⟨internalCommand, [], []⟩
  match script with
  | none => some (⟨noRun inp st, transport⟩, false)
  | some script =>
      wireLoop inp env (script.drop (startIndex inp.chipId inp.record.addr st.fgGetEFUSE))
        ⟨startRun inp st, transport⟩

/-! ## Packets -/

/-- A command with the variables that its packet is made from. -/
structure BuiltCommand where
  command : HciCommand
  vars : BtInitVar
  addr_size : vars.bdAddr.length = 6

theorem HciCommand.wOpCode_lt (c : HciCommand) : c.wOpCode < 2 ^ 16 := by
  cases c <;> decide

theorem HciCommand.paramLen_le (c : HciCommand) (chipId : Nat) : c.paramLen chipId ≤ 16 := by
  cases c with
  | setRadio | setTXPowerOffset =>
    simp only [paramLen]
    split <;> omega
  | _ => simp [paramLen]

namespace BuiltCommand

theorem params_length (b : BuiltCommand) :
    (b.command.params b.vars).length = b.command.paramLen b.vars.chipId :=
  (b.command.lengths b.vars b.addr_size).1

theorem params_le (b : BuiltCommand) : (b.command.params b.vars).length ≤ 16 := by
  rw [b.params_length]
  exact b.command.paramLen_le _

def packet (b : BuiltCommand) : CommandPacket where
  opcode := b.command.wOpCode
  params := b.command.params b.vars
  opcode_lt := b.command.wOpCode_lt
  params_lt := Nat.lt_of_le_of_lt b.params_le (by decide)

theorem packet_length (b : BuiltCommand) : b.packet.encode.length ≤ HCI_CMD_MAX_SIZE := by
  have hle : b.packet.params.length ≤ 16 := b.params_le
  rw [CommandPacket.encode_length, HCI_CMD_MAX_SIZE]
  omega

/-- What is written behind the header is the packet, -/
theorem written_eq (b : BuiltCommand) : b.command.written b.vars = b.packet.bytes := by
  unfold HciCommand.written
  rw [← b.params_length]
  rfl

/-- and `len` is its length. -/
theorem cmdLen_eq (b : BuiltCommand) :
    b.command.cmdLen b.vars.chipId = (b.command.written b.vars).length := by
  rw [(b.command.lengths b.vars b.addr_size).2, ← b.params_length]
  simp only [HciCommand.written, uint16ToStream, List.length_append, List.length_cons,
    List.length_nil]
  omega

/-- **`transmit_cb` finds the packet in the buffer**, whatever the buffer held before. -/
theorem fill_bytes (b : BuiltCommand) (pCmd : HcBtHdr) :
    (b.command.fill b.vars pCmd).data.read 0 (b.command.fill b.vars pCmd).len = b.packet.bytes := by
  simp only [HciCommand.fill]
  rw [b.cmdLen_eq, Mem.read_write_self, b.written_eq]

/-- The packet of a run without the wire. -/
theorem packet_bytes (b : BuiltCommand) : b.command.packet b.vars = b.packet.bytes := by
  rw [HciCommand.packet_eq _ _ b.addr_size, ← b.written_eq]
  rfl

end BuiltCommand

/-! ## One command -/

variable {inp env}

/-- The transport has carried the commands that the run has sent. -/
structure Carried (inp : RunInput) (built : List BuiltCommand) (s : WireState) : Prop where
  wire : s.transport.wire = commandCode.encodeAll (built.map BuiltCommand.packet)
  registered : s.transport.registered = built.map fun b => b.packet.opcode
  sent : s.run.sent = built.map fun b => (b.command, b.packet.bytes)
  vars : ∀ b ∈ built, b.vars.chipId = inp.chipId ∧ b.vars.record = inp.record
  addr_size : s.run.bdAddr.length = 6

theorem Carried.nothing {s : RunState} (internalCommand : InternalCommand) (hsent : s.sent = [])
    (h : s.bdAddr.length = 6) : Carried inp [] ⟨s, ⟨internalCommand, [], []⟩⟩ :=
  ⟨rfl, rfl, hsent, nofun, h⟩

/-- The run input for the `xmit_cb` that `transmit_cb` is, which never fails. -/
def RunInput.transmits (inp : RunInput) : RunInput := { inp with xmits := fun _ => true }

namespace RunState

variable {s : RunState}

theorem prepare_wOpCode (c : HciCommand) : (s.prepare inp c).wOpCode = c.wOpCode := by
  simp only [prepare, chooseAddr, writeNvram]
  split_ifs <;> rfl

/-- The address keeps its length. -/
theorem prepare_bdAddr_length (c : HciCommand) (h : s.bdAddr.length = 6) :
    (s.prepare inp c).bdAddr.length = 6 := by
  by_cases hc : c = .setLocalBDAddr
  · rw [hc]
    exact prepare_setAddr_length h
  · rw [prepare_of_ne hc]
    exact h

theorem runCommand_bdAddr_length (c : HciCommand) (h : s.bdAddr.length = 6) :
    (s.runCommand inp c).1.bdAddr.length = 6 := by
  have hprepare : (s.prepare inp c).bdAddr.length = 6 := prepare_bdAddr_length c h
  unfold runCommand
  simp only
  split_ifs <;> simp [hprepare, Reply.size]

/-- A command that is sent and still leaves the loop was refused. -/
theorem runCommand_stop {c : HciCommand} (hx : inp.xmits s.sent.length = true)
    (h : (s.runCommand inp c).2 = false) : (s.runCommand inp c).1.cmdStatus = .fail := by
  unfold runCommand at h ⊢
  simp only [prepare_sent, hx] at h ⊢
  split_ifs at h ⊢ <;> simp_all

end RunState

/-- The packet of a command as it is in a run. -/
def builtCommand (inp : RunInput) (s : RunState) (c : HciCommand) (h : s.bdAddr.length = 6) :
    BuiltCommand :=
  ⟨c, (s.prepare inp c).btInit inp, s.prepare_bdAddr_length c h⟩

/-- The transport after the command. -/
def BuiltCommand.carry (b : BuiltCommand) (t : Transport) : Transport where
  internalCommand := ⟨some b.command.callback, b.packet.opcode⟩
  registered := t.registered ++ [b.packet.opcode]
  wire := t.wire ++ b.packet.encode

theorem transmitCb_eq (b : BuiltCommand) {rs : List WriteResult} (pCmd : HcBtHdr)
    (h : Succeed rs HCI_CMD_MAX_SIZE) (t : Transport) :
    transmitCb rs b.packet.opcode (b.command.fill b.vars pCmd) b.command.callback t =
      some (b.carry t, true) := by
  unfold transmitCb
  rw [b.fill_bytes, send_bytes b.packet (h.mono b.packet_length)]
  rfl

/-- With successful writes the command is sent, and the run goes on as it does without the wire. -/
theorem runCommand_eq {s : WireState} (h : s.run.bdAddr.length = 6)
    (hwrites : ∀ k, Succeed (env.writes k) HCI_CMD_MAX_SIZE) (c : HciCommand) :
    s.runCommand inp env c =
      some (⟨(s.run.runCommand inp.transmits c).1, (builtCommand inp s.run c h).carry s.transport⟩,
        (s.run.runCommand inp.transmits c).2) := by
  have htransmit := transmitCb_eq (builtCommand inp s.run c h)
    (env.buffers (s.run.prepare inp c).sent.length) (hwrites (s.run.prepare inp c).sent.length)
    s.transport
  unfold WireState.runCommand
  simp only [RunState.prepare_wOpCode]
  exact congrArg (Option.map _) htransmit

/-- The event that is waited for after a command is its own. -/
theorem runCommand_pending {s : WireState} (h : s.run.bdAddr.length = 6)
    (hwrites : ∀ k, Succeed (env.writes k) HCI_CMD_MAX_SIZE) (c : HciCommand) :
    ∃ t ok, s.runCommand inp env c = some (t, ok) ∧
      t.transport.internalCommand.Pending (some c) := by
  refine ⟨_, _, runCommand_eq h hwrites c, rfl, fun d hd => ?_⟩
  obtain rfl := Option.some.inj hd
  rfl

/-- **A command adds its packet to the stream.** -/
theorem Carried.command {built : List BuiltCommand} {s : WireState} (h : Carried inp built s)
    (c : HciCommand) :
    Carried inp (built ++ [builtCommand inp s.run c h.addr_size])
      ⟨(s.run.runCommand inp.transmits c).1,
        (builtCommand inp s.run c h.addr_size).carry s.transport⟩ where
  wire := by
    simp only [BuiltCommand.carry, h.wire, List.map_append, FrameCode.encodeAll_append]
    simp [commandCode]
  registered := by
    simp only [BuiltCommand.carry, h.registered, List.map_append, List.map_cons, List.map_nil]
  sent := by
    obtain ⟨-, -, -, hsent, -⟩ := s.run.runCommand_spec inp.transmits c
    have hpacket : c.packet ((s.run.prepare inp c).btInit inp) =
        (builtCommand inp s.run c h.addr_size).packet.bytes :=
      (builtCommand inp s.run c h.addr_size).packet_bytes
    simp only [hsent, h.sent, List.map_append, List.map_cons, List.map_nil]
    rw [← hpacket]
    rfl
  vars b hb := by
    rcases List.mem_append.mp hb with hb | hb
    · exact h.vars b hb
    · rw [List.mem_singleton.mp hb]
      exact ⟨rfl, rfl⟩
  addr_size := RunState.runCommand_bdAddr_length c h.addr_size

/-! ## The loop -/

theorem Carried.setStatus {built : List BuiltCommand} {s : WireState} (h : Carried inp built s)
    (status : CmdStatus) : Carried inp built (s.setStatus status) :=
  ⟨h.wire, h.registered, h.sent, h.vars, h.addr_size⟩

theorem Carried.append_nil {built : List BuiltCommand} {s : WireState} (h : Carried inp built s) :
    Carried inp (built ++ []) s := by
  rwa [List.append_nil]

/-- The commands that are not skipped. -/
def RunInput.issued (inp : RunInput) (cs : List HciCommand) : List HciCommand :=
  cs.filter fun c => !inp.skips c

/-- A run from `s` to `t` issues the commands `new`: all that are not skipped, unless it is told to
end, a buffer is not allocated, or a command is refused. -/
structure Issues (inp : RunInput) (env : XmitEnv) (cs new : List HciCommand) (s t : WireState)
    (ok : Bool) : Prop where
  initial : new <+: inp.issued cs
  all : ok = true → new = inp.issued cs
  cutShort : new ≠ inp.issued cs → (s.run.cmdStatus = .terminate ∨ ∃ k, env.notice k ≠ none) ∨
    inp.allocs t.run.sent.length = false ∨ t.run.cmdStatus = .fail

section Issues

variable {c : HciCommand} {cs new : List HciCommand} {s t : WireState} {ok : Bool}

theorem issued_skip (h : inp.skips c = true) : inp.issued (c :: cs) = inp.issued cs := by
  simp [RunInput.issued, h]

theorem issued_cons (h : inp.skips c = false) : inp.issued (c :: cs) = c :: inp.issued cs := by
  simp [RunInput.issued, h]

/-- There is no command left. -/
theorem Issues.nil (inp : RunInput) (env : XmitEnv) (s : WireState) (ok : Bool) :
    Issues inp env [] [] s s ok :=
  ⟨List.prefix_refl _, fun _ => rfl, fun h => absurd rfl h⟩

/-- The loop is left before the next command. -/
theorem Issues.stop (h : (s.run.cmdStatus = .terminate ∨ ∃ k, env.notice k ≠ none) ∨
    inp.allocs t.run.sent.length = false) : Issues inp env cs [] s t false :=
  ⟨List.nil_prefix, nofun, fun _ => h.imp_right .inl⟩

theorem Issues.skip (hskip : inp.skips c = true) (h : Issues inp env cs new s t ok) :
    Issues inp env (c :: cs) new s t ok := by
  have heq : inp.issued (c :: cs) = inp.issued cs := issued_skip hskip
  constructor <;> rw [heq]
  · exact h.initial
  · exact h.all
  · exact h.cutShort

/-- The loop is left after the command. -/
theorem Issues.last (hskip : inp.skips c = false)
    (h : (∃ k, env.notice k ≠ none) ∨ t.run.cmdStatus = .fail) :
    Issues inp env (c :: cs) [c] s t false where
  initial := by
    rw [issued_cons hskip]
    exact (List.prefix_cons_inj c).mpr List.nil_prefix
  all := nofun
  cutShort _ := h.imp .inr .inr

/-- The command is answered, and the loop goes on. -/
theorem Issues.next {s' : WireState} (hskip : inp.skips c = false)
    (hstatus : s'.run.cmdStatus ≠ .terminate) (h : Issues inp env cs new s' t ok) :
    Issues inp env (c :: cs) (c :: new) s t ok where
  initial := by
    rw [issued_cons hskip]
    exact (List.prefix_cons_inj c).mpr h.initial
  all hok := by rw [issued_cons hskip, h.all hok]
  cutShort hne := by
    have hrest : new ≠ inp.issued cs := by
      intro heq
      rw [issued_cons hskip, heq] at hne
      exact hne rfl
    rcases h.cutShort hrest with (hterm | hnotice) | hcut
    · exact absurd hterm hstatus
    · exact .inl (.inr hnotice)
    · exact .inr hcut

/-- **The loop adds its commands to the stream.** -/
theorem wireLoop_carried {built : List BuiltCommand}
    (hwrites : ∀ k, Succeed (env.writes k) HCI_CMD_MAX_SIZE) (cs : List HciCommand)
    (h : Carried inp built s) :
    ∃ t ok new, wireLoop inp env cs s = some (t, ok) ∧ Carried inp (built ++ new) t ∧
      Issues inp env cs (new.map BuiltCommand.command) s t ok := by
  induction cs generalizing s built with
  | nil => exact ⟨s, true, [], rfl, h.append_nil, .nil inp env s true⟩
  | cons c cs ih =>
    unfold wireLoop
    split
    · rename_i hterm
      exact ⟨s, false, [], rfl, h.append_nil, .stop (.inl (.inl hterm))⟩
    split
    · rename_i hnotice
      refine ⟨_, false, [], rfl, h.append_nil.setStatus .terminate,
        .stop (.inl (.inr ⟨cs.length, ?_⟩))⟩
      simp [hnotice]
    split
    · rename_i hskip
      obtain ⟨t, ok, new, hrun, hcarried, hnew⟩ := ih h
      exact ⟨t, ok, new, hrun, hcarried, hnew.skip hskip⟩
    rename_i hskip
    have hskip : inp.skips c = false := Bool.eq_false_iff.mpr hskip
    split
    · rename_i halloc
      refine ⟨s, false, [], rfl, h.append_nil, .stop (.inr ?_)⟩
      simpa using halloc
    split
    · rename_i hnotice
      refine ⟨_, false, [], rfl, h.append_nil.setStatus .terminate,
        .stop (.inl (.inr ⟨cs.length, ?_⟩))⟩
      simp [hnotice]
    rw [runCommand_eq h.addr_size hwrites c]
    have hcarried := h.command c
    simp only
    split
    · rename_i hnotice
      refine ⟨_, false, [builtCommand inp s.run c h.addr_size], rfl, hcarried.setStatus .success,
        .last hskip (.inl ⟨cs.length, ?_⟩)⟩
      simp [hnotice]
    split
    · obtain ⟨t, ok, new, hrun, hall, hnew⟩ := ih hcarried
      refine ⟨t, ok, builtCommand inp s.run c h.addr_size :: new, hrun, ?_,
        hnew.next hskip (runCommand_cmdStatus c)⟩
      rwa [List.append_assoc] at hall
    · rename_i hok
      have hok : (s.run.runCommand inp.transmits c).2 = false := Bool.eq_false_iff.mpr hok
      exact ⟨_, false, [builtCommand inp s.run c h.addr_size], rfl, hcarried,
        .last hskip (.inr (RunState.runCommand_stop rfl hok))⟩

end Issues

/-- The part of a script that the loop goes through. -/
def scriptRest (inp : RunInput) (script : Option (List HciCommand)) (st : Statics) :
    List HciCommand :=
  (script.getD []).drop (startIndex inp.chipId inp.record.addr st.fgGetEFUSE)

section Quiet

variable (hwrites : ∀ k, Succeed (env.writes k) HCI_CMD_MAX_SIZE)
  (hquiet : ∀ k, env.notice k = none)
include hwrites hquiet

/-- Apart from the wire the loop is `runLoop`, if nothing interrupts it. -/
theorem wireLoop_run {s : WireState} (cs : List HciCommand) (h : s.run.bdAddr.length = 6) :
    ∃ t ok, wireLoop inp env cs s = some (t, ok) ∧
      runLoop inp.transmits cs s.run = (t.run, ok) := by
  induction cs generalizing s with
  | nil => exact ⟨s, true, rfl, rfl⟩
  | cons c cs ih =>
    have hlen : (s.run.runCommand inp.transmits c).1.bdAddr.length = 6 :=
      RunState.runCommand_bdAddr_length c h
    unfold wireLoop runLoop
    rw [show inp.transmits.skips c = inp.skips c from rfl,
      show inp.transmits.allocs = inp.allocs from rfl]
    simp only [hquiet, reduceCtorEq, if_false]
    split
    · exact ⟨s, false, rfl, rfl⟩
    split
    · exact ih h
    split
    · exact ⟨s, false, rfl, rfl⟩
    rw [runCommand_eq h hwrites c]
    generalize s.run.runCommand inp.transmits c = r at hlen ⊢
    obtain ⟨run, ok⟩ := r
    cases ok with
    | false => exact ⟨_, false, rfl, rfl⟩
    | true => exact ih hlen

/-- **Apart from the wire the run is that of `gormFwInit`**, with the script of its chip. -/
theorem wireInit_run (st : Statics) (internalCommand : InternalCommand) :
    ∃ s ok, wireInit inp env (curScript inp.chipId) st internalCommand = some (s, ok) ∧
      gormFwInit inp.transmits st = (s.run, ok) := by
  unfold wireInit gormFwInit
  rw [show inp.transmits.chipId = inp.chipId from rfl]
  cases curScript inp.chipId with
  | none => exact ⟨_, _, rfl, rfl⟩
  | some script =>
    have hlen : (startRun inp st).bdAddr.length = 6 := addr_length inp.record
    exact wireLoop_run hwrites hquiet (scriptRest inp (some script) st) hlen

end Quiet

/-! ## The stream of a run -/

/-- The commands of a script that a run is to send. -/
def scriptCommands (inp : RunInput) (script : Option (List HciCommand)) (st : Statics) :
    List HciCommand :=
  inp.issued (scriptRest inp script st)

/-- The stream of a run is parsed, in one way only, as the packets of its commands, which are those
of the script up to where the run is cut short; each packet has the opcode that was registered when
it was sent, and fits its buffer even with its type. -/
structure InitStream (inp : RunInput) (env : XmitEnv) (script : Option (List HciCommand))
    (st : Statics) (built : List BuiltCommand) (s : WireState) (ok : Bool) : Prop where
  parsed : commandCode.parseAll s.transport.wire = some (built.map BuiltCommand.packet)
  unique : ∀ packets, commandCode.encodeAll packets = s.transport.wire →
    packets = built.map BuiltCommand.packet
  sent : s.run.sent = built.map fun b => (b.command, b.packet.bytes)
  vars : ∀ b ∈ built, b.vars.chipId = inp.chipId ∧ b.vars.record = inp.record
  initial : built.map BuiltCommand.command <+: scriptCommands inp script st
  all : ok = true → built.map BuiltCommand.command = scriptCommands inp script st
  cutShort : built.map BuiltCommand.command ≠ scriptCommands inp script st →
    (st.cmdStatus = .terminate ∨ ∃ k, env.notice k ≠ none) ∨
      inp.allocs built.length = false ∨ s.run.cmdStatus = .fail
  registered : s.transport.registered = built.map fun b => b.packet.opcode
  size : ∀ b ∈ built, b.packet.encode.length ≤ HCI_CMD_MAX_SIZE

theorem Carried.stream {script : Option (List HciCommand)} {st : Statics}
    {built : List BuiltCommand} {start s : WireState} {ok : Bool} (h : Carried inp built s)
    (hstatus : start.run.cmdStatus = st.cmdStatus)
    (hnew : Issues inp env (scriptRest inp script st) (built.map BuiltCommand.command) start s ok) :
    InitStream inp env script st built s ok where
  parsed := (commandCode.parseAll_iff _ _).mpr h.wire
  unique _ hp := commandCode.encodeAll_injective (hp.trans h.wire)
  sent := h.sent
  vars := h.vars
  initial := hnew.initial
  all := hnew.all
  cutShort hne := by
    have hcut := hnew.cutShort hne
    rwa [hstatus, h.sent, List.length_map] at hcut
  registered := h.registered
  size b _ := b.packet_length

/-- A UART that is busy at first, over buffers that are not cleared. -/
def busyUart : XmitEnv where
  buffers _ := ⟨0, 0, 0, 0, fun _ => 0xAA⟩
  writes _ := .again :: .written 3 :: List.replicate HCI_CMD_MAX_SIZE (.written 100)
  notice _ := none

theorem busyUart_succeed (k : Nat) : Succeed (busyUart.writes k) HCI_CMD_MAX_SIZE where
  success r hr := by
    simp only [busyUart, List.mem_cons, List.mem_replicate] at hr
    obtain rfl | rfl | ⟨-, rfl⟩ := hr <;> exact ⟨nofun, nofun⟩
  enough := by
    rw [busyUart, attempts_again, attempts_written, attempts, List.countP_replicate]
    decide

/-- What is registered in such a run. -/
example : (wireInit (acceptingRun 0x6630) busyUart (curScript 0x6630) .init ⟨none, 0⟩).map
    (fun r => r.1.transport.registered) =
      some [0xFC1A, 0xFC72, 0xFC79, 0xFC93, 0xFC7A, 0xFC22] := by decide

end Sloane.BtVendor
