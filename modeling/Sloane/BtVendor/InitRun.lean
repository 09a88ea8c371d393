import Sloane.BtVendor.FwConfig

/-!
# One run of the firmware init, with the bytes it sends

`BT_InitDevice` and `GORM_FW_Init_Thread` once more, now with the parameters of the commands, the
device address and NVRAM, for a run that nothing interrupts: every command is answered before the
next one is sent.  The static variables of the library are read at the start of a run and left at
its end.

* `HciCommand.lengths` — both length fields of a command agree with its parameters.
* `RunState.runCommand`, `runLoop`, `gormFwInit` — a command, the loop and the run.
* `script_case` — where the commands for the address are in the scripts.
* `runLoop_same` — of the static variables only `fgGetEFUSE` and `ucDefaultAddr` matter.
* `runLoop_preserved` — what every command keeps is kept by a run.
-/

namespace Sloane.BtVendor

/-! ## Commands -/

/-- A field of `ap_nvram_btradio_struct`. -/
def NvRamData.field (d : NvRamData) (offset size : Nat) : List UInt8 :=
  (d.raw.drop offset).take size

def NvRamData.voice (d : NvRamData) : List UInt8 := d.field 6 2
def NvRamData.codec (d : NvRamData) : List UInt8 := d.field 8 4
def NvRamData.radio (d : NvRamData) : List UInt8 := d.field 12 6
def NvRamData.sleep (d : NvRamData) : List UInt8 := d.field 18 7
def NvRamData.btFTR (d : NvRamData) : List UInt8 := d.field 25 2
def NvRamData.txPWOffset (d : NvRamData) : List UInt8 := d.field 27 3
def NvRamData.coexAdjust (d : NvRamData) : List UInt8 := d.field 30 6
def NvRamData.radioExt (d : NvRamData) : List UInt8 := d.field 36 2
def NvRamData.txPWOffsetExt (d : NvRamData) : List UInt8 := d.field 38 4

/-- `btinit`, while the thread runs: the address of the record may change. -/
structure BtInitVar where
  chipId : Nat
  bdAddr : List UInt8
  record : NvRamData

/-- The parameters that each command function writes. -/
def HciCommand.params (v : BtInitVar) : HciCommand → List UInt8
  | .getLocalBDAddr => []
  | .setLocalBDAddr => v.bdAddr.reverse
  | .setLinkKeyType => [0x01]
  | .setUnitKey =>
      [0x00, 0x00, 0x00, 0x00, 0x00, 0x00, 0x00, 0x00, 0x00, 0x00, 0x00, 0x00, 0x00, 0x00, 0x00,
        0x00]
  | .setEncryption => [0x00, 0x02, 0x10]
  | .setPinCodeType => [0x00]
  | .setVoice => v.record.voice
  | .setPCM => v.record.codec
  | .setRadio =>
      if v.chipId ≠ 0x6632 then v.record.radio else v.record.radio ++ v.record.radioExt
  | .setTXPowerOffset =>
      if v.chipId ≠ 0x6632 then v.record.txPWOffset
      else v.record.txPWOffset ++ v.record.txPWOffsetExt.take 3
  | .setSleepTimeout => v.record.sleep
  | .coexPerformanceAdjust => v.record.coexAdjust
  | .setBTFTR => v.record.btFTR
  | .setOSCInfo => [0x01, 0x01, 0x14, 0x0A, 0x08]
  | .setLPOInfo => [0x01, 0xFA, 0x0A, 0x02, 0x00, 0xA6, 0x0E, 0x00, 0x40, 0x00]
  | .setPTA => [0xC9, 0x8B, 0xBF, 0x00, 0x00, 0x52, 0x0E, 0x0E, 0x1F, 0x1B]
  | .setBLEPTA => [0x16, 0x0E, 0x0E, 0x00, 0x07]
  | .setInternalPTA1 =>
      [0x00, 0x01, 0x0F, 0x0F, 0x01, 0x0F, 0x0F, 0x01, 0x0F, 0x0F, 0x01, 0x0F, 0x0F, 0x02, 0x01]
  | .setInternalPTA2 => [0x01, 0x19, 0x19, 0x07, 0xD0, 0x00, 0x01]
  | .setRFReg100 => [0x64, 0x01, 0x02, 0x00, 0x00, 0x00]
  | .reset => []
  | .setFWSysLog => [0x05]
  | .setSSPDebugMode => [0x01]

/-- The parameter length that each command function writes. -/
def HciCommand.paramLen (chipId : Nat) : HciCommand → Nat
  | .getLocalBDAddr | .reset => 0
  | .setLocalBDAddr | .coexPerformanceAdjust | .setRFReg100 => 6
  | .setLinkKeyType | .setPinCodeType | .setFWSysLog | .setSSPDebugMode => 1
  | .setUnitKey => 16
  | .setEncryption => 3
  | .setVoice | .setBTFTR => 2
  | .setPCM => 4
  | .setRadio => if chipId ≠ 0x6632 then 6 else 8
  | .setTXPowerOffset => if chipId ≠ 0x6632 then 3 else 6
  | .setSleepTimeout | .setInternalPTA2 => 7
  | .setOSCInfo | .setBLEPTA => 5
  | .setLPOInfo | .setPTA => 10
  | .setInternalPTA1 => 15

/-- `p_cmd->len`. -/
def HciCommand.cmdLen (chipId : Nat) : HciCommand → Nat
  | .getLocalBDAddr | .reset => 3
  | .setLocalBDAddr | .coexPerformanceAdjust | .setRFReg100 => 9
  | .setLinkKeyType | .setPinCodeType | .setFWSysLog | .setSSPDebugMode => 4
  | .setUnitKey => 19
  | .setEncryption => 6
  | .setVoice | .setBTFTR => 5
  | .setPCM => 7
  | .setRadio => if chipId ≠ 0x6632 then 9 else 11
  | .setTXPowerOffset => if chipId ≠ 0x6632 then 6 else 9
  | .setSleepTimeout | .setInternalPTA2 => 10
  | .setOSCInfo | .setBLEPTA => 8
  | .setLPOInfo | .setPTA => 13
  | .setInternalPTA1 => 18

/-- `UINT16_TO_STREAM`. -/
def uint16ToStream (n : Nat) : List UInt8 := [UInt8.ofNat n, UInt8.ofNat (n / 2 ^ 8)]

/-- The packet that `xmit_cb` is given. -/
def HciCommand.packet (c : HciCommand) (v : BtInitVar) : List UInt8 :=
  (uint16ToStream c.wOpCode ++ UInt8.ofNat (c.paramLen v.chipId) :: c.params v).take
    (c.cmdLen v.chipId)

theorem NvRamData.field_length (d : NvRamData) {offset size : Nat} (h : offset + size ≤ 64) :
    (d.field offset size).length = size := by
  rw [field, List.length_take, List.length_drop, d.size]
  omega

/-- **The lengths of every command are right.** -/
theorem HciCommand.lengths (c : HciCommand) (v : BtInitVar) (h : v.bdAddr.length = 6) :
    (c.params v).length = c.paramLen v.chipId ∧ c.cmdLen v.chipId = 3 + c.paramLen v.chipId := by
  have hfield : ∀ {offset size : Nat}, offset + size ≤ 64 →
      (v.record.field offset size).length = size := v.record.field_length
  cases c with
  | setLocalBDAddr => exact ⟨by simp [params, paramLen, h], rfl⟩
  | setRadio =>
    by_cases hchip : v.chipId = 0x6632
    · simp [params, paramLen, cmdLen, hchip, NvRamData.radio, NvRamData.radioExt, hfield]
    · simp [params, paramLen, cmdLen, hchip, NvRamData.radio, hfield]
  | setTXPowerOffset =>
    by_cases hchip : v.chipId = 0x6632
    · simp [params, paramLen, cmdLen, hchip, NvRamData.txPWOffset, NvRamData.txPWOffsetExt, hfield]
    · simp [params, paramLen, cmdLen, hchip, NvRamData.txPWOffset, hfield]
  | setVoice | setPCM | setSleepTimeout | coexPerformanceAdjust | setBTFTR =>
    exact ⟨hfield (by decide), rfl⟩
  | _ => exact ⟨rfl, rfl⟩

/-- So nothing of the packet is cut off. -/
theorem HciCommand.packet_eq (c : HciCommand) (v : BtInitVar) (h : v.bdAddr.length = 6) :
    c.packet v = uint16ToStream c.wOpCode ++ UInt8.ofNat (c.paramLen v.chipId) :: c.params v := by
  obtain ⟨hparams, hcmd⟩ := c.lengths v h
  refine List.take_of_length_le ?_
  simp only [List.length_append, List.length_cons, hparams, hcmd, uint16ToStream, List.length_nil]
  omega

/-! ## A run -/

/-- What `WriteBDAddrToNvram` meets. -/
structure NvramWriteEnv where
  iFileDesc : Int
  recNum : Int
  recSize : Int
  writeRet : Int
  deriving DecidableEq, Repr

/-- Whether `WriteBDAddrToNvram` writes the address. -/
def writeBDAddrToNvram (env : NvramWriteEnv) : Bool :=
  if env.iFileDesc < 0 then false
  else if env.recNum ≠ 1 then false
  else if env.recSize ≠ 64 then false
  else if env.writeRet < 0 then false
  else true

/-- The Command Complete event for a command: its status and the six bytes behind it. -/
structure Reply where
  status : UInt8
  bdAddr : List UInt8
  size : bdAddr.length = 6

/-- What a run is started with and what it meets.  `random` are the three values of `rand`,
`allocs` and `xmits` the results of `alloc` and `xmit_cb` by the number of commands sent before,
and the replies may depend on all that was sent. -/
structure RunInput where
  chipId : Nat
  record : NvRamData
  /-- `BD_ADDR_AUTOGEN` is defined -/
  autogen : Bool
  /-- `persist.bt.syslog.enable` -/
  syslogVal : String
  /-- `persist.bt.sspdebug.enable` -/
  sspdebugVal : String
  random : Nat × Nat × Nat
  allocs : Nat → Bool
  xmits : Nat → Bool
  nvramWrite : NvramWriteEnv
  reply : List (HciCommand × List UInt8) → Reply

/-- The static variables of `radiomod.c`, `btinit` apart, which every run sets to 0 first. -/
structure Statics where
  wOpCode : Nat
  cmdStatus : CmdStatus
  fgGetEFUSE : Bool
  ucDefaultAddr : List UInt8
  deriving DecidableEq, Repr

def Statics.init : Statics := ⟨0, .success, false, List.replicate 6 0⟩

/-- The static variables, `bt_nvram.fields.addr`, and what the run has sent and written. -/
structure RunState extends Statics where
  bdAddr : List UInt8
  sent : List (HciCommand × List UInt8)
  nvram : List (List UInt8)
  deriving DecidableEq, Repr

/-- `GetRandomValue`, which leaves three bytes as they are. -/
def getRandomValue (random : Nat × Nat × Nat) (addr : List UInt8) : List UInt8 :=
  let r0 := UInt8.ofNat (random.1 >>> 24 ||| random.1 >>> 16) &&& 0xFE ||| 0x02
  ((addr.set 0 r0).set 1 (UInt8.ofNat (random.2.1 >>> 8))).set 5 (UInt8.ofNat random.2.2)

namespace RunState

variable (inp : RunInput)

def btInit (s : RunState) : BtInitVar := ⟨inp.chipId, s.bdAddr, inp.record⟩

/-- The address is the default one or zero. -/
def unset (s : RunState) : Bool := s.bdAddr = s.ucDefaultAddr || isMemzero s.bdAddr

def writeNvram (s : RunState) : RunState :=
  if writeBDAddrToNvram inp.nvramWrite then { s with nvram := s.nvram ++ [s.bdAddr] } else s

/-- The first half of `GORMcmd_HCC_Set_Local_BD_Addr`. -/
def chooseAddr (s : RunState) : RunState :=
  let s :=
    if s.unset then
      let s := if inp.autogen then { s with bdAddr := getRandomValue inp.random s.bdAddr } else s
      s.writeNvram inp
    else if s.fgGetEFUSE then s.writeNvram inp
    else s
  { s with fgGetEFUSE := false }

/-- The beginning of a command function. -/
def prepare (c : HciCommand) (s : RunState) : RunState :=
  let s := { s with cmdStatus := .pending, wOpCode := c.wOpCode }
  if c = .setLocalBDAddr then s.chooseAddr inp else s

/-- A command function with the event that ends the command; `false` if the loop is left. -/
def runCommand (c : HciCommand) (s : RunState) : RunState × Bool :=
  let s := s.prepare inp c
  if !inp.xmits s.sent.length then (s, false)
  else
    let s := { s with sent := s.sent ++ [(c, c.packet (s.btInit inp))] }
    let r := inp.reply s.sent
    let s := if c = .getLocalBDAddr then { s with bdAddr := r.bdAddr.reverse } else s
    if r.status = 0 then ({ s with cmdStatus := .success }, true)
    else ({ s with cmdStatus := .fail }, false)

end RunState

/-- Commands that are only sent when a property asks for them. -/
def RunInput.skips (inp : RunInput) : HciCommand → Bool :=
  LoopEnv.skips ⟨inp.syslogVal = "1", inp.sspdebugVal = "1", true⟩

/-- The loop over what is left of the script, and the result. -/
def runLoop (inp : RunInput) : List HciCommand → RunState → RunState × Bool
  | [], s => (s, true)
  | c :: cs, s =>
      if s.cmdStatus = .terminate then (s, false)
      else if inp.skips c then runLoop inp cs s
      else if !inp.allocs s.sent.length then (s, false)
      else
        match s.runCommand inp c with
        | (s, true) => runLoop inp cs s
        | (s, false) => (s, false)

/-- The state in which the loop starts. -/
def startRun (inp : RunInput) (st : Statics) : RunState :=
  { st with
    ucDefaultAddr := (stBtDefaultAddr inp.chipId).getD []
    fgGetEFUSE := st.fgGetEFUSE ||
      (inp.chipId ∉ consysChips && addrUnset inp.chipId inp.record.addr)
    bdAddr := inp.record.addr
    sent := []
    nvram := [] }

/-- `BT_InitDevice` and `GORM_FW_Init_Thread`, with the result for `fwcfg_cb`. -/
def gormFwInit (inp : RunInput) (st : Statics) : RunState × Bool :=
  match curScript inp.chipId with
  | none => ({ st with bdAddr := inp.record.addr, sent := [], nvram := [] }, false)
  | some script =>
      runLoop inp (script.drop (startIndex inp.chipId inp.record.addr st.fgGetEFUSE))
        (startRun inp st)

/-! ## The scripts -/

/-- The chips whose script reads the eFUSE address. -/
def efuseChips : List Nat := [0x6628, 0x6630, 0x6632]

/-- Commands that neither read nor set the address. -/
def NoAddr (cs : List HciCommand) : Prop := .getLocalBDAddr ∉ cs ∧ .setLocalBDAddr ∉ cs

/-- Where the commands for the address are in the scripts. -/
inductive ScriptCase (chipId : Nat) : List HciCommand → Prop
  | efuse {rest} : chipId ∈ efuseChips → chipId ∉ consysChips → NoAddr rest →
      ScriptCase chipId (.getLocalBDAddr :: .setLocalBDAddr :: rest)
  | mt7662 : chipId = 0x7662 → ScriptCase chipId btInitPostloadScript7662
  | consys {rest} : chipId ∉ efuseChips → chipId ∈ consysChips → NoAddr rest →
      ScriptCase chipId (.setLocalBDAddr :: rest)

theorem script_case {chipId : Nat} {script : List HciCommand} (h : curScript chipId = some script) :
    ScriptCase chipId script := by
  unfold curScript at h
  split at h
  · rename_i hchip
    subst hchip
    obtain rfl := Option.some.inj h
    exact .efuse (by decide) (by decide) (by simp [NoAddr])
  split at h
  · rename_i hchip
    subst hchip
    obtain rfl := Option.some.inj h
    exact .efuse (by decide) (by decide) (by simp [NoAddr])
  split at h
  · rename_i hchip
    subst hchip
    obtain rfl := Option.some.inj h
    exact .efuse (by decide) (by decide) (by simp [NoAddr])
  split at h
  · rename_i hchip
    obtain rfl := Option.some.inj h
    exact .mt7662 hchip
  split at h
  · rename_i h28 h30 h32 _ hconsys
    obtain rfl := Option.some.inj h
    exact .consys (by simp [efuseChips, h28, h30, h32]) hconsys (by simp [NoAddr])
  · cases h

theorem mt7662_chip {chipId : Nat} (h : chipId = 0x7662) :
    chipId ∉ efuseChips ∧ chipId ∉ consysChips := by
  rw [h]
  decide

theorem startIndex_zero {chipId : Nat} {addr : List UInt8} {flag : Bool}
    (h : chipId ∈ consysChips ∨ flag = true ∨ addrUnset chipId addr = true) :
    startIndex chipId addr flag = 0 := if_pos h

theorem startIndex_one {chipId : Nat} {addr : List UInt8} {flag : Bool}
    (hchip : chipId ∉ consysChips) (hflag : flag = false) (hset : addrUnset chipId addr = false) :
    startIndex chipId addr flag = 1 := by
  apply if_neg
  simp [hchip, hflag, hset]

/-- A chip with a script has a default address. -/
theorem defaultAddr_of_script {chipId : Nat} {script : List HciCommand}
    (h : curScript chipId = some script) : ∃ addr, stBtDefaultAddr chipId = some addr := by
  unfold stBtDefaultAddr
  unfold curScript at h
  split at h
  · rename_i hchip
    exact ⟨_, if_pos hchip⟩
  rename_i h28
  rw [if_neg h28]
  split at h
  · rename_i hchip
    exact ⟨_, if_pos hchip⟩
  rename_i h30
  rw [if_neg h30]
  split at h
  · rename_i hchip
    exact ⟨_, if_pos hchip⟩
  rename_i h32
  rw [if_neg h32]
  split at h
  · rename_i hchip
    exact ⟨_, if_pos hchip⟩
  rename_i h62
  rw [if_neg h62]
  split at h
  · rename_i hconsys
    exact ⟨_, if_pos hconsys⟩
  · cases h

/-- The test of the command function is that of the thread. -/
theorem unset_startRun {inp : RunInput} {script : List HciCommand}
    (h : curScript inp.chipId = some script) (st : Statics) :
    (startRun inp st).unset = addrUnset inp.chipId inp.record.addr := by
  obtain ⟨addr, haddr⟩ := defaultAddr_of_script h
  simp only [startRun, RunState.unset, addrUnset, haddr, Option.getD_some, Option.some.injEq,
    eq_comm]

/-! ## What a run does -/

namespace RunState

variable {inp : RunInput} {s t : RunState}

theorem chooseAddr_of_unset (h : s.unset = true) : s.chooseAddr inp =
    { RunState.writeNvram inp (if inp.autogen then
        { s with bdAddr := getRandomValue inp.random s.bdAddr } else s) with
      fgGetEFUSE := false } := by
  unfold chooseAddr
  simp only
  rw [if_pos h]

theorem chooseAddr_of_set (h : s.unset = false) : s.chooseAddr inp =
    { (if s.fgGetEFUSE then s.writeNvram inp else s) with fgGetEFUSE := false } := by
  unfold chooseAddr
  simp only
  rw [if_neg (Bool.eq_false_iff.mp h)]

theorem chooseAddr_sent : (s.chooseAddr inp).sent = s.sent := by
  simp only [chooseAddr, writeNvram]
  split_ifs <;> rfl

@[simp] theorem prepare_sent (c : HciCommand) : (s.prepare inp c).sent = s.sent := by
  unfold prepare
  split
  · exact chooseAddr_sent
  · rfl

theorem prepare_fgGetEFUSE (c : HciCommand) : (s.prepare inp c).fgGetEFUSE =
    if c = .setLocalBDAddr then false else s.fgGetEFUSE := by
  unfold prepare
  split <;> rfl

theorem prepare_of_ne {c : HciCommand} (h : c ≠ .setLocalBDAddr) :
    s.prepare inp c = { s with cmdStatus := .pending, wOpCode := c.wOpCode } := by
  unfold prepare
  rw [if_neg h]

/-- What a command does: it sends its packet if `xmit_cb` takes it, and gets on if the answer is a
success. -/
theorem runCommand_spec (inp : RunInput) (s : RunState) (c : HciCommand) :
    (s.runCommand inp c).1.nvram = (s.prepare inp c).nvram ∧
    (s.runCommand inp c).1.fgGetEFUSE = (s.prepare inp c).fgGetEFUSE ∧
    (s.runCommand inp c).1.ucDefaultAddr = (s.prepare inp c).ucDefaultAddr ∧
    (s.runCommand inp c).1.sent = s.sent ++
      (if inp.xmits s.sent.length then [(c, c.packet ((s.prepare inp c).btInit inp))] else []) ∧
    ((s.runCommand inp c).2 = true ↔ inp.xmits s.sent.length = true ∧
      (inp.reply (s.runCommand inp c).1.sent).status = 0) := by
  unfold runCommand
  simp only [prepare_sent]
  cases inp.xmits s.sent.length with
  | false => simp
  | true =>
    simp only [Bool.not_true, Bool.false_eq_true, if_false, if_true, true_and]
    generalize hsent : s.sent ++ [(c, c.packet ((s.prepare inp c).btInit inp))] = sent
    generalize hr : inp.reply sent = r
    split_ifs <;> simp [*]

/-- The same but for the variables that every command sets anew. -/
structure Same (s t : RunState) : Prop where
  fgGetEFUSE : s.fgGetEFUSE = t.fgGetEFUSE
  ucDefaultAddr : s.ucDefaultAddr = t.ucDefaultAddr
  bdAddr : s.bdAddr = t.bdAddr
  sent : s.sent = t.sent
  nvram : s.nvram = t.nvram
  terminate : s.cmdStatus = .terminate ↔ t.cmdStatus = .terminate

theorem Same.refl (s : RunState) : Same s s := ⟨rfl, rfl, rfl, rfl, rfl, Iff.rfl⟩

theorem Same.runCommand (h : Same s t) (c : HciCommand) :
    s.runCommand inp c = t.runCommand inp c := by
  have heq : ({ s with cmdStatus := .pending, wOpCode := c.wOpCode } : RunState) =
      { t with cmdStatus := .pending, wOpCode := c.wOpCode } := by
    simp only [h.fgGetEFUSE, h.ucDefaultAddr, h.bdAddr, h.sent, h.nvram]
  have hprepare : s.prepare inp c = t.prepare inp c := by
    unfold prepare
    simp only
    rw [heq]
  unfold RunState.runCommand
  rw [hprepare]

end RunState

section Loop

variable {inp : RunInput} {s t : RunState}

/-- **Two runs from states that are the same stay so.** -/
theorem runLoop_same (inp : RunInput) (h : s.Same t) (cs : List HciCommand) :
    (runLoop inp cs s).1.Same (runLoop inp cs t).1 ∧
      (runLoop inp cs s).2 = (runLoop inp cs t).2 := by
  induction cs with
  | nil => exact ⟨h, rfl⟩
  | cons c cs ih =>
    unfold runLoop
    by_cases hterm : s.cmdStatus = .terminate
    · rw [if_pos hterm, if_pos (h.terminate.mp hterm)]
      exact ⟨h, rfl⟩
    rw [if_neg hterm, if_neg fun ht => hterm (h.terminate.mpr ht), h.sent, h.runCommand c]
    split
    · exact ih
    split
    · exact ⟨h, rfl⟩
    split
    · exact ⟨.refl _, rfl⟩
    · exact ⟨.refl _, rfl⟩

/-- What every command keeps is kept by a run. -/
theorem runLoop_preserved {P : RunState → Prop} {cs : List HciCommand}
    (hstep : ∀ c ∈ cs, ∀ s : RunState, P s → P (s.runCommand inp c).1) (h : P s) :
    P (runLoop inp cs s).1 := by
  induction cs generalizing s with
  | nil => exact h
  | cons c cs ih =>
    have hrest : ∀ c ∈ cs, ∀ s : RunState, P s → P (s.runCommand inp c).1 :=
      fun d hd => hstep d (List.mem_cons_of_mem _ hd)
    have hone := hstep c List.mem_cons_self s h
    unfold runLoop
    split
    · exact h
    split
    · exact ih hrest h
    split
    · exact h
    split
    · rename_i t heq
      rw [heq] at hone
      exact ih hrest hone
    · rename_i t heq
      rw [heq] at hone
      exact hone

theorem runLoop_sent (cs : List HciCommand) : s.sent <+: (runLoop inp cs s).1.sent := by
  apply runLoop_preserved (P := fun t => s.sent <+: t.sent) ?_ (List.prefix_refl _)
  intro c _ t ht
  obtain ⟨-, -, -, hsent, -⟩ := t.runCommand_spec inp c
  rw [hsent]
  exact ht.trans (List.prefix_append _ _)

/-- Without `GORMcmd_HCC_Set_Local_BD_Addr` NVRAM and the flag stay. -/
theorem runLoop_noAddr {cs : List HciCommand} (hcs : NoAddr cs) :
    (runLoop inp cs s).1.nvram = s.nvram ∧ (runLoop inp cs s).1.fgGetEFUSE = s.fgGetEFUSE := by
  apply runLoop_preserved (P := fun t => t.nvram = s.nvram ∧ t.fgGetEFUSE = s.fgGetEFUSE) ?_
    ⟨rfl, rfl⟩
  intro c hc t ht
  have hne : c ≠ .setLocalBDAddr := fun heq => hcs.2 (heq ▸ hc)
  obtain ⟨hnvram, hflag, -⟩ := t.runCommand_spec inp c
  rw [hnvram, hflag, RunState.prepare_of_ne hne]
  exact ht

/-- A flag that is not set is not set in a run. -/
theorem runLoop_fgGetEFUSE {cs : List HciCommand} (h : s.fgGetEFUSE = false) :
    (runLoop inp cs s).1.fgGetEFUSE = false := by
  apply runLoop_preserved (P := fun t => t.fgGetEFUSE = false) ?_ h
  intro c _ t ht
  obtain ⟨-, hflag, -⟩ := t.runCommand_spec inp c
  rw [hflag, RunState.prepare_fgGetEFUSE, ht, ite_self]

theorem runCommand_cmdStatus (c : HciCommand) :
    (s.runCommand inp c).1.cmdStatus ≠ .terminate := by
  have hprepare : (s.prepare inp c).cmdStatus = .pending := by
    simp only [RunState.prepare, RunState.chooseAddr, RunState.writeNvram]
    split_ifs <;> rfl
  unfold RunState.runCommand
  simp only
  split_ifs <;> simp [hprepare]

/-- No run ends with `CMD_TERMINATE`. -/
theorem runLoop_cmdStatus (cs : List HciCommand) (h : s.cmdStatus ≠ .terminate) :
    (runLoop inp cs s).1.cmdStatus ≠ .terminate := by
  apply runLoop_preserved (P := fun t => t.cmdStatus ≠ .terminate) ?_ h
  intro c _ t _
  exact runCommand_cmdStatus c

/-- The loop at a command that is not skipped. -/
theorem runLoop_cons {c : HciCommand} (cs : List HciCommand) (h : s.cmdStatus ≠ .terminate)
    (hskip : inp.skips c = false) : runLoop inp (c :: cs) s =
      if inp.allocs s.sent.length then
        if (s.runCommand inp c).2 then runLoop inp cs (s.runCommand inp c).1
        else s.runCommand inp c
      else (s, false) := by
  rw [runLoop, if_neg h, hskip]
  simp only [Bool.false_eq_true, if_false]
  cases inp.allocs s.sent.length with
  | false => rfl
  | true =>
    simp only [Bool.not_true, Bool.false_eq_true, if_false, if_true]
    split
    · rename_i heq
      rw [heq]
      rfl
    · rename_i heq
      rw [heq]
      rfl

end Loop

end Sloane.BtVendor
