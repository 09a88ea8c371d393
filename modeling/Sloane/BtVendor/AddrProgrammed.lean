import Sloane.BtVendor.InitRun

/-!
# The device address that a first run programs

* `setAddr_of_set` — with an address of its own, and a script that begins with setting it, the
  device gets that address and NVRAM stays.
* `setAddr_of_efuse` — an address that is read first is written as it is sent.
* `addrProgrammed_iff` — so it is on every chip but the 7662, whose script has no command to read
  the address: there the first index of the loop skips the one that sets it.
-/

namespace Sloane.BtVendor

variable {inp : RunInput} {s : RunState}

/-- The address, as `GORMcmd_HCC_Set_Local_BD_Addr` puts it into its packet. -/
def setAddrPacket (addr : List UInt8) : List UInt8 := [0x1A, 0xFC, 6] ++ addr.reverse

/-- The packets that set the address. -/
def setAddrSent (sent : List (HciCommand × List UInt8)) : List (HciCommand × List UInt8) :=
  sent.filter fun p => p.1 = .setLocalBDAddr

/-- What a first run is to do with the address: one that is neither zero nor the default one is
sent once, and NVRAM stays; on a combo chip any other is read first, and the one that is sent is
the one that is written. -/
def AddrProgrammed (inp : RunInput) : Prop :=
  let s := (gormFwInit inp .init).1
  if addrUnset inp.chipId inp.record.addr then
    inp.chipId ∉ consysChips → s.sent.head?.map Prod.fst = some .getLocalBDAddr ∧
      ∃ addr, setAddrSent s.sent = [(.setLocalBDAddr, setAddrPacket addr)] ∧
        s.nvram = if writeBDAddrToNvram inp.nvramWrite then [addr] else []
  else
    setAddrSent s.sent = [(.setLocalBDAddr, setAddrPacket inp.record.addr)] ∧ s.nvram = []

/-! ## Commands that succeed -/

theorem addr_length (d : NvRamData) : d.addr.length = 6 := by
  rw [NvRamData.addr, List.length_take, d.size]
  rfl

theorem packet_setLocalBDAddr {v : BtInitVar} (h : v.bdAddr.length = 6) :
    HciCommand.setLocalBDAddr.packet v = setAddrPacket v.bdAddr := by
  rw [HciCommand.packet_eq _ _ h]
  rfl

/-- In a run that succeeds every command is sent, and the run goes on after it. -/
theorem runLoop_cons_of_success {c : HciCommand} {cs : List HciCommand}
    (hs : s.cmdStatus ≠ .terminate) (hskip : inp.skips c = false)
    (hok : (runLoop inp (c :: cs) s).2 = true) :
    runLoop inp (c :: cs) s = runLoop inp cs (s.runCommand inp c).1 ∧
      (runLoop inp cs (s.runCommand inp c).1).2 = true ∧
      (s.runCommand inp c).1.sent = s.sent ++ [(c, c.packet ((s.prepare inp c).btInit inp))] := by
  obtain ⟨-, -, -, hsent, hnext⟩ := s.runCommand_spec inp c
  have hcons := runLoop_cons cs hs hskip
  rw [hcons] at hok ⊢
  split at hok
  · rename_i halloc
    split at hok
    · rename_i hgo
      rw [if_pos halloc, if_pos hgo]
      rw [(hnext.mp hgo).1, if_pos rfl] at hsent
      exact ⟨rfl, hok, hsent⟩
    · rename_i hstop
      exact absurd hok hstop
  · cases hok

/-- The first packet stays the first one. -/
theorem head_of_sent {c : HciCommand} {packet : List UInt8} (cs : List HciCommand)
    (h : s.sent = [(c, packet)]) : (runLoop inp cs s).1.sent.head?.map Prod.fst = some c := by
  have hprefix : s.sent <+: (runLoop inp cs s).1.sent := runLoop_sent cs
  obtain ⟨tail, htail⟩ := hprefix
  rw [← htail, h]
  rfl

/-- The commands after it set no address. -/
theorem runLoop_setAddrSent (inp : RunInput) (s : RunState) {cs : List HciCommand}
    (hcs : NoAddr cs) :
    setAddrSent (runLoop inp cs s).1.sent = setAddrSent s.sent := by
  apply runLoop_preserved (P := fun t => setAddrSent t.sent = setAddrSent s.sent) ?_ rfl
  intro c hc t ht
  have hne : c ≠ .setLocalBDAddr := fun heq => hcs.2 (heq ▸ hc)
  obtain ⟨-, -, -, hsent, -⟩ := t.runCommand_spec inp c
  rw [hsent, ← ht]
  unfold setAddrSent
  rw [List.filter_append]
  split <;> simp [hne]

/-! ## Setting the address -/

theorem getRandomValue_length (random : Nat × Nat × Nat) (addr : List UInt8) :
    (getRandomValue random addr).length = addr.length := by
  simp [getRandomValue]

theorem prepare_setAddr_length (h : s.bdAddr.length = 6) :
    (s.prepare inp .setLocalBDAddr).bdAddr.length = 6 := by
  simp only [RunState.prepare, RunState.chooseAddr, RunState.writeNvram]
  split_ifs <;> simp [getRandomValue_length, h]

/-- An address that is set is sent as it is and, without the flag, not written. -/
theorem prepare_of_set (inp : RunInput) (hset : s.unset = false) (hflag : s.fgGetEFUSE = false) :
    (s.prepare inp .setLocalBDAddr).bdAddr = s.bdAddr ∧
      (s.prepare inp .setLocalBDAddr).nvram = s.nvram := by
  unfold RunState.prepare
  rw [if_pos rfl, RunState.chooseAddr_of_set]
  · simp [hflag]
  · exact hset

/-- With the flag, the address is written as it is sent. -/
theorem prepare_of_flag (hflag : s.fgGetEFUSE = true) :
    (s.prepare inp .setLocalBDAddr).nvram = s.nvram ++
      if writeBDAddrToNvram inp.nvramWrite then [(s.prepare inp .setLocalBDAddr).bdAddr]
      else [] := by
  simp only [RunState.prepare, RunState.chooseAddr, RunState.writeNvram, hflag]
  split_ifs <;> simp

/-- A run that sets the address at once. -/
theorem setAddr_run {rest : List HciCommand} (hrest : NoAddr rest) (hs : s.cmdStatus ≠ .terminate)
    (hlen : s.bdAddr.length = 6) (hok : (runLoop inp (.setLocalBDAddr :: rest) s).2 = true) :
    setAddrSent (runLoop inp (.setLocalBDAddr :: rest) s).1.sent = setAddrSent s.sent ++
        [(.setLocalBDAddr, setAddrPacket (s.prepare inp .setLocalBDAddr).bdAddr)] ∧
      (runLoop inp (.setLocalBDAddr :: rest) s).1.nvram =
        (s.prepare inp .setLocalBDAddr).nvram := by
  obtain ⟨hrun, -, hsent⟩ := runLoop_cons_of_success hs rfl hok
  obtain ⟨hnvram, -⟩ := s.runCommand_spec inp .setLocalBDAddr
  rw [hrun, runLoop_setAddrSent _ _ hrest, (runLoop_noAddr hrest).1, hsent, hnvram]
  refine ⟨?_, rfl⟩
  rw [packet_setLocalBDAddr (prepare_setAddr_length hlen)]
  simp [setAddrSent, RunState.btInit]

/-! ## A first run -/

theorem startRun_cmdStatus : (startRun inp .init).cmdStatus ≠ .terminate :=
  show CmdStatus.success ≠ .terminate by decide

/-- **An address of its own is what the device gets.** -/
theorem setAddr_of_set {rest : List HciCommand} {script : List HciCommand}
    (hscript : curScript inp.chipId = some script)
    (hset : addrUnset inp.chipId inp.record.addr = false) (hrest : NoAddr rest)
    (hok : (runLoop inp (.setLocalBDAddr :: rest) (startRun inp .init)).2 = true) :
    let s := (runLoop inp (.setLocalBDAddr :: rest) (startRun inp .init)).1
    setAddrSent s.sent = [(.setLocalBDAddr, setAddrPacket inp.record.addr)] ∧ s.nvram = [] := by
  obtain ⟨hsent, hnvram⟩ := setAddr_run hrest startRun_cmdStatus (addr_length inp.record) hok
  have hflag : (startRun inp .init).fgGetEFUSE = false := by simp [startRun, hset, Statics.init]
  obtain ⟨haddr, hnone⟩ :=
    prepare_of_set inp ((unset_startRun hscript .init).trans hset) hflag
  rw [haddr] at hsent
  exact ⟨hsent, hnvram.trans hnone⟩

/-- **An address that is read first is written as it is sent.** -/
theorem setAddr_of_efuse {rest : List HciCommand} (hs : s.cmdStatus ≠ .terminate)
    (hsent : s.sent = []) (hnvram : s.nvram = []) (hlen : s.bdAddr.length = 6)
    (hflag : s.fgGetEFUSE = true) (hrest : NoAddr rest)
    (hok : (runLoop inp (.getLocalBDAddr :: .setLocalBDAddr :: rest) s).2 = true) :
    let t := (runLoop inp (.getLocalBDAddr :: .setLocalBDAddr :: rest) s).1
    t.sent.head?.map Prod.fst = some .getLocalBDAddr ∧
      ∃ addr, setAddrSent t.sent = [(.setLocalBDAddr, setAddrPacket addr)] ∧
        t.nvram = if writeBDAddrToNvram inp.nvramWrite then [addr] else [] := by
  obtain ⟨hrun, hgo, hread⟩ := runLoop_cons_of_success hs rfl hok
  obtain ⟨hnvram', hflag', -, -, -⟩ := s.runCommand_spec inp .getLocalBDAddr
  rw [RunState.prepare_of_ne (by decide)] at hnvram' hflag'
  have hlen' : (s.runCommand inp .getLocalBDAddr).1.bdAddr.length = 6 := by
    unfold RunState.runCommand
    rw [RunState.prepare_of_ne (by decide)]
    simp only
    split_ifs <;> simp [hlen, Reply.size]
  obtain ⟨hset, hwritten⟩ := setAddr_run hrest (runCommand_cmdStatus _) hlen' hgo
  rw [hsent, List.nil_append] at hread
  simp only [hrun]
  refine ⟨?_, ((s.runCommand inp .getLocalBDAddr).1.prepare inp .setLocalBDAddr).bdAddr, ?_, ?_⟩
  · exact head_of_sent _ hread
  · rw [hset, hread]
    rfl
  · rw [hwritten, prepare_of_flag (hflag'.trans hflag), hnvram', hnvram, List.nil_append]

/-- On the 7662 an address that is not set is set without being read. -/
theorem addrProgrammed_of_unset {script : List HciCommand}
    (hscript : curScript inp.chipId = some script)
    (hun : addrUnset inp.chipId inp.record.addr = true) (hok : (gormFwInit inp .init).2 = true) :
    AddrProgrammed inp ↔ inp.chipId ≠ 0x7662 := by
  unfold AddrProgrammed
  rw [if_pos hun]
  unfold gormFwInit at hok ⊢
  rw [hscript] at hok ⊢
  simp only [startIndex_zero (.inr (.inr hun)), List.drop_zero] at hok ⊢
  cases script_case hscript with
  | efuse hchip hconsys hrest =>
    have hflag : (startRun inp .init).fgGetEFUSE = true := by simp [startRun, hun, hconsys]
    refine iff_of_true (fun _ => ?_) fun h7662 => (mt7662_chip h7662).1 hchip
    exact setAddr_of_efuse startRun_cmdStatus rfl rfl (addr_length inp.record) hflag hrest hok
  | mt7662 h7662 =>
    refine iff_of_false (fun h => ?_) fun hne => hne h7662
    rw [btInitPostloadScript7662] at h hok
    obtain ⟨hrun, -, hsent⟩ := runLoop_cons_of_success startRun_cmdStatus rfl hok
    obtain ⟨hhead, -⟩ := h (mt7662_chip h7662).2
    rw [hrun, head_of_sent _ hsent] at hhead
    exact absurd hhead (by decide)
  | consys _ hconsys _ =>
    exact iff_of_true (fun h => absurd hconsys h) fun h7662 => (mt7662_chip h7662).2 hconsys

/-- On the 7662 an address that is set is left out with the first command. -/
theorem addrProgrammed_of_set {script : List HciCommand}
    (hscript : curScript inp.chipId = some script)
    (hset : addrUnset inp.chipId inp.record.addr = false) (hok : (gormFwInit inp .init).2 = true) :
    AddrProgrammed inp ↔ inp.chipId ≠ 0x7662 := by
  have hclear : Statics.init.fgGetEFUSE = false := rfl
  unfold AddrProgrammed
  rw [if_neg (Bool.eq_false_iff.mp hset)]
  unfold gormFwInit at hok ⊢
  rw [hscript] at hok ⊢
  simp only at hok ⊢
  cases script_case hscript with
  | efuse hchip hconsys hrest =>
    rw [startIndex_one hconsys hclear hset] at hok ⊢
    refine iff_of_true (setAddr_of_set hscript hset hrest hok) ?_
    exact fun h7662 => (mt7662_chip h7662).1 hchip
  | mt7662 h7662 =>
    rw [startIndex_one (mt7662_chip h7662).2 hclear hset]
    refine iff_of_false (fun h => ?_) fun hne => hne h7662
    have hrest : NoAddr (btInitPostloadScript7662.drop 1) := by
      simp [NoAddr, btInitPostloadScript7662]
    rw [runLoop_setAddrSent _ _ hrest] at h
    cases h.1
  | consys _ hconsys hrest =>
    rw [startIndex_zero (.inl hconsys), List.drop_zero] at hok ⊢
    refine iff_of_true (setAddr_of_set hscript hset hrest hok) ?_
    exact fun h7662 => (mt7662_chip h7662).2 hconsys

/-- **The address is programmed on every chip but the 7662.** -/
theorem addrProgrammed_iff (inp : RunInput) {script : List HciCommand}
    (hscript : curScript inp.chipId = some script)
    (hok : (gormFwInit inp .init).2 = true) : AddrProgrammed inp ↔ inp.chipId ≠ 0x7662 := by
  cases hun : addrUnset inp.chipId inp.record.addr with
  | true => exact addrProgrammed_of_unset hscript hun hok
  | false => exact addrProgrammed_of_set hscript hun hok

/-- A controller that accepts everything, and a record with an address of its own. -/
def acceptingRun (chipId : Nat) : RunInput where
  chipId := chipId
  record := ⟨[0x10, 0x20, 0x30, 0x40, 0x50, 0x60] ++ List.replicate 58 0, by decide⟩
  autogen := false
  syslogVal := ""
  sspdebugVal := ""
  random := (0, 0, 0)
  allocs _ := true
  xmits _ := true
  nvramWrite := ⟨3, 1, 64, 6⟩
  reply _ := ⟨0, [1, 2, 3, 4, 5, 6], by decide⟩

/-- The 6630 gets the address of its record. -/
theorem addrProgrammed_6630 : AddrProgrammed (acceptingRun 0x6630) :=
  (addrProgrammed_iff (acceptingRun 0x6630) rfl (by decide)).mpr (by decide)

/-- The 7662 keeps an address that nobody chose. -/
theorem not_addrProgrammed : ¬ ∀ (inp : RunInput) (script : List HciCommand),
    curScript inp.chipId = some script → (gormFwInit inp .init).2 = true → AddrProgrammed inp := by
  intro hall
  have h := hall (acceptingRun 0x7662) btInitPostloadScript7662 rfl (by decide)
  unfold AddrProgrammed at h
  rw [if_neg (by decide)] at h
  exact absurd h.1 (by decide)

end Sloane.BtVendor
