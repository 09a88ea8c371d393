import Sloane.BtVendor.InitRun

/-!
# What an init run keeps from the runs before it

The static variables outlive a run.  All but one of them are set before they are read; the flag
`fgGetEFUSE` is cleared only when the address is set, so a run that stops before that leaves it to
the next one.

* `observed_congr` — what a run sends and writes depends on the flag only.
* `afterRuns_spec` — the flag after a history, from the inputs of its runs.
* `flagLeft_of_reaches` — it is clear if every run got to setting the address.
* `fwInit_independent_iff` — after two histories a run does the same exactly when they leave the
  same flag or the flag makes no difference to the run.
-/

namespace Sloane.BtVendor

/-- The static variables after the runs of a history, in order. -/
def afterRuns (h : List RunInput) : Statics :=
  h.foldl (fun st inp => (gormFwInit inp st).1.toStatics) .init

/-- The commands that a run sends, with their parameters, and the addresses it writes to NVRAM. -/
def observed (inp : RunInput) (st : Statics) : List (HciCommand × List UInt8) × List (List UInt8) :=
  ((gormFwInit inp st).1.sent, (gormFwInit inp st).1.nvram)

namespace RunInput

/-- The run gets to `GORMcmd_HCC_Set_Local_BD_Addr` if it starts with the first command. -/
def reachesSetAddr (inp : RunInput) : Bool :=
  if inp.chipId ∈ efuseChips then
    inp.allocs 0 && inp.xmits 0 &&
      (inp.reply [(.getLocalBDAddr, HciCommand.getLocalBDAddr.packet
        ⟨inp.chipId, inp.record.addr, inp.record⟩)]).status = 0 && inp.allocs 1
  else inp.allocs 0

/-- The flag after a run, from the flag before. -/
def leavesFlag (inp : RunInput) (flag : Bool) : Bool :=
  if (curScript inp.chipId).isNone then flag
  else (flag || (inp.chipId ∉ consysChips && addrUnset inp.chipId inp.record.addr)) &&
    !inp.reachesSetAddr

/-- The inputs with which the flag makes a difference: an address that is neither zero nor the
default one, and a first command that gets far enough to show it. -/
def FlagMatters (inp : RunInput) : Prop :=
  (curScript inp.chipId).isSome ∧ addrUnset inp.chipId inp.record.addr = false ∧
    inp.allocs 0 = true ∧
    if inp.chipId ∈ consysChips then writeBDAddrToNvram inp.nvramWrite = true
    else inp.xmits 0 = true ∨ inp.chipId ∉ efuseChips ∧ writeBDAddrToNvram inp.nvramWrite = true

end RunInput

/-- The flag after a history. -/
def flagLeft (h : List RunInput) : Bool := h.foldl (fun flag inp => inp.leavesFlag flag) false

variable {inp : RunInput} {s t : RunState} {st st' : Statics}

/-! ## The flag -/

/-- The flag in a script that begins with setting the address. -/
theorem runLoop_setAddr_flag {rest : List HciCommand} (hrest : NoAddr rest)
    (hs : s.cmdStatus ≠ .terminate) : (runLoop inp (.setLocalBDAddr :: rest) s).1.fgGetEFUSE =
      (s.fgGetEFUSE && !inp.allocs s.sent.length) := by
  rw [runLoop_cons rest hs rfl]
  obtain ⟨-, hflag, -⟩ := s.runCommand_spec inp .setLocalBDAddr
  rw [RunState.prepare_fgGetEFUSE, if_pos rfl] at hflag
  cases inp.allocs s.sent.length with
  | false => simp
  | true =>
    simp only [if_true, Bool.not_true, Bool.and_false]
    split
    · rw [(runLoop_noAddr hrest).2, hflag]
    · exact hflag

/-- The flag in a script that begins with reading the address. -/
theorem runLoop_getAddr_flag {rest : List HciCommand} (hrest : NoAddr rest)
    (hs : s.cmdStatus ≠ .terminate) (hsent : s.sent = []) :
    (runLoop inp (.getLocalBDAddr :: .setLocalBDAddr :: rest) s).1.fgGetEFUSE =
      (s.fgGetEFUSE && !(inp.allocs 0 && inp.xmits 0 &&
        (inp.reply [(.getLocalBDAddr, HciCommand.getLocalBDAddr.packet (s.btInit inp))]).status
          = 0 && inp.allocs 1)) := by
  rw [runLoop_cons _ hs rfl]
  obtain ⟨-, hflag, -, hnext, hok⟩ := s.runCommand_spec inp .getLocalBDAddr
  rw [RunState.prepare_of_ne (by decide)] at hflag hnext
  rw [hsent] at hnext hok ⊢
  cases halloc : inp.allocs 0 with
  | false => simp
  | true =>
    simp only [if_true, Bool.true_and]
    cases hx : inp.xmits 0 with
    | false =>
      have hstop : (s.runCommand inp .getLocalBDAddr).2 = false := by
        simp [Bool.eq_false_iff, hok, hx]
      simp [hstop, hflag]
    | true =>
      simp only [List.length_nil, hx, if_true, List.nil_append] at hnext
      simp only [List.length_nil, hx, hnext, true_and] at hok
      by_cases hst : (inp.reply [(.getLocalBDAddr,
          HciCommand.getLocalBDAddr.packet (s.btInit inp))]).status = 0
      · rw [if_pos (hok.mpr hst), runLoop_setAddr_flag hrest (runCommand_cmdStatus _), hnext, hflag]
        simp [hst]
      · have hstop : ¬ (s.runCommand inp .getLocalBDAddr).2 = true := fun h => hst (hok.mp h)
        rw [if_neg hstop, hflag]
        simp [hst]

/-- **The flag after a run.** -/
theorem gormFwInit_fgGetEFUSE (hst : st.cmdStatus ≠ .terminate) :
    (gormFwInit inp st).1.fgGetEFUSE = inp.leavesFlag st.fgGetEFUSE := by
  unfold gormFwInit RunInput.leavesFlag
  split
  · rename_i hnone
    simp [hnone]
  rename_i script hscript
  have hstatus : (startRun inp st).cmdStatus ≠ .terminate := hst
  rw [hscript]
  simp only [Option.isNone_some, Bool.false_eq_true, if_false]
  change _ = ((startRun inp st).fgGetEFUSE && _)
  cases hflag : (startRun inp st).fgGetEFUSE with
  | false => exact runLoop_fgGetEFUSE hflag
  | true =>
    -- with the flag set the script begins at its first command
    have hor : st.fgGetEFUSE = true ∨ (inp.chipId ∉ consysChips ∧
        addrUnset inp.chipId inp.record.addr = true) := by simpa [startRun] using hflag
    rw [startIndex_zero (.inr (hor.imp_right And.right)), List.drop_zero, Bool.true_and]
    cases script_case hscript with
    | efuse hchip _ hrest =>
      rw [runLoop_getAddr_flag hrest hstatus rfl, hflag, RunInput.reachesSetAddr, if_pos hchip]
      rfl
    | mt7662 hchip =>
      rw [btInitPostloadScript7662, runLoop_setAddr_flag (by simp [NoAddr]) hstatus, hflag,
        RunInput.reachesSetAddr, if_neg (by rw [hchip]; decide)]
      rfl
    | consys hchip _ hrest =>
      rw [runLoop_setAddr_flag hrest hstatus, hflag, RunInput.reachesSetAddr, if_neg hchip]
      rfl

theorem gormFwInit_cmdStatus (hst : st.cmdStatus ≠ .terminate) :
    (gormFwInit inp st).1.cmdStatus ≠ .terminate := by
  unfold gormFwInit
  split
  · exact hst
  · exact runLoop_cmdStatus _ hst

/-- **The flag after a history**, and that no run of it leaves `CMD_TERMINATE`. -/
theorem afterRuns_spec (h : List RunInput) :
    (afterRuns h).fgGetEFUSE = flagLeft h ∧ (afterRuns h).cmdStatus ≠ .terminate := by
  induction h using List.reverseRecOn with
  | nil => exact ⟨rfl, by decide⟩
  | append_singleton h inp ih =>
    obtain ⟨hflag, hstatus⟩ := ih
    unfold afterRuns flagLeft at *
    simp only [List.foldl_append, List.foldl_cons, List.foldl_nil]
    exact ⟨by rw [gormFwInit_fgGetEFUSE hstatus, hflag], gormFwInit_cmdStatus hstatus⟩

/-- Runs that all get to setting the address leave nothing. -/
theorem flagLeft_of_reaches {h : List RunInput} (hall : ∀ inp ∈ h, inp.reachesSetAddr = true) :
    flagLeft h = false := by
  induction h using List.reverseRecOn with
  | nil => rfl
  | append_singleton h inp ih =>
    rw [List.forall_mem_append] at hall
    have hinp := hall.2 inp (List.mem_singleton.mpr rfl)
    have hbefore := ih hall.1
    unfold flagLeft at *
    rw [List.foldl_append, List.foldl_cons, List.foldl_nil, hbefore, RunInput.leavesFlag, hinp]
    simp

/-! ## What the flag changes -/

/-- With the same flag the runs are the same. -/
theorem observed_congr (hflag : st.fgGetEFUSE = st'.fgGetEFUSE) (hst : st.cmdStatus ≠ .terminate)
    (hst' : st'.cmdStatus ≠ .terminate) : observed inp st = observed inp st' := by
  unfold observed gormFwInit
  split
  · rfl
  · have hsame : (startRun inp st).Same (startRun inp st') :=
      ⟨by simp only [startRun, hflag], rfl, rfl, rfl, rfl, iff_of_false hst hst'⟩
    rw [hflag]
    obtain ⟨h, -⟩ := runLoop_same inp hsame _
    rw [h.sent, h.nvram]

/-- How far the first command of a run gets. -/
theorem runLoop_first (inp : RunInput) (c : HciCommand) (rest : List HciCommand)
    (hs : s.cmdStatus ≠ .terminate)
    (hskip : inp.skips c = false) (hsent : s.sent = []) :
    (inp.allocs 0 = false → runLoop inp (c :: rest) s = (s, false)) ∧
    (inp.allocs 0 = true → inp.xmits 0 = false →
      (runLoop inp (c :: rest) s).1.sent = [] ∧
        (runLoop inp (c :: rest) s).1.nvram = (s.prepare inp c).nvram) ∧
    (inp.allocs 0 = true → inp.xmits 0 = true →
      ∃ packet, [(c, packet)] <+: (runLoop inp (c :: rest) s).1.sent) := by
  rw [runLoop_cons rest hs hskip]
  obtain ⟨hnvram, -, -, hnext, hok⟩ := s.runCommand_spec inp c
  rw [hsent] at hnext hok ⊢
  refine ⟨?_, ?_, ?_⟩
  · intro halloc
    simp [halloc]
  · intro halloc hx
    have hstop : (s.runCommand inp c).2 = false := by simp [Bool.eq_false_iff, hok, hx]
    simp [halloc, hstop, hnext, hx, hnvram]
  · intro halloc hx
    simp only [List.length_nil, hx, if_true, List.nil_append] at hnext
    refine ⟨c.packet ((s.prepare inp c).btInit inp), ?_⟩
    simp only [List.length_nil, halloc, if_true]
    split
    · rw [← hnext]
      exact runLoop_sent rest
    · exact hnext ▸ List.prefix_refl _

/-- Two runs whose first commands differ are told apart by what they send. -/
theorem sent_ne {c d : HciCommand} (hne : c ≠ d) {ps qs : List (HciCommand × List UInt8)}
    (hp : ∃ packet, [(c, packet)] <+: ps) (hq : ∃ packet, [(d, packet)] <+: qs) : ps ≠ qs := by
  obtain ⟨p, ps, rfl⟩ := hp
  obtain ⟨q, qs, rfl⟩ := hq
  intro heq
  exact hne (congrArg Prod.fst (List.cons.inj heq).1)

/-- A command that sets the address the same way in two runs that differ in the flag. -/
theorem runLoop_setAddr_congr {rest : List HciCommand}
    (hs : s.Same { t with fgGetEFUSE := s.fgGetEFUSE })
    (hprepare : s.prepare inp .setLocalBDAddr = t.prepare inp .setLocalBDAddr) :
    (runLoop inp (.setLocalBDAddr :: rest) s).1.sent =
        (runLoop inp (.setLocalBDAddr :: rest) t).1.sent ∧
      (runLoop inp (.setLocalBDAddr :: rest) s).1.nvram =
        (runLoop inp (.setLocalBDAddr :: rest) t).1.nvram := by
  have hsent : s.sent = t.sent := hs.sent
  have hnvram : s.nvram = t.nvram := hs.nvram
  have hterm : s.cmdStatus = .terminate ↔ t.cmdStatus = .terminate := hs.terminate
  have hcommand : s.runCommand inp .setLocalBDAddr = t.runCommand inp .setLocalBDAddr := by
    unfold RunState.runCommand
    rw [hprepare]
  have hskip : inp.skips .setLocalBDAddr = false := rfl
  unfold runLoop
  by_cases ht : t.cmdStatus = .terminate
  · rw [if_pos ht, if_pos (hterm.mpr ht)]
    exact ⟨hsent, hnvram⟩
  · rw [if_neg ht, if_neg fun h => ht (hterm.mp h), hskip, hsent, hcommand]
    simp only [Bool.false_eq_true, if_false]
    split
    · exact ⟨hsent, hnvram⟩
    · exact ⟨rfl, rfl⟩

/-- The flag is looked at only for an address that is set, and only to write it. -/
theorem prepare_setAddr_congr (hs : s.Same { t with fgGetEFUSE := s.fgGetEFUSE })
    (h : t.unset = true ∨ writeBDAddrToNvram inp.nvramWrite = false) :
    s.prepare inp .setLocalBDAddr = t.prepare inp .setLocalBDAddr := by
  obtain ⟨⟨op, status, flag, default⟩, addr, sent, nvram⟩ := s
  obtain ⟨⟨op', status', flag', default'⟩, addr', sent', nvram'⟩ := t
  obtain ⟨-, rfl, rfl, rfl, rfl, -⟩ := hs
  unfold RunState.prepare
  rw [if_pos rfl, if_pos rfl]
  dsimp only at h ⊢
  by_cases hu : RunState.unset ⟨⟨op', status', flag', default⟩, addr, sent, nvram⟩ = true
  · rw [RunState.chooseAddr_of_unset, RunState.chooseAddr_of_unset]
    · cases inp.autogen <;> simp only [RunState.writeNvram] <;> split_ifs <;> rfl
    · exact hu
    · exact hu
  · have hset := Bool.eq_false_iff.mpr hu
    have hro := h.resolve_left hu
    rw [RunState.chooseAddr_of_set, RunState.chooseAddr_of_set]
    · simp only [RunState.writeNvram, hro]
      cases flag <;> cases flag' <;> rfl
    · exact hset
    · exact hset

theorem prepare_setAddr_nvram (hu : s.unset = false) :
    (s.prepare inp .setLocalBDAddr).nvram =
      if s.fgGetEFUSE && writeBDAddrToNvram inp.nvramWrite then s.nvram ++ [s.bdAddr]
      else s.nvram := by
  unfold RunState.prepare
  rw [if_pos rfl, RunState.chooseAddr_of_set]
  · simp only [RunState.writeNvram]
    cases s.fgGetEFUSE with
    | false => rfl
    | true => cases writeBDAddrToNvram inp.nvramWrite <;> rfl
  · exact hu

/-- After the address is set, no address is written any more. -/
theorem runLoop_setAddr_nvram (inp : RunInput) {rest : List HciCommand} (hrest : NoAddr rest)
    (hs : s.cmdStatus ≠ .terminate) (halloc : inp.allocs s.sent.length = true) :
    (runLoop inp (.setLocalBDAddr :: rest) s).1.nvram = (s.prepare inp .setLocalBDAddr).nvram := by
  rw [runLoop_cons rest hs rfl, halloc, if_pos rfl]
  obtain ⟨hnvram, -⟩ := s.runCommand_spec inp .setLocalBDAddr
  split
  · rw [(runLoop_noAddr hrest).1, hnvram]
  · exact hnvram

/-- What two runs have sent and written is the same. -/
def Agree (s t : RunState) : Prop := s.sent = t.sent ∧ s.nvram = t.nvram

/-- Two states in which a run can start with an address that is set: one with the flag and one
without it. -/
structure Differ (s t : RunState) : Prop where
  same : s.Same { t with fgGetEFUSE := s.fgGetEFUSE }
  flag : s.fgGetEFUSE = true
  noFlag : t.fgGetEFUSE = false
  set : t.unset = false
  status : t.cmdStatus ≠ .terminate
  sent : t.sent = []
  nvram : t.nvram = []

namespace Differ

variable {rest : List HciCommand} (h : Differ s t)
include h

theorem sent_left : s.sent = [] := (show s.sent = t.sent from h.same.sent).trans h.sent

theorem nvram_left : s.nvram = [] := (show s.nvram = t.nvram from h.same.nvram).trans h.nvram

/-- They agree before they have sent anything. -/
theorem agree : Agree s t :=
  ⟨h.sent_left.trans h.sent.symm, h.nvram_left.trans h.nvram.symm⟩

theorem status_left : s.cmdStatus ≠ .terminate := fun hs => h.status (h.same.terminate.mp hs)

theorem set_left : s.unset = false := by
  have haddr : s.bdAddr = t.bdAddr := h.same.bdAddr
  have hdefault : s.ucDefaultAddr = t.ucDefaultAddr := h.same.ucDefaultAddr
  simpa only [RunState.unset, haddr, hdefault] using h.set

/-- Setting the address writes it where the flag is set. -/
theorem setAddr_nvram : (s.prepare inp .setLocalBDAddr).nvram =
    if writeBDAddrToNvram inp.nvramWrite then [s.bdAddr] else [] := by
  rw [prepare_setAddr_nvram h.set_left, h.flag, h.nvram_left]
  rfl

theorem setAddr_nvram_right : (t.prepare inp .setLocalBDAddr).nvram = [] := by
  rw [prepare_setAddr_nvram h.set, h.noFlag, h.nvram]
  rfl

/-- With the flag the address is read first. -/
theorem efuse_iff : Agree (runLoop inp (.getLocalBDAddr :: .setLocalBDAddr :: rest) s).1
    (runLoop inp (.setLocalBDAddr :: rest) t).1 ↔
      ¬ (inp.allocs 0 = true ∧ inp.xmits 0 = true) := by
  obtain ⟨hs0, hs1, hs2⟩ := runLoop_first inp .getLocalBDAddr (.setLocalBDAddr :: rest)
    h.status_left rfl h.sent_left
  obtain ⟨ht0, ht1, ht2⟩ := runLoop_first inp .setLocalBDAddr rest
    h.status rfl h.sent
  cases halloc : inp.allocs 0 with
  | false =>
    rw [hs0 halloc, ht0 halloc]
    exact iff_of_true h.agree (by simp)
  | true =>
    cases hx : inp.xmits 0 with
    | false =>
      obtain ⟨hss, hsn⟩ := hs1 halloc hx
      obtain ⟨hts, htn⟩ := ht1 halloc hx
      refine iff_of_true ⟨hss.trans hts.symm, ?_⟩ (by simp)
      rw [hsn, htn, h.setAddr_nvram_right, RunState.prepare_of_ne (by decide)]
      exact h.nvram_left
    | true =>
      refine iff_of_false (fun hagree => ?_) (by simp)
      exact sent_ne (by decide) (hs2 halloc hx) (ht2 halloc hx) hagree.1

/-- Without the flag the command that sets the address is left out. -/
theorem skipped_iff {c : HciCommand} {cs : List HciCommand} (hskip : inp.skips c = false)
    (hc : c ≠ .setLocalBDAddr) : Agree (runLoop inp (.setLocalBDAddr :: rest) s).1
    (runLoop inp (c :: cs) t).1 ↔ ¬ (inp.allocs 0 = true ∧
      (inp.xmits 0 = true ∨ writeBDAddrToNvram inp.nvramWrite = true)) := by
  obtain ⟨hs0, hs1, hs2⟩ := runLoop_first inp .setLocalBDAddr rest
    h.status_left rfl h.sent_left
  obtain ⟨ht0, ht1, ht2⟩ := runLoop_first inp c cs h.status hskip h.sent
  cases halloc : inp.allocs 0 with
  | false =>
    rw [hs0 halloc, ht0 halloc]
    exact iff_of_true h.agree (by simp)
  | true =>
    cases hx : inp.xmits 0 with
    | false =>
      obtain ⟨hss, hsn⟩ := hs1 halloc hx
      obtain ⟨hts, htn⟩ := ht1 halloc hx
      unfold Agree
      rw [hss, hts, hsn, htn, h.setAddr_nvram, RunState.prepare_of_ne hc]
      change ([] = [] ∧ _ = t.nvram) ↔ _
      rw [h.nvram]
      cases writeBDAddrToNvram inp.nvramWrite <;> simp
    | true =>
      refine iff_of_false (fun hagree => ?_) (by simp)
      exact sent_ne (Ne.symm hc) (hs2 halloc hx) (ht2 halloc hx) hagree.1

/-- Where the address is set first in either case, the flag decides whether it is written. -/
theorem consys_iff (hrest : NoAddr rest) : Agree (runLoop inp (.setLocalBDAddr :: rest) s).1
    (runLoop inp (.setLocalBDAddr :: rest) t).1 ↔
      ¬ (inp.allocs 0 = true ∧ writeBDAddrToNvram inp.nvramWrite = true) := by
  cases hwrite : writeBDAddrToNvram inp.nvramWrite with
  | false =>
    refine iff_of_true ?_ (by simp)
    exact runLoop_setAddr_congr h.same (prepare_setAddr_congr h.same (.inr hwrite))
  | true =>
    obtain ⟨hs0, -⟩ := runLoop_first inp .setLocalBDAddr rest
      h.status_left rfl h.sent_left
    obtain ⟨ht0, -⟩ := runLoop_first inp .setLocalBDAddr rest h.status
      rfl h.sent
    cases halloc : inp.allocs 0 with
    | false =>
      rw [hs0 halloc, ht0 halloc]
      exact iff_of_true h.agree (by simp)
    | true =>
      refine iff_of_false (fun hagree => ?_) (by simp)
      have hsn := runLoop_setAddr_nvram inp hrest h.status_left (by rwa [h.sent_left])
      have htn := runLoop_setAddr_nvram inp hrest h.status (by rwa [h.sent])
      have heq := hagree.2
      rw [hsn, htn, h.setAddr_nvram, h.setAddr_nvram_right, hwrite] at heq
      cases heq

end Differ

/-- An address that is not set: the flag is set anyway, or not looked at. -/
theorem agree_of_unset {script : List HciCommand} (hscript : curScript inp.chipId = some script)
    (hun : addrUnset inp.chipId inp.record.addr = true)
    (hsame : (startRun inp st).Same
      { startRun inp st' with fgGetEFUSE := (startRun inp st).fgGetEFUSE }) :
    Agree (runLoop inp script (startRun inp st)).1 (runLoop inp script (startRun inp st')).1 := by
  by_cases hchip : inp.chipId ∈ consysChips
  · cases script_case hscript with
    | efuse _ hno _ => exact absurd hchip hno
    | mt7662 h7662 => exact absurd hchip (mt7662_chip h7662).2
    | consys _ _ _ =>
      have hunset := (unset_startRun hscript st').trans hun
      exact runLoop_setAddr_congr hsame (prepare_setAddr_congr hsame (.inl hunset))
  · have hflag : (startRun inp st).fgGetEFUSE = (startRun inp st').fgGetEFUSE := by
      simp [startRun, hun, hchip]
    have hboth : (startRun inp st).Same (startRun inp st') :=
      ⟨hflag, hsame.ucDefaultAddr, hsame.bdAddr, hsame.sent, hsame.nvram, hsame.terminate⟩
    obtain ⟨h, -⟩ := runLoop_same inp hboth script
    exact ⟨h.sent, h.nvram⟩

/-- An address that is set: the flag shows as soon as the first command gets far enough. -/
theorem agree_iff_of_set {script : List HciCommand} (hscript : curScript inp.chipId = some script)
    (hun : addrUnset inp.chipId inp.record.addr = false) (hflag' : st'.fgGetEFUSE = false)
    (hdiffer : Differ (startRun inp st) (startRun inp st')) :
    Agree (runLoop inp script (startRun inp st)).1
      (runLoop inp (script.drop (startIndex inp.chipId inp.record.addr st'.fgGetEFUSE))
        (startRun inp st')).1 ↔ ¬ inp.FlagMatters := by
  unfold RunInput.FlagMatters
  rw [hscript]
  cases script_case hscript with
  | efuse hchip hconsys _ =>
    rw [startIndex_one hconsys hflag' hun]
    refine hdiffer.efuse_iff.trans ?_
    simp [hchip, hconsys, hun]
  | mt7662 h7662 =>
    obtain ⟨hchip, hconsys⟩ := mt7662_chip h7662
    rw [startIndex_one hconsys hflag' hun]
    refine (hdiffer.skipped_iff (c := .setRadio) rfl (by decide)).trans ?_
    simp [hchip, hconsys, hun]
  | consys _ hconsys hrest =>
    rw [startIndex_zero (.inl hconsys), List.drop_zero]
    refine (hdiffer.consys_iff hrest).trans ?_
    simp [hconsys, hun]

/-- **When the flag makes a difference.** -/
theorem observed_flag_iff (hflag : st.fgGetEFUSE = true) (hflag' : st'.fgGetEFUSE = false)
    (hst : st.cmdStatus ≠ .terminate) (hst' : st'.cmdStatus ≠ .terminate) :
    observed inp st = observed inp st' ↔ ¬ inp.FlagMatters := by
  unfold observed gormFwInit
  rw [Prod.mk.injEq]
  split
  · rename_i hnone
    simp [RunInput.FlagMatters, hnone]
  rename_i script hscript
  have hsame : (startRun inp st).Same
      { startRun inp st' with fgGetEFUSE := (startRun inp st).fgGetEFUSE } :=
    ⟨rfl, rfl, rfl, rfl, rfl, iff_of_false hst hst'⟩
  rw [startIndex_zero (.inr (.inl hflag)), List.drop_zero]
  cases hun : addrUnset inp.chipId inp.record.addr with
  | true =>
    rw [startIndex_zero (.inr (.inr hun)), List.drop_zero]
    refine iff_of_true (agree_of_unset hscript hun hsame) ?_
    simp [RunInput.FlagMatters, hun]
  | false =>
    have hunset := (unset_startRun hscript st').trans hun
    exact agree_iff_of_set hscript hun hflag'
      ⟨hsame, by simp [startRun, hflag], by simp [startRun, hflag', hun], hunset, hst', rfl, rfl⟩

/-- **After two histories a run sends the same commands and writes the same addresses exactly when
the histories leave the same flag or the flag makes no difference to the run.** -/
theorem fwInit_independent_iff (h h' : List RunInput) (inp : RunInput) :
    observed inp (afterRuns h) = observed inp (afterRuns h') ↔
      (flagLeft h = flagLeft h' ∨ ¬ inp.FlagMatters) := by
  obtain ⟨hflag, hst⟩ := afterRuns_spec h
  obtain ⟨hflag', hst'⟩ := afterRuns_spec h'
  by_cases heq : flagLeft h = flagLeft h'
  · refine iff_of_true (observed_congr ?_ hst hst') (.inl heq)
    rw [hflag, hflag', heq]
  · refine Iff.trans ?_ ⟨.inr, fun hor => hor.resolve_left heq⟩
    cases hleft : flagLeft h with
    | true =>
      have hright : flagLeft h' = false := by simpa [hleft] using heq
      exact observed_flag_iff (hflag.trans hleft) (hflag'.trans hright) hst hst'
    | false =>
      have hright : flagLeft h' = true := by simpa [hleft] using heq
      rw [eq_comm]
      exact observed_flag_iff (hflag'.trans hright) (hflag.trans hleft) hst' hst

/-! ## A run after one that failed -/

/-- An MT6630 whose record has the default address, and a controller that refuses. -/
def failedRun : RunInput where
  chipId := 0x6630
  record := ⟨[0x00, 0x00, 0x46, 0x66, 0x30, 0x01] ++ List.replicate 58 0, by decide⟩
  autogen := false
  syslogVal := ""
  sspdebugVal := ""
  random := (0, 0, 0)
  allocs _ := true
  xmits _ := true
  nvramWrite := ⟨3, 1, 64, 6⟩
  reply _ := ⟨1, List.replicate 6 0, by decide⟩

theorem laterRecord_length :
    ([0x10, 0x20, 0x30, 0x40, 0x50, 0x60] ++ List.replicate 58 (0 : UInt8)).length = 64 := by decide

theorem laterReply_length : [(1 : UInt8), 2, 3, 4, 5, 6].length = 6 := rfl

/-- The same chip with an address of its own, and a controller that accepts everything. -/
def laterRun : RunInput :=
  { failedRun with
    record := ⟨[0x10, 0x20, 0x30, 0x40, 0x50, 0x60] ++ List.replicate 58 0, laterRecord_length⟩
    reply := fun _ => ⟨0, [1, 2, 3, 4, 5, 6], laterReply_length⟩ }

/-- The device has another address after the failed run than without it. -/
theorem not_fwInit_independent :
    ¬ ∀ h h' inp, observed inp (afterRuns h) = observed inp (afterRuns h') := by
  intro hall
  have hne : (observed laterRun (afterRuns [failedRun])).2 ≠
      (observed laterRun (afterRuns [])).2 := by decide
  exact hne (congrArg Prod.snd (hall [failedRun] [] laterRun))

end Sloane.BtVendor
