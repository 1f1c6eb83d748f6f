import Emmc.Device
import Emmc.Sdhci.Config
import Emmc.Sdhi.Hw

/-!
# Submitting a command to an SDHI controller

`cmdSubmit` sets up the transfer and writes the command register. The DMA engine gets an address of
32 bits: the one of the setup buffer, which `Cmd.initData` cut to 32 bits, or the one of the first
block, which is cut here.

* `Stage`: how far a submission has come: the polls that succeeded, the address that was written.
* `cmdSubmit_spec`: a data command is refused before the command register is written, or its address
  is written once.
* `address_intact_iff`: the address arrives as it was given if and only if it has 32 bits, or the
  command is refused.

The dump of the registers after CMD8 is left out.
-/

namespace Emmc

open Throwing

namespace Sdhi

/-! ## The code -/

/-- `_dma_limit` is not changed by this driver. -/
def dmaLimit : U64 := ~~~0

/-- The check of the IO buffer when the device is created. -/
def checkIoBuf (phys size : U64) : Except RuntimeError Unit :=
  if !dmaAccessible dmaLimit phys size then
    .error ⟨-L4.einval, "IO buffer at " ++ hex08 phys ++ "-" ++ hex08 (phys + size) ++
      " not accessible by DMA"⟩
  else .ok ()

/-- The field for the response type. -/
def responseMode (c : Cmd) : Option U32 :=
  let rsp := c.cmd &&& Mmc.rspMask
  if rsp = Mmc.rspNone then some RegSdCmd.respNone
  else if rsp = Mmc.respR1 then some RegSdCmd.respR1
  else if rsp = Mmc.respR1b then some RegSdCmd.respR1b
  else if rsp = Mmc.respR2 then some RegSdCmd.respR2
  else if rsp = Mmc.respR3 then some RegSdCmd.respR3
  else none

def isRead (c : Cmd) : Bool := c.cmd &&& Mmc.dirRead ≠ 0

def dtranMode (c : Cmd) : U32 :=
  let raw := RegDmCmDtranMode.busWidth.set 0 RegDmCmDtranMode.bus64bits
  let raw := RegDmCmDtranMode.addrMode.set raw RegDmCmDtranMode.incrAddr
  RegDmCmDtranMode.chNum.set raw
    (if isRead c then RegDmCmDtranMode.ch1Read else RegDmCmDtranMode.ch0Write)

/-- The word that is written to `Dm_dtran_addr`. -/
def dtranAddr (c : Cmd) : U32 :=
  match c.blocks with
  | b :: _ => b.dmaAddr.setWidth 32
  | [] => c.dataPhys

/-- Unmask the DMA interrupts of one direction. -/
def unmaskDma (c : Cmd) : HwM Unit := do
  let info1 ← readReg .dmCmInfo1Mask
  let info2 ← readReg .dmCmInfo2Mask
  if isRead c then
    writeReg .dmCmInfo1Mask
      (RegDmCmInfo1Mask.dtranend11Mask.put (RegDmCmInfo1Mask.dtranend12Mask.put info1 false) false)
    writeReg .dmCmInfo2Mask (RegDmCmInfo2Mask.dtranerr1Mask.put info2 false)
  else
    writeReg .dmCmInfo1Mask (RegDmCmInfo1Mask.dtranend0Mask.put info1 false)
    writeReg .dmCmInfo2Mask (RegDmCmInfo2Mask.dtranerr0Mask.put info2 false)

def setupDma (c : Cmd) : HwM Unit := do
  writeReg .dmCmInfo1 0
  writeReg .ccExtMode (RegCcExtMode.dmasdrw.put RegCcExtMode.fresh true)
  writeReg .dmCmDtranMode (dtranMode c)
  writeReg .dmDtranAddr (dtranAddr c)
  unmaskDma c

/-- The part of `cmd_submit` for data. -/
def setupData (c : Cmd) : HwM Unit := do
  let sdSize := RegSdSize.len.set 0 c.blocksize
  if RegSdSize.len.get sdSize ≠ c.blocksize then
    throw ⟨-L4.einval, "Size of data blocks to transfer"⟩
  writeReg .sdSize sdSize
  writeReg .sdStop (RegSdStop.sec.put 0 (1 < c.blockcnt))
  writeReg .sdSeccnt c.blockcnt
  setupDma c

/-- The command register. -/
def sdCmd (c : Cmd) (mode : U32) : U32 :=
  let raw := RegSdCmd.mode.set (RegSdCmd.cf.set 0 c.cmdIdx) mode
  if c.flags.hasData then
    RegSdCmd.md4.put (RegSdCmd.md5.put (RegSdCmd.md3.put raw true) (1 < c.blockcnt)) (isRead c)
  else raw

def sendCommand (c : Cmd) (mode : U32) : HwM Unit := do
  writeReg .sdInfoMask (RegSdInfoMask.enableInts (~~~0))
  writeReg .sdArg c.arg
  writeReg .sdCmd (sdCmd c mode)

def cmdSubmit : Action Hw Unit := do
  let c := (← get).1
  if c.status ≠ .readyForSubmit then
    throw ⟨-L4.einval, "Invalid command submit status"⟩
  match responseMode c with
  | none => throw ⟨-L4.einval, "Unexpected response type"⟩
  | some mode =>
    onHw (if c.flags.hasData then setupData c else pure ())
    onHw (sendCommand c mode)
    modify fun t => ({ t.1 with status := .progressCmd }, t.2)

/-! ## How far a submission has come -/

/-- The addresses written to the DMA engine. -/
def addresses (log : List (Regs × U32)) : List U32 :=
  log.filterMap fun e => if e.1 = .dmDtranAddr then some e.2 else none

/-- An address is recorded when its register is written. -/
theorem addresses_cons (e : Regs × U32) (log : List (Regs × U32)) :
    addresses (e :: log) =
      if e.1 = .dmDtranAddr then e.2 :: addresses log else addresses log := by
  rw [addresses, List.filterMap_cons]
  by_cases addr : e.1 = .dmDtranAddr
  · rw [if_pos addr, if_pos addr, addresses]
  · rw [if_neg addr, if_neg addr, addresses]

/-- Behind `n` successful polls; `a` is the address that was written. -/
structure Stage (n : Nat) (a : Option U32) (h h' : Hw) : Prop where
  polls : h'.polls = h.polls.drop n
  passed : ∀ done ∈ h.polls.take n, done = true
  log : ∃ new, h'.log = new ++ h.log ∧ (∀ e ∈ new, e.1 ≠ .sdCmd) ∧ addresses new = a.toList

variable {n : Nat} {a : Option U32} {h h' : Hw}

/-- Before the first write, no poll was made and no address was written. -/
theorem stage_start (h : Hw) : Stage 0 none h h where
  polls := rfl
  passed done member := by cases member
  log := ⟨[], rfl, fun _ member => (List.not_mem_nil member).elim, rfl⟩

/-- A register that neither sends nor holds the address can be written at any stage. -/
theorem Stage.write (stage : Stage n a h h') {r : Regs} (noCmd : r ≠ .sdCmd)
    (noAddr : r ≠ .dmDtranAddr) (value : U32) : Stage n a h (h'.setReg r value) := by
  obtain ⟨new, log, quiet, addrs⟩ := stage.log
  refine ⟨stage.polls, stage.passed, (r, value) :: new, congrArg ((r, value) :: ·) log, ?_, ?_⟩
  · intro e member
    rcases List.mem_cons.mp member with rfl | old
    · exact noCmd
    · exact quiet e old
  · rw [addresses_cons, if_neg noAddr, addrs]

/-- The address is written once. -/
theorem Stage.address (stage : Stage n none h h') (value : U32) :
    Stage n (some value) h (h'.setReg .dmDtranAddr value) := by
  obtain ⟨new, log, quiet, addrs⟩ := stage.log
  refine ⟨stage.polls, stage.passed, (.dmDtranAddr, value) :: new,
    congrArg ((Regs.dmDtranAddr, value) :: ·) log, ?_, ?_⟩
  · intro e member
    rcases List.mem_cons.mp member with rfl | old
    · exact fun same => by cases same
    · exact quiet e old
  · rw [addresses_cons, if_pos rfl, addrs]
    rfl

/-- A poll in time leads to the next stage. -/
theorem Stage.poll (stage : Stage n a h h') (done : h'.polls.headD true = true) :
    Stage (n + 1) a h h'.afterPoll := by
  rw [stage.polls] at done
  refine ⟨?_, ?_, stage.log⟩
  · rw [Hw.afterPoll, stage.polls, List.tail_drop]
  · intro d member
    rw [List.take_add_one] at member
    rcases List.mem_append.mp member with old | last
    · exact stage.passed d old
    · rw [List.headD_eq_head?_getD, List.head?_drop] at done
      cases there : h.polls[n]? with
      | none =>
        rw [there] at last
        cases last
      | some d' =>
        rw [there] at last done
        rw [List.mem_singleton.mp last]
        exact done

/-- A poll that is late is one of the first ones. -/
theorem Stage.timeout (stage : Stage n a h h') (late : h'.polls.headD true = false) :
    false ∈ h.polls.take (n + 1) := by
  rw [stage.polls, List.headD_eq_head?_getD, List.head?_drop] at late
  rw [List.take_add_one]
  apply List.mem_append_right
  cases there : h.polls[n]? with
  | none =>
    rw [there] at late
    cases late
  | some d =>
    rw [there] at late
    rw [late.symm]
    exact List.mem_singleton_self d

/-- No command was issued. -/
def Unsent (h h' : Hw) : Prop := ∃ new, h'.log = new ++ h.log ∧ ∀ e ∈ new, e.1 ≠ .sdCmd

/-- Until the last write nothing is sent. -/
theorem Stage.unsent (stage : Stage n a h h') : Unsent h h' := by
  obtain ⟨new, log, quiet, -⟩ := stage.log
  exact ⟨new, log, quiet⟩

theorem Stage.wp_free (stage : Stage n a h h') {r : Regs} (free : r.polled = none)
    (noAddr : r ≠ .dmDtranAddr) {value : U32} {Q : Unit → Hw → Prop} {E : RuntimeError → Hw → Prop}
    (next : ∀ h'', Stage n a h h'' → Q () h'') : wp (writeReg r value) Q E h' := by
  have noCmd : r ≠ .sdCmd := by
    intro same
    rw [same] at free
    cases free
  rw [wp_writeReg_free free]
  exact next _ (stage.write noCmd noAddr value)

/-- Before some registers the bus must be idle: either the poll is in time, or the submission throws with
nothing sent. -/
theorem Stage.wp_polled (stage : Stage n a h h') {r : Regs} {text : String}
    (polled : r.polled = some text) (noCmd : r ≠ .sdCmd) {value : U32} {Q : Unit → Hw → Prop}
    {E : RuntimeError → Hw → Prop} (next : ∀ h'', Stage (n + 1) a h h'' → Q () h'')
    (late : ∀ e h'', false ∈ h.polls.take (n + 1) → Unsent h h'' → E e h'') :
    wp (writeReg r value) Q E h' := by
  have noAddr : r ≠ .dmDtranAddr := by
    intro same
    rw [same] at polled
    cases polled
  rw [wp_writeReg_polled polled]
  apply And.intro
  · intro done
    exact next _ ((stage.poll done).write noCmd noAddr value)
  · intro timeout
    exact late _ _ (stage.timeout timeout) stage.unsent

theorem mem_take_mono {polls : List Bool} {k : Nat} (less : n ≤ k) (late : false ∈ polls.take n) :
    false ∈ polls.take k :=
  (List.take_sublist_take_left less).subset late

/-! ## What a submission does -/

theorem Stage.wp_unmask (stage : Stage n a h h') (info1 info2 : U32) :
    wp (do
      writeReg .dmCmInfo1Mask info1
      writeReg .dmCmInfo2Mask info2) (fun _ h'' => Stage n a h h'') (fun _ _ => False) h' := by
  rw [wp_bind]
  apply stage.wp_free rfl (fun same => by cases same)
  intro h₁ stage₁
  exact stage₁.wp_free rfl (fun same => by cases same) fun _ stage₂ => stage₂

/-- Which interrupts are unmasked depends on the direction. -/
theorem unmaskDma_spec (c : Cmd) (stage : Stage n a h h') :
    wp (unmaskDma c) (fun _ h'' => Stage n a h h'') (fun _ _ => False) h' := by
  rw [unmaskDma, wp_bind, wp_readReg, wp_bind, wp_readReg, wp_ite]
  exact ⟨fun _ => stage.wp_unmask _ _, fun _ => stage.wp_unmask _ _⟩

/-- The address is written behind the fourth poll. -/
theorem setupDma_spec (c : Cmd) (stage : Stage 3 none h h') :
    wp (setupDma c) (fun _ h'' => Stage 4 (some (dtranAddr c)) h h'')
      (fun _ h'' => false ∈ h.polls.take 4 ∧ Unsent h h'') h' := by
  rw [setupDma, wp_bind]
  apply stage.wp_free rfl (fun same => by cases same)
  intro h₁ stage₁
  rw [wp_bind]
  apply stage₁.wp_polled rfl (fun same => by cases same)
  · intro h₂ stage₂
    rw [wp_bind]
    apply stage₂.wp_free rfl (fun same => by cases same)
    intro h₃ stage₃
    rw [wp_bind, wp_writeReg_free rfl]
    exact (unmaskDma_spec c (stage₃.address (dtranAddr c))).mono (fun _ _ stage₄ => stage₄)
      (fun _ _ never => never.elim)
  · intro _ h₂ late unsent
    exact ⟨late, unsent⟩

/-- Setting up the data takes four polls, and a block size that fits. -/
theorem setupData_spec (c : Cmd) (h : Hw) :
    wp (setupData c)
      (fun _ h' => c.blocksize.toNat < 2 ^ 10 ∧ Stage 4 (some (dtranAddr c)) h h')
      (fun _ h' => (2 ^ 10 ≤ c.blocksize.toNat ∨ false ∈ h.polls.take 4) ∧ Unsent h h') h := by
  have fits : RegSdSize.len.get (RegSdSize.len.set 0 c.blocksize) = c.blocksize ↔
      c.blocksize.toNat < 2 ^ 10 := Bitfield.get_set_eq_iff RegSdSize.len 0 c.blocksize
  have stopped : ∀ {k : Nat} {h' : Hw}, k ≤ 4 → false ∈ h.polls.take k → Unsent h h' →
      (2 ^ 10 ≤ c.blocksize.toNat ∨ false ∈ h.polls.take 4) ∧ Unsent h h' := by
    intro k h' early late unsent
    exact ⟨Or.inr (mem_take_mono early late), unsent⟩
  rw [setupData]
  simp only [wp_bind, wp_ite, wp_throw]
  apply And.intro
  · intro large
    exact ⟨Or.inl (Nat.le_of_not_lt (fun small => large (fits.mpr small))),
      (stage_start h).unsent⟩
  · intro same
    have small := fits.mp (not_not.mp same)
    apply (stage_start h).wp_polled rfl (fun same => by cases same) ?_ (fun _ _ => stopped (by decide))
    intro h₁ stage₁
    apply stage₁.wp_polled rfl (fun same => by cases same) ?_ (fun _ _ => stopped (by decide))
    intro h₂ stage₂
    apply stage₂.wp_polled rfl (fun same => by cases same) ?_ (fun _ _ => stopped (by decide))
    intro h₃ stage₃
    exact (setupDma_spec c stage₃).mono (fun _ _ stage₄ => ⟨small, stage₄⟩)
      (fun _ _ late => stopped (Nat.le_refl 4) late.1 late.2)

/-- Sending takes the fifth poll, and writes no address. -/
theorem sendCommand_spec (c : Cmd) (mode : U32) (stage : Stage 4 a h h') :
    wp (sendCommand c mode)
      (fun _ h'' => false ∉ h.polls.take 5 ∧
        ∃ new, h''.log = new ++ h.log ∧ addresses new = a.toList)
      (fun _ h'' => false ∈ h.polls.take 5 ∧ Unsent h h'') h' := by
  rw [sendCommand, wp_bind]
  apply stage.wp_free rfl (fun same => by cases same)
  intro h₁ stage₁
  rw [wp_bind]
  apply stage₁.wp_free rfl (fun same => by cases same)
  intro h₂ stage₂
  rw [wp_writeReg_polled rfl]
  apply And.intro
  · intro done
    have stage₃ := stage₂.poll done
    obtain ⟨new, log, -, addrs⟩ := stage₃.log
    refine ⟨fun late => Bool.false_ne_true (stage₃.passed false late),
      (.sdCmd, sdCmd c mode) :: new, congrArg ((Regs.sdCmd, sdCmd c mode) :: ·) log, ?_⟩
    rw [addresses_cons, if_neg (fun same => by cases same), addrs]
  · intro late
    exact ⟨stage₂.timeout late, stage₂.unsent⟩

/-- The response type is not known, the block size does not fit its register, or a poll times out. -/
def Refused (c : Cmd) (h : Hw) : Prop :=
  responseMode c = none ∨ 2 ^ 10 ≤ c.blocksize.toNat ∨ false ∈ h.polls.take 5

instance (c : Cmd) (h : Hw) : Decidable (Refused c h) := inferInstanceAs (Decidable (_ ∨ _ ∨ _))

/-- A data command is refused before it is issued, or its address is written once. -/
theorem cmdSubmit_spec {c : Cmd} (ready : c.status = .readyForSubmit)
    (data : c.flags.hasData = true) (h : Hw) :
    wp cmdSubmit
      (fun _ t => ¬ Refused c h ∧
        ∃ new, t.2.log = new ++ h.log ∧ addresses new = [dtranAddr c])
      (fun _ t => Refused c h ∧ Unsent h t.2) (c, h) := by
  rw [cmdSubmit]
  simp only [wp_bind, wp_get, wp_ite, wp_throw]
  refine ⟨fun other => absurd ready other, fun _ => ?_⟩
  cases mode : responseMode c with
  | none => exact ⟨Or.inl mode, (stage_start h).unsent⟩
  | some mode' =>
    rw [wp_bind, wp_onHw, if_pos data]
    refine (setupData_spec c h).mono ?_ ?_
    · intro _ h₁ post
      rcases post with ⟨small, stage⟩
      rw [wp_bind, wp_onHw]
      refine (sendCommand_spec c mode' stage).mono ?_ ?_
      · intro _ h₂ post
        rcases post with ⟨inTime, written⟩
        rw [wp_modify]
        refine ⟨?_, written⟩
        intro refused
        rcases refused with unknown | large | late
        · rw [mode] at unknown
          cases unknown
        · exact Nat.not_lt.mpr large small
        · exact inTime late
      · intro _ h₂ post
        exact ⟨Or.inr (Or.inr post.1), post.2⟩
    · intro _ h₁ post
      rcases post with ⟨large | late, unsent⟩
      · exact ⟨Or.inr (Or.inl large), unsent⟩
      · exact ⟨Or.inr (Or.inr (mem_take_mono (by decide) late)), unsent⟩

/-- A command that is not refused is sent. -/
theorem cmdSubmit_returns {c : Cmd} (ready : c.status = .readyForSubmit)
    (data : c.flags.hasData = true) {h : Hw} (accepted : ¬ Refused c h) :
    returns cmdSubmit (c, h) :=
  (cmdSubmit_spec ready data h).mono (fun _ _ _ => trivial)
    (fun _ _ post => absurd post.1 accepted)

/-! ## The address -/

/-- A command that was built for the address `addr`. -/
inductive Built (addr : U64) : Cmd → Prop
  | setup (c : Cmd) (size : U64) (cmdVal argVal blocksizeVal : U32) (dataVirtVal : U64) {c' : Cmd}
      (built : (do
        checkIoBuf addr size
        c.initData cmdVal argVal blocksizeVal addr dataVirtVal) = .ok c') : Built addr c'
  | inout (info : DeviceInfo) {c : Cmd} {b : Block} {rest : List Block}
      (blocks : c.blocks = b :: rest) (here : b.dmaAddr = addr)
      (data : (Device.transferBlockSdma info c).1.flags.hasData = true) :
      Built addr (Device.transferBlockSdma info c).1

/-- The submission throws before the command is issued, or the DMA engine gets the address. -/
def AddressIntact (addr : U64) (c : Cmd) (h : Hw) : Prop :=
  wp cmdSubmit
    (fun _ t => ∃ new, t.2.log = new ++ h.log ∧
      ∃ value, addresses new = [value] ∧ value.setWidth 64 = addr)
    (fun _ t => Unsent h t.2) (c, h)

/-- The largest address passes the check of the IO buffer. -/
theorem checkIoBuf_ok (phys size : U64) : checkIoBuf phys size = .ok () := by
  have accessible : dmaAccessible dmaLimit phys size = true := by
    rw [dmaAccessible, decide_eq_true_iff]
    exact ⟨BitVec.le_def.mpr (Nat.le_of_lt_succ phys.isLt),
      BitVec.le_def.mpr (Nat.le_of_lt_succ (phys + size - 1).isLt)⟩
  rw [checkIoBuf, accessible]
  rfl

/-- The command for the next block is ready, and still belongs to this block. -/
theorem transferBlockSdma_ready (info : DeviceInfo) {c : Cmd} {b : Block} {rest : List Block}
    (blocks : c.blocks = b :: rest) :
    (Device.transferBlockSdma info c).1.status = .readyForSubmit ∧
      (Device.transferBlockSdma info c).1.blocks = c.blocks := by
  rw [Device.transferBlockSdma, blocks]
  simp only
  by_cases single : b.numSectors = 1
  · rw [if_pos single]
    exact ⟨rfl, blocks⟩
  rw [if_neg single]
  by_cases count : info.hasCmd23 = true ∧ c.cmd ≠ Mmc.cmd23SetBlockCount
  · rw [if_pos count]
    exact ⟨rfl, blocks⟩
  rw [if_neg count, Device.markCmd12]
  by_cases auto : info.hasCmd23 = true
  · rw [if_pos auto]
    exact ⟨rfl, blocks⟩
  · rw [if_neg auto]
    exact ⟨rfl, blocks⟩

/-- The commands that the driver builds have the low half of the address. -/
theorem Built.spec {addr : U64} {c : Cmd} (built : Built addr c) :
    c.status = .readyForSubmit ∧ c.flags.hasData = true ∧ dtranAddr c = addr.setWidth 32 := by
  cases built with
  | setup c₀ size cmdVal argVal blocksizeVal dataVirtVal built =>
    rw [checkIoBuf_ok, Cmd.initData_ok] at built
    rw [← Except.ok.inj built]
    exact ⟨rfl, rfl, rfl⟩
  | inout info blocks here data =>
    obtain ⟨ready, same⟩ := transferBlockSdma_ready info blocks
    refine ⟨ready, data, ?_⟩
    rw [dtranAddr, same, blocks, ← here]

/-- The engine gets 32 bits of the address. -/
theorem addressIntact_of_built {addr : U64} {c : Cmd} (built : Built addr c) (h : Hw) :
    AddressIntact addr c h ↔ (addr.setWidth 32).setWidth 64 = addr ∨ Refused c h := by
  obtain ⟨ready, data, written⟩ := built.spec
  have spec := cmdSubmit_spec ready data h
  rw [AddressIntact]
  unfold wp at spec ⊢
  cases outcome : cmdSubmit (c, h) with
  | error e t =>
    rw [outcome] at spec
    exact ⟨fun _ => Or.inr spec.1, fun _ => spec.2⟩
  | ok _ t =>
    rw [outcome] at spec
    rcases spec with ⟨accepted, new, log, addrs⟩
    rw [written] at addrs
    apply Iff.intro
    · intro intact
      rcases intact with ⟨new', log', value, addrs', same⟩
      rw [List.append_cancel_right (log'.symm.trans log), addrs] at addrs'
      rw [← List.cons.inj addrs' |>.1] at same
      exact Or.inl same
    · intro fits
      rcases fits with small | refused
      · exact ⟨new, log, _, addrs, small⟩
      · exact absurd refused accepted

/-- The law holds if and only if the address has 32 bits, or the command is refused for another
reason. -/
theorem address_intact_iff {addr : U64} {c : Cmd} (built : Built addr c) (h : Hw) :
    AddressIntact addr c h ↔ addr.toNat < 2 ^ 32 ∨ Refused c h := by
  have narrow : (addr.setWidth 32).setWidth 64 = addr ↔ addr.toNat < 2 ^ 32 := by
    rw [← BitVec.toNat_inj, BitVec.toNat_setWidth, BitVec.toNat_setWidth]
    have bound := addr.isLt
    omega
  rw [addressIntact_of_built built, narrow]

/-- CMD8 for a buffer at this address. -/
def readExtCsd (addr : U64) : Cmd :=
  { cmd := Mmc.cmd8SendExtCsd
    flags := { hasData := true }
    blockcnt := 1
    blocksize := 512
    dataPhys := addr.setWidth 32
    status := .readyForSubmit }

theorem readExtCsd_built (addr : U64) : Built addr (readExtCsd addr) :=
  .setup {} 512 Mmc.cmd8SendExtCsd 0 512 0 (by rw [checkIoBuf_ok, Cmd.initData_ok]; rfl)

theorem low_address_intact : AddressIntact 0xfffff000 (readExtCsd 0xfffff000) {} :=
  (address_intact_iff (readExtCsd_built 0xfffff000) {}).mpr (Or.inl (by decide))

/-- The driver gets an IO buffer above 4 GiB, and the DMA engine another address. -/
theorem high_address_truncated : ¬ AddressIntact 0x100001000 (readExtCsd 0x100001000) {} := by
  rw [addressIntact_of_built (readExtCsd_built 0x100001000)]
  decide

end Sdhi

end Emmc
